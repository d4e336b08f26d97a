import PipelineCache.Error

/-! Directories, and where a path leads among them. A path is followed part by part, and each part
but the last has to lead to a directory; so a name and the way back out of it end where they began
only if a directory of that name exists. Making the directories of a path makes what was missing
along it and keeps the rest, and afterwards the path can be followed to its end. -/

namespace PipelineCache

/-- A place as it is reached from the directory where paths begin: up through so many parents, then
down through names, of which the last stands first. The number of names tells most places apart
before the names are compared. -/
structure Place where
  above : Nat := 0
  depth : Nat := 0
  names : List (List Char) := []
  deriving DecidableEq

namespace Place

def outer (place : Place) : Place :=
  match place.names with
  | [] => { place with above := place.above + 1 }
  | _ :: names => { place with depth := place.depth - 1, names := names }

def inner (place : Place) (name : List Char) : Place :=
  { place with depth := place.depth + 1, names := name :: place.names }

theorem outer_inner (place : Place) (name : List Char) : (place.inner name).outer = place := rfl

end Place

/-- The directories there are besides the one where paths begin and its parents. -/
structure Directories where
  places : List Place := []
  deriving DecidableEq

namespace Directories

/-- The greatest length of a name in bytes. -/
def nameLimit : Nat := 255

def isTooLong (name : List Char) : Bool := nameLimit < (String.ofList name).utf8ByteSize

/-- Where one part of a path leads from a directory. Nothing and a dot lead nowhere else, and two
dots lead to the parent. -/
def follow (directories : Directories) (place : Place) (part : List Char) :
    Except SystemFailure Place :=
  if part = [] ∨ part = ['.'] then .ok place
  else if part = ['.', '.'] then .ok place.outer
  else if isTooLong part then .error .nameTooLong
  else if place.inner part ∈ directories.places then .ok (place.inner part)
  else .error .noSuchFile

/-- The directory to which the parts of a path lead. -/
def walk (directories : Directories) (place : Place) : List (List Char) → Except SystemFailure Place
  | [] => .ok place
  | part :: parts =>
      match directories.follow place part with
      | .ok next => directories.walk next parts
      | .error failure => .error failure

/-- Makes the directories along a path that are missing, up to the first that cannot be made. -/
def make (directories : Directories) (place : Place) :
    List (List Char) → Directories × Option SystemFailure
  | [] => (directories, none)
  | part :: parts =>
      match directories.follow place part with
      | .ok next => directories.make next parts
      | .error .noSuchFile =>
          let next := place.inner part
          Directories.make ⟨next :: directories.places⟩ next parts
      | .error failure => (directories, some failure)

/-- Why no file can be created at the end of a path where there is none, if so. Only a name that no
slash follows can become a file. -/
def obstacle? (directories : Directories) (parts : List (List Char)) : Option SystemFailure :=
  match parts.reverse.dropWhile (· == []) with
  | [] => some .isADirectory
  | last :: before =>
      match directories.walk {} before.reverse with
      | .error failure => some failure
      | .ok place =>
          if parts.getLast? = some [] then some .isADirectory
          else
            match directories.follow place last with
            | .ok _ => some .isADirectory
            | .error .noSuchFile => none
            | .error failure => some failure

/-- More directories change nothing about where a part leads that led somewhere. -/
theorem follow_of_subset {directories later : Directories} {place next : Place}
    {part : List Char} (within : directories.places ⊆ later.places)
    (found : directories.follow place part = .ok next) : later.follow place part = .ok next := by
  unfold follow at found ⊢
  split at found
  · simp_all
  · split at found
    · simp_all
    · split at found
      · cases found
      · split at found
        · rename_i member
          have kept := within member
          simp_all
        · cases found

theorem places_subset_make (directories : Directories) (place : Place) (parts : List (List Char)) :
    directories.places ⊆ (directories.make place parts).1.places := by
  induction parts generalizing directories place with
  | nil => exact List.Subset.refl _
  | cons part parts ih =>
    unfold make
    split
    · exact ih _ _
    · exact fun _ member => ih ⟨_⟩ _ (List.mem_cons_of_mem _ member)
    · exact List.Subset.refl _

theorem follow_cons {directories : Directories} {place : Place} {part : List Char}
    (missing : directories.follow place part = .error .noSuchFile) :
    Directories.follow ⟨place.inner part :: directories.places⟩ place part =
      .ok (place.inner part) := by
  unfold follow at missing ⊢
  split at missing
  · cases missing
  · split at missing
    · cases missing
    · split at missing
      · cases missing
      · simp [*]

/-- Once its directories were made, a path leads to its end. -/
theorem walk_make {directories later : Directories} {place : Place} {parts : List (List Char)}
    (made : directories.make place parts = (later, none)) :
    ∃ last, later.walk place parts = .ok last := by
  induction parts generalizing directories place with
  | nil => exact ⟨place, rfl⟩
  | cons part parts ih =>
    unfold make at made
    split at made
    · rename_i next found
      have within : directories.places ⊆ later.places := by
        simpa [made] using places_subset_make directories next parts
      simpa [walk, follow_of_subset within found] using ih made
    · rename_i missing
      have within := places_subset_make ⟨place.inner part :: directories.places⟩
        (place.inner part) parts
      rw [made] at within
      simpa [walk, follow_of_subset within (follow_cons missing)] using ih made
    · cases made

end Directories

end PipelineCache

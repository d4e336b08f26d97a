import PipelineCache.Text.Pieces

/-! Paths as text: the parts between the slashes, the components among them, and the extension of
the last component. -/

namespace PipelineCache.Path

/-- What stands between the slashes, empty parts and dots with it. -/
def parts (path : String) : List (List Char) := Text.pieces '/' path.toList

/-- The components of a path: its parts without the empty ones and without the dots that name the
directory they stand in. -/
def components (path : String) : List (List Char) :=
  (parts path).filter fun part => part ≠ [] ∧ part ≠ ['.']

def lastComponent (path : String) : List Char := (components path).getLast?.getD []

/-- The components of the path to the directory in which a path ends. -/
def parents (path : String) : List (List Char) := (components path).dropLast

/-- What stands behind the last dot of the last component, unless the component begins there. -/
def extension? (path : String) : Option String :=
  let name := lastComponent path
  let after := (name.reverse.takeWhile (· != '.')).reverse
  if name = ['.', '.'] ∨ name.length ≤ after.length + 1 then none
  else some (String.ofList after)

/-- The greatest length of a path in bytes that the file system takes, counted from the directory
where paths begin. -/
def limit : Nat := 4079

def isTooLong (path : String) : Bool := limit < path.utf8ByteSize

theorem component_ne_nil_dot {path : String} {part : List Char} (member : part ∈ components path) :
    part ≠ [] ∧ part ≠ ['.'] := by
  simpa using (List.mem_filter.mp member).2

theorem slash_not_mem_component {path : String} {part : List Char}
    (member : part ∈ components path) : '/' ∉ part :=
  Text.not_mem_of_mem_pieces (List.mem_filter.mp member).1

end PipelineCache.Path

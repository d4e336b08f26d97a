/-! A text cut at each occurrence of a separator, and the lines of a text. A cut loses nothing but
the separators: with them between the pieces the text is there again. -/

namespace PipelineCache.Text

/-- What stands before, between and behind the separators. -/
def pieces (separator : Char) : List Char → List (List Char)
  | [] => [[]]
  | char :: rest =>
      if char = separator then [] :: pieces separator rest
      else (pieces separator rest).modifyHead (char :: ·)

theorem pieces_ne_nil (separator : Char) (text : List Char) : pieces separator text ≠ [] := by
  induction text with
  | nil => simp [pieces]
  | cons char rest ih =>
    unfold pieces
    split
    · simp
    · simpa using ih

theorem not_mem_of_mem_pieces {separator : Char} {text piece : List Char}
    (member : piece ∈ pieces separator text) : separator ∉ piece := by
  induction text generalizing piece with
  | nil => simp_all [pieces]
  | cons char rest ih =>
    unfold pieces at member
    split at member
    · rcases List.mem_cons.mp member with rfl | later
      · simp
      · exact ih later
    · rename_i different
      cases found : pieces separator rest with
      | nil => exact absurd found (pieces_ne_nil separator rest)
      | cons first others =>
        rw [found, List.modifyHead_cons] at member
        rcases List.mem_cons.mp member with rfl | later
        · have within := ih (found ▸ List.mem_cons_self)
          simp [within, Ne.symm different]
        · exact ih (found ▸ List.mem_cons_of_mem _ later)

theorem intercalate_pieces (separator : Char) (text : List Char) :
    [separator].intercalate (pieces separator text) = text := by
  induction text with
  | nil => rfl
  | cons char rest ih =>
    cases found : pieces separator rest with
    | nil => exact absurd found (pieces_ne_nil separator rest)
    | cons first others =>
      rw [found] at ih
      unfold pieces
      split
      · rename_i same
        rw [found, ← ih, same]
        simp [List.intercalate]
      · rw [found, ← ih]
        cases others <;> simp [List.intercalate]

theorem pieces_of_not_mem {separator : Char} {text : List Char} (absent : separator ∉ text) :
    pieces separator text = [text] := by
  induction text with
  | nil => rfl
  | cons char rest ih =>
    have different : char ≠ separator := fun same => absent (same ▸ List.mem_cons_self)
    have later : separator ∉ rest := fun member => absent (List.mem_cons_of_mem _ member)
    rw [pieces, if_neg different, ih later, List.modifyHead_cons]

/-- Each separator is a place to cut, whatever stands around it. -/
theorem pieces_append_cons (separator : Char) (front rest : List Char) :
    pieces separator (front ++ separator :: rest) =
      pieces separator front ++ pieces separator rest := by
  induction front with
  | nil => simp [pieces]
  | cons char front ih =>
    rw [List.cons_append, pieces, ih, pieces]
    split
    · rw [List.cons_append]
    · cases found : pieces separator front with
      | nil => exact absurd found (pieces_ne_nil separator front)
      | cons first others => simp

/-- Puts four blanks before each line but the first. -/
def indented (text : List Char) : List Char :=
  text.flatMap fun char => if char = '\n' then '\n' :: List.replicate 4 ' ' else [char]

/-- A line without the carriage return that may stand before its line feed. -/
def withoutReturn (line : List Char) : List Char :=
  if line.getLast? = some '\r' then line.dropLast else line

/-- The lines of a text. What follows the last line feed is a line unless it is empty. -/
def lines (text : String) : List String :=
  let parts := pieces '\n' text.toList
  let ended := parts.dropLast.map withoutReturn
  let last := (parts.getLast?.filter (· ≠ [])).toList
  (ended ++ last).map String.ofList

end PipelineCache.Text

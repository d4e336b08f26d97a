/-! Sets of characters, given by closed ranges of code points. -/

namespace PipelineCache.Text

/-- The first and the last code point of each range. -/
abbrev CodeRanges := List (Nat × Nat)

namespace CodeRanges

def holds (ranges : CodeRanges) (char : Char) : Bool :=
  ranges.any fun range => decide (range.1 ≤ char.toNat) && decide (char.toNat ≤ range.2)

/-- Whether no range is empty, and each ends before the next one begins. -/
def isAscending : CodeRanges → Bool
  | [] => true
  | [range] => decide (range.1 ≤ range.2)
  | range :: next :: rest =>
      decide (range.1 ≤ range.2) && decide (range.2 < next.1) && isAscending (next :: rest)

/-- How many code points ascending ranges hold. -/
def size (ranges : CodeRanges) : Nat :=
  ranges.foldl (fun total range => total + (range.2 + 1 - range.1)) 0

theorem holds_iff (ranges : CodeRanges) (char : Char) :
    ranges.holds char = true ↔
      ∃ range ∈ ranges, range.1 ≤ char.toNat ∧ char.toNat ≤ range.2 := by
  simp [holds]

end CodeRanges

end PipelineCache.Text

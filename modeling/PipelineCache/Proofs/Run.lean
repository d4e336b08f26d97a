/-! Runs of a system that moves from state to state, where not every move is possible in every state. -/

namespace PipelineCache.Run

variable {State Move : Type} {move? : State → Move → Option State} {start final : State}
  {move : Move} {moves earlier later : List Move}

/-- What moves made one after the other lead to, if each is possible. -/
def final? (move? : State → Move → Option State) (start : State) : List Move → Option State
  | [] => some start
  | move :: moves => (move? start move).bind fun next => final? move? next moves

theorem final?_cons_eq_some_iff : final? move? start (move :: moves) = some final ↔
    ∃ next, move? start move = some next ∧ final? move? next moves = some final :=
  Option.bind_eq_some_iff

theorem final?_append_eq_some_iff : final? move? start (earlier ++ later) = some final ↔
    ∃ middle, final? move? start earlier = some middle ∧ final? move? middle later = some final := by
  induction earlier generalizing start with
  | nil => simp [final?]
  | cons move earlier ih =>
      simp only [List.cons_append, final?_cons_eq_some_iff, ih]
      constructor
      · rintro ⟨next, moved, middle, first, rest⟩
        exact ⟨middle, ⟨next, moved, first⟩, rest⟩
      · rintro ⟨middle, ⟨next, moved, first⟩, rest⟩
        exact ⟨next, moved, middle, first, rest⟩

/-- The moves that can be made one after the other, each between the states before and after it. -/
def trace (move? : State → Move → Option State) (start : State) :
    List Move → List (State × Move × State)
  | [] => []
  | move :: moves =>
      match move? start move with
      | none => []
      | some next => (start, move, next) :: trace move? next moves

theorem trace_append_singleton {middle next : State} (ran : final? move? start moves = some middle)
    (moved : move? middle move = some next) :
    trace move? start (moves ++ [move]) = trace move? start moves ++ [(middle, move, next)] := by
  induction moves generalizing start with
  | nil =>
      cases ran
      simp [trace, moved]
  | cons first moves ih =>
      obtain ⟨second, stepped, rest⟩ := final?_cons_eq_some_iff.mp ran
      simp only [List.cons_append, trace, stepped]
      rw [ih rest]

/-- What every move keeps, every run keeps. -/
theorem kept {motive : State → Prop}
    (kept : ∀ before move after, motive before → move? before move = some after → motive after)
    (initial : motive start) (ran : final? move? start moves = some final) : motive final := by
  induction moves generalizing start with
  | nil =>
      cases ran
      exact initial
  | cons move moves ih =>
      obtain ⟨next, moved, rest⟩ := final?_cons_eq_some_iff.mp ran
      exact ih (kept start move next initial moved) rest

/-- What every move of a certain kind keeps, every run of such moves keeps. -/
theorem kept_of_forall {motive : State → Prop} {allowed : Move → Prop}
    (kept : ∀ before move after, allowed move → motive before → move? before move = some after →
      motive after)
    (initial : motive start) (all : ∀ move ∈ moves, allowed move)
    (ran : final? move? start moves = some final) : motive final := by
  induction moves generalizing start with
  | nil =>
      cases ran
      exact initial
  | cons move moves ih =>
      obtain ⟨first, others⟩ := List.forall_mem_cons.mp all
      obtain ⟨next, moved, rest⟩ := final?_cons_eq_some_iff.mp ran
      exact ih (kept start move next first initial moved) others rest

end PipelineCache.Run

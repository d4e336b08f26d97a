import Mathlib.Data.List.Induction
import PipelineCache.Proofs.Traffic.Combinations

/-! The tries to set the fast handle of an instance. The first one succeeds and every later one fails,
whoever makes them, and nothing else changes a fast handle. -/

namespace PipelineCache

namespace Store

variable {before after store : Store} {entry : InstanceId} {item : Instance}
  {handle : PipelineHandle}

/-- Whatever stands in the store stood there before, or is new and has no fast handle. -/
def Spares (before after : Store) : Prop :=
  ∀ entry item, after.get? entry = some item →
    before.get? entry = some item ∨ (before.cells.length ≤ entry ∧ item.fast = none)

theorem Spares.refl (store : Store) : store.Spares store := fun _ _ present => Or.inl present

theorem spares_add (store : Store) {item : Instance} (unset : item.fast = none) :
    store.Spares (store.add item).2 := by
  intro entry other present
  rw [get?_add] at present
  split at present
  · rename_i newest
    cases present
    exact Or.inr ⟨Nat.le_of_eq newest.symm, unset⟩
  · exact Or.inl present

theorem spares_hold (store : Store) (entry : InstanceId) : store.Spares (store.hold entry) :=
  fun other _ present => Or.inl (get?_hold store entry other ▸ present)

theorem spares_release (store : Store) (entry : InstanceId) :
    store.Spares (store.release entry).2 :=
  fun _ _ present => Or.inl (get?_release_eq_some present)

theorem get?_releaseAll_eq_some {entries : List InstanceId}
    (present : (store.releaseAll entries).2.get? entry = some item) :
    store.get? entry = some item := by
  induction entries generalizing store with
  | nil => exact present
  | cons first rest ih => exact get?_release_eq_some (ih present)

theorem spares_releaseAll (store : Store) (entries : List InstanceId) :
    store.Spares (store.releaseAll entries).2 :=
  fun _ _ present => Or.inl (get?_releaseAll_eq_some present)

theorem isSome_install_iff : (store.install entry handle).isSome ↔
    ∃ item, store.get? entry = some item ∧ item.fast = none := by
  rw [Option.isSome_iff_exists]
  constructor
  · rintro ⟨changed, set⟩
    obtain ⟨item, installed, present, placed, _⟩ := install_eq_some_iff.mp set
    exact ⟨item, present, (Instance.install_eq_some_iff.mp placed).1⟩
  · rintro ⟨item, present, unset⟩
    exact ⟨_, install_eq_some_iff.mpr
      ⟨item, _, present, Instance.install_eq_some_iff.mpr ⟨unset, rfl⟩, rfl⟩⟩

/-- What became of the tries to set the fast handle of an instance, oldest first: each is a handle and
whether it was set. -/
def Tried (store : Store) (entry : InstanceId) : List (PipelineHandle × Bool) → Prop
  | [] => ∀ item, store.get? entry = some item → item.fast = none
  | first :: later => first.2 = true ∧ (∀ attempt ∈ later, attempt.2 = false) ∧
      entry < store.cells.length ∧ ∀ item, store.get? entry = some item → item.fast = some first.1

theorem Tried.spared {attempts : List (PipelineHandle × Bool)} (tried : before.Tried entry attempts)
    (spares : before.Spares after) (grows : before.cells.length ≤ after.cells.length) :
    after.Tried entry attempts := by
  cases attempts with
  | nil =>
      intro item present
      rcases spares entry item present with old | ⟨_, unset⟩
      · exact tried item old
      · exact unset
  | cons first later =>
      obtain ⟨won, lost, inside, set⟩ := tried
      refine ⟨won, lost, Nat.lt_of_lt_of_le inside grows, fun item present => ?_⟩
      rcases spares entry item present with old | ⟨outside, _⟩
      · exact set item old
      · exact absurd inside (Nat.not_lt.mpr outside)

theorem Tried.won {attempts : List (PipelineHandle × Bool)} (tried : before.Tried entry attempts)
    (set : before.install entry handle = some after) :
    after.Tried entry (attempts ++ [(handle, true)]) := by
  obtain ⟨item, installed, present, placed, rfl⟩ := install_eq_some_iff.mp set
  obtain ⟨unset, rfl⟩ := Instance.install_eq_some_iff.mp placed
  cases attempts with
  | nil =>
      refine ⟨rfl, ?_, ?_, fun later found => ?_⟩
      · simp
      · rw [length_cells_put]
        exact lt_of_get? present
      · rw [get?_put, if_pos rfl, present] at found
        cases found
        rfl
  | cons first rest =>
      have taken := tried.2.2.2 item present
      rw [unset] at taken
      cases taken

theorem Tried.lost {attempts : List (PipelineHandle × Bool)} (tried : store.Tried entry attempts)
    (present : store.get? entry = some item) (taken : item.fast.isSome) :
    store.Tried entry (attempts ++ [(handle, false)]) := by
  cases attempts with
  | nil =>
      rw [tried item present] at taken
      cases taken
  | cons first rest =>
      obtain ⟨won, others, inside, set⟩ := tried
      refine ⟨won, fun attempt member => ?_, inside, set⟩
      rcases List.mem_append.mp member with old | newest
      · exact others attempt old
      · rw [List.mem_singleton.mp newest]

/-- A try on one instance leaves the others alone. -/
theorem Tried.elsewhere {attempts : List (PipelineHandle × Bool)} {other : InstanceId}
    (tried : before.Tried entry attempts) (set : before.install other handle = some after)
    (different : other ≠ entry) : after.Tried entry attempts := by
  obtain ⟨item, installed, _, _, rfl⟩ := install_eq_some_iff.mp set
  have same : (before.put other installed).get? entry = before.get? entry := by
    rw [get?_put, if_neg (Ne.symm different)]
  cases attempts with
  | nil => exact fun item present => tried item (same ▸ present)
  | cons first rest =>
      obtain ⟨won, others, inside, kept⟩ := tried
      refine ⟨won, others, ?_, fun item present => kept item (same ▸ present)⟩
      rwa [length_cells_put]

/-- Whatever comes of a try, it is recorded with it. -/
theorem Tried.attempted {attempts : List (PipelineHandle × Bool)} {target : InstanceId}
    (tried : store.Tried entry attempts) (present : store.get? target = some item)
    (handle : PipelineHandle) :
    ((store.install target handle).getD store).Tried entry (attempts ++
      if target = entry then [(handle, (store.install target handle).isSome)] else []) := by
  cases set : store.install target handle with
  | some changed =>
      by_cases same : target = entry
      · subst same
        rw [if_pos rfl]
        exact tried.won set
      · rw [if_neg same, List.append_nil]
        exact tried.elsewhere set same
  | none =>
      by_cases same : target = entry
      · subst same
        rw [if_pos rfl]
        refine tried.lost present (Option.isSome_iff_ne_none.mpr fun unset => ?_)
        have wins : (store.install target handle).isSome :=
          isSome_install_iff.mpr ⟨item, present, unset⟩
        rw [set] at wins
        cases wins
      · rw [if_neg same, List.append_nil]
        exact tried

end Store

namespace Call

variable {call next : Call} {shared changed : Shared} {entry : InstanceId} {handle : PipelineHandle}

/-- The handle that a call is about to set, and the instance that it is meant for. -/
def setting? : Call → Option (InstanceId × PipelineHandle)
  | .optimize ⟨entry, .installing handle⟩ => some (entry, handle)
  | _ => none

theorem setting?_eq_some_iff :
    call.setting? = some (entry, handle) ↔ call = .optimize ⟨entry, .installing handle⟩ := by
  constructor
  · intro sets
    unfold setting? at sets
    split at sets
    · cases sets
      rfl
    · cases sets
  · rintro rfl
    rfl

theorem store_step_of_setting? (sets : call.setting? = some (entry, handle))
    (alive : ∃ item, shared.store.get? entry = some item) :
    (call.step shared).2.1.store = (shared.store.install entry handle).getD shared.store := by
  obtain ⟨item, present⟩ := alive
  obtain rfl := setting?_eq_some_iff.mp sets
  simp only [step, Optimization.step, present]
  cases shared.store.install entry handle <;> rfl

theorem Effect.spares {destroyed : List PipelineHandle}
    (effect : call.Effect shared next changed destroyed) (sets : call.setting? = none) :
    shared.store.Spares changed.store := by
  cases effect with
  | quiet store _ _ _ => exact store ▸ .refl _
  | enlists state pass handle _ _ store _ _ _ => exact store ▸ Store.spares_add _ rfl
  | installs entry handle position _ _ _ _ =>
      rw [setting?_eq_some_iff.mpr position] at sets
      cases sets
  | adopts entry handle item _ _ _ store _ _ _ => exact store ▸ Store.spares_hold _ _
  | discards handle store _ _ _ _ => exact store ▸ .refl _

end Call

namespace Traffic

variable {start before after traffic : Traffic} {moves : List Move} {move : Move} {index : Nat}
  {call : Call} {entry : InstanceId} {earlier : List (PipelineHandle × Bool)}

/-- The try to set a fast handle that a move makes: the instance, the handle, and whether it is set. -/
def attempt? (traffic : Traffic) (move : Move) : Option (InstanceId × PipelineHandle × Bool) :=
  match move with
  | .offer entry handle =>
      some (entry, handle, (traffic.shared.store.install entry handle).isSome)
  | .step index =>
      (traffic.calls[index]?.bind Call.setting?).map fun (entry, handle) =>
        (entry, handle, (traffic.shared.store.install entry handle).isSome)
  | _ => none

def attemptsOn (traffic : Traffic) (entry : InstanceId) (move : Move) :
    List (PipelineHandle × Bool) :=
  match traffic.attempt? move with
  | some (target, attempt) => if target = entry then [attempt] else []
  | none => []

/-- All tries on one instance that the moves of a run make, oldest first. -/
def attempts (start : Traffic) (moves : List Move) (entry : InstanceId) :
    List (PipelineHandle × Bool) :=
  (Run.trace move? start moves).flatMap fun (before, move, _) => before.attemptsOn entry move

/-- A call records its try, and does nothing else to fast handles. -/
theorem tried_advance (accounted : before.Accounted) (found : before.calls[index]? = some call)
    (running : call.isFinished = false) (tried : before.shared.store.Tried entry earlier) :
    (before.advance index call).shared.store.Tried entry
      (earlier ++ before.attemptsOn entry (.step index)) := by
  have effect := call.effect_step before.shared running (accounted.borrowed found)
  rw [shared_advance]
  cases sets : call.setting? with
  | none =>
      simp only [attemptsOn, attempt?, found, Option.bind_some, sets, Option.map_none,
        List.append_nil]
      exact tried.spared (effect.spares sets) effect.grows.store.length_le
  | some target =>
      obtain ⟨target, handle⟩ := target
      have alive : ∃ item, before.shared.store.get? target = some item := by
        apply accounted.borrowed found
        obtain rfl := Call.setting?_eq_some_iff.mp sets
        exact List.mem_singleton.mpr rfl
      rw [Call.store_step_of_setting? sets alive]
      simp only [attemptsOn, attempt?, found, Option.bind_some, sets, Option.map_some]
      obtain ⟨item, present⟩ := alive
      exact tried.attempted present handle

theorem tried_moved (accounted : before.Accounted) (moved : Moved before move after)
    (tried : before.shared.store.Tried entry earlier) :
    after.shared.store.Tried entry (earlier ++ before.attemptsOn entry move) := by
  have quietly (spares : before.shared.store.Spares after.shared.store) :
      after.shared.store.Tried entry (earlier ++ []) := by
    rw [List.append_nil]
    exact tried.spared spares (grows_moved accounted moved).store.length_le
  cases moved with
  | step index call found running => exact tried_advance accounted found running tried
  | offer target handle item present _ =>
      have store : (before.offer target handle).shared.store =
          (before.shared.store.install target handle).getD before.shared.store := by
        unfold offer
        cases before.shared.store.install target handle <;> rfl
      rw [store]
      exact tried.attempted present handle
  | build state pass => exact quietly (Store.spares_add _ rfl)
  | share target _ _ => exact quietly (Store.spares_hold _ _)
  | drop target _ => exact quietly (Store.spares_release _ _)
  | close _ _ => exact quietly (Store.spares_releaseAll _ _)
  | _ => exact quietly (.refl _)

theorem tried_run {shaders : ShaderSet} {optimizes reports : Bool}
    (ran : (Traffic.start shaders optimizes reports).run? moves = some traffic)
    (entry : InstanceId) : traffic.shared.store.Tried entry
      ((Traffic.start shaders optimizes reports).attempts moves entry) := by
  induction moves using List.reverseRecOn generalizing traffic with
  | nil =>
      cases ran
      intro item present
      simp [Traffic.start, Store.get?, Store.held?] at present
  | append_singleton moves move ih =>
      obtain ⟨before, first, last⟩ := Run.final?_append_eq_some_iff.mp ran
      obtain ⟨next, moved, done⟩ := Run.final?_cons_eq_some_iff.mp last
      obtain rfl : next = traffic := Option.some.inj done
      rw [Traffic.attempts, Run.trace_append_singleton first moved, List.flatMap_append,
        List.flatMap_singleton]
      exact tried_moved (accounted_run first) (moved_of_move? moved) (ih first)

end Traffic

end PipelineCache

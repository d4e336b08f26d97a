import PipelineCache.Proofs.Worker.Channel

/-! Those who shut a pool down. The first to come claims all workers and joins one after the other, except
the one on whose thread it runs itself; whoever comes later finds the handles of the workers locked until
then. So when a shutdown returns, all workers have ended but those that have called one themselves. -/

namespace PipelineCache

namespace Errand

def isShutdown : Errand → Bool
  | shutdown _ => true
  | _ => false

/-- The workers that a shutdown has yet to join. -/
def awaits : Errand → List Nat
  | shutdown (.joining workers) => workers
  | _ => []

theorem awaits_woken (errand : Errand) : errand.woken.awaits = errand.awaits := by
  cases errand with
  | wait since stage => cases stage <;> rfl
  | _ => rfl

theorem awaits_eq_nil {errand : Errand} (without : errand.isJoining = false) : errand.awaits = [] := by
  cases errand with
  | shutdown stage => cases stage <;> first | rfl | cases without
  | _ => rfl

end Errand

/-- The worker on whose thread a shutdown was called. -/
def PoolCall.stopper? (call : PoolCall) : Option Nat :=
  if call.errand.isShutdown then call.host else none

theorem PoolCall.stopper?_woken (call : PoolCall) :
    PoolCall.stopper? { call with errand := call.errand.woken } = call.stopper? := by
  obtain ⟨errand, host⟩ := call
  cases errand with
  | wait since stage => cases stage <;> rfl
  | _ => rfl

namespace Dispatch

variable {before after dispatch : Dispatch} {pool changed : Pool} {worker index : Nat} {call : PoolCall}
  {errand current : Errand} {job : Job} {host : Option Nat}

def stoppers (dispatch : Dispatch) : List (Option Nat) := dispatch.calls.map PoolCall.stopper?

def awaited (dispatch : Dispatch) : List Nat := dispatch.calls.flatMap fun call => call.errand.awaits

/-- A worker has ended, or has called a shutdown itself and need not be waited for. -/
def IsGone (dispatch : Dispatch) (pool : Pool) (worker : Nat) : Prop :=
  pool.workers[worker]? = some .ended ∨ some worker ∈ dispatch.stoppers

/-- A worker is gone, or somebody will join it or is about to. -/
structure Joined (dispatch : Dispatch) (pool : Pool) : Prop where
  awaited : ∀ worker < pool.workers.length,
    dispatch.IsGone pool worker ∨ worker ∈ dispatch.unclaimed ∨ worker ∈ dispatch.awaited
  claimed : ∀ call ∈ dispatch.calls, call.errand.isJoining = true → dispatch.unclaimed = []
  returned : ∀ call ∈ dispatch.calls, call.errand = .shutdown .returned →
    ∀ worker < pool.workers.length, dispatch.IsGone pool worker

theorem joined_start (engine : Engine) (workers : Nat) :
    (start engine workers).Joined (.ofSize workers) where
  awaited worker less := by
    refine .inr (.inl ?_)
    simpa [start, Pool.ofSize] using less
  claimed := by simp [start]
  returned := by simp [start]

@[simp] theorem stoppers_notify (dispatch : Dispatch) (pool : Pool) :
    (dispatch.notify pool).stoppers = dispatch.stoppers := by
  unfold notify
  split
  · simp [stoppers, wake, Function.comp_def, PoolCall.stopper?_woken]
  · rfl

@[simp] theorem awaited_notify (dispatch : Dispatch) (pool : Pool) :
    (dispatch.notify pool).awaited = dispatch.awaited := by
  unfold notify
  split
  · simp [awaited, wake, List.flatMap_map, Errand.awaits_woken]
  · rfl

theorem stoppers_replace (found : before.calls[index]? = some call)
    (same : errand.isShutdown = call.errand.isShutdown) :
    (before.calls.set index { call with errand := errand }).map PoolCall.stopper? =
      before.stoppers := by
  have unchanged : PoolCall.stopper? { call with errand := errand } = call.stopper? := by
    simp only [PoolCall.stopper?, same]
  have there : before.stoppers[index]? = some call.stopper? := by simp [stoppers, found]
  obtain ⟨inside, equal⟩ := List.getElem?_eq_some_iff.mp there
  rw [List.map_set, unchanged, ← equal]
  exact List.set_getElem_self inside

theorem stoppers_proceed (found : before.calls[index]? = some ⟨current, host⟩)
    (proceeded : Proceeded before pool host current errand changed) :
    (before.proceed index ⟨current, host⟩ errand changed).stoppers = before.stoppers := by
  cases proceeded with
  | retracts job => exact (stoppers_notify _ _).trans (stoppers_replace found rfl)
  | _ => exact stoppers_replace found rfl

/-- Whoever has called a shutdown has called it for ever. -/
theorem stoppers_later (moved : Moved before pool after changed) :
    before.stoppers ⊆ after.stoppers := by
  cases moved with
  | calls request host => simp [stoppers]
  | proceeds index host current errand changed found proceeded =>
      rw [stoppers_proceed found proceeded]
      exact List.Subset.refl _
  | stirs index since host found =>
      have same : (before.calls.set index ⟨.wait since .checking, host⟩).map PoolCall.stopper? =
          before.stoppers := stoppers_replace found rfl
      exact same ▸ List.Subset.refl _
  | works worker engine after changed worked =>
      cases worked with
      | counts stands =>
          rw [stoppers_notify]
          exact List.Subset.refl _
      | _ => exact List.Subset.refl _
  | elsewhere engine => exact List.Subset.refl _

/-- A worker that has ended does nothing any more. -/
theorem Worked.ended_later (worked : Worked before pool worker after changed) :
    changed.workers.length = pool.workers.length ∧
      ∀ other : Nat, pool.workers[other]? = some .ended → changed.workers[other]? = some .ended := by
  have later {position moved : WorkerPosition} (stands : pool.workers[worker]? = some position)
      (runs : position ≠ .ended) (other : Nat) (ended : pool.workers[other]? = some .ended) :
      (pool.workers.set worker moved)[other]? = some .ended := by
    rw [List.getElem?_set_ne, ended]
    rintro rfl
    rw [stands] at ended
    exact runs (Option.some.inj ended)
  cases worked with
  | rests => exact ⟨rfl, fun _ => id⟩
  | ends stands _ _ => exact ⟨List.length_set, later stands nofun⟩
  | takes job jobs stands _ => exact ⟨List.length_set, later stands nofun⟩
  | marks job marks mark position moved stands has busy _ _ =>
      exact ⟨List.length_set, later stands (by rintro rfl; cases busy)⟩
  | passes position moved stands busy _ _ =>
      exact ⟨List.length_set, later stands (by rintro rfl; cases busy)⟩
  | counts stands => exact ⟨List.length_set, later stands nofun⟩

theorem Moved.ended_later (moved : Moved before pool after changed) :
    changed.workers.length = pool.workers.length ∧
      ∀ other : Nat, pool.workers[other]? = some .ended → changed.workers[other]? = some .ended := by
  cases moved with
  | proceeds index host current errand changed found proceeded =>
      rw [proceeded.workers_eq]
      exact ⟨rfl, fun _ => id⟩
  | works worker engine after changed worked => exact worked.ended_later
  | _ => exact ⟨rfl, fun _ => id⟩

theorem IsGone.later (gone : before.IsGone pool worker) (moved : Moved before pool after changed) :
    after.IsGone changed worker :=
  gone.imp (moved.ended_later.2 worker) fun called => stoppers_later moved called

theorem Orderly.awaited_eq (orderly : dispatch.Orderly pool)
    (found : dispatch.calls[index]? = some call) (joins : call.errand.isJoining = true) :
    dispatch.awaited = call.errand.awaits :=
  flatMap_of_countP_le_one (fun _ without => Errand.awaits_eq_nil without) orderly.joiner found joins

/-- Where a shutdown has returned all workers are gone, and they stay gone. -/
theorem Joined.returned_later (joined : before.Joined pool) (moved : Moved before pool after changed)
    (returned : ∀ call ∈ after.calls, call.errand = .shutdown .returned →
      ∃ old ∈ before.calls, old.errand = .shutdown .returned) :
    ∀ call ∈ after.calls, call.errand = .shutdown .returned →
      ∀ worker < changed.workers.length, after.IsGone changed worker := by
  intro call member same worker less
  rw [moved.ended_later.1] at less
  obtain ⟨old, there, earlier⟩ := returned call member same
  exact (joined.returned old there earlier worker less).later moved

/-- Most moves change nothing about who joins whom. -/
theorem Joined.of_same (joined : before.Joined pool) (moved : Moved before pool after changed)
    (unclaimed : after.unclaimed = before.unclaimed) (awaited : after.awaited = before.awaited)
    (joining : ∀ call ∈ after.calls, call.errand.isJoining = true →
      ∃ old ∈ before.calls, old.errand.isJoining = true)
    (returned : ∀ call ∈ after.calls, call.errand = .shutdown .returned →
      ∃ old ∈ before.calls, old.errand = .shutdown .returned) : after.Joined changed where
  awaited worker less := by
    rw [moved.ended_later.1] at less
    rw [unclaimed, awaited]
    exact (joined.awaited worker less).imp_left fun gone => gone.later moved
  claimed call member joins := by
    obtain ⟨old, there, joined'⟩ := joining call member joins
    rw [unclaimed]
    exact joined.claimed old there joined'
  returned := joined.returned_later moved returned

/-- What a call is not that goes on, some call was before. -/
theorem exists_of_mem_set {motive : Errand → Prop}
    (member : call ∈ before.calls.set index ⟨errand, host⟩) (has : motive call.errand)
    (lacks : ¬motive errand) : ∃ old ∈ before.calls, motive old.errand := by
  rcases List.mem_or_eq_of_mem_set member with old | rfl
  · exact ⟨call, old, has⟩
  · exact absurd has lacks

theorem mem_calls_notify (member : call ∈ (dispatch.notify pool).calls) :
    ∃ old ∈ dispatch.calls, call.errand = old.errand ∨ call.errand = old.errand.woken := by
  unfold notify at member
  split at member
  · obtain ⟨old, there, rfl⟩ := List.mem_map.mp member
    exact ⟨old, there, .inr rfl⟩
  · exact ⟨call, member, .inl rfl⟩

theorem Joined.works (joined : before.Joined pool) (worked : Worked before pool worker after changed) :
    after.Joined changed := by
  have moved : Moved before pool after changed := .works worker before.engine after changed worked
  cases worked with
  | counts stands =>
      refine joined.of_same moved ?_ (awaited_notify _ _) (fun call member joins => ?_)
        (fun call member returned => ?_)
      · unfold notify
        split <;> rfl
      · obtain ⟨old, there, same | same⟩ := mem_calls_notify member <;> rw [same] at joins
        · exact ⟨old, there, joins⟩
        · exact ⟨old, there, (Errand.isJoining_woken old.errand).symm.trans joins⟩
      · obtain ⟨old, there, same | same⟩ := mem_calls_notify member <;> rw [same] at returned
        · exact ⟨old, there, returned⟩
        · refine ⟨old, there, ?_⟩
          cases errand : old.errand with
          | wait since stage => rw [errand] at returned; cases stage <;> cases returned
          | _ => rw [errand] at returned; exact returned
  | _ =>
      exact joined.of_same moved rfl rfl (fun call member joins => ⟨call, member, joins⟩)
        (fun call member returned => ⟨call, member, returned⟩)

theorem Joined.proceeds (joined : before.Joined pool) (orderly : before.Orderly pool)
    (counted : before.Counted pool) (found : before.calls[index]? = some ⟨current, host⟩)
    (proceeded : Proceeded before pool host current errand changed) :
    (before.proceed index ⟨current, host⟩ errand changed).Joined changed := by
  have moved : Moved before pool _ changed := .proceeds index host current errand changed found proceeded
  have later := orderly.proceeds found proceeded
  have there (errand : Errand) : (before.calls.set index ⟨errand, host⟩)[index]? =
      some ⟨errand, host⟩ := List.getElem?_set_self (List.getElem?_eq_some_iff.mp found).1
  have old := joined.awaited
  cases proceeded with
  | claims free =>
      have now := later.awaited_eq (there (.shutdown (.joining before.unclaimed))) rfl
      have none : before.awaited = [] := List.flatMap_eq_nil_iff.mpr fun call member =>
        Errand.awaits_eq_nil (by simpa using List.any_eq_false.mp free call member)
      refine ⟨fun worker less => ?_, fun _ _ _ => rfl, joined.returned_later moved
        fun call member returned => exists_of_mem_set (motive := (· = .shutdown .returned)) member
          returned (by simp)⟩
      rcases old worker less with gone | unclaimed | awaited
      · exact .inl (gone.later moved)
      · exact .inr (.inr (by rw [now]; exact unclaimed))
      · rw [none] at awaited
        cases awaited
  | joins target rest passed =>
      have then' := orderly.awaited_eq found rfl
      have now := later.awaited_eq (there (.shutdown (.joining rest))) rfl
      have unclaimed := joined.claimed _ (List.mem_of_getElem? found) rfl
      -- The worker just joined has ended, unless the shutdown was called on its thread.
      have gone : before.IsGone pool target := by
        refine passed.symm.imp id fun inner => ?_
        exact List.mem_map.mpr ⟨_, List.mem_of_getElem? found, inner⟩
      refine ⟨fun worker less => ?_, fun _ _ _ => unclaimed, joined.returned_later moved
        fun call member returned => exists_of_mem_set (motive := (· = .shutdown .returned)) member
          returned (by simp)⟩
      rcases old worker less with gone | claimed | awaited
      · exact .inl (gone.later moved)
      · exact .inr (.inl claimed)
      · rw [then'] at awaited
        rcases List.mem_cons.mp awaited with rfl | rest
        · exact .inl (gone.later moved)
        · exact .inr (.inr (by rw [now]; exact rest))
  | returns =>
      have then' := orderly.awaited_eq found rfl
      have unclaimed := joined.claimed _ (List.mem_of_getElem? found) rfl
      have all (worker : Nat) (less : worker < pool.workers.length) :
          IsGone (before.proceed index ⟨.shutdown (.joining []), host⟩ (.shutdown .returned) pool) pool
            worker := by
        refine (old worker less).elim (fun gone => gone.later moved) fun waits => ?_
        rw [unclaimed, then'] at waits
        rcases waits with none | none <;> cases none
      exact ⟨fun worker less => .inl (all worker less), fun _ _ _ => unclaimed,
        fun _ _ _ => all⟩
  | retracts job => exact (counted.not_retracting found).elim
  | _ =>
      refine joined.of_same moved rfl (flatMap_set_of_eq found rfl) ?_ ?_
      · intro call member joins
        exact exists_of_mem_set (motive := (·.isJoining = true)) member joins (by simp [Errand.isJoining])
      · intro call member returned
        exact exists_of_mem_set (motive := (· = .shutdown .returned)) member returned (by simp)

theorem Joined.moved (joined : before.Joined pool) (orderly : before.Orderly pool)
    (counted : before.Counted pool) (moved : Moved before pool after changed) :
    after.Joined changed := by
  cases moved with
  | calls request host =>
      refine joined.of_same (.calls request host) rfl ?_ ?_ ?_
      · cases request <;> simp [Dispatch.awaited, Dispatch.errand, Errand.awaits]
      · intro call member joins
        rcases List.mem_append.mp member with old | new
        · exact ⟨call, old, joins⟩
        · rw [List.mem_singleton.mp new] at joins
          cases request <;> cases joins
      · intro call member returned
        rcases List.mem_append.mp member with old | new
        · exact ⟨call, old, returned⟩
        · rw [List.mem_singleton.mp new] at returned
          cases request <;> cases returned
  | proceeds index host current errand changed found proceeded =>
      exact joined.proceeds orderly counted found proceeded
  | stirs index since host found =>
      refine joined.of_same (.stirs index since host found) rfl (flatMap_set_of_eq found rfl) ?_ ?_
      · intro call member joins
        exact exists_of_mem_set (motive := (·.isJoining = true)) member joins (by simp [Errand.isJoining])
      · intro call member returned
        exact exists_of_mem_set (motive := (· = .shutdown .returned)) member returned (by simp)
  | works worker engine after changed worked =>
      have same : Joined { before with engine := engine } pool :=
        ⟨joined.awaited, joined.claimed, joined.returned⟩
      exact same.works worked
  | elsewhere engine => exact ⟨joined.awaited, joined.claimed, joined.returned⟩

end Dispatch

end PipelineCache

import PipelineCache.Proofs.Worker.Channel
import PipelineCache.Proofs.Worker.Record

/-! Those who wait for a pool to be idle. They sleep only while some job is pending, and what they find
when they return is that every job is settled that was accepted before. -/

namespace PipelineCache

namespace Dispatch

variable {before after dispatch : Dispatch} {pool changed : Pool} {worker index : Nat} {call : PoolCall}
  {errand current : Errand} {job : Job} {host : Option Nat}

/-- The first jobs that were accepted were all compiled or dropped. -/
def SettledUpTo (dispatch : Dispatch) (number : Nat) : Prop :=
  ∀ earlier < number, ∃ taking, dispatch.takings[earlier]? = some taking ∧ taking.IsSettled

theorem SettledUpTo.later {number : Nat} (settled : before.SettledUpTo number)
    (recorded : before.Recorded pool) (moved : Moved before pool after changed) :
    after.SettledUpTo number := by
  intro earlier less
  obtain ⟨taking, found, done⟩ := settled earlier less
  exact ⟨taking, recorded.settled_later moved found done, done⟩

/-- If nothing is pending, all jobs that were ever accepted are settled. -/
theorem settledUpTo_accepted (counted : dispatch.Counted pool) (recorded : dispatch.Recorded pool)
    (idle : pool.pending = 0) : dispatch.SettledUpTo dispatch.accepted.length := by
  have pending := counted.pending
  have unqueued : pool.jobs = [] := List.eq_nil_of_length_eq_zero (by omega)
  have unsent : dispatch.unsent = [] := List.eq_nil_of_length_eq_zero (by omega)
  have order := counted.order
  rw [unqueued, unsent, List.nil_append, List.append_nil] at order
  intro number less
  rw [← order, List.length_map] at less
  refine ⟨_, List.getElem?_eq_getElem less, ?_⟩
  refine (recorded.settled number _ (List.getElem?_eq_getElem less)).resolve_right ?_
  rintro ⟨_, position, stands, has⟩
  have resting : pool.workers.countP WorkerPosition.isBusy = 0 := by omega
  have rests := List.countP_eq_zero.mp resting position (List.mem_of_getElem? stands)
  cases position with
  | starting job => exact rests rfl
  | compiling job optimization => exact rests rfl
  | _ => cases has

/-- A call that waits was made after the jobs were accepted that it waits for. It sleeps only while some
are pending, and when it has returned all of them are settled. -/
def Awaiting (dispatch : Dispatch) (pool : Pool) : Errand → Prop
  | .wait since .checking => since ≤ dispatch.accepted.length
  | .wait since .asleep => since ≤ dispatch.accepted.length ∧ 0 < pool.pending
  | .wait since .returned => dispatch.SettledUpTo since
  | _ => True

theorem Awaiting.later (awaiting : before.Awaiting pool errand)
    (accepted : before.accepted.length ≤ after.accepted.length)
    (pending : 0 < pool.pending → 0 < changed.pending)
    (settled : ∀ number, before.SettledUpTo number → after.SettledUpTo number) :
    after.Awaiting changed errand := by
  cases errand with
  | wait since stage =>
      cases stage with
      | checking => exact Nat.le_trans awaiting accepted
      | asleep => exact ⟨Nat.le_trans awaiting.1 accepted, pending awaiting.2⟩
      | returned => exact settled since awaiting
  | _ => trivial

theorem Awaiting.woken (awaiting : before.Awaiting pool errand) :
    before.wake.Awaiting changed errand.woken := by
  cases errand with
  | wait since stage =>
      cases stage with
      | checking => exact awaiting
      | asleep => exact awaiting.1
      | returned => exact awaiting
  | _ => trivial

/-- All calls that wait are served. -/
def Attended (dispatch : Dispatch) (pool : Pool) : Prop :=
  ∀ call ∈ dispatch.calls, dispatch.Awaiting pool call.errand

theorem Attended.later (attended : before.Attended pool)
    (accepted : before.accepted.length ≤ after.accepted.length)
    (pending : 0 < pool.pending → 0 < changed.pending)
    (settled : ∀ number, before.SettledUpTo number → after.SettledUpTo number) :
    ∀ call ∈ before.calls, after.Awaiting changed call.errand :=
  fun call member => (attended call member).later accepted pending settled

theorem Attended.replace (others : ∀ call ∈ before.calls, after.Awaiting changed call.errand)
    (calls : after.calls = before.calls.set index ⟨errand, host⟩)
    (replaced : after.Awaiting changed errand) : after.Attended changed := by
  intro call member
  rw [calls] at member
  rcases List.mem_or_eq_of_mem_set member with old | rfl
  · exact others call old
  · exact replaced

theorem Attended.proceeds (attended : before.Attended pool) (counted : before.Counted pool)
    (recorded : before.Recorded pool) (found : before.calls[index]? = some ⟨current, host⟩)
    (proceeded : Proceeded before pool host current errand changed) :
    (before.proceed index ⟨current, host⟩ errand changed).Attended changed := by
  have old := attended _ (List.mem_of_getElem? found)
  have settled (number : Nat) (done : before.SettledUpTo number) :
      (before.proceed index ⟨current, host⟩ errand changed).SettledUpTo number :=
    done.later recorded (.proceeds index host current errand changed found proceeded)
  cases proceeded with
  | announces job =>
      refine Attended.replace (attended.later ?_ (fun _ => Nat.succ_pos _) settled) rfl trivial
      simp [proceed]
  | retracts job => exact (counted.not_retracting found).elim
  | finds since idle =>
      refine Attended.replace (attended.later (Nat.le_refl _) id settled) rfl ?_
      -- Nothing is pending, so all jobs are settled that were accepted before.
      exact fun earlier less =>
        settledUpTo_accepted counted recorded idle earlier (Nat.lt_of_lt_of_le less old)
  | dozes since pends =>
      exact Attended.replace (attended.later (Nat.le_refl _) id settled) rfl ⟨old, pends⟩
  | _ => exact Attended.replace (attended.later (Nat.le_refl _) id settled) rfl trivial

theorem Attended.works (attended : before.Attended pool) (recorded : before.Recorded pool)
    (worked : Worked before pool worker after changed) : after.Attended changed := by
  have settled (number : Nat) (done : before.SettledUpTo number) : after.SettledUpTo number :=
    done.later recorded (.works worker before.engine after changed worked)
  cases worked with
  | counts stands =>
      unfold Dispatch.notify
      split
      · intro call member
        obtain ⟨asleep, there, rfl⟩ := List.mem_map.mp member
        exact (attended asleep there).woken
      · rename_i some
        exact attended.later (Nat.le_refl _) (fun _ => Nat.pos_of_ne_zero some) fun _ done => done
  | _ => exact attended.later (Nat.le_refl _) id settled

theorem Attended.moved (attended : before.Attended pool) (counted : before.Counted pool)
    (recorded : before.Recorded pool) (moved : Moved before pool after changed) :
    after.Attended changed := by
  have settled (number : Nat) (done : before.SettledUpTo number) : after.SettledUpTo number :=
    done.later recorded moved
  cases moved with
  | calls request host =>
      intro call member
      rcases List.mem_append.mp member with old | new
      · exact attended.later (Nat.le_refl _) id settled call old
      · rw [List.mem_singleton.mp new]
        cases request with
        | waitIdle => exact Nat.le_refl _
        | _ => trivial
  | proceeds index host current errand changed found proceeded =>
      exact attended.proceeds counted recorded found proceeded
  | stirs index since host found =>
      have old := attended _ (List.mem_of_getElem? found)
      exact Attended.replace (attended.later (Nat.le_refl _) id settled) rfl old.1
  | works worker engine after changed worked =>
      have same : Attended { before with engine := engine } pool :=
        attended.later (Nat.le_refl _) id fun _ done => done
      exact same.works (recorded.of_same rfl rfl rfl) worked
  | elsewhere engine => exact attended.later (Nat.le_refl _) id settled

end Dispatch

end PipelineCache

import PipelineCache.Proofs.Worker.Moves

/-! The sender and the channel of a pool. At most one call has the sender, and while one has it the pool
is open; so no worker ends before the last job is sent and taken. The count of pending jobs is at every
moment the number of jobs that wait in the channel, are in the hands of a worker, or are just being sent,
and workers take the jobs in the order in which they were accepted. -/

namespace PipelineCache

theorem flatMap_set_of_eq {α β : Type} {parts : α → List β} {values : List α} {index : Nat} {old : α}
    (found : values[index]? = some old) {value : α} (same : parts value = parts old) :
    (values.set index value).flatMap parts = values.flatMap parts := by
  obtain ⟨inside, rfl⟩ := List.getElem?_eq_some_iff.mp found
  have unchanged : (values.map parts).set index (parts values[index]) = values.map parts := by
    rw [← List.map_set, List.set_getElem_self]
  rw [List.flatMap_def, List.flatMap_def, List.map_set, same, unchanged]

/-- If at most one value counts, and no other has parts, all parts are its own. -/
theorem flatMap_of_countP_le_one {α β : Type} {parts : α → List β} {counts : α → Bool}
    (bare : ∀ value, counts value = false → parts value = []) {values : List α}
    (le : values.countP counts ≤ 1) {index : Nat} {value : α} (found : values[index]? = some value)
    (counted : counts value = true) : values.flatMap parts = parts value := by
  induction values generalizing index with
  | nil => simp at found
  | cons first rest ih =>
      rw [List.countP_cons] at le
      cases index with
      | zero =>
          obtain rfl : first = value := by simpa using found
          have none : rest.countP counts = 0 := by
            rw [counted, if_pos rfl] at le
            omega
          have others : rest.flatMap parts = [] := List.flatMap_eq_nil_iff.mpr fun other member =>
            bare other (by simpa using List.countP_eq_zero.mp none other member)
          rw [List.flatMap_cons, others, List.append_nil]
      | succ index =>
          have there : rest[index]? = some value := by simpa using found
          have some : 0 < rest.countP counts :=
            List.countP_pos_iff.mpr ⟨value, List.mem_of_getElem? there, counted⟩
          have uncounted : counts first = false := by
            cases one : counts first with
            | false => rfl
            | true =>
                rw [one, if_pos rfl] at le
                omega
          rw [List.flatMap_cons, bare first uncounted, List.nil_append]
          exact ih (by omega) there

namespace Errand

def isRetracting : Errand → Bool
  | queue _ .retracting => true
  | _ => false

theorem hasSender_woken (errand : Errand) : errand.woken.hasSender = errand.hasSender := by
  cases errand with
  | wait since stage => cases stage <;> rfl
  | _ => rfl

theorem isJoining_woken (errand : Errand) : errand.woken.isJoining = errand.isJoining := by
  cases errand with
  | wait since stage => cases stage <;> rfl
  | _ => rfl

theorem unsent_woken (errand : Errand) : errand.woken.unsent = errand.unsent := by
  cases errand with
  | wait since stage => cases stage <;> rfl
  | _ => rfl

theorem isRetracting_woken (errand : Errand) :
    errand.woken.isRetracting = errand.isRetracting := by
  cases errand with
  | wait since stage => cases stage <;> rfl
  | _ => rfl

theorem unsent_eq_nil {errand : Errand} (without : errand.hasSender = false) : errand.unsent = [] := by
  cases errand with
  | queue job stage => cases stage <;> first | rfl | cases without
  | _ => rfl

end Errand

namespace Dispatch

variable {before after dispatch : Dispatch} {pool changed : Pool} {worker index : Nat} {call : PoolCall}
  {errand current : Errand} {job : Job} {host : Option Nat}

/-! ### The sender and the channel -/

/-- At most one call has the sender and at most one the handles of the workers. Nobody has the sender
once it is closed, and no worker ends before that, or while jobs wait. -/
structure Orderly (dispatch : Dispatch) (pool : Pool) : Prop where
  sender : (dispatch.calls.countP fun call => call.errand.hasSender) ≤ 1
  joiner : (dispatch.calls.countP fun call => call.errand.isJoining) ≤ 1
  accepts : ∀ call ∈ dispatch.calls, call.errand.hasSender = true → pool.accepts = true
  manned : pool.workers ≠ []
  ended : .ended ∈ pool.workers → pool.accepts = false ∧ pool.jobs = []

theorem countP_hasSender_of_free (free : dispatch.senderLocked = false) :
    (dispatch.calls.countP fun call => call.errand.hasSender) = 0 := by
  simpa [senderLocked, List.countP_eq_zero] using free

theorem countP_isJoining_of_free (free : dispatch.workersLocked = false) :
    (dispatch.calls.countP fun call => call.errand.isJoining) = 0 := by
  simpa [workersLocked, List.countP_eq_zero] using free

theorem orderly_start (engine : Engine) (workers : Nat) :
    (start engine workers).Orderly (.ofSize workers) where
  sender := Nat.zero_le 1
  joiner := Nat.zero_le 1
  accepts := by simp [start]
  manned := by simp [Pool.ofSize]
  ended member := by simp [Pool.ofSize] at member

theorem Orderly.notify (orderly : dispatch.Orderly pool) (counted : Pool) :
    (dispatch.notify counted).Orderly pool := by
  unfold Dispatch.notify
  split
  · refine ⟨?_, ?_, ?_, orderly.manned, orderly.ended⟩
    · simpa [wake, List.countP_map, Function.comp_def, Errand.hasSender_woken] using orderly.sender
    · simpa [wake, List.countP_map, Function.comp_def, Errand.isJoining_woken] using orderly.joiner
    · simpa [wake, Errand.hasSender_woken] using orderly.accepts
  · exact orderly

theorem Orderly.of_same (orderly : before.Orderly pool) (calls : after.calls = before.calls)
    (accepts : changed.accepts = pool.accepts) (workers : changed.workers = pool.workers)
    (jobs : changed.jobs = pool.jobs) : after.Orderly changed where
  sender := calls ▸ orderly.sender
  joiner := calls ▸ orderly.joiner
  accepts := by rw [calls, accepts]; exact orderly.accepts
  manned := workers ▸ orderly.manned
  ended := by rw [accepts, workers, jobs]; exact orderly.ended

/-- A call may only get a lock that is free, and the sender only while it is there. -/
theorem Orderly.replace (orderly : before.Orderly pool) (found : before.calls[index]? = some call)
    (errand : Errand)
    (sender : errand.hasSender = false ∨ call.errand.hasSender = true ∨
      before.senderLocked = false ∧ pool.accepts = true)
    (joiner : errand.isJoining = false ∨ call.errand.isJoining = true ∨
      before.workersLocked = false) :
    Orderly { before with calls := before.calls.set index { call with errand := errand } } pool := by
  have senders := countP_set_of_getElem? (fun call => call.errand.hasSender) found
    { call with errand := errand }
  have joiners := countP_set_of_getElem? (fun call => call.errand.isJoining) found
    { call with errand := errand }
  have single := orderly.sender
  have alone := orderly.joiner
  refine ⟨?_, ?_, fun other member has => ?_, orderly.manned, orderly.ended⟩
  · rcases sender with without | had | ⟨free, _⟩
    · simp only [without, Bool.toNat_false] at senders ⊢; omega
    · have least := errand.hasSender.toNat_le
      simp only [had, Bool.toNat_true] at senders ⊢; omega
    · have unlocked := countP_hasSender_of_free free
      have least := errand.hasSender.toNat_le
      simp only at senders ⊢; omega
  · rcases joiner with without | had | free
    · simp only [without, Bool.toNat_false] at joiners ⊢; omega
    · have least := errand.isJoining.toNat_le
      simp only [had, Bool.toNat_true] at joiners ⊢; omega
    · have unlocked := countP_isJoining_of_free free
      have least := errand.isJoining.toNat_le
      simp only at joiners ⊢; omega
  · rcases List.mem_or_eq_of_mem_set member with old | rfl
    · exact orderly.accepts other old has
    · rcases sender with without | had | ⟨_, accepts⟩
      · rw [without] at has
        cases has
      · exact orderly.accepts call (List.mem_of_getElem? found) had
      · exact accepts

theorem Orderly.proceeds (orderly : before.Orderly pool)
    (found : before.calls[index]? = some ⟨current, host⟩)
    (proceeded : Proceeded before pool host current errand changed) :
    (before.proceed index ⟨current, host⟩ errand changed).Orderly changed := by
  cases proceeded with
  | enters job free accepts =>
      exact (orderly.replace found (.queue job .announcing) (.inr (.inr ⟨free, accepts⟩))
        (.inl rfl)).of_same rfl rfl rfl rfl
  | announces job =>
      exact (orderly.replace found (.queue job .sending) (.inr (.inl rfl)) (.inl rfl)).of_same
        rfl rfl rfl rfl
  | sends job =>
      -- Jobs are only sent to a pool that accepts them, and there no worker has ended.
      have accepts := orderly.accepts _ (List.mem_of_getElem? found) rfl
      have sent := orderly.replace found (.queue job .leaving) (.inr (.inl rfl)) (.inl rfl)
      refine ⟨sent.sender, sent.joiner, sent.accepts, sent.manned, fun member => ?_⟩
      have refuses := (orderly.ended member).1
      rw [accepts] at refuses
      cases refuses
  | fails job _ =>
      exact (orderly.replace found (.queue job .retracting) (.inr (.inl rfl)) (.inl rfl)).of_same
        rfl rfl rfl rfl
  | retracts job =>
      refine Orderly.notify ?_ _
      exact (orderly.replace found (.queue job .leaving) (.inr (.inl rfl)) (.inl rfl)).of_same
        rfl rfl rfl rfl
  | closes free =>
      have closed := orderly.replace found (.shutdown .claiming) (.inl rfl) (.inl rfl)
      refine ⟨closed.sender, closed.joiner, fun call member has => ?_, closed.manned, fun member =>
        ⟨rfl, (orderly.ended member).2⟩⟩
      -- The sender is free and stays so, as this call does not get it either.
      have unlocked := countP_hasSender_of_free free
      have senders := countP_set_of_getElem? (fun call => call.errand.hasSender) found
        ⟨.shutdown .claiming, host⟩
      have owner : 0 < ((before.calls.set index ⟨.shutdown .claiming, host⟩).countP
          fun call => call.errand.hasSender) := List.countP_pos_iff.mpr ⟨call, member, has⟩
      rw [unlocked] at senders
      change _ + 0 = 0 + 0 at senders
      omega
  | claims free =>
      exact (orderly.replace found (.shutdown (.joining before.unclaimed)) (.inl rfl)
        (.inr (.inr free))).of_same rfl rfl rfl rfl
  | joins worker rest _ =>
      exact (orderly.replace found (.shutdown (.joining rest)) (.inl rfl)
        (.inr (.inl rfl))).of_same rfl rfl rfl rfl
  | _ => refine (orderly.replace found _ ?_ ?_).of_same rfl rfl rfl rfl <;> exact .inl rfl

theorem Orderly.works (orderly : before.Orderly pool)
    (worked : Worked before pool worker after changed) : after.Orderly changed := by
  have manned (others : List WorkerPosition) (position : WorkerPosition)
      (some : others ≠ []) : others.set worker position ≠ [] := by simpa using some
  -- A worker that does not end leaves those that have ended as they were.
  have still (moved : WorkerPosition) {others : List WorkerPosition} (going : .ended ≠ moved)
      (member : .ended ∈ others.set worker moved) : .ended ∈ others :=
    (List.mem_or_eq_of_mem_set member).resolve_right going
  cases worked with
  | rests => exact orderly
  | ends stands unqueued refuses =>
      exact ⟨orderly.sender, orderly.joiner, orderly.accepts, manned _ _ orderly.manned,
        fun _ => ⟨refuses, unqueued⟩⟩
  | takes job jobs stands queued =>
      refine ⟨orderly.sender, orderly.joiner, orderly.accepts, manned _ _ orderly.manned,
        fun member => ?_⟩
      obtain ⟨_, unqueued⟩ := orderly.ended (still (.starting job) nofun member)
      rw [queued] at unqueued
      cases unqueued
  | marks job marks mark position moved stands has busy going goes =>
      refine ⟨orderly.sender, orderly.joiner, orderly.accepts, manned _ _ orderly.manned,
        fun member => orderly.ended (still moved ?_ member)⟩
      rintro rfl
      cases going
  | passes position moved stands busy going same =>
      refine ⟨orderly.sender, orderly.joiner, orderly.accepts, manned _ _ orderly.manned,
        fun member => orderly.ended (still moved ?_ member)⟩
      rintro rfl
      cases going
  | counts stands =>
      refine Orderly.notify ?_ _
      exact ⟨orderly.sender, orderly.joiner, orderly.accepts, manned _ _ orderly.manned,
        fun member => orderly.ended (still .waiting nofun member)⟩

theorem errand_of_request (dispatch : Dispatch) (request : PoolRequest) :
    (dispatch.errand request).hasSender = false ∧ (dispatch.errand request).isJoining = false ∧
      (dispatch.errand request).unsent = [] := by
  cases request <;> exact ⟨rfl, rfl, rfl⟩

theorem Orderly.moved (orderly : before.Orderly pool) (moved : Moved before pool after changed) :
    after.Orderly changed := by
  cases moved with
  | calls request host =>
      obtain ⟨sender, joiner, _⟩ := before.errand_of_request request
      refine ⟨?_, ?_, ?_, orderly.manned, orderly.ended⟩
      · simpa [List.countP_append, sender] using orderly.sender
      · simpa [List.countP_append, joiner] using orderly.joiner
      · simpa [or_imp, forall_and, sender] using orderly.accepts
  | proceeds index host current errand changed found proceeded =>
      exact orderly.proceeds found proceeded
  | stirs index since host found =>
      exact orderly.replace found (.wait since .checking) (.inl rfl) (.inl rfl)
  | works worker engine after changed worked =>
      have same : Orderly { before with engine := engine } pool := orderly.of_same rfl rfl rfl rfl
      exact same.works worked
  | elsewhere engine => exact orderly.of_same rfl rfl rfl rfl

/-! ### The count and the order of the jobs -/

/-- The count is right, and each accepted job is in the hands of a worker, or behind all others in the
channel, or about to be sent there. -/
structure Counted (dispatch : Dispatch) (pool : Pool) : Prop where
  pending : pool.pending = pool.jobs.length + pool.workers.countP WorkerPosition.isBusy +
    dispatch.unsent.length
  order : dispatch.takings.map Taking.job ++ (pool.jobs ++ dispatch.unsent) = dispatch.accepted
  kept : ∀ call ∈ dispatch.calls, call.errand.isRetracting = false

theorem counted_start (engine : Engine) (workers : Nat) :
    (start engine workers).Counted (.ofSize workers) where
  pending := by simp [start, unsent, Pool.ofSize, List.countP_replicate, WorkerPosition.isBusy]
  order := rfl
  kept := by simp [start]

theorem Orderly.unsent_eq (orderly : dispatch.Orderly pool)
    (found : dispatch.calls[index]? = some call) (has : call.errand.hasSender = true) :
    dispatch.unsent = call.errand.unsent :=
  flatMap_of_countP_le_one (fun _ without => Errand.unsent_eq_nil without) orderly.sender found has

/-- No worker is left to receive only after the sender is gone, so that nothing is ever taken back. -/
theorem Orderly.not_deserted (orderly : dispatch.Orderly pool)
    (found : dispatch.calls[index]? = some call) (has : call.errand.hasSender = true) :
    ¬∀ position ∈ pool.workers, position = .ended := by
  intro deserted
  obtain ⟨position, member⟩ := List.exists_mem_of_ne_nil _ orderly.manned
  rw [deserted position member] at member
  have refuses := (orderly.ended member).1
  rw [orderly.accepts call (List.mem_of_getElem? found) has] at refuses
  cases refuses

theorem Counted.notify (counted : dispatch.Counted pool) (zero : Pool) :
    (dispatch.notify zero).Counted pool := by
  unfold Dispatch.notify
  split
  · have same : dispatch.wake.unsent = dispatch.unsent := by
      simp [unsent, wake, List.flatMap_map, Errand.unsent_woken]
    refine ⟨same ▸ counted.pending, same ▸ counted.order, ?_⟩
    simpa [wake, Errand.isRetracting_woken] using counted.kept
  · exact counted

theorem Counted.of_same (counted : before.Counted pool)
    (pending : changed.pending = pool.pending) (jobs : changed.jobs = pool.jobs)
    (busy : changed.workers.countP WorkerPosition.isBusy =
      pool.workers.countP WorkerPosition.isBusy)
    (unsent : after.unsent = before.unsent)
    (takings : after.takings.map Taking.job = before.takings.map Taking.job)
    (accepted : after.accepted = before.accepted)
    (kept : ∀ call ∈ after.calls, call.errand.isRetracting = false) : after.Counted changed where
  pending := by rw [pending, jobs, busy, unsent, counted.pending]
  order := by rw [takings, jobs, unsent, accepted, counted.order]
  kept := kept

theorem Counted.not_retracting (counted : before.Counted pool)
    (found : before.calls[index]? = some ⟨.queue job .retracting, host⟩) : False := by
  cases counted.kept _ (List.mem_of_getElem? found)

theorem Counted.kept_replace (counted : before.Counted pool) (index : Nat) {errand : Errand}
    (keeps : errand.isRetracting = false) (host : Option Nat) :
    ∀ call ∈ before.calls.set index ⟨errand, host⟩, call.errand.isRetracting = false := by
  intro call member
  rcases List.mem_or_eq_of_mem_set member with old | rfl
  · exact counted.kept call old
  · exact keeps

/-- What is noted of a job does not change which job it is. -/
theorem map_job_mark (dispatch : Dispatch) (worker : Nat) (mark : Mark) :
    (dispatch.mark worker mark).takings.map Taking.job = dispatch.takings.map Taking.job := by
  apply List.ext_getElem?
  intro number
  simp only [Dispatch.mark, List.getElem?_map, List.getElem?_modify]
  cases dispatch.takings[number]? <;> simp
  split <;> rfl

theorem Counted.proceeds (counted : before.Counted pool) (orderly : before.Orderly pool)
    (found : before.calls[index]? = some ⟨current, host⟩)
    (proceeded : Proceeded before pool host current errand changed) :
    (before.proceed index ⟨current, host⟩ errand changed).Counted changed := by
  have later := orderly.proceeds found proceeded
  have there (errand : Errand) : (before.calls.set index ⟨errand, host⟩)[index]? =
      some ⟨errand, host⟩ := List.getElem?_set_self (List.getElem?_eq_some_iff.mp found).1
  have pending := counted.pending
  have order := counted.order
  cases proceeded with
  | announces job =>
      have none : before.unsent = [] := orderly.unsent_eq found rfl
      have one := later.unsent_eq (there (.queue job .sending)) rfl
      rw [none] at pending order
      refine ⟨?_, ?_, counted.kept_replace index rfl host⟩
      · rw [one]
        simp [Pool.announce, pending, Errand.unsent]
      · rw [one]
        simp [proceed, ← order, Errand.unsent, Pool.announce]
  | sends job =>
      have one : before.unsent = [job] := orderly.unsent_eq found rfl
      have none := later.unsent_eq (there (.queue job .leaving)) rfl
      rw [one] at pending order
      refine ⟨?_, ?_, counted.kept_replace index rfl host⟩
      · rw [none]
        simp only [Pool.send, pending, List.length_append, Errand.unsent, List.length_singleton,
          List.length_nil]
        omega
      · rw [none]
        simp [proceed, ← order, Errand.unsent, Pool.send]
  | fails job deserted => exact absurd deserted (orderly.not_deserted found rfl)
  | retracts job => exact (counted.not_retracting found).elim
  | _ =>
      refine counted.of_same rfl rfl rfl (flatMap_set_of_eq found rfl) rfl rfl
        (counted.kept_replace index rfl host)

theorem Counted.works (counted : before.Counted pool)
    (worked : Worked before pool worker after changed) : after.Counted changed := by
  have pending := counted.pending
  have order := counted.order
  cases worked with
  | rests => exact counted
  | ends stands unqueued refuses =>
      refine counted.of_same rfl rfl ?_ rfl rfl rfl counted.kept
      exact Pool.countP_place stands .ended
  | takes job jobs stands queued =>
      have busier := Pool.countP_place stands (.starting job)
      rw [queued] at pending order
      refine ⟨?_, ?_, counted.kept⟩
      · simp only [Pool.place, WorkerPosition.isBusy, Bool.toNat_true, Bool.toNat_false,
          List.length_cons] at busier pending ⊢
        rw [show (before.take worker job).unsent = before.unsent from rfl]
        omega
      · simpa [take, Pool.place, unsent] using order
  | marks job marks mark position moved stands has busy still goes =>
      refine counted.of_same rfl rfl ?_ rfl ?_ rfl counted.kept
      · have same := Pool.countP_place stands moved
        rw [busy, still] at same
        exact Nat.add_right_cancel same
      · exact before.map_job_mark worker mark
  | passes position moved stands busy still same =>
      refine counted.of_same rfl rfl ?_ rfl rfl rfl counted.kept
      have same := Pool.countP_place stands moved
      rw [busy, still] at same
      exact Nat.add_right_cancel same
  | counts stands =>
      have fewer := Pool.countP_place stands .waiting
      suffices finished : before.Counted (pool.finishOne.place worker .waiting) from finished.notify _
      refine ⟨?_, order, counted.kept⟩
      simp only [Pool.place, Pool.finishOne, WorkerPosition.isBusy, Bool.toNat_true,
        Bool.toNat_false] at fewer ⊢
      omega

theorem Counted.moved (counted : before.Counted pool) (orderly : before.Orderly pool)
    (moved : Moved before pool after changed) : after.Counted changed := by
  cases moved with
  | calls request host =>
      obtain ⟨_, _, unsent⟩ := before.errand_of_request request
      refine counted.of_same rfl rfl rfl ?_ rfl rfl ?_
      · simp [Dispatch.unsent, unsent]
      · intro call member
        rcases List.mem_append.mp member with old | new
        · exact counted.kept call old
        · rw [List.mem_singleton.mp new]
          cases request <;> rfl
  | proceeds index host current errand changed found proceeded =>
      exact counted.proceeds orderly found proceeded
  | stirs index since host found =>
      exact counted.of_same rfl rfl rfl (flatMap_set_of_eq found rfl) rfl rfl
        (counted.kept_replace index rfl host)
  | works worker engine after changed worked =>
      have same : Counted { before with engine := engine } pool :=
        ⟨counted.pending, counted.order, counted.kept⟩
      exact same.works worked
  | elsewhere engine => exact ⟨counted.pending, counted.order, counted.kept⟩

end Dispatch

end PipelineCache

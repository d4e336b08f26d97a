import PipelineCache.Proofs.Worker.Dispatch

/-! The moves of a pool and of everybody who uses it, one by one: what a worker does to the pool, what a
caller does next, and what is noted of it. -/

namespace PipelineCache

/-! ### What a worker does to the pool -/

/-- What a worker may do to its pool. -/
inductive Pool.Worked (pool : Pool) (worker : Nat) : Pool → Prop
  | rests : Worked pool worker pool
  | ends (stands : pool.workers[worker]? = some .waiting) (unqueued : pool.jobs = [])
      (refuses : pool.accepts = false) : Worked pool worker (pool.place worker .ended)
  | takes (job : Job) (jobs : List Job) (stands : pool.workers[worker]? = some .waiting)
      (queued : pool.jobs = job :: jobs) :
      Worked pool worker (Pool.place { pool with jobs := jobs } worker (.starting job))
  | starts (job : Job) (stands : pool.workers[worker]? = some (.starting job))
      (live : pool.stopped = false) :
      Worked pool worker (pool.place worker (.compiling job ⟨job.entry, .checking⟩))
  | skips (job : Job) (stands : pool.workers[worker]? = some (.starting job))
      (stopped : pool.stopped = true) : Worked pool worker (pool.place worker (.releasing job))
  | compiles (job : Job) (optimization moved : Optimization)
      (stands : pool.workers[worker]? = some (.compiling job optimization)) :
      Worked pool worker (pool.place worker (.compiling job moved))
  | finishes (job : Job) (optimization : Optimization) (result : Bool)
      (stands : pool.workers[worker]? = some (.compiling job optimization))
      (finished : optimization.position = .finished result) :
      Worked pool worker (pool.place worker (.releasing job))
  | releases (job : Job) (stands : pool.workers[worker]? = some (.releasing job)) :
      Worked pool worker (pool.place worker .counting)
  | counts (stands : pool.workers[worker]? = some .counting) :
      Worked pool worker (pool.finishOne.place worker .waiting)

namespace Engine

variable {engine : Engine} {pool : Pool} {worker : Nat}

theorem compiler_stepCall_optimize (found : engine.compiler = .pool pool) (id : PipelineId)
    (optimization : Optimization) :
    ∃ moved, (engine.stepCall .compiler id (.optimize optimization)).1 = .optimize moved ∧
      (engine.stepCall .compiler id (.optimize optimization)).2.engine.compiler = .pool pool := by
  cases there : engine.pipelines[id]? with
  | none => exact ⟨optimization, by simp [stepCall, shared?, there], by
      simpa [stepCall, shared?, there, unchanged] using found⟩
  | some pipeline =>
      obtain ⟨next, after⟩ := stepCall_optimize there .compiler optimization
      exact ⟨_, next, by rw [after]; exact found⟩

theorem pool_stepWorker (found : engine.compiler = .pool pool) (worker : Nat) :
    ∃ after, (engine.stepWorker worker).engine.compiler = .pool after ∧ pool.Worked worker after := by
  have place (position : WorkerPosition) := placeWorker_of_pool found worker position
  cases stands : pool.workers[worker]? with
  | none => exact ⟨pool, by simp [stepWorker, workerAt?, found, stands, unchanged], .rests⟩
  | some position =>
      cases position with
      | waiting =>
          cases queued : pool.jobs with
          | nil =>
              cases accepts : pool.accepts with
              | true =>
                  exact ⟨pool, by
                    simp [stepWorker, workerAt?, found, stands, queued, accepts, unchanged], .rests⟩
              | false =>
                  exact ⟨_, by simp [stepWorker, workerAt?, found, stands, queued, accepts, place],
                    .ends stands queued accepts⟩
          | cons job jobs =>
              exact ⟨_, by simp [stepWorker, workerAt?, found, stands, queued],
                .takes job jobs stands queued⟩
      | starting job =>
          cases stopped : pool.stopped with
          | true =>
              exact ⟨_, by simp [stepWorker, workerAt?, found, stands, stopped, place],
                .skips job stands stopped⟩
          | false =>
              exact ⟨_, by simp [stepWorker, workerAt?, found, stands, stopped, place],
                .starts job stands stopped⟩
      | compiling job optimization =>
          cases finished : (Call.optimize optimization).isFinished with
          | true =>
              obtain ⟨result, done⟩ := Optimization.exists_of_isFinished finished
              exact ⟨_, by simp [stepWorker, workerAt?, found, stands, finished, place],
                .finishes job optimization result stands done⟩
          | false =>
              obtain ⟨moved, next, same⟩ := compiler_stepCall_optimize found job.pipeline optimization
              refine ⟨_, ?_, .compiles job optimization moved stands⟩
              simp [stepWorker, workerAt?, found, stands, finished, next, placeWorker_of_pool same]
      | releasing job =>
          exact ⟨_, by simp [stepWorker, workerAt?, found, stands, place, release, unchanged, Turn.release],
            .releases job stands⟩
      | counting =>
          exact ⟨_, by simp [stepWorker, workerAt?, found, stands], .counts stands⟩
      | ended =>
          exact ⟨pool, by simp [stepWorker, workerAt?, found, stands, unchanged], .rests⟩

theorem pool_answerWorker (found : engine.compiler = .pool pool) (worker : Nat)
    (result : Except CacheError PipelineHandle) :
    ∃ after, (engine.answerWorker worker result).compiler = .pool after ∧ pool.Worked worker after := by
  cases stands : pool.workers[worker]? with
  | none => exact ⟨pool, by simp [answerWorker, workerAt?, found, stands], .rests⟩
  | some position =>
      cases position with
      | compiling job optimization =>
          refine ⟨_, ?_, .compiles job optimization (optimization.answer result) stands⟩
          simp [answerWorker, workerAt?, found, stands, placeWorker_of_pool found]
      | _ => exact ⟨pool, by simp [answerWorker, workerAt?, found, stands], .rests⟩

end Engine

/-- The job that a worker may still compile, and what was noted of it so far. -/
def WorkerPosition.underway? : WorkerPosition → Option (Job × List Mark)
  | .starting job => some (job, [])
  | .compiling job _ => some (job, [.started false])
  | _ => none

/-- The job was compiled, once and from beginning to end, or it was dropped because the pool was
stopped. -/
def Taking.IsSettled (taking : Taking) : Prop :=
  taking.marks = [.started false, .completed] ∨ taking.marks = [.skipped true]

namespace Dispatch

variable {before after dispatch : Dispatch} {pool changed : Pool} {move : Move} {worker index : Nat}
  {call : PoolCall} {errand : Errand} {job : Job}

/-! ### What may happen -/

/-- What a worker does to its pool, and what follows. -/
inductive Worked (before : Dispatch) (pool : Pool) (worker : Nat) : Dispatch → Pool → Prop
  | rests : Worked before pool worker before pool
  | ends (stands : pool.workers[worker]? = some .waiting) (unqueued : pool.jobs = [])
      (refuses : pool.accepts = false) : Worked before pool worker before (pool.place worker .ended)
  | takes (job : Job) (jobs : List Job) (stands : pool.workers[worker]? = some .waiting)
      (queued : pool.jobs = job :: jobs) :
      Worked before pool worker (before.take worker job)
        (Pool.place { pool with jobs := jobs } worker (.starting job))
  | marks (job : Job) (marks : List Mark) (mark : Mark) (position moved : WorkerPosition)
      (stands : pool.workers[worker]? = some position) (has : position.underway? = some (job, marks))
      (busy : position.isBusy = true) (still : moved.isBusy = true)
      (goes : moved.underway? = some (job, marks ++ [mark]) ∨
        moved.underway? = none ∧ (Taking.mk worker job (marks ++ [mark])).IsSettled) :
      Worked before pool worker (before.mark worker mark) (pool.place worker moved)
  | passes (position moved : WorkerPosition) (stands : pool.workers[worker]? = some position)
      (busy : position.isBusy = true) (still : moved.isBusy = true)
      (same : moved.underway? = position.underway?) :
      Worked before pool worker before (pool.place worker moved)
  | counts (stands : pool.workers[worker]? = some .counting) :
      Worked before pool worker (before.notify (pool.finishOne.place worker .waiting))
        (pool.finishOne.place worker .waiting)

theorem getElem?_place (stands : ∃ position, pool.workers[worker]? = some position)
    (moved : WorkerPosition) : (pool.place worker moved).workers[worker]? = some moved := by
  obtain ⟨position, stands⟩ := stands
  exact List.getElem?_set_self (List.getElem?_eq_some_iff.mp stands).1

theorem worked_work (found : before.engine.compiler = .pool pool) {engine : Engine}
    (became : engine.compiler = .pool changed) (worked : pool.Worked worker changed) :
    Worked { before with engine := engine } pool worker (before.work worker engine) changed := by
  simp only [work, found, became]
  cases worked with
  | rests =>
      have same : follow { before with engine := engine } worker pool pool =
          { before with engine := engine } := by
        unfold follow
        split <;> simp_all
      rw [same]
      exact .rests
  | ends stands unqueued refuses =>
      simp only [follow, stands, getElem?_place ⟨_, stands⟩]
      exact .ends stands unqueued refuses
  | takes job jobs stands queued =>
      have taken : (Pool.place { pool with jobs := jobs } worker (.starting job)).workers[worker]? =
          some (.starting job) := getElem?_place ⟨_, stands⟩ _
      simp only [follow, stands, taken]
      exact .takes job jobs stands queued
  | starts job stands live =>
      simp only [follow, stands, getElem?_place ⟨_, stands⟩, live]
      exact .marks job [] (.started false) _ _ stands rfl rfl rfl (.inl rfl)
  | skips job stands stopped =>
      simp only [follow, stands, getElem?_place ⟨_, stands⟩, stopped]
      exact .marks job [] (.skipped true) _ _ stands rfl rfl rfl (.inr ⟨rfl, .inr rfl⟩)
  | compiles job optimization moved stands =>
      simp only [follow, stands, getElem?_place ⟨_, stands⟩]
      exact .passes _ _ stands rfl rfl rfl
  | finishes job optimization result stands finished =>
      simp only [follow, stands, getElem?_place ⟨_, stands⟩]
      exact .marks job [.started false] .completed _ _ stands rfl rfl rfl (.inr ⟨rfl, .inl rfl⟩)
  | releases job stands =>
      simp only [follow, stands, getElem?_place ⟨_, stands⟩]
      exact .passes _ _ stands rfl rfl rfl
  | counts stands =>
      have counted : (pool.finishOne.place worker .waiting).workers[worker]? = some .waiting :=
        getElem?_place ⟨_, stands⟩ _
      simp only [follow, stands, counted]
      exact .counts stands

/-- What a caller does next, and what it does to the pool. -/
inductive Proceeded (before : Dispatch) (pool : Pool) (host : Option Nat) :
    Errand → Errand → Pool → Prop
  | enters (job : Job) (free : before.senderLocked = false) (accepts : pool.accepts = true) :
      Proceeded before pool host (.queue job .entering) (.queue job .announcing) pool
  | refused (job : Job) (refuses : pool.accepts = false) :
      Proceeded before pool host (.queue job .entering) (.queue job .returned) pool
  | announces (job : Job) :
      Proceeded before pool host (.queue job .announcing) (.queue job .sending) pool.announce
  | sends (job : Job) :
      Proceeded before pool host (.queue job .sending) (.queue job .leaving) (pool.send job)
  | fails (job : Job) (deserted : ∀ position ∈ pool.workers, position = .ended) :
      Proceeded before pool host (.queue job .sending) (.queue job .retracting) pool
  | retracts (job : Job) :
      Proceeded before pool host (.queue job .retracting) (.queue job .leaving) pool.finishOne
  | leaves (job : Job) :
      Proceeded before pool host (.queue job .leaving) (.queue job .returned) pool
  | finds (since : Nat) (idle : pool.pending = 0) :
      Proceeded before pool host (.wait since .checking) (.wait since .returned) pool
  | dozes (since : Nat) (pends : 0 < pool.pending) :
      Proceeded before pool host (.wait since .checking) (.wait since .asleep) pool
  | stops : Proceeded before pool host (.shutdown .stopping) (.shutdown .closing)
      { pool with stopped := true }
  | closes (free : before.senderLocked = false) :
      Proceeded before pool host (.shutdown .closing) (.shutdown .claiming)
        { pool with accepts := false }
  | claims (free : before.workersLocked = false) :
      Proceeded before pool host (.shutdown .claiming) (.shutdown (.joining before.unclaimed)) pool
  | joins (worker : Nat) (rest : List Nat)
      (passed : host = some worker ∨ pool.workers[worker]? = some .ended) :
      Proceeded before pool host (.shutdown (.joining (worker :: rest))) (.shutdown (.joining rest))
        pool
  | returns : Proceeded before pool host (.shutdown (.joining [])) (.shutdown .returned) pool

theorem proceeded_of_next? {host : Option Nat} {current : Errand}
    (next : before.next? pool ⟨current, host⟩ = some (errand, changed)) :
    Proceeded before pool host current errand changed := by
  cases current with
  | queue job stage =>
      cases stage with
      | entering =>
          obtain ⟨free, same⟩ := Option.ite_none_left_eq_some.mp next
          cases accepts : pool.accepts with
          | true =>
              simp only [accepts, if_true] at same
              cases same
              exact .enters job (Bool.eq_false_iff.mpr free) accepts
          | false =>
              simp only [accepts, Bool.false_eq_true, if_false] at same
              cases same
              exact .refused job accepts
      | announcing => cases next; exact .announces job
      | sending =>
          simp only [next?] at next
          split at next
          · rename_i deserted
            cases next
            exact .fails job (by simpa using deserted)
          · cases next
            exact .sends job
      | retracting => cases next; exact .retracts job
      | leaving => cases next; exact .leaves job
      | returned => cases next
  | wait since stage =>
      cases stage with
      | checking =>
          simp only [next?] at next
          split at next
          · rename_i idle
            cases next
            exact .finds since idle
          · rename_i pends
            cases next
            exact .dozes since (Nat.pos_of_ne_zero pends)
      | _ => cases next
  | shutdown stage =>
      cases stage with
      | stopping => cases next; exact .stops
      | closing =>
          obtain ⟨free, same⟩ := Option.ite_none_left_eq_some.mp next
          cases same
          exact .closes (Bool.eq_false_iff.mpr free)
      | claiming =>
          obtain ⟨free, same⟩ := Option.ite_none_left_eq_some.mp next
          cases same
          exact .claims (Bool.eq_false_iff.mpr free)
      | joining workers =>
          cases workers with
          | nil => cases next; exact .returns
          | cons worker rest =>
              obtain ⟨passed, same⟩ := Option.ite_none_right_eq_some.mp next
              cases same
              exact .joins worker rest passed
      | returned => cases next

/-- What a move does to the pool and to everything around it. -/
inductive Moved (before : Dispatch) (pool : Pool) : Dispatch → Pool → Prop
  | calls (request : PoolRequest) (host : Option Nat) :
      Moved before pool
        { before with calls := before.calls ++ [⟨before.errand request, host⟩] } pool
  | proceeds (index : Nat) (host : Option Nat) (current errand : Errand) (changed : Pool)
      (found : before.calls[index]? = some ⟨current, host⟩)
      (proceeded : Proceeded before pool host current errand changed) :
      Moved before pool (before.proceed index ⟨current, host⟩ errand changed) changed
  | stirs (index since : Nat) (host : Option Nat)
      (found : before.calls[index]? = some ⟨.wait since .asleep, host⟩) :
      Moved before pool
        { before with calls := before.calls.set index ⟨.wait since .checking, host⟩ } pool
  | works (worker : Nat) (engine : Engine) (after : Dispatch) (changed : Pool)
      (worked : Worked { before with engine := engine } pool worker after changed) :
      Moved before pool after changed
  | elsewhere (engine : Engine) : Moved before pool { before with engine := engine } pool

theorem compiler_proceed (before : Dispatch) (index : Nat) (call : PoolCall) (errand : Errand)
    (pool : Pool) : (before.proceed index call errand pool).engine.compiler = .pool pool := by
  have placed : (before.place call errand pool).compiler = .pool pool := by
    unfold place
    split <;> rfl
  unfold proceed
  split
  · exact placed
  · simp only [notify]
    split <;> exact placed
  · exact placed
  · exact placed

@[simp] theorem engine_notify (dispatch : Dispatch) (pool : Pool) :
    (dispatch.notify pool).engine = dispatch.engine := by
  unfold notify
  split <;> rfl

theorem engine_work (before : Dispatch) (worker : Nat) (engine : Engine) :
    (before.work worker engine).engine = engine := by
  unfold work
  split
  · unfold follow
    split <;> simp [take, mark]
  · rfl

theorem moved_of_move? (found : before.engine.compiler = .pool pool)
    (moved : before.move? move = some after) :
    ∃ changed, after.engine.compiler = .pool changed ∧ Moved before pool after changed := by
  cases move with
  | call request host =>
      obtain ⟨_, same⟩ := Option.ite_none_right_eq_some.mp moved
      cases same
      exact ⟨pool, found, .calls request host⟩
  | proceed index =>
      cases there : before.calls[index]? with
      | none => simp [move?, found, there] at moved
      | some call =>
          obtain ⟨current, host⟩ := call
          simp only [move?, found, there] at moved
          obtain ⟨⟨errand, changed⟩, next, same⟩ := Option.map_eq_some_iff.mp moved
          cases same
          exact ⟨changed, before.compiler_proceed index _ errand changed,
            .proceeds index host current errand changed there (proceeded_of_next? next)⟩
  | stir index =>
      simp only [move?] at moved
      split at moved
      · rename_i since host there
        cases moved
        exact ⟨pool, found, .stirs index since host there⟩
      · cases moved
  | work worker =>
      obtain ⟨_, same⟩ := Option.ite_none_left_eq_some.mp moved
      cases same
      obtain ⟨changed, became, worked⟩ := Engine.pool_stepWorker found worker
      exact ⟨changed, by rw [engine_work, became], .works worker _ _ changed
        (worked_work found became worked)⟩
  | answer worker result =>
      obtain ⟨_, same⟩ := Option.ite_none_right_eq_some.mp moved
      cases same
      obtain ⟨changed, became, worked⟩ := Engine.pool_answerWorker found worker result
      exact ⟨changed, by rw [engine_work, became], .works worker _ _ changed
        (worked_work found became worked)⟩
  | elsewhere engine =>
      cases moved
      exact ⟨pool, found, .elsewhere _⟩

theorem Proceeded.workers_eq (proceeded : Proceeded before pool host current errand changed) :
    changed.workers = pool.workers := by
  cases proceeded <;> rfl

@[simp] theorem takings_notify (dispatch : Dispatch) (pool : Pool) :
    (dispatch.notify pool).takings = dispatch.takings := by
  unfold notify
  split <;> rfl

@[simp] theorem desk_notify (dispatch : Dispatch) (pool : Pool) :
    (dispatch.notify pool).desk = dispatch.desk := by
  unfold notify
  split <;> rfl

@[simp] theorem takings_proceed (before : Dispatch) (index : Nat) (call : PoolCall) (errand : Errand)
    (pool : Pool) : (before.proceed index call errand pool).takings = before.takings := by
  unfold proceed
  split <;> simp

@[simp] theorem desk_proceed (before : Dispatch) (index : Nat) (call : PoolCall) (errand : Errand)
    (pool : Pool) : (before.proceed index call errand pool).desk = before.desk := by
  unfold proceed
  split <;> simp

/-! ### Calls that nobody interrupts -/

variable {calls : List PoolCall}

/-- The last call of all takes its next step. -/
theorem run?_last (current errand : Errand) (changed : Pool) {more : List Move}
    (found : dispatch.engine.compiler = .pool pool) (last : dispatch.calls = calls ++ [⟨current, none⟩])
    (next : dispatch.next? pool ⟨current, none⟩ = some (errand, changed))
    (rest : (dispatch.proceed calls.length ⟨current, none⟩ errand changed).run? more = some after) :
    dispatch.run? (.proceed calls.length :: more) = some after := by
  refine Run.final?_cons_eq_some_iff.mpr ⟨_, ?_, rest⟩
  simp [move?, found, last, next]

theorem calls_set_last (last : dispatch.calls = calls ++ [call]) (other : PoolCall) :
    dispatch.calls.set calls.length other = calls ++ [other] := by
  simp [last]

theorem not_senderLocked (last : dispatch.calls = calls ++ [call])
    (free : (calls.any fun call => call.errand.hasSender) = false)
    (without : call.errand.hasSender = false) : ¬dispatch.senderLocked = true := by
  simp only [senderLocked, last, List.any_append, free, List.any_cons, without, List.any_nil,
    Bool.or_false, Bool.false_eq_true, not_false_iff]

/-- The steps of a job that is queued are together the offer to the compiler. -/
theorem engine_queue (found : dispatch.engine.compiler = .pool pool)
    (free : dispatch.senderLocked = false) (accepts : pool.accepts = true)
    (manned : ¬pool.workers.all (· == .ended) = true) (job : Job) :
    ∃ after, dispatch.run? [.call (.queue job) none, .proceed dispatch.calls.length,
        .proceed dispatch.calls.length, .proceed dispatch.calls.length,
        .proceed dispatch.calls.length] = some after ∧
      after.engine = dispatch.engine.offerJob job := by
  have enters {opened : Dispatch} (free : ¬opened.senderLocked = true) :
      opened.next? pool ⟨.queue job .entering, none⟩ = some (.queue job .announcing, pool) := by
    simp only [next?, if_neg free, accepts, if_true]
  refine ⟨_, Run.final?_cons_eq_some_iff.mpr ⟨_, rfl,
    run?_last (.queue job .entering) (.queue job .announcing) pool found rfl
        (enters (not_senderLocked rfl free rfl)) <|
      run?_last (.queue job .announcing) (.queue job .sending) pool.announce rfl (calls_set_last rfl _)
        rfl <|
      run?_last (.queue job .sending) (.queue job .leaving) (pool.offer job) rfl
        (calls_set_last (calls_set_last rfl _) _) (if_neg manned) <|
      run?_last (.queue job .leaving) (.queue job .returned) (pool.offer job) rfl
        (calls_set_last (calls_set_last (calls_set_last rfl _) _) _) rfl rfl⟩, ?_⟩
  simp only [Engine.offerJob, found, Compiler.accepts, accepts, if_true, Compiler.offer]
  rfl

/-- Before a shutdown waits for the workers, it has stopped the compiler. -/
theorem engine_shutdown (found : dispatch.engine.compiler = .pool pool)
    (free : dispatch.senderLocked = false) :
    ∃ after, dispatch.run? [.call .shutdown none, .proceed dispatch.calls.length,
        .proceed dispatch.calls.length] = some after ∧
      after.engine = dispatch.engine.stopCompiler := by
  refine ⟨_, Run.final?_cons_eq_some_iff.mpr ⟨_, rfl,
    run?_last (.shutdown .stopping) (.shutdown .closing) { pool with stopped := true } found rfl rfl <|
      run?_last (.shutdown .closing) (.shutdown .claiming) pool.stop rfl (calls_set_last rfl _)
        (if_neg (not_senderLocked (calls_set_last rfl _) free rfl)) rfl⟩, ?_⟩
  simp only [Engine.stopCompiler, found]
  rfl

end Dispatch

end PipelineCache

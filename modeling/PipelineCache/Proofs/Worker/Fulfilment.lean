import PipelineCache.Proofs.Worker.Joining
import PipelineCache.Proofs.Worker.Waiting

/-! Every job that a pool accepts is accounted for, however its workers, those who queue jobs, those who
wait and those who shut it down take turns. -/

namespace PipelineCache

namespace Dispatch

variable {before after dispatch : Dispatch} {pool changed : Pool} {worker index : Nat} {call : PoolCall}
  {errand current : Errand} {job : Job} {host : Option Nat}

/-- All that is kept, of a pool and of everybody who uses it. -/
structure Sound (dispatch : Dispatch) (pool : Pool) : Prop where
  orderly : dispatch.Orderly pool
  counted : dispatch.Counted pool
  recorded : dispatch.Recorded pool
  attended : dispatch.Attended pool
  joined : dispatch.Joined pool

theorem sound_start (engine : Engine) (workers : Nat) :
    (start engine workers).Sound (.ofSize workers) where
  orderly := orderly_start engine workers
  counted := counted_start engine workers
  recorded := recorded_start engine workers
  attended _ member := nomatch member
  joined := joined_start engine workers

theorem Sound.moved (sound : before.Sound pool) (moved : Moved before pool after changed) :
    after.Sound changed where
  orderly := sound.orderly.moved moved
  counted := sound.counted.moved sound.orderly moved
  recorded := sound.recorded.moved moved
  attended := sound.attended.moved sound.counted sound.recorded moved
  joined := sound.joined.moved sound.orderly sound.counted moved

variable {engine : Engine} {workers : Nat} {moves : List Move}

theorem sound_run (ran : (start engine workers).run? moves = some dispatch) :
    ∃ pool, dispatch.engine.compiler = .pool pool ∧ dispatch.Sound pool := by
  refine Run.kept (motive := fun dispatch => ∃ pool, dispatch.engine.compiler = .pool pool ∧
    dispatch.Sound pool) ?_ ⟨_, rfl, sound_start engine workers⟩ ran
  rintro before move after ⟨pool, found, sound⟩ possible
  obtain ⟨changed, became, moved⟩ := moved_of_move? found possible
  exact ⟨changed, became, sound.moved moved⟩

/-- Nobody is about to send a job once the sender is closed. -/
theorem Orderly.unsent_eq_nil (orderly : dispatch.Orderly pool) (refuses : pool.accepts = false) :
    dispatch.unsent = [] := by
  refine List.flatMap_eq_nil_iff.mpr fun call member => Errand.unsent_eq_nil ?_
  refine Bool.eq_false_iff.mpr fun has => ?_
  rw [orderly.accepts call member has] at refuses
  cases refuses

/-- Once the sender is closed it stays so, and no job is accepted any more. -/
theorem Moved.refuses_later (moved : Moved before pool after changed) (orderly : before.Orderly pool)
    (refuses : pool.accepts = false) :
    changed.accepts = false ∧ after.accepted = before.accepted := by
  cases moved with
  | proceeds index host current errand changed found proceeded =>
      cases proceeded with
      | announces job =>
          rw [orderly.accepts _ (List.mem_of_getElem? found) rfl] at refuses
          cases refuses
      | retracts job =>
          refine ⟨refuses, ?_⟩
          simp only [proceed, notify]
          split <;> rfl
      | closes free => exact ⟨rfl, rfl⟩
      | _ => exact ⟨refuses, rfl⟩
  | works worker engine after changed worked =>
      cases worked with
      | counts stands =>
          refine ⟨refuses, ?_⟩
          simp only [notify]
          split <;> rfl
      | _ => exact ⟨refuses, rfl⟩
  | _ => exact ⟨refuses, rfl⟩

theorem accepted_of_refused (sound : before.Sound pool)
    (found : before.engine.compiler = .pool pool) (refuses : pool.accepts = false)
    (ran : before.run? moves = some after) : after.accepted = before.accepted := by
  refine (Run.kept (motive := fun dispatch => (∃ pool, dispatch.engine.compiler = .pool pool ∧
    dispatch.Sound pool ∧ pool.accepts = false) ∧ dispatch.accepted = before.accepted) ?_
    ⟨⟨pool, found, sound, refuses⟩, rfl⟩ ran).2
  rintro middle move next ⟨⟨pool, found, sound, refuses⟩, same⟩ possible
  obtain ⟨changed, became, moved⟩ := moved_of_move? found possible
  obtain ⟨still, accepted⟩ := moved.refuses_later sound.orderly refuses
  exact ⟨⟨changed, became, sound.moved moved, still⟩, accepted.trans same⟩

/-- Whoever queues a job when the sender is closed changes nothing by it. -/
theorem queue_of_refused (orderly : before.Orderly pool)
    (found : before.engine.compiler = .pool pool) (refuses : pool.accepts = false) {job : Job}
    {stage : QueueStage} (called : before.calls[index]? = some ⟨.queue job stage, host⟩)
    (moved : before.move? (.proceed index) = some after) :
    after.engine = before.engine ∧ after.accepted = before.accepted ∧
      after.takings = before.takings := by
  have without : Errand.hasSender (.queue job stage) = false := by
    refine Bool.eq_false_iff.mpr fun has => ?_
    rw [orderly.accepts _ (List.mem_of_getElem? called) has] at refuses
    cases refuses
  simp only [move?, found, called] at moved
  obtain ⟨⟨errand, changed⟩, next, rfl⟩ := Option.map_eq_some_iff.mp moved
  cases proceeded_of_next? next with
  | enters job free accepts =>
      rw [accepts] at refuses
      cases refuses
  | refused job _ => exact ⟨by simp [proceed, place, ← found], rfl, rfl⟩
  | _ => cases without

/-- Workers that have all ended take no more jobs, and compile none. -/
theorem takings_of_ended (found : before.engine.compiler = .pool pool)
    (ended : ∀ position ∈ pool.workers, position = .ended)
    (ran : before.run? moves = some after) : after.takings = before.takings := by
  refine (Run.kept (motive := fun dispatch => (∃ pool, dispatch.engine.compiler = .pool pool ∧
    ∀ position ∈ pool.workers, position = .ended) ∧ dispatch.takings = before.takings) ?_
    ⟨⟨pool, found, ended⟩, rfl⟩ ran).2
  rintro middle move next ⟨⟨pool, found, ended⟩, same⟩ possible
  obtain ⟨changed, became, moved⟩ := moved_of_move? found possible
  have rests {worker : Nat} {position : WorkerPosition}
      (stands : pool.workers[worker]? = some position) : position = .ended :=
    ended position (List.mem_of_getElem? stands)
  cases moved with
  | proceeds index host current errand changed _ proceeded =>
      exact ⟨⟨changed, became, proceeded.workers_eq ▸ ended⟩, (takings_proceed ..).trans same⟩
  | works worker engine after changed worked =>
      cases worked with
      | rests => exact ⟨⟨pool, became, ended⟩, same⟩
      | marks job marks mark position moved stands has busy _ _ =>
          rw [rests stands] at busy
          cases busy
      | passes position moved stands busy _ _ =>
          rw [rests stands] at busy
          cases busy
      | ends stands _ _ => cases rests stands
      | takes job jobs stands _ => cases rests stands
      | counts stands => cases rests stands
  | _ => exact ⟨⟨pool, became, ended⟩, same⟩

/-- A shutdown that has returned has left nothing behind, unless a worker has called one itself. -/
theorem Sound.closed (sound : dispatch.Sound pool) (member : ⟨.shutdown .returned, host⟩ ∈ dispatch.calls)
    (outside : ∀ call ∈ dispatch.calls, call.stopper? = none) :
    pool.jobs = [] ∧ pool.pending = 0 ∧ ∀ position ∈ pool.workers, position = .ended := by
  have ended : ∀ position ∈ pool.workers, position = .ended := by
    intro position there
    obtain ⟨worker, inside, rfl⟩ := List.getElem_of_mem there
    rcases sound.joined.returned _ member rfl worker inside with ended | called
    · exact (List.getElem?_eq_some_iff.mp ended).2
    · obtain ⟨call, made, inner⟩ := List.mem_map.mp called
      rw [outside call made] at inner
      cases inner
  obtain ⟨position, there⟩ := List.exists_mem_of_ne_nil _ sound.orderly.manned
  obtain ⟨refuses, unqueued⟩ := sound.orderly.ended (ended position there ▸ there)
  have resting : pool.workers.countP WorkerPosition.isBusy = 0 :=
    List.countP_eq_zero.mpr fun position there => by simp [ended position there, WorkerPosition.isBusy]
  have pending := sound.counted.pending
  rw [unqueued, resting, sound.orderly.unsent_eq_nil refuses] at pending
  exact ⟨unqueued, pending, ended⟩

/-- Whoever queues jobs, waits or shuts down, in whatever order, and whatever the workers do meanwhile:
the count is the number of jobs in the channel, in the hands of workers, and about to be sent, so that it
is never lowered from zero. Workers take the accepted jobs in their order, each once; each was compiled
once or, as the pool was stopped, dropped, unless its worker is still on it. Jobs queued after the sender
was closed change nothing. When a call that waits has returned, all jobs are settled that were accepted
before it was made, and as long as one sleeps some job is pending. And when a shutdown has returned, and
no worker has called one itself, no job is left and none will be compiled. -/
theorem every_job_accounted_for (ran : (start engine workers).run? moves = some dispatch) :
    ∃ pool, dispatch.engine.compiler = .pool pool ∧
      pool.pending = pool.jobs.length + pool.workers.countP WorkerPosition.isBusy +
        dispatch.unsent.length ∧
      (∀ worker : Nat, pool.workers[worker]? = some .counting → 0 < pool.pending) ∧
      (∀ call ∈ dispatch.calls, call.errand.isRetracting = false) ∧
      dispatch.takings.map Taking.job ++ (pool.jobs ++ dispatch.unsent) = dispatch.accepted ∧
      (∀ taking ∈ dispatch.takings, taking.IsSettled ∨
        ∃ position, pool.workers[taking.worker]? = some position ∧
          position.underway? = some (taking.job, taking.marks)) ∧
      (pool.accepts = false →
        (∀ index job stage host after,
          dispatch.calls[index]? = some ⟨.queue job stage, host⟩ →
          dispatch.move? (.proceed index) = some after →
          after.engine = dispatch.engine ∧ after.accepted = dispatch.accepted ∧
            after.takings = dispatch.takings) ∧
        ∀ more later, dispatch.run? more = some later → later.accepted = dispatch.accepted) ∧
      (∀ since host, ⟨.wait since .returned, host⟩ ∈ dispatch.calls → dispatch.SettledUpTo since) ∧
      (∀ since host, ⟨.wait since .asleep, host⟩ ∈ dispatch.calls → 0 < pool.pending) ∧
      (∀ host, ⟨.shutdown .returned, host⟩ ∈ dispatch.calls →
        (∀ call ∈ dispatch.calls, call.stopper? = none) →
        pool.jobs = [] ∧ pool.pending = 0 ∧ (∀ position ∈ pool.workers, position = .ended) ∧
          ∀ more later, dispatch.run? more = some later → later.takings = dispatch.takings) := by
  obtain ⟨pool, found, sound⟩ := sound_run ran
  refine ⟨pool, found, sound.counted.pending, ?_, sound.counted.kept, sound.counted.order, ?_, ?_,
    ?_, ?_, ?_⟩
  · intro worker stands
    have busy : 0 < pool.workers.countP WorkerPosition.isBusy :=
      List.countP_pos_iff.mpr ⟨_, List.mem_of_getElem? stands, rfl⟩
    have pending := sound.counted.pending
    omega
  · intro taking member
    obtain ⟨number, there⟩ := List.getElem?_of_mem member
    exact (sound.recorded.settled number taking there).imp_right And.right
  · intro refuses
    exact ⟨fun index job stage host after called moved =>
        queue_of_refused sound.orderly found refuses called moved,
      fun more later => accepted_of_refused sound found refuses⟩
  · intro since host member
    exact sound.attended _ member
  · intro since host member
    exact (sound.attended _ member).2
  · intro host member outside
    obtain ⟨unqueued, idle, ended⟩ := sound.closed member outside
    exact ⟨unqueued, idle, ended, fun more later => takings_of_ended found ended⟩

/-- An engine with one pipeline and one instance that is still to be optimized. -/
def bench : Engine :=
  { pipelines := [{ shaders := {} }], store := ⟨[some ⟨{ state := {}, pass := ⟨1, {}⟩ }, 1⟩]⟩ }

/-- Two jobs are queued and somebody waits for them. The only worker does the first; then a shutdown stops
the pool, so that the worker drops the second. The waiting call returns, and after it the shutdown, when
the worker has ended. A third job is queued in vain. -/
def closing (handle : PipelineHandle) : List Move :=
  [.call (.queue ⟨0, 0⟩) none, .proceed 0, .proceed 0, .proceed 0, .proceed 0,
    .call (.queue ⟨0, 0⟩) none, .proceed 1, .proceed 1, .proceed 1, .proceed 1,
    .call .waitIdle none, .proceed 2, .work 0, .work 0, .work 0, .work 0, .answer 0 (.ok handle),
    .work 0, .work 0, .work 0, .work 0, .work 0, .call .shutdown none, .proceed 3,
    .work 0, .work 0, .work 0, .work 0, .work 0, .work 0, .proceed 2, .proceed 3, .proceed 3,
    .work 0, .proceed 3, .proceed 3, .call (.queue ⟨0, 0⟩) none, .proceed 4]

theorem every_job_accounted_for_closing : ∃ dispatch,
    (start bench 1).run? (closing ⟨1, by decide⟩) = some dispatch ∧
    dispatch.takings.map Taking.marks = [[.started false, .completed], [.skipped true]] ∧
    dispatch.accepted = [⟨0, 0⟩, ⟨0, 0⟩] ∧ dispatch.SettledUpTo 2 ∧
    ∃ pool, dispatch.engine.compiler = .pool pool ∧ pool.jobs = [] ∧ pool.pending = 0 := by
  have ran : (start bench 1).run? (closing ⟨1, by decide⟩) =
      some (((start bench 1).run? (closing ⟨1, by decide⟩)).get (by decide)) :=
    (Option.some_get _).symm
  obtain ⟨pool, found, _, _, _, _, _, _, waits, _, closes⟩ := every_job_accounted_for ran
  obtain ⟨unqueued, idle, _⟩ := closes none (by decide) (by decide)
  exact ⟨_, ran, by decide, by decide, waits 2 none (by decide), pool, found, unqueued, idle⟩

end Dispatch

end PipelineCache

import PipelineCache.Engine.Worker
import PipelineCache.Proofs.Store

/-! One step of a worker of the background compiler. It takes a job, optimizes the instance step by step,
gives it up, and counts the job as done. -/

namespace PipelineCache

theorem Pool.place_self {pool : Pool} {worker : Nat} {position : WorkerPosition}
    (stands : pool.workers[worker]? = some position) : pool.place worker position = pool := by
  obtain ⟨inside, rfl⟩ := List.getElem?_eq_some_iff.mp stands
  rw [place, List.set_getElem_self]

/-- The worker has a job that is counted as pending. -/
def WorkerPosition.isBusy : WorkerPosition → Bool
  | .waiting => false
  | .ended => false
  | _ => true

theorem Pool.countP_place {pool : Pool} {worker : Nat} {old : WorkerPosition}
    (stands : pool.workers[worker]? = some old) (new : WorkerPosition) :
    (pool.place worker new).workers.countP WorkerPosition.isBusy + old.isBusy.toNat =
      pool.workers.countP WorkerPosition.isBusy + new.isBusy.toNat :=
  countP_set_of_getElem? WorkerPosition.isBusy stands new

theorem Optimization.exists_of_isFinished {optimization : Optimization}
    (finished : (Call.optimize optimization).isFinished = true) :
    ∃ result, optimization.position = .finished result := by
  obtain ⟨entry, position⟩ := optimization
  cases position <;> first | exact ⟨_, rfl⟩ | cases finished

namespace Engine

variable {engine : Engine} {pool : Pool} {id worker : Nat} {pipeline : Pipeline}

/-- An engine after a step on one of its pipelines, apart from what happens outside the pipeline. -/
def changeShared (engine : Engine) (id : PipelineId) (shared : Shared) : Engine :=
  { engine with pipelines := engine.pipelines.set id shared.pipeline, store := shared.store }

theorem shared?_of_getElem? (there : engine.pipelines[id]? = some pipeline) :
    engine.shared? id = some ⟨pipeline, engine.store⟩ := by
  simp [shared?, there]

/-- An optimization makes nothing happen outside its pipeline. -/
theorem absorb_optimization (optimization : Optimization) (shared : Shared) (thread : Thread)
    (turn : Turn) :
    ((optimization.step shared).2.2.foldl (absorb thread id) turn).engine = turn.engine := by
  obtain ⟨entry, position⟩ := optimization
  cases present : shared.store.get? entry with
  | none => simp only [Optimization.step, present, List.foldl_nil]
  | some realized =>
      cases position with
      | preparing =>
          simp only [Optimization.step, present]
          split <;> rfl
      | installing handle =>
          simp only [Optimization.step, present]
          split <;> rfl
      | adopting handle =>
          simp only [Optimization.step, present, Optimization.adoption]
          split
          · rfl
          · split <;> rfl
      | _ =>
          simp only [Optimization.step, present]
          rfl

theorem stepCall_optimize (there : engine.pipelines[id]? = some pipeline) (thread : Thread)
    (optimization : Optimization) :
    (engine.stepCall thread id (.optimize optimization)).1 =
        .optimize (optimization.step ⟨pipeline, engine.store⟩).1 ∧
      (engine.stepCall thread id (.optimize optimization)).2.engine =
        engine.changeShared id (optimization.step ⟨pipeline, engine.store⟩).2.1 := by
  simp only [stepCall, shared?_of_getElem? there, Call.step]
  refine ⟨trivial, ?_⟩
  rw [absorb_optimization]
  rfl

/-- What a step of a worker leads to, as long as the compiler is not stopped. -/
inductive WorkerStep (engine : Engine) (worker : Nat) : Engine → Prop
  | idle : WorkerStep engine worker engine
  | takes (pool : Pool) (job : Job) (jobs : List Job) (found : engine.compiler = .pool pool)
      (stands : pool.workers[worker]? = some .waiting) (queued : pool.jobs = job :: jobs) :
      WorkerStep engine worker { engine with
        compiler := .pool (Pool.place { pool with jobs := jobs } worker (.starting job)) }
  | starts (pool : Pool) (job : Job) (found : engine.compiler = .pool pool)
      (stands : pool.workers[worker]? = some (.starting job)) :
      WorkerStep engine worker { engine with
        compiler := .pool (pool.place worker (.compiling job ⟨job.entry, .checking⟩)) }
  | acts (pool : Pool) (job : Job) (optimization : Optimization) (pipeline : Pipeline)
      (found : engine.compiler = .pool pool)
      (stands : pool.workers[worker]? = some (.compiling job optimization))
      (there : engine.pipelines[job.pipeline]? = some pipeline) :
      WorkerStep engine worker
        { engine.changeShared job.pipeline (optimization.step ⟨pipeline, engine.store⟩).2.1 with
          compiler := .pool (pool.place worker
            (.compiling job (optimization.step ⟨pipeline, engine.store⟩).1)) }
  | finishes (pool : Pool) (job : Job) (optimization : Optimization) (result : Bool)
      (found : engine.compiler = .pool pool)
      (stands : pool.workers[worker]? = some (.compiling job optimization))
      (finished : optimization.position = .finished result) :
      WorkerStep engine worker { engine with
        compiler := .pool (pool.place worker (.releasing job)) }
  | releases (pool : Pool) (job : Job) (found : engine.compiler = .pool pool)
      (stands : pool.workers[worker]? = some (.releasing job)) :
      WorkerStep engine worker { engine with
        store := (engine.store.release job.entry).2
        compiler := .pool (pool.place worker .counting) }
  | counts (pool : Pool) (found : engine.compiler = .pool pool)
      (stands : pool.workers[worker]? = some .counting) :
      WorkerStep engine worker { engine with
        compiler := .pool (pool.finishOne.place worker .waiting) }

theorem placeWorker_of_pool (found : engine.compiler = .pool pool) (worker : Nat)
    (position : WorkerPosition) : engine.placeWorker worker position =
      { engine with compiler := .pool (pool.place worker position) } := by
  simp only [placeWorker, found]

theorem workerStep (running : ∀ pool, engine.compiler = .pool pool →
    pool.accepts = true ∧ pool.stopped = false) (worker : Nat) :
    engine.WorkerStep worker (engine.stepWorker worker).engine := by
  cases found : engine.compiler with
  | recording jobs =>
      simp only [stepWorker, found]
      exact .idle
  | pool pool =>
      obtain ⟨accepts, live⟩ := running pool found
      have place (position : WorkerPosition) := placeWorker_of_pool found worker position
      cases stands : pool.workers[worker]? with
      | none =>
          simp only [stepWorker, workerAt?, found, stands]
          exact .idle
      | some position =>
          cases position with
          | waiting =>
              cases queued : pool.jobs with
              | nil =>
                  simp only [stepWorker, workerAt?, found, stands, queued, accepts, if_true]
                  exact .idle
              | cons job jobs =>
                  simp only [stepWorker, workerAt?, found, stands, queued]
                  exact .takes pool job jobs found stands queued
          | starting job =>
              simp only [stepWorker, workerAt?, found, stands, live, Bool.false_eq_true, if_false,
                place]
              exact .starts pool job found stands
          | compiling job optimization =>
              cases finished : (Call.optimize optimization).isFinished with
              | true =>
                  obtain ⟨result, done⟩ := Optimization.exists_of_isFinished finished
                  simp only [stepWorker, workerAt?, found, stands, finished, if_true, place]
                  exact .finishes pool job optimization result found stands done
              | false =>
                  simp only [stepWorker, workerAt?, found, stands, finished, Bool.false_eq_true, if_false]
                  cases there : engine.pipelines[job.pipeline]? with
                  | none =>
                      have same : engine.stepCall .compiler job.pipeline (.optimize optimization) =
                          (.optimize optimization, engine.unchanged) := by
                        simp [stepCall, shared?, there]
                      rw [same]
                      simp only [unchanged, place, Pool.place_self stands]
                      rw [← found]
                      exact .idle
                  | some pipeline =>
                      obtain ⟨next, after⟩ := stepCall_optimize there .compiler optimization
                      rw [next]
                      simp only [after, placeWorker, changeShared, found]
                      exact .acts pool job optimization pipeline found stands there
          | releasing job =>
              simp only [stepWorker, workerAt?, found, stands, place]
              exact .releases pool job found stands
          | counting =>
              simp only [stepWorker, workerAt?, found, stands]
              exact .counts pool found stands
          | ended =>
              simp only [stepWorker, workerAt?, found, stands]
              exact .idle

end Engine

end PipelineCache

import PipelineCache.Proofs.Session.Overview

/-! When a session is at rest. A queue whose worker is not busy belongs to a worker that waits, and the
compiler counts the jobs that wait and the workers that are at work. So whoever waits for a queue to be
idle, or for the count to be zero, finds that nothing is on its way any more. -/

namespace PipelineCache

namespace Pool

variable {pool : Pool} {worker : Nat} {old : WorkerPosition}

def Counted (pool : Pool) : Prop :=
  pool.pending = pool.jobs.length + pool.workers.countP WorkerPosition.isBusy

theorem Counted.place {new : WorkerPosition} (counted : pool.Counted)
    (stands : pool.workers[worker]? = some old) (same : new.isBusy = old.isBusy) :
    (pool.place worker new).Counted := by
  have changed := countP_place stands new
  rw [same] at changed
  rw [Counted] at counted ⊢
  simp only [Pool.place] at changed ⊢
  omega

theorem counted_ofSize (workers : Nat) : (ofSize workers).Counted := by
  simp [Counted, ofSize, List.countP_replicate, WorkerPosition.isBusy]

theorem Counted.offer (counted : pool.Counted) (job : Job) : (pool.offer job).Counted := by
  simp only [Counted, Pool.offer, announce, send, List.length_append, List.length_singleton]
    at counted ⊢
  omega

/-- If nothing is pending, no job is left. -/
theorem Counted.tasks_eq_nil (counted : pool.Counted) (done : pool.pending = 0) : pool.tasks = [] := by
  rw [Counted, done] at counted
  have unqueued : pool.jobs = [] := List.eq_nil_of_length_eq_zero (by omega)
  have resting : pool.workers.countP WorkerPosition.isBusy = 0 := by omega
  rw [tasks, unqueued, List.map_nil, List.nil_append, List.filterMap_eq_nil_iff]
  intro position member
  have rests := List.countP_eq_zero.mp resting position member
  cases position <;> first | rfl | exact absurd rfl rests

end Pool

def Compiler.Counted : Compiler → Prop
  | recording _ => True
  | pool current => current.Counted

theorem Compiler.Counted.offer {compiler : Compiler} (counted : compiler.Counted) (job : Job) :
    (compiler.offer job).Counted := by
  cases compiler with
  | recording jobs => trivial
  | pool current => exact Pool.Counted.offer counted job

/-- Each worker of a cache has a busy queue, unless it waits or has ended. -/
structure Cache.Attended (cache : Cache) : Prop where
  writer : cache.writerQueue.busy = false →
    cache.writerPosition = .waiting ∨ cache.writerPosition = .ended
  lookup : cache.lookupQueue.busy = false →
    cache.lookupPosition = .waiting ∨ cache.lookupPosition = .ended

namespace Session

variable {before after session start : Session} {move : Move} {moves : List Move} {cache : Cache}
  {engine : Engine}

/-- The queues of the cache and the count of the compiler tell whether something is left to do. -/
structure Attended (engine : Engine) : Prop where
  cache : ∀ cache, engine.cache = some cache → cache.Attended
  compiler : engine.compiler.Counted

theorem Attended.write (attended : Attended before.engine) (stepped : before.engine.WriterStep engine) :
    Attended engine := by
  have keeps {cache changed : Cache} (found : before.engine.cache = some cache)
      (queue : changed.lookupQueue.busy = cache.lookupQueue.busy)
      (position : changed.lookupPosition = cache.lookupPosition)
      (writer : changed.writerQueue.busy = false →
        changed.writerPosition = .waiting ∨ changed.writerPosition = .ended) :
      ∀ other, some changed = some other → other.Attended := by
    rintro _ ⟨⟩
    refine ⟨writer, fun idle => ?_⟩
    rw [position]
    exact (attended.cache cache found).lookup (queue ▸ idle)
  cases stepped with
  | idle => exact attended
  | rests cache found position _ => exact ⟨keeps found rfl rfl fun _ => Or.inl position, attended.compiler⟩
  | takes cache job jobs found _ _ =>
      exact ⟨keeps found rfl rfl (fun idle => by cases idle), attended.compiler⟩
  | records cache job key writer recording disk found position _ _ =>
      refine ⟨keeps found rfl rfl fun idle => ?_, attended.compiler⟩
      rcases (attended.cache cache found).writer idle with wrong | wrong <;>
        rw [position] at wrong <;> cases wrong
  | forwards cache key found _ => exact ⟨keeps found rfl rfl fun _ => Or.inl rfl, attended.compiler⟩

theorem Attended.look {result : Except CacheError UInt64} (attended : Attended before.engine)
    (stepped : before.engine.LookupStep result engine) : Attended engine := by
  have keeps {cache changed : Cache} (found : before.engine.cache = some cache)
      (queue : changed.writerQueue = cache.writerQueue)
      (position : changed.writerPosition = cache.writerPosition)
      (lookup : changed.lookupQueue.busy = false →
        changed.lookupPosition = .waiting ∨ changed.lookupPosition = .ended) :
      ∀ other, some changed = some other → other.Attended := by
    rintro _ ⟨⟩
    refine ⟨fun idle => ?_, lookup⟩
    rw [position]
    exact (attended.cache cache found).writer (queue ▸ idle)
  -- A lookup that is at work has a busy queue, and does not come to rest with this step.
  have busy {cache : Cache} (found : before.engine.cache = some cache)
      (working : ¬ (cache.lookupPosition = .waiting ∨ cache.lookupPosition = .ended))
      {goal : Prop} (idle : cache.lookupQueue.busy = false) : goal :=
    absurd ((attended.cache cache found).lookup idle) working
  cases stepped with
  | idle => exact attended
  | rests cache found position _ => exact ⟨keeps found rfl rfl fun _ => Or.inl rfl, attended.compiler⟩
  | takes cache entry entries found _ _ =>
      exact ⟨keeps found rfl rfl (fun idle => by cases idle), attended.compiler⟩
  | handles cache entry stats found position =>
      exact ⟨keeps found rfl rfl (busy found (by simp [position])), attended.compiler⟩
  | returns cache found position => exact ⟨keeps found rfl rfl fun _ => Or.inl rfl, attended.compiler⟩
  | builds cache ready others found position =>
      refine ⟨keeps found rfl rfl (busy found (by simp [position])), ?_⟩
      simpa only [Engine.compiler_obtainPipeline] using attended.compiler
  | passes cache key pipeline ready pass passes found position _ =>
      exact ⟨keeps found rfl rfl (busy found (by simp [position])), attended.compiler⟩
  | refused cache key pipeline ready error found position _ =>
      exact ⟨keeps found rfl rfl (busy found (by simp [position])), attended.compiler⟩
  | submits cache key pipeline pass ready found position =>
      exact ⟨keeps found rfl rfl (busy found (by simp [position])), attended.compiler.offer _⟩
  | counts cache ready stats found position =>
      exact ⟨keeps found rfl rfl (busy found (by simp [position])), attended.compiler⟩

theorem Attended.work {worker : Nat} (attended : Attended before.engine)
    (stepped : before.engine.WorkerStep worker engine) : Attended engine := by
  have counted {pool : Pool} (found : before.engine.compiler = .pool pool) : pool.Counted := by
    have counted := attended.compiler
    rwa [found] at counted
  cases stepped with
  | idle => exact attended
  | takes pool job jobs found stands queued =>
      have changed := Pool.countP_place stands (.starting job)
      have total := counted found
      refine ⟨attended.cache, ?_⟩
      simp only [Compiler.Counted, Pool.Counted, Pool.place, queued, List.length_cons,
        WorkerPosition.isBusy, Bool.toNat_false, Bool.toNat_true] at changed total ⊢
      omega
  | starts pool job found stands => exact ⟨attended.cache, (counted found).place stands rfl⟩
  | acts pool job optimization pipeline found stands _ =>
      exact ⟨attended.cache, (counted found).place stands rfl⟩
  | finishes pool job optimization result found stands _ =>
      exact ⟨attended.cache, (counted found).place stands rfl⟩
  | releases pool job found stands => exact ⟨attended.cache, (counted found).place stands rfl⟩
  | counts pool found stands =>
      have changed := Pool.countP_place stands .waiting
      have total := counted found
      refine ⟨attended.cache, ?_⟩
      simp only [Compiler.Counted, Pool.Counted, Pool.place, Pool.finishOne, WorkerPosition.isBusy,
        Bool.toNat_false, Bool.toNat_true] at changed total ⊢
      omega

theorem attended_moved (attended : Attended before.engine) (moved : Moved before move after) :
    Attended after.engine := by
  cases moved with
  | stays => exact attended
  | draw shaders state pass =>
      refine ⟨fun cache found => attended.cache cache ?_, ?_⟩
      · exact (Engine.cache_obtainPipeline ..).symm.trans found
      · simpa only [beginDraw, Engine.compiler_obtainPipeline] using attended.compiler
  | step index drawing pipeline engine _ _ stepped =>
      cases stepped with
      | quiet => exact ⟨attended.cache, attended.compiler⟩
      | reports cache _ _ _ found _ =>
          refine ⟨?_, attended.compiler⟩
          rintro _ ⟨⟩
          have before := attended.cache cache found
          exact ⟨before.writer, before.lookup⟩
      | queues => exact ⟨attended.cache, attended.compiler.offer _⟩
  | answer => exact attended
  | provide shader =>
      refine ⟨fun cache found => ?_, attended.compiler⟩
      obtain ⟨old, there, rfl⟩ := Option.map_eq_some_iff.mp found
      have before := attended.cache old there
      unfold Cache.provide
      split
      · exact ⟨before.writer, before.lookup⟩
      · exact before
  | write engine stepped => exact attended.write stepped
  | look result engine stepped => exact attended.look stepped
  | work worker engine stepped => exact attended.work stepped
  | answerWorker worker result pool job optimization found stands =>
      have counted := attended.compiler
      rw [found] at counted
      exact ⟨attended.cache, Pool.Counted.place counted stands rfl⟩

theorem attended_start (setup : Setup) (disk : Disk) : Attended (Session.start setup disk).engine := by
  refine ⟨fun cache found => ?_, ?_⟩
  · obtain ⟨config, _, rfl⟩ := Option.map_eq_some_iff.mp ((Engine.cache_start ..).symm.trans found)
    have writer : (Cache.start config disk).value.writerPosition =
        if config.enableWriter then .waiting else .ended := rfl
    have lookup : (Cache.start config disk).value.lookupPosition =
        if config.enablePrewarm then .waiting else .ended := rfl
    refine ⟨fun _ => ?_, fun _ => ?_⟩
    · rw [writer]
      cases config.enableWriter <;> simp
    · rw [lookup]
      cases config.enablePrewarm <;> simp
  · show setup.compiler.compiler.Counted
    cases setup.compiler with
    | background workers => exact Pool.counted_ofSize workers
    | _ => trivial

/-- Once the writer's queue is idle, no report is on its way. -/
theorem reported_eq_nil (attended : Attended session.engine) (found : session.engine.cache = some cache)
    (idle : cache.writerQueue.isIdle = true) : session.overview.reported = [] := by
  obtain ⟨rests, items⟩ := (WorkQueue.isIdle_iff _).mp idle
  rw [overview_of_cache found, view, items, List.append_nil]
  rcases (attended.cache cache found).writer rests with position | position <;> rw [position] <;> rfl

/-- Once the lookup's queue is idle, it has nothing to handle or to submit. -/
theorem lookup_rests (attended : Attended session.engine) (found : session.engine.cache = some cache)
    (idle : cache.lookupQueue.isIdle = true) : session.overview.position.pending = [] ∧
      session.overview.position.taken ++ session.overview.entries = [] := by
  obtain ⟨rests, items⟩ := (WorkQueue.isIdle_iff _).mp idle
  rw [overview_of_cache found, view, items, List.append_nil]
  rcases (attended.cache cache found).lookup rests with position | position <;> rw [position] <;>
    exact ⟨rfl, rfl⟩

theorem tasks_eq_nil {pool : Pool} (attended : Attended session.engine)
    (found : session.engine.compiler = .pool pool) (done : pool.pending = 0) :
    session.overview.tasks = [] := by
  have counted := attended.compiler
  rw [found] at counted
  show session.engine.compiler.tasks = []
  rw [found]
  exact Pool.Counted.tasks_eq_nil counted done

end Session

end PipelineCache

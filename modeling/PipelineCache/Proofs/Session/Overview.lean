import Mathlib.Logic.Relation
import PipelineCache.Proofs.Session.Basic

/-! An overview of a session: the pipelines and their instances, the draws, and all work that is on its
way from one thread to another, without the positions of the writer and the workers, the numbers that
are kept about the work, and the cache file. Each move of a session is made of a few steps of its
overview. -/

namespace PipelineCache

/-- A job of the compiler, and how far its optimization has come. -/
structure Task where
  job : Job
  optimization : Optimization
  deriving DecidableEq

def Task.ofJob (job : Job) : Task := ⟨job, { entry := job.entry }⟩

def WorkerPosition.task? : WorkerPosition → Option Task
  | .starting job => some (.ofJob job)
  | .compiling job optimization => some ⟨job, optimization⟩
  | .releasing job => some ⟨job, ⟨job.entry, .finished false⟩⟩
  | _ => none

def Pool.tasks (pool : Pool) : List Task :=
  pool.jobs.map Task.ofJob ++ pool.workers.filterMap WorkerPosition.task?

/-- The jobs that the compiler has taken and not given up. -/
def Compiler.tasks : Compiler → List Task
  | recording jobs => jobs.map Task.ofJob
  | pool current => current.tasks

structure Overview where
  pipelines : List Pipeline
  manager : Manager
  store : Store
  drawings : List Drawing
  provided : List Shader
  tasks : List Task
  /-- The instances that were reported and not yet recorded. -/
  reported : List Job
  known : List PipelineKey
  /-- The key that was recorded and not yet passed on. -/
  held : List PipelineKey
  lookup : Lookup
  position : LookupPosition
  entries : List LookupEntry
  /-- Reported instances are taken. -/
  remembers : Bool
  /-- Provided shaders are taken. -/
  prewarms : Bool

namespace Overview

/-- The pipeline for a set of shaders, made on the first request for its keys. -/
def obtain (view : Overview) (shaders : ShaderSet) : PipelineId × Overview :=
  match view.manager.table.lookup shaders.keys with
  | some pipeline => (pipeline, view)
  | none =>
      (view.pipelines.length, { view with
        pipelines := view.pipelines ++ [{
          shaders := shaders
          optimizes := view.manager.optimizes
          reports := view.manager.reports }]
        manager := { view.manager with
          table := view.manager.table ++ [(shaders.keys, view.pipelines.length)] } })

/-- An overview after a step on one of its pipelines. -/
def change (view : Overview) (id : PipelineId) (shared : Shared) : Overview :=
  { view with pipelines := view.pipelines.set id shared.pipeline, store := shared.store }

/-- What the lookup does on its own side. -/
inductive Looks (fails : Bool) (lookup : Lookup) :
    LookupPosition → List LookupEntry → Lookup → LookupPosition → List LookupEntry → Prop
  | takes (entry : LookupEntry) (entries : List LookupEntry) :
      Looks fails lookup .waiting (entry :: entries) lookup (.handling entry) entries
  | handles (entry : LookupEntry) (entries : List LookupEntry) :
      Looks fails lookup (.handling entry) entries (lookup.handle entry).1
        (lookup.handle entry).2.next entries
  | returns (entries : List LookupEntry) :
      Looks fails lookup (.building []) entries lookup .waiting entries
  | passes (key : PipelineKey) (pipeline : PipelineId) (pass : RenderPass) (ready : List ReadyKey)
      (entries : List LookupEntry) (fits : pass.format = key.format) :
      Looks fails lookup (.passing key pipeline ready) entries lookup
        (.submitting key pipeline pass ready) entries
  | refused (key : PipelineKey) (pipeline : PipelineId) (ready : List ReadyKey)
      (entries : List LookupEntry) (allowed : fails = true) :
      Looks fails lookup (.passing key pipeline ready) entries lookup (.building ready) entries
  | counts (ready : List ReadyKey) (entries : List LookupEntry) :
      Looks fails lookup (.counting ready) entries lookup (.building ready) entries

/-- What may happen next; the device fails only where it is allowed to. -/
inductive Step (fails : Bool) (view : Overview) : Overview → Prop
  | begins (shaders : ShaderSet) (state : PipelineState) (pass : RenderPass) :
      Step fails view { (view.obtain shaders).2 with
        drawings := view.drawings ++
          [⟨shaders, (view.obtain shaders).1, { state := state, pass := pass }⟩] }
  | draws (index : Nat) (drawing : Drawing) (pipeline : Pipeline)
      (found : view.drawings[index]? = some drawing)
      (there : view.pipelines[drawing.pipeline]? = some pipeline)
      (reported : ∀ handle entry, drawing.draw.position = .reporting handle entry →
        pipeline.reports = true → view.remembers = true → ⟨drawing.pipeline, entry⟩ ∈ view.reported) :
      Step fails view
        { view.change drawing.pipeline (drawing.draw.step ⟨pipeline, view.store⟩).2.1 with
          drawings := view.drawings.set index
            { drawing with draw := (drawing.draw.step ⟨pipeline, view.store⟩).1 } }
  | reports (drawing : Drawing) (handle : PipelineHandle) (entry : InstanceId)
      (member : drawing ∈ view.drawings)
      (position : drawing.draw.position = .reporting handle entry) :
      Step fails view { view with
        store := view.store.hold entry
        reported := view.reported ++ [⟨drawing.pipeline, entry⟩] }
  | queues (drawing : Drawing) (handle : PipelineHandle) (entry : InstanceId)
      (member : drawing ∈ view.drawings)
      (position : drawing.draw.position = .queueing handle entry) :
      Step fails view { view with
        store := view.store.hold entry
        tasks := .ofJob ⟨drawing.pipeline, entry⟩ :: view.tasks }
  | answers (index : Nat) (drawing : Drawing) (result : Except CacheError PipelineHandle)
      (found : view.drawings[index]? = some drawing) :
      Step fails view { view with
        drawings := view.drawings.set index
          { drawing with draw := drawing.draw.answer result } }
  | provides (shader : Shader) :
      Step fails view { view with
        provided := view.provided ++ [shader]
        entries := if view.prewarms then view.entries ++ [.shader shader] else view.entries }
  | records (job : Job) (rest : List Job) (pipeline : Pipeline) (item : Instance)
      (held : List PipelineKey) (reported : view.reported = job :: rest)
      (there : view.pipelines[job.pipeline]? = some pipeline)
      (present : view.store.get? job.entry = some item)
      (passed : ∀ key ∈ held, key = pipeline.instanceKey item) :
      Step fails view { view with
        store := (view.store.release job.entry).2
        reported := rest
        known :=
          if pipeline.instanceKey item ∈ view.known then view.known
          else view.known ++ [pipeline.instanceKey item]
        held := held }
  | forwards (key : PipelineKey) (held : view.held = [key]) :
      Step fails view { view with held := [], entries := view.entries ++ [.key key] }
  | looks (lookup : Lookup) (position : LookupPosition) (entries : List LookupEntry)
      (looked : Looks fails view.lookup view.position view.entries lookup position entries) :
      Step fails view { view with lookup := lookup, position := position, entries := entries }
  | builds (ready : ReadyKey) (others : List ReadyKey)
      (position : view.position = .building (ready :: others)) :
      Step fails view { (view.obtain ready.shaders).2 with
        position := .passing ready.key (view.obtain ready.shaders).1 others }
  | submits (key : PipelineKey) (pipeline : PipelineId) (pass : RenderPass) (ready : List ReadyKey)
      (position : view.position = .submitting key pipeline pass ready) :
      Step fails view { view with
        store := (view.store.add { state := key.state, pass := pass }).2
        tasks :=
          .ofJob ⟨pipeline, (view.store.add { state := key.state, pass := pass }).1⟩ :: view.tasks
        position := .counting ready }
  | arranges (tasks : List Task) (same : view.tasks.Perm tasks) :
      Step fails view { view with tasks := tasks }
  | works (task : Task) (rest : List Task) (pipeline : Pipeline) (first : view.tasks = task :: rest)
      (there : view.pipelines[task.job.pipeline]? = some pipeline) :
      Step fails view
        { view.change task.job.pipeline (task.optimization.step ⟨pipeline, view.store⟩).2.1 with
          tasks := ⟨task.job, (task.optimization.step ⟨pipeline, view.store⟩).1⟩ :: rest }
  | replies (task : Task) (rest : List Task) (result : Except CacheError PipelineHandle)
      (first : view.tasks = task :: rest) (allowed : result.isOk = false → fails = true) :
      Step fails view { view with
        tasks := ⟨task.job, task.optimization.answer result⟩ :: rest }
  | ends (task : Task) (rest : List Task) (result : Bool) (first : view.tasks = task :: rest)
      (finished : task.optimization.position = .finished result) :
      Step fails view { view with
        tasks := ⟨task.job, ⟨task.job.entry, .finished false⟩⟩ :: rest }
  | releases (task : Task) (rest : List Task) (result : Bool) (first : view.tasks = task :: rest)
      (finished : task.optimization.position = .finished result) :
      Step fails view { view with
        store := (view.store.release task.job.entry).2
        tasks := rest }

abbrev Steps (fails : Bool) : Overview → Overview → Prop := Relation.ReflTransGen (Step fails)

variable {fails : Bool} {view other : Overview} {tasks : List Task}

/-- What holds in whatever order the tasks stand holds in every order. -/
theorem Steps.arranged (first : view.tasks.Perm tasks)
    (steps : Steps fails { view with tasks := tasks } other) : Steps fails view other :=
  .head (.arranges tasks first) steps

theorem Steps.rearranged (steps : Steps fails view { other with tasks := tasks })
    (last : tasks.Perm other.tasks) : Steps fails view other :=
  .tail steps (.arranges other.tasks last)

end Overview

theorem filterMap_cons_toList {α β : Type} (part : α → Option β) (value : α) (values : List α) :
    (value :: values).filterMap part = (part value).toList ++ values.filterMap part := by
  cases found : part value <;> simp [found]

theorem exists_perm_filterMap_set {α β : Type} (part : α → Option β) (values : List α) (index : Nat)
    (inside : index < values.length) (value : α) : ∃ rest,
      (values.filterMap part).Perm ((part values[index]).toList ++ rest) ∧
      ((values.set index value).filterMap part).Perm ((part value).toList ++ rest) := by
  induction values generalizing index with
  | nil => simp at inside
  | cons first rest ih =>
      cases index with
      | zero =>
          refine ⟨rest.filterMap part, ?_, ?_⟩
          · rw [filterMap_cons_toList]
            exact .refl _
          · rw [List.set_cons_zero, filterMap_cons_toList]
      | succ index =>
          obtain ⟨others, earlier, later⟩ := ih index (by simpa using inside)
          refine ⟨(part first).toList ++ others, ?_, ?_⟩
          · rw [filterMap_cons_toList, List.getElem_cons_succ]
            exact (earlier.append_left _).trans (List.perm_append_comm_assoc ..)
          · rw [List.set_cons_succ, filterMap_cons_toList]
            exact (later.append_left _).trans (List.perm_append_comm_assoc ..)

/-- The tasks before and after a worker moves on differ in what this worker does. -/
theorem Pool.tasks_place {pool : Pool} {worker : Nat} {old : WorkerPosition}
    (stands : pool.workers[worker]? = some old) (new : WorkerPosition) : ∃ rest,
      pool.tasks.Perm (old.task?.toList ++ rest) ∧
      (pool.place worker new).tasks.Perm (new.task?.toList ++ rest) := by
  obtain ⟨inside, rfl⟩ := List.getElem?_eq_some_iff.mp stands
  obtain ⟨others, earlier, later⟩ :=
    exists_perm_filterMap_set WorkerPosition.task? pool.workers worker inside new
  refine ⟨pool.jobs.map Task.ofJob ++ others, ?_, ?_⟩
  · exact (earlier.append_left _).trans (List.perm_append_comm_assoc ..)
  · exact (later.append_left _).trans (List.perm_append_comm_assoc ..)

theorem Compiler.tasks_offer (compiler : Compiler) (job : Job) :
    (compiler.offer job).tasks.Perm (.ofJob job :: compiler.tasks) := by
  cases compiler with
  | recording jobs =>
      simp only [offer, tasks, List.map_append, List.map_singleton]
      exact List.perm_append_singleton _ _
  | pool current =>
      simp only [offer, Pool.offer, Pool.send, Pool.announce, tasks, Pool.tasks, List.map_append,
        List.map_singleton]
      exact (List.perm_append_singleton _ _).append_right _

namespace Recording

variable {key other : PipelineKey}

theorem jobs_next (recording : Recording) (forwards : Bool) (key : PipelineKey) :
    (recording.next forwards key).jobs = [] := by
  unfold next
  split
  · rfl
  · split <;> rfl

theorem mem_held_next (recording : Recording) (forwards : Bool) :
    ∀ other ∈ (recording.next forwards key).held, other = key := by
  unfold next
  split
  · exact fun _ member => by cases member
  · split
    · exact fun _ member => List.mem_singleton.mp member
    · exact fun _ member => by cases member

end Recording

theorem Writer.Recorded.known_eq {writer changed : Writer} {disk later : Disk} {key : PipelineKey}
    {recording : Recording} (recorded : writer.Recorded disk key changed recording later) :
    changed.known = if key ∈ writer.known then writer.known else writer.known ++ [key] := by
  cases recorded with
  | duplicate old => rw [if_pos old]
  | closed fresh _ => rw [if_neg fresh]
  | written _ _ fresh _ _ => rw [if_neg fresh]
  | failed _ _ _ fresh _ _ => rw [if_neg fresh]

namespace Session

variable {before after session : Session} {move : Move} {cache : Cache} {allows : Bool}

/-- What stands for a cache if there is none. -/
def absent : Cache :=
  { config := { enableWriter := false, enablePrewarm := false }
    writer := ⟨none, [], false⟩
    writerPosition := .ended
    lookup := {}
    lookupPosition := .ended }

def view (session : Session) (cache : Cache) : Overview where
  pipelines := session.engine.pipelines
  manager := session.engine.manager
  store := session.engine.store
  drawings := session.drawings
  provided := session.provided
  tasks := session.engine.compiler.tasks
  reported := cache.writerPosition.jobs ++ cache.writerQueue.items
  known := cache.writer.known
  held := cache.writerPosition.held
  lookup := cache.lookup
  position := cache.lookupPosition
  entries := cache.lookupQueue.items
  remembers := cache.acceptsInstances
  prewarms := cache.acceptsShaders

def overview (session : Session) : Overview := session.view (session.engine.cache.getD absent)

theorem overview_of_cache (found : session.engine.cache = some cache) :
    session.overview = session.view cache := by
  rw [overview, found, Option.getD_some]

theorem remembers_overview (session : Session) :
    session.overview.remembers = session.engine.acceptsInstances := by
  cases found : session.engine.cache with
  | none =>
      simp only [overview, view, Engine.acceptsInstances, found]
      rfl
  | some cache =>
      simp only [overview, view, Engine.acceptsInstances, found, Option.getD_some, Option.any_some]

/-- The device refuses what the lookup or a worker asks for. -/
def Move.fails : Move → Bool
  | .look result => !result.isOk
  | .answerWorker _ result => !result.isOk
  | _ => false

open Overview

theorem steps_write {engine : Engine} (stepped : before.engine.WriterStep engine) :
    Steps allows before.overview { before with engine := engine : Session }.overview := by
  cases stepped with
  | idle => exact .refl
  | rests cache found position items =>
      simp only [overview, view, found, Option.getD_some, items]
      exact .refl
  | takes cache job jobs found position items =>
      simp only [overview, view, found, Option.getD_some, items, position]
      exact .refl
  | records cache job key writer recording disk found position named recorded =>
      obtain ⟨pipeline, item, there, present, rfl⟩ := Engine.keyOf?_eq_some_iff.mp named
      have first : (before.view cache).reported = job :: cache.writerQueue.items := by
        simp only [view, position, WriterPosition.jobs, List.singleton_append]
      have step : Step allows (before.view cache) _ :=
        .records job cache.writerQueue.items pipeline item _ first there present
          (recording.mem_held_next writer.forwards)
      rw [overview_of_cache found]
      simp only [overview, Option.getD_some, view, recording.jobs_next, List.nil_append,
        recorded.known_eq]
      exact .single step
  | forwards cache key found position =>
      have held : (before.view cache).held = [key] := by
        simp only [view, position, WriterPosition.held]
      have step : Step allows (before.view cache) _ := .forwards key held
      rw [overview_of_cache found]
      simp only [view, position, WriterPosition.jobs, List.nil_append] at step ⊢
      exact .single step

theorem obtain_view (session : Session) (cache : Cache) (thread : Thread) (shaders : ShaderSet) :
    (session.view cache).obtain shaders =
      ((session.engine.obtainPipeline thread shaders).1,
        { session with
          engine := (session.engine.obtainPipeline thread shaders).2.engine : Session }.view cache) := by
  simp only [Overview.obtain, Engine.obtainPipeline, view]
  cases session.engine.manager.table.lookup shaders.keys <;> rfl

theorem obtain_overview (session : Session) (thread : Thread) (shaders : ShaderSet) :
    session.overview.obtain shaders =
      ((session.engine.obtainPipeline thread shaders).1,
        { session with
          engine := (session.engine.obtainPipeline thread shaders).2.engine : Session }.overview) := by
  rw [overview, obtain_view session _ thread, overview, Engine.cache_obtainPipeline]

theorem overview_provide (session : Session) (shader : Shader) :
    { session with
      engine := session.engine.provide shader
      provided := session.provided ++ [shader] : Session }.overview =
    { session.overview with
      provided := session.provided ++ [shader]
      entries :=
        if session.overview.prewarms then session.overview.entries ++ [.shader shader]
        else session.overview.entries } := by
  cases found : session.engine.cache with
  | none =>
      simp only [overview, view, Engine.provide, Engine.updateCache, found, Option.map_none]
      rfl
  | some cache =>
      simp only [overview, view, Engine.provide, Engine.updateCache, found, Option.map_some,
        Option.getD_some, Cache.provide]
      split <;> rfl

theorem steps_look {result : Except CacheError UInt64} {engine : Engine}
    (allowed : result.isOk = false → allows = true)
    (stepped : before.engine.LookupStep result engine) :
    Steps allows before.overview { before with engine := engine : Session }.overview := by
  have looks {cache : Cache} {position next : LookupPosition} {entries later : List LookupEntry}
      {lookup : Lookup}
      (looked : Looks allows cache.lookup position entries lookup next later)
      (stands : cache.lookupPosition = position) (queued : cache.lookupQueue.items = entries) :
      Step allows (before.view cache)
        { before.view cache with lookup := lookup, position := next, entries := later } := by
    subst stands queued
    exact .looks lookup next later looked
  cases stepped with
  | idle => exact .refl
  | rests cache found position items =>
      simp only [overview, view, found, Option.getD_some, items, position]
      exact .refl
  | takes cache entry entries found position items =>
      have step := looks (.takes entry entries) position items
      rw [overview_of_cache found]
      exact .single step
  | handles cache entry stats found position =>
      have step := looks (.handles entry cache.lookupQueue.items) position rfl
      rw [overview_of_cache found]
      exact .single step
  | returns cache found position =>
      have step := looks (.returns cache.lookupQueue.items) position rfl
      rw [overview_of_cache found]
      exact .single step
  | builds cache ready others found position =>
      have step : Step allows (before.view cache) _ := .builds ready others position
      rw [overview_of_cache found]
      rw [obtain_view before cache .lookup] at step
      exact .single step
  | passes cache key pipeline ready pass passes found position fits =>
      have step := looks (.passes key pipeline pass ready cache.lookupQueue.items fits) position rfl
      rw [overview_of_cache found]
      exact .single step
  | refused cache key pipeline ready error found position failed =>
      have failing : allows = true := allowed (by rw [failed]; rfl)
      have step := looks (.refused key pipeline ready cache.lookupQueue.items failing) position rfl
      rw [overview_of_cache found]
      exact .single step
  | submits cache key pipeline pass ready found position =>
      have step : Step allows (before.view cache) _ := .submits key pipeline pass ready position
      rw [overview_of_cache found]
      refine Steps.rearranged (.single step) ?_
      exact (before.engine.compiler.tasks_offer _).symm
  | counts cache ready stats found position =>
      have step := looks (.counts ready cache.lookupQueue.items) position rfl
      rw [overview_of_cache found]
      exact .single step

/-- What is on its way at the same time as something else may come first. -/
theorem steps_step {index : Nat} {drawing : Drawing} {pipeline : Pipeline} {engine : Engine}
    (found : before.drawings[index]? = some drawing)
    (there : before.engine.pipelines[drawing.pipeline]? = some pipeline)
    (stepped : before.engine.DrawStep drawing.pipeline pipeline drawing.draw engine) :
    Steps allows before.overview { before with
      engine := engine
      drawings := before.drawings.set index
        { drawing with draw := (drawing.draw.step ⟨pipeline, before.engine.store⟩).1 } : Session
      }.overview := by
  cases stepped with
  | quiet unreported =>
      refine .single (.draws index drawing pipeline found there ?_)
      intro handle entry position asked taken
      have refused := unreported handle entry position asked
      rw [← remembers_overview, taken] at refused
      cases refused
  | reports cache handle entry position present accepts =>
      obtain ⟨shaders, id, state, pass, stands⟩ := drawing
      obtain rfl : stands = .reporting handle entry := position
      have member := List.mem_of_getElem? found
      have first : Step allows (before.view cache) _ := .reports _ handle entry member rfl
      have second : Step allows { before.view cache with
          store := before.engine.store.hold entry
          reported := (before.view cache).reported ++ [⟨id, entry⟩] } _ :=
        .draws index _ pipeline found there fun _ _ same _ _ => by
          cases same
          exact List.mem_append_right _ (List.mem_singleton.mpr rfl)
      rw [overview_of_cache present]
      simp only [overview, Option.getD_some, view, WorkQueue.items_push, ← List.append_assoc]
      exact .tail (.single first) second
  | queues handle entry position =>
      obtain ⟨shaders, id, state, pass, stands⟩ := drawing
      obtain rfl : stands = .queueing handle entry := position
      have member := List.mem_of_getElem? found
      have first : Step allows before.overview _ := .queues _ handle entry member rfl
      have second : Step allows { before.overview with
          store := before.engine.store.hold entry
          tasks := .ofJob ⟨id, entry⟩ :: before.overview.tasks } _ :=
        .draws index _ pipeline found there fun _ _ wrong => by cases wrong
      exact .rearranged (.tail (.single first) second) (Compiler.tasks_offer _ _).symm

theorem steps_work {worker : Nat} {engine : Engine} (stepped : before.engine.WorkerStep worker engine) :
    Steps allows before.overview { before with engine := engine : Session }.overview := by
  cases stepped with
  | idle => exact .refl
  | takes pool job jobs found stands queued =>
      have others : ({ pool with jobs := jobs } : Pool).workers[worker]? = some .waiting := stands
      obtain ⟨rest, earlier, later⟩ := Pool.tasks_place others (.starting job)
      have first : before.overview.tasks.Perm (.ofJob job :: rest) := by
        simp only [overview, view, found, Compiler.tasks, Pool.tasks, queued, List.map_cons]
        exact earlier.cons _
      exact .arranged first (.rearranged .refl later.symm)
  | starts pool job found stands =>
      obtain ⟨rest, earlier, later⟩ := Pool.tasks_place stands
        (.compiling job ⟨job.entry, .checking⟩)
      have first : before.overview.tasks.Perm (.ofJob job :: rest) := by
        simp only [overview, view, found]
        exact earlier
      exact .arranged first (.rearranged .refl later.symm)
  | acts pool job optimization pipeline found stands there =>
      obtain ⟨rest, earlier, later⟩ := Pool.tasks_place stands
        (.compiling job (optimization.step ⟨pipeline, before.engine.store⟩).1)
      have first : before.overview.tasks.Perm (⟨job, optimization⟩ :: rest) := by
        simp only [overview, view, found]
        exact earlier
      have step : Step allows { before.overview with tasks := ⟨job, optimization⟩ :: rest } _ :=
        .works ⟨job, optimization⟩ rest pipeline rfl there
      exact .arranged first (.rearranged (.single step) later.symm)
  | finishes pool job optimization result found stands finished =>
      obtain ⟨rest, earlier, later⟩ := Pool.tasks_place stands (.releasing job)
      have first : before.overview.tasks.Perm (⟨job, optimization⟩ :: rest) := by
        simp only [overview, view, found]
        exact earlier
      have step : Step allows { before.overview with tasks := ⟨job, optimization⟩ :: rest } _ :=
        .ends ⟨job, optimization⟩ rest result rfl finished
      exact .arranged first (.rearranged (.single step) later.symm)
  | releases pool job found stands =>
      obtain ⟨rest, earlier, later⟩ := Pool.tasks_place stands .counting
      have first : before.overview.tasks.Perm (⟨job, ⟨job.entry, .finished false⟩⟩ :: rest) := by
        simp only [overview, view, found]
        exact earlier
      have step : Step allows
          { before.overview with tasks := ⟨job, ⟨job.entry, .finished false⟩⟩ :: rest } _ :=
        .releases ⟨job, ⟨job.entry, .finished false⟩⟩ rest false rfl rfl
      exact .arranged first (.rearranged (.single step) later.symm)
  | counts pool found stands =>
      obtain ⟨rest, earlier, later⟩ := Pool.tasks_place stands .waiting
      have first : before.overview.tasks.Perm rest := by
        simp only [overview, view, found]
        exact earlier
      exact .arranged first (.rearranged .refl later.symm)

/-- Every move is made of steps of the overview. -/
theorem steps_moved (moved : Moved before move after) (allowed : move.fails = true → allows = true) :
    Steps allows before.overview after.overview := by
  cases moved with
  | stays => exact .refl
  | draw shaders state pass =>
      have step : Step allows before.overview _ := .begins shaders state pass
      rw [obtain_overview before .caller] at step
      exact .single step
  | step index drawing pipeline engine found there stepped => exact steps_step found there stepped
  | answer index drawing result found => exact .single (.answers index drawing result found)
  | provide shader =>
      rw [overview_provide]
      exact .single (.provides shader)
  | write engine stepped => exact steps_write stepped
  | look result engine stepped =>
      refine steps_look (fun failed => allowed ?_) stepped
      rw [Move.fails, failed]
      rfl
  | work worker engine stepped => exact steps_work stepped
  | answerWorker worker result pool job optimization found stands =>
      obtain ⟨rest, earlier, later⟩ := Pool.tasks_place stands
        (.compiling job (optimization.answer result))
      have first : before.overview.tasks.Perm (⟨job, optimization⟩ :: rest) := by
        simp only [overview, view, found]
        exact earlier
      have step : Step allows { before.overview with tasks := ⟨job, optimization⟩ :: rest } _ :=
        .replies ⟨job, optimization⟩ rest result rfl fun failed => allowed (by
          rw [Move.fails, failed]
          rfl)
      exact .arranged first (.rearranged (.single step) later.symm)

end Session

end PipelineCache

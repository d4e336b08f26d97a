import PipelineCache.Engine.Start
import PipelineCache.Proofs.Lookup.Step
import PipelineCache.Proofs.Run
import PipelineCache.Proofs.Traffic.WriteOnce
import PipelineCache.Proofs.Worker.Step
import PipelineCache.Proofs.Writer.Logging

/-! A whole session. Callers draw through the manager and provide shaders, the device answers whenever it
likes, and in between the threads of the engine take their steps in any order. Neither the state cache
nor the compiler is stopped. -/

namespace PipelineCache

/-- A draw through the manager. -/
structure Drawing where
  /-- The shaders that the caller asked for. -/
  shaders : ShaderSet
  /-- The pipeline that the manager gave for them. -/
  pipeline : PipelineId
  draw : Draw
  deriving DecidableEq

structure Session where
  engine : Engine
  /-- All draws that ever began, in their order; those that have returned stay as they are. -/
  drawings : List Drawing := []
  /-- The shaders that were provided, in their order. -/
  provided : List Shader := []

namespace Session

inductive Move
  /-- A draw begins with a request for a pipeline. -/
  | draw (shaders : ShaderSet) (state : PipelineState) (pass : RenderPass)
  /-- A draw takes its next step. -/
  | step (index : Nat)
  /-- The device answers a draw. -/
  | answer (index : Nat) (result : Except CacheError PipelineHandle)
  | provide (shader : Shader)
  /-- The writer takes a step. -/
  | write
  /-- The lookup takes a step; if it waits for a render pass, this is what the device answers. -/
  | look (result : Except CacheError UInt64)
  /-- A worker of the compiler takes a step. -/
  | work (worker : Nat)
  /-- The device answers a worker of the compiler. -/
  | answerWorker (worker : Nat) (result : Except CacheError PipelineHandle)

def start (setup : Setup) (disk : Disk) : Session := { engine := (Engine.start setup disk).engine }

def beginDraw (session : Session) (shaders : ShaderSet) (state : PipelineState) (pass : RenderPass) :
    Session :=
  let (pipeline, turn) := session.engine.obtainPipeline .caller shaders
  { session with
    engine := turn.engine
    drawings := session.drawings ++ [⟨shaders, pipeline, { state := state, pass := pass }⟩] }

def advance (session : Session) (index : Nat) (drawing : Drawing) : Session :=
  let (next, turn) := session.engine.stepCall .caller drawing.pipeline (.draw drawing.draw)
  match next with
  | .draw moved => { session with
      engine := turn.engine
      drawings := session.drawings.set index { drawing with draw := moved } }
  | .optimize _ => { session with engine := turn.engine }

def receive (session : Session) (index : Nat) (drawing : Drawing)
    (result : Except CacheError PipelineHandle) : Session :=
  { session with
    drawings := session.drawings.set index { drawing with draw := drawing.draw.answer result } }

/-- What a move leads to, if it is possible. -/
def move? (session : Session) : Move → Option Session
  | .draw shaders state pass => some (session.beginDraw shaders state pass)
  | .step index => session.drawings[index]?.map (session.advance index)
  | .answer index result =>
      match session.drawings[index]? with
      | none => none
      | some drawing =>
          if (session.engine.requestOf? drawing.pipeline (.draw drawing.draw)).isSome then
            some (session.receive index drawing result)
          else none
  | .provide shader => some { session with
      engine := session.engine.provide shader, provided := session.provided ++ [shader] }
  | .write => some { session with engine := session.engine.stepWriter.engine }
  | .look result => some { session with engine := session.engine.continueLookup result }
  | .work worker => some { session with engine := (session.engine.stepWorker worker).engine }
  | .answerWorker worker result =>
      if (session.engine.workerRequest? worker).isSome then
        some { session with engine := session.engine.answerWorker worker result }
      else none

abbrev run? (session : Session) (moves : List Move) : Option Session :=
  Run.final? move? session moves

end Session

namespace Engine

variable {engine : Engine} {id : PipelineId} {pipeline : Pipeline}

/-- Instances that are reported come to the queue of the writer. -/
def acceptsInstances (engine : Engine) : Bool := engine.cache.any Cache.acceptsInstances

/-- What a step of a draw leads to. -/
inductive DrawStep (engine : Engine) (id : PipelineId) (pipeline : Pipeline) (draw : Draw) :
    Engine → Prop
  | quiet
      (unreported : ∀ handle entry, draw.position = .reporting handle entry →
        pipeline.reports = true → engine.acceptsInstances = false) :
      DrawStep engine id pipeline draw
        (engine.changeShared id (draw.step ⟨pipeline, engine.store⟩).2.1)
  | reports (cache : Cache) (handle : PipelineHandle) (entry : InstanceId)
      (position : draw.position = .reporting handle entry) (found : engine.cache = some cache)
      (accepts : cache.acceptsInstances = true) :
      DrawStep engine id pipeline draw
        { engine.changeShared id (draw.step ⟨pipeline, engine.store⟩).2.1 with
          store := engine.store.hold entry
          cache := some { cache with writerQueue := cache.writerQueue.push ⟨id, entry⟩ } }
  | queues (handle : PipelineHandle) (entry : InstanceId)
      (position : draw.position = .queueing handle entry) :
      DrawStep engine id pipeline draw
        { engine.changeShared id (draw.step ⟨pipeline, engine.store⟩).2.1 with
          store := engine.store.hold entry
          compiler := engine.compiler.offer ⟨id, entry⟩ }

theorem stepCall_draw (there : engine.pipelines[id]? = some pipeline) (thread : Thread)
    (draw : Draw) :
    (engine.stepCall thread id (.draw draw)).1 = .draw (draw.step ⟨pipeline, engine.store⟩).1 ∧
      (engine.stepCall thread id (.draw draw)).2.engine =
        ((draw.step ⟨pipeline, engine.store⟩).2.2.foldl (absorb thread id)
          (engine.changeShared id (draw.step ⟨pipeline, engine.store⟩).2.1).unchanged).engine := by
  simp only [stepCall, shared?_of_getElem? there, Call.step]
  exact ⟨trivial, rfl⟩

theorem report_of_refused (refused : engine.acceptsInstances = false) (job : Job) :
    engine.report job = engine := by
  unfold report
  cases found : engine.cache with
  | none => rfl
  | some cache =>
      rw [acceptsInstances, found, Option.any_some] at refused
      simp [refused]

theorem drawStep (there : engine.pipelines[id]? = some pipeline)
    (accepts : engine.compiler.accepts = true) (thread : Thread) (draw : Draw) :
    engine.DrawStep id pipeline draw (engine.stepCall thread id (.draw draw)).2.engine := by
  rw [(stepCall_draw there thread draw).2]
  obtain ⟨state, pass, position⟩ := draw
  cases position with
  | reporting handle entry =>
      cases asked : pipeline.reports with
      | false =>
          simp only [Draw.step, asked, Bool.false_eq_true, if_false, List.foldl_nil]
          exact .quiet fun _ _ _ wrong => by rw [asked] at wrong; cases wrong
      | true =>
          cases taken : engine.acceptsInstances with
          | false =>
              have refused :
                  (engine.changeShared id ⟨pipeline, engine.store⟩).acceptsInstances = false := taken
              simp only [Draw.step, asked, if_true, List.foldl_cons, List.foldl_nil, absorb, unchanged,
                report_of_refused refused]
              exact .quiet fun _ _ _ _ => taken
          | true =>
              obtain ⟨cache, found, accepts⟩ := (Option.any_eq_true _ _).mp taken
              simp only [Draw.step, asked, if_true, List.foldl_cons, List.foldl_nil, absorb, report,
                unchanged, changeShared, found, accepts]
              exact .reports cache handle entry rfl found accepts
  | queueing handle entry =>
      cases asked : pipeline.optimizes with
      | false =>
          simp only [Draw.step, asked, Bool.false_eq_true, if_false, List.foldl_nil]
          exact .quiet fun _ _ wrong => by cases wrong
      | true =>
          simp only [Draw.step, asked, if_true, List.foldl_cons, List.foldl_nil, absorb, offerJob,
            unchanged, changeShared, accepts]
          exact .queues handle entry rfl
  | scanning =>
      have silent (turn : Turn) : ((Draw.step ⟨state, pass, .scanning⟩
          ⟨pipeline, engine.store⟩).2.2.foldl (absorb thread id) turn).engine = turn.engine := by
        simp only [Draw.step]
        split <;> rfl
      rw [silent]
      exact .quiet fun _ _ wrong => by cases wrong
  | preparing =>
      have silent (turn : Turn) : ((Draw.step ⟨state, pass, .preparing⟩
          ⟨pipeline, engine.store⟩).2.2.foldl (absorb thread id) turn).engine = turn.engine := by
        simp only [Draw.step]
        split <;> rfl
      rw [silent]
      exact .quiet fun _ _ wrong => by cases wrong
  | enlisting handle =>
      have silent (turn : Turn) : ((Draw.step ⟨state, pass, .enlisting handle⟩
          ⟨pipeline, engine.store⟩).2.2.foldl (absorb thread id) turn).engine = turn.engine := by
        simp only [Draw.step]
        split <;> rfl
      rw [silent]
      exact .quiet fun _ _ wrong => by cases wrong
  | _ => exact .quiet fun _ _ wrong => by cases wrong

theorem cache_start (setup : Setup) (disk : Disk) : (start setup disk).engine.cache =
    setup.cache.map fun config => (Cache.start config disk).value := by
  simp only [start]
  cases setup.cache <;> rfl

end Engine

namespace Compiler

/-- A compiler that has not been stopped. -/
def IsOpen : Compiler → Prop
  | recording _ => True
  | pool current => current.accepts = true ∧ current.stopped = false

theorem IsOpen.accepts {compiler : Compiler} (isOpen : compiler.IsOpen) : compiler.accepts = true := by
  cases compiler with
  | recording jobs => rfl
  | pool current => exact isOpen.1

theorem isOpen_offer {compiler : Compiler} (isOpen : compiler.IsOpen) (job : Job) :
    (compiler.offer job).IsOpen := by
  cases compiler <;> exact isOpen

end Compiler

namespace Session

variable {before after session : Session} {move : Move} {index : Nat} {drawing : Drawing}

/-- Nothing in an engine has been stopped. -/
structure Running (engine : Engine) : Prop where
  cache : ∀ cache, engine.cache = some cache → cache.stopped = false
  compiler : engine.compiler.IsOpen

theorem Running.pool {engine : Engine} {pool : Pool} (running : Running engine)
    (found : engine.compiler = .pool pool) : pool.accepts = true ∧ pool.stopped = false := by
  have isOpen := running.compiler
  rwa [found] at isOpen

/-- The moves that are possible, and what they lead to. -/
inductive Moved (before : Session) : Move → Session → Prop
  | stays (move : Move) : Moved before move before
  | draw (shaders : ShaderSet) (state : PipelineState) (pass : RenderPass) :
      Moved before (.draw shaders state pass) (before.beginDraw shaders state pass)
  | step (index : Nat) (drawing : Drawing) (pipeline : Pipeline) (engine : Engine)
      (found : before.drawings[index]? = some drawing)
      (there : before.engine.pipelines[drawing.pipeline]? = some pipeline)
      (stepped : before.engine.DrawStep drawing.pipeline pipeline drawing.draw engine) :
      Moved before (.step index) { before with
        engine := engine
        drawings := before.drawings.set index
          { drawing with draw := (drawing.draw.step ⟨pipeline, before.engine.store⟩).1 } }
  | answer (index : Nat) (drawing : Drawing) (result : Except CacheError PipelineHandle)
      (found : before.drawings[index]? = some drawing) :
      Moved before (.answer index result) (before.receive index drawing result)
  | provide (shader : Shader) :
      Moved before (.provide shader) { before with
        engine := before.engine.provide shader, provided := before.provided ++ [shader] }
  | write (engine : Engine) (stepped : before.engine.WriterStep engine) :
      Moved before .write { before with engine := engine }
  | look (result : Except CacheError UInt64) (engine : Engine)
      (stepped : before.engine.LookupStep result engine) :
      Moved before (.look result) { before with engine := engine }
  | work (worker : Nat) (engine : Engine) (stepped : before.engine.WorkerStep worker engine) :
      Moved before (.work worker) { before with engine := engine }
  | answerWorker (worker : Nat) (result : Except CacheError PipelineHandle) (pool : Pool) (job : Job)
      (optimization : Optimization) (found : before.engine.compiler = .pool pool)
      (stands : pool.workers[worker]? = some (.compiling job optimization)) :
      Moved before (.answerWorker worker result) { before with
        engine := { before.engine with
          compiler :=
            .pool (pool.place worker (.compiling job (optimization.answer result))) } }

theorem moved_advance (running : Running before.engine)
    (found : before.drawings[index]? = some drawing) :
    Moved before (.step index) (before.advance index drawing) := by
  cases there : before.engine.pipelines[drawing.pipeline]? with
  | none =>
      have same : before.advance index drawing = before := by
        obtain ⟨inside, rfl⟩ := List.getElem?_eq_some_iff.mp found
        simp only [advance, Engine.stepCall, Engine.shared?, there, Engine.unchanged, Option.map_none]
        rw [List.set_getElem_self inside]
      rw [same]
      exact .stays _
  | some pipeline =>
      have stepped := Engine.drawStep there running.compiler.accepts .caller drawing.draw
      obtain ⟨next, _⟩ := Engine.stepCall_draw there .caller drawing.draw
      have moved := Moved.step index drawing pipeline _ found there stepped
      simpa only [advance, next] using moved

theorem moved_of_move? (running : Running before.engine) (moved : before.move? move = some after) :
    Moved before move after := by
  cases move with
  | draw shaders state pass =>
      cases moved
      exact .draw shaders state pass
  | step index =>
      obtain ⟨drawing, found, rfl⟩ := Option.map_eq_some_iff.mp moved
      exact moved_advance running found
  | answer index result =>
      simp only [move?] at moved
      split at moved
      · cases moved
      · rename_i drawing found
        obtain ⟨_, same⟩ := Option.ite_none_right_eq_some.mp moved
        cases same
        exact .answer index drawing result found
  | provide shader =>
      cases moved
      exact .provide shader
  | write =>
      cases moved
      exact .write _ (Engine.writerStep running.cache)
  | look result =>
      cases moved
      exact .look result _ (Engine.lookupStep running.cache running.compiler.accepts result)
  | work worker =>
      cases moved
      exact .work worker _ (Engine.workerStep (fun _ found => running.pool found) worker)
  | answerWorker worker result =>
      obtain ⟨waits, same⟩ := Option.ite_none_right_eq_some.mp moved
      cases same
      cases found : before.engine.compiler with
      | recording jobs =>
          simp [Engine.workerRequest?, Engine.workerAt?, found] at waits
      | pool pool =>
          cases stands : pool.workers[worker]? with
          | none => simp [Engine.workerRequest?, Engine.workerAt?, found, stands] at waits
          | some position =>
              cases position with
              | compiling job optimization =>
                  simp only [Engine.answerWorker, Engine.workerAt?, found, stands,
                    Engine.placeWorker]
                  exact .answerWorker worker result pool job optimization found stands
              | _ => simp [Engine.workerRequest?, Engine.workerAt?, found, stands] at waits

theorem running_moved (running : Running before.engine) (moved : Moved before move after) :
    Running after.engine := by
  have alive {cache changed : Cache} (found : before.engine.cache = some cache)
      (same : changed.stopped = cache.stopped) :
      ∀ other, some changed = some other → other.stopped = false := by
    rintro _ ⟨⟩
    exact same.trans (running.cache cache found)
  have still {pool next : Pool} (found : before.engine.compiler = .pool pool)
      (accepts : next.accepts = pool.accepts) (stopped : next.stopped = pool.stopped) :
      Compiler.IsOpen (.pool next) :=
    ⟨accepts.trans (running.pool found).1, stopped.trans (running.pool found).2⟩
  cases moved with
  | stays => exact running
  | draw shaders state pass =>
      refine ⟨fun cache found => running.cache cache ?_, ?_⟩
      · exact (Engine.cache_obtainPipeline ..).symm.trans found
      · simpa only [beginDraw, Engine.compiler_obtainPipeline] using running.compiler
  | step index drawing pipeline engine _ _ stepped =>
      cases stepped with
      | quiet => exact ⟨running.cache, running.compiler⟩
      | reports cache _ _ _ found _ => exact ⟨alive found rfl, running.compiler⟩
      | queues => exact ⟨running.cache, Compiler.isOpen_offer running.compiler _⟩
  | answer => exact running
  | provide shader =>
      refine ⟨fun cache found => ?_, running.compiler⟩
      obtain ⟨old, there, rfl⟩ := Option.map_eq_some_iff.mp found
      unfold Cache.provide
      split <;> exact running.cache old there
  | write engine stepped =>
      cases stepped with
      | idle => exact running
      | rests cache found _ _ => exact ⟨alive found rfl, running.compiler⟩
      | takes cache _ _ found _ _ => exact ⟨alive found rfl, running.compiler⟩
      | records cache _ _ _ _ _ found _ _ _ => exact ⟨alive found rfl, running.compiler⟩
      | forwards cache _ found _ => exact ⟨alive found rfl, running.compiler⟩
  | look result engine stepped =>
      cases stepped with
      | idle => exact running
      | builds cache ready _ found _ =>
          refine ⟨alive found rfl, ?_⟩
          simpa only [Engine.compiler_obtainPipeline] using running.compiler
      | submits cache _ _ _ _ found _ =>
          exact ⟨alive found rfl, Compiler.isOpen_offer running.compiler _⟩
      | rests cache found => exact ⟨alive found rfl, running.compiler⟩
      | takes cache _ _ found => exact ⟨alive found rfl, running.compiler⟩
      | handles cache _ _ found => exact ⟨alive found rfl, running.compiler⟩
      | returns cache found => exact ⟨alive found rfl, running.compiler⟩
      | passes cache _ _ _ _ _ found => exact ⟨alive found rfl, running.compiler⟩
      | refused cache _ _ _ _ found => exact ⟨alive found rfl, running.compiler⟩
      | counts cache _ _ found => exact ⟨alive found rfl, running.compiler⟩
  | work worker engine stepped =>
      cases stepped with
      | idle => exact running
      | takes pool _ _ found => exact ⟨running.cache, still found rfl rfl⟩
      | starts pool _ found => exact ⟨running.cache, still found rfl rfl⟩
      | acts pool _ _ _ found => exact ⟨running.cache, still found rfl rfl⟩
      | finishes pool _ _ _ found => exact ⟨running.cache, still found rfl rfl⟩
      | releases pool _ found => exact ⟨running.cache, still found rfl rfl⟩
      | counts pool found => exact ⟨running.cache, still found rfl rfl⟩
  | answerWorker _ _ pool _ _ found => exact ⟨running.cache, still found rfl rfl⟩

theorem cache_of_chosen {setup : Setup} {config : CacheConfig} (chosen : setup.cache = some config)
    (disk : Disk) :
    (start setup disk).engine.cache = some (Cache.start config disk).value := by
  rw [start, Engine.cache_start, chosen, Option.map_some]

theorem running_start (setup : Setup) (disk : Disk) : Running (start setup disk).engine := by
  refine ⟨fun cache found => ?_, ?_⟩
  · obtain ⟨config, _, rfl⟩ := Option.map_eq_some_iff.mp ((Engine.cache_start ..).symm.trans found)
    rfl
  · show setup.compiler.compiler.IsOpen
    cases setup.compiler <;> trivial

end Session

end PipelineCache

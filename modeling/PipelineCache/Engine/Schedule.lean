import PipelineCache.Engine.Start
import PipelineCache.Engine.Worker

/-! One way of running an engine: a caller's operation runs to its end, and then the writer, the
lookup and the background compiler, in this order, work until they have nothing left to do. The
device is part of the surroundings, and may act on the engine itself while it compiles. -/

namespace PipelineCache

/-- What surrounds an engine: a device, and somebody who takes notice. -/
structure Surroundings (m : Type → Type) where
  compile : CompileRequest → m (Except CacheError PipelineHandle)
  createPass : RenderPassFormat → m (Except CacheError UInt64)
  notice : Notice → m Unit

/-- The greatest number of steps that a call takes. -/
def Call.stepBound : Nat := 12

namespace Engine

/-- Enough steps for the writer to come to rest. -/
def writerBound (engine : Engine) : Nat :=
  match engine.cache with
  | none => 0
  | some cache => 4 * (cache.writerQueue.items.length + 2)

/-- Enough steps for the lookup to come to rest. -/
def lookupBound (engine : Engine) : Nat :=
  match engine.cache with
  | none => 0
  | some cache =>
      let entries := cache.lookupQueue.items.length
      let references := (cache.lookup.index.flatMap Prod.snd).length + 5 * entries
      (entries + 2) * (4 + 6 * (references + 1))

/-- Enough steps for the background compiler to come to rest. -/
def compilerBound (engine : Engine) : Nat :=
  match engine.compiler with
  | .recording _ => 0
  | .pool pool => (Call.stepBound + 6) * (pool.jobs.length + pool.workers.length + 1)

end Engine

namespace Surroundings

variable {m : Type → Type} [Monad m] [MonadStateOf Engine m] {α : Type}

/-- Makes a transition and passes on what it makes visible. -/
def performWith (around : Surroundings m) (transition : Engine → α × Turn) : m α := do
  let (value, turn) := transition (← get)
  set turn.engine
  turn.notices.forM around.notice
  return value

def perform (around : Surroundings m) (transition : Engine → Turn) : m Unit :=
  around.performWith fun engine => ((), transition engine)

/-- Takes steps of a call until it has finished. -/
def runCall (around : Surroundings m) (thread : Thread) (pipeline : PipelineId) :
    Nat → Call → m Call
  | 0, call => pure call
  | steps + 1, call => do
      if call.isFinished then return call
      match (← get).requestOf? pipeline call with
      | some request =>
          let result ← around.compile request
          around.runCall thread pipeline steps (call.answer result)
      | none =>
          let next ← around.performWith fun engine => engine.stepCall thread pipeline call
          around.runCall thread pipeline steps next

/-- A handle to draw with, compiled now if there is none. -/
def draw (around : Surroundings m) (pipeline : PipelineId) (state : PipelineState)
    (pass : RenderPass) : m (Option PipelineHandle) := do
  let call ← around.runCall .caller pipeline Call.stepBound (.draw { state := state, pass := pass })
  return call.handle?

/-- Compiles the fast handle of an instance, which is held meanwhile; whether it was set. -/
def optimize (around : Surroundings m) (pipeline : PipelineId) (entry : InstanceId) : m Bool := do
  modify fun engine => engine.hold entry
  let call ← around.runCall .caller pipeline Call.stepBound (.optimize { entry := entry })
  around.perform fun engine => engine.release entry
  return call.hasInstalled

/-- Does the jobs that a recording compiler has collected. All are held until the last is done, and
then given up in their order. -/
def optimizeRecorded (around : Surroundings m) : m (List Bool) := do
  let jobs ← around.performWith fun engine =>
    let (jobs, taken) := engine.takeRecorded
    (jobs, taken.unchanged)
  let installed ← jobs.mapM fun job => around.optimize job.pipeline job.entry
  around.perform fun engine => engine.unchanged.releaseAll (jobs.map Job.entry)
  return installed

/-- Forgets the jobs that a recording compiler has collected; how many there were. -/
def dropRecorded (around : Surroundings m) : m Nat :=
  around.performWith fun engine =>
    let (jobs, taken) := engine.takeRecorded
    (jobs.length, taken.unchanged.releaseAll (jobs.map Job.entry))

/-- The render pass for a format, made on the first request. -/
def obtainPass (around : Surroundings m) (format : RenderPassFormat) :
    m (Except CacheError RenderPass) := do
  match (← get).passes.find? format with
  | some pass => return .ok pass
  | none =>
      let answer ← around.createPass format
      around.performWith fun engine =>
        let (pass, passes) := engine.passes.obtain format answer
        (pass, Engine.unchanged { engine with passes := passes })

def settleWriter (around : Surroundings m) : Nat → m Unit
  | 0 => pure ()
  | steps + 1 => do
      unless (← get).writerRests do
        around.perform Engine.stepWriter
        around.settleWriter steps

def settleLookup (around : Surroundings m) : Nat → m Unit
  | 0 => pure ()
  | steps + 1 => do
      unless (← get).lookupRests do
        match (← get).wantedFormat? with
        | some format =>
            let result ← around.createPass format
            around.perform fun engine => engine.answerLookup result
        | none => around.perform Engine.stepLookup
        around.settleLookup steps

def settleCompiler (around : Surroundings m) : Nat → m Unit
  | 0 => pure ()
  | steps + 1 => do
      match (← get).nextWorker? with
      | none => pure ()
      | some worker =>
          match (← get).workerRequest? worker with
          | some request =>
              let result ← around.compile request
              modify fun engine => engine.answerWorker worker result
          | none => around.perform fun engine => engine.stepWorker worker
          around.settleCompiler steps

/-- Waits for the writer and the lookup of the state cache. -/
def settleCache (around : Surroundings m) : m Unit := do
  around.settleWriter (← get).writerBound
  around.settleLookup (← get).lookupBound

/-- Waits for the state cache, and then for the background compiler. -/
def settle (around : Surroundings m) : m Unit := do
  around.settleCache
  around.settleCompiler (← get).compilerBound

end Surroundings

end PipelineCache

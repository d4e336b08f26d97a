import PipelineCache.Cache.Basic
import PipelineCache.RenderPasses

/-! A whole engine: pipelines by their shaders, render passes by their format, a background
compiler, a state cache, and the place of the cache file. Its transitions are the steps between
which the threads of the engine may take turns. -/

namespace PipelineCache

/-- The thread that says something. -/
inductive Thread
  | caller
  | writer
  | lookup
  | compiler
  deriving DecidableEq

/-- What a transition makes visible outside the engine. -/
inductive Notice
  | said (thread : Thread) (message : Message)
  | destroyed (handle : PipelineHandle)
  deriving DecidableEq

/-- Finds pipelines by the keys of their shaders, and makes those that are missing. -/
structure Manager where
  /-- Pipelines by their keys, oldest first. -/
  table : List (ShaderKeys × PipelineId) := []
  /-- New pipelines hand their instances to the background compiler. -/
  optimizes : Bool := false
  /-- New pipelines report their instances to the state cache. -/
  reports : Bool := false
  deriving DecidableEq

structure Engine where
  pipelines : List Pipeline := []
  store : Store := {}
  manager : Manager := {}
  passes : RenderPasses := {}
  compiler : Compiler := .recording []
  cache : Option Cache := none
  disk : Disk := {}

/-- An engine after a transition, and what it made visible. -/
structure Turn where
  engine : Engine
  notices : List Notice := []

namespace Turn

def say (turn : Turn) (thread : Thread) (message : Message) : Turn :=
  { turn with notices := turn.notices ++ [.said thread message] }

def sayAll (turn : Turn) (thread : Thread) (messages : List Message) : Turn :=
  { turn with notices := turn.notices ++ messages.map (.said thread) }

/-- One place less holds an instance. -/
def release (turn : Turn) (entry : InstanceId) : Turn :=
  let (handles, store) := turn.engine.store.release entry
  { engine := { turn.engine with store := store }
    notices := turn.notices ++ handles.map .destroyed }

def releaseAll (turn : Turn) (entries : List InstanceId) : Turn :=
  entries.foldl release turn

end Turn

namespace Engine

def unchanged (engine : Engine) : Turn := ⟨engine, []⟩

def updateCache (engine : Engine) (change : Cache → Cache) : Engine :=
  { engine with cache := engine.cache.map change }

def countInCache (engine : Engine) (change : CacheStats → CacheStats) : Engine :=
  engine.updateCache fun cache => cache.count change

/-- Adds a pipeline under a new number. -/
def addPipeline (engine : Engine) (pipeline : Pipeline) : PipelineId × Engine :=
  (engine.pipelines.length, { engine with pipelines := engine.pipelines ++ [pipeline] })

/-- The pipeline for a set of shaders, made on the first request for its keys. -/
def obtainPipeline (engine : Engine) (thread : Thread) (shaders : ShaderSet) :
    PipelineId × Turn :=
  match engine.manager.table.lookup shaders.keys with
  | some pipeline => (pipeline, engine.unchanged)
  | none =>
      let (pipeline, grown) := engine.addPipeline
        { shaders := shaders, optimizes := engine.manager.optimizes,
          reports := engine.manager.reports }
      (pipeline,
        { engine := { grown with manager := { grown.manager with
            table := grown.manager.table ++ [(shaders.keys, pipeline)] } }
          notices := [.said thread (.debug
            ("pipeline manager: creating pipeline for " ++ shaders.keys.listing))] })

/-- New pipelines report to the state cache from now on. Whether this is the first such request. -/
def attach (engine : Engine) : Bool × Engine :=
  (!engine.manager.reports,
    { engine with manager := { engine.manager with reports := true } })

/-- Makes an instance that one place holds. -/
def addInstance (engine : Engine) (item : Instance) : InstanceId × Engine :=
  let (entry, store) := engine.store.add item
  (entry, { engine with store := store })

def hold (engine : Engine) (entry : InstanceId) : Engine :=
  { engine with store := engine.store.hold entry }

def release (engine : Engine) (entry : InstanceId) : Turn := engine.unchanged.release entry

/-- Hands a job to the background compiler, which then holds the instance. -/
def offerJob (engine : Engine) (job : Job) : Engine :=
  if engine.compiler.accepts then
    { engine.hold job.entry with compiler := engine.compiler.offer job }
  else engine

/-- Reports an instance to the state cache, whose queue then holds it. -/
def report (engine : Engine) (job : Job) : Engine :=
  match engine.cache with
  | none => engine
  | some cache =>
      if cache.acceptsInstances then
        { engine.hold job.entry with
          cache := some { cache with writerQueue := cache.writerQueue.push job } }
      else engine

def provide (engine : Engine) (shader : Shader) : Engine :=
  engine.updateCache fun cache => cache.provide shader

/-- Takes all jobs that a recording compiler has collected. The taker holds their instances. -/
def takeRecorded (engine : Engine) : List Job × Engine :=
  match engine.compiler with
  | .recording jobs => (jobs, { engine with compiler := .recording [] })
  | .pool _ => ([], engine)

/-- What happens outside a pipeline in consequence of a step on it. -/
def absorb (thread : Thread) (pipeline : PipelineId) (turn : Turn) : Event → Turn
  | .said message => turn.say thread message
  | .destroyed handle => { turn with notices := turn.notices ++ [.destroyed handle] }
  | .reported entry => { turn with engine := turn.engine.report ⟨pipeline, entry⟩ }
  | .queued entry => { turn with engine := turn.engine.offerJob ⟨pipeline, entry⟩ }

/-- What the calls on a pipeline share. -/
def shared? (engine : Engine) (pipeline : PipelineId) : Option Shared :=
  engine.pipelines[pipeline]?.map fun current => ⟨current, engine.store⟩

/-- One step of a call on a pipeline. -/
def stepCall (engine : Engine) (thread : Thread) (pipeline : PipelineId) (call : Call) :
    Call × Turn :=
  match engine.shared? pipeline with
  | none => (call, engine.unchanged)
  | some shared =>
      let (next, changed, events) := call.step shared
      let moved : Engine :=
        { engine with pipelines := engine.pipelines.set pipeline changed.pipeline
                      store := changed.store }
      (next, events.foldl (absorb thread pipeline) moved.unchanged)

/-- What the device is asked by a call that waits for it. -/
def requestOf? (engine : Engine) (pipeline : PipelineId) (call : Call) : Option CompileRequest :=
  (engine.shared? pipeline).bind call.request?

/-- The identity under which an instance is remembered. -/
def keyOf? (engine : Engine) (job : Job) : Option PipelineKey := do
  let pipeline ← engine.pipelines[job.pipeline]?
  let realized ← engine.store.get? job.entry
  return pipeline.instanceKey realized

end Engine

end PipelineCache

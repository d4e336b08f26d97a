import PipelineCache.Pipeline.Basic

/-! The two operations on a pipeline, cut into the steps between which other threads may act. A draw
looks for an instance, and if there is none compiles one quickly and adds it. An optimization
compiles the fast handle of an instance. Neither holds a lock while the device compiles, so each
looks again afterwards and destroys what it compiled in vain. -/

namespace PipelineCache

/-- What the calls on one pipeline share. -/
structure Shared where
  pipeline : Pipeline
  store : Store
  deriving DecidableEq

/-- What a step makes visible outside the pipeline. -/
inductive Event
  | said (message : Message)
  | destroyed (handle : PipelineHandle)
  /-- A new instance is reported to the state cache. -/
  | reported (entry : InstanceId)
  /-- A new instance is handed to the background compiler. -/
  | queued (entry : InstanceId)
  deriving DecidableEq

/-- Where a draw stands; each name says what it does next. -/
inductive DrawPosition
  | scanning
  /-- Reads the handle of an instance it has found. -/
  | reading (entry : InstanceId)
  /-- Checks the state and reads the parent. -/
  | preparing
  | compiling (parent : Option PipelineHandle)
  | failing (error : CacheError)
  /-- Looks again for an instance, and adds its own if there is still none. -/
  | enlisting (handle : PipelineHandle)
  /-- Destroys a handle compiled in vain. -/
  | discarding (handle : PipelineHandle) (entry : InstanceId)
  | counting (handle : PipelineHandle) (entry : InstanceId)
  | offering (handle : PipelineHandle) (entry : InstanceId)
  | reporting (handle : PipelineHandle) (entry : InstanceId)
  | queueing (handle : PipelineHandle) (entry : InstanceId)
  | finished (result : Option PipelineHandle)
  deriving DecidableEq

/-- A request for a handle to draw with. -/
structure Draw where
  state : PipelineState
  pass : RenderPass
  position : DrawPosition := .scanning
  deriving DecidableEq

/-- Where an optimization stands; each name says what it does next. -/
inductive OptimizationPosition
  | checking
  /-- Checks the state and reads the parent. -/
  | preparing
  | compiling (parent : Option PipelineHandle)
  | failing (error : CacheError)
  /-- Sets the fast handle, unless another call was quicker. -/
  | installing (handle : PipelineHandle)
  /-- Destroys a handle compiled in vain. -/
  | discarding (handle : PipelineHandle)
  | countingDiscarded
  | countingInstalled (handle : PipelineHandle)
  /-- Makes an instance without a base handle the pipeline's own, if none serves its state yet. -/
  | adopting (handle : PipelineHandle)
  | offering (handle : PipelineHandle)
  | finished (result : Bool)
  deriving DecidableEq

/-- A request for the fast handle of an instance. -/
structure Optimization where
  entry : InstanceId
  position : OptimizationPosition := .checking
  deriving DecidableEq

namespace Shared

def find? (shared : Shared) (state : PipelineState) (format : RenderPassFormat) :
    Option InstanceId :=
  shared.pipeline.find? shared.store state format

def count (shared : Shared) (change : PipelineCounters → PipelineCounters) : Shared :=
  { shared with pipeline := { shared.pipeline with counters := change shared.pipeline.counters } }

def countFailure (shared : Shared) : Shared :=
  shared.count fun counters => { counters with failures := counters.failures + 1 }

/-- Appends a new instance with a base handle. -/
def enlist (shared : Shared) (state : PipelineState) (pass : RenderPass)
    (handle : PipelineHandle) : InstanceId × Shared :=
  let (entry, store) := shared.store.add { state := state, pass := pass, base := some handle }
  (entry, { pipeline := { shared.pipeline with
    instances := shared.pipeline.instances ++ [entry] }, store := store })

/-- Appends an existing instance, which the pipeline then holds. -/
def adopt (shared : Shared) (entry : InstanceId) : Shared :=
  { pipeline := { shared.pipeline with instances := shared.pipeline.instances ++ [entry] },
    store := shared.store.hold entry : Shared }.count
    fun counters => { counters with adopted := counters.adopted + 1 }

end Shared

namespace Draw

def moveTo (draw : Draw) (position : DrawPosition) : Draw := { draw with position := position }

/-- One step; a draw that waits for the device or has finished stays where it is. -/
def step (draw : Draw) (shared : Shared) : Draw × Shared × List Event :=
  match draw.position with
  | .scanning =>
      match shared.find? draw.state draw.pass.format with
      | some entry => (draw.moveTo (.reading entry), shared, [])
      | none => (draw.moveTo .preparing, shared, [])
  | .reading entry =>
      (draw.moveTo (.finished ((shared.store.get? entry).bind Instance.handle)), shared, [])
  | .preparing =>
      match shared.pipeline.validate draw.state draw.pass.format with
      | .ok () => (draw.moveTo (.compiling shared.pipeline.baseParent), shared, [])
      | .error error =>
          (draw.moveTo (.finished none), shared, [.said (shared.pipeline.warning error)])
  | .compiling _ => (draw, shared, [])
  | .failing error =>
      (draw.moveTo (.finished none), shared.countFailure,
        [.said (shared.pipeline.warning error)])
  | .enlisting handle =>
      match shared.find? draw.state draw.pass.format with
      | some entry => (draw.moveTo (.discarding handle entry), shared, [])
      | none =>
          let (entry, enlisted) := shared.enlist draw.state draw.pass handle
          (draw.moveTo (.counting handle entry), enlisted, [])
  | .discarding handle entry => (draw.moveTo (.reading entry), shared, [.destroyed handle])
  | .counting handle entry =>
      (draw.moveTo (.offering handle entry),
        shared.count fun counters => { counters with created := counters.created + 1 }, [])
  | .offering handle entry =>
      (draw.moveTo (.reporting handle entry),
        { shared with pipeline := shared.pipeline.offerParent .fast handle }, [])
  | .reporting handle entry =>
      (draw.moveTo (.queueing handle entry), shared,
        if shared.pipeline.reports then [.reported entry] else [])
  | .queueing handle entry =>
      (draw.moveTo (.finished (some handle)), shared,
        if shared.pipeline.optimizes then [.queued entry] else [])
  | .finished _ => (draw, shared, [])

/-- What the device is asked, while the draw waits for it. -/
def request? (draw : Draw) (shared : Shared) : Option CompileRequest :=
  match draw.position with
  | .compiling parent => some (shared.pipeline.request .fast draw.state draw.pass parent)
  | _ => none

/-- Goes on with the answer of the device. -/
def answer (draw : Draw) (result : Except CacheError PipelineHandle) : Draw :=
  match draw.position, result with
  | .compiling _, .ok handle => draw.moveTo (.enlisting handle)
  | .compiling _, .error error => draw.moveTo (.failing error)
  | _, _ => draw

end Draw

namespace Optimization

def moveTo (optimization : Optimization) (position : OptimizationPosition) : Optimization :=
  { optimization with position := position }

/-- Whether the instance belongs to the pipeline after its fast handle was set, and the pipeline
with it if it was adopted. An instance with a base handle is taken for the pipeline's own. -/
def adoption (entry : InstanceId) (realized : Instance) (shared : Shared) :
    Bool × Shared × List Event :=
  if realized.base.isSome then (true, shared, [])
  else
    match shared.find? realized.state realized.pass.format with
    | some other => (other == entry, shared, [])
    | none =>
        (true, shared.adopt entry,
          [.said (.debug ("graphics pipeline " ++ shared.pipeline.keys.text
            ++ ": adopted pre-warmed instance"))])

/-- One step; an optimization that waits for the device or has finished stays where it is. -/
def step (optimization : Optimization) (shared : Shared) : Optimization × Shared × List Event :=
  match shared.store.get? optimization.entry with
  | none => (optimization.moveTo (.finished false), shared, [])
  | some realized =>
      match optimization.position with
      | .checking =>
          (optimization.moveTo (if realized.fast.isSome then .finished false else .preparing),
            shared, [])
      | .preparing =>
          match shared.pipeline.validate realized.state realized.pass.format with
          | .ok () => (optimization.moveTo (.compiling shared.pipeline.fastParent), shared, [])
          | .error error =>
              (optimization.moveTo (.finished false), shared,
                [.said (shared.pipeline.warning error)])
      | .compiling _ => (optimization, shared, [])
      | .failing error =>
          (optimization.moveTo (.finished false), shared.countFailure,
            [.said (shared.pipeline.warning error)])
      | .installing handle =>
          match shared.store.install optimization.entry handle with
          | some store =>
              (optimization.moveTo (.countingInstalled handle), { shared with store := store }, [])
          | none => (optimization.moveTo (.discarding handle), shared, [])
      | .discarding handle =>
          (optimization.moveTo .countingDiscarded, shared, [.destroyed handle])
      | .countingDiscarded =>
          (optimization.moveTo (.finished false),
            shared.count fun counters => { counters with discarded := counters.discarded + 1 }, [])
      | .countingInstalled handle =>
          (optimization.moveTo (.adopting handle),
            shared.count fun counters => { counters with installed := counters.installed + 1 }, [])
      | .adopting handle =>
          let (owned, adopted, events) := adoption optimization.entry realized shared
          (optimization.moveTo (if owned then .offering handle else .finished true), adopted,
            events)
      | .offering handle =>
          (optimization.moveTo (.finished true),
            { shared with pipeline := shared.pipeline.offerParent .optimized handle }, [])
      | .finished _ => (optimization, shared, [])

/-- What the device is asked, while the optimization waits for it. -/
def request? (optimization : Optimization) (shared : Shared) : Option CompileRequest :=
  match optimization.position, shared.store.get? optimization.entry with
  | .compiling parent, some realized =>
      some (shared.pipeline.request .optimized realized.state realized.pass parent)
  | _, _ => none

/-- Goes on with the answer of the device. -/
def answer (optimization : Optimization) (result : Except CacheError PipelineHandle) :
    Optimization :=
  match optimization.position, result with
  | .compiling _, .ok handle => optimization.moveTo (.installing handle)
  | .compiling _, .error error => optimization.moveTo (.failing error)
  | _, _ => optimization

end Optimization

/-- A call in progress on a pipeline. -/
inductive Call
  | draw (current : Draw)
  | optimize (current : Optimization)
  deriving DecidableEq

namespace Call

def step (call : Call) (shared : Shared) : Call × Shared × List Event :=
  match call with
  | .draw current =>
      let (next, changed, events) := current.step shared
      (.draw next, changed, events)
  | .optimize current =>
      let (next, changed, events) := current.step shared
      (.optimize next, changed, events)

def request? (call : Call) (shared : Shared) : Option CompileRequest :=
  match call with
  | .draw current => current.request? shared
  | .optimize current => current.request? shared

def answer (call : Call) (result : Except CacheError PipelineHandle) : Call :=
  match call with
  | .draw current => .draw (current.answer result)
  | .optimize current => .optimize (current.answer result)

def isFinished : Call → Bool
  | .draw ⟨_, _, .finished _⟩ => true
  | .optimize ⟨_, .finished _⟩ => true
  | _ => false

/-- The handle that a finished draw has found. -/
def handle? : Call → Option PipelineHandle
  | .draw ⟨_, _, .finished result⟩ => result
  | _ => none

/-- Whether the call has finished and has set a fast handle. -/
def hasInstalled : Call → Bool
  | .optimize ⟨_, .finished result⟩ => result
  | _ => false

end Call

end PipelineCache

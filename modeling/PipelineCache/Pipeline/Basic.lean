import PipelineCache.Key
import PipelineCache.Log
import PipelineCache.Pipeline.Instance
import PipelineCache.Pipeline.Validation

/-! Graphics pipelines: a set of shaders and the instances it has been drawn with. Instances are
only ever appended, and no two serve the same state and format. The first handle of each mode
becomes the parent from which later handles of that mode are derived. -/

namespace PipelineCache

structure PipelineCounters where
  /-- Instances made by draws. -/
  created : Nat := 0
  /-- Instances compiled ahead of any draw that became the pipeline's own. -/
  adopted : Nat := 0
  installed : Nat := 0
  /-- Optimized handles destroyed because the instance had one already. -/
  discarded : Nat := 0
  failures : Nat := 0
  deriving DecidableEq

structure Pipeline where
  shaders : ShaderSet
  /-- New instances are handed to the background compiler. -/
  optimizes : Bool := false
  /-- New instances are reported to the state cache. -/
  reports : Bool := false
  instances : List InstanceId := []
  baseParent : Option PipelineHandle := none
  fastParent : Option PipelineHandle := none
  counters : PipelineCounters := {}
  deriving DecidableEq

namespace Pipeline

def keys (pipeline : Pipeline) : ShaderKeys := pipeline.shaders.keys

def layout (pipeline : Pipeline) : Layout := .ofShaders pipeline.shaders

/-- The identity under which an instance is remembered across runs. -/
def instanceKey (pipeline : Pipeline) (realized : Instance) : PipelineKey :=
  ⟨pipeline.keys, realized.state, realized.pass.format⟩

/-- The first instance that serves a state and a format. -/
def find? (pipeline : Pipeline) (store : Store) (state : PipelineState)
    (format : RenderPassFormat) : Option InstanceId :=
  pipeline.instances.find? fun id => (store.get? id).any fun item => item.serves state format

def validate (pipeline : Pipeline) (state : PipelineState) (format : RenderPassFormat) :
    Except CacheError Unit :=
  (state.validate pipeline.shaders format).mapError fun fault => .invalidState fault.message

def parent (pipeline : Pipeline) : CompileMode → Option PipelineHandle
  | .fast => pipeline.baseParent
  | .optimized => pipeline.fastParent

/-- Makes a handle the parent of later ones of its mode, unless there is one. -/
def offerParent (pipeline : Pipeline) (mode : CompileMode) (handle : PipelineHandle) : Pipeline :=
  match mode with
  | .fast => { pipeline with baseParent := pipeline.baseParent.or (some handle) }
  | .optimized => { pipeline with fastParent := pipeline.fastParent.or (some handle) }

def request (pipeline : Pipeline) (mode : CompileMode) (state : PipelineState) (pass : RenderPass)
    (parent : Option PipelineHandle) : CompileRequest :=
  ⟨pipeline.shaders, pipeline.layout, state, pass, mode, parent⟩

/-- A warning about the pipeline. -/
def warning (pipeline : Pipeline) (error : CacheError) : Message :=
  .warning ("graphics pipeline " ++ pipeline.keys.text ++ ": " ++ error.message)

def text (pipeline : Pipeline) : String :=
  Text.record "GraphicsPipeline" [
    ("shaders", pipeline.keys.listing), ("instances", toString pipeline.instances.length)]

end Pipeline

end PipelineCache

import PipelineCache.Shader.Key

/-! Shaders as the front end hands them over: a key, the code, and what analysis found out about the
interface. A shader set fills each of the five stages with at most one shader. -/

namespace PipelineCache

inductive ResourceKind
  | uniformBuffer
  | storageBuffer
  | sampledImage
  | storageImage
  | sampler
  deriving DecidableEq

namespace ResourceKind

def all : List ResourceKind := [uniformBuffer, storageBuffer, sampledImage, storageImage, sampler]

/-- The place of a kind among the kinds of one slot. -/
def rank : ResourceKind → Nat
  | uniformBuffer => 0
  | storageBuffer => 1
  | sampledImage => 2
  | storageImage => 3
  | sampler => 4

def name : ResourceKind → String
  | uniformBuffer => "UniformBuffer"
  | storageBuffer => "StorageBuffer"
  | sampledImage => "SampledImage"
  | storageImage => "StorageImage"
  | sampler => "Sampler"

end ResourceKind

/-- A binding slot that a shader reads. -/
structure ResourceSlot where
  slot : UInt32
  kind : ResourceKind
  deriving DecidableEq

structure ShaderInterface where
  /-- A bit for each input location that is read. -/
  inputMask : UInt32 := 0
  /-- A bit for each output location that is written. -/
  outputMask : UInt32 := 0
  resourceSlots : List ResourceSlot := []
  deriving DecidableEq

structure Shader where
  key : ShaderKey
  code : Bytes
  interface : ShaderInterface
  deriving DecidableEq

/-- At most one shader for each stage. -/
structure ShaderSet where
  vertex : Option Shader := none
  tessControl : Option Shader := none
  tessEval : Option Shader := none
  geometry : Option Shader := none
  fragment : Option Shader := none
  deriving DecidableEq

def ResourceSlot.text (resource : ResourceSlot) : String :=
  Text.record "ResourceSlot" [("slot", toString resource.slot), ("kind", resource.kind.name)]

def ShaderInterface.text (interface : ShaderInterface) : String :=
  Text.record "ShaderInterface" [
    ("input_mask", toString interface.inputMask), ("output_mask", toString interface.outputMask),
    ("resource_slots", Text.list (interface.resourceSlots.map ResourceSlot.text))]

namespace Shader

/-- A shader under the key of its stage and code. -/
def ofCode (stage : Stage) (code : Bytes) (interface : ShaderInterface) : Shader :=
  ⟨.ofCode stage code, code, interface⟩

def stage? (shader : Shader) : Option Stage := shader.key.stage?

def text (shader : Shader) : String :=
  Text.record "Shader" [
    ("key", shader.key.text), ("code_len", toString shader.code.length),
    ("interface", shader.interface.text)]

end Shader

namespace ShaderSet

def get (set : ShaderSet) : Stage → Option Shader
  | .vertex => set.vertex
  | .tessControl => set.tessControl
  | .tessEval => set.tessEval
  | .geometry => set.geometry
  | .fragment => set.fragment

/-- The set that holds at each stage what a function gives for it. -/
def ofStages (shader : Stage → Option Shader) : ShaderSet :=
  ⟨shader .vertex, shader .tessControl, shader .tessEval, shader .geometry, shader .fragment⟩

/-- The stages in use with their shaders, in pipeline order. -/
def present (set : ShaderSet) : List (Stage × Shader) :=
  Stage.all.toList.filterMap fun stage => (set.get stage).map (stage, ·)

/-- The key of each stage; a stage without a shader has the undefined key. -/
def keys (set : ShaderSet) : ShaderKeys :=
  Stage.all.map fun stage => ((set.get stage).map Shader.key).getD .undefined

def hasTessellation (set : ShaderSet) : Bool :=
  set.tessControl.isSome && set.tessEval.isSome

def text (set : ShaderSet) : String :=
  let slot (shader : Option Shader) := Text.optional (shader.map Shader.text)
  Text.record "ShaderSet" [
    ("vs", slot set.vertex), ("tcs", slot set.tessControl), ("tes", slot set.tessEval),
    ("gs", slot set.geometry), ("fs", slot set.fragment)]

end ShaderSet

end PipelineCache

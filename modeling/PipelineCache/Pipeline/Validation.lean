import PipelineCache.Shader.Basic
import PipelineCache.State.Basic
import PipelineCache.State.RenderPass

/-! Checks of a state and a render pass format against a set of shaders, made before the device is
asked to compile anything. The first fault in a fixed order is reported. -/

namespace PipelineCache

inductive StateFault
  | tooManyInputs (attributes bindings : UInt32)
  | undeclaredBinding (location binding : UInt32)
  | missingInputs (provided required : UInt32)
  | patchesWithoutTessellation
  | missingTargets (written targets : UInt32)
  deriving DecidableEq

def StateFault.message : StateFault → String
  | tooManyInputs attributes bindings =>
      toString attributes ++ " attributes / " ++ toString bindings
        ++ " bindings exceed the vertex input limits"
  | undeclaredBinding location binding =>
      "attribute " ++ toString location ++ " references undeclared binding " ++ toString binding
  | missingInputs provided required =>
      "input layout provides " ++ Text.hexNumber provided.toNat ++ ", vertex shader reads "
        ++ Text.hexNumber required.toNat
  | patchesWithoutTessellation => "tessellation patches without tessellation shaders"
  | missingTargets written targets =>
      "fragment shader writes " ++ Text.hexNumber written.toNat ++ ", render pass has targets "
        ++ Text.hexNumber targets.toNat

/-- Whether every bit of the second mask is in the first. -/
def covers (available required : UInt32) : Bool := available &&& required == required

namespace VertexInput

/-- The bit of an input location; locations without a bit in a word feed nothing. -/
def locationBit (location : UInt32) : UInt32 :=
  if location < 32 then 1 <<< location else 0

/-- A bit for each location that some attribute in use feeds. -/
def providedMask (input : VertexInput) : UInt32 :=
  input.attributes.foldl (fun mask entry => mask ||| locationBit entry.location) 0

def withinLimits (input : VertexInput) : Bool :=
  input.attributeCount.toNat ≤ capacity && input.bindingCount.toNat ≤ capacity

/-- The first attribute in use whose binding is not among the bindings in use. -/
def undeclared? (input : VertexInput) : Option VertexAttribute :=
  input.attributes.find? fun entry =>
    !input.bindings.any fun declared => declared.binding == entry.binding

end VertexInput

namespace ShaderSet

/-- The input locations that the vertex shader reads. -/
def requiredInputs (shaders : ShaderSet) : UInt32 :=
  (shaders.vertex.map fun shader => shader.interface.inputMask).getD 0

/-- The colour targets that the fragment shader writes. -/
def writtenTargets (shaders : ShaderSet) : UInt32 :=
  (shaders.fragment.map fun shader => shader.interface.outputMask).getD 0

end ShaderSet

namespace PipelineState

def drawsPatches (state : PipelineState) : Bool :=
  state.inputAssembly.topology == .patchList || state.inputAssembly.patchVertexCount != 0

/-- The first fault of a state and a format that are to be used with a set of shaders. -/
def validate (state : PipelineState) (shaders : ShaderSet) (format : RenderPassFormat) :
    Except StateFault Unit :=
  let input := state.vertexInput
  if !input.withinLimits then
    .error (.tooManyInputs input.attributeCount input.bindingCount)
  else
    match input.undeclared? with
    | some entry => .error (.undeclaredBinding entry.location entry.binding)
    | none =>
        if !covers input.providedMask shaders.requiredInputs then
          .error (.missingInputs input.providedMask shaders.requiredInputs)
        else if state.drawsPatches && !shaders.hasTessellation then
          .error .patchesWithoutTessellation
        else if !covers format.colorMask shaders.writtenTargets then
          .error (.missingTargets shaders.writtenTargets format.colorMask)
        else .ok ()

end PipelineState

end PipelineCache

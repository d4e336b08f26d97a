import PipelineCache.Digest.Xxh3
import PipelineCache.State.Blend
import PipelineCache.State.Raster
import PipelineCache.State.VertexInput

/-! The fixed-function state of a pipeline: everything but shaders that a pipeline is compiled
against. Two states mean the same pipeline only if every field agrees. -/

namespace PipelineCache

structure PipelineState where
  inputAssembly : InputAssembly := {}
  vertexInput : VertexInput := {}
  rasterizer : Rasterizer := {}
  multisample : Multisample := {}
  depthStencil : DepthStencil := {}
  outputMerger : OutputMerger := {}
  deriving DecidableEq

namespace PipelineState

def text (state : PipelineState) : String :=
  Text.record "StateVector" [
    ("input_assembly", state.inputAssembly.text), ("vertex_input", state.vertexInput.text),
    ("rasterizer", state.rasterizer.text), ("multisample", state.multisample.text),
    ("depth_stencil", state.depthStencil.text), ("output_merger", state.outputMerger.text)]

def codec : Codec PipelineState :=
  (InputAssembly.codec.pair (VertexInput.codec.pair (Rasterizer.codec.pair
    (Multisample.codec.pair (DepthStencil.codec.pair OutputMerger.codec))))).map
    (fun (inputAssembly, vertexInput, rasterizer, multisample, depthStencil, outputMerger) =>
      ⟨inputAssembly, vertexInput, rasterizer, multisample, depthStencil, outputMerger⟩)
    (fun state =>
      (state.inputAssembly, state.vertexInput, state.rasterizer, state.multisample,
        state.depthStencil, state.outputMerger))

theorem lawful_codec : codec.Lawful :=
  (InputAssembly.lawful_codec.pair (VertexInput.lawful_codec.pair (Rasterizer.lawful_codec.pair
    (Multisample.lawful_codec.pair (DepthStencil.lawful_codec.pair
    OutputMerger.lawful_codec))))).map (fun _ => rfl) fun _ => rfl

def toBytes (state : PipelineState) : Bytes := codec.encode state

/-- A short hash of the stored form. -/
def hash64 (state : PipelineState) : UInt64 := Xxh3.hash state.toBytes

end PipelineState

end PipelineCache

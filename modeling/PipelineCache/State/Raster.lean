import PipelineCache.State.Enumeration

/-! The parts of the fixed-function state between the vertices and the attachments: assembly of
primitives, rasterization, samples, and the depth and stencil tests. -/

namespace PipelineCache

structure InputAssembly where
  topology : PrimitiveTopology := ⟨0⟩
  primitiveRestart : Flag := .off
  /-- Vertices in a patch; has a meaning for patch lists only. -/
  patchVertexCount : UInt32 := 0
  deriving DecidableEq

structure Rasterizer where
  depthClampEnable : Flag := .off
  depthBiasEnable : Flag := .off
  polygonMode : PolygonMode := ⟨0⟩
  cullMode : CullMode := ⟨2⟩
  frontFace : FrontFace := ⟨1⟩
  viewportCount : UInt32 := 1
  deriving DecidableEq

structure Multisample where
  sampleCount : UInt32 := 1
  sampleMask : UInt32 := 0xFFFFFFFF
  alphaToCoverage : Flag := .off
  alphaToOne : Flag := .off
  deriving DecidableEq

/-- The stencil test of one side of a face. -/
structure StencilFace where
  failOp : StencilOp := ⟨0⟩
  passOp : StencilOp := ⟨0⟩
  depthFailOp : StencilOp := ⟨0⟩
  compareOp : CompareOp := ⟨7⟩
  compareMask : UInt32 := 0xFF
  writeMask : UInt32 := 0xFF
  reference : UInt32 := 0
  deriving DecidableEq

structure DepthStencil where
  depthTest : Flag := .on
  depthWrite : Flag := .on
  stencilTest : Flag := .off
  depthCompareOp : CompareOp := ⟨3⟩
  front : StencilFace := {}
  back : StencilFace := {}
  deriving DecidableEq

namespace InputAssembly

def text (assembly : InputAssembly) : String :=
  Text.record "InputAssemblyState" [
    ("topology", assembly.topology.text), ("primitive_restart", assembly.primitiveRestart.text),
    ("patch_vertex_count", toString assembly.patchVertexCount)]

def codec : Codec InputAssembly :=
  (Choice.codec.pair (Choice.codec.pair Codec.word)).map
    (fun (topology, primitiveRestart, patchVertexCount) =>
      ⟨topology, primitiveRestart, patchVertexCount⟩)
    (fun assembly =>
      (assembly.topology, assembly.primitiveRestart, assembly.patchVertexCount))

theorem lawful_codec : codec.Lawful :=
  (Choice.lawful_codec.pair (Choice.lawful_codec.pair Codec.lawful_word)).map
    (fun _ => rfl) fun _ => rfl

end InputAssembly

namespace Rasterizer

def text (rasterizer : Rasterizer) : String :=
  Text.record "RasterizerState" [
    ("depth_clamp_enable", rasterizer.depthClampEnable.text),
    ("depth_bias_enable", rasterizer.depthBiasEnable.text),
    ("polygon_mode", rasterizer.polygonMode.text), ("cull_mode", rasterizer.cullMode.text),
    ("front_face", rasterizer.frontFace.text),
    ("viewport_count", toString rasterizer.viewportCount)]

def codec : Codec Rasterizer :=
  (Choice.codec.pair (Choice.codec.pair (Choice.codec.pair (Choice.codec.pair
    (Choice.codec.pair Codec.word))))).map
    (fun (depthClamp, depthBias, polygonMode, cullMode, frontFace, viewportCount) =>
      ⟨depthClamp, depthBias, polygonMode, cullMode, frontFace, viewportCount⟩)
    (fun rasterizer =>
      (rasterizer.depthClampEnable, rasterizer.depthBiasEnable, rasterizer.polygonMode,
        rasterizer.cullMode, rasterizer.frontFace, rasterizer.viewportCount))

theorem lawful_codec : codec.Lawful :=
  (Choice.lawful_codec.pair (Choice.lawful_codec.pair (Choice.lawful_codec.pair
    (Choice.lawful_codec.pair (Choice.lawful_codec.pair Codec.lawful_word))))).map
    (fun _ => rfl) fun _ => rfl

end Rasterizer

namespace Multisample

def text (multisample : Multisample) : String :=
  Text.record "MultisampleState" [
    ("sample_count", toString multisample.sampleCount),
    ("sample_mask", toString multisample.sampleMask),
    ("alpha_to_coverage", multisample.alphaToCoverage.text),
    ("alpha_to_one", multisample.alphaToOne.text)]

def codec : Codec Multisample :=
  (Codec.word.pair (Codec.word.pair (Choice.codec.pair Choice.codec))).map
    (fun (sampleCount, sampleMask, alphaToCoverage, alphaToOne) =>
      ⟨sampleCount, sampleMask, alphaToCoverage, alphaToOne⟩)
    (fun multisample =>
      (multisample.sampleCount, multisample.sampleMask, multisample.alphaToCoverage,
        multisample.alphaToOne))

theorem lawful_codec : codec.Lawful :=
  (Codec.lawful_word.pair (Codec.lawful_word.pair (Choice.lawful_codec.pair
    Choice.lawful_codec))).map (fun _ => rfl) fun _ => rfl

end Multisample

namespace StencilFace

def text (face : StencilFace) : String :=
  Text.record "StencilOpState" [
    ("fail_op", face.failOp.text), ("pass_op", face.passOp.text),
    ("depth_fail_op", face.depthFailOp.text), ("compare_op", face.compareOp.text),
    ("compare_mask", toString face.compareMask), ("write_mask", toString face.writeMask),
    ("reference", toString face.reference)]

def codec : Codec StencilFace :=
  (Choice.codec.pair (Choice.codec.pair (Choice.codec.pair (Choice.codec.pair
    (Codec.word.pair (Codec.word.pair Codec.word)))))).map
    (fun (failOp, passOp, depthFailOp, compareOp, compareMask, writeMask, reference) =>
      ⟨failOp, passOp, depthFailOp, compareOp, compareMask, writeMask, reference⟩)
    (fun face =>
      (face.failOp, face.passOp, face.depthFailOp, face.compareOp, face.compareMask,
        face.writeMask, face.reference))

theorem lawful_codec : codec.Lawful :=
  (Choice.lawful_codec.pair (Choice.lawful_codec.pair (Choice.lawful_codec.pair
    (Choice.lawful_codec.pair (Codec.lawful_word.pair (Codec.lawful_word.pair
    Codec.lawful_word)))))).map (fun _ => rfl) fun _ => rfl

end StencilFace

namespace DepthStencil

def text (depthStencil : DepthStencil) : String :=
  Text.record "DepthStencilState" [
    ("depth_test", depthStencil.depthTest.text), ("depth_write", depthStencil.depthWrite.text),
    ("stencil_test", depthStencil.stencilTest.text),
    ("depth_compare_op", depthStencil.depthCompareOp.text),
    ("front", depthStencil.front.text), ("back", depthStencil.back.text)]

def codec : Codec DepthStencil :=
  (Choice.codec.pair (Choice.codec.pair (Choice.codec.pair (Choice.codec.pair
    (StencilFace.codec.pair StencilFace.codec))))).map
    (fun (depthTest, depthWrite, stencilTest, depthCompareOp, front, back) =>
      ⟨depthTest, depthWrite, stencilTest, depthCompareOp, front, back⟩)
    (fun depthStencil =>
      (depthStencil.depthTest, depthStencil.depthWrite, depthStencil.stencilTest,
        depthStencil.depthCompareOp, depthStencil.front, depthStencil.back))

theorem lawful_codec : codec.Lawful :=
  (Choice.lawful_codec.pair (Choice.lawful_codec.pair (Choice.lawful_codec.pair
    (Choice.lawful_codec.pair (StencilFace.lawful_codec.pair StencilFace.lawful_codec))))).map
    (fun _ => rfl) fun _ => rfl

end DepthStencil

end PipelineCache

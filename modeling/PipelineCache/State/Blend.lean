import PipelineCache.State.Enumeration

/-! Output merging: how the result of the fragment stage is combined with each of the eight colour
targets. -/

namespace PipelineCache

/-- The number of colour targets. -/
def targetCount : Nat := 8

/-- All four colour channels. -/
def colorWriteAll : UInt32 := 0xF

structure BlendAttachment where
  blendEnable : Flag := .off
  srcColorFactor : BlendFactor := ⟨1⟩
  dstColorFactor : BlendFactor := ⟨0⟩
  colorOp : BlendOp := ⟨0⟩
  srcAlphaFactor : BlendFactor := ⟨1⟩
  dstAlphaFactor : BlendFactor := ⟨0⟩
  alphaOp : BlendOp := ⟨0⟩
  writeMask : UInt32 := colorWriteAll
  deriving DecidableEq

structure OutputMerger where
  logicOpEnable : Flag := .off
  logicOp : LogicOp := ⟨3⟩
  attachments : Vector BlendAttachment targetCount := Vector.replicate _ {}
  deriving DecidableEq

namespace BlendAttachment

/-- The source weighted by its alpha value over the destination weighted by the rest. -/
def alphaBlending : BlendAttachment :=
  { blendEnable := .on, srcColorFactor := ⟨6⟩, dstColorFactor := ⟨7⟩, srcAlphaFactor := ⟨1⟩,
    dstAlphaFactor := ⟨7⟩ }

def text (attachment : BlendAttachment) : String :=
  Text.record "BlendAttachment" [
    ("blend_enable", attachment.blendEnable.text),
    ("src_color_factor", attachment.srcColorFactor.text),
    ("dst_color_factor", attachment.dstColorFactor.text),
    ("color_op", attachment.colorOp.text),
    ("src_alpha_factor", attachment.srcAlphaFactor.text),
    ("dst_alpha_factor", attachment.dstAlphaFactor.text),
    ("alpha_op", attachment.alphaOp.text), ("write_mask", toString attachment.writeMask)]

def codec : Codec BlendAttachment :=
  (Choice.codec.pair (Choice.codec.pair (Choice.codec.pair (Choice.codec.pair (Choice.codec.pair
    (Choice.codec.pair (Choice.codec.pair Codec.word))))))).map
    (fun (blendEnable, srcColor, dstColor, colorOp, srcAlpha, dstAlpha, alphaOp, writeMask) =>
      ⟨blendEnable, srcColor, dstColor, colorOp, srcAlpha, dstAlpha, alphaOp, writeMask⟩)
    (fun attachment =>
      (attachment.blendEnable, attachment.srcColorFactor, attachment.dstColorFactor,
        attachment.colorOp, attachment.srcAlphaFactor, attachment.dstAlphaFactor,
        attachment.alphaOp, attachment.writeMask))

theorem lawful_codec : codec.Lawful :=
  (Choice.lawful_codec.pair (Choice.lawful_codec.pair (Choice.lawful_codec.pair
    (Choice.lawful_codec.pair (Choice.lawful_codec.pair (Choice.lawful_codec.pair
    (Choice.lawful_codec.pair Codec.lawful_word))))))).map (fun _ => rfl) fun _ => rfl

end BlendAttachment

namespace OutputMerger

def text (merger : OutputMerger) : String :=
  Text.record "OutputMergerState" [
    ("logic_op_enable", merger.logicOpEnable.text), ("logic_op", merger.logicOp.text),
    ("attachments", Text.list (merger.attachments.toList.map BlendAttachment.text))]

def codec : Codec OutputMerger :=
  (Choice.codec.pair (Choice.codec.pair (BlendAttachment.codec.vector targetCount))).map
    (fun (logicOpEnable, logicOp, attachments) => ⟨logicOpEnable, logicOp, attachments⟩)
    (fun merger => (merger.logicOpEnable, merger.logicOp, merger.attachments))

theorem lawful_codec : codec.Lawful :=
  (Choice.lawful_codec.pair (Choice.lawful_codec.pair (BlendAttachment.lawful_codec.vector
    targetCount))).map (fun _ => rfl) fun _ => rfl

end OutputMerger

end PipelineCache

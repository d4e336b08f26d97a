import PipelineCache.State.Blend

/-! Render pass formats: the formats of the attachments that a pipeline is compiled against. -/

namespace PipelineCache

structure RenderPassFormat where
  sampleCount : UInt32 := 1
  depth : Format := .absent
  colors : Vector Format targetCount := Vector.replicate _ .absent
  deriving DecidableEq

namespace RenderPassFormat

/-- Replaces the format of one colour target; a target that does not exist changes nothing. -/
def withColor (format : RenderPassFormat) (target : Nat) (color : Format) : RenderPassFormat :=
  { format with colors := format.colors.setIfInBounds target color }

/-- One colour target and a depth format, which may be absent. -/
def single (color depth : Format) : RenderPassFormat :=
  { depth := depth : RenderPassFormat }.withColor 0 color

/-- A bit for each colour target that has a format. -/
def colorMask (format : RenderPassFormat) : UInt32 :=
  (List.finRange targetCount).foldl
    (fun mask target =>
      if format.colors[target].isPresent then mask ||| (1 <<< UInt32.ofNat target) else mask) 0

def text (format : RenderPassFormat) : String :=
  Text.record "RenderPassFormat" [
    ("sample_count", toString format.sampleCount), ("depth", format.depth.text),
    ("colors", Text.list (format.colors.toList.map Choice.text))]

def codec : Codec RenderPassFormat :=
  (Codec.word.pair (Choice.codec.pair (Choice.codec.vector targetCount))).map
    (fun (sampleCount, depth, colors) => ⟨sampleCount, depth, colors⟩)
    (fun format => (format.sampleCount, format.depth, format.colors))

theorem lawful_codec : codec.Lawful :=
  (Codec.lawful_word.pair (Choice.lawful_codec.pair (Choice.lawful_codec.vector targetCount))).map
    (fun _ => rfl) fun _ => rfl

end RenderPassFormat

end PipelineCache

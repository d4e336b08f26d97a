import PipelineCache.Error
import PipelineCache.Layout

/-! The graphics device as the library sees it: handles of pipelines and render passes, and what the
device needs to know in order to compile a pipeline. -/

namespace PipelineCache

/-- A pipeline of the device; the number zero stands for no pipeline. -/
structure PipelineHandle where
  raw : UInt64
  ne_zero : raw ≠ 0
  deriving DecidableEq

namespace PipelineHandle

def ofRaw? (raw : UInt64) : Option PipelineHandle :=
  if nonzero : raw ≠ 0 then some ⟨raw, nonzero⟩ else none

def text (handle : PipelineHandle) : String :=
  Text.application "PipelineHandle" [Text.hexNumber handle.raw.toNat]

end PipelineHandle

/-- A render pass of the device together with the format it was made for. -/
structure RenderPass where
  handle : UInt64
  format : RenderPassFormat
  deriving DecidableEq

inductive CompileMode
  /-- Little optimization, for a caller that waits. -/
  | fast
  /-- Full optimization, in the background. -/
  | optimized
  deriving DecidableEq

def CompileMode.name : CompileMode → String
  | fast => "Fast"
  | optimized => "Optimized"

structure CompileRequest where
  shaders : ShaderSet
  layout : Layout
  state : PipelineState
  pass : RenderPass
  mode : CompileMode
  /-- An earlier pipeline of the same shaders, from which the new one may be derived. -/
  parent : Option PipelineHandle

end PipelineCache

import PipelineCache.Device

/-! Render passes by their format. A render pass is made on the first request for its format and
shared afterwards; a request that fails leaves no trace. -/

namespace PipelineCache

/-- The render passes made so far, oldest first. -/
structure RenderPasses where
  made : List RenderPass := []
  deriving DecidableEq

namespace RenderPasses

def find? (passes : RenderPasses) (format : RenderPassFormat) : Option RenderPass :=
  passes.made.find? fun pass => pass.format == format

/-- The render pass for a format. The device's answer counts only if there is none yet. -/
def obtain (passes : RenderPasses) (format : RenderPassFormat)
    (answer : Except CacheError UInt64) : Except CacheError RenderPass × RenderPasses :=
  match passes.find? format with
  | some pass => (.ok pass, passes)
  | none =>
      match answer with
      | .error error => (.error error, passes)
      | .ok handle => (.ok ⟨handle, format⟩, ⟨passes.made ++ [⟨handle, format⟩]⟩)

end RenderPasses

end PipelineCache

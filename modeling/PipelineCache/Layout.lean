import PipelineCache.Shader.Basic

/-! The resource layout of a pipeline: one binding for each slot and kind that any stage reads, with
all the stages that read it, in ascending order of slot and then kind. -/

namespace PipelineCache

structure LayoutBinding where
  resource : ResourceSlot
  stages : StageFlags
  deriving DecidableEq

/-- Ascending order of slot, then of kind. -/
def ResourceSlot.precedes (first second : ResourceSlot) : Prop :=
  first.slot < second.slot ∨ first.slot = second.slot ∧ first.kind.rank < second.kind.rank

instance (first second : ResourceSlot) : Decidable (first.precedes second) :=
  inferInstanceAs (Decidable (_ ∨ _))

structure Layout where
  bindings : List LayoutBinding
  deriving DecidableEq

namespace Layout

/-- Puts a stage's use of a resource into a sorted list of bindings. -/
def addUse (resource : ResourceSlot) (stage : StageFlags) : List LayoutBinding → List LayoutBinding
  | [] => [⟨resource, stage⟩]
  | binding :: rest =>
      if resource = binding.resource then
        ⟨resource, binding.stages.union stage⟩ :: rest
      else if resource.precedes binding.resource then
        ⟨resource, stage⟩ :: binding :: rest
      else binding :: addUse resource stage rest

/-- Every use of a resource by a stage of the set, in pipeline order. -/
def uses (shaders : ShaderSet) : List (ResourceSlot × Stage) :=
  shaders.present.flatMap fun (stage, shader) =>
    shader.interface.resourceSlots.map (·, stage)

def ofShaders (shaders : ShaderSet) : Layout :=
  ⟨(uses shaders).foldl (fun bindings use => addUse use.1 use.2.flag bindings) []⟩

def isEmpty (layout : Layout) : Bool := layout.bindings.isEmpty

end Layout

end PipelineCache

import PipelineCache.Proofs.Traffic.Outcomes
import PipelineCache.Proofs.Validation

/-! Words of a state without a meaning: places of the vertex input behind its counts, the step rate of a
binding that advances with each vertex, and the vertices of a patch where no patches are drawn. States that
differ in nothing else are of the same meaning. The check of a state sees the places in use, and of the
bindings only their numbers, so it tells apart states of the same meaning by one word alone: where patches
are not drawn it still takes a patch vertex count for a wish to draw them. -/

namespace PipelineCache

/-- The rate of a binding that advances with each vertex. -/
def VertexInputRate.perVertex : VertexInputRate := ⟨0⟩

/-! ### States of the same meaning -/

structure InputAssembly.SameMeaning (first second : InputAssembly) : Prop where
  topology : first.topology = second.topology
  primitiveRestart : first.primitiveRestart = second.primitiveRestart
  patchVertexCount : first.topology = .patchList → first.patchVertexCount = second.patchVertexCount

structure VertexBinding.SameMeaning (first second : VertexBinding) : Prop where
  binding : first.binding = second.binding
  stride : first.stride = second.stride
  inputRate : first.inputRate = second.inputRate
  divisor : first.inputRate ≠ .perVertex → first.divisor = second.divisor

structure VertexInput.SameMeaning (first second : VertexInput) : Prop where
  attributeCount : first.attributeCount = second.attributeCount
  bindingCount : first.bindingCount = second.bindingCount
  attributes : ∀ place : Fin VertexInput.capacity, place < first.attributeCount.toNat →
    first.attributeTable[place] = second.attributeTable[place]
  bindings : ∀ place : Fin VertexInput.capacity, place < first.bindingCount.toNat →
    first.bindingTable[place].SameMeaning second.bindingTable[place]

/-- States that differ at most in words without a meaning. -/
structure PipelineState.SameMeaning (first second : PipelineState) : Prop where
  inputAssembly : first.inputAssembly.SameMeaning second.inputAssembly
  vertexInput : first.vertexInput.SameMeaning second.vertexInput
  rasterizer : first.rasterizer = second.rasterizer
  multisample : first.multisample = second.multisample
  depthStencil : first.depthStencil = second.depthStencil
  outputMerger : first.outputMerger = second.outputMerger

instance (first second : InputAssembly) : Decidable (first.SameMeaning second) :=
  decidable_of_iff (first.topology = second.topology ∧
      first.primitiveRestart = second.primitiveRestart ∧
      (first.topology = .patchList → first.patchVertexCount = second.patchVertexCount))
    ⟨fun ⟨topology, restart, count⟩ => ⟨topology, restart, count⟩,
      fun same => ⟨same.topology, same.primitiveRestart, same.patchVertexCount⟩⟩

instance (first second : VertexBinding) : Decidable (first.SameMeaning second) :=
  decidable_of_iff (first.binding = second.binding ∧ first.stride = second.stride ∧
      first.inputRate = second.inputRate ∧
      (first.inputRate ≠ .perVertex → first.divisor = second.divisor))
    ⟨fun ⟨binding, stride, rate, divisor⟩ => ⟨binding, stride, rate, divisor⟩,
      fun same => ⟨same.binding, same.stride, same.inputRate, same.divisor⟩⟩

instance (first second : VertexInput) : Decidable (first.SameMeaning second) :=
  decidable_of_iff (first.attributeCount = second.attributeCount ∧
      first.bindingCount = second.bindingCount ∧
      (∀ place : Fin VertexInput.capacity, place < first.attributeCount.toNat →
        first.attributeTable[place] = second.attributeTable[place]) ∧
      ∀ place : Fin VertexInput.capacity, place < first.bindingCount.toNat →
        first.bindingTable[place].SameMeaning second.bindingTable[place])
    ⟨fun ⟨attributeCount, bindingCount, attributes, bindings⟩ =>
        ⟨attributeCount, bindingCount, attributes, bindings⟩,
      fun same => ⟨same.attributeCount, same.bindingCount, same.attributes, same.bindings⟩⟩

instance (first second : PipelineState) : Decidable (first.SameMeaning second) :=
  decidable_of_iff (first.inputAssembly.SameMeaning second.inputAssembly ∧
      first.vertexInput.SameMeaning second.vertexInput ∧ first.rasterizer = second.rasterizer ∧
      first.multisample = second.multisample ∧ first.depthStencil = second.depthStencil ∧
      first.outputMerger = second.outputMerger)
    ⟨fun ⟨assembly, input, rasterizer, multisample, depthStencil, merger⟩ =>
        ⟨assembly, input, rasterizer, multisample, depthStencil, merger⟩,
      fun same => ⟨same.inputAssembly, same.vertexInput, same.rasterizer, same.multisample,
        same.depthStencil, same.outputMerger⟩⟩

/-- A patch vertex count where no patches are drawn. -/
def PipelineState.StrayPatches (state : PipelineState) : Prop :=
  state.inputAssembly.topology ≠ .patchList ∧ state.inputAssembly.patchVertexCount ≠ 0

instance (state : PipelineState) : Decidable state.StrayPatches :=
  inferInstanceAs (Decidable (_ ∧ _))

/-! ### What the check sees -/

namespace VertexInput

variable {first second : VertexInput}

theorem SameMeaning.attributes_eq (alike : first.SameMeaning second) :
    first.attributes = second.attributes := by
  have used := map_take_toList_congr id alike.attributes
  rw [List.map_id, List.map_id] at used
  rw [VertexInput.attributes, VertexInput.attributes, used, alike.attributeCount]

theorem SameMeaning.declared_eq (alike : first.SameMeaning second) :
    first.bindings.map VertexBinding.binding = second.bindings.map VertexBinding.binding := by
  have used := map_take_toList_congr VertexBinding.binding
    fun place inside => (alike.bindings place inside).binding
  rw [VertexInput.bindings, VertexInput.bindings, used, alike.bindingCount]

/-- Of the bindings in use the check looks at their numbers only. -/
theorem undeclared?_eq (input : VertexInput) : input.undeclared? = input.attributes.find? fun entry =>
    !(input.bindings.map VertexBinding.binding).any fun number => number == entry.binding := by
  simp only [undeclared?, List.any_map, Function.comp_def]

theorem SameMeaning.undeclared? (alike : first.SameMeaning second) :
    first.undeclared? = second.undeclared? := by
  rw [undeclared?_eq, undeclared?_eq, alike.attributes_eq, alike.declared_eq]

theorem SameMeaning.providedMask (alike : first.SameMeaning second) :
    first.providedMask = second.providedMask := by
  rw [VertexInput.providedMask, VertexInput.providedMask, alike.attributes_eq]

theorem SameMeaning.withinLimits (alike : first.SameMeaning second) :
    first.withinLimits = second.withinLimits := by
  rw [VertexInput.withinLimits, VertexInput.withinLimits, alike.attributeCount, alike.bindingCount]

end VertexInput

namespace PipelineState

variable {first second : PipelineState} {shaders : ShaderSet} {format : RenderPassFormat}

theorem drawsPatches_iff_stray (state : PipelineState) : state.drawsPatches = true ↔
    state.inputAssembly.topology = .patchList ∨ state.StrayPatches := by
  rw [drawsPatches_iff, StrayPatches, ne_eq, ne_eq]
  tauto

/-- For states of the same meaning the check differs at most in what it takes for patches. -/
theorem SameMeaning.validate_of_patches (alike : first.SameMeaning second)
    (patches : (first.drawsPatches && !shaders.hasTessellation) =
      (second.drawsPatches && !shaders.hasTessellation)) :
    first.validate shaders format = second.validate shaders format := by
  have input := alike.vertexInput
  simp only [validate, patches, input.withinLimits, input.attributeCount, input.bindingCount,
    input.undeclared?, input.providedMask]

theorem SameMeaning.validate (alike : first.SameMeaning second)
    (agreed : shaders.hasTessellation = true ∨ (first.StrayPatches ↔ second.StrayPatches)) :
    first.validate shaders format = second.validate shaders format := by
  apply alike.validate_of_patches
  rcases agreed with tessellated | agreed
  · rw [tessellated, Bool.not_true, Bool.and_false, Bool.and_false]
  · have patches : first.drawsPatches = second.drawsPatches := by
      rw [Bool.eq_iff_iff, drawsPatches_iff_stray, drawsPatches_iff_stray, agreed,
        alike.inputAssembly.topology]
    rw [patches]

/-- Where no tessellation shaders are, a stray patch vertex count alone is enough to be rejected. -/
theorem SameMeaning.validate_stray (alike : first.SameMeaning second)
    (accepted : first.validate shaders format = .ok ()) (bare : shaders.hasTessellation = false)
    (stray : second.StrayPatches) :
    second.validate shaders format = .error .patchesWithoutTessellation := by
  have input := alike.vertexInput
  have patches : second.drawsPatches = true := (drawsPatches_iff_stray second).mpr (Or.inr stray)
  simp only [PipelineState.validate, input.withinLimits, input.undeclared?, input.providedMask]
    at accepted
  simp only [PipelineState.validate, patches, bare]
  -- The checks that come before the one for patches are those that the other state has passed.
  split at accepted
  · cases accepted
  rename_i limited
  split at accepted
  · cases accepted
  split at accepted
  · cases accepted
  rename_i fed
  rw [if_neg limited]
  simp only [if_neg fed, Bool.not_false, Bool.and_true, if_true]

end PipelineState

theorem Pipeline.validate_congr {pipeline : Pipeline} {first second : PipelineState}
    {format : RenderPassFormat}
    (same : first.validate pipeline.shaders format = second.validate pipeline.shaders format) :
    pipeline.validate first format = pipeline.validate second format := by
  rw [validate, validate, same]

namespace Traffic

/-- States of the same meaning are accepted or rejected alike, and rejected in the same words, by a
pipeline with tessellation shaders, and by any other as long as both have a stray patch vertex count or
neither has; and if a draw with one of them returns nothing although the device never failed for it, then
the other is rejected too. In what is left, one state has a stray patch vertex count, and is rejected for
it where the other is accepted. -/
theorem verdict_follows_meaning {first second : PipelineState} (alike : first.SameMeaning second)
    (pipeline : Pipeline) (pass : RenderPass) :
    (pipeline.shaders.hasTessellation = true ∨ (first.StrayPatches ↔ second.StrayPatches) →
      pipeline.validate first pass.format = pipeline.validate second pass.format ∧
      ∀ optimizes reports moves traffic index,
        (Traffic.start pipeline.shaders optimizes reports).run? moves = some traffic →
        traffic.calls[index]? = some (.draw ⟨second, pass, .finished none⟩) →
        ¬ Refused moves index → ∃ error, pipeline.validate first pass.format = .error error) ∧
    (pipeline.shaders.hasTessellation = false → second.StrayPatches →
      pipeline.validate first pass.format = .ok () → pipeline.validate second pass.format =
        .error (.invalidState "tessellation patches without tessellation shaders")) := by
  constructor
  · intro agreed
    have same : pipeline.validate first pass.format = pipeline.validate second pass.format :=
      Pipeline.validate_congr (alike.validate agreed)
    refine ⟨same, ?_⟩
    intro optimizes reports moves traffic index ran found compiled
    obtain ⟨_, rejected | refused⟩ := explained_run ran index _ found
    · obtain ⟨fault, rejected⟩ := rejected
      have faulty : second.validate pipeline.shaders pass.format = .error fault := rejected
      rw [same, Pipeline.validate, faulty]
      exact ⟨_, rfl⟩
    · exact absurd refused compiled
  · intro bare stray accepted
    have passed : first.validate pipeline.shaders pass.format = .ok () := by
      rw [PipelineState.validate_eq_ok_iff, ← Pipeline.validate_eq_ok_iff]
      exact accepted
    rw [Pipeline.validate, alike.validate_stray passed bare stray]
    rfl

/-- Triangles without vertex input, and a number of vertices in a patch. -/
def triangles (patchVertexCount : UInt32) : PipelineState where
  inputAssembly := { topology := ⟨3⟩, patchVertexCount := patchVertexCount }

/-- An attribute whose binding is declared, if at all, in a place behind the bindings in use. -/
def undeclared (patchVertexCount divisor unused : UInt32) : PipelineState where
  inputAssembly := (triangles patchVertexCount).inputAssembly
  vertexInput :=
    { attributeCount := 1
      bindingCount := 1
      attributeTable := (Vector.replicate _ {}).set 0 { binding := 4 }
      bindingTable :=
        ((Vector.replicate _ {}).set 0 { binding := 2, divisor := divisor }).set 1 { binding := unused } }

/-- A single draw, up to the check of its state. -/
def rejectedDraw : List Move := [.draw (undeclared 5 9 0) ⟨1, {}⟩, .step 0, .step 0]

theorem verdict_follows_meaning_undeclared : ∃ traffic,
    (Traffic.start {} false false).run? rejectedDraw = some traffic ∧
    traffic.calls[0]? = some (.draw ⟨undeclared 5 9 0, ⟨1, {}⟩, .finished none⟩) ∧
    ¬ Refused rejectedDraw 0 ∧
    (undeclared 3 1 4).SameMeaning (undeclared 5 9 0) ∧
    ((undeclared 3 1 4).StrayPatches ↔ (undeclared 5 9 0).StrayPatches) ∧
    Pipeline.validate { shaders := {} } (undeclared 3 1 4) {} =
      Pipeline.validate { shaders := {} } (undeclared 5 9 0) {} ∧
    (∃ error, Pipeline.validate { shaders := {} } (undeclared 3 1 4) {} = .error error) ∧
    (triangles 0).SameMeaning (triangles 3) ∧
    (triangles 3).StrayPatches ∧
    Pipeline.validate { shaders := {} } (triangles 0) {} = .ok () ∧
    Pipeline.validate { shaders := {} } (triangles 3) {} =
      .error (.invalidState "tessellation patches without tessellation shaders") := by
  have ran : (Traffic.start {} false false).run? rejectedDraw =
      some (((Traffic.start {} false false).run? rejectedDraw).get (by decide)) :=
    (Option.some_get _).symm
  have compiled : ¬ Refused rejectedDraw 0 := by simp [Refused, rejectedDraw]
  have alike : (undeclared 3 1 4).SameMeaning (undeclared 5 9 0) := by decide
  have agreed : (undeclared 3 1 4).StrayPatches ↔ (undeclared 5 9 0).StrayPatches := by
    decide
  have plain : (triangles 0).SameMeaning (triangles 3) := by decide
  have stray : (triangles 3).StrayPatches := by decide
  obtain ⟨same, draws⟩ := (verdict_follows_meaning alike { shaders := {} } ⟨1, {}⟩).1 (Or.inr agreed)
  have rejected := (verdict_follows_meaning plain { shaders := {} } ⟨1, {}⟩).2 rfl stray rfl
  exact ⟨_, ran, by decide, compiled, alike, agreed, same,
    draws false false _ _ 0 ran (by decide) compiled, plain, stray, rfl, rejected⟩

/-- Triangles are rejected for a patch vertex count, which has no meaning for them. -/
theorem triangles_rejected_for_patches : ¬ ∀ (pipeline : Pipeline) (format : RenderPassFormat)
    (first second : PipelineState), first.SameMeaning second →
      (pipeline.validate first format = .ok () ↔ pipeline.validate second format = .ok ()) := by
  intro follows
  have plain : (triangles 0).SameMeaning (triangles 3) := by decide
  have accepted : Pipeline.validate { shaders := {} } (triangles 3) {} = .ok () :=
    (follows _ _ _ _ plain).mp rfl
  cases accepted

end Traffic

end PipelineCache

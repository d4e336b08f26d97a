import PipelineCache.Pipeline.Basic

/-! What the check of a state and a format accepts. A mask stands for the set of its bits, so the three
comparisons of masks say which locations are fed and which targets are there; with them the check
accepts exactly the states that fit the shaders and the format; at the end this is said of the words of
a state one by one. -/

namespace PipelineCache

/-! ### Masks -/

/-- Whether a mask has the bit with a certain number. -/
def hasBit (mask : UInt32) (bit : Nat) : Bool := mask.toNat.testBit bit

theorem hasBit_or (first second : UInt32) (bit : Nat) :
    hasBit (first ||| second) bit = (hasBit first bit || hasBit second bit) := by
  rw [hasBit, UInt32.toNat_or, Nat.testBit_or]
  rfl

theorem hasBit_and (first second : UInt32) (bit : Nat) :
    hasBit (first &&& second) bit = (hasBit first bit && hasBit second bit) := by
  rw [hasBit, UInt32.toNat_and, Nat.testBit_and]
  rfl

theorem hasBit_zero (bit : Nat) : hasBit 0 bit = false := Nat.zero_testBit bit

theorem eq_of_hasBit {first second : UInt32} (same : ∀ bit, hasBit first bit = hasBit second bit) :
    first = second :=
  UInt32.toNat.inj (Nat.eq_of_testBit_eq same)

theorem hasBit_shiftLeft {place : UInt32} (inside : place < 32) (bit : Nat) :
    hasBit (1 <<< place) bit = decide (place.toNat = bit) := by
  have small : place.toNat < 32 := inside
  have fits : 2 ^ place.toNat < 2 ^ 32 := Nat.pow_lt_pow_right (by decide) small
  have value : ((1 : UInt32) <<< place).toNat = 2 ^ place.toNat := by
    rw [UInt32.toNat_shiftLeft, Nat.mod_eq_of_lt small, UInt32.toNat_one, Nat.shiftLeft_eq,
      Nat.one_mul, Nat.mod_eq_of_lt fits]
  rw [hasBit, value, Nat.testBit_two_pow]

theorem lt_of_hasBit {mask : UInt32} {bit : Nat} (there : hasBit mask bit = true) : bit < 32 := by
  refine Nat.lt_of_not_le fun beyond => ?_
  have small : mask.toNat < 2 ^ bit :=
    Nat.lt_of_lt_of_le mask.toNat_lt (Nat.pow_le_pow_right (by decide) beyond)
  rw [hasBit, Nat.testBit_lt_two_pow small] at there
  cases there

theorem covers_iff (available required : UInt32) : covers available required = true ↔
    ∀ bit, hasBit required bit = true → hasBit available bit = true := by
  rw [covers, beq_iff_eq]
  constructor
  · intro same bit needed
    rw [← same, hasBit_and] at needed
    exact (Bool.and_eq_true_iff.mp needed).1
  · intro covered
    refine eq_of_hasBit fun bit => ?_
    rw [hasBit_and]
    cases needed : hasBit required bit with
    | false => exact Bool.and_false _
    | true => rw [covered bit needed, Bool.and_true]

/-- A mask that takes one bit after another has what it had and what it took. -/
theorem hasBit_foldl {α : Type} (bits : α → UInt32) (values : List α) (mask : UInt32) (bit : Nat) :
    hasBit (values.foldl (fun mask value => mask ||| bits value) mask) bit = true ↔
      hasBit mask bit = true ∨ ∃ value ∈ values, hasBit (bits value) bit = true := by
  induction values generalizing mask with
  | nil => simp
  | cons first rest ih =>
      simp only [List.foldl_cons, ih, hasBit_or, Bool.or_eq_true, List.mem_cons, exists_eq_or_imp,
        or_assoc]

namespace VertexInput

theorem hasBit_locationBit {location : UInt32} {bit : Nat} :
    hasBit (locationBit location) bit = true ↔ location.toNat = bit ∧ bit < 32 := by
  unfold locationBit
  split
  · rename_i inside
    have small : location.toNat < 32 := inside
    rw [hasBit_shiftLeft inside, decide_eq_true_iff]
    exact ⟨fun same => ⟨same, same ▸ small⟩, And.left⟩
  · rename_i outside
    have large : ¬ location.toNat < 32 := outside
    rw [hasBit_zero]
    exact ⟨nofun, fun ⟨same, inside⟩ => absurd (same ▸ inside) large⟩

theorem hasBit_providedMask (input : VertexInput) (bit : Nat) :
    hasBit input.providedMask bit = true ↔
      bit < 32 ∧ ∃ entry ∈ input.attributes, entry.location.toNat = bit := by
  rw [providedMask, hasBit_foldl (fun entry : VertexAttribute => locationBit entry.location)]
  simp only [hasBit_zero, Bool.false_eq_true, false_or, hasBit_locationBit]
  constructor
  · rintro ⟨entry, member, same, inside⟩
    exact ⟨inside, entry, member, same⟩
  · rintro ⟨inside, entry, member, same⟩
    exact ⟨entry, member, same, inside⟩

theorem undeclared?_eq_none_iff (input : VertexInput) : input.undeclared? = none ↔
    ∀ entry ∈ input.attributes, ∃ declared ∈ input.bindings, declared.binding = entry.binding := by
  simp only [undeclared?, List.find?_eq_none, Bool.not_eq_true', Bool.not_eq_false,
    List.any_eq_true, beq_iff_eq]

theorem withinLimits_iff (input : VertexInput) : input.withinLimits = true ↔
    input.attributeCount.toNat ≤ capacity ∧ input.bindingCount.toNat ≤ capacity := by
  rw [withinLimits, Bool.and_eq_true, decide_eq_true_iff, decide_eq_true_iff]

end VertexInput

theorem RenderPassFormat.hasBit_colorMask (format : RenderPassFormat) (bit : Nat) :
    hasBit format.colorMask bit = true ↔
      ∃ inside : bit < targetCount, format.colors[bit].isPresent = true := by
  have folded : format.colorMask = (List.finRange targetCount).foldl (fun mask target =>
      mask ||| if format.colors[target].isPresent then 1 <<< UInt32.ofNat target else 0) 0 := by
    rw [colorMask]
    congr 1
    funext mask target
    split <;> simp
  have placed (target : Fin targetCount) : hasBit (1 <<< UInt32.ofNat target) bit = true ↔
      (target : Nat) = bit := by
    have same : (UInt32.ofNat target).toNat = target :=
      UInt32.toNat_ofNat_of_lt' (Nat.lt_trans target.isLt (by decide))
    have inside : UInt32.ofNat target < 32 := by
      show (UInt32.ofNat target).toNat < 32
      rw [same]
      exact Nat.lt_trans target.isLt (by decide)
    rw [hasBit_shiftLeft inside, same, decide_eq_true_iff]
  rw [folded, hasBit_foldl (fun target : Fin targetCount =>
    if format.colors[target].isPresent then (1 : UInt32) <<< UInt32.ofNat target else 0)]
  simp only [hasBit_zero, Bool.false_eq_true, false_or, List.mem_finRange, true_and]
  constructor
  · rintro ⟨target, there⟩
    split at there
    · rename_i present
      obtain rfl := (placed target).mp there
      exact ⟨target.isLt, present⟩
    · rw [hasBit_zero] at there
      cases there
  · rintro ⟨inside, present⟩
    refine ⟨⟨bit, inside⟩, ?_⟩
    have taken := (placed ⟨bit, inside⟩).mpr rfl
    rwa [if_pos (show format.colors[(⟨bit, inside⟩ : Fin targetCount)].isPresent = true from present)]

namespace PipelineState

/-- A state and a format that belong together with a set of shaders: the vertex input keeps its limits
and feeds every input that is read, each attribute has its binding, patches meet tessellation shaders,
and every output that is written has a target. -/
structure Fits (state : PipelineState) (shaders : ShaderSet) (format : RenderPassFormat) : Prop where
  attributes : state.vertexInput.attributeCount.toNat ≤ VertexInput.capacity
  bindings : state.vertexInput.bindingCount.toNat ≤ VertexInput.capacity
  declared : ∀ entry ∈ state.vertexInput.attributes,
    ∃ declared ∈ state.vertexInput.bindings, declared.binding = entry.binding
  fed : ∀ location, hasBit shaders.requiredInputs location = true →
    ∃ entry ∈ state.vertexInput.attributes, entry.location.toNat = location
  tessellated : state.inputAssembly.topology = .patchList ∨ state.inputAssembly.patchVertexCount ≠ 0 →
    shaders.tessControl.isSome = true ∧ shaders.tessEval.isSome = true
  targeted : ∀ target, hasBit shaders.writtenTargets target = true →
    ∃ inside : target < targetCount, format.colors[target].isPresent = true

theorem drawsPatches_iff (state : PipelineState) : state.drawsPatches = true ↔
    state.inputAssembly.topology = .patchList ∨ state.inputAssembly.patchVertexCount ≠ 0 := by
  rw [drawsPatches, Bool.or_eq_true, beq_iff_eq, bne_iff_ne]

/-- The check accepts exactly what fits. -/
theorem validate_eq_ok_iff (state : PipelineState) (shaders : ShaderSet) (format : RenderPassFormat) :
    state.validate shaders format = .ok () ↔ state.Fits shaders format := by
  have covered : covers state.vertexInput.providedMask shaders.requiredInputs = true ↔
      ∀ location, hasBit shaders.requiredInputs location = true →
        ∃ entry ∈ state.vertexInput.attributes, entry.location.toNat = location := by
    rw [covers_iff]
    refine forall₂_congr fun location needed => ?_
    rw [VertexInput.hasBit_providedMask, and_iff_right (lt_of_hasBit needed)]
  have targeted : covers format.colorMask shaders.writtenTargets = true ↔
      ∀ target, hasBit shaders.writtenTargets target = true →
        ∃ inside : target < targetCount, format.colors[target].isPresent = true := by
    rw [covers_iff]
    exact forall₂_congr fun target _ => format.hasBit_colorMask target
  constructor
  · intro accepted
    simp only [validate] at accepted
    split at accepted
    · cases accepted
    rename_i limited
    split at accepted
    · cases accepted
    rename_i declared
    split at accepted
    · cases accepted
    rename_i fed
    split at accepted
    · cases accepted
    rename_i tessellated
    split at accepted
    · cases accepted
    rename_i written
    simp only [Bool.not_eq_true', Bool.not_eq_false] at limited fed written
    obtain ⟨attributes, bindings⟩ := (VertexInput.withinLimits_iff _).mp limited
    refine ⟨attributes, bindings, (VertexInput.undeclared?_eq_none_iff _).mp declared,
      covered.mp fed, fun patches => ?_, targeted.mp written⟩
    rw [(drawsPatches_iff state).mpr patches, Bool.true_and, Bool.not_eq_true',
      Bool.not_eq_false] at tessellated
    exact Bool.and_eq_true_iff.mp tessellated
  · intro fits
    have limited := (VertexInput.withinLimits_iff _).mpr ⟨fits.attributes, fits.bindings⟩
    have declared := (VertexInput.undeclared?_eq_none_iff _).mpr fits.declared
    have tessellated : (state.drawsPatches && !shaders.hasTessellation) = false := by
      cases patches : state.drawsPatches with
      | false => rfl
      | true =>
          have both := fits.tessellated ((drawsPatches_iff state).mp patches)
          rw [ShaderSet.hasTessellation, both.1, both.2]
          rfl
    simp only [validate, limited, declared, covered.mpr fits.fed, tessellated,
      targeted.mpr fits.targeted, Bool.not_true, Bool.false_eq_true, if_false]

end PipelineState

theorem Pipeline.validate_eq_ok_iff (pipeline : Pipeline) (state : PipelineState)
    (format : RenderPassFormat) :
    pipeline.validate state format = .ok () ↔ state.Fits pipeline.shaders format := by
  rw [← PipelineState.validate_eq_ok_iff, validate]
  cases state.validate pipeline.shaders format with
  | error fault => exact ⟨nofun, nofun⟩
  | ok value => exact ⟨fun _ => rfl, fun _ => rfl⟩

/-! ### Field by field -/

/-- Of a table with a count the entries in use are those at the places before the count. -/
theorem exists_mem_take_toList_iff {α : Type} {size count : Nat} {table : Vector α size}
    {property : α → Prop} : (∃ entry ∈ table.toList.take count, property entry) ↔
      ∃ place : Fin size, place < count ∧ property table[place] := by
  constructor
  · rintro ⟨entry, member, holds⟩
    obtain ⟨place, inside, rfl⟩ := List.mem_take_iff_getElem.mp member
    rw [Vector.length_toList, Nat.lt_min] at inside
    exact ⟨⟨place, inside.2⟩, inside.1, by simpa using holds⟩
  · rintro ⟨place, inside, holds⟩
    have used : table[place] ∈ table.toList.take count := by
      refine List.mem_take_iff_getElem.mpr ⟨place, ?_, by simp⟩
      rw [Vector.length_toList, Nat.lt_min]
      exact ⟨inside, place.isLt⟩
    exact ⟨table[place], used, holds⟩

theorem forall_mem_take_toList_iff {α : Type} {size count : Nat} {table : Vector α size}
    {property : α → Prop} : (∀ entry ∈ table.toList.take count, property entry) ↔
      ∀ place : Fin size, place < count → property table[place] := by
  have missing : (∃ entry ∈ table.toList.take count, ¬ property entry) ↔
      ∃ place : Fin size, place < count ∧ ¬ property table[place] := exists_mem_take_toList_iff
  simpa only [not_exists, not_and, Classical.not_not] using not_congr missing

/-- Tables that look the same in all places before a count look the same in the places in use. -/
theorem map_take_toList_congr {α β : Type} {size count : Nat} {first second : Vector α size}
    (view : α → β) (same : ∀ place : Fin size, place < count → view first[place] = view second[place]) :
    (first.toList.take count).map view = (second.toList.take count).map view := by
  apply List.ext_getElem
  · rw [List.length_map, List.length_map, List.length_take, List.length_take, Vector.length_toList,
      Vector.length_toList]
  · intro place left right
    rw [List.length_map, List.length_take, Vector.length_toList] at left
    obtain ⟨before, within⟩ := Nat.lt_min.mp left
    rw [List.getElem_map, List.getElem_map, List.getElem_take, List.getElem_take,
      Vector.getElem_toList, Vector.getElem_toList]
    exact same ⟨place, within⟩ before

namespace ShaderSet

variable {shaders : ShaderSet} {bit : Nat}

/-- Without a vertex shader no input is required. -/
theorem hasBit_requiredInputs : hasBit shaders.requiredInputs bit = true ↔
    ∃ shader, shaders.vertex = some shader ∧ hasBit shader.interface.inputMask bit = true := by
  cases present : shaders.vertex with
  | none => simp [requiredInputs, present, hasBit_zero]
  | some shader => simp [requiredInputs, present]

/-- Without a fragment shader no target is written. -/
theorem hasBit_writtenTargets : hasBit shaders.writtenTargets bit = true ↔
    ∃ shader, shaders.fragment = some shader ∧ hasBit shader.interface.outputMask bit = true := by
  cases present : shaders.fragment with
  | none => simp [writtenTargets, present, hasBit_zero]
  | some shader => simp [writtenTargets, present]

end ShaderSet

theorem Format.isPresent_iff (format : Format) : format.isPresent = true ↔ format ≠ .absent := by
  obtain ⟨raw⟩ := format
  simp [isPresent, absent]

/-- For all words that a state may hold, a pipeline accepts it together with a format if and only if
both counts are at most 16; each attribute in use names the binding number of a binding in use; each
bit of the vertex shader's input mask is the location of an attribute in use; patches meet both
tessellation shaders; and each bit of the fragment shader's output mask is below 8 and names a target
with a format. -/
theorem Pipeline.accepts_consistent_states (pipeline : Pipeline) (state : PipelineState)
    (format : RenderPassFormat) :
    pipeline.validate state format = .ok () ↔
      (state.vertexInput.attributeCount.toNat ≤ 16 ∧ state.vertexInput.bindingCount.toNat ≤ 16) ∧
      (∀ place : Fin 16, place < state.vertexInput.attributeCount.toNat →
        ∃ other : Fin 16, other < state.vertexInput.bindingCount.toNat ∧
          state.vertexInput.bindingTable[other].binding =
            state.vertexInput.attributeTable[place].binding) ∧
      (∀ shader, pipeline.shaders.vertex = some shader →
        ∀ bit, shader.interface.inputMask.toNat.testBit bit = true →
          ∃ place : Fin 16, place < state.vertexInput.attributeCount.toNat ∧
            state.vertexInput.attributeTable[place].location.toNat = bit) ∧
      (state.inputAssembly.topology = .patchList ∨ state.inputAssembly.patchVertexCount ≠ 0 →
        pipeline.shaders.tessControl.isSome = true ∧ pipeline.shaders.tessEval.isSome = true) ∧
      (∀ shader, pipeline.shaders.fragment = some shader →
        ∀ bit, shader.interface.outputMask.toNat.testBit bit = true →
          ∃ inside : bit < 8, format.colors[bit] ≠ .absent) := by
  have declared : (∀ entry ∈ state.vertexInput.attributes,
      ∃ declared ∈ state.vertexInput.bindings, declared.binding = entry.binding) ↔
      ∀ place : Fin 16, place < state.vertexInput.attributeCount.toNat →
        ∃ other : Fin 16, other < state.vertexInput.bindingCount.toNat ∧
          state.vertexInput.bindingTable[other].binding =
            state.vertexInput.attributeTable[place].binding :=
    forall_mem_take_toList_iff.trans
      (forall₂_congr fun _ _ => exists_mem_take_toList_iff)
  have fed : (∀ bit, hasBit pipeline.shaders.requiredInputs bit = true →
      ∃ entry ∈ state.vertexInput.attributes, entry.location.toNat = bit) ↔
      ∀ shader, pipeline.shaders.vertex = some shader →
        ∀ bit, shader.interface.inputMask.toNat.testBit bit = true →
          ∃ place : Fin 16, place < state.vertexInput.attributeCount.toNat ∧
            state.vertexInput.attributeTable[place].location.toNat = bit := by
    simp only [ShaderSet.hasBit_requiredInputs, forall_exists_index, and_imp]
    rw [forall_comm]
    exact forall_congr' fun shader => forall_comm.trans
      (forall_congr' fun present => forall₂_congr fun bit needed => exists_mem_take_toList_iff)
  have targeted : (∀ bit, hasBit pipeline.shaders.writtenTargets bit = true →
      ∃ inside : bit < targetCount, format.colors[bit].isPresent = true) ↔
      ∀ shader, pipeline.shaders.fragment = some shader →
        ∀ bit, shader.interface.outputMask.toNat.testBit bit = true →
          ∃ inside : bit < 8, format.colors[bit] ≠ .absent := by
    simp only [ShaderSet.hasBit_writtenTargets, forall_exists_index, and_imp, Format.isPresent_iff]
    rw [forall_comm]
    exact forall_congr' fun shader => forall_comm
  rw [Pipeline.validate_eq_ok_iff, ← declared, ← fed, ← targeted]
  constructor
  · intro fits
    exact ⟨⟨fits.attributes, fits.bindings⟩, fits.declared, fits.fed, fits.tessellated, fits.targeted⟩
  · rintro ⟨⟨attributes, bindings⟩, declared, fed, tessellated, targeted⟩
    exact ⟨attributes, bindings, declared, fed, tessellated, targeted⟩

end PipelineCache

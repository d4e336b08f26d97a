import PipelineCache.Layout
import PipelineCache.Proofs.Validation

/-! A layout tells which stages read which resources. A list of bindings in ascending order serves as a
table from resources to stages: to put a use into it adds a stage at one resource and leaves all others
alone, and two such lists that tell the same are equal. So a layout has a binding for each resource that
some shader reads, with the bits of exactly those stages, whatever the order in which the shaders list
their resources, and however often. -/

namespace PipelineCache

/-- The shader of a stage reads a resource. -/
def ShaderSet.Reads (shaders : ShaderSet) (stage : Stage) (resource : ResourceSlot) : Prop :=
  ∃ shader, shaders.get stage = some shader ∧ resource ∈ shader.interface.resourceSlots

theorem Stage.hasBit_flag (stage : Stage) (bit : Nat) :
    hasBit stage.flag.bits bit = true ↔ (stage.index : Nat) = bit := by
  cases stage <;> rw [flag, hasBit_shiftLeft (by decide), decide_eq_true_iff] <;> rfl

namespace ResourceSlot

variable {first second third : ResourceSlot}

/-- The number of a resource in ascending order. -/
def place (resource : ResourceSlot) : Nat := 5 * resource.slot.toNat + resource.kind.rank

theorem rank_lt (kind : ResourceKind) : kind.rank < 5 := by
  cases kind <;> decide

theorem precedes_iff : first.precedes second ↔ first.place < second.place := by
  have low := rank_lt first.kind
  have high := rank_lt second.kind
  rw [precedes, UInt32.lt_iff_toNat_lt, ← UInt32.toNat_inj, place, place]
  omega

theorem eq_of_place (same : first.place = second.place) : first = second := by
  obtain ⟨slot, kind⟩ := first
  obtain ⟨slot', kind'⟩ := second
  have low := rank_lt kind
  have high := rank_lt kind'
  simp only [place] at same
  have slots : slot.toNat = slot'.toNat := by omega
  have ranks : kind.rank = kind'.rank := by omega
  obtain rfl := UInt32.toNat_inj.mp slots
  cases kind <;> cases kind' <;> first | rfl | cases ranks

theorem ne_of_precedes (before : first.precedes second) : first ≠ second := by
  rintro rfl
  exact Nat.lt_irrefl _ (precedes_iff.mp before)

theorem precedes_trans (before : first.precedes second) (after : second.precedes third) :
    first.precedes third :=
  precedes_iff.mpr (Nat.lt_trans (precedes_iff.mp before) (precedes_iff.mp after))

theorem precedes_of_not (different : first ≠ second) (late : ¬ first.precedes second) :
    second.precedes first := by
  have apart : first.place ≠ second.place := fun same => different (eq_of_place same)
  rw [precedes_iff] at late ⊢
  omega

end ResourceSlot

namespace Layout

variable {bindings others : List LayoutBinding} {uses : List (ResourceSlot × Stage)}
  {resource : ResourceSlot} {flags : StageFlags}

/-- Strictly ascending order of slot and kind. -/
def Ascending (bindings : List LayoutBinding) : Prop :=
  bindings.Pairwise fun first second => first.resource.precedes second.resource

/-- The stages that a list of bindings tells for a resource. -/
def stagesAt (resource : ResourceSlot) : List LayoutBinding → Option StageFlags
  | [] => none
  | binding :: rest =>
      if resource = binding.resource then some binding.stages else stagesAt resource rest

theorem stagesAt_of_precedes (before : ∀ binding ∈ bindings, resource.precedes binding.resource) :
    stagesAt resource bindings = none := by
  induction bindings with
  | nil => rfl
  | cons binding rest ih =>
      obtain ⟨first, others⟩ := List.forall_mem_cons.mp before
      rw [stagesAt, if_neg (ResourceSlot.ne_of_precedes first), ih others]

theorem mem_of_stagesAt (told : stagesAt resource bindings = some flags) :
    ⟨resource, flags⟩ ∈ bindings := by
  induction bindings with
  | nil => cases told
  | cons binding rest ih =>
      rw [stagesAt] at told
      split at told
      · rename_i same
        rw [same, ← Option.some.inj told]
        exact List.mem_cons_self
      · exact List.mem_cons_of_mem _ (ih told)

/-- In ascending order each binding is the only one for its resource. -/
theorem Ascending.stagesAt (ascending : Ascending bindings) {binding : LayoutBinding}
    (member : binding ∈ bindings) : stagesAt binding.resource bindings = some binding.stages := by
  induction bindings with
  | nil => cases member
  | cons first rest ih =>
      obtain ⟨before, later⟩ := List.pairwise_cons.mp ascending
      rw [Layout.stagesAt]
      rcases List.mem_cons.mp member with rfl | behind
      · exact if_pos rfl
      · rw [if_neg (ResourceSlot.ne_of_precedes (before binding behind)).symm]
        exact ih later behind

theorem Ascending.ext (first : Ascending bindings) (second : Ascending others)
    (same : ∀ resource, Layout.stagesAt resource bindings = Layout.stagesAt resource others) :
    bindings = others := by
  have members (binding : LayoutBinding) : binding ∈ bindings ↔ binding ∈ others :=
    ⟨fun member => mem_of_stagesAt (same binding.resource ▸ first.stagesAt member),
      fun member => mem_of_stagesAt ((same binding.resource).symm ▸ second.stagesAt member)⟩
  have nodup {list : List LayoutBinding} (ascending : Ascending list) : list.Nodup :=
    ascending.imp fun before equal => ResourceSlot.ne_of_precedes before (congrArg _ equal)
  refine ((List.perm_ext_iff_of_nodup (nodup first) (nodup second)).mpr members).eq_of_pairwise
    (fun one other _ _ before after => ?_) first second
  exact absurd rfl (ResourceSlot.ne_of_precedes (ResourceSlot.precedes_trans before after))

/-! ### One more use -/

theorem mem_addUse {binding : LayoutBinding} (member : binding ∈ addUse resource flags bindings) :
    binding.resource = resource ∨ binding ∈ bindings := by
  induction bindings with
  | nil =>
      rw [List.mem_singleton.mp member]
      exact Or.inl rfl
  | cons first rest ih =>
      rw [addUse] at member
      split at member
      · rcases List.mem_cons.mp member with rfl | behind
        · exact Or.inl rfl
        · exact Or.inr (List.mem_cons_of_mem _ behind)
      · split at member
        · rcases List.mem_cons.mp member with rfl | old
          · exact Or.inl rfl
          · exact Or.inr old
        · rcases List.mem_cons.mp member with rfl | behind
          · exact Or.inr List.mem_cons_self
          · exact (ih behind).imp_right (List.mem_cons_of_mem _)

theorem Ascending.addUse (ascending : Ascending bindings) (resource : ResourceSlot)
    (flags : StageFlags) : Ascending (addUse resource flags bindings) := by
  induction bindings with
  | nil => exact List.pairwise_singleton _ _
  | cons first rest ih =>
      obtain ⟨before, later⟩ := List.pairwise_cons.mp ascending
      rw [Layout.addUse]
      split
      · rename_i same
        refine List.pairwise_cons.mpr ⟨fun binding behind => ?_, later⟩
        rw [same]
        exact before binding behind
      · rename_i different
        split
        · rename_i earlier
          refine List.pairwise_cons.mpr ⟨fun binding behind => ?_, ascending⟩
          rcases List.mem_cons.mp behind with rfl | further
          · exact earlier
          · exact ResourceSlot.precedes_trans earlier (before binding further)
        · rename_i late
          refine List.pairwise_cons.mpr ⟨fun binding behind => ?_, ih later⟩
          rcases mem_addUse behind with same | old
          · rw [same]
            exact ResourceSlot.precedes_of_not different late
          · exact before binding old

/-- A use adds its stage at its resource, where there may have been none. -/
theorem stagesAt_addUse (ascending : Ascending bindings) (resource other : ResourceSlot)
    (flags : StageFlags) : stagesAt other (addUse resource flags bindings) =
      if other = resource then some (((stagesAt resource bindings).getD .none).union flags)
      else stagesAt other bindings := by
  have blank : StageFlags.none.union flags = flags :=
    congrArg StageFlags.mk UInt32.zero_or
  induction bindings with
  | nil => simp only [addUse, stagesAt, Option.getD_none, blank]
  | cons first rest ih =>
      obtain ⟨before, later⟩ := List.pairwise_cons.mp ascending
      rw [addUse]
      split
      · rename_i same
        subst same
        by_cases here : other = first.resource <;> simp [stagesAt, here]
      · rename_i different
        split
        · rename_i earlier
          -- The resource comes before everything in the list, so it has no stages yet.
          have absent : stagesAt resource (first :: rest) = none := by
            refine stagesAt_of_precedes fun binding member => ?_
            rcases List.mem_cons.mp member with rfl | behind
            · exact earlier
            · exact ResourceSlot.precedes_trans earlier (before binding behind)
          rw [absent, Option.getD_none, blank, stagesAt]
        · rw [stagesAt, stagesAt, stagesAt, ih later, if_neg different]
          by_cases here : other = first.resource
          · subst here
            rw [if_pos rfl, if_neg (Ne.symm different), if_pos rfl]
          · rw [if_neg here, if_neg here]

/-! ### All uses -/

/-- The bindings tell of each resource whether it is used, and by which stages. -/
structure Merges (bindings : List LayoutBinding) (uses : List (ResourceSlot × Stage)) : Prop where
  ascending : Ascending bindings
  present : ∀ resource, (stagesAt resource bindings).isSome ↔ ∃ stage, (resource, stage) ∈ uses
  bits : ∀ resource bit, hasBit ((stagesAt resource bindings).getD .none).bits bit = true ↔
    ∃ stage : Stage, (stage.index : Nat) = bit ∧ (resource, stage) ∈ uses

theorem merges_nil : Merges [] [] where
  ascending := List.Pairwise.nil
  present resource := by simp [stagesAt]
  bits resource bit := by
    rw [stagesAt, Option.getD_none, StageFlags.none, hasBit_zero]
    simp

theorem Merges.addUse (merges : Merges bindings uses) (resource : ResourceSlot) (stage : Stage) :
    Merges (addUse resource stage.flag bindings) (uses ++ [(resource, stage)]) where
  ascending := merges.ascending.addUse resource stage.flag
  present other := by
    rw [stagesAt_addUse merges.ascending]
    simp only [List.mem_append, List.mem_singleton, Prod.mk.injEq, exists_or, ← merges.present other]
    by_cases here : other = resource <;> simp [here]
  bits other bit := by
    rw [stagesAt_addUse merges.ascending]
    simp only [List.mem_append, List.mem_singleton, Prod.mk.injEq, and_or_left, exists_or,
      ← merges.bits other bit]
    by_cases here : other = resource
    · subst here
      rw [if_pos rfl, Option.getD_some, StageFlags.union, hasBit_or, Bool.or_eq_true,
        stage.hasBit_flag]
      simp
    · simp [here]

theorem Merges.foldl (merges : Merges bindings uses) (more : List (ResourceSlot × Stage)) :
    Merges (more.foldl (fun bindings use => Layout.addUse use.1 use.2.flag bindings) bindings)
      (uses ++ more) := by
  induction more generalizing bindings uses with
  | nil => rwa [List.append_nil]
  | cons use more ih =>
      have added := ih (merges.addUse use.1 use.2)
      rwa [List.append_assoc] at added

theorem merges_ofShaders (shaders : ShaderSet) :
    Merges (ofShaders shaders).bindings (Layout.uses shaders) :=
  merges_nil.foldl _

theorem mem_uses_iff {shaders : ShaderSet} {stage : Stage} :
    (resource, stage) ∈ Layout.uses shaders ↔ shaders.Reads stage resource := by
  have among : stage ∈ Stage.all.toList := by cases stage <;> decide
  simp only [Layout.uses, ShaderSet.present, ShaderSet.Reads, List.mem_flatMap, List.mem_filterMap,
    List.mem_map, Option.map_eq_some_iff, Prod.exists, Prod.mk.injEq]
  constructor
  · rintro ⟨_, shader, ⟨_, _, _, there, rfl, rfl⟩, _, reads, rfl, rfl⟩
    exact ⟨_, there, reads⟩
  · rintro ⟨shader, there, reads⟩
    exact ⟨stage, shader, ⟨stage, among, shader, there, rfl, rfl⟩, resource, reads, rfl, rfl⟩

theorem stagesAt_isSome_iff (shaders : ShaderSet) (resource : ResourceSlot) :
    (stagesAt resource (ofShaders shaders).bindings).isSome ↔ ∃ stage, shaders.Reads stage resource := by
  simp only [(merges_ofShaders shaders).present, mem_uses_iff]

theorem hasBit_stagesAt (shaders : ShaderSet) (resource : ResourceSlot) (bit : Nat) :
    hasBit ((stagesAt resource (ofShaders shaders).bindings).getD .none).bits bit = true ↔
      ∃ stage : Stage, (stage.index : Nat) = bit ∧ shaders.Reads stage resource := by
  simp only [(merges_ofShaders shaders).bits, mem_uses_iff]

/-- Sets whose shaders read the same resources tell the same of each. -/
theorem stagesAt_congr {shaders others : ShaderSet}
    (same : ∀ stage resource, others.Reads stage resource ↔ shaders.Reads stage resource)
    (resource : ResourceSlot) : stagesAt resource (ofShaders others).bindings =
      stagesAt resource (ofShaders shaders).bindings := by
  have presence := stagesAt_isSome_iff others resource
  have bits (bit : Nat) := (hasBit_stagesAt others resource bit)
  simp only [same] at presence bits
  rw [← stagesAt_isSome_iff] at presence
  simp only [← hasBit_stagesAt] at bits
  cases found : stagesAt resource (ofShaders shaders).bindings with
  | none =>
      rw [found] at presence
      exact Option.not_isSome_iff_eq_none.mp fun there => absurd (presence.mp there) (by decide)
  | some flags =>
      rw [found] at presence bits
      obtain ⟨others, told⟩ := Option.isSome_iff_exists.mp (presence.mpr rfl)
      rw [told] at bits ⊢
      have equal : others.bits = flags.bits := eq_of_hasBit fun bit => Bool.eq_iff_iff.mpr (bits bit)
      exact congrArg (fun bits => some (StageFlags.mk bits)) equal

/-- The bindings of a layout stand in strictly ascending order. There is one for a resource exactly if the
shader of some stage reads it, and its flags have the bits of the stages that read it and no others. So
sets whose shaders read the same resources, listed in whatever order and however often, have one layout.
-/
theorem binds_what_is_read (shaders : ShaderSet) :
    (ofShaders shaders).bindings.Pairwise (fun first second =>
      first.resource.precedes second.resource) ∧
    (∀ resource, (∃ binding ∈ (ofShaders shaders).bindings, binding.resource = resource) ↔
      ∃ stage, shaders.Reads stage resource) ∧
    (∀ binding ∈ (ofShaders shaders).bindings,
      (∀ bit, hasBit binding.stages.bits bit = true ↔
        ∃ stage : Stage, (stage.index : Nat) = bit ∧ shaders.Reads stage binding.resource) ∧
      ∀ stage : Stage, binding.stages.contains stage.flag = true ↔
        shaders.Reads stage binding.resource) ∧
    ∀ others : ShaderSet,
      (∀ stage resource, others.Reads stage resource ↔ shaders.Reads stage resource) →
        ofShaders others = ofShaders shaders := by
  have ascending := (merges_ofShaders shaders).ascending
  have told (binding : LayoutBinding) (member : binding ∈ (ofShaders shaders).bindings) (bit : Nat) :
      hasBit binding.stages.bits bit = true ↔
        ∃ stage : Stage, (stage.index : Nat) = bit ∧ shaders.Reads stage binding.resource := by
    rw [← hasBit_stagesAt, ascending.stagesAt member, Option.getD_some]
  refine ⟨ascending, fun resource => ?_, fun binding member => ⟨told binding member, fun stage => ?_⟩,
    fun others same => ?_⟩
  · rw [← stagesAt_isSome_iff]
    constructor
    · rintro ⟨binding, member, rfl⟩
      rw [ascending.stagesAt member, Option.isSome_some]
    · intro present
      obtain ⟨flags, found⟩ := Option.isSome_iff_exists.mp present
      exact ⟨_, mem_of_stagesAt found, rfl⟩
  · have contained := covers_iff binding.stages.bits stage.flag.bits
    simp only [stage.hasBit_flag, forall_eq', told binding member] at contained
    refine contained.trans ⟨?_, fun reads => ⟨stage, rfl, reads⟩⟩
    rintro ⟨other, same, reads⟩
    obtain rfl : other = stage := by
      revert same
      cases other <;> cases stage <;> decide
    exact reads
  · exact congrArg Layout.mk
      ((merges_ofShaders others).ascending.ext ascending (stagesAt_congr same))

/-- A vertex and a fragment shader that share a resource; one slot is read as two kinds. -/
def sharing (first second : List ResourceSlot) : ShaderSet where
  vertex := some { key := {}, code := [], interface := { resourceSlots := first } }
  fragment := some { key := {}, code := [], interface := { resourceSlots := second } }

theorem binds_what_is_read_shuffled :
    ofShaders (sharing [⟨3, .sampler⟩, ⟨0, .uniformBuffer⟩, ⟨3, .sampler⟩]
        [⟨3, .storageImage⟩, ⟨0, .uniformBuffer⟩]) =
      ofShaders (sharing [⟨0, .uniformBuffer⟩, ⟨3, .sampler⟩] [⟨0, .uniformBuffer⟩, ⟨3, .storageImage⟩]) ∧
    (ofShaders (sharing [⟨0, .uniformBuffer⟩, ⟨3, .sampler⟩]
      [⟨0, .uniformBuffer⟩, ⟨3, .storageImage⟩])).bindings =
      [⟨⟨0, .uniformBuffer⟩, ⟨17⟩⟩, ⟨⟨3, .storageImage⟩, ⟨16⟩⟩, ⟨⟨3, .sampler⟩, ⟨1⟩⟩] := by
  refine ⟨(binds_what_is_read _).2.2.2 _ fun stage resource => ?_, by decide⟩
  cases stage <;> simp [ShaderSet.Reads, ShaderSet.get, sharing, or_comm, or_left_comm]

end Layout

end PipelineCache

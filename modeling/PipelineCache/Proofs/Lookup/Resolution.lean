import PipelineCache.Proofs.Lookup.Readiness

/-! Which shaders the lookup finds for a key. What is registered was provided under its own key, and a
resolved key has the shaders that are registered for its slots, so their keys are those of the key
itself, with a stage that is not defined left empty. -/

namespace PipelineCache

/-- The same keys, except that a stage without a defined key has the undefined one. -/
def ShaderKeys.cleared (keys : ShaderKeys) : ShaderKeys :=
  keys.map fun key => if key.isDefined then key else .undefined

/-- A shader set is filled from some shaders. -/
def ShaderSet.From (set : ShaderSet) (shaders : List Shader) : Prop :=
  ∀ stage shader, set.get stage = some shader → shader ∈ shaders

/-- What comes to the lookup is a known key or a provided shader. -/
def LookupEntry.From (known : List PipelineKey) (provided : List Shader) : LookupEntry → Prop
  | shader given => given ∈ provided
  | key added => added ∈ known

theorem LookupEntry.From.later {known laterKnown : List PipelineKey} {provided laterProvided : List Shader}
    {entry : LookupEntry} (sourced : entry.From known provided) (keys : known ⊆ laterKnown)
    (shaders : provided ⊆ laterProvided) : entry.From laterKnown laterProvided := by
  cases entry with
  | shader given => exact shaders sourced
  | key added => exact keys sourced

namespace ShaderKeys

theorem ext_stage {first second : ShaderKeys}
    (same : ∀ stage : Stage, first.get stage.index = second.get stage.index) : first = second := by
  refine Vector.ext fun index inside => ?_
  have placed : Stage.all[index].index = ⟨index, inside⟩ := Stage.index_all ⟨index, inside⟩
  have agree := same Stage.all[index]
  rwa [placed] at agree

theorem get_cleared (keys : ShaderKeys) (stage : Stage) : keys.cleared.get stage.index =
    if (keys.get stage.index).isDefined then keys.get stage.index else .undefined :=
  Vector.getElem_map _ stage.index.isLt

/-- Every key is defined or all zero. -/
def IsClean (keys : ShaderKeys) : Prop :=
  ∀ stage : Stage, (keys.get stage.index).isDefined = true ∨ keys.get stage.index = .undefined

theorem cleared_of_isClean {keys : ShaderKeys} (clean : keys.IsClean) : keys.cleared = keys := by
  refine ext_stage fun stage => ?_
  rw [get_cleared]
  split
  · rfl
  · rename_i undefined
    exact ((clean stage).resolve_left undefined).symm

theorem cleared_cleared (keys : ShaderKeys) : keys.cleared.cleared = keys.cleared := by
  refine ext_stage fun stage => ?_
  simp only [get_cleared]
  split <;> rfl

end ShaderKeys

theorem ShaderSet.get_keys (set : ShaderSet) (stage : Stage) :
    set.keys.get stage.index = ((set.get stage).map Shader.key).getD .undefined := by
  have placed : Stage.all[stage.index] = stage := by cases stage <;> rfl
  refine (Vector.getElem_map _ stage.index.isLt).trans ?_
  rw [← Fin.getElem_fin, placed]

theorem ShaderSet.isClean_keys {set : ShaderSet} (clean : ∀ stage shader, set.get stage = some shader →
    shader.key.isDefined = true ∨ shader.key = .undefined) : set.keys.IsClean := by
  intro stage
  rw [get_keys]
  cases present : set.get stage with
  | none => exact Or.inr rfl
  | some shader => exact clean stage shader present

theorem PipelineKey.shaderKey_eq_get (key : PipelineKey) (stage : Stage) :
    key.shaderKey stage = key.shaders.get stage.index := rfl

theorem ShaderSet.ext_get {first second : ShaderSet} (same : ∀ stage, first.get stage = second.get stage) :
    first = second := by
  obtain ⟨vertex, tessControl, tessEval, geometry, fragment⟩ := first
  obtain ⟨vertex', tessControl', tessEval', geometry', fragment'⟩ := second
  obtain rfl : vertex = vertex' := same .vertex
  obtain rfl : tessControl = tessControl' := same .tessControl
  obtain rfl : tessEval = tessEval' := same .tessEval
  obtain rfl : geometry = geometry' := same .geometry
  obtain rfl : fragment = fragment' := same .fragment
  rfl

namespace Lookup

variable {lookup : Lookup} {key : PipelineKey} {shaders : ShaderSet} {provided : List Shader}
  {entry : LookupEntry} {known : List PipelineKey}

/-- What is registered was provided, under its own key. -/
def Registered (lookup : Lookup) (provided : List Shader) : Prop :=
  ∀ key shader, lookup.find? key = some shader → shader.key = key ∧ shader ∈ provided

theorem slot_of_resolve (resolved : lookup.resolve key = some shaders) (stage : Stage) :
    lookup.slot (key.shaderKey stage) = some (shaders.get stage) := by
  simp only [resolve, Option.bind_eq_bind, Option.bind_eq_some_iff, Option.pure_def,
    Option.some.injEq] at resolved
  obtain ⟨vertex, first, tessControl, second, tessEval, third, geometry, fourth, fragment, fifth, rfl⟩ :=
    resolved
  cases stage <;> assumption

theorem from_of_resolve (registered : lookup.Registered provided)
    (resolved : lookup.resolve key = some shaders) : shaders.From provided := by
  intro stage shader present
  have found := slot_of_resolve resolved stage
  rw [present, slot] at found
  split at found
  · obtain ⟨other, there, same⟩ := Option.map_eq_some_iff.mp found
    rw [← Option.some.inj same]
    exact (registered _ other there).2
  · cases found

/-- The shaders of a key have the keys of that key; a stage without a defined key stays empty. -/
theorem keys_of_resolve (registered : lookup.Registered provided)
    (resolved : lookup.resolve key = some shaders) : shaders.keys = key.shaders.cleared := by
  refine ShaderKeys.ext_stage fun stage => ?_
  have found := slot_of_resolve resolved stage
  rw [ShaderSet.get_keys, ShaderKeys.get_cleared]
  rw [slot, PipelineKey.shaderKey_eq_get] at found
  split at found
  · rename_i defined
    obtain ⟨shader, there, same⟩ := Option.map_eq_some_iff.mp found
    rw [← same, if_pos defined, Option.map_some, Option.getD_some]
    exact (registered _ shader there).1
  · rename_i undefined
    rw [← Option.some.inj found, if_neg undefined]
    rfl

theorem shaders_handle (lookup : Lookup) (entry : LookupEntry) :
    (lookup.handle entry).1.shaders = lookup.shaders ∨ ∃ shader, entry = .shader shader ∧
      (lookup.handle entry).1.shaders = lookup.shaders ++ [(shader.key, shader)] := by
  cases entry with
  | key key => exact Or.inl rfl
  | shader shader =>
      simp only [handle, register]
      split
      · exact Or.inl rfl
      · split
        · exact Or.inl rfl
        · exact Or.inr ⟨shader, rfl, rfl⟩

theorem registered_handle (registered : lookup.Registered provided) (sourced : entry.From known provided) :
    (lookup.handle entry).1.Registered provided := by
  intro key shader found
  rw [find?] at found
  rcases shaders_handle lookup entry with same | ⟨added, rfl, same⟩
  · rw [same] at found
    exact registered key shader found
  · rw [same, List.lookup_append, Option.or_eq_some_iff] at found
    rcases found with old | ⟨_, newest⟩
    · exact registered key shader old
    · by_cases named : key = added.key
      · rw [named, List.lookup_cons_self, Option.some.injEq] at newest
        rw [← newest]
        exact ⟨named.symm, sourced⟩
      · simp [List.lookup_cons, List.lookup_nil, beq_false_of_ne named] at newest

theorem candidates_handle (indexed : ∀ shader, lookup.index.candidates shader ⊆ known)
    (sourced : entry.From known provided) (shader : ShaderKey) :
    (lookup.handle entry).1.index.candidates shader ⊆ known := by
  have handled := lookup.handled entry
  generalize (lookup.handle entry).1 = grown at handled ⊢
  generalize (lookup.handle entry).2 = response at handled
  cases handled with
  | registers given _ _ _ index _ => exact index ▸ indexed shader
  | indexes added =>
      simp only [BackReferences.candidates_insert]
      refine List.append_subset.mpr ⟨indexed shader, fun key member => ?_⟩
      rw [(List.mem_replicate.mp member).2]
      exact sourced
  | ignores given _ _ _ => exact indexed shader

/-- A key that is ready is indexed, and its shaders are those that were registered for it. -/
theorem ready_handle {ready : ReadyKey} (member : ready ∈ (lookup.handle entry).2.ready) :
    (∃ shader, ready.key ∈ (lookup.handle entry).1.index.candidates shader) ∧
      (lookup.handle entry).1.resolve ready.key = some ready.shaders := by
  have handled := lookup.handled entry
  generalize (lookup.handle entry).1 = grown at handled ⊢
  generalize (lookup.handle entry).2 = response at handled member
  cases handled with
  | registers given _ _ _ index _ =>
      obtain ⟨key, candidate, found⟩ := List.mem_filterMap.mp member
      obtain ⟨shaders, resolved, rfl⟩ := Option.map_eq_some_iff.mp found
      exact ⟨⟨given.key, candidate⟩, resolved⟩
  | indexes added => cases member
  | ignores given response nothing _ =>
      rw [nothing] at member
      cases member

end Lookup

def LookupEntry.shader? : LookupEntry → Option Shader
  | .shader given => some given
  | .key _ => none

namespace Lookup

variable {lookup : Lookup} {key : PipelineKey} {name : ShaderKey} {shader : Shader}
  {shaders : ShaderSet} {handled : List Shader}

theorem find?_register (lookup : Lookup) (shader : Shader) (name : ShaderKey) :
    (lookup.register shader).1.find? name = (lookup.find? name).or
      (if shader.key.isDefined = true ∧ shader.key = name then some shader else none) := by
  unfold register
  split
  · rename_i undefined
    have nobody : ¬ (shader.key.isDefined = true ∧ shader.key = name) := fun both => by
      rw [both.1] at undefined
      cases undefined
    rw [if_neg nobody, Option.or_none]
  · rename_i defined
    split
    · rename_i known
      by_cases same : shader.key = name
      · obtain ⟨first, found⟩ := Option.isSome_iff_exists.mp known
        rw [same] at found
        rw [found, Option.some_or]
      · rw [if_neg fun both => same both.2, Option.or_none]
    · rw [find?, List.lookup_append]
      by_cases same : shader.key = name
      · subst same
        simp only [Bool.not_eq_true', Bool.not_eq_false] at defined
        simp [defined, find?]
      · simp [same, find?, List.lookup_cons, beq_false_of_ne (Ne.symm same)]

/-- After some shaders have been handled, the lookup finds under each defined key the first of them,
and nothing under any other key. -/
def Knows (lookup : Lookup) (handled : List Shader) : Prop :=
  ∀ name, lookup.find? name =
    if name.isDefined then handled.find? (fun shader => shader.key == name) else none

theorem Knows.registers (knows : lookup.Knows handled) (shader : Shader) :
    (lookup.register shader).1.Knows (handled ++ [shader]) := by
  intro name
  rw [find?_register, knows, List.find?_append]
  by_cases same : shader.key = name
  · subst same
    by_cases defined : shader.key.isDefined = true <;> simp [defined]
  · simp [same]

theorem Knows.handle (knows : lookup.Knows handled) (entry : LookupEntry) :
    (lookup.handle entry).1.Knows (handled ++ entry.shader?.toList) := by
  cases entry with
  | shader shader => exact knows.registers shader
  | key key =>
      rw [LookupEntry.shader?, Option.toList_none, List.append_nil]
      exact knows

theorem Knows.registered (knows : lookup.Knows handled) : lookup.Registered handled := by
  intro name shader found
  rw [knows] at found
  obtain ⟨_, first⟩ := Option.ite_none_right_eq_some.mp found
  exact ⟨by simpa using List.find?_some first, List.mem_of_find?_eq_some first⟩

theorem Knows.mem_registered_iff (knows : lookup.Knows handled) :
    name ∈ lookup.registered ↔ name.isDefined = true ∧ ∃ shader ∈ handled, shader.key = name := by
  rw [← isSome_find?_iff, knows]
  split
  · rename_i defined
    simp [defined]
  · rename_i undefined
    simp [undefined]

/-- A key is not resolved as long as one of its defined slots names a shader that is not registered. -/
theorem resolve_eq_none_iff : lookup.resolve key = none ↔ ∃ stage,
    (key.shaderKey stage).isDefined = true ∧ key.shaderKey stage ∉ lookup.registered := by
  rw [← Option.not_isSome_iff_eq_none, isSome_resolve_iff, Covers, PipelineKey.forall_required_iff]
  simp only [not_forall, exists_prop]

/-- A resolved key has in each defined slot the shader that is found there, and nothing elsewhere. -/
theorem get_of_resolve (resolved : lookup.resolve key = some shaders) (stage : Stage) :
    if (key.shaderKey stage).isDefined = true then
      ∃ shader, shaders.get stage = some shader ∧ lookup.find? (key.shaderKey stage) = some shader
    else shaders.get stage = none := by
  have found := slot_of_resolve resolved stage
  rw [slot] at found
  split at found
  · rename_i defined
    obtain ⟨shader, there, same⟩ := Option.map_eq_some_iff.mp found
    rw [if_pos defined]
    exact ⟨shader, same.symm, there⟩
  · rename_i undefined
    rw [if_neg undefined]
    exact (Option.some.inj found).symm

end Lookup

end PipelineCache

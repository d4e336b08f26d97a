import Mathlib.Data.List.Nodup
import PipelineCache.Cache.Lookup

/-! When a remembered key becomes ready. A key that is indexed under each of its defined shader keys is
ready once, namely when the last of them is registered, and never if all of them were registered before
the key was indexed. -/

namespace PipelineCache

def PipelineKey.required (key : PipelineKey) : List ShaderKey := key.shaders.definedKeys

theorem Stage.index_all (slot : Fin 5) : (Stage.all[slot]).index = slot := by
  revert slot
  decide

theorem PipelineKey.forall_required_iff (key : PipelineKey) (property : ShaderKey → Prop) :
    (∀ shader ∈ key.required, property shader) ↔
      ∀ stage, (key.shaderKey stage).isDefined = true → property (key.shaderKey stage) := by
  constructor
  · intro all stage defined
    refine all _ (List.mem_filter.mpr ⟨?_, defined⟩)
    exact Vector.mem_toList_iff.mpr (Vector.getElem_mem _)
  · intro all shader member
    obtain ⟨inside, defined⟩ := List.mem_filter.mp member
    obtain ⟨slot, bound, rfl⟩ := Vector.mem_iff_getElem.mp (Vector.mem_toList_iff.mp inside)
    have named : key.shaderKey Stage.all[slot] = key.shaders[slot] := by
      have place := Stage.index_all ⟨slot, bound⟩
      simp only [PipelineKey.shaderKey, Fin.getElem_fin] at place ⊢
      simp only [place]
    rw [← named] at defined ⊢
    exact all _ defined

namespace BackReferences

theorem candidates_addReference (index : BackReferences) (shader other : ShaderKey)
    (key : PipelineKey) :
    candidates (addReference shader key index) other =
      index.candidates other ++ if other = shader then [key] else [] := by
  induction index with
  | nil =>
      by_cases same : other = shader
      · simp [addReference, candidates, same]
      · have different : (other == shader) = false := beq_false_of_ne same
        simp [addReference, candidates, same, different, List.lookup_cons]
  | cons entry rest ih =>
      obtain ⟨first, keys⟩ := entry
      simp only [candidates] at ih ⊢
      by_cases found : first = shader
      · subst found
        by_cases same : other = first
        · simp [addReference, same]
        · have different : (other == first) = false := beq_false_of_ne same
          simp [addReference, same, List.lookup_cons, different]
      · rw [addReference, if_neg found]
        by_cases same : other = first
        · simp [same, found]
        · have different : (other == first) = false := beq_false_of_ne same
          simp only [List.lookup_cons, different]
          exact ih

/-- An inserted key comes behind the older ones, once for each slot in which it has the shader. -/
theorem candidates_insert (index : BackReferences) (key : PipelineKey) (shader : ShaderKey) :
    (index.insert key).candidates shader =
      index.candidates shader ++ List.replicate (key.required.count shader) key := by
  have folded (shaders : List ShaderKey) :
      candidates (shaders.foldl (fun index shader => addReference shader key index) index) shader =
        index.candidates shader ++ List.replicate (shaders.count shader) key := by
    induction shaders generalizing index with
    | nil => simp
    | cons first rest ih =>
        rw [List.foldl_cons, ih, candidates_addReference, List.count_cons]
        by_cases same : shader = first
        · simp [same, List.replicate_succ]
        · have different : (first == shader) = false := beq_false_of_ne (Ne.symm same)
          simp [same, different]
  exact folded key.required

/-- Among the candidates for a shader a key comes once for each slot in which it has the shader, and
for each time that it was inserted. -/
theorem count_candidates_foldl (keys : List PipelineKey) (index : BackReferences)
    (key : PipelineKey) (shader : ShaderKey) :
    ((keys.foldl insert index).candidates shader).count key =
      (index.candidates shader).count key + keys.count key * key.required.count shader := by
  induction keys generalizing index with
  | nil => simp
  | cons first rest ih =>
      rw [List.foldl_cons, ih, candidates_insert, List.count_append, List.count_replicate,
        List.count_cons]
      by_cases same : first = key
      · subst same
        simp [Nat.add_mul]
        omega
      · have different : (first == key) = false := beq_false_of_ne same
        simp [different]

end BackReferences

def LookupResponse.ready : LookupResponse → List ReadyKey
  | .registered ready => ready
  | _ => []

def LookupEntry.provided? : LookupEntry → Option ShaderKey
  | .shader provided => some provided.key
  | .key _ => none

def LookupEntry.key? : LookupEntry → Option PipelineKey
  | .shader _ => none
  | .key added => some added

namespace Lookup

variable {lookup : Lookup} {entry : LookupEntry} {before entries after : List LookupEntry}
  {key : PipelineKey} {shader : ShaderKey} {times : Nat} {table : ShaderKey → Nat}

def registered (lookup : Lookup) : List ShaderKey := lookup.shaders.map Prod.fst

theorem isSome_find?_iff :
    (lookup.find? shader).isSome = true ↔ shader ∈ lookup.registered := by
  rw [find?, List.lookup_isSome_iff, registered, List.mem_map]
  refine exists_congr fun entry => and_congr_right fun _ => ?_
  rw [beq_iff_eq]
  exact eq_comm

/-- All shaders of a key have been registered. -/
def Covers (lookup : Lookup) (key : PipelineKey) : Prop :=
  ∀ shader ∈ key.required, shader ∈ lookup.registered

instance (lookup : Lookup) (key : PipelineKey) : Decidable (lookup.Covers key) :=
  inferInstanceAs (Decidable (∀ shader ∈ key.required, shader ∈ lookup.registered))

theorem isSome_slot_iff :
    (lookup.slot shader).isSome = true ↔
      (shader.isDefined = true → shader ∈ lookup.registered) := by
  unfold slot
  split
  · rename_i defined
    simp [defined, isSome_find?_iff]
  · rename_i undefined
    simp [undefined]

theorem isSome_resolve_iff :
    (lookup.resolve key).isSome = true ↔ lookup.Covers key := by
  have slots : (lookup.resolve key).isSome = true ↔
      ∀ stage, (lookup.slot (key.shaderKey stage)).isSome = true := by
    constructor
    · intro resolved stage
      obtain ⟨shaders, found⟩ := Option.isSome_iff_exists.mp resolved
      simp only [resolve, bind, Option.bind_eq_some_iff] at found
      obtain ⟨_, vertex, _, tessControl, _, tessEval, _, geometry, _, fragment, _⟩ := found
      cases stage with
      | vertex => rw [vertex, Option.isSome_some]
      | tessControl => rw [tessControl, Option.isSome_some]
      | tessEval => rw [tessEval, Option.isSome_some]
      | geometry => rw [geometry, Option.isSome_some]
      | fragment => rw [fragment, Option.isSome_some]
    · intro all
      obtain ⟨_, vertex⟩ := Option.isSome_iff_exists.mp (all .vertex)
      obtain ⟨_, tessControl⟩ := Option.isSome_iff_exists.mp (all .tessControl)
      obtain ⟨_, tessEval⟩ := Option.isSome_iff_exists.mp (all .tessEval)
      obtain ⟨_, geometry⟩ := Option.isSome_iff_exists.mp (all .geometry)
      obtain ⟨_, fragment⟩ := Option.isSome_iff_exists.mp (all .fragment)
      simp [resolve, vertex, tessControl, tessEval, geometry, fragment]
  rw [slots, Covers, PipelineKey.forall_required_iff]
  exact forall_congr' fun stage => isSome_slot_iff

/-- Of the candidates for a shader, those are ready that have all their shaders. -/
theorem map_key_ready (lookup : Lookup) (shader : ShaderKey) :
    (lookup.ready shader).map ReadyKey.key =
      (lookup.index.candidates shader).filter fun key => lookup.Covers key := by
  rw [ready]
  induction lookup.index.candidates shader with
  | nil => rfl
  | cons key rest ih =>
      cases resolved : lookup.resolve key with
      | none =>
          have lacks : ¬ lookup.Covers key := by
            rw [← isSome_resolve_iff, resolved]
            exact Bool.false_ne_true
          simp only [List.filterMap_cons, resolved, Option.map_none, List.filter_cons, lacks,
            decide_false, Bool.false_eq_true, if_false, ih]
      | some shaders =>
          have covers : lookup.Covers key := by
            rw [← isSome_resolve_iff, resolved]
            rfl
          simp only [List.filterMap_cons, resolved, Option.map_some, List.filter_cons, covers,
            decide_true, if_true, List.map_cons, ih]

theorem count_ready (lookup : Lookup) (shader : ShaderKey) (key : PipelineKey) :
    ((lookup.ready shader).map ReadyKey.key).count key =
      if lookup.Covers key then (lookup.index.candidates shader).count key else 0 := by
  rw [map_key_ready]
  split
  · rename_i covers
    exact List.count_filter (decide_eq_true covers)
  · rename_i lacks
    refine List.count_eq_zero.mpr fun member => lacks ?_
    exact of_decide_eq_true (List.mem_filter.mp member).2

/-! ### One entry -/

/-- What an entry does: it provides a new shader, it indexes a key, or it changes nothing. -/
inductive Handled (lookup : Lookup) : LookupEntry → Lookup → LookupResponse → Prop
  | registers (shader : Shader) (defined : shader.key.isDefined = true)
      (fresh : shader.key ∉ lookup.registered) (grown : Lookup)
      (index : grown.index = lookup.index)
      (registered : grown.registered = lookup.registered ++ [shader.key]) :
      Handled lookup (.shader shader) grown (.registered (grown.ready shader.key))
  | indexes (key : PipelineKey) :
      Handled lookup (.key key) { lookup with index := lookup.index.insert key } .indexed
  | ignores (shader : Shader) (response : LookupResponse) (nothing : response.ready = [])
      (known : shader.key.isDefined = true → shader.key ∈ lookup.registered) :
      Handled lookup (.shader shader) lookup response

theorem handled (lookup : Lookup) (entry : LookupEntry) :
    Handled lookup entry (lookup.handle entry).1 (lookup.handle entry).2 := by
  cases entry with
  | key key => exact .indexes key
  | shader shader =>
      rw [handle, register]
      by_cases undefined : (!shader.key.isDefined) = true
      · rw [if_pos undefined]
        refine .ignores shader .ignored rfl fun defined => ?_
        rw [defined] at undefined
        cases undefined
      · have defined : shader.key.isDefined = true := by simpa using undefined
        rw [if_neg undefined]
        by_cases found : (lookup.find? shader.key).isSome = true
        · rw [if_pos found]
          exact .ignores shader (.duplicate shader.key) rfl fun _ => isSome_find?_iff.mp found
        · rw [if_neg found]
          refine .registers shader defined (fun member => found (isSome_find?_iff.mpr member)) _ rfl ?_
          simp [registered]

theorem mem_registered_handle : shader ∈ (lookup.handle entry).1.registered ↔
    shader ∈ lookup.registered ∨ (shader.isDefined = true ∧ entry.provided? = some shader) := by
  have handled := lookup.handled entry
  generalize (lookup.handle entry).1 = grown at handled ⊢
  generalize (lookup.handle entry).2 = response at handled
  cases handled with
  | registers provided defined _ _ _ registered =>
      rw [registered, List.mem_append, List.mem_singleton, LookupEntry.provided?, Option.some_inj]
      constructor
      · rintro (old | rfl)
        · exact Or.inl old
        · exact Or.inr ⟨defined, rfl⟩
      · rintro (old | ⟨_, rfl⟩)
        · exact Or.inl old
        · exact Or.inr rfl
  | indexes key => simp [registered, LookupEntry.provided?]
  | ignores provided _ _ known =>
      rw [LookupEntry.provided?, Option.some_inj]
      refine ⟨Or.inl, ?_⟩
      rintro (old | ⟨defined, rfl⟩)
      · exact old
      · exact known defined

theorem Covers.handle (covers : lookup.Covers key) (entry : LookupEntry) :
    (lookup.handle entry).1.Covers key :=
  fun shader member => mem_registered_handle.mpr (Or.inl (covers shader member))

/-- A key is listed under a shader key as often as a table says. -/
def Listed (lookup : Lookup) (key : PipelineKey) (table : ShaderKey → Nat) : Prop :=
  ∀ shader, (lookup.index.candidates shader).count key = table shader

/-- A key is indexed so many times under each of its shader keys. -/
def Indexed (lookup : Lookup) (key : PipelineKey) (times : Nat) : Prop :=
  ∀ shader, (lookup.index.candidates shader).count key = if shader ∈ key.required then times else 0

theorem count_required (nodup : key.required.Nodup) (shader : ShaderKey) :
    key.required.count shader = if shader ∈ key.required then 1 else 0 := by
  split
  · rename_i needed
    exact List.count_eq_one_of_mem nodup needed
  · rename_i unneeded
    exact List.count_eq_zero.mpr unneeded

/-- Handling any other entry leaves a key listed as it was. -/
theorem Listed.handle (listed : lookup.Listed key table) (other : entry ≠ .key key) :
    (lookup.handle entry).1.Listed key table := by
  have handled := lookup.handled entry
  generalize (lookup.handle entry).1 = grown at handled ⊢
  generalize (lookup.handle entry).2 = response at handled
  cases handled with
  | registers provided _ _ _ index _ =>
      intro shader
      rw [index, listed shader]
  | indexes inserted =>
      intro shader
      have absent : key ∉ [inserted] := fun member =>
        other (congrArg LookupEntry.key (List.mem_singleton.mp member).symm)
      have counted := BackReferences.count_candidates_foldl [inserted] lookup.index key shader
      rw [List.count_eq_zero.mpr absent, Nat.zero_mul, Nat.add_zero] at counted
      exact counted.trans (listed shader)
  | ignores provided _ _ _ => exact listed

theorem Indexed.handle (indexed : lookup.Indexed key times) (other : entry ≠ .key key) :
    (lookup.handle entry).1.Indexed key times :=
  Listed.handle indexed other

theorem Indexed.insert (indexed : lookup.Indexed key 0) (nodup : key.required.Nodup) :
    (lookup.handle (.key key)).1.Indexed key 1 := by
  intro shader
  have counted := BackReferences.count_candidates_foldl [key] lookup.index key shader
  rw [indexed shader, ite_self, Nat.zero_add, List.count_singleton_self, Nat.one_mul,
    count_required nodup] at counted
  exact counted

/-- An entry gives a key the last of its shaders. -/
def Completes (lookup : Lookup) (entry : LookupEntry) (key : PipelineKey) : Prop :=
  ¬ lookup.Covers key ∧ (lookup.handle entry).1.Covers key

instance (lookup : Lookup) (entry : LookupEntry) (key : PipelineKey) :
    Decidable (lookup.Completes entry key) :=
  inferInstanceAs (Decidable (¬ lookup.Covers key ∧ (lookup.handle entry).1.Covers key))

/-- The last shader of a key is one that the key refers to. -/
theorem Completes.provided (completes : lookup.Completes entry key) :
    ∃ shader ∈ key.required, entry.provided? = some shader := by
  obtain ⟨lacks, covers⟩ := completes
  obtain ⟨shader, needed, missing⟩ : ∃ shader ∈ key.required, shader ∉ lookup.registered := by
    simpa [Covers] using lacks
  have came := (mem_registered_handle.mp (covers shader needed)).resolve_left missing
  exact ⟨shader, needed, came.2⟩

/-- A key is ready as often as it is listed under the last of its shaders, with the entry that
provides that shader, and not with any other. -/
theorem Listed.count_ready (listed : lookup.Listed key table)
    (strange : ∀ shader, shader ∉ key.required → table shader = 0) (entry : LookupEntry) :
    ((lookup.handle entry).2.ready.map ReadyKey.key).count key =
      if lookup.Completes entry key then entry.provided?.elim 0 table else 0 := by
  show _ = if ¬ lookup.Covers key ∧ (lookup.handle entry).1.Covers key then _ else 0
  have handled := lookup.handled entry
  generalize (lookup.handle entry).1 = grown at handled ⊢
  generalize (lookup.handle entry).2 = response at handled ⊢
  cases handled with
  | registers provided _ fresh _ index registered =>
      rw [LookupResponse.ready, Lookup.count_ready, index, listed]
      by_cases covers : grown.Covers key
      · rw [if_pos covers]
        by_cases needed : provided.key ∈ key.required
        · have lacked : ¬ lookup.Covers key := fun all => fresh (all _ needed)
          rw [if_pos ⟨lacked, covers⟩]
          rfl
        -- The key does not have this shader, so it was complete before.
        · have had : lookup.Covers key := by
            intro shader member
            have there := covers shader member
            rw [registered, List.mem_append, List.mem_singleton] at there
            refine there.resolve_right fun same => needed ?_
            rwa [same] at member
          rw [strange _ needed, if_neg fun both => both.1 had]
      · rw [if_neg covers, if_neg fun both => covers both.2]
  | indexes other =>
      refine (if_neg fun both => both.1 ?_).symm
      exact both.2
  | ignores provided _ nothing _ =>
      rw [nothing]
      exact (if_neg fun both => both.1 both.2).symm

/-- A key is ready as often as it is indexed with the entry that provides the last of its shaders,
and not with any other. -/
theorem count_ready_handle (indexed : lookup.Indexed key times) (entry : LookupEntry) :
    ((lookup.handle entry).2.ready.map ReadyKey.key).count key =
      if ¬ lookup.Covers key ∧ (lookup.handle entry).1.Covers key then times else 0 := by
  have listed : lookup.Listed key fun shader => if shader ∈ key.required then times else 0 := indexed
  rw [listed.count_ready (fun shader unneeded => if_neg unneeded)]
  by_cases completes : lookup.Completes entry key
  · obtain ⟨shader, needed, provided⟩ := completes.provided
    rw [if_pos completes, provided, Option.elim_some, if_pos needed]
    exact (if_pos completes).symm
  · rw [if_neg completes]
    exact (if_neg completes).symm

/-! ### Many entries -/

def handleAll (lookup : Lookup) (entries : List LookupEntry) : Lookup :=
  entries.foldl (fun lookup entry => (lookup.handle entry).1) lookup

/-- The keys that some entries make ready, in their order. -/
def readied (lookup : Lookup) : List LookupEntry → List PipelineKey
  | [] => []
  | entry :: entries =>
      (lookup.handle entry).2.ready.map ReadyKey.key ++ (lookup.handle entry).1.readied entries

theorem readied_append (lookup : Lookup) (before after : List LookupEntry) :
    lookup.readied (before ++ after) =
      lookup.readied before ++ (lookup.handleAll before).readied after := by
  induction before generalizing lookup with
  | nil => rfl
  | cons entry before ih =>
      rw [List.cons_append, readied, ih, readied, List.append_assoc]
      rfl

theorem mem_registered_handleAll : shader ∈ (lookup.handleAll entries).registered ↔
    shader ∈ lookup.registered ∨
      (shader.isDefined = true ∧ shader ∈ entries.filterMap LookupEntry.provided?) := by
  induction entries generalizing lookup with
  | nil => simp [handleAll]
  | cons entry entries ih =>
      have rest := @ih (lookup.handle entry).1
      have provided : shader ∈ (entry :: entries).filterMap LookupEntry.provided? ↔
          entry.provided? = some shader ∨ shader ∈ entries.filterMap LookupEntry.provided? := by
        simp only [List.mem_filterMap, List.mem_cons, exists_eq_or_imp]
      rw [mem_registered_handle, or_assoc, ← and_or_left, ← provided] at rest
      exact rest

theorem Covers.handleAll (covers : lookup.Covers key) (entries : List LookupEntry) :
    (lookup.handleAll entries).Covers key :=
  fun shader member => mem_registered_handleAll.mpr (Or.inl (covers shader member))

/-- A key that no entry indexes anew is ready as often as it is indexed if the entries provide the
last of its shaders, and else not at all. -/
theorem count_readied (indexed : lookup.Indexed key times) (entries : List LookupEntry)
    (alone : .key key ∉ entries) :
    (lookup.readied entries).count key =
      if ¬ lookup.Covers key ∧ (lookup.handleAll entries).Covers key then times else 0 := by
  induction entries generalizing lookup with
  | nil =>
      refine (if_neg fun both => both.1 ?_).symm
      exact both.2
  | cons entry entries ih =>
      obtain ⟨different, rest⟩ := List.ne_and_not_mem_of_not_mem_cons alone
      have still := indexed.handle (Ne.symm different)
      have later : (lookup.handleAll (entry :: entries)) =
          ((lookup.handle entry).1.handleAll entries) := rfl
      rw [readied, List.count_append, count_ready_handle indexed, ih still rest, later]
      -- The last shader was there before, comes with this entry, or comes later.
      by_cases early : lookup.Covers key
      · simp [early, early.handle entry]
      · by_cases now : (lookup.handle entry).1.Covers key
        · simp [early, now, now.handleAll entries]
        · simp [early, now]

theorem Listed.handleAll (listed : lookup.Listed key table) (alone : .key key ∉ entries) :
    (lookup.handleAll entries).Listed key table := by
  induction entries generalizing lookup with
  | nil => exact listed
  | cons entry entries ih =>
      obtain ⟨different, rest⟩ := List.ne_and_not_mem_of_not_mem_cons alone
      exact ih (listed.handle (Ne.symm different)) rest

theorem Indexed.handleAll (indexed : lookup.Indexed key times) (alone : .key key ∉ entries) :
    (lookup.handleAll entries).Indexed key times :=
  Listed.handleAll indexed alone

/-! ### From loaded keys -/

/-- The shader keys that some entries provide. -/
def provided (entries : List LookupEntry) : List ShaderKey :=
  entries.filterMap LookupEntry.provided?

/-- A lookup that knows some keys and no shaders. -/
def ofKeys (loaded : List PipelineKey) : Lookup := { index := loaded.foldl BackReferences.insert [] }

theorem covers_ofKeys (loaded : List PipelineKey) : (ofKeys loaded).Covers key ↔ key.required = [] := by
  rw [List.eq_nil_iff_forall_not_mem]
  exact forall₂_congr fun shader _ => iff_of_false List.not_mem_nil id

theorem covers_handleAll_ofKeys (loaded : List PipelineKey) :
    ((ofKeys loaded).handleAll entries).Covers key ↔
      ∀ shader ∈ key.required, shader ∈ provided entries := by
  refine forall₂_congr fun shader member => ?_
  have defined : shader.isDefined = true := (List.mem_filter.mp member).2
  rw [mem_registered_handleAll, provided]
  have empty : shader ∉ (ofKeys loaded).registered := List.not_mem_nil
  simp only [empty, defined, true_and, false_or]

theorem indexed_ofKeys_of_mem {loaded : List PipelineKey} (distinct : loaded.Nodup)
    (member : key ∈ loaded) (nodup : key.required.Nodup) : (ofKeys loaded).Indexed key 1 := by
  intro shader
  have counted := BackReferences.count_candidates_foldl loaded [] key shader
  rw [List.count_eq_one_of_mem distinct member, Nat.one_mul, count_required nodup] at counted
  exact counted.trans (Nat.zero_add _)

theorem indexed_ofKeys_of_not_mem {loaded : List PipelineKey} (absent : key ∉ loaded) :
    (ofKeys loaded).Indexed key 0 := by
  intro shader
  have counted := BackReferences.count_candidates_foldl loaded [] key shader
  rw [List.count_eq_zero.mpr absent, Nat.zero_mul] at counted
  exact counted.trans (ite_self 0).symm

/-- A loaded key is ready once if it has a shader key and all of them are provided, and else never. -/
theorem count_readied_loaded {loaded : List PipelineKey} (distinct : loaded.Nodup)
    (member : key ∈ loaded) (nodup : key.required.Nodup) (alone : .key key ∉ entries) :
    ((ofKeys loaded).readied entries).count key =
      if key.required ≠ [] ∧ ∀ shader ∈ key.required, shader ∈ provided entries then 1 else 0 := by
  rw [count_readied (indexed_ofKeys_of_mem distinct member nodup) entries alone]
  simp only [covers_ofKeys, covers_handleAll_ofKeys, ne_eq]

/-- A key that is indexed on the way is ready once if all its shader keys are provided, one of them
only afterwards, and else never. -/
theorem count_readied_forwarded {loaded : List PipelineKey} (absent : key ∉ loaded)
    (nodup : key.required.Nodup) (first : .key key ∉ before) (last : .key key ∉ after) :
    ((ofKeys loaded).readied (before ++ .key key :: after)).count key =
      if (∀ shader ∈ key.required, shader ∈ provided (before ++ .key key :: after)) ∧
        ∃ shader ∈ key.required, shader ∉ provided before then 1 else 0 := by
  have unknown := indexed_ofKeys_of_not_mem absent
  have whole : (ofKeys loaded).handleAll (before ++ .key key :: after) =
      (((ofKeys loaded).handleAll before).handle (.key key)).1.handleAll after :=
    List.foldl_append
  have lacked : ¬ (((ofKeys loaded).handleAll before).handle (.key key)).1.Covers key ↔
      ∃ shader ∈ key.required, shader ∉ provided before := by
    rw [show (((ofKeys loaded).handleAll before).handle (.key key)).1.Covers key ↔
      ((ofKeys loaded).handleAll before).Covers key from Iff.rfl, covers_handleAll_ofKeys]
    simp only [not_forall, exists_prop]
  -- Up to its own entry the key is not indexed, from there on it is indexed once.
  have early : ((ofKeys loaded).readied before).count key = 0 := by
    rw [count_readied unknown before first, ite_self]
  have late := count_readied ((unknown.handleAll first).insert nodup) after last
  rw [readied_append, List.count_append, early, Nat.zero_add]
  refine late.trans (if_congr ?_ rfl rfl)
  rw [← whole, covers_handleAll_ofKeys, lacked]
  exact and_comm

/-- Nothing else is ever ready. -/
theorem mem_of_mem_readied {loaded : List PipelineKey} (member : key ∈ (ofKeys loaded).readied entries) :
    key ∈ loaded ∨ .key key ∈ entries := by
  by_contra neither
  obtain ⟨absent, alone⟩ := not_or.mp neither
  have counted := count_readied (indexed_ofKeys_of_not_mem absent) entries alone
  rw [ite_self] at counted
  exact List.count_eq_zero.mp counted member

def forwarded (entries : List LookupEntry) : List PipelineKey :=
  entries.filterMap LookupEntry.key?

theorem mem_forwarded_iff : key ∈ forwarded entries ↔ .key key ∈ entries := by
  rw [forwarded, List.mem_filterMap]
  constructor
  · rintro ⟨entry, member, found⟩
    cases entry with
    | shader provided => cases found
    | key added =>
        cases found
        exact member
  · exact fun member => ⟨.key key, member, rfl⟩

/-- What the lookup of one cache is given: no key comes twice, and no key has a shader key in two of
its slots. -/
structure Proper (loaded : List PipelineKey) (entries : List LookupEntry) : Prop where
  distinct : loaded.Nodup
  forwarded : (forwarded entries).Nodup
  apart : ∀ key ∈ Lookup.forwarded entries, key ∉ loaded
  single : ∀ key, key ∈ loaded ∨ key ∈ Lookup.forwarded entries → key.required.Nodup

theorem Proper.earlier {loaded : List PipelineKey} (proper : Proper loaded (before ++ after)) :
    Proper loaded before := by
  have all : Lookup.forwarded (before ++ after) =
      Lookup.forwarded before ++ Lookup.forwarded after := List.filterMap_append
  refine ⟨proper.distinct, ?_, fun key member => proper.apart key ?_,
    fun key member => proper.single key (member.imp_right fun added => ?_)⟩
  · have forwarded := proper.forwarded
    rw [all] at forwarded
    exact (List.nodup_append.mp forwarded).1
  · rw [all]
    exact List.mem_append_left _ member
  · rw [all]
    exact List.mem_append_left _ added

theorem Proper.not_mem {loaded : List PipelineKey} (proper : Proper loaded entries)
    (member : key ∈ loaded) : .key key ∉ entries :=
  fun added => proper.apart key (mem_forwarded_iff.mpr added) member

theorem Proper.alone {loaded : List PipelineKey}
    (proper : Proper loaded (before ++ .key key :: after)) :
    .key key ∉ before ∧ .key key ∉ after := by
  have all : Lookup.forwarded (before ++ .key key :: after) =
      Lookup.forwarded before ++ key :: Lookup.forwarded after := List.filterMap_append
  have nodup := proper.forwarded
  rw [all, List.nodup_middle, List.nodup_cons, List.mem_append, not_or] at nodup
  rw [← mem_forwarded_iff, ← mem_forwarded_iff]
  exact nodup.1

theorem Proper.count_loaded {loaded : List PipelineKey} (proper : Proper loaded entries)
    (member : key ∈ loaded) : ((ofKeys loaded).readied entries).count key =
      if key.required ≠ [] ∧ ∀ shader ∈ key.required, shader ∈ provided entries then 1 else 0 :=
  count_readied_loaded proper.distinct member (proper.single key (Or.inl member))
    (proper.not_mem member)

theorem Proper.count_forwarded {loaded : List PipelineKey}
    (proper : Proper loaded (before ++ .key key :: after)) :
    ((ofKeys loaded).readied (before ++ .key key :: after)).count key =
      if (∀ shader ∈ key.required, shader ∈ provided (before ++ .key key :: after)) ∧
        ∃ shader ∈ key.required, shader ∉ provided before then 1 else 0 := by
  have added : key ∈ Lookup.forwarded (before ++ .key key :: after) :=
    mem_forwarded_iff.mpr (List.mem_append_right _ List.mem_cons_self)
  exact count_readied_forwarded (proper.apart key added) (proper.single key (Or.inr added))
    proper.alone.1 proper.alone.2

theorem Proper.count_le_one {loaded : List PipelineKey} (proper : Proper loaded entries)
    (key : PipelineKey) : ((ofKeys loaded).readied entries).count key ≤ 1 := by
  by_cases member : key ∈ loaded
  · rw [proper.count_loaded member]
    split <;> omega
  · by_cases added : .key key ∈ entries
    · obtain ⟨before, after, rfl⟩ := List.append_of_mem added
      rw [proper.count_forwarded]
      split <;> omega
    · have never : key ∉ (ofKeys loaded).readied entries := fun ready =>
        (mem_of_mem_readied ready).elim member added
      rw [List.count_eq_zero.mpr never]
      exact Nat.zero_le 1

end Lookup

end PipelineCache

import PipelineCache.Pipeline.Instance

/-! Laws of the store of instances: what each operation does to the number of holders of an instance,
to the handles that the store keeps alive, and to the instances themselves. -/

namespace PipelineCache

theorem count_flatMap_set {α β : Type} [BEq β] (parts : α → List β) (values : List α) (value : α)
    (part : β) (index : Nat) (inside : index < values.length) :
    ((values.set index value).flatMap parts).count part + (parts values[index]).count part =
      (values.flatMap parts).count part + (parts value).count part := by
  induction values generalizing index with
  | nil => simp at inside
  | cons first rest ih =>
      cases index with
      | zero =>
          simp only [List.set_cons_zero, List.flatMap_cons, List.count_append,
            List.getElem_cons_zero]
          omega
      | succ index =>
          have tail := ih index (by simpa using inside)
          simp only [List.set_cons_succ, List.flatMap_cons, List.count_append,
            List.getElem_cons_succ]
          omega

theorem countP_set_of_getElem? {α : Type} {values : List α} {index : Nat} {old : α} (counts : α → Bool)
    (found : values[index]? = some old) (value : α) :
    (values.set index value).countP counts + (counts old).toNat =
      values.countP counts + (counts value).toNat := by
  obtain ⟨inside, rfl⟩ := List.getElem?_eq_some_iff.mp found
  have least (counted : counts values[index] = true) : 0 < values.countP counts :=
    List.countP_pos_iff.mpr ⟨_, List.getElem_mem inside, counted⟩
  rw [List.countP_set inside]
  cases before : counts values[index] with
  | false => cases counts value <;> simp
  | true =>
      have positive := least before
      cases counts value <;> simp <;> omega

namespace Instance

/-- What may become of an instance: it serves the same state with the same base handle, and a fast
handle stays once it is there. -/
structure Evolves (before after : Instance) : Prop where
  state : after.state = before.state
  pass : after.pass = before.pass
  base : after.base = before.base
  fast : before.fast.isSome → after.fast = before.fast

namespace Evolves

variable {first second third : Instance}

theorem refl (realized : Instance) : realized.Evolves realized := ⟨rfl, rfl, rfl, fun _ => rfl⟩

theorem trans (early : first.Evolves second) (late : second.Evolves third) :
    first.Evolves third where
  state := late.state.trans early.state
  pass := late.pass.trans early.pass
  base := late.base.trans early.base
  fast present := by
    have kept := early.fast present
    exact (late.fast (kept ▸ present)).trans kept

theorem handles_subset (evolves : first.Evolves second) : first.handles ⊆ second.handles := by
  intro handle member
  simp only [Instance.handles, List.mem_append, Option.mem_toList, evolves.base] at member ⊢
  refine member.imp_right fun fast => ?_
  rwa [evolves.fast (by rw [Option.mem_def.mp fast]; rfl)]

theorem handle_isSome (evolves : first.Evolves second) (present : first.handle.isSome) :
    second.handle.isSome := by
  simp only [Instance.handle, Option.isSome_or, Bool.or_eq_true, evolves.base] at present ⊢
  refine present.imp_left fun fast => ?_
  rwa [evolves.fast fast]

end Evolves

theorem evolves_of_install {realized installed : Instance} {handle : PipelineHandle}
    (set : realized.install handle = some installed) : realized.Evolves installed := by
  obtain ⟨absent, rfl⟩ := install_eq_some_iff.mp set
  exact ⟨rfl, rfl, rfl, by simp [absent]⟩

theorem mem_handles_of_handle {realized : Instance} {handle : PipelineHandle}
    (drawn : realized.handle = some handle) : handle ∈ realized.handles := by
  simp only [Instance.handle, Option.or_eq_some_iff] at drawn
  simp only [Instance.handles, List.mem_append, Option.mem_toList]
  rcases drawn with fast | ⟨_, base⟩
  · exact Or.inr fast
  · exact Or.inl base

end Instance

namespace Store

variable {store changed : Store} {id other : InstanceId} {item : Instance} {held : Held}
  {handle target : PipelineHandle}

theorem get?_eq_some_iff : store.get? id = some item ↔
    ∃ held, store.held? id = some held ∧ held.item = item := by
  simp [get?]

theorem cells_getElem_of_held? (present : store.held? id = some held)
    (inside : id < store.cells.length) : store.cells[id] = some held := by
  simp only [held?, List.getElem?_eq_getElem inside, Option.join_some] at present
  exact present

/-! ### Holders -/

/-- How many places hold an instance. -/
def holders (store : Store) (id : InstanceId) : Nat :=
  ((store.held? id).map Held.holders).getD 0

/-- No instance is kept that nothing holds. -/
def Sound (store : Store) : Prop := ∀ id held, store.held? id = some held → 0 < held.holders

theorem exists_of_holders_pos (positive : 0 < store.holders id) :
    ∃ item, store.get? id = some item := by
  cases present : store.held? id with
  | none => simp [holders, present] at positive
  | some held => exact ⟨held.item, by simp [get?, present]⟩

theorem holders_pos_of_get? (sound : store.Sound) (present : store.get? id = some item) :
    0 < store.holders id := by
  obtain ⟨held, found, _⟩ := get?_eq_some_iff.mp present
  simpa [holders, found] using sound id held found

theorem holders_add (store : Store) (item : Instance) (id : InstanceId) :
    (store.add item).2.holders id = store.holders id + [(store.add item).1].count id := by
  simp only [holders, held?_add]
  by_cases same : id = (store.add item).1
  · subst same
    have outside : store.held? (store.add item).1 = none := by simp [held?, add]
    simp [outside]
  · simp [same, Ne.symm same]

theorem holders_put (store : Store) (id other : InstanceId) (item : Instance) :
    (store.put id item).holders other = store.holders other := by
  simp only [holders, held?_put]
  by_cases same : other = id
  · subst same
    cases store.held? other <;> simp
  · simp [same]

theorem holders_hold (present : store.get? id = some item) (other : InstanceId) :
    (store.hold id).holders other = store.holders other + [id].count other := by
  obtain ⟨held, found, _⟩ := get?_eq_some_iff.mp present
  simp only [holders, held?_hold]
  by_cases same : other = id
  · simp [same, found]
  · simp [same, Ne.symm same]

theorem holders_release (store : Store) (id other : InstanceId) :
    (store.release id).2.holders other = store.holders other - [id].count other := by
  simp only [holders, held?_release]
  by_cases same : other = id
  · subst same
    cases present : store.held? other with
    | none => simp
    | some held =>
        by_cases last : held.holders ≤ 1
        · simp [last]
        · simp [last]
  · simp [same, Ne.symm same]

theorem sound_add (sound : store.Sound) (item : Instance) : (store.add item).2.Sound := by
  intro other held present
  rw [held?_add] at present
  split at present
  · cases present
    exact Nat.one_pos
  · exact sound other held present

theorem sound_put (sound : store.Sound) (id : InstanceId) (item : Instance) :
    (store.put id item).Sound := by
  intro other held present
  rw [held?_put] at present
  split at present
  · obtain ⟨old, found, rfl⟩ := Option.map_eq_some_iff.mp present
    exact sound id old found
  · exact sound other held present

theorem sound_hold (sound : store.Sound) (id : InstanceId) : (store.hold id).Sound := by
  intro other held present
  rw [held?_hold] at present
  split at present
  · obtain ⟨old, _, rfl⟩ := Option.map_eq_some_iff.mp present
    exact Nat.succ_pos _
  · exact sound other held present

theorem sound_release (sound : store.Sound) (id : InstanceId) : (store.release id).2.Sound := by
  intro other held present
  rw [held?_release] at present
  split at present
  · obtain ⟨old, _, kept⟩ := Option.bind_eq_some_iff.mp present
    split at kept
    · cases kept
    · cases kept
      simp only
      omega
  · exact sound other held present

/-! ### Handles -/

/-- The handles that the instances of a store keep alive, once for each slot that holds them. -/
def handles (store : Store) : List PipelineHandle := store.live.flatMap Instance.handles

def cellHandles (cell : Option Held) : List PipelineHandle :=
  (cell.map fun held => held.item.handles).getD []

theorem handles_eq_flatMap (store : Store) : store.handles = store.cells.flatMap cellHandles := by
  unfold handles live
  induction store.cells with
  | nil => rfl
  | cons cell cells ih => cases cell <;> simp [cellHandles, ih]

theorem handles_add (store : Store) (item : Instance) :
    (store.add item).2.handles = store.handles ++ item.handles := by
  simp [handles_eq_flatMap, add, cellHandles]

theorem count_handles_set (present : store.held? id = some held) (cell : Option Held)
    (target : PipelineHandle) :
    (Store.handles ⟨store.cells.set id cell⟩).count target + held.item.handles.count target =
      store.handles.count target + (cellHandles cell).count target := by
  have inside := lt_of_held? present
  have exchanged := count_flatMap_set cellHandles store.cells cell target id inside
  rw [cells_getElem_of_held? present inside] at exchanged
  simpa [handles_eq_flatMap, cellHandles] using exchanged

theorem count_handles_hold (store : Store) (id : InstanceId) (target : PipelineHandle) :
    (store.hold id).handles.count target = store.handles.count target := by
  unfold hold
  cases present : store.held? id with
  | none => rfl
  | some held =>
      have exchanged := count_handles_set present
        (some { held with holders := held.holders + 1 }) target
      simp only [cellHandles, Option.map_some, Option.getD_some] at exchanged
      exact Nat.add_right_cancel exchanged

theorem install_eq_some_iff : store.install id handle = some changed ↔
    ∃ item installed, store.get? id = some item ∧ item.install handle = some installed ∧
      store.put id installed = changed := by
  simp [install, Option.bind_eq_some_iff]

theorem sound_install (sound : store.Sound) (set : store.install id handle = some changed) :
    changed.Sound := by
  obtain ⟨item, installed, _, _, rfl⟩ := install_eq_some_iff.mp set
  exact sound_put sound id installed

theorem count_handles_install (set : store.install id handle = some changed)
    (target : PipelineHandle) :
    changed.handles.count target = store.handles.count target + [handle].count target := by
  obtain ⟨item, installed, present, placed, rfl⟩ := install_eq_some_iff.mp set
  obtain ⟨held, found, rfl⟩ := get?_eq_some_iff.mp present
  obtain ⟨absent, rfl⟩ := Instance.install_eq_some_iff.mp placed
  have exchanged := count_handles_set found
    (some { held with item := { held.item with fast := some handle } }) target
  simp only [cellHandles, Option.map_some, Option.getD_some, Instance.handles, absent,
    Option.toList_none, Option.toList_some, List.append_nil, List.count_append] at exchanged
  simp only [put, found]
  omega

/-- Handles leave the store only together with the instance that the last holder gives up. -/
theorem count_handles_release (store : Store) (id : InstanceId) (target : PipelineHandle) :
    (store.release id).2.handles.count target + (store.release id).1.count target =
      store.handles.count target := by
  unfold release
  cases present : store.held? id with
  | none => simp
  | some held =>
      by_cases last : held.holders ≤ 1
      · have exchanged := count_handles_set present none target
        simpa [last, cellHandles] using exchanged
      · have exchanged := count_handles_set present
          (some { held with holders := held.holders - 1 }) target
        simp only [cellHandles, Option.map_some, Option.getD_some] at exchanged
        simpa [last] using Nat.add_right_cancel exchanged

theorem handles_eq_nil (empty : ∀ id, store.get? id = none) : store.handles = [] := by
  rw [handles_eq_flatMap]
  apply List.flatMap_eq_nil_iff.mpr
  intro cell member
  obtain ⟨id, inside, rfl⟩ := List.getElem_of_mem member
  cases present : store.cells[id] with
  | none => rfl
  | some held =>
      have absent := empty id
      simp [get?, held?, inside, present] at absent

/-! ### Evolution -/

/-- Whatever stands at an old number stood there before, and has at most taken a fast handle. -/
structure Evolves (before after : Store) : Prop where
  length_le : before.cells.length ≤ after.cells.length
  earlier : ∀ id later, id < before.cells.length → after.get? id = some later →
    ∃ item, before.get? id = some item ∧ item.Evolves later

theorem Evolves.refl (store : Store) : store.Evolves store :=
  ⟨Nat.le_refl _, fun _ later _ present => ⟨later, present, .refl later⟩⟩

theorem Evolves.trans {first second third : Store} (early : first.Evolves second)
    (late : second.Evolves third) : first.Evolves third := by
  refine ⟨Nat.le_trans early.length_le late.length_le, fun id later inside present => ?_⟩
  obtain ⟨middle, found, grown⟩ := late.earlier id later (Nat.lt_of_lt_of_le inside early.length_le) present
  obtain ⟨item, first, started⟩ := early.earlier id middle inside found
  exact ⟨item, first, started.trans grown⟩

theorem lt_of_get? (present : store.get? id = some item) : id < store.cells.length := by
  obtain ⟨held, found, _⟩ := get?_eq_some_iff.mp present
  exact lt_of_held? found

theorem Evolves.later (evolves : store.Evolves changed) (present : store.get? id = some item)
    (alive : ∃ later, changed.get? id = some later) :
    ∃ later, changed.get? id = some later ∧ item.Evolves later := by
  obtain ⟨later, found⟩ := alive
  obtain ⟨first, same, grown⟩ := evolves.earlier id later (lt_of_get? present) found
  obtain rfl : item = first := Option.some.inj (present.symm.trans same)
  exact ⟨later, found, grown⟩

theorem get?_add (store : Store) (item : Instance) (id : InstanceId) :
    (store.add item).2.get? id = if id = (store.add item).1 then some item else store.get? id := by
  simp only [get?, held?_add]
  split <;> rfl

theorem get?_put (store : Store) (id other : InstanceId) (item : Instance) :
    (store.put id item).get? other =
      if other = id then (store.get? id).map fun _ => item else store.get? other := by
  simp only [get?, held?_put]
  split
  · cases store.held? id <;> rfl
  · rfl

theorem get?_hold (store : Store) (id other : InstanceId) :
    (store.hold id).get? other = store.get? other := by
  simp only [get?, held?_hold]
  split
  · rename_i same
    rw [same]
    cases store.held? id <;> rfl
  · rfl

theorem get?_release_eq_some (present : (store.release id).2.get? other = some item) :
    store.get? other = some item := by
  simp only [get?, held?_release] at present ⊢
  split at present
  · rename_i same
    rw [same]
    cases found : store.held? id with
    | none => simp [found] at present
    | some held =>
        by_cases last : held.holders ≤ 1
        · simp [found, last] at present
        · simpa [found, last] using present
  · exact present

theorem length_cells_put (store : Store) (id : InstanceId) (item : Instance) :
    (store.put id item).cells.length = store.cells.length := by
  unfold put
  split <;> simp

theorem length_cells_hold (store : Store) (id : InstanceId) :
    (store.hold id).cells.length = store.cells.length := by
  unfold hold
  split <;> simp

theorem length_cells_release (store : Store) (id : InstanceId) :
    (store.release id).2.cells.length = store.cells.length := by
  unfold release
  split
  · rfl
  · split <;> simp

theorem evolves_add (store : Store) (item : Instance) : store.Evolves (store.add item).2 := by
  refine ⟨by simp [add], fun id later inside present => ⟨later, ?_, .refl later⟩⟩
  have old : id ≠ (store.add item).1 := Nat.ne_of_lt inside
  simpa [get?_add, old] using present

theorem evolves_install (set : store.install id handle = some changed) :
    store.Evolves changed := by
  obtain ⟨item, installed, present, placed, rfl⟩ := install_eq_some_iff.mp set
  refine ⟨Nat.le_of_eq (length_cells_put ..).symm, fun other later _ found => ?_⟩
  rw [get?_put] at found
  split at found
  · rename_i same
    rw [present] at found
    cases found
    exact ⟨item, same ▸ present, Instance.evolves_of_install placed⟩
  · exact ⟨later, found, .refl later⟩

/-- An instance has the handle that was set. -/
theorem fast_of_install (set : store.install id handle = some changed) :
    ∃ item, changed.get? id = some item ∧ item.fast = some handle := by
  obtain ⟨item, installed, present, placed, rfl⟩ := install_eq_some_iff.mp set
  obtain ⟨_, rfl⟩ := Instance.install_eq_some_iff.mp placed
  refine ⟨{ item with fast := some handle }, ?_, rfl⟩
  rw [get?_put, if_pos rfl, present, Option.map_some]

theorem evolves_hold (store : Store) (id : InstanceId) : store.Evolves (store.hold id) :=
  ⟨Nat.le_of_eq (length_cells_hold ..).symm, fun other later _ present =>
    ⟨later, get?_hold store id other ▸ present, .refl later⟩⟩

theorem evolves_release (store : Store) (id : InstanceId) :
    store.Evolves (store.release id).2 :=
  ⟨Nat.le_of_eq (length_cells_release ..).symm, fun _ later _ present =>
    ⟨later, get?_release_eq_some present, .refl later⟩⟩

/-! ### Releasing several places -/

def releaseAll (store : Store) : List InstanceId → List PipelineHandle × Store
  | [] => ([], store)
  | id :: ids =>
      let (handles, released) := store.release id
      let (later, last) := released.releaseAll ids
      (handles ++ later, last)

theorem holders_releaseAll (store : Store) (ids : List InstanceId) (id : InstanceId) :
    (store.releaseAll ids).2.holders id = store.holders id - ids.count id := by
  induction ids generalizing store with
  | nil => rfl
  | cons first rest ih =>
      simp only [releaseAll, ih, holders_release, List.count_cons, List.count_nil]
      omega

theorem sound_releaseAll (sound : store.Sound) (ids : List InstanceId) :
    (store.releaseAll ids).2.Sound := by
  induction ids generalizing store with
  | nil => exact sound
  | cons first rest ih => exact ih (sound_release sound first)

theorem count_handles_releaseAll (store : Store) (ids : List InstanceId)
    (target : PipelineHandle) :
    (store.releaseAll ids).2.handles.count target + (store.releaseAll ids).1.count target =
      store.handles.count target := by
  induction ids generalizing store with
  | nil => simp [releaseAll]
  | cons first rest ih =>
      have released := count_handles_release store first target
      have later := ih (store.release first).2
      simp only [releaseAll, List.count_append]
      omega

theorem length_cells_releaseAll (store : Store) (ids : List InstanceId) :
    (store.releaseAll ids).2.cells.length = store.cells.length := by
  induction ids generalizing store with
  | nil => rfl
  | cons first rest ih => exact (ih _).trans (length_cells_release store first)

theorem evolves_releaseAll (store : Store) (ids : List InstanceId) :
    store.Evolves (store.releaseAll ids).2 := by
  induction ids generalizing store with
  | nil => exact .refl store
  | cons first rest ih => exact (evolves_release store first).trans (ih _)

end Store

end PipelineCache

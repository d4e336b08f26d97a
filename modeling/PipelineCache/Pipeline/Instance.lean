import PipelineCache.Device

/-! Pipeline instances: one state and render pass, compiled for one set of shaders. The base handle
is there from the start or never; the fast handle is set at most once. Instances are shared: a store
counts how many places hold each one, and gives up the handles of an instance that nothing holds. -/

namespace PipelineCache

structure Instance where
  state : PipelineState
  pass : RenderPass
  /-- The handle compiled for the caller that first drew with the instance. -/
  base : Option PipelineHandle := none
  /-- The optimized handle. -/
  fast : Option PipelineHandle := none
  deriving DecidableEq

namespace Instance

/-- The handle to draw with: the optimized one as soon as there is one. -/
def handle (realized : Instance) : Option PipelineHandle := realized.fast.or realized.base

/-- Whether the instance serves a state and a render pass format; passes of one format can stand for
one another. -/
def serves (realized : Instance) (state : PipelineState) (format : RenderPassFormat) : Bool :=
  realized.pass.format == format && realized.state == state

/-- The handles that an instance owns, in the order in which they are destroyed. -/
def handles (realized : Instance) : List PipelineHandle :=
  realized.base.toList ++ realized.fast.toList

/-- Sets the fast handle, unless there is one. -/
def install (realized : Instance) (handle : PipelineHandle) : Option Instance :=
  match realized.fast with
  | none => some { realized with fast := some handle }
  | some _ => none

def text (realized : Instance) : String :=
  let handleText (handle : Option PipelineHandle) :=
    Text.optional (handle.map PipelineHandle.text)
  Text.record "PipelineInstance" [
    ("render_pass", Text.application "RenderPassHandle" [toString realized.pass.handle]),
    ("state_hash", hex64 realized.state.hash64), ("base", handleText realized.base),
    ("fast", handleText realized.fast)]

/-- A fast handle is set only where there was none. -/
theorem install_eq_some_iff {realized installed : Instance} {handle : PipelineHandle} :
    realized.install handle = some installed ↔
      realized.fast = none ∧ installed = { realized with fast := some handle } := by
  unfold install
  split <;> simp_all [eq_comm]

end Instance

/-- The number of an instance in a store; a number is never used again. -/
abbrev InstanceId := Nat

/-- An instance and the number of places that hold it. -/
structure Held where
  item : Instance
  holders : Nat
  deriving DecidableEq

/-- All instances ever made, with nothing in the place of those that were given up. -/
structure Store where
  cells : List (Option Held) := []
  deriving DecidableEq

namespace Store

def held? (store : Store) (id : InstanceId) : Option Held := store.cells[id]?.join

def get? (store : Store) (id : InstanceId) : Option Instance := (store.held? id).map Held.item

/-- The instances that something still holds. -/
def live (store : Store) : List Instance := store.cells.filterMap fun cell => cell.map Held.item

/-- Adds an instance that one place holds. -/
def add (store : Store) (item : Instance) : InstanceId × Store :=
  (store.cells.length, ⟨store.cells ++ [some ⟨item, 1⟩]⟩)

/-- Replaces an instance, keeping its holders. -/
def put (store : Store) (id : InstanceId) (item : Instance) : Store :=
  match store.held? id with
  | some held => ⟨store.cells.set id (some { held with item := item })⟩
  | none => store

/-- Sets the fast handle of an instance, unless it has one. -/
def install (store : Store) (id : InstanceId) (handle : PipelineHandle) : Option Store := do
  let item ← store.get? id
  let installed ← item.install handle
  return store.put id installed

/-- One more place holds the instance. -/
def hold (store : Store) (id : InstanceId) : Store :=
  match store.held? id with
  | some held => ⟨store.cells.set id (some { held with holders := held.holders + 1 })⟩
  | none => store

/-- One place less holds the instance; the last one gives it up, and its handles are to be
destroyed. -/
def release (store : Store) (id : InstanceId) : List PipelineHandle × Store :=
  match store.held? id with
  | none => ([], store)
  | some held =>
      if held.holders ≤ 1 then (held.item.handles, ⟨store.cells.set id none⟩)
      else ([], ⟨store.cells.set id (some { held with holders := held.holders - 1 })⟩)

theorem held?_add (store : Store) (item : Instance) (id : InstanceId) :
    (store.add item).2.held? id =
      if id = (store.add item).1 then some ⟨item, 1⟩ else store.held? id := by
  simp only [held?, add, List.getElem?_append]
  split <;> rename_i inside
  · have different : id ≠ store.cells.length := Nat.ne_of_lt inside
    simp [different]
  · by_cases same : id = store.cells.length
    · simp [same]
    · have beyond : store.cells.length < id :=
        Nat.lt_of_le_of_ne (Nat.not_lt.mp inside) (Ne.symm same)
      have outside : store.cells[id]? = none := List.getElem?_eq_none (Nat.le_of_lt beyond)
      have single : [some (Held.mk item 1)][id - store.cells.length]? = none :=
        List.getElem?_eq_none (Nat.sub_pos_of_lt beyond)
      simp [same, outside, single]

theorem lt_of_held? {store : Store} {id : InstanceId} {held : Held}
    (present : store.held? id = some held) : id < store.cells.length := by
  by_cases inside : id < store.cells.length
  · exact inside
  · simp [held?, List.getElem?_eq_none (Nat.not_lt.mp inside)] at present

theorem held?_set (store : Store) (id other : InstanceId) (cell : Option Held)
    (inside : id < store.cells.length) :
    held? ⟨store.cells.set id cell⟩ other = if other = id then cell else store.held? other := by
  simp only [held?, List.getElem?_set]
  by_cases same : other = id
  · simp [same, inside]
  · simp [same, Ne.symm same]

theorem held?_put (store : Store) (id other : InstanceId) (item : Instance) :
    (store.put id item).held? other =
      if other = id then (store.held? id).map fun held => { held with item := item }
      else store.held? other := by
  unfold put
  cases present : store.held? id with
  | none => by_cases same : other = id <;> simp [same, present]
  | some held => simp [held?_set store id other _ (lt_of_held? present)]

theorem held?_hold (store : Store) (id other : InstanceId) :
    (store.hold id).held? other =
      if other = id then (store.held? id).map fun held => { held with holders := held.holders + 1 }
      else store.held? other := by
  unfold hold
  cases present : store.held? id with
  | none => by_cases same : other = id <;> simp [same, present]
  | some held => simp [held?_set store id other _ (lt_of_held? present)]

/-- The last holder takes the instance out of the store. -/
theorem held?_release (store : Store) (id other : InstanceId) :
    (store.release id).2.held? other =
      if other = id then
        (store.held? id).bind fun held =>
          if held.holders ≤ 1 then none else some { held with holders := held.holders - 1 }
      else store.held? other := by
  unfold release
  cases present : store.held? id with
  | none => by_cases same : other = id <;> simp [same, present]
  | some held =>
      simp only
      split <;> rename_i last <;>
        simp [held?_set store id other _ (lt_of_held? present), last]

end Store

end PipelineCache

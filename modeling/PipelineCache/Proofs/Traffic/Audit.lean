import PipelineCache.Proofs.Traffic.Combinations

/-! A ledger of what is done with the instances of a pipeline: which ones draws push to its list, find
there, report to the state cache and hand to the background compiler, and which ones optimizations adopt.
It is kept from outside, by looking at the list and the history before and after each action. The
surroundings are bound to nothing here: the device may answer with any handle, also one that it has
issued before, and anybody may bring instances of any making. -/

namespace PipelineCache

/-- What may be done with an instance. -/
inductive Deed
  /-- A draw returns the handle of an instance that it has found in the list. -/
  | found
  /-- A draw has appended an instance to the list. -/
  | pushed
  /-- An instance was appended to the list otherwise. -/
  | adopted
  | reported
  | queued
  deriving DecidableEq

def Event.passed? : Event → Option (Deed × InstanceId)
  | .reported entry => some (.reported, entry)
  | .queued entry => some (.queued, entry)
  | _ => none

def Happening.passed? : Happening → Option (Deed × InstanceId)
  | .shown _ event => event.passed?
  | _ => none

/-- The instance whose handle the draw is about to return although the instance is not its own. -/
def Draw.found? (draw : Draw) : Option InstanceId :=
  match draw.position with
  | .reading entry => some entry
  | _ => none

/-- What an instance is remembered as. -/
def Shared.key? (shared : Shared) (entry : InstanceId) : Option PipelineKey :=
  (shared.store.get? entry).map shared.pipeline.instanceKey

/-- Who did something, with which instance, and what the instance was remembered as at that time. -/
structure Dealing where
  call : Option Nat
  entry : InstanceId
  key : Option PipelineKey
  deriving DecidableEq

namespace Traffic

variable {before after traffic : Traffic} {move : Move} {index : Nat} {call : Call}

/-- One thing that may happen in surroundings that are bound to nothing. -/
inductive Action
  | move (move : Move)
  /-- The device answers a call. -/
  | reply (index : Nat) (result : Except CacheError PipelineHandle)
  /-- Somebody brings an instance. -/
  | bring (item : Instance)

def bring (traffic : Traffic) (item : Instance) : Traffic :=
  let (entry, store) := traffic.shared.store.add item
  { traffic with
    shared := { traffic.shared with store := store }
    references := traffic.references ++ [entry] }

def act? (traffic : Traffic) : Action → Option Traffic
  | .move move => traffic.move? move
  | .reply index result =>
      match traffic.calls[index]? with
      | none => none
      | some call =>
          if (call.request? traffic.shared).isSome then some (traffic.receive index call result)
          else none
  | .bring item => some (traffic.bring item)

/-- The actions that are possible, and what they lead to. -/
inductive Acted (before : Traffic) : Action → Traffic → Prop
  | move (move : Move) (after : Traffic) (moved : Moved before move after) :
      Acted before (.move move) after
  | reply (index : Nat) (call : Call) (result : Except CacheError PipelineHandle)
      (found : before.calls[index]? = some call) (waits : (call.request? before.shared).isSome) :
      Acted before (.reply index result) (before.receive index call result)
  | bring (item : Instance) : Acted before (.bring item) (before.bring item)

theorem acted_of_act? {action : Action} (acted : before.act? action = some after) :
    Acted before action after := by
  cases action with
  | move move => exact .move move after (moved_of_move? acted)
  | reply index result =>
      simp only [act?] at acted
      split at acted
      · cases acted
      · rename_i call found
        obtain ⟨waits, same⟩ := Option.ite_none_right_eq_some.mp acted
        cases same
        exact .reply index call result found waits
  | bring item =>
      cases acted
      exact .bring item

/-! ### What is kept -/

variable {action : Action}

theorem accounted_bring (accounted : before.Accounted) (item : Instance) :
    (before.bring item).Accounted := by
  refine ⟨Store.sound_add accounted.sound _, fun entry => ?_, accounted.quiet⟩
  have counted := accounted.holders entry
  have added := before.shared.store.holders_add item entry
  rw [count_holdings] at counted ⊢
  simp only [bring, listed, List.count_append] at counted added ⊢
  omega

theorem accounted_acted (accounted : before.Accounted) (acted : Acted before action after) :
    after.Accounted := by
  cases acted with
  | move move _ moved => exact accounted_moved accounted moved
  | reply index call result found waits => exact accounted_receive accounted found waits result
  | bring item => exact accounted_bring accounted item

theorem grows_acted (accounted : before.Accounted) (acted : Acted before action after) :
    before.shared.Grows after.shared := by
  cases acted with
  | move move _ moved => exact grows_moved accounted moved
  | reply => exact .refl _
  | bring item => exact ⟨List.prefix_rfl, Store.evolves_add _ _⟩

theorem settled_acted (accounted : before.Accounted) (settled : before.Settled)
    (isOpen : before.isOpen = true) (stillOpen : after.isOpen = true)
    (acted : Acted before action after) : after.Settled := by
  have grows := grows_acted accounted acted
  have later := accounted_acted accounted acted
  cases acted with
  | move move _ moved => exact settled_moved accounted settled isOpen stillOpen moved
  | reply index call result found waits =>
      refine ⟨settled.distinct, fun other member => ?_⟩
      rcases List.mem_or_eq_of_mem_set member with there | same
      · exact settled.founded other there
      · rw [same]
        exact call.founded_answer waits result
  | bring item =>
      refine ⟨?_, fun call member => founded_later settled grows later stillOpen member member⟩
      exact settled.distinct.later grows.store rfl fun entry listed => accounted.listed isOpen listed

theorem isOpen_of_acted (acted : Acted before action after) (isOpen : after.isOpen = true) :
    before.isOpen = true := by
  cases acted with
  | move move _ moved => exact isOpen_of_moved moved isOpen
  | _ => exact isOpen

/-- The instances in the list of a pipeline that is there are all different. -/
theorem nodup_instances (accounted : traffic.Accounted) (settled : traffic.Settled)
    (isOpen : traffic.isOpen = true) : traffic.shared.pipeline.instances.Nodup := by
  apply settled.distinct.apart.imp_of_mem
  intro first second member _ apart same
  obtain ⟨item, present⟩ := accounted.listed isOpen member
  rw [← same] at apart
  exact apart item item present present rfl

theorem key?_later (grows : before.shared.Grows after.shared)
    (same : after.shared.pipeline.shaders = before.shared.pipeline.shaders) {entry : InstanceId}
    (present : ∃ item, before.shared.store.get? entry = some item)
    (alive : ∃ item, after.shared.store.get? entry = some item) :
    after.shared.key? entry = before.shared.key? entry := by
  obtain ⟨item, present⟩ := present
  obtain ⟨later, there, evolves⟩ := grows.store.later present alive
  rw [Shared.key?, Shared.key?, there, present, Option.map_some, Option.map_some]
  rw [Pipeline.instanceKey, Pipeline.instanceKey, Pipeline.keys, Pipeline.keys, same, evolves.state,
    evolves.pass]

/-! ### The ledger -/

/-- The call that takes a step. -/
def Action.caller? : Action → Option Nat
  | .move (.step index) => some index
  | _ => none

def Action.draw? (action : Action) (before : Traffic) : Option Draw :=
  match action.caller?.bind fun index => before.calls[index]? with
  | some (.draw draw) => some draw
  | _ => none

/-- What was done with which instance by one action, as far as the draw that took a step, the list of the
pipeline, and the history show it. -/
def deeds (before : Traffic) (action : Action) (after : Traffic) : List (Deed × InstanceId) :=
  let draw? := action.draw? before
  let joined := after.shared.pipeline.instances.drop before.shared.pipeline.instances.length
  let seen := after.history.drop before.history.length
  (draw?.bind Draw.found?).toList.map (.found, ·) ++
    (joined.map (if draw?.isSome then .pushed else .adopted, ·) ++
      seen.filterMap Happening.passed?)

def dealings (before : Traffic) (action : Action) (after : Traffic) : List (Deed × Dealing) :=
  (before.deeds action after).map fun (deed, entry) =>
    (deed, ⟨action.caller?, entry, after.shared.key? entry⟩)

end Traffic

/-- A pipeline with its surroundings, and the ledger of all that has happened. -/
structure Audit where
  traffic : Traffic
  ledger : List (Deed × Dealing) := []

namespace Audit

/-- A new pipeline that reports its instances and has them optimized. -/
def start (shaders : ShaderSet) : Audit := { traffic := .start shaders true true }

def act? (audit : Audit) (action : Traffic.Action) : Option Audit :=
  (audit.traffic.act? action).map fun after =>
    ⟨after, audit.ledger ++ audit.traffic.dealings action after⟩

abbrev run? (audit : Audit) (actions : List Traffic.Action) : Option Audit :=
  Run.final? act? audit actions

end Audit

namespace Ledger

/-- All dealings in which one thing was done, oldest first. -/
def done (deed : Deed) (ledger : List (Deed × Dealing)) : List Dealing :=
  (ledger.filter (·.1 = deed)).map Prod.snd

/-- The part of a ledger that speaks about one call, or about none. -/
def of (call : Option Nat) (ledger : List (Deed × Dealing)) : List (Deed × Dealing) :=
  ledger.filter (·.2.call = call)

theorem done_append (deed : Deed) (ledger more : List (Deed × Dealing)) :
    done deed (ledger ++ more) = done deed ledger ++ done deed more := by
  simp [done]

theorem of_append (call : Option Nat) (ledger more : List (Deed × Dealing)) :
    of call (ledger ++ more) = of call ledger ++ of call more := by
  simp [of]

theorem mem_done_iff {deed : Deed} {ledger : List (Deed × Dealing)} {dealing : Dealing} :
    dealing ∈ done deed ledger ↔ (deed, dealing) ∈ ledger := by
  simp [done]

/-- What is done with everything is found call by call. -/
theorem count_done (deed : Deed) (ledger : List (Deed × Dealing)) (dealing : Dealing) :
    (done deed ledger).count dealing = (done deed (of dealing.call ledger)).count dealing := by
  induction ledger with
  | nil => rfl
  | cons deal ledger ih =>
      obtain ⟨other, dealt⟩ := deal
      by_cases same : dealt.call = dealing.call
      · by_cases kind : other = deed <;> simp_all [done, of, List.count_cons]
      · have different : dealt ≠ dealing := fun equal => same (congrArg Dealing.call equal)
        by_cases kind : other = deed <;> simp_all [done, of]

/-- If each call has done two things equally, they were done equally in all. -/
theorem perm_of_forall {first second : Deed} {ledger : List (Deed × Dealing)}
    (same : ∀ call, done first (of call ledger) = done second (of call ledger)) :
    (done first ledger).Perm (done second ledger) := by
  apply List.perm_iff_count.mpr
  intro dealing
  calc (done first ledger).count dealing
      = (done first (of dealing.call ledger)).count dealing := count_done ..
    _ = (done second (of dealing.call ledger)).count dealing := by rw [same]
    _ = (done second ledger).count dealing := (count_done ..).symm

end Ledger

end PipelineCache

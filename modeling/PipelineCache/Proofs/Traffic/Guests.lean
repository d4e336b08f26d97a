import PipelineCache.Proofs.Traffic.Audit
import PipelineCache.Proofs.Traffic.Parents

/-! Instances that are brought from outside, with a base handle of any kind. A call takes an instance with a
base handle for one of the list, and makes its optimized handle the first parent although the pipeline does
not hold it. So the first parent belongs to a listed instance, and then it stays alive as long as the
pipeline does; or it belongs to a guest that came with a base handle, and it may be destroyed while later
calls still derive from it. -/

namespace PipelineCache

namespace Optimization

/-- The handle that an optimization has set is in its own instance. When it is to be offered as a parent,
the instance is listed, unless it has a base handle. -/
def Grounded (optimization : Optimization) (shared : Shared) : Prop :=
  match optimization.position with
  | .countingInstalled handle => ∃ item, shared.store.get? optimization.entry = some item ∧
      item.fast = some handle
  | .adopting handle => ∃ item, shared.store.get? optimization.entry = some item ∧
      item.fast = some handle
  | .offering handle => ∃ item, shared.store.get? optimization.entry = some item ∧
      item.fast = some handle ∧
      (item.base = none → optimization.entry ∈ shared.pipeline.instances)
  | _ => True

variable {optimization : Optimization} {shared before after : Shared}

theorem Grounded.later (grounded : optimization.Grounded before) (grows : before.Grows after)
    (borrowed : (Call.optimize optimization).isFinished = false →
      ∃ item, after.store.get? optimization.entry = some item) : optimization.Grounded after := by
  obtain ⟨entry, position⟩ := optimization
  have still {item : Instance} {handle : PipelineHandle}
      (running : (Call.optimize ⟨entry, position⟩).isFinished = false)
      (present : before.store.get? entry = some item) (set : item.fast = some handle) :
      ∃ later, after.store.get? entry = some later ∧ later.fast = some handle ∧
        later.base = item.base := by
    obtain ⟨later, there, evolves⟩ := grows.store.later present (borrowed running)
    have kept : later.slot .optimized = some handle := evolves.slot set
    exact ⟨later, there, kept, evolves.base⟩
  cases position with
  | countingInstalled handle | adopting handle =>
      obtain ⟨item, present, set⟩ := grounded
      obtain ⟨later, there, kept, _⟩ := still rfl present set
      exact ⟨later, there, kept⟩
  | offering handle =>
      obtain ⟨item, present, set, listed⟩ := grounded
      obtain ⟨later, there, kept, base⟩ := still rfl present set
      exact ⟨later, there, kept, fun baseless => grows.listed.subset (listed (base ▸ baseless))⟩
  | _ => trivial

/-- An instance without a base handle is taken for the pipeline's own only if it is listed. -/
theorem grounded_adoption {entry : InstanceId} {item : Instance}
    (present : shared.store.get? entry = some item) (owned : (adoption entry item shared).1 = true) :
    (adoption entry item shared).2.1.store.get? entry = some item ∧
      (item.base = none → entry ∈ (adoption entry item shared).2.1.pipeline.instances) := by
  unfold adoption at owned ⊢
  split
  · rename_i based
    exact ⟨present, fun baseless => by rw [baseless] at based; cases based⟩
  · rename_i baseless
    rw [if_neg baseless] at owned
    cases found : shared.find? item.state item.pass.format with
    | some other =>
        simp only [found] at owned ⊢
        obtain rfl := eq_of_beq owned
        obtain ⟨_, serving⟩ := Shared.serving_of_find? found
        exact ⟨present, fun _ => serving.member⟩
    | none =>
        exact ⟨(Store.get?_hold ..).trans present,
          fun _ => List.mem_append_right _ (List.mem_singleton_self _)⟩

theorem Grounded.step (grounded : optimization.Grounded shared) :
    (optimization.step shared).1.Grounded (optimization.step shared).2.1 := by
  obtain ⟨entry, position⟩ := optimization
  cases present : shared.store.get? entry with
  | none =>
      simp only [Optimization.step, present]
      trivial
  | some item =>
      cases position with
      | checking =>
          simp only [Optimization.step, present]
          split <;> trivial
      | preparing =>
          simp only [Optimization.step, present]
          split <;> trivial
      | installing handle =>
          simp only [Optimization.step, present]
          split
          · rename_i store set
            exact Store.fast_of_install set
          · trivial
      | countingInstalled handle =>
          simp only [Optimization.step, present]
          exact grounded
      | adopting handle =>
          obtain ⟨same, there, set⟩ := grounded
          obtain rfl : item = same := Option.some.inj (present.symm.trans there)
          simp only [Optimization.step, present]
          split
          · rename_i owned
            obtain ⟨kept, listed⟩ := grounded_adoption present owned
            exact ⟨item, kept, set, listed⟩
          · trivial
      | _ =>
          simp only [Optimization.step, present]
          trivial

end Optimization

namespace Call

theorem offered?_optimized_eq_some {call : Call} {handle : PipelineHandle}
    (offered : call.offered? .optimized = some handle) :
    ∃ entry, call = .optimize ⟨entry, .offering handle⟩ := by
  unfold offered? at offered
  split at offered
  · rename_i same
    cases same
  · cases offered
    exact ⟨_, rfl⟩
  · cases offered

theorem shared_step_offering (entry : InstanceId) (handle : PipelineHandle) (shared : Shared) :
    (Call.step (.optimize ⟨entry, .offering handle⟩) shared).2.1.store = shared.store ∧
      (Call.step (.optimize ⟨entry, .offering handle⟩) shared).2.1.pipeline.instances =
        shared.pipeline.instances := by
  cases present : shared.store.get? entry <;>
    simp [Call.step, Optimization.step, present, Pipeline.offerParent]

end Call

namespace Traffic

variable {before middle after final traffic : Traffic} {action : Action} {actions : List Action}
  {guests : List Instance} {index : Nat} {call : Call} {mode : CompileMode} {handle : PipelineHandle}

abbrev enact? (traffic : Traffic) (actions : List Action) : Option Traffic :=
  Run.final? act? traffic actions

/-- The instance that an action brings. -/
def Action.guest? : Action → Option Instance
  | .bring item => some item
  | _ => none

theorem became_of_acted (acted : Acted before action after) (found : after.calls[index]? = some call) :
    Became before index call := by
  cases acted with
  | move move _ moved => exact became_of_moved moved found
  | reply target old result there waits =>
      by_cases same : index = target
      · subst same
        have inside := (List.getElem?_eq_some_iff.mp there).1
        have next : (before.calls.set index (old.answer result))[index]? = some call := found
        rw [List.getElem?_set_self inside] at next
        exact .answered old there waits result (Option.some.inj next).symm
      · exact .stayed ((List.getElem?_set_ne (Ne.symm same)).symm.trans found)
  | bring item => exact .stayed found

theorem origin_of_acted (acted : Acted before action after) (member : call ∈ after.calls) :
    Origin before after call := by
  cases acted with
  | move move _ moved => exact origin_of_moved moved member
  | reply index waiting result found waits => exact origin_of_receive found waits member
  | bring item => exact .stayed call member

/-- Whatever is in the store with a base handle is listed, or somebody brought it; what optimizations have
set is in their instances; and every handle has as many owners as it was issued or brought times. -/
structure Lodged (traffic : Traffic) (guests : List Instance) : Prop where
  accounted : traffic.Accounted
  based : ∀ entry item, traffic.shared.store.get? entry = some item → item.base.isSome →
    entry ∈ traffic.shared.pipeline.instances ∨ ∃ guest ∈ guests, guest.Evolves item
  calls : ∀ optimization, .optimize optimization ∈ traffic.calls →
    optimization.Grounded traffic.shared
  owned : ∀ handle, traffic.carried.count handle + traffic.stored.count handle +
    traffic.destroyed.count handle =
      traffic.issued.count handle + (guests.flatMap Instance.handles).count handle

theorem lodged_start (shaders : ShaderSet) (optimizes reports : Bool) :
    (start shaders optimizes reports).Lodged [] where
  accounted := accounted_start shaders optimizes reports
  based entry item present := by simp [start, Store.get?, Store.held?] at present
  calls := fun _ member => nomatch member
  owned _ := rfl

theorem Lodged.based_later (lodged : before.Lodged guests) (acted : Acted before action after)
    {entry : InstanceId} {item : Instance} (present : after.shared.store.get? entry = some item)
    (based : item.base.isSome) : entry ∈ after.shared.pipeline.instances ∨
      ∃ guest ∈ guests ++ action.guest?.toList, guest.Evolves item := by
  have grows := grows_acted lodged.accounted acted
  have old (inside : entry < before.shared.store.cells.length) :
      entry ∈ after.shared.pipeline.instances ∨
        ∃ guest ∈ guests ++ action.guest?.toList, guest.Evolves item := by
    obtain ⟨earlier, found, evolves⟩ := grows.store.earlier entry item inside present
    rw [evolves.base] at based
    refine (lodged.based entry earlier found based).imp (grows.listed.subset ·) ?_
    rintro ⟨guest, member, stems⟩
    exact ⟨guest, List.mem_append_left _ member, stems.trans evolves⟩
  cases acted with
  | move move _ moved =>
      exact (added_moved lodged.accounted moved present based).elim Or.inl old
  | reply _ _ _ _ _ => exact old (Store.lt_of_get? present)
  | bring guest =>
      have there : (before.shared.store.add guest).2.get? entry = some item := present
      rw [Store.get?_add] at there
      split at there
      · cases there
        exact Or.inr ⟨item, List.mem_append_right _ (List.mem_singleton_self _), .refl item⟩
      · exact old (Store.lt_of_get? there)

theorem Lodged.calls_later (lodged : before.Lodged guests) (acted : Acted before action after)
    {optimization : Optimization} (member : .optimize optimization ∈ after.calls) :
    optimization.Grounded after.shared := by
  generalize same : Call.optimize optimization = call at member
  cases origin_of_acted acted member with
  | stayed _ there =>
      subst same
      refine (lodged.calls _ there).later (grows_acted lodged.accounted acted) fun running => ?_
      apply (accounted_acted lodged.accounted acted).alive
      apply borrowed_subset_holdings member
      simp [Call.borrowed, running]
  | drawn state pass => cases same
  | optimized entry =>
      cases same
      trivial
  | stepped old there shared =>
      cases old with
      | draw current => cases same
      | optimize current =>
          cases same
          rw [shared]
          exact (lodged.calls current there).step
  | answered old there waits result shared =>
      rcases Call.position_of_waits waits with ⟨state, pass, parent, rfl⟩ | ⟨entry, parent, rfl⟩
      · cases result <;> cases same
      · cases result <;> cases same <;> trivial

theorem Lodged.owned_later (lodged : before.Lodged guests) (acted : Acted before action after)
    (handle : PipelineHandle) : after.carried.count handle + after.stored.count handle +
      after.destroyed.count handle = after.issued.count handle +
        ((guests ++ action.guest?.toList).flatMap Instance.handles).count handle := by
  have owned := lodged.owned handle
  cases acted with
  | move move _ moved =>
      have balanced := balances_moved lodged.accounted moved handle
      simp only [Action.guest?, Option.toList_none, List.append_nil]
      omega
  | reply index call result found waits =>
      have balanced := balances_receive found waits result handle
      simp only [Action.guest?, Option.toList_none, List.append_nil]
      omega
  | bring guest =>
      have stored : (before.bring guest).stored = before.stored ++ guest.handles :=
        Store.handles_add before.shared.store guest
      simp only [Action.guest?, Option.toList_some, List.flatMap_append, List.flatMap_singleton,
        List.count_append, stored]
      show before.carried.count handle + _ + before.destroyed.count handle =
        before.issued.count handle + _
      omega

theorem lodged_acted (lodged : before.Lodged guests) (acted : Acted before action after) :
    after.Lodged (guests ++ action.guest?.toList) where
  accounted := accounted_acted lodged.accounted acted
  based _ _ present based := lodged.based_later acted present based
  calls _ member := lodged.calls_later acted member
  owned := lodged.owned_later acted

theorem lodged_later (lodged : before.Lodged guests) (ran : before.enact? actions = some after) :
    after.Lodged (guests ++ actions.filterMap Action.guest?) := by
  induction actions generalizing before guests with
  | nil =>
      cases ran
      rwa [List.filterMap_nil, List.append_nil]
  | cons action actions ih =>
      obtain ⟨next, acted, rest⟩ := Run.final?_cons_eq_some_iff.mp ran
      have later := ih (lodged_acted lodged (acted_of_act? acted)) rest
      cases found : action.guest? <;> simpa [found] using later

/-- Only an optimization that offers what it has set changes the parent of optimizations. -/
theorem fastParent_changed (acted : Acted before action after)
    (changed : after.shared.pipeline.fastParent ≠ before.shared.pipeline.fastParent) :
    ∃ index entry handle, action = .move (.step index) ∧
      before.calls[index]? = some (.optimize ⟨entry, .offering handle⟩) ∧
      before.shared.pipeline.fastParent = none ∧ after.shared.pipeline.fastParent = some handle ∧
      after.shared.store = before.shared.store ∧
      after.shared.pipeline.instances = before.shared.pipeline.instances := by
  cases acted with
  | move move _ moved =>
      rcases parent_cases moved .optimized with
        same | ⟨index, call, handle, rfl, found, offered, none, became, shared⟩
      · exact absurd same changed
      · obtain ⟨entry, rfl⟩ := Call.offered?_optimized_eq_some offered
        obtain ⟨store, instances⟩ := Call.shared_step_offering entry handle before.shared
        rw [← shared] at store instances
        exact ⟨index, entry, handle, rfl, found, none, became, store, instances⟩
  | reply _ _ _ _ _ => exact absurd rfl changed
  | bring _ => exact absurd rfl changed

theorem grows_enacted (accounted : before.Accounted) (ran : before.enact? actions = some after) :
    after.Accounted ∧ before.shared.Grows after.shared := by
  refine Run.kept (motive := fun reached => reached.Accounted ∧ before.shared.Grows reached.shared) ?_
    ⟨accounted, .refl _⟩ ran
  rintro middle action next ⟨standing, grows⟩ possible
  have acted := acted_of_act? possible
  exact ⟨accounted_acted standing acted, grows.trans (grows_acted standing acted)⟩

theorem parent_acted (acted : Acted before action after)
    (parent : before.shared.pipeline.parent mode = some handle) :
    after.shared.pipeline.parent mode = some handle := by
  cases acted with
  | move move _ moved => exact parent_moved moved parent
  | reply _ _ _ _ _ => exact parent
  | bring _ => exact parent

theorem keepsParent_enacted (parent : before.shared.pipeline.parent mode = some handle)
    (ran : before.enact? actions = some after) : before.KeepsParent after mode handle := by
  have stays (index : Nat) (unread : before.ReadsOnly index mode handle) :
      after.shared.pipeline.parent mode = some handle ∧ after.ReadsOnly index mode handle := by
    refine Run.kept (motive := fun reached => reached.shared.pipeline.parent mode = some handle ∧
      reached.ReadsOnly index mode handle) ?_ ⟨parent, unread⟩ ran
    rintro earlier action later ⟨parent, reads⟩ possible
    have acted := acted_of_act? possible
    exact ⟨parent_acted acted parent,
      readsOnly_of_became parent reads fun _ found => became_of_acted acted found⟩
  exact keepsParent_of_readsOnly (stays _ (before.readsOnly_next mode handle)).1
    fun index unread => (stays index unread).2

theorem Lodged.not_destroyed (lodged : traffic.Lodged guests) {entry : InstanceId} {item : Instance}
    (fresh : (traffic.issued ++ guests.flatMap Instance.handles).Nodup)
    (present : traffic.shared.store.get? entry = some item) (member : handle ∈ item.handles) :
    handle ∉ traffic.destroyed := by
  refine not_destroyed_of_single ?_ present member
  rw [lodged.owned, ← List.count_append]
  exact List.nodup_iff_count_le_one.mp fresh handle

/-- In any surroundings, also where instances are brought with base handles of any kind: if something
changes the parent of later optimizations, it is an optimization that makes the handle which it has set in
its instance the first one. This instance is in the list, or somebody has brought it with a base handle.
If it is in the list, it stays there with its handle as long as the pipeline is there; the handle stays the
parent, which all optimizations that come to ask the device after this name; and it is not destroyed,
provided that no handle is issued or brought twice. -/
theorem first_parent_is_listed_or_brought {shaders : ShaderSet} {optimizes reports : Bool}
    (ran : (start shaders optimizes reports).enact? actions = some before)
    (acted : before.act? action = some after)
    (changed : after.shared.pipeline.fastParent ≠ before.shared.pipeline.fastParent) :
    ∃ index entry handle item, action = .move (.step index) ∧
      before.calls[index]? = some (.optimize ⟨entry, .offering handle⟩) ∧
      before.shared.pipeline.fastParent = none ∧ after.shared.pipeline.fastParent = some handle ∧
      after.shared.store.get? entry = some item ∧ item.fast = some handle ∧
      (entry ∈ after.shared.pipeline.instances ∨
        ∃ guest, .bring guest ∈ actions ∧ guest.base.isSome ∧ guest.Evolves item) ∧
      (entry ∈ after.shared.pipeline.instances → ∀ later final, after.enact? later = some final →
        after.KeepsParent final .optimized handle ∧
        (final.isOpen = true → entry ∈ final.shared.pipeline.instances ∧
          (∃ kept, final.shared.store.get? entry = some kept ∧ kept.fast = some handle) ∧
          ((final.issued ++ ((actions ++ action :: later).filterMap Action.guest?).flatMap
            Instance.handles).Nodup → handle ∉ final.destroyed))) := by
  have lodged := lodged_later (lodged_start shaders optimizes reports) ran
  rw [List.nil_append] at lodged
  have effective := acted_of_act? acted
  obtain ⟨index, entry, handle, rfl, found, none, became, store, instances⟩ :=
    fastParent_changed effective changed
  obtain ⟨item, present, set, listed⟩ := lodged.calls _ (List.mem_of_getElem? found)
  refine ⟨index, entry, handle, item, rfl, found, none, became, store ▸ present, set, ?_, ?_⟩
  · rw [instances]
    cases base : item.base with
    | none => exact Or.inl (listed base)
    | some given =>
        refine (lodged.based entry item present (by rw [base, Option.isSome_some])).imp_right ?_
        rintro ⟨guest, member, evolves⟩
        obtain ⟨action, among, brings⟩ := List.mem_filterMap.mp member
        cases action <;> cases brings
        exact ⟨guest, among, by rw [← evolves.base, base, Option.isSome_some], evolves⟩
  · intro member later final continued
    refine ⟨keepsParent_enacted became continued, fun isOpen => ?_⟩
    have there := lodged_acted lodged effective
    have last := lodged_later there continued
    obtain ⟨accounted, grows⟩ := grows_enacted there.accounted continued
    have stays := grows.listed.subset member
    obtain ⟨kept, still, evolves⟩ :=
      grows.store.later (store ▸ present) (accounted.listed isOpen stays)
    have had : kept.slot .optimized = some handle := evolves.slot set
    refine ⟨stays, ⟨kept, still, had⟩, fun fresh => ?_⟩
    refine last.not_destroyed ?_ still (Instance.mem_handles_of_slot had)
    simpa [List.filterMap_append, List.filterMap_cons, Action.guest?] using fresh

/-- An instance without a base handle is optimized, up to where its handle is to become the parent. -/
def prewarming (handle : PipelineHandle) : List Action :=
  [.move (.build {} ⟨1, {}⟩), .move (.optimize 0), .move (.step 0), .move (.step 0),
    .reply 0 (.ok handle), .move (.step 0), .move (.step 0), .move (.step 0)]

/-- The instance has been adopted, so its handle survives when nobody outside holds the instance. -/
theorem first_parent_is_listed_or_brought_prewarming : ∃ before after final,
    (start {} false false).enact? (prewarming ⟨3, by decide⟩) = some before ∧
    before.act? (.move (.step 0)) = some after ∧
    after.shared.pipeline.fastParent ≠ before.shared.pipeline.fastParent ∧
    after.enact? [.move (.drop 0)] = some final ∧
    final.shared.pipeline.fastParent = some ⟨3, by decide⟩ ∧ ⟨3, by decide⟩ ∉ final.destroyed := by
  have possible : ((start {} false false).enact? (prewarming ⟨3, by decide⟩)).any (fun before =>
      (before.act? (.move (.step 0))).any fun after =>
        decide (after.shared.pipeline.fastParent ≠ before.shared.pipeline.fastParent) &&
        (after.enact? [.move (.drop 0)]).any fun final => final.isOpen &&
          decide (final.shared.pipeline.fastParent = some ⟨3, by decide⟩ ∧ final.issued =
            [⟨3, by decide⟩])) = true := by decide +kernel
  simp only [Option.any_eq_true, Bool.and_eq_true, decide_eq_true_eq] at possible
  obtain ⟨before, ran, after, acted, changed, final, continued, isOpen, parent, single⟩ := possible
  refine ⟨before, after, final, ran, acted, changed, continued, parent, ?_⟩
  obtain ⟨index, entry, handle, item, _, _, _, _, _, _, place, kept⟩ :=
    first_parent_is_listed_or_brought ran acted changed
  obtain ⟨keeps, intact⟩ := kept (place.resolve_right (by simp [prewarming])) _ final continued
  obtain ⟨_, _, alive⟩ := intact isOpen
  obtain rfl : handle = ⟨3, by decide⟩ := Option.some.inj (keeps.parent.symm.trans parent)
  exact alive (by simp [single, prewarming, List.filterMap_cons, Action.guest?])

/-- Somebody brings an instance that has a base handle already, and has it optimized, up to where its handle
is to become the parent. -/
def intruding (base handle : PipelineHandle) : List Action :=
  [.bring { state := {}, pass := ⟨1, {}⟩, base := some base }, .move (.optimize 0), .move (.step 0),
    .move (.step 0), .reply 0 (.ok handle), .move (.step 0), .move (.step 0), .move (.step 0)]

/-- The instance is dropped, and then the pipeline optimizes an instance of its own. -/
def succeeding (base : PipelineHandle) : List Action :=
  [.move (.drop 0), .move (.draw {} ⟨1, {}⟩), .move (.step 1), .move (.step 1), .reply 1 (.ok base),
    .move (.step 1), .move (.share 1), .move (.optimize 1), .move (.step 2), .move (.step 2)]

/-- A parent that belongs to no listed instance is destroyed, and the device is asked to derive from it. -/
theorem derives_from_destroyed_parent : ∃ before after final call,
    (start {} false false).enact? (intruding ⟨77, by decide⟩ ⟨1, by decide⟩) = some before ∧
    before.act? (.move (.step 0)) = some after ∧
    after.shared.pipeline.fastParent ≠ before.shared.pipeline.fastParent ∧
    0 ∉ after.shared.pipeline.instances ∧
    after.enact? (succeeding ⟨2, by decide⟩) = some final ∧ final.isOpen = true ∧
    final.calls[2]? = some call ∧
    ((call.request? final.shared).bind CompileRequest.parent) = some ⟨1, by decide⟩ ∧
    ⟨1, by decide⟩ ∈ final.destroyed := by
  have possible : ((start {} false false).enact? (intruding ⟨77, by decide⟩ ⟨1, by decide⟩)).any
      (fun before => (before.act? (.move (.step 0))).any fun after =>
        decide (after.shared.pipeline.fastParent ≠ before.shared.pipeline.fastParent) &&
        (decide (0 ∉ after.shared.pipeline.instances) &&
        (after.enact? (succeeding ⟨2, by decide⟩)).any fun final => final.isOpen &&
          (final.calls[2]?.any fun call => decide ((call.request? final.shared).bind
              CompileRequest.parent = some ⟨1, by decide⟩) &&
            decide (⟨1, by decide⟩ ∈ final.destroyed)))) = true := by decide +kernel
  simp only [Option.any_eq_true, Bool.and_eq_true, decide_eq_true_eq] at possible
  obtain ⟨before, ran, after, acted, changed, outside, final, continued, isOpen, call, there, derives,
    gone⟩ := possible
  exact ⟨before, after, final, call, ran, acted, changed, outside, continued, isOpen, there, derives,
    gone⟩

end Traffic

end PipelineCache

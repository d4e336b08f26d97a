import PipelineCache.Proofs.Traffic.Holders

/-! One instance for each combination of state and format. The list of a pipeline only grows at its end;
no two of its instances serve the same combination, and each of them has a handle to draw with. The
instance that a draw has found or made stays in the list. -/

namespace PipelineCache

def Instance.combination (realized : Instance) : PipelineState × RenderPassFormat :=
  (realized.state, realized.pass.format)

theorem Instance.serves_iff {realized : Instance} {state : PipelineState}
    {format : RenderPassFormat} :
    realized.serves state format = true ↔ realized.combination = (state, format) := by
  simp [serves, combination, and_comm]

theorem Instance.Evolves.combination {before after : Instance} (evolves : before.Evolves after) :
    after.combination = before.combination := by
  simp [Instance.combination, evolves.state, evolves.pass]

namespace Shared

variable {shared before after : Shared} {state : PipelineState} {format : RenderPassFormat}
  {entry : InstanceId} {item : Instance}

def entries (shared : Shared) : List Instance :=
  shared.pipeline.instances.filterMap shared.store.get?

theorem mem_entries_iff : item ∈ shared.entries ↔
    ∃ entry ∈ shared.pipeline.instances, shared.store.get? entry = some item :=
  List.mem_filterMap

/-- An instance in the list of the pipeline that serves a state and a format. -/
structure Serving (shared : Shared) (state : PipelineState) (format : RenderPassFormat)
    (entry : InstanceId) (item : Instance) : Prop where
  member : entry ∈ shared.pipeline.instances
  present : shared.store.get? entry = some item
  combination : item.combination = (state, format)

theorem serving_of_find? (found : shared.find? state format = some entry) :
    ∃ item, shared.Serving state format entry item := by
  have member := List.mem_of_find?_eq_some found
  have holds := List.find?_some found
  cases present : shared.store.get? entry with
  | none => simp [present] at holds
  | some item =>
      simp only [present, Option.any_some] at holds
      exact ⟨item, member, present, Instance.serves_iff.mp holds⟩

theorem combination_ne_of_find? (absent : shared.find? state format = none)
    (member : entry ∈ shared.pipeline.instances) (present : shared.store.get? entry = some item) :
    item.combination ≠ (state, format) := by
  have refused := List.find?_eq_none.mp absent entry member
  simpa [present, Instance.serves_iff] using refused

/-- The list grows at its end, and the instances evolve. -/
structure Grows (before after : Shared) : Prop where
  listed : before.pipeline.instances <+: after.pipeline.instances
  store : before.store.Evolves after.store

theorem Grows.refl (shared : Shared) : shared.Grows shared := ⟨List.prefix_rfl, .refl _⟩

theorem Grows.trans {middle : Shared} (early : before.Grows middle) (late : middle.Grows after) :
    before.Grows after :=
  ⟨early.listed.trans late.listed, early.store.trans late.store⟩

theorem Serving.later (serving : before.Serving state format entry item) (grows : before.Grows after)
    (alive : ∀ entry ∈ after.pipeline.instances, ∃ item, after.store.get? entry = some item) :
    ∃ later, after.Serving state format entry later ∧ item.handles ⊆ later.handles := by
  have member := grows.listed.subset serving.member
  obtain ⟨later, present, evolves⟩ := grows.store.later serving.present (alive entry member)
  exact ⟨later, ⟨member, present, evolves.combination.trans serving.combination⟩,
    evolves.handles_subset⟩

/-- Two numbers do not stand for instances of one combination. -/
def Apart (shared : Shared) (first second : InstanceId) : Prop :=
  ∀ item other, shared.store.get? first = some item → shared.store.get? second = some other →
    item.combination ≠ other.combination

theorem Apart.later {first second : InstanceId} (apart : before.Apart first second)
    (store : before.store.Evolves after.store)
    (firstAlive : ∃ item, before.store.get? first = some item)
    (secondAlive : ∃ item, before.store.get? second = some item) : after.Apart first second := by
  intro item other present otherPresent
  obtain ⟨_, firstThere⟩ := firstAlive
  obtain ⟨_, secondThere⟩ := secondAlive
  obtain ⟨old, found, evolves⟩ := store.earlier first item (Store.lt_of_get? firstThere) present
  obtain ⟨otherOld, otherFound, otherEvolves⟩ :=
    store.earlier second other (Store.lt_of_get? secondThere) otherPresent
  rw [evolves.combination, otherEvolves.combination]
  exact apart old otherOld found otherFound

/-- No two listed instances serve one combination, and each has a handle to draw with. -/
structure Distinct (shared : Shared) : Prop where
  apart : shared.pipeline.instances.Pairwise shared.Apart
  handled : ∀ entry ∈ shared.pipeline.instances, ∀ item, shared.store.get? entry = some item →
    item.handle.isSome

theorem Distinct.later (distinct : before.Distinct) (store : before.store.Evolves after.store)
    (same : after.pipeline.instances = before.pipeline.instances)
    (alive : ∀ entry ∈ before.pipeline.instances, ∃ item, before.store.get? entry = some item) :
    after.Distinct where
  apart := by
    rw [same]
    exact distinct.apart.imp_of_mem fun member otherMember apart =>
      apart.later store (alive _ member) (alive _ otherMember)
  handled := by
    intro entry member item present
    rw [same] at member
    obtain ⟨_, there⟩ := alive entry member
    obtain ⟨old, found, evolves⟩ := store.earlier entry item (Store.lt_of_get? there) present
    exact evolves.handle_isSome (distinct.handled entry member old found)

/-- An instance may join the list if nothing listed serves its combination and it has a handle. -/
theorem Distinct.append (distinct : before.Distinct)
    (same : after.pipeline.instances = before.pipeline.instances ++ [entry])
    (kept : ∀ entry ∈ before.pipeline.instances,
      after.store.get? entry = before.store.get? entry)
    (present : after.store.get? entry = some item) (handled : item.handle.isSome)
    (absent : before.find? item.state item.pass.format = none) : after.Distinct where
  apart := by
    rw [same]
    refine List.pairwise_append.mpr ⟨?_, List.pairwise_singleton _ _, ?_⟩
    · apply distinct.apart.imp_of_mem
      intro old other member otherMember apart first second found otherFound
      rw [kept _ member] at found
      rw [kept _ otherMember] at otherFound
      exact apart first second found otherFound
    · intro other member newest only
      obtain rfl : newest = entry := by simpa using only
      intro first second found otherFound
      rw [kept _ member] at found
      obtain rfl : item = second := Option.some.inj (present.symm.trans otherFound)
      exact combination_ne_of_find? absent member found
  handled := by
    intro other member first found
    rw [same] at member
    rcases List.mem_append.mp member with old | newest
    · rw [kept other old] at found
      exact distinct.handled other old first found
    · obtain rfl : other = entry := by simpa using newest
      obtain rfl : item = first := Option.some.inj (present.symm.trans found)
      exact handled

theorem Distinct.nodup (distinct : shared.Distinct) :
    (shared.entries.map Instance.combination).Nodup := by
  refine List.pairwise_map.mpr (List.pairwise_filterMap.mpr ?_)
  exact distinct.apart.imp fun apart item found other otherFound =>
    apart item other found otherFound

end Shared

/-! ### What a call knows -/

/-- The instance that a draw has met is in the list and serves what is drawn, and the handle that the
draw returns is one of its handles. -/
def Draw.Founded (draw : Draw) (shared : Shared) : Prop :=
  match draw.position with
  | .reading entry => ∃ item, shared.Serving draw.state draw.pass.format entry item
  | .discarding _ entry => ∃ item, shared.Serving draw.state draw.pass.format entry item
  | .counting handle entry => ∃ item, shared.Serving draw.state draw.pass.format entry item ∧
      handle ∈ item.handles
  | .offering handle entry => ∃ item, shared.Serving draw.state draw.pass.format entry item ∧
      handle ∈ item.handles
  | .reporting handle entry => ∃ item, shared.Serving draw.state draw.pass.format entry item ∧
      handle ∈ item.handles
  | .queueing handle entry => ∃ item, shared.Serving draw.state draw.pass.format entry item ∧
      handle ∈ item.handles
  | .finished (some handle) => ∃ entry item,
      shared.Serving draw.state draw.pass.format entry item ∧ handle ∈ item.handles
  | _ => True

/-- Once an optimization has set a fast handle, its instance has one. -/
def Optimization.Founded (optimization : Optimization) (shared : Shared) : Prop :=
  match optimization.position with
  | .countingInstalled _ => ∃ item, shared.store.get? optimization.entry = some item ∧
      item.fast.isSome
  | .adopting _ => ∃ item, shared.store.get? optimization.entry = some item ∧ item.fast.isSome
  | _ => True

def Call.Founded (call : Call) (shared : Shared) : Prop :=
  match call with
  | .draw current => current.Founded shared
  | .optimize current => current.Founded shared

theorem Draw.Founded.later {draw : Draw} {before after : Shared} (founded : draw.Founded before)
    (grows : before.Grows after)
    (alive : ∀ entry ∈ after.pipeline.instances, ∃ item, after.store.get? entry = some item) :
    draw.Founded after := by
  obtain ⟨state, pass, position⟩ := draw
  have still (entry : InstanceId) (found : ∃ item, before.Serving state pass.format entry item) :
      ∃ item, after.Serving state pass.format entry item := by
    obtain ⟨item, serving⟩ := found
    obtain ⟨later, stays, _⟩ := serving.later grows alive
    exact ⟨later, stays⟩
  have owned (handle : PipelineHandle) (entry : InstanceId)
      (found : ∃ item, before.Serving state pass.format entry item ∧ handle ∈ item.handles) :
      ∃ item, after.Serving state pass.format entry item ∧ handle ∈ item.handles := by
    obtain ⟨item, serving, member⟩ := found
    obtain ⟨later, stays, subset⟩ := serving.later grows alive
    exact ⟨later, stays, subset member⟩
  cases position with
  | reading entry => exact still entry founded
  | discarding handle entry => exact still entry founded
  | counting handle entry => exact owned handle entry founded
  | offering handle entry => exact owned handle entry founded
  | reporting handle entry => exact owned handle entry founded
  | queueing handle entry => exact owned handle entry founded
  | finished result =>
      cases result with
      | none => trivial
      | some handle =>
          obtain ⟨entry, found⟩ := founded
          exact ⟨entry, owned handle entry found⟩
  | _ => trivial

theorem Optimization.Founded.later {optimization : Optimization} {before after : Shared}
    (founded : optimization.Founded before) (store : before.store.Evolves after.store)
    (alive : (Call.optimize optimization).isFinished = false →
      ∃ item, after.store.get? optimization.entry = some item) : optimization.Founded after := by
  obtain ⟨entry, position⟩ := optimization
  have still (running : (Call.optimize ⟨entry, position⟩).isFinished = false)
      (found : ∃ item, before.store.get? entry = some item ∧ item.fast.isSome) :
      ∃ item, after.store.get? entry = some item ∧ item.fast.isSome := by
    obtain ⟨item, present, fast⟩ := found
    obtain ⟨later, there, evolves⟩ := store.later present (alive running)
    exact ⟨later, there, by rwa [evolves.fast fast]⟩
  cases position with
  | countingInstalled handle => exact still rfl founded
  | adopting handle => exact still rfl founded
  | _ => trivial

/-! ### Steps -/

theorem Call.Effect.grows {call next : Call} {shared changed : Shared}
    {destroyed : List PipelineHandle} (effect : call.Effect shared next changed destroyed) :
    shared.Grows changed := by
  cases effect with
  | quiet store listed _ _ => exact ⟨listed ▸ List.prefix_rfl, store ▸ .refl _⟩
  | enlists state pass handle _ _ store listed _ _ =>
      exact ⟨listed ▸ List.prefix_append _ _, store ▸ Store.evolves_add _ _⟩
  | installs entry handle _ set listed _ _ =>
      exact ⟨listed ▸ List.prefix_rfl, Store.evolves_install set⟩
  | adopts entry handle item _ _ _ store listed _ _ =>
      exact ⟨listed ▸ List.prefix_append _ _, store ▸ Store.evolves_hold _ _⟩
  | discards handle store listed _ _ _ => exact ⟨listed ▸ List.prefix_rfl, store ▸ .refl _⟩

/-- A step keeps the combinations distinct: what joins the list serves a combination that nothing
in it served, and has a handle. -/
theorem Call.Effect.distinct {call next : Call} {shared changed : Shared}
    {destroyed : List PipelineHandle} (effect : call.Effect shared next changed destroyed)
    (distinct : shared.Distinct) (founded : call.Founded shared)
    (alive : ∀ entry ∈ shared.pipeline.instances, ∃ item, shared.store.get? entry = some item) :
    changed.Distinct := by
  cases effect with
  | quiet store listed _ _ => exact distinct.later (store ▸ .refl _) listed alive
  | enlists state pass handle _ absent store listed _ _ =>
      have joined := (shared.store.get?_add { state := state, pass := pass, base := some handle }
        _).trans (if_pos rfl)
      rw [← store] at joined
      refine distinct.append listed (fun entry member => ?_) joined rfl absent
      -- Numbers are given upwards, so no listed instance has the new one.
      obtain ⟨item, present⟩ := alive entry member
      have old : entry ≠ (shared.store.add
          { state := state, pass := pass, base := some handle }).1 :=
        Nat.ne_of_lt (Store.lt_of_get? present)
      rw [store, Store.get?_add, if_neg old]
  | installs entry handle _ set listed _ _ =>
      exact distinct.later (Store.evolves_install set) listed alive
  | adopts entry handle item position present absent store listed _ _ =>
      obtain rfl : call = .optimize ⟨entry, .adopting handle⟩ := position
      -- Adoption comes after the fast handle is set, so what joins the list has a handle.
      obtain ⟨same, there, fast⟩ := founded
      obtain rfl : item = same := Option.some.inj (present.symm.trans there)
      refine distinct.append listed (fun entry _ => ?_) ?_ ?_ absent
      · rw [store, Store.get?_hold]
      · rw [store, Store.get?_hold, present]
      · rw [Instance.handle, Option.isSome_or, fast, Bool.true_or]
  | discards handle store listed _ _ _ => exact distinct.later (store ▸ .refl _) listed alive

theorem Draw.founded_step {draw : Draw} {shared : Shared} (founded : draw.Founded shared) :
    (draw.step shared).1.Founded (draw.step shared).2.1 := by
  obtain ⟨state, pass, position⟩ := draw
  cases position with
  | scanning =>
      simp only [step]
      split
      · rename_i entry found
        exact Shared.serving_of_find? found
      · trivial
  | reading entry =>
      obtain ⟨item, serving⟩ := founded
      simp only [step, serving.present, Option.bind_some]
      cases drawn : item.handle with
      | none => trivial
      | some handle => exact ⟨entry, item, serving, Instance.mem_handles_of_handle drawn⟩
  | preparing =>
      simp only [step]
      split <;> trivial
  | compiling parent => trivial
  | failing error => trivial
  | enlisting handle =>
      simp only [step]
      split
      · rename_i entry found
        exact Shared.serving_of_find? found
      · refine ⟨{ state := state, pass := pass, base := some handle }, ⟨?_, ?_, rfl⟩, ?_⟩
        · exact List.mem_append_right _ (List.mem_singleton.mpr rfl)
        · exact (Store.get?_add ..).trans (if_pos rfl)
        · simp [Instance.handles]
  | discarding handle entry =>
      obtain ⟨item, serving⟩ := founded
      exact ⟨item, serving.member, serving.present, serving.combination⟩
  | counting handle entry =>
      obtain ⟨item, serving, member⟩ := founded
      exact ⟨item, ⟨serving.member, serving.present, serving.combination⟩, member⟩
  | offering handle entry =>
      obtain ⟨item, serving, member⟩ := founded
      exact ⟨item, ⟨serving.member, serving.present, serving.combination⟩, member⟩
  | reporting handle entry =>
      obtain ⟨item, serving, member⟩ := founded
      exact ⟨item, ⟨serving.member, serving.present, serving.combination⟩, member⟩
  | queueing handle entry =>
      obtain ⟨item, serving, member⟩ := founded
      exact ⟨entry, item, ⟨serving.member, serving.present, serving.combination⟩, member⟩
  | finished result => exact founded

theorem Optimization.founded_step {optimization : Optimization} {shared : Shared}
    (founded : optimization.Founded shared) :
    (optimization.step shared).1.Founded (optimization.step shared).2.1 := by
  obtain ⟨entry, position⟩ := optimization
  cases there : shared.store.get? entry with
  | none =>
      simp only [step, there]
      trivial
  | some item =>
      cases position with
      | checking =>
          simp only [step, there]
          split <;> trivial
      | preparing =>
          simp only [step, there]
          split <;> trivial
      | installing handle =>
          simp only [step, there]
          split
          · rename_i store set
            obtain ⟨installed, present, had⟩ := Store.fast_of_install set
            exact ⟨installed, present, by rw [had, Option.isSome_some]⟩
          · trivial
      | countingInstalled handle =>
          simp only [step, there]
          exact founded
      | adopting handle =>
          simp only [step, there, moveTo]
          split <;> trivial
      | finished result =>
          simp only [step, there]
          trivial
      | _ =>
          simp only [step, there]
          trivial

theorem Call.founded_step {call : Call} {shared : Shared} (founded : call.Founded shared) :
    (call.step shared).1.Founded (call.step shared).2.1 := by
  cases call with
  | draw current => exact current.founded_step founded
  | optimize current => exact current.founded_step founded

theorem Call.founded_answer {shared : Shared} (call : Call) (waits : (call.request? shared).isSome)
    (result : Except CacheError PipelineHandle) : (call.answer result).Founded shared := by
  rcases position_of_waits waits with ⟨state, pass, parent, rfl⟩ | ⟨entry, parent, rfl⟩ <;>
    cases result <;> trivial

namespace Traffic

variable {before after traffic : Traffic} {move : Move} {moves : List Move} {index : Nat} {call : Call}

/-- As long as the pipeline is there, its combinations are distinct and every call is right about
the instance that it has met. -/
structure Settled (traffic : Traffic) : Prop where
  distinct : traffic.shared.Distinct
  founded : ∀ call ∈ traffic.calls, call.Founded traffic.shared

theorem grows_moved (accounted : before.Accounted) (moved : Moved before move after) :
    before.shared.Grows after.shared := by
  cases moved with
  | draw state pass _ => exact .refl _
  | optimize entry _ _ => exact .refl _
  | step index call found running =>
      exact (call.effect_step before.shared running (accounted.borrowed found)).grows
  | answer index call result _ _ _ => exact .refl _
  | build state pass => exact ⟨List.prefix_rfl, Store.evolves_add _ _⟩
  | share entry _ _ => exact ⟨List.prefix_rfl, Store.evolves_hold _ _⟩
  | drop entry _ => exact ⟨List.prefix_rfl, Store.evolves_release _ _⟩
  | offer entry handle _ _ _ =>
      unfold offer
      split
      · rename_i store set
        exact ⟨List.prefix_rfl, Store.evolves_install set⟩
      · exact .refl _
  | close _ _ => exact ⟨List.prefix_rfl, Store.evolves_releaseAll _ _⟩

theorem grows_run (accounted : before.Accounted) (ran : before.run? moves = some after) :
    before.shared.Grows after.shared := by
  have keeps (middle : Traffic) (move : Move) (next : Traffic) (kept : middle.Accounted)
      (grows : before.shared.Grows middle.shared) (moved : Moved middle move next) :
      before.shared.Grows next.shared :=
    grows.trans (grows_moved kept moved)
  exact (kept_run keeps accounted (.refl _) ran).2

theorem borrowed_subset_holdings (member : call ∈ traffic.calls) :
    call.borrowed ⊆ traffic.holdings := by
  intro entry borrowed
  apply List.mem_append_right
  apply List.mem_append_left
  exact List.mem_flatMap.mpr ⟨call, member, borrowed⟩

/-- What a call knows stays right while others act. -/
theorem founded_later (settled : before.Settled) (grows : before.shared.Grows after.shared)
    (accounted : after.Accounted) (isOpen : after.isOpen = true) (member : call ∈ before.calls)
    (stays : call ∈ after.calls) : call.Founded after.shared := by
  cases call with
  | draw current =>
      exact Draw.Founded.later (settled.founded _ member) grows
        fun entry listed => accounted.listed isOpen listed
  | optimize current =>
      refine Optimization.Founded.later (settled.founded _ member) grows.store fun running => ?_
      apply accounted.alive
      apply borrowed_subset_holdings stays
      simp [Call.borrowed, running]

theorem settled_start (shaders : ShaderSet) (optimizes reports : Bool) :
    (start shaders optimizes reports).Settled where
  distinct := ⟨List.Pairwise.nil, fun _ member => nomatch member⟩
  founded _ member := nomatch member

theorem distinct_moved (accounted : before.Accounted) (settled : before.Settled)
    (isOpen : before.isOpen = true) (moved : Moved before move after) : after.shared.Distinct := by
  have alive (entry : InstanceId) (member : entry ∈ before.shared.pipeline.instances) :=
    accounted.listed isOpen member
  have grows := grows_moved accounted moved
  cases moved with
  | step index call found running =>
      exact (call.effect_step before.shared running (accounted.borrowed found)).distinct
        settled.distinct (settled.founded call (List.mem_of_getElem? found)) alive
  | offer entry handle _ _ _ =>
      refine settled.distinct.later grows.store ?_ alive
      unfold offer
      split <;> rfl
  | _ => exact settled.distinct.later grows.store rfl alive

theorem settled_moved (accounted : before.Accounted) (settled : before.Settled)
    (isOpen : before.isOpen = true) (stillOpen : after.isOpen = true)
    (moved : Moved before move after) : after.Settled := by
  have grows := grows_moved accounted moved
  have later := accounted_moved accounted moved
  refine ⟨distinct_moved accounted settled isOpen moved, fun call member => ?_⟩
  -- The call that acts is right by its own step, the others because the instances only evolve.
  cases origin_of_moved moved member with
  | stayed call there => exact founded_later settled grows later stillOpen there member
  | drawn state pass => trivial
  | optimized entry => trivial
  | stepped old there shared =>
      rw [shared]
      exact Call.founded_step (settled.founded old there)
  | answered old there waits result shared =>
      rw [shared]
      exact old.founded_answer waits result

theorem isOpen_of_moved (moved : Moved before move after) (isOpen : after.isOpen = true) :
    before.isOpen = true := by
  cases moved with
  | offer entry handle _ _ _ =>
      unfold offer at isOpen
      split at isOpen <;> exact isOpen
  | close _ _ => cases isOpen
  | _ => exact isOpen

theorem settled_run {shaders : ShaderSet} {optimizes reports : Bool}
    (ran : (start shaders optimizes reports).run? moves = some traffic)
    (isOpen : traffic.isOpen = true) : traffic.Settled := by
  -- Once the pipeline has gone its list is stale, so what is kept is kept only while it is open.
  have keeps (middle : Traffic) (move : Move) (next : Traffic) (accounted : middle.Accounted)
      (settled : middle.isOpen = true → middle.Settled) (moved : Moved middle move next)
      (stillOpen : next.isOpen = true) : next.Settled := by
    have wasOpen := isOpen_of_moved moved stillOpen
    exact settled_moved accounted (settled wasOpen) wasOpen stillOpen moved
  exact (kept_run keeps (accounted_start shaders optimizes reports)
    (fun _ => settled_start shaders optimizes reports) ran).2 isOpen

end Traffic

end PipelineCache

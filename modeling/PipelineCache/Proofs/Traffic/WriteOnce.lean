import PipelineCache.Proofs.Traffic.Attempts
import PipelineCache.Proofs.Traffic.Outcomes
import PipelineCache.Proofs.Traffic.Ownership

/-! Handles are written once. What is stored for a state and a format goes from nothing to a base handle
and then to a fast one, or at once to a fast one, and stays there. A draw returns one of these two
handles, and once a draw has returned the fast one, every draw that begins later returns it as well.
Neither is destroyed while the pipeline is there. -/

namespace PipelineCache

theorem Store.handles_sublist {store : Store} {entry : InstanceId} {item : Instance}
    (present : store.get? entry = some item) : item.handles.Sublist store.handles := by
  obtain ⟨held, found, rfl⟩ := get?_eq_some_iff.mp present
  have inside := lt_of_held? found
  have cell := List.mem_of_getElem (cells_getElem_of_held? found inside)
  rw [handles_eq_flatMap]
  exact List.sublist_flatten_of_mem (List.mem_map_of_mem cell)

namespace Shared

variable {shared before after : Shared} {state : PipelineState} {format : RenderPassFormat}
  {entry other : InstanceId} {item rival : Instance} {handle : PipelineHandle}

/-- The instance in the list that serves a state and a format. -/
def serving? (shared : Shared) (state : PipelineState) (format : RenderPassFormat) :
    Option Instance :=
  (shared.find? state format).bind shared.store.get?

def base? (shared : Shared) (state : PipelineState) (format : RenderPassFormat) :
    Option PipelineHandle :=
  (shared.serving? state format).bind Instance.base

def fast? (shared : Shared) (state : PipelineState) (format : RenderPassFormat) :
    Option PipelineHandle :=
  (shared.serving? state format).bind Instance.fast

/-- The handle stored for a state and a format. -/
def stored? (shared : Shared) (state : PipelineState) (format : RenderPassFormat) :
    Option PipelineHandle :=
  (shared.serving? state format).bind Instance.handle

theorem Distinct.unique (distinct : shared.Distinct)
    (first : shared.Serving state format entry item)
    (second : shared.Serving state format other rival) : rival = item := by
  have combination := second.combination.trans first.combination.symm
  have member := mem_entries_iff.mpr ⟨entry, first.member, first.present⟩
  have otherMember := mem_entries_iff.mpr ⟨other, second.member, second.present⟩
  exact List.inj_on_of_nodup_map distinct.nodup otherMember member combination

theorem serving_of_serving? (found : shared.serving? state format = some item) :
    ∃ entry, shared.Serving state format entry item := by
  obtain ⟨entry, first, present⟩ := Option.bind_eq_some_iff.mp found
  obtain ⟨same, serving⟩ := serving_of_find? first
  obtain rfl : item = same := Option.some.inj (present.symm.trans serving.present)
  exact ⟨entry, serving⟩

theorem Serving.isSome_find? (serving : shared.Serving state format entry item) :
    ∃ first, shared.find? state format = some first := by
  cases found : shared.find? state format with
  | some first => exact ⟨first, rfl⟩
  | none =>
      have refused := combination_ne_of_find? found serving.member serving.present
      exact absurd serving.combination refused

theorem Serving.found (serving : shared.Serving state format entry item)
    (distinct : shared.Distinct) : shared.serving? state format = some item := by
  obtain ⟨other, found⟩ := serving.isSome_find?
  obtain ⟨rival, first⟩ := serving_of_find? found
  rw [serving?, found, Option.bind_some, first.present, distinct.unique serving first]

/-- The instance that serves a combination has taken an optimized handle. -/
structure Optimized (shared : Shared) (state : PipelineState) (format : RenderPassFormat)
    (handle : PipelineHandle) (entry : InstanceId) (item : Instance) : Prop
    extends shared.Serving state format entry item where
  fast : item.fast = some handle

theorem Optimized.later (optimized : before.Optimized state format handle entry item)
    (grows : before.Grows after)
    (alive : ∀ entry ∈ after.pipeline.instances, ∃ item, after.store.get? entry = some item) :
    ∃ later, after.Optimized state format handle entry later := by
  have member := grows.listed.subset optimized.member
  obtain ⟨later, present, evolves⟩ := grows.store.later optimized.present (alive entry member)
  have kept := evolves.fast (by rw [optimized.fast]; rfl)
  exact ⟨later, ⟨member, present, evolves.combination.trans optimized.combination⟩,
    kept.trans optimized.fast⟩

end Shared

/-! ### What is stored for a combination -/

/-- What may become of the instance that serves a combination: it appears with one handle, and then
evolves. -/
inductive Instance.Follows : Option Instance → Option Instance → Prop
  | absent : Follows none none
  | created (item : Instance) (base : item.base.isSome) (fast : item.fast = none) :
      Follows none (some item)
  | adopted (item : Instance) (base : item.base = none) (fast : item.fast.isSome) :
      Follows none (some item)
  | stays (item later : Instance) (evolves : item.Evolves later) : Follows (some item) (some later)

/-- First nothing, then the base handle if there is one, and then the fast one if there is one. -/
def WrittenOnce (values : List (Option PipelineHandle)) (base fast : Option PipelineHandle) : Prop :=
  ∃ absent early late, values = List.replicate absent none ++
      (List.replicate early base ++ List.replicate late fast) ∧
    (base = none → early = 0) ∧ (fast = none → late = 0)

namespace WrittenOnce

variable {values : List (Option PipelineHandle)} {base fast : Option PipelineHandle}

theorem stores_nothing (written : WrittenOnce values none none) : WrittenOnce (values ++ [none]) none none := by
  obtain ⟨absent, early, late, rfl, noBase, noFast⟩ := written
  obtain rfl := noBase rfl
  obtain rfl := noFast rfl
  exact ⟨absent + 1, 0, 0, by simp [List.replicate_succ'], fun _ => rfl, fun _ => rfl⟩

theorem stores_base (written : WrittenOnce values base none) (present : base.isSome) :
    WrittenOnce (values ++ [base]) base none := by
  obtain ⟨absent, early, late, rfl, noBase, noFast⟩ := written
  obtain rfl := noFast rfl
  refine ⟨absent, early + 1, 0, by simp [List.replicate_succ'], fun missing => ?_, fun _ => rfl⟩
  rw [missing] at present
  cases present

theorem stores_fast (written : WrittenOnce values base fast) (present : fast.isSome) :
    WrittenOnce (values ++ [fast]) base fast := by
  obtain ⟨absent, early, late, rfl, noBase, noFast⟩ := written
  refine ⟨absent, early, late + 1, by simp [List.replicate_succ'], noBase, fun missing => ?_⟩
  rw [missing] at present
  cases present

/-- Of a handle that was never stored it does not matter which one it is. -/
theorem withBase (written : WrittenOnce values none fast) (base : Option PipelineHandle) :
    WrittenOnce values base fast := by
  obtain ⟨absent, early, late, rfl, noBase, noFast⟩ := written
  obtain rfl := noBase rfl
  exact ⟨absent, 0, late, rfl, fun _ => rfl, noFast⟩

theorem withFast (written : WrittenOnce values base none) (fast : Option PipelineHandle) :
    WrittenOnce values base fast := by
  obtain ⟨absent, early, late, rfl, noBase, noFast⟩ := written
  obtain rfl := noFast rfl
  exact ⟨absent, early, 0, rfl, noBase, fun _ => rfl⟩

/-- One more value, as the instance follows the earlier one. -/
theorem followed {before after : Option Instance}
    (written : WrittenOnce values (before.bind Instance.base) (before.bind Instance.fast))
    (follows : Instance.Follows before after) (handled : ∀ item ∈ after, item.handle.isSome) :
    WrittenOnce (values ++ [after.bind Instance.handle]) (after.bind Instance.base)
      (after.bind Instance.fast) := by
  cases follows with
  | absent => exact written.stores_nothing
  | created item present unset =>
      have stored : item.handle = item.base := by rw [Instance.handle, unset, Option.none_or]
      simp only [Option.bind_some, stored, unset]
      exact (written.withBase item.base).stores_base present
  | adopted item missing present =>
      have stored : item.handle = item.fast := by
        rw [Instance.handle, Option.or_of_isSome present]
      simp only [Option.bind_some, stored, missing]
      exact (written.withFast item.fast).stores_fast present
  | stays item later evolves =>
      simp only [Option.bind_some, ← evolves.base] at written ⊢
      cases set : later.fast with
      | some handle =>
          have stored : later.handle = some handle := by rw [Instance.handle, set, Option.some_or]
          rw [stored]
          refine stores_fast ?_ rfl
          cases had : item.fast with
          | none =>
              rw [had] at written
              exact written.withFast _
          | some old =>
              have kept := evolves.fast (by rw [had]; rfl)
              rwa [← kept, set] at written
      | none =>
          have unset : item.fast = none := by
            by_contra present
            have kept := evolves.fast (Option.isSome_iff_ne_none.mpr present)
            exact present (kept.symm.trans set)
          have stored : later.handle = later.base := by rw [Instance.handle, set, Option.none_or]
          rw [stored]
          rw [unset] at written
          exact written.stores_base (stored ▸ handled later rfl)

end WrittenOnce

namespace Draw

theorem moves_step (draw : Draw) (shared : Shared) :
    ∃ position, (draw.step shared).1 = draw.moveTo position := by
  obtain ⟨state, pass, position⟩ := draw
  cases position with
  | scanning =>
      simp only [step]
      split <;> exact ⟨_, rfl⟩
  | preparing =>
      simp only [step]
      split <;> exact ⟨_, rfl⟩
  | enlisting handle =>
      simp only [step]
      split <;> exact ⟨_, rfl⟩
  | _ => exact ⟨_, rfl⟩

theorem moves_answer (draw : Draw) (result : Except CacheError PipelineHandle) :
    ∃ position, draw.answer result = draw.moveTo position := by
  obtain ⟨state, pass, position⟩ := draw
  cases position <;> cases result <;> exact ⟨_, rfl⟩

end Draw

/-- An instance is adopted only if it has no base handle. -/
theorem Optimization.base_of_adopts {entry : InstanceId} {handle : PipelineHandle} {shared : Shared}
    {item : Instance} (present : shared.store.get? entry = some item)
    (listed : (step ⟨entry, .adopting handle⟩ shared).2.1.pipeline.instances =
      shared.pipeline.instances ++ [entry]) : item.base = none := by
  simp only [step, present, adoption] at listed
  split at listed
  · exact absurd (List.self_eq_append_right.mp listed) (List.cons_ne_nil _ _)
  · rename_i baseless
    exact Option.not_isSome_iff_eq_none.mp baseless

namespace Traffic

variable {start before middle after traffic : Traffic} {moves : List Move} {move : Move} {index : Nat}
  {state : PipelineState} {format : RenderPassFormat} {pass : RenderPass} {entry : InstanceId}
  {item : Instance} {handle : PipelineHandle}

/-- What joins the list was created with a base handle alone, or adopted with a fast one alone. -/
theorem joins_moved (accounted : before.Accounted) (settled : before.Settled)
    (moved : Moved before move after) (listed : entry ∈ after.shared.pipeline.instances)
    (present : after.shared.store.get? entry = some item) :
    entry ∈ before.shared.pipeline.instances ∨ (item.base.isSome ∧ item.fast = none) ∨
      (item.base = none ∧ item.fast.isSome) := by
  cases moved with
  | step index call found running =>
      have effect := call.effect_step before.shared running (accounted.borrowed found)
      have founded := settled.founded call (List.mem_of_getElem? found)
      rw [shared_advance] at listed present
      cases effect with
      | enlists state pass handle _ _ store joined _ _ =>
          rw [joined] at listed
          refine (List.mem_append.mp listed).imp_right fun newest => Or.inl ?_
          rw [store, Store.get?_add, if_pos (List.mem_singleton.mp newest)] at present
          cases present
          exact ⟨rfl, rfl⟩
      | adopts target handle adopted position there _ store joined _ _ =>
          subst position
          have baseless := Optimization.base_of_adopts there joined
          obtain ⟨founder, held, fast⟩ := founded
          obtain rfl : adopted = founder := Option.some.inj (there.symm.trans held)
          rw [joined] at listed
          refine (List.mem_append.mp listed).imp_right fun newest => Or.inr ?_
          rw [store, Store.get?_hold, List.mem_singleton.mp newest, there] at present
          cases present
          exact ⟨baseless, fast⟩
      | quiet _ same _ _ => exact Or.inl (same ▸ listed)
      | installs _ _ _ _ same _ _ => exact Or.inl (same ▸ listed)
      | discards _ _ same _ _ _ => exact Or.inl (same ▸ listed)
  | offer entry handle _ _ _ =>
      refine Or.inl ?_
      unfold offer at listed
      split at listed <;> exact listed
  | _ => exact Or.inl listed

/-- A move lets the instance of a combination appear or evolve, and never disappear. -/
theorem follows_moved (accounted : before.Accounted) (settled : before.Settled)
    (isOpen : after.isOpen = true) (moved : Moved before move after) (state : PipelineState)
    (format : RenderPassFormat) : Instance.Follows (before.shared.serving? state format)
      (after.shared.serving? state format) := by
  have later := accounted_moved accounted moved
  have grows := grows_moved accounted moved
  have wasOpen := isOpen_of_moved moved isOpen
  have settles := settled_moved accounted settled wasOpen isOpen moved
  cases had : before.shared.serving? state format with
  | some item =>
      obtain ⟨entry, serving⟩ := Shared.serving_of_serving? had
      have member := grows.listed.subset serving.member
      obtain ⟨grown, present, evolves⟩ :=
        grows.store.later serving.present (later.listed isOpen member)
      have still : after.shared.Serving state format entry grown :=
        ⟨member, present, evolves.combination.trans serving.combination⟩
      rw [still.found settles.distinct]
      exact .stays item grown evolves
  | none =>
      cases has : after.shared.serving? state format with
      | none => exact .absent
      | some item =>
          obtain ⟨entry, serving⟩ := Shared.serving_of_serving? has
          rcases joins_moved accounted settled moved serving.member serving.present with
            listed | ⟨base, fast⟩ | ⟨base, fast⟩
          -- An instance that was in the list before served the combination before.
          · obtain ⟨old, there⟩ := accounted.listed wasOpen listed
            obtain ⟨grown, present, evolves⟩ := grows.store.later there ⟨item, serving.present⟩
            obtain rfl : item = grown := Option.some.inj (serving.present.symm.trans present)
            have served : before.shared.Serving state format entry old :=
              ⟨listed, there, evolves.combination.symm.trans serving.combination⟩
            rw [served.found settled.distinct] at had
            cases had
          · exact .created item base fast
          · exact .adopted item base fast

/-- The handles stored for a combination at the start of a run and after each of its moves. -/
def values (start : Traffic) (moves : List Move) (state : PipelineState)
    (format : RenderPassFormat) : List (Option PipelineHandle) :=
  start.shared.stored? state format ::
    (Run.trace move? start moves).map fun (_, _, after) => after.shared.stored? state format

theorem written_run {shaders : ShaderSet} {optimizes reports : Bool}
    (ran : (Traffic.start shaders optimizes reports).run? moves = some traffic)
    (isOpen : traffic.isOpen = true) (state : PipelineState) (format : RenderPassFormat) :
    WrittenOnce ((Traffic.start shaders optimizes reports).values moves state format)
      (traffic.shared.base? state format) (traffic.shared.fast? state format) := by
  induction moves using List.reverseRecOn generalizing traffic with
  | nil =>
      cases ran
      exact ⟨1, 0, 0, rfl, fun _ => rfl, fun _ => rfl⟩
  | append_singleton moves move ih =>
      obtain ⟨before, earlier, last⟩ := Run.final?_append_eq_some_iff.mp ran
      obtain ⟨next, possible, done⟩ := Run.final?_cons_eq_some_iff.mp last
      obtain rfl : next = traffic := Option.some.inj done
      have moved := moved_of_move? possible
      have wasOpen := isOpen_of_moved moved isOpen
      have follows := follows_moved (accounted_run earlier) (settled_run earlier wasOpen) isOpen
        moved state format
      rw [values, Run.trace_append_singleton earlier possible, List.map_append, ← List.cons_append]
      refine (ih earlier wasOpen).followed follows fun item found => ?_
      obtain ⟨entry, serving⟩ := Shared.serving_of_serving? (Option.mem_def.mp found)
      exact (settled_run ran isOpen).distinct.handled entry serving.member item serving.present

/-! ### Stored handles stay -/

theorem stored_nodup (conserved : traffic.Conserved) : traffic.stored.Nodup := by
  apply List.nodup_iff_count_le_one.mpr
  intro handle
  have owned := conserved.owned handle
  have fresh := List.nodup_iff_count_le_one.mp conserved.fresh handle
  omega

/-- What a live instance holds is not destroyed, if it has only one owner. -/
theorem not_destroyed_of_single (single : traffic.carried.count handle + traffic.stored.count handle +
      traffic.destroyed.count handle ≤ 1)
    (present : traffic.shared.store.get? entry = some item) (member : handle ∈ item.handles) :
    handle ∉ traffic.destroyed := by
  have stored : 0 < traffic.stored.count handle :=
    List.count_pos_iff.mpr ((Store.handles_sublist present).subset member)
  apply List.count_eq_zero.mp
  omega

theorem not_destroyed (conserved : traffic.Conserved)
    (present : traffic.shared.store.get? entry = some item) (member : handle ∈ item.handles) :
    handle ∉ traffic.destroyed := by
  refine not_destroyed_of_single ?_ present member
  rw [conserved.owned]
  exact List.nodup_iff_count_le_one.mp conserved.fresh handle

theorem base_ne_fast (conserved : traffic.Conserved)
    (present : traffic.shared.store.get? entry = some item) (base : item.base = some handle) :
    item.fast ≠ some handle := by
  intro fast
  have distinct := (Store.handles_sublist present).nodup (stored_nodup conserved)
  simp [Instance.handles, base, fast] at distinct

/-! ### Draws that begin later -/

/-- How a call came to be what it is after a move. -/
inductive Became (before : Traffic) (index : Nat) (call : Call) : Prop
  | stayed (found : before.calls[index]? = some call)
  | began (newest : index = before.calls.length) (fresh : (∃ state pass,
      call = .draw { state := state, pass := pass }) ∨ ∃ entry, call = .optimize { entry := entry })
  | stepped (old : Call) (found : before.calls[index]? = some old)
      (next : call = (old.step before.shared).1)
  | answered (old : Call) (found : before.calls[index]? = some old)
      (waits : (old.request? before.shared).isSome) (result : Except CacheError PipelineHandle)
      (next : call = old.answer result)

theorem became_of_moved {call : Call} (moved : Moved before move after)
    (found : after.calls[index]? = some call) : Became before index call := by
  have joined (first : Call) (among : (before.calls ++ [first])[index]? = some call) :
      before.calls[index]? = some call ∨ (index = before.calls.length ∧ call = first) := by
    grind
  have exchanged (target : Nat) (next : Call)
      (among : (before.calls.set target next)[index]? = some call) :
      before.calls[index]? = some call ∨ (index = target ∧ call = next) := by
    grind
  cases moved with
  | draw state pass _ =>
      rcases joined _ found with there | ⟨newest, rfl⟩
      · exact .stayed there
      · exact .began newest (Or.inl ⟨state, pass, rfl⟩)
  | optimize entry _ _ =>
      rcases joined _ found with there | ⟨newest, rfl⟩
      · exact .stayed there
      · exact .began newest (Or.inr ⟨entry, rfl⟩)
  | step target old there _ =>
      rcases exchanged target _ found with same | ⟨rfl, rfl⟩
      · exact .stayed same
      · exact .stepped old there rfl
  | answer target old result there waits _ =>
      rcases exchanged target _ found with same | ⟨rfl, rfl⟩
      · exact .stayed same
      · exact .answered old there waits result rfl
  | offer entry handle _ _ _ =>
      refine .stayed ?_
      unfold offer at found
      split at found <;> exact found
  | _ => exact .stayed found

/-- A draw that finds its instance at the first look, and returns a certain handle of it. -/
def Quick (draw : Draw) (handle : PipelineHandle) : Prop :=
  draw.position = .scanning ∨ (∃ entry, draw.position = .reading entry) ∨
    draw.position = .finished (some handle)

theorem quick_step {draw : Draw} {shared : Shared} (distinct : shared.Distinct)
    (optimized : shared.Optimized draw.state draw.pass.format handle entry item)
    (founded : draw.Founded shared) (quick : Quick draw handle) :
    Quick (draw.step shared).1 handle := by
  obtain ⟨state, pass, position⟩ := draw
  rcases quick with scanning | ⟨met, reading⟩ | finished
  · obtain rfl : position = .scanning := scanning
    obtain ⟨first, found⟩ := optimized.isSome_find?
    simp only [Draw.step, found]
    exact Or.inr (Or.inl ⟨first, rfl⟩)
  · obtain rfl : position = .reading met := reading
    obtain ⟨rival, serving⟩ := founded
    obtain rfl : rival = item := distinct.unique optimized.toServing serving
    simp only [Draw.step, serving.present, Option.bind_some, Instance.handle, optimized.fast,
      Option.some_or]
    exact Or.inr (Or.inr rfl)
  · obtain rfl : position = .finished (some handle) := finished
    exact Or.inr (Or.inr rfl)

theorem not_waiting_of_quick {draw : Draw} (quick : Quick draw handle) (shared : Shared) :
    draw.request? shared = none := by
  rcases quick with position | ⟨_, position⟩ | position <;> simp [Draw.request?, position]

/-- A combination has its optimized handle, and the draws from some number on that draw it are quick. -/
structure Swift (traffic : Traffic) (state : PipelineState) (format : RenderPassFormat)
    (handle : PipelineHandle) (count : Nat) : Prop where
  begun : count ≤ traffic.calls.length
  optimized : ∃ entry item, traffic.shared.Optimized state format handle entry item
  quick : ∀ index draw, count ≤ index → traffic.calls[index]? = some (.draw draw) →
    draw.state = state → draw.pass.format = format → Quick draw handle

theorem calls_length_moved (moved : Moved before move after) :
    before.calls.length ≤ after.calls.length := by
  cases moved with
  | draw _ _ _ => simp [beginDraw]
  | optimize entry _ _ => simp [beginOptimization]
  | step index call _ _ => simp
  | answer index call result _ _ _ => simp [receive]
  | offer entry handle _ _ _ =>
      unfold offer
      split <;> exact Nat.le_refl _
  | _ => exact Nat.le_refl _

theorem swift_moved {count : Nat} (accounted : before.Accounted) (settled : before.Settled)
    (isOpen : after.isOpen = true) (moved : Moved before move after)
    (swift : before.Swift state format handle count) : after.Swift state format handle count := by
  have later := accounted_moved accounted moved
  obtain ⟨entry, item, optimized⟩ := swift.optimized
  obtain ⟨grown, still⟩ := optimized.later (grows_moved accounted moved)
    fun entry member => later.listed isOpen member
  refine ⟨Nat.le_trans swift.begun (calls_length_moved moved), ⟨entry, grown, still⟩, ?_⟩
  intro index draw late found sameState sameFormat
  cases became_of_moved moved found with
  | stayed there => exact swift.quick index draw late there sameState sameFormat
  | began _ fresh =>
      rcases fresh with ⟨_, _, same⟩ | ⟨_, same⟩
      · cases same
        exact Or.inl rfl
      · cases same
  | stepped old there next =>
      cases old with
      | optimize _ => cases next
      | draw old =>
          obtain rfl : draw = (old.step before.shared).1 := Call.draw.inj next
          obtain ⟨position, moves⟩ := old.moves_step before.shared
          rw [moves] at sameState sameFormat
          have quick := swift.quick index old late there sameState sameFormat
          have founded := settled.founded _ (List.mem_of_getElem? there)
          subst sameState sameFormat
          exact quick_step settled.distinct optimized founded quick
  | answered old there waits result next =>
      cases old with
      | optimize _ => cases next
      | draw old =>
          obtain rfl : draw = old.answer result := Call.draw.inj next
          obtain ⟨position, moves⟩ := old.moves_answer result
          rw [moves] at sameState sameFormat
          have quick := swift.quick index old late there sameState sameFormat
          rw [Call.request?, not_waiting_of_quick quick] at waits
          cases waits

theorem isOpen_of_run (ran : before.run? moves = some after) (isOpen : after.isOpen = true) :
    before.isOpen = true :=
  Run.kept (motive := fun reached => reached.isOpen = true → before.isOpen = true)
    (fun _ _ _ back possible still => back (isOpen_of_moved (moved_of_move? possible) still))
    id ran isOpen

theorem swift_run {count : Nat} (accounted : middle.Accounted) (settled : middle.Settled)
    (swift : middle.Swift state format handle count) (ran : middle.run? moves = some traffic)
    (isOpen : traffic.isOpen = true) : traffic.Swift state format handle count := by
  have keeps (before : Traffic) (move : Move) (after : Traffic) (accounted : before.Accounted)
      (kept : before.isOpen = true → before.Settled ∧ before.Swift state format handle count)
      (moved : Moved before move after) (stillOpen : after.isOpen = true) :
      after.Settled ∧ after.Swift state format handle count := by
    have wasOpen := isOpen_of_moved moved stillOpen
    obtain ⟨settled, swift⟩ := kept wasOpen
    exact ⟨settled_moved accounted settled wasOpen stillOpen moved,
      swift_moved accounted settled stillOpen moved swift⟩
  exact ((kept_run keeps accounted (fun _ => ⟨settled, swift⟩) ran).2 isOpen).2

/-- A draw that is quick returns the handle after its next steps, without waiting for the device. -/
theorem rest_lowered_of_quick {draw : Draw} (quick : Quick draw handle) (shared : Shared) :
    draw.position = .finished (some handle) ∨ (draw.step shared).1.rest < draw.rest := by
  rcases draw.rest_lowered shared with ⟨result, finished⟩ | ⟨waits, _⟩ | lowered
  · rcases quick with position | ⟨_, position⟩ | position
    · cases finished.symm.trans position
    · cases finished.symm.trans position
    · exact Or.inl position
  · rw [not_waiting_of_quick quick] at waits
    cases waits
  · exact Or.inr lowered

/-! ### Handles are written once -/

theorem owned_of_stored (owner : traffic.shared.base? state format = some handle ∨
    traffic.shared.fast? state format = some handle) :
    ∃ entry item, traffic.shared.Serving state format entry item ∧ handle ∈ item.handles := by
  cases found : traffic.shared.serving? state format with
  | none => simp [Shared.base?, Shared.fast?, found] at owner
  | some item =>
      obtain ⟨entry, serving⟩ := Shared.serving_of_serving? found
      refine ⟨entry, item, serving, ?_⟩
      simpa [Shared.base?, Shared.fast?, found, Instance.handles] using owner

theorem stored_of_finished (settled : traffic.Settled)
    (found : traffic.calls[index]? = some (.draw ⟨state, pass, .finished (some handle)⟩)) :
    traffic.shared.base? state pass.format = some handle ∨
      traffic.shared.fast? state pass.format = some handle := by
  obtain ⟨entry, item, serving, owned⟩ := settled.founded _ (List.mem_of_getElem? found)
  have served : traffic.shared.serving? state pass.format = some item :=
    serving.found settled.distinct
  simpa [Shared.base?, Shared.fast?, served, Instance.handles] using owned

/-- A handle that a draw has returned and that is the optimized one in the end was so already when it
was returned, for base handles never become optimized ones. -/
theorem optimized_of_finished (grows : middle.shared.Grows traffic.shared)
    (settled : middle.Settled) (settles : traffic.Settled) (accounted : traffic.Accounted)
    (conserved : traffic.Conserved) (isOpen : traffic.isOpen = true)
    (found : middle.calls[index]? = some (.draw ⟨state, pass, .finished (some handle)⟩))
    (fast : traffic.shared.fast? state pass.format = some handle) :
    ∃ entry item, middle.shared.Optimized state pass.format handle entry item := by
  obtain ⟨entry, item, serving, owned⟩ := settled.founded _ (List.mem_of_getElem? found)
  have member := grows.listed.subset serving.member
  obtain ⟨later, present, evolves⟩ :=
    grows.store.later serving.present (accounted.listed isOpen member)
  have still : traffic.shared.Serving state pass.format entry later :=
    ⟨member, present, evolves.combination.trans serving.combination⟩
  rw [Shared.fast?, still.found settles.distinct, Option.bind_some] at fast
  refine ⟨entry, item, serving, ?_⟩
  rcases List.mem_append.mp owned with base | set
  · have kept := evolves.base.trans (Option.mem_toList.mp base)
    exact absurd fast (base_ne_fast conserved present kept)
  · exact Option.mem_toList.mp set

/-- As long as a pipeline is there, what is stored for a combination goes from nothing to a base handle
and then to a fast one, or at once to a fast one. Of the tries to set the fast handle of an instance
the first one succeeds and no other does, and its handle is the one found from then on. Every handle
that a draw returns for the combination is one of the two, every draw that begins after another has
returned the fast one comes back with it without asking the device, and neither handle is destroyed. -/
theorem handles_written_once {shaders : ShaderSet} {optimizes reports : Bool}
    (ran : (Traffic.start shaders optimizes reports).run? moves = some traffic)
    (isOpen : traffic.isOpen = true) (state : PipelineState) (format : RenderPassFormat) :
    WrittenOnce ((Traffic.start shaders optimizes reports).values moves state format)
      (traffic.shared.base? state format) (traffic.shared.fast? state format) ∧
    (∀ entry, ((Traffic.start shaders optimizes reports).attempts moves entry = [] ∧
        ∀ item, traffic.shared.store.get? entry = some item → item.fast = none) ∨
      ∃ first later, (Traffic.start shaders optimizes reports).attempts moves entry =
          (first, true) :: later ∧
        (∀ attempt ∈ later, attempt.2 = false) ∧
        ∀ item, traffic.shared.store.get? entry = some item → item.fast = some first) ∧
    (∀ (index : Nat) pass handle,
      traffic.calls[index]? = some (.draw ⟨state, pass, .finished (some handle)⟩) →
      pass.format = format →
      traffic.shared.base? state format = some handle ∨
        traffic.shared.fast? state format = some handle) ∧
    (∀ earlier later middle (index : Nat) pass handle, moves = earlier ++ later →
      (Traffic.start shaders optimizes reports).run? earlier = some middle →
      middle.calls[index]? = some (.draw ⟨state, pass, .finished (some handle)⟩) →
      pass.format = format → traffic.shared.fast? state format = some handle →
      ∀ (other : Nat) draw, middle.calls.length ≤ other →
        traffic.calls[other]? = some (.draw draw) → draw.state = state →
        draw.pass.format = format →
        draw.position = .finished (some handle) ∨
          ((draw.position = .scanning ∨ ∃ entry, draw.position = .reading entry) ∧
            (draw.step traffic.shared).1.rest < draw.rest)) ∧
    (∀ handle, traffic.shared.base? state format = some handle ∨
      traffic.shared.fast? state format = some handle → handle ∉ traffic.destroyed) := by
  have settled := settled_run ran isOpen
  have conserved := conserved_run ran
  refine ⟨written_run ran isOpen state format, fun entry => ?_, ?_, ?_, fun handle owner => ?_⟩
  · have tried := tried_run ran entry
    cases made : (Traffic.start shaders optimizes reports).attempts moves entry with
    | nil =>
        rw [made] at tried
        exact Or.inl ⟨rfl, tried⟩
    | cons first later =>
        rw [made] at tried
        obtain ⟨won, lost, _, set⟩ := tried
        exact Or.inr ⟨first.1, later, by rw [← won], lost, set⟩
  · rintro index pass handle found rfl
    exact stored_of_finished settled found
  · rintro earlier later middle index pass handle rfl reached found rfl fast other draw begun among
      sameState sameFormat
    obtain ⟨_, first, rest⟩ := Run.final?_append_eq_some_iff.mp ran
    obtain rfl := Option.some.inj (reached.symm.trans first)
    have accounted := accounted_run reached
    have wasOpen : middle.isOpen = true := isOpen_of_run rest isOpen
    have before := settled_run reached wasOpen
    have swift : middle.Swift state pass.format handle middle.calls.length :=
      ⟨Nat.le_refl _, optimized_of_finished (grows_run accounted rest) before settled
        (accounted_run ran) conserved isOpen found fast, fun late _ beyond there => by
          rw [List.getElem?_eq_none beyond] at there
          cases there⟩
    have quick := (swift_run accounted before swift rest isOpen).quick other draw begun among
      sameState sameFormat
    rcases rest_lowered_of_quick quick traffic.shared with finished | lowered
    · exact Or.inl finished
    · rcases quick with scanning | reading | finished
      · exact Or.inr ⟨Or.inl scanning, lowered⟩
      · exact Or.inr ⟨Or.inr reading, lowered⟩
      · exact Or.inl finished
  · obtain ⟨entry, item, serving, member⟩ := owned_of_stored owner
    exact not_destroyed conserved serving.present member

/-- An instance is drawn, optimized, offered another handle in vain, and drawn again. -/
def redraw (first second third : PipelineHandle) : List Move :=
  [.draw {} ⟨1, {}⟩, .step 0, .step 0, .answer 0 (.ok first), .step 0, .step 0, .step 0, .step 0,
    .step 0, .share 0, .optimize 0, .step 1, .step 1, .answer 1 (.ok second), .step 1,
    .offer 0 third, .draw {} ⟨1, {}⟩, .step 2, .step 2]

/-- The draw that follows begins when the optimized handle has been returned, and returns it too. -/
theorem handles_written_once_redraw : ∃ traffic,
    (Traffic.start {} false false).run? (redraw ⟨1, by decide⟩ ⟨2, by decide⟩ ⟨3, by decide⟩ ++
      [.draw {} ⟨1, {}⟩, .step 3, .step 3]) = some traffic ∧
    traffic.shared.base? {} {} = some ⟨1, by decide⟩ ∧
    traffic.shared.fast? {} {} = some ⟨2, by decide⟩ ∧
    (Traffic.start {} false false).attempts (redraw ⟨1, by decide⟩ ⟨2, by decide⟩ ⟨3, by decide⟩ ++
      [.draw {} ⟨1, {}⟩, .step 3, .step 3]) 0 =
        [(⟨2, by decide⟩, true), (⟨3, by decide⟩, false)] ∧
    traffic.calls[3]?.bind Call.handle? = some ⟨2, by decide⟩ ∧
    traffic.destroyed = [⟨3, by decide⟩] ∧
    ⟨2, by decide⟩ ∉ traffic.destroyed ∧
    WrittenOnce ((Traffic.start {} false false).values
        (redraw ⟨1, by decide⟩ ⟨2, by decide⟩ ⟨3, by decide⟩ ++ [.draw {} ⟨1, {}⟩, .step 3, .step 3])
        {} {})
      (some ⟨1, by decide⟩) (some ⟨2, by decide⟩) := by
  have ran : (Traffic.start {} false false).run?
      (redraw ⟨1, by decide⟩ ⟨2, by decide⟩ ⟨3, by decide⟩ ++ [.draw {} ⟨1, {}⟩, .step 3, .step 3]) =
      some (((Traffic.start {} false false).run?
        (redraw ⟨1, by decide⟩ ⟨2, by decide⟩ ⟨3, by decide⟩ ++
          [.draw {} ⟨1, {}⟩, .step 3, .step 3])).get (by decide)) :=
    (Option.some_get _).symm
  obtain ⟨written, _, _, _, kept⟩ := handles_written_once ran (by decide) {} {}
  exact ⟨_, ran, by decide, by decide, by decide, by decide, by decide,
    kept _ (Or.inr (by decide)), written⟩

end Traffic

end PipelineCache

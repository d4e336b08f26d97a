import PipelineCache.Proofs.Traffic.WriteOnce

/-! Parents are alive. A handle becomes the parent of a mode only after the instance that holds it has
come into the list of the pipeline; the list never gives up an instance, and an instance never gives up
a handle. So whoever asks the device to derive a pipeline names a handle that still exists. The first
parent of a mode stays its parent. -/

namespace PipelineCache

/-- The handle that was compiled for an instance in a certain mode. -/
def Instance.slot (realized : Instance) : CompileMode → Option PipelineHandle
  | .fast => realized.base
  | .optimized => realized.fast

theorem Instance.Evolves.slot {before after : Instance} {mode : CompileMode} {handle : PipelineHandle}
    (evolves : before.Evolves after) (had : before.slot mode = some handle) :
    after.slot mode = some handle := by
  cases mode with
  | fast => exact evolves.base.trans had
  | optimized =>
      have present : before.fast.isSome := by
        rw [show before.fast = some handle from had]
        rfl
      exact (evolves.fast present).trans had

theorem Instance.mem_handles_of_slot {realized : Instance} {mode : CompileMode}
    {handle : PipelineHandle} (had : realized.slot mode = some handle) : handle ∈ realized.handles := by
  cases mode with
  | fast => exact List.mem_append_left _ (Option.mem_toList.mpr had)
  | optimized => exact List.mem_append_right _ (Option.mem_toList.mpr had)

namespace Shared

variable {shared before after : Shared} {mode : CompileMode} {handle : PipelineHandle}
  {entry : InstanceId} {item : Instance}

/-- An instance in the list holds a handle that was compiled in a certain mode. -/
def Owns (shared : Shared) (mode : CompileMode) (handle : PipelineHandle) : Prop :=
  ∃ entry ∈ shared.pipeline.instances, ∃ item, shared.store.get? entry = some item ∧
    item.slot mode = some handle

/-- The parents belong to listed instances, and whatever has a base handle is listed. -/
structure Anchored (shared : Shared) : Prop where
  parents : ∀ mode handle, shared.pipeline.parent mode = some handle → shared.Owns mode handle
  based : ∀ entry item, shared.store.get? entry = some item → item.base.isSome →
    entry ∈ shared.pipeline.instances

theorem Owns.later (owns : before.Owns mode handle) (grows : before.Grows after)
    (alive : ∀ entry ∈ after.pipeline.instances, ∃ item, after.store.get? entry = some item) :
    after.Owns mode handle := by
  obtain ⟨entry, listed, item, present, had⟩ := owns
  have member := grows.listed.subset listed
  obtain ⟨later, there, evolves⟩ := grows.store.later present (alive entry member)
  exact ⟨entry, member, later, there, evolves.slot had⟩

/-- Parents stay anchored when new ones belong to listed instances, and new instances with a base handle
are listed. -/
theorem Anchored.later (anchored : before.Anchored) (grows : before.Grows after)
    (alive : ∀ entry ∈ after.pipeline.instances, ∃ item, after.store.get? entry = some item)
    (parents : ∀ mode handle, after.pipeline.parent mode = some handle →
      before.pipeline.parent mode = some handle ∨ after.Owns mode handle)
    (added : ∀ entry item, after.store.get? entry = some item → item.base.isSome →
      entry ∈ after.pipeline.instances ∨ entry < before.store.cells.length) : after.Anchored where
  parents mode handle parent := (parents mode handle parent).elim
    (fun old => (anchored.parents mode handle old).later grows alive) id
  based entry item present base := by
    refine (added entry item present base).elim id fun old => ?_
    obtain ⟨earlier, found, evolves⟩ := grows.store.earlier entry item old present
    rw [evolves.base] at base
    exact grows.listed.subset (anchored.based entry earlier found base)

@[simp] theorem parent_count (shared : Shared) (change : PipelineCounters → PipelineCounters)
    (mode : CompileMode) : (shared.count change).pipeline.parent mode = shared.pipeline.parent mode := by
  cases mode <;> rfl

end Shared

namespace Pipeline

/-- A handle that is offered becomes the first parent of its mode, or changes nothing. -/
theorem parent_offerParent (pipeline : Pipeline) (offered mode : CompileMode) (handle : PipelineHandle) :
    (pipeline.offerParent offered handle).parent mode = pipeline.parent mode ∨
      (mode = offered ∧ pipeline.parent mode = none ∧
        (pipeline.offerParent offered handle).parent mode = some handle) := by
  have changed : (pipeline.offerParent offered handle).parent mode =
      if mode = offered then (pipeline.parent mode).or (some handle) else pipeline.parent mode := by
    cases offered <;> cases mode <;> rfl
  rw [changed]
  split
  · rename_i same
    cases pipeline.parent mode with
    | some old => exact Or.inl rfl
    | none => exact Or.inr ⟨same, rfl, rfl⟩
  · exact Or.inl rfl

end Pipeline

/-! ### What a call knows -/

namespace Draw

/-- The parent that a draw has read, and the handle that it is about to offer as one, belong to listed
instances. -/
def Anchored (draw : Draw) (shared : Shared) : Prop :=
  match draw.position with
  | .compiling parent => ∀ handle ∈ parent, shared.Owns .fast handle
  | .counting handle _ => shared.Owns .fast handle
  | .offering handle _ => shared.Owns .fast handle
  | _ => True

variable {draw : Draw} {shared before after : Shared}

theorem Anchored.later (anchored : draw.Anchored before) (grows : before.Grows after)
    (alive : ∀ entry ∈ after.pipeline.instances, ∃ item, after.store.get? entry = some item) :
    draw.Anchored after := by
  obtain ⟨state, pass, position⟩ := draw
  cases position with
  | compiling parent => exact fun handle member => (anchored handle member).later grows alive
  | counting handle entry => exact Shared.Owns.later anchored grows alive
  | offering handle entry => exact Shared.Owns.later anchored grows alive
  | _ => trivial

theorem Anchored.step (anchored : draw.Anchored shared) (standing : shared.Anchored) :
    (draw.step shared).1.Anchored (draw.step shared).2.1 := by
  obtain ⟨state, pass, position⟩ := draw
  cases position with
  | scanning =>
      simp only [Draw.step]
      split <;> trivial
  | preparing =>
      simp only [Draw.step]
      split
      · exact fun handle member => standing.parents .fast handle member
      · trivial
  | compiling parent => exact anchored
  | enlisting handle =>
      simp only [Draw.step]
      split
      · trivial
      · have joined := (shared.store.get?_add
          { state := state, pass := pass, base := some handle } _).trans (if_pos rfl)
        exact ⟨_, List.mem_append_right _ (List.mem_singleton_self _), _, joined, rfl⟩
  | counting handle entry => exact anchored
  | _ => trivial

end Draw

namespace Optimization

/-- The parent that an optimization has read belongs to a listed instance; the handle that it has set is
in its own instance, which is listed before the handle is offered as a parent. -/
def Anchored (optimization : Optimization) (shared : Shared) : Prop :=
  match optimization.position with
  | .compiling parent => ∀ handle ∈ parent, shared.Owns .optimized handle
  | .countingInstalled handle => ∃ item, shared.store.get? optimization.entry = some item ∧
      item.fast = some handle
  | .adopting handle => ∃ item, shared.store.get? optimization.entry = some item ∧
      item.fast = some handle
  | .offering handle => shared.Owns .optimized handle
  | _ => True

variable {optimization : Optimization} {shared before after : Shared}

theorem Anchored.later (anchored : optimization.Anchored before) (grows : before.Grows after)
    (alive : ∀ entry ∈ after.pipeline.instances, ∃ item, after.store.get? entry = some item)
    (borrowed : (Call.optimize optimization).isFinished = false →
      ∃ item, after.store.get? optimization.entry = some item) : optimization.Anchored after := by
  obtain ⟨entry, position⟩ := optimization
  have still (handle : PipelineHandle)
      (running : (Call.optimize ⟨entry, position⟩).isFinished = false)
      (set : ∃ item, before.store.get? entry = some item ∧ item.fast = some handle) :
      ∃ item, after.store.get? entry = some item ∧ item.fast = some handle := by
    obtain ⟨item, present, had⟩ := set
    obtain ⟨later, there, evolves⟩ := grows.store.later present (borrowed running)
    have kept : later.slot .optimized = some handle := evolves.slot had
    exact ⟨later, there, kept⟩
  cases position with
  | compiling parent => exact fun handle member => (anchored handle member).later grows alive
  | countingInstalled handle => exact still handle rfl anchored
  | adopting handle => exact still handle rfl anchored
  | offering handle => exact Shared.Owns.later anchored grows alive
  | _ => trivial

/-- After its adoption an instance is listed: because it has a base handle, because it was found in the
list, or because it has just been appended. -/
theorem owns_adoption {entry : InstanceId} {item : Instance} {handle : PipelineHandle}
    (standing : shared.Anchored) (present : shared.store.get? entry = some item)
    (set : item.fast = some handle) (owned : (adoption entry item shared).1 = true) :
    (adoption entry item shared).2.1.Owns .optimized handle := by
  unfold adoption at owned ⊢
  split
  · rename_i based
    exact ⟨entry, standing.based entry item present based, item, present, set⟩
  · rename_i baseless
    rw [if_neg baseless] at owned
    cases found : shared.find? item.state item.pass.format with
    | some other =>
        simp only [found] at owned ⊢
        obtain rfl := eq_of_beq owned
        obtain ⟨_, serving⟩ := Shared.serving_of_find? found
        exact ⟨other, serving.member, item, present, set⟩
    | none =>
        simp only
        refine ⟨entry, List.mem_append_right _ (List.mem_singleton_self _), item, ?_, set⟩
        exact (Store.get?_hold ..).trans present

theorem Anchored.step (anchored : optimization.Anchored shared) (standing : shared.Anchored) :
    (optimization.step shared).1.Anchored (optimization.step shared).2.1 := by
  obtain ⟨entry, position⟩ := optimization
  cases present : shared.store.get? entry with
  | none =>
      simp only [Optimization.step, present]
      trivial
  | some item =>
      cases position with
      | checking =>
          simp only [Optimization.step, present]
          split <;> trivial
      | preparing =>
          simp only [Optimization.step, present]
          split
          · exact fun handle member => standing.parents .optimized handle member
          · trivial
      | compiling parent =>
          simp only [Optimization.step, present]
          exact anchored
      | installing handle =>
          simp only [Optimization.step, present]
          split
          · rename_i store set
            exact Store.fast_of_install set
          · trivial
      | countingInstalled handle =>
          simp only [Optimization.step, present]
          exact anchored
      | adopting handle =>
          obtain ⟨same, there, set⟩ := anchored
          obtain rfl : item = same := Option.some.inj (present.symm.trans there)
          simp only [Optimization.step, present]
          split
          · rename_i owned
            exact owns_adoption standing present set owned
          · trivial
      | _ =>
          simp only [Optimization.step, present]
          trivial

end Optimization

namespace Call

variable {call : Call} {shared before after : Shared}

def Anchored (call : Call) (shared : Shared) : Prop :=
  match call with
  | .draw current => current.Anchored shared
  | .optimize current => current.Anchored shared

theorem Anchored.step (anchored : call.Anchored shared) (standing : shared.Anchored) :
    (call.step shared).1.Anchored (call.step shared).2.1 := by
  cases call with
  | draw current => exact Draw.Anchored.step anchored standing
  | optimize current => exact Optimization.Anchored.step anchored standing

theorem anchored_answer (waits : (call.request? shared).isSome)
    (result : Except CacheError PipelineHandle) : (call.answer result).Anchored shared := by
  rcases position_of_waits waits with ⟨state, pass, parent, rfl⟩ | ⟨entry, parent, rfl⟩ <;>
    cases result <;> trivial

/-- What a call asks of the device is derived from a handle of a listed instance. -/
theorem Anchored.owns {request : CompileRequest} {handle : PipelineHandle}
    (anchored : call.Anchored shared) (asked : call.request? shared = some request)
    (derives : request.parent = some handle) :
    shared.Owns request.mode handle := by
  have waits : (call.request? shared).isSome := by rw [asked, Option.isSome_some]
  rcases position_of_waits waits with ⟨state, pass, parent, rfl⟩ | ⟨entry, parent, rfl⟩
  · cases asked
    exact anchored handle derives
  · simp only [request?, Optimization.request?] at asked
    split at asked
    · rename_i same _
      cases same
      cases asked
      exact anchored handle derives
    · cases asked

/-- The handle that the next step of a call offers as a parent of a mode. -/
def offered? : Call → CompileMode → Option PipelineHandle
  | .draw ⟨_, _, .offering handle _⟩, .fast => some handle
  | .optimize ⟨_, .offering handle⟩, .optimized => some handle
  | _, _ => none

theorem parent_step_draw (draw : Draw) (shared : Shared) (mode : CompileMode) :
    (draw.step shared).2.1.pipeline.parent mode = shared.pipeline.parent mode ∨
      ∃ handle, offered? (.draw draw) mode = some handle ∧ shared.pipeline.parent mode = none ∧
        (draw.step shared).2.1.pipeline.parent mode = some handle := by
  obtain ⟨state, pass, position⟩ := draw
  cases position with
  | offering handle entry =>
      refine (shared.pipeline.parent_offerParent .fast mode handle).imp_right ?_
      rintro ⟨rfl, none, became⟩
      exact ⟨handle, rfl, none, became⟩
  | scanning =>
      left
      simp only [Draw.step]
      split <;> rfl
  | preparing =>
      left
      simp only [Draw.step]
      split <;> rfl
  | enlisting handle =>
      left
      simp only [Draw.step]
      split <;> cases mode <;> rfl
  | failing error => exact Or.inl (Shared.parent_count ..)
  | counting handle entry => exact Or.inl (Shared.parent_count ..)
  | _ => exact Or.inl rfl

theorem parent_step_optimize (optimization : Optimization) (shared : Shared) (mode : CompileMode) :
    (optimization.step shared).2.1.pipeline.parent mode = shared.pipeline.parent mode ∨
      ∃ handle, offered? (.optimize optimization) mode = some handle ∧
        shared.pipeline.parent mode = none ∧
        (optimization.step shared).2.1.pipeline.parent mode = some handle := by
  obtain ⟨entry, position⟩ := optimization
  cases present : shared.store.get? entry with
  | none =>
      left
      simp only [Optimization.step, present]
  | some item =>
      cases position with
      | offering handle =>
          simp only [Optimization.step, present]
          refine (shared.pipeline.parent_offerParent .optimized mode handle).imp_right ?_
          rintro ⟨rfl, none, became⟩
          exact ⟨handle, rfl, none, became⟩
      | preparing =>
          left
          simp only [Optimization.step, present]
          split <;> rfl
      | installing handle =>
          left
          simp only [Optimization.step, present]
          split <;> rfl
      | adopting handle =>
          left
          simp only [Optimization.step, present, Optimization.adoption]
          split
          · rfl
          · split
            · rfl
            · cases mode <;> rfl
      | _ =>
          left
          simp only [Optimization.step, present] <;> cases mode <;> rfl

/-- A step leaves the parent of a mode as it is, or offers a first one. -/
theorem parent_step (call : Call) (shared : Shared) (mode : CompileMode) :
    (call.step shared).2.1.pipeline.parent mode = shared.pipeline.parent mode ∨
      ∃ handle, call.offered? mode = some handle ∧ shared.pipeline.parent mode = none ∧
        (call.step shared).2.1.pipeline.parent mode = some handle := by
  cases call with
  | draw current => exact parent_step_draw current shared mode
  | optimize current => exact parent_step_optimize current shared mode

theorem Anchored.owns_offered (anchored : call.Anchored shared) {mode : CompileMode}
    {handle : PipelineHandle} (offered : call.offered? mode = some handle) :
    shared.Owns mode handle := by
  unfold offered? at offered
  split at offered
  · cases offered
    exact anchored
  · cases offered
    exact anchored
  · cases offered

/-- What is in the store after a step was there before, or is listed. -/
theorem Effect.added {next : Call} {changed : Shared} {destroyed : List PipelineHandle}
    {entry : InstanceId} {item : Instance} (effect : call.Effect shared next changed destroyed)
    (present : changed.store.get? entry = some item) :
    entry ∈ changed.pipeline.instances ∨ entry < shared.store.cells.length := by
  cases effect with
  | quiet store _ _ _ => exact Or.inr (Store.lt_of_get? (store ▸ present))
  | discards _ store _ _ _ _ => exact Or.inr (Store.lt_of_get? (store ▸ present))
  | installs _ _ _ set _ _ _ =>
      obtain ⟨_, _, _, _, placed⟩ := Store.install_eq_some_iff.mp set
      have inside := Store.lt_of_get? present
      rw [← placed, Store.length_cells_put] at inside
      exact Or.inr inside
  | adopts _ _ _ _ _ _ store _ _ _ =>
      have inside := Store.lt_of_get? present
      rw [store, Store.length_cells_hold] at inside
      exact Or.inr inside
  | enlists state pass handle _ _ store listed _ _ =>
      rw [store, Store.get?_add] at present
      split at present
      · rename_i newest
        rw [listed, newest]
        exact Or.inl (List.mem_append_right _ (List.mem_singleton_self _))
      · exact Or.inr (Store.lt_of_get? present)

end Call

namespace Traffic

variable {start before middle after traffic : Traffic} {moves : List Move} {move : Move} {index : Nat}
  {call : Call} {mode : CompileMode} {handle : PipelineHandle}

/-- As long as the pipeline is there, its parents are anchored, and so is what the calls know of them. -/
structure Anchored (traffic : Traffic) : Prop where
  shared : traffic.shared.Anchored
  calls : ∀ call ∈ traffic.calls, call.Anchored traffic.shared

theorem anchored_later (anchored : before.Anchored) (grows : before.shared.Grows after.shared)
    (accounted : after.Accounted) (isOpen : after.isOpen = true) (member : call ∈ before.calls)
    (stays : call ∈ after.calls) : call.Anchored after.shared := by
  have alive (entry : InstanceId) (listed : entry ∈ after.shared.pipeline.instances) :=
    accounted.listed isOpen listed
  cases call with
  | draw current => exact Draw.Anchored.later (anchored.calls _ member) grows alive
  | optimize current =>
      refine Optimization.Anchored.later (anchored.calls _ member) grows alive fun running => ?_
      apply accounted.alive
      apply borrowed_subset_holdings stays
      simp [Call.borrowed, running]

/-- Only a step that offers a first parent changes the parent of a mode. -/
theorem parent_cases (moved : Moved before move after) (mode : CompileMode) :
    after.shared.pipeline.parent mode = before.shared.pipeline.parent mode ∨
      ∃ index call handle, move = .step index ∧ before.calls[index]? = some call ∧
        call.offered? mode = some handle ∧ before.shared.pipeline.parent mode = none ∧
        after.shared.pipeline.parent mode = some handle ∧
        after.shared = (call.step before.shared).2.1 := by
  cases moved with
  | step index call found _ =>
      refine (call.parent_step before.shared mode).imp_right ?_
      rintro ⟨handle, offered, none, became⟩
      exact ⟨index, call, handle, rfl, found, offered, none, became, rfl⟩
  | offer entry handle _ _ _ =>
      left
      unfold offer
      split <;> rfl
  | _ => exact Or.inl rfl

/-- An instance with a base handle that joins the store is listed. -/
theorem added_moved {entry : InstanceId} {item : Instance} (accounted : before.Accounted)
    (moved : Moved before move after) (present : after.shared.store.get? entry = some item)
    (based : item.base.isSome) :
    entry ∈ after.shared.pipeline.instances ∨ entry < before.shared.store.cells.length := by
  have inside := Store.lt_of_get? present
  cases moved with
  | step index call found running =>
      exact (call.effect_step before.shared running (accounted.borrowed found)).added present
  | build state pass =>
      rw [show (before.build state pass).shared.store =
        (before.shared.store.add { state := state, pass := pass }).2 from rfl, Store.get?_add] at present
      split at present
      · cases present
        cases based
      · exact Or.inr (Store.lt_of_get? present)
  | offer target handle _ _ _ =>
      unfold offer at inside
      split at inside
      · rename_i store set
        obtain ⟨_, _, _, _, placed⟩ := Store.install_eq_some_iff.mp set
        rw [← placed, Store.length_cells_put] at inside
        exact Or.inr inside
      · exact Or.inr inside
  | share target _ _ =>
      rw [share, Store.length_cells_hold] at inside
      exact Or.inr inside
  | drop target _ =>
      rw [drop, Store.length_cells_release] at inside
      exact Or.inr inside
  | close _ _ =>
      rw [close, Store.length_cells_releaseAll] at inside
      exact Or.inr inside
  | _ => exact Or.inr inside

theorem shared_anchored_moved (accounted : before.Accounted) (anchored : before.Anchored)
    (isOpen : after.isOpen = true) (moved : Moved before move after) : after.shared.Anchored := by
  have grows := grows_moved accounted moved
  have later := accounted_moved accounted moved
  have alive (entry : InstanceId) (listed : entry ∈ after.shared.pipeline.instances) :=
    later.listed isOpen listed
  refine anchored.shared.later grows alive (fun mode handle parent => ?_)
    fun entry item present based => added_moved accounted moved present based
  rcases parent_cases moved mode with same | ⟨_, call, first, _, found, offered, _, became, _⟩
  · exact Or.inl (same.symm.trans parent)
  · obtain rfl : first = handle := Option.some.inj (became.symm.trans parent)
    have known := anchored.calls call (List.mem_of_getElem? found)
    exact Or.inr ((known.owns_offered offered).later grows alive)

theorem anchored_moved (accounted : before.Accounted) (anchored : before.Anchored)
    (isOpen : after.isOpen = true) (moved : Moved before move after) : after.Anchored := by
  have grows := grows_moved accounted moved
  have later := accounted_moved accounted moved
  refine ⟨shared_anchored_moved accounted anchored isOpen moved, fun call member => ?_⟩
  cases origin_of_moved moved member with
  | stayed call there => exact anchored_later anchored grows later isOpen there member
  | drawn state pass => trivial
  | optimized entry => trivial
  | stepped old there shared =>
      rw [shared]
      exact (anchored.calls old there).step anchored.shared
  | answered old there waits result shared =>
      rw [shared]
      exact Call.anchored_answer waits result

theorem anchored_run {shaders : ShaderSet} {optimizes reports : Bool}
    (ran : (Traffic.start shaders optimizes reports).run? moves = some traffic)
    (isOpen : traffic.isOpen = true) : traffic.Anchored := by
  have keeps (middle : Traffic) (move : Move) (next : Traffic) (accounted : middle.Accounted)
      (anchored : middle.isOpen = true → middle.Anchored) (moved : Moved middle move next)
      (stillOpen : next.isOpen = true) : next.Anchored :=
    anchored_moved accounted (anchored (isOpen_of_moved moved stillOpen)) stillOpen moved
  have initial : (Traffic.start shaders optimizes reports).Anchored := by
    refine ⟨⟨fun mode handle parent => ?_, fun entry item present => ?_⟩, List.forall_mem_nil _⟩
    · cases mode <;> cases parent
    · simp [Traffic.start, Store.get?, Store.held?] at present
  exact (kept_run keeps (accounted_start shaders optimizes reports) (fun _ => initial) ran).2 isOpen

/-! ### The first parent stays -/

theorem parent_moved (moved : Moved before move after)
    (parent : before.shared.pipeline.parent mode = some handle) :
    after.shared.pipeline.parent mode = some handle := by
  rcases parent_cases moved mode with same | ⟨_, _, _, _, _, _, none, _⟩
  · exact same.trans parent
  · rw [parent] at none
    cases none

end Traffic

namespace Call

variable {call : Call} {shared : Shared} {mode : CompileMode}

/-- The parent that a call has read and now waits with. -/
def parent? : Call → Option (Option PipelineHandle)
  | .draw ⟨_, _, .compiling parent⟩ => some parent
  | .optimize ⟨_, .compiling parent⟩ => some parent
  | _ => none

theorem parent?_of_asked {request : CompileRequest} (asked : call.request? shared = some request) :
    call.parent? = some request.parent ∧ call.mode = request.mode := by
  have waits : (call.request? shared).isSome := by rw [asked, Option.isSome_some]
  rcases position_of_waits waits with ⟨state, pass, parent, rfl⟩ | ⟨entry, parent, rfl⟩
  · cases asked
    exact ⟨rfl, rfl⟩
  · simp only [request?, Optimization.request?] at asked
    split at asked
    · rename_i same _
      cases same
      cases asked
      exact ⟨rfl, rfl⟩
    · cases asked

theorem parent?_step_draw (draw : Draw) (shared : Shared) :
    (Call.draw (draw.step shared).1).parent? = (Call.draw draw).parent? ∨
      (Call.draw (draw.step shared).1).parent? = none ∨
      (Call.draw (draw.step shared).1).parent? = some (shared.pipeline.parent .fast) := by
  obtain ⟨state, pass, position⟩ := draw
  cases position with
  | scanning =>
      simp only [Draw.step]
      split <;> exact Or.inl rfl
  | preparing =>
      simp only [Draw.step]
      split
      · exact Or.inr (Or.inr rfl)
      · exact Or.inl rfl
  | enlisting handle =>
      simp only [Draw.step]
      split <;> exact Or.inl rfl
  | _ => exact Or.inl rfl

theorem parent?_step_optimize (optimization : Optimization) (shared : Shared) :
    (Call.optimize (optimization.step shared).1).parent? = (Call.optimize optimization).parent? ∨
      (Call.optimize (optimization.step shared).1).parent? = none ∨
      (Call.optimize (optimization.step shared).1).parent? =
        some (shared.pipeline.parent .optimized) := by
  obtain ⟨entry, position⟩ := optimization
  cases present : shared.store.get? entry with
  | none =>
      simp only [Optimization.step, present]
      exact Or.inr (Or.inl rfl)
  | some item =>
      cases position with
      | checking =>
          simp only [Optimization.step, present]
          refine Or.inl ?_
          split <;> rfl
      | preparing =>
          simp only [Optimization.step, present]
          split
          · exact Or.inr (Or.inr rfl)
          · exact Or.inl rfl
      | installing handle =>
          simp only [Optimization.step, present]
          split <;> exact Or.inl rfl
      | adopting handle =>
          simp only [Optimization.step, present, Optimization.moveTo]
          refine Or.inl ?_
          split <;> rfl
      | compiling parent =>
          left
          simp only [Optimization.step, present]
      | _ =>
          left
          simp only [Optimization.step, present, Optimization.moveTo, parent?]

/-- A call comes to wait with the parent that its mode has at this moment. -/
theorem parent?_step (call : Call) (shared : Shared) :
    (call.step shared).1.parent? = call.parent? ∨ (call.step shared).1.parent? = none ∨
      (call.step shared).1.parent? = some (shared.pipeline.parent call.mode) := by
  cases call with
  | draw current => exact parent?_step_draw current shared
  | optimize current => exact parent?_step_optimize current shared

theorem mode_step (call : Call) (shared : Shared) : (call.step shared).1.mode = call.mode := by
  cases call <;> rfl

theorem running_of_waits (waits : (call.request? shared).isSome) : call.isFinished = false := by
  rcases position_of_waits waits with ⟨state, pass, parent, rfl⟩ | ⟨entry, parent, rfl⟩ <;> rfl

theorem parent?_answer (waits : (call.request? shared).isSome)
    (result : Except CacheError PipelineHandle) : (call.answer result).parent? = none := by
  rcases position_of_waits waits with ⟨state, pass, parent, rfl⟩ | ⟨entry, parent, rfl⟩ <;>
    cases result <;> rfl

end Call

namespace Traffic

variable {before middle after traffic : Traffic} {moves : List Move} {move : Move} {index : Nat}
  {mode : CompileMode} {handle : PipelineHandle}

/-- If a call of some mode waits, it waits with a certain parent. -/
def ReadsOnly (traffic : Traffic) (index : Nat) (mode : CompileMode) (handle : PipelineHandle) : Prop :=
  ∀ call, traffic.calls[index]? = some call → call.mode = mode →
    ∀ parent, call.parent? = some parent → parent = some handle

/-- Once a mode has a parent, calls that have yet to read it read this one. -/
theorem readsOnly_of_became (parent : before.shared.pipeline.parent mode = some handle)
    (reads : before.ReadsOnly index mode handle)
    (became : ∀ call, after.calls[index]? = some call → Became before index call) :
    after.ReadsOnly index mode handle := by
  intro call found ofMode read waits
  cases became call found with
  | stayed there => exact reads call there ofMode read waits
  | began _ fresh => rcases fresh with ⟨state, pass, rfl⟩ | ⟨entry, rfl⟩ <;> cases waits
  | stepped old there next =>
      subst next
      rw [Call.mode_step] at ofMode
      rcases old.parent?_step before.shared with same | none | current
      · exact reads old there ofMode read (same.symm.trans waits)
      · rw [none] at waits
        cases waits
      · rw [current, ofMode, parent] at waits
        exact (Option.some.inj waits).symm
  | answered old there asked result next =>
      subst next
      rw [Call.parent?_answer asked] at waits
      cases waits

theorem readsOnly_run (parent : before.shared.pipeline.parent mode = some handle)
    (reads : before.ReadsOnly index mode handle) (ran : before.run? moves = some after) :
    after.shared.pipeline.parent mode = some handle ∧ after.ReadsOnly index mode handle := by
  refine Run.kept (motive := fun reached => reached.shared.pipeline.parent mode = some handle ∧
    reached.ReadsOnly index mode handle) ?_ ⟨parent, reads⟩ ran
  rintro earlier move later ⟨parent, reads⟩ possible
  have moved := moved_of_move? possible
  exact ⟨parent_moved moved parent,
    readsOnly_of_became parent reads fun _ found => became_of_moved moved found⟩

/-- From one moment of a pipeline to another, the parent of a mode stays the same, and every call of this
mode that comes to wait in between waits with this parent. -/
structure KeepsParent (before after : Traffic) (mode : CompileMode) (handle : PipelineHandle) :
    Prop where
  parent : after.shared.pipeline.parent mode = some handle
  read : ∀ (position : Nat) (call : Call) (request : CompileRequest),
    after.calls[position]? = some call → call.request? after.shared = some request →
    request.mode = mode → (∀ old, before.calls[position]? = some old → old.parent? = none) →
      request.parent = some handle

theorem keepsParent_of_readsOnly (parent : after.shared.pipeline.parent mode = some handle)
    (reads : ∀ index, before.ReadsOnly index mode handle → after.ReadsOnly index mode handle) :
    before.KeepsParent after mode handle := by
  refine ⟨parent, fun position call request there asked ofMode fresh => ?_⟩
  obtain ⟨waits, same⟩ := Call.parent?_of_asked asked
  have unread : before.ReadsOnly position mode handle := by
    intro old found _ known waited
    rw [fresh old found] at waited
    cases waited
  exact reads position unread call there (same.trans ofMode) _ waits

/-- Nobody waits at a number that is still to be given. -/
theorem readsOnly_next (traffic : Traffic) (mode : CompileMode) (handle : PipelineHandle) :
    traffic.ReadsOnly traffic.calls.length mode handle := by
  intro call absent
  rw [List.getElem?_eq_none (Nat.le_refl _)] at absent
  cases absent

theorem keepsParent_run (parent : before.shared.pipeline.parent mode = some handle)
    (ran : before.run? moves = some after) : before.KeepsParent after mode handle :=
  keepsParent_of_readsOnly (readsOnly_run parent (before.readsOnly_next mode handle) ran).1
    fun _ unread => (readsOnly_run parent unread ran).2

end Traffic

end PipelineCache

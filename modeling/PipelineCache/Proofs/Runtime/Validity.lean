import PipelineCache.Proofs.Runtime.Basic
import PipelineCache.Proofs.Validation

/-! The device only sees valid states. Whoever asks the device to compile something has checked the state
and the format against the shaders of the pipeline before, and neither changes in the meantime; whatever
joins the list of a pipeline was checked as well. This does not depend on where an instance comes from,
so it holds of what a cache file remembers, whatever its records say. -/

namespace PipelineCache

namespace Shared

variable {before after shared : Shared} {entry : InstanceId}

/-- An instance that was there and has been given up. -/
def HasLost (shared : Shared) (entry : InstanceId) : Prop :=
  entry < shared.store.cells.length ∧ shared.store.get? entry = none

/-- Whatever lives in the list was checked. -/
def Approved (shared : Shared) : Prop :=
  ∀ entry ∈ shared.pipeline.instances, entry < shared.store.cells.length ∧
    ∀ item, shared.store.get? entry = some item → shared.pipeline.Permits item.combination

theorem HasLost.later (lost : before.HasLost entry) (evolves : before.store.Evolves after.store) :
    after.HasLost entry := by
  obtain ⟨inside, gone⟩ := lost
  refine ⟨Nat.lt_of_lt_of_le inside evolves.length_le, ?_⟩
  cases found : after.store.get? entry with
  | none => rfl
  | some later =>
      obtain ⟨item, present, _⟩ := evolves.earlier entry later inside found
      rw [gone] at present
      cases present

theorem Approved.later (approved : before.Approved)
    (listed : after.pipeline.instances = before.pipeline.instances)
    (same : after.pipeline.shaders = before.pipeline.shaders)
    (evolves : before.store.Evolves after.store) : after.Approved := by
  intro entry member
  rw [listed] at member
  obtain ⟨inside, fits⟩ := approved entry member
  refine ⟨Nat.lt_of_lt_of_le inside evolves.length_le, fun later found => ?_⟩
  obtain ⟨item, present, evolved⟩ := evolves.earlier entry later inside found
  rw [evolved.combination]
  exact (Pipeline.permits_congr same _).mpr (fits item present)

/-- A list stays approved when an instance that was checked joins it. -/
theorem Approved.append {item : Instance} (approved : before.Approved)
    (listed : after.pipeline.instances = before.pipeline.instances ++ [entry])
    (same : after.pipeline.shaders = before.pipeline.shaders)
    (evolves : before.store.Evolves after.store) (joined : after.store.get? entry = some item)
    (permits : before.pipeline.Permits item.combination) : after.Approved := by
  have earlier : Approved { after with pipeline :=
      { after.pipeline with instances := before.pipeline.instances } } :=
    approved.later rfl same evolves
  intro other member
  rw [listed] at member
  rcases List.mem_append.mp member with old | newest
  · exact earlier other old
  · obtain rfl := List.mem_singleton.mp newest
    refine ⟨Store.lt_of_get? joined, fun found present => ?_⟩
    obtain rfl := Option.some.inj (joined.symm.trans present)
    exact (Pipeline.permits_congr same _).mpr permits

end Shared

namespace Call

variable {call : Call} {before after shared : Shared}

/-- A call that has taken no step. -/
def isFresh : Call → Bool
  | .draw current => current.position == .scanning
  | .optimize current => current.position == .checking

/-- A call that asks for a handle, or has it, has checked what it is for, unless the instance it is for
has been given up. -/
def Vetted (call : Call) (shared : Shared) : Prop :=
  match call with
  | .draw current => current.Checked shared.pipeline
  | .optimize current => current.Checked shared ∨ shared.HasLost current.entry

theorem vetted_of_isFresh (fresh : call.isFresh = true) (shared : Shared) : call.Vetted shared := by
  cases call with
  | draw current =>
      obtain ⟨state, pass, position⟩ := current
      obtain rfl := eq_of_beq fresh
      trivial
  | optimize current =>
      obtain ⟨entry, position⟩ := current
      obtain rfl := eq_of_beq fresh
      exact Or.inl trivial

/-- An optimization that asks for a handle, or has it, knows its instance by a number in use. -/
theorem checked_of_absent {optimization : Optimization} (checked : optimization.Checked before)
    (absent : before.store.get? optimization.entry = none) (after : Shared) :
    optimization.Checked after := by
  obtain ⟨entry, position⟩ := optimization
  have impossible (known : ∃ item, before.store.get? entry = some item ∧
      before.pipeline.Permits item.combination) : False := by
    obtain ⟨item, present, _⟩ := known
    rw [absent] at present
    cases present
  cases position with
  | compiling parent => exact (impossible checked).elim
  | installing handle => exact (impossible checked).elim
  | countingInstalled handle => exact (impossible checked).elim
  | adopting handle => exact (impossible checked).elim
  | _ => trivial

/-- What was checked for a call stays so, whatever happens to its instance. -/
theorem Vetted.later (vetted : call.Vetted before)
    (same : after.pipeline.shaders = before.pipeline.shaders)
    (evolves : before.store.Evolves after.store) : call.Vetted after := by
  cases call with
  | draw current => exact Draw.Checked.congr vetted same
  | optimize current =>
      rcases vetted with checked | lost
      · cases present : before.store.get? current.entry with
        | none => exact Or.inl (checked_of_absent checked present after)
        | some item =>
            cases later : after.store.get? current.entry with
            | none =>
                have inside := Nat.lt_of_lt_of_le (Store.lt_of_get? present) evolves.length_le
                exact Or.inr ⟨inside, later⟩
            | some evolved => exact Or.inl (checked.later after same evolves ⟨evolved, later⟩)
      · exact Or.inr (lost.later evolves)

theorem Vetted.answer (vetted : call.Vetted shared) (result : Except CacheError PipelineHandle) :
    (call.answer result).Vetted shared := by
  cases call with
  | draw current => exact Draw.Checked.answer vetted result
  | optimize current =>
      have entry : (current.answer result).entry = current.entry := by
        unfold Optimization.answer
        split <;> rfl
      refine Or.imp (fun checked => Optimization.Checked.answer checked result) (fun lost => ?_) vetted
      rwa [entry]

/-- The step of an optimization whose instance is gone changes nothing. -/
theorem step_of_absent {optimization : Optimization}
    (absent : shared.store.get? optimization.entry = none) :
    optimization.step shared = (optimization.moveTo (.finished false), shared, []) := by
  simp only [Optimization.step, absent]

theorem evolves_step (call : Call) (shared : Shared) :
    shared.store.Evolves (call.step shared).2.1.store := by
  cases call with
  | draw current => exact (current.effect_step shared).grows.store
  | optimize current =>
      cases present : shared.store.get? current.entry with
      | none =>
          rw [step, step_of_absent present]
          exact .refl _
      | some item => exact (current.effect_step shared ⟨item, present⟩).grows.store

theorem Vetted.step (vetted : call.Vetted shared) :
    (call.step shared).1.Vetted (call.step shared).2.1 := by
  have evolves := evolves_step call shared
  cases call with
  | draw current =>
      exact (Draw.Checked.step shared vetted).congr (current.shaders_step shared)
  | optimize current =>
      cases present : shared.store.get? current.entry with
      | none =>
          rw [Call.step, step_of_absent present]
          exact Or.inl trivial
      | some item =>
          have checked : current.Checked shared := by
            refine vetted.resolve_right fun lost => ?_
            rw [lost.2] at present
            cases present
          have entry : (current.step shared).1.entry = current.entry := entry_step current shared
          cases later : (current.step shared).2.1.store.get? current.entry with
          | some evolved => exact Or.inl (checked.step ⟨evolved, later⟩)
          | none =>
              have inside := Nat.lt_of_lt_of_le (Store.lt_of_get? present) evolves.length_le
              have lost : (current.step shared).2.1.HasLost current.entry := ⟨inside, later⟩
              rw [← entry] at lost
              exact Or.inr lost

/-- The list stays approved under the steps of calls that are vetted. -/
theorem Vetted.approved_step (vetted : call.Vetted shared) (approved : shared.Approved) :
    (call.step shared).2.1.Approved := by
  have same := call.shaders_step shared
  have evolves := evolves_step call shared
  have effect : call.Effect shared (call.step shared).1 (call.step shared).2.1
      ((call.step shared).2.2.filterMap Event.destroyed?) ∨ (call.step shared).2.1 = shared := by
    cases call with
    | draw current => exact Or.inl (current.effect_step shared)
    | optimize current =>
        cases present : shared.store.get? current.entry with
        | none =>
            refine Or.inr ?_
            rw [Call.step, step_of_absent present]
        | some item => exact Or.inl (current.effect_step shared ⟨item, present⟩)
  rcases effect with effect | unchanged
  · cases effect with
    | quiet _ listed _ _ => exact approved.later listed same evolves
    | installs _ _ _ _ listed _ _ => exact approved.later listed same evolves
    | discards _ _ listed _ _ _ => exact approved.later listed same evolves
    | enlists state pass handle position _ store listed _ _ =>
        obtain rfl : call = .draw ⟨state, pass, .enlisting handle⟩ := position
        have joined := (shared.store.get?_add
          { state := state, pass := pass, base := some handle } _).trans (if_pos rfl)
        rw [← store] at joined
        exact approved.append listed same evolves joined vetted
    | adopts entry handle item position present _ store listed _ _ =>
        obtain rfl : call = .optimize ⟨entry, .adopting handle⟩ := position
        have joined : (Call.step (.optimize ⟨entry, .adopting handle⟩) shared).2.1.store.get? entry =
            some item := by
          rw [store, Store.get?_hold, present]
        rcases vetted with checked | lost
        · obtain ⟨other, also, permits⟩ := checked
          obtain rfl : item = other := Option.some.inj (present.symm.trans also)
          exact approved.append listed same evolves joined permits
        · rw [lost.2] at present
          cases present
  · rwa [unchanged]

/-- What a vetted call asks of the device was checked. -/
theorem Vetted.permits {request : CompileRequest} (vetted : call.Vetted shared)
    (asked : call.request? shared = some request) :
    request.shaders = shared.pipeline.shaders ∧
      shared.pipeline.Permits (request.state, request.pass.format) := by
  have waits : (call.request? shared).isSome := by rw [asked, Option.isSome_some]
  rcases position_of_waits waits with ⟨state, pass, parent, rfl⟩ | ⟨entry, parent, rfl⟩
  · cases asked
    exact ⟨rfl, vetted⟩
  · simp only [request?, Optimization.request?] at asked
    split at asked
    · rename_i item same present
      cases asked
      rcases vetted with checked | lost
      · obtain ⟨other, also, permits⟩ := checked
        obtain rfl : item = other := Option.some.inj (present.symm.trans also)
        exact ⟨rfl, permits⟩
      · rw [lost.2] at present
        cases present
    · cases asked

end Call

namespace Engine

variable {before after engine : Engine} {id other : PipelineId} {pipeline : Pipeline} {call : Call}

/-- A call has taken no step yet, or it was checked for the pipeline that it is made on. -/
def Vets (engine : Engine) (id : PipelineId) (call : Call) : Prop :=
  call.isFresh = true ∨
    ∃ pipeline, engine.pipelines[id]? = some pipeline ∧ call.Vetted ⟨pipeline, engine.store⟩

structure Approved (engine : Engine) : Prop where
  listed : ∀ (id : PipelineId) (pipeline : Pipeline), engine.pipelines[id]? = some pipeline →
    Shared.Approved ⟨pipeline, engine.store⟩
  workers : ∀ job optimization, .compiling job optimization ∈ engine.compiler.workers →
    engine.Vets job.pipeline (.optimize optimization)

theorem Vets.vetted (vets : engine.Vets id call) (there : engine.pipelines[id]? = some pipeline) :
    call.Vetted ⟨pipeline, engine.store⟩ := by
  rcases vets with fresh | ⟨other, also, vetted⟩
  · exact Call.vetted_of_isFresh fresh _
  · obtain rfl : pipeline = other := Option.some.inj (there.symm.trans also)
    exact vetted

theorem Spares.kept (spares : before.Spares after) (there : before.pipelines[id]? = some pipeline) :
    after.pipelines[id]? = some pipeline := by
  obtain ⟨added, became, _⟩ := spares.pipelines
  rw [became, List.getElem?_append_left (List.getElem?_eq_some_iff.mp there).1, there]

theorem Vets.spared (vets : before.Vets id call) (spares : before.Spares after) :
    after.Vets id call := by
  refine vets.imp_right ?_
  rintro ⟨pipeline, there, vetted⟩
  exact ⟨pipeline, spares.kept there, vetted.later rfl spares.store⟩

theorem Approved.spared (approved : before.Approved) (spares : before.Spares after) :
    after.Approved where
  listed id pipeline there := by
    obtain ⟨added, became, empty⟩ := spares.pipelines
    rw [became] at there
    by_cases old : id < before.pipelines.length
    · rw [List.getElem?_append_left old] at there
      exact (approved.listed id pipeline there).later rfl rfl spares.store
    · rw [List.getElem?_append_right (Nat.le_of_not_lt old)] at there
      intro entry member
      rw [empty pipeline (List.mem_of_getElem? there)] at member
      cases member
  workers job optimization member := by
    rcases spares.workers _ member with old | fresh
    · exact (approved.workers job optimization old).spared spares
    · exact Or.inl fresh

/-- Nothing that was checked before is unchecked afterwards. -/
structure Keeps (before after : Engine) : Prop where
  approved : after.Approved
  vets : ∀ id call, before.Vets id call → after.Vets id call

theorem Keeps.trans {middle : Engine} (early : before.Keeps middle) (late : middle.Keeps after) :
    before.Keeps after :=
  ⟨late.approved, fun id call vets => late.vets id call (early.vets id call vets)⟩

theorem Spares.keeps (spares : before.Spares after) (approved : before.Approved) :
    before.Keeps after :=
  ⟨approved.spared spares, fun _ _ vets => vets.spared spares⟩

/-- A step of a call that was checked keeps what was checked. -/
theorem keeps_changeShared (approved : engine.Approved)
    (there : engine.pipelines[id]? = some pipeline) (vetted : call.Vetted ⟨pipeline, engine.store⟩) :
    engine.Keeps (engine.changeShared id (call.step ⟨pipeline, engine.store⟩).2.1) := by
  have same := call.shaders_step ⟨pipeline, engine.store⟩
  have evolves := call.evolves_step ⟨pipeline, engine.store⟩
  have vets (other : PipelineId) (another : Call) (vets : engine.Vets other another) :
      (engine.changeShared id (call.step ⟨pipeline, engine.store⟩).2.1).Vets other another := by
    refine vets.imp_right ?_
    rintro ⟨acting, found, checked⟩
    by_cases acts : other = id
    · subst acts
      obtain rfl : pipeline = acting := Option.some.inj (there.symm.trans found)
      have inside := (List.getElem?_eq_some_iff.mp there).1
      exact ⟨_, List.getElem?_set_self inside, checked.later same evolves⟩
    · exact ⟨acting, (List.getElem?_set_ne (Ne.symm acts)).trans found, checked.later rfl evolves⟩
  refine ⟨⟨fun other acting found => ?_, fun job optimization member => ?_⟩, vets⟩
  · rcases getElem?_set_cases found with old | ⟨rfl, rfl⟩
    · exact (approved.listed other acting old).later rfl rfl evolves
    · exact vetted.approved_step (approved.listed other pipeline there)
  · exact vets _ _ (approved.workers job optimization member)

theorem keeps_stepCall (approved : engine.Approved) (thread : Thread) (vets : engine.Vets id call) :
    engine.Keeps (engine.stepCall thread id call).2.engine ∧
      (engine.stepCall thread id call).2.engine.Vets id (engine.stepCall thread id call).1 := by
  unfold stepCall
  cases there : engine.pipelines[id]? with
  | none =>
      simp only [shared?, there, Option.map_none]
      exact ⟨(spares_refl engine).keeps approved, vets⟩
  | some pipeline =>
      simp only [shared?_of_getElem? there]
      have vetted := vets.vetted there
      have stepped := keeps_changeShared approved there vetted
      have absorbed := spares_absorb thread id
        (engine.changeShared id (call.step ⟨pipeline, engine.store⟩).2.1).unchanged
        (call.step ⟨pipeline, engine.store⟩).2.2
      have inside := (List.getElem?_eq_some_iff.mp there).1
      have moved : (engine.changeShared id (call.step ⟨pipeline, engine.store⟩).2.1).Vets id
          (call.step ⟨pipeline, engine.store⟩).1 :=
        Or.inr ⟨_, List.getElem?_set_self inside, vetted.step⟩
      exact ⟨stepped.trans (absorbed.keeps stepped.approved), moved.spared absorbed⟩

theorem vets_placeWorker (engine : Engine) (worker : Nat) (position : WorkerPosition)
    (vets : engine.Vets id call) : (engine.placeWorker worker position).Vets id call := by
  unfold placeWorker
  split <;> exact vets

theorem requestOf?_eq_some {request : CompileRequest}
    (asked : engine.requestOf? id call = some request) :
    ∃ pipeline, engine.pipelines[id]? = some pipeline ∧
      call.request? ⟨pipeline, engine.store⟩ = some request := by
  obtain ⟨shared, found, waits⟩ := Option.bind_eq_some_iff.mp asked
  obtain ⟨pipeline, there, rfl⟩ := Option.map_eq_some_iff.mp found
  exact ⟨pipeline, there, waits⟩

/-- The answer of the device keeps what was checked for a call. -/
theorem Vets.answer (vets : engine.Vets id call) (asked : (engine.requestOf? id call).isSome)
    (result : Except CacheError PipelineHandle) : engine.Vets id (call.answer result) := by
  obtain ⟨request, waits⟩ := Option.isSome_iff_exists.mp asked
  obtain ⟨pipeline, there, _⟩ := requestOf?_eq_some waits
  exact Or.inr ⟨pipeline, there, (vets.vetted there).answer result⟩

/-- A worker may be placed where its call was checked. -/
theorem keeps_placeWorker (approved : engine.Approved) (worker : Nat) (job : Job)
    {optimization : Optimization} (vets : engine.Vets job.pipeline (.optimize optimization)) :
    engine.Keeps (engine.placeWorker worker (.compiling job optimization)) := by
  refine ⟨⟨fun other acting found => ?_, fun task current member => ?_⟩,
    fun _ _ => vets_placeWorker engine worker _⟩
  · have same : (engine.placeWorker worker (.compiling job optimization)).pipelines =
          engine.pipelines ∧
        (engine.placeWorker worker (.compiling job optimization)).store = engine.store := by
      unfold placeWorker
      split <;> exact ⟨rfl, rfl⟩
    rw [same.1] at found
    rw [same.2]
    exact approved.listed other acting found
  · refine vets_placeWorker engine worker _ ?_
    unfold placeWorker at member
    split at member
    · exact approved.workers task current member
    · rename_i pool found
      rcases List.mem_or_eq_of_mem_set member with old | same
      · exact approved.workers task current (by rw [found]; exact old)
      · cases same
        exact vets

theorem workerAt?_mem {worker : Nat} {position : WorkerPosition}
    (stands : engine.workerAt? worker = some position) : position ∈ engine.compiler.workers := by
  unfold workerAt? at stands
  split at stands
  · cases stands
  · rename_i pool found
    rw [found]
    exact List.mem_of_getElem? stands

theorem keeps_stepWorker (approved : engine.Approved) (worker : Nat) :
    engine.Keeps (engine.stepWorker worker).engine := by
  have idle := (spares_refl engine).keeps approved
  have placed {position : WorkerPosition} (fresh : position.isFresh = true) :=
    spares_placeWorker engine worker fresh
  unfold stepWorker
  split
  · rename_i pool position found stands
    have recorded {other : Pool} {next : WorkerPosition} (same : other.workers = pool.workers)
        (fresh : next.isFresh = true) :
        engine.Spares { engine with compiler := .pool (other.place worker next) } := by
      refine spares_of_workers (.refl _) rfl fun position member => ?_
      rcases List.mem_or_eq_of_mem_set member with old | rfl
      · rw [found, Compiler.workers, ← same]
        exact Or.inl old
      · exact Or.inr fresh
    split
    · split
      · refine Spares.keeps ?_ approved
        exact recorded rfl rfl
      · split
        · exact idle
        · exact (placed rfl).keeps approved
    · refine (placed ?_).keeps approved
      split <;> rfl
    · rename_i job optimization
      split
      · exact (placed rfl).keeps approved
      · have vets := approved.workers job optimization (workerAt?_mem stands)
        obtain ⟨kept, moved⟩ := keeps_stepCall approved .compiler vets
        dsimp only
        split
        · rename_i next same
          rw [same] at moved
          exact kept.trans (keeps_placeWorker kept.approved worker job moved)
        · exact kept
    · refine Spares.keeps (.trans ?_ (spares_release _ _)) approved
      exact placed rfl
    · refine Spares.keeps ?_ approved
      exact recorded rfl rfl
    · exact idle
  · exact idle

theorem keeps_answerWorker (approved : engine.Approved) (worker : Nat)
    (result : Except CacheError PipelineHandle) (asked : (engine.workerRequest? worker).isSome) :
    engine.Keeps (engine.answerWorker worker result) := by
  unfold answerWorker
  split
  · rename_i job optimization stands
    simp only [workerRequest?, stands] at asked
    have vets := approved.workers job optimization (workerAt?_mem stands)
    exact keeps_placeWorker approved worker job (vets.answer asked result)
  · exact (spares_refl engine).keeps approved

end Engine

namespace Runtime

variable {before after runtime : Runtime} {move : Move} {moves : List Move}

structure Approved (runtime : Runtime) : Prop where
  engine : runtime.engine.Approved
  visits : ∀ visit ∈ runtime.visits, runtime.engine.Vets visit.pipeline visit.call

theorem approved_start (setup : Setup) (disk : Disk) : (start setup disk).Approved where
  engine :=
    { listed := fun id pipeline there => by cases there
      workers := fun job optimization member => by
        have resting : ∀ position ∈ (start setup disk).engine.compiler.workers,
            position = .waiting := by
          show ∀ position ∈ setup.compiler.compiler.workers, position = .waiting
          cases setup.compiler with
          | background workers => exact fun _ => List.eq_of_mem_replicate
          | _ => exact List.forall_mem_nil _
        cases resting _ member }
  visits := List.forall_mem_nil _

theorem approved_of_keeps (approved : before.Approved) (kept : before.engine.Keeps after.engine)
    (same : after.visits = before.visits) : after.Approved where
  engine := kept.approved
  visits visit member := kept.vets _ _ (approved.visits visit (same ▸ member))

theorem approved_of_spares (approved : before.Approved) (spares : before.engine.Spares after.engine)
    (same : after.visits = before.visits) : after.Approved :=
  approved_of_keeps approved (spares.keeps approved.engine) same

theorem approved_advance {index : Nat} {visit : Visit} (approved : before.Approved)
    (found : before.visits[index]? = some visit) : (before.advance index visit).Approved := by
  obtain ⟨kept, moved⟩ :=
    Engine.keeps_stepCall approved.engine .caller (approved.visits visit (List.mem_of_getElem? found))
  refine ⟨kept.approved, fun other member => ?_⟩
  rcases List.mem_or_eq_of_mem_set member with old | rfl
  · exact kept.vets _ _ (approved.visits other old)
  · exact moved

theorem approved_begins {visit : Visit} (approved : before.Approved)
    (fresh : visit.call.isFresh = true) :
    Approved { before with visits := before.visits ++ [visit] } := by
  refine ⟨approved.engine, fun other member => ?_⟩
  rcases List.mem_append.mp member with old | newest
  · exact approved.visits other old
  · rw [List.mem_singleton.mp newest]
    exact Or.inl fresh

theorem approved_answer {index : Nat} {visit : Visit} (approved : before.Approved)
    (found : before.visits[index]? = some visit)
    (asked : (before.engine.requestOf? visit.pipeline visit.call).isSome)
    (result : Except CacheError PipelineHandle) :
    Approved { before with
      visits := before.visits.set index { visit with call := visit.call.answer result } } := by
  refine ⟨approved.engine, fun other member => ?_⟩
  rcases List.mem_or_eq_of_mem_set member with old | rfl
  · exact approved.visits other old
  · exact (approved.visits visit (List.mem_of_getElem? found)).answer asked result

/-- A move that takes no part in a call on a pipeline. -/
def Move.isAside : Move → Bool
  | .draw .. | .optimize .. | .step _ | .answer .. | .work _ | .answerWorker .. => false
  | _ => true

theorem spares_of_isAside (aside : move.isAside = true) (moved : before.move? move = some after) :
    before.engine.Spares after.engine ∧ after.visits = before.visits := by
  cases move with
  | obtain shaders =>
      cases moved
      exact ⟨Engine.spares_obtainPipeline _ _ _, rfl⟩
  | create shaders optimizes reports =>
      cases moved
      exact ⟨Engine.spares_addPipeline _ _ rfl, rfl⟩
  | build item =>
      cases moved
      exact ⟨Engine.spares_of_same (Store.evolves_add _ _) rfl rfl, rfl⟩
  | share entry =>
      cases moved
      exact ⟨Engine.spares_of_same (Store.evolves_hold _ _) rfl rfl, rfl⟩
  | drop entry =>
      cases moved
      exact ⟨Engine.spares_release before.engine.unchanged entry, rfl⟩
  | install entry handle =>
      obtain ⟨store, set, rfl⟩ := Option.map_eq_some_iff.mp moved
      exact ⟨Engine.spares_of_same (Store.evolves_install set) rfl rfl, rfl⟩
  | report job =>
      cases moved
      exact ⟨Engine.spares_report _ _, rfl⟩
  | offer job =>
      cases moved
      exact ⟨Engine.spares_offerJob _ _, rfl⟩
  | collect =>
      cases moved
      exact ⟨Engine.spares_takeRecorded _, rfl⟩
  | write =>
      cases moved
      exact ⟨Engine.spares_stepWriter _, rfl⟩
  | look result =>
      cases moved
      exact ⟨Engine.spares_continueLookup _ _, rfl⟩
  | stopCompiler =>
      cases moved
      exact ⟨Engine.spares_stopCompiler _, rfl⟩
  | attach | provide | stopCache =>
      cases moved
      exact ⟨Engine.spares_of_same (.refl _) rfl rfl, rfl⟩
  | _ => exact absurd aside Bool.false_ne_true

theorem approved_move (approved : before.Approved) (moved : before.move? move = some after) :
    after.Approved := by
  by_cases aside : move.isAside = true
  · obtain ⟨spares, same⟩ := spares_of_isAside aside moved
    exact approved_of_spares approved spares same
  cases move with
  | draw pipeline state pass =>
      cases moved
      exact approved_begins approved rfl
  | optimize pipeline entry =>
      cases moved
      exact approved_begins approved rfl
  | step index =>
      obtain ⟨visit, found, rfl⟩ := Option.map_eq_some_iff.mp moved
      exact approved_advance approved found
  | answer index result =>
      obtain ⟨visit, found, asked, rfl⟩ := exists_of_answer moved
      exact approved_answer approved found asked result
  | work worker =>
      cases moved
      exact approved_of_keeps approved (Engine.keeps_stepWorker approved.engine worker) rfl
  | answerWorker worker result =>
      obtain ⟨asked, same⟩ := Option.ite_none_right_eq_some.mp moved
      cases same
      have keeps := Engine.keeps_answerWorker approved.engine worker result asked
      exact approved_of_keeps approved keeps rfl
  | _ => exact absurd rfl aside

theorem approved_run {setup : Setup} {disk : Disk} (ran : (start setup disk).run? moves = some runtime) :
    runtime.Approved :=
  Run.kept (motive := Approved) (fun _ _ _ => approved_move) (approved_start setup disk) ran

/-- What the device is asked for a pipeline and has not answered yet, by a draw, by an optimization that
somebody outside has begun, or by a worker of the background compiler. -/
inductive Asked (runtime : Runtime) (id : PipelineId) (request : CompileRequest) : Prop
  | outside (visit : Visit) (member : visit ∈ runtime.visits) (acts : visit.pipeline = id)
      (waits : runtime.engine.requestOf? id visit.call = some request)
  | worker (worker : Nat) (job : Job) (optimization : Optimization)
      (stands : runtime.engine.workerAt? worker = some (.compiling job optimization))
      (acts : job.pipeline = id) (waits : runtime.engine.workerRequest? worker = some request)

/-- In every state of every run, whatever the cache file was and whoever stopped what: all that the device
is asked for a pipeline, and all that stands in its list, is accepted by the check for its own shaders,
and so fits them. -/
theorem device_sees_valid_states {setup : Setup} {disk : Disk}
    (ran : (start setup disk).run? moves = some runtime) :
    (∀ id request, runtime.Asked id request → ∃ pipeline,
      runtime.engine.pipelines[id]? = some pipeline ∧ request.shaders = pipeline.shaders ∧
      pipeline.validate request.state request.pass.format = .ok () ∧
      request.state.Fits pipeline.shaders request.pass.format) ∧
    ∀ (id : PipelineId) (pipeline : Pipeline), runtime.engine.pipelines[id]? = some pipeline →
      ∀ entry ∈ pipeline.instances, ∀ item, runtime.engine.store.get? entry = some item →
        pipeline.validate item.state item.pass.format = .ok () ∧
        item.state.Fits pipeline.shaders item.pass.format := by
  have approved := approved_run ran
  have admitted {id : PipelineId} {call : Call} {request : CompileRequest}
      (vets : runtime.engine.Vets id call) (waits : runtime.engine.requestOf? id call = some request) :
      ∃ pipeline, runtime.engine.pipelines[id]? = some pipeline ∧
        request.shaders = pipeline.shaders ∧
        pipeline.validate request.state request.pass.format = .ok () ∧
        request.state.Fits pipeline.shaders request.pass.format := by
    obtain ⟨pipeline, there, asked⟩ := Engine.requestOf?_eq_some waits
    obtain ⟨same, permits⟩ := (vets.vetted there).permits asked
    exact ⟨pipeline, there, same, permits, (pipeline.validate_eq_ok_iff _ _).mp permits⟩
  refine ⟨fun id request asked => ?_, fun id pipeline there entry member item present => ?_⟩
  · cases asked with
    | outside visit member acts waits =>
        subst acts
        exact admitted (approved.visits visit member) waits
    | worker worker job optimization stands acts waits =>
        subst acts
        rw [Engine.workerRequest?, stands] at waits
        exact admitted
          (approved.engine.workers job optimization (Engine.workerAt?_mem stands)) waits
  · obtain ⟨_, fits⟩ := approved.engine.listed id pipeline there entry member
    have permits := fits item present
    exact ⟨permits, (pipeline.validate_eq_ok_iff _ _).mp permits⟩

/-- A draw makes an instance and hands it to a worker, another one asks for patches without tessellation
shaders, and a third one asks for something new while the worker is still compiling. -/
def threeDraws (handle : PipelineHandle) : List Move :=
  [.obtain {}, .draw 0 {} ⟨1, {}⟩, .step 0, .step 0, .answer 0 (.ok handle)] ++
    List.replicate 5 (.step 0) ++ List.replicate 4 (.work 0) ++
    [.draw 0 { inputAssembly := { patchVertexCount := 3 } } ⟨1, {}⟩, .step 1, .step 1,
      .draw 0 {} ⟨1, { sampleCount := 4 }⟩, .step 2, .step 2]

/-- The second draw is refused; the worker and the third draw ask the device, for valid states. -/
theorem device_sees_valid_states_threeDraws : ∃ runtime,
    (start { compiler := .background 1, cache := none } {}).run? (threeDraws ⟨1, by decide⟩) =
      some runtime ∧
    runtime.visits[1]?.map (fun visit => visit.call.isFinished) = some true ∧
    (∃ request, runtime.Asked 0 request ∧ request.mode = .optimized ∧
      request.state.Fits request.shaders request.pass.format) ∧
    ∃ request, runtime.Asked 0 request ∧ request.mode = .fast ∧
      request.state.Fits request.shaders request.pass.format := by
  have possible : ((start { compiler := .background 1, cache := none } {}).run?
      (threeDraws ⟨1, by decide⟩)).any (fun runtime =>
        decide (runtime.visits[1]?.map (fun visit => visit.call.isFinished) = some true) &&
        decide (runtime.engine.workerAt? 0 = some (.compiling ⟨0, 0⟩ ⟨0, .compiling none⟩)) &&
        decide (runtime.visits[2]? = some ⟨0, .draw ⟨{}, ⟨1, { sampleCount := 4 }⟩,
          .compiling (some ⟨1, by decide⟩)⟩⟩) &&
        decide ((runtime.engine.workerRequest? 0).map CompileRequest.mode = some .optimized) &&
        decide (runtime.engine.pipelines.length = 1)) = true := by decide +kernel
  simp only [Option.any_eq_true, Bool.and_eq_true, decide_eq_true_eq] at possible
  obtain ⟨runtime, ran, ⟨⟨⟨refused, stands⟩, third⟩, optimized⟩, sole⟩ := possible
  obtain ⟨valid, _⟩ := device_sees_valid_states ran
  have fits {request : CompileRequest} (asked : runtime.Asked 0 request) :
      request.state.Fits request.shaders request.pass.format := by
    obtain ⟨pipeline, _, same, _, fits⟩ := valid 0 request asked
    rwa [same]
  obtain ⟨request, waits, mode⟩ := Option.map_eq_some_iff.mp optimized
  have working : runtime.Asked 0 request := .worker 0 ⟨0, 0⟩ _ stands rfl waits
  obtain ⟨pipeline, there⟩ : ∃ pipeline, runtime.engine.pipelines[0]? = some pipeline :=
    ⟨_, List.getElem?_eq_getElem (by omega)⟩
  have drawing : runtime.Asked 0 (pipeline.request .fast {} ⟨1, { sampleCount := 4 }⟩
      (some ⟨1, by decide⟩)) := by
    refine .outside _ (List.mem_of_getElem? third) rfl ?_
    rw [Engine.requestOf?, Engine.shared?_of_getElem? there]
    rfl
  exact ⟨runtime, ran, refused, ⟨request, working, mode, fits working⟩, _, drawing, rfl, fits drawing⟩

end Runtime

end PipelineCache

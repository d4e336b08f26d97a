import PipelineCache.Engine.Schedule
import PipelineCache.Proofs.Session.Warmth

/-! Drawing with a key that is warm. A draw finds the optimized instance at its first look, reads its
handle and returns it. It asks the device for nothing, whatever else goes on at the same time; and if
nothing else does, it leaves everything as it is. -/

namespace PipelineCache

/-- The draw has not met anything but a certain instance, and returns a certain handle. -/
def DrawPosition.Finds (entry : InstanceId) (handle : PipelineHandle) : DrawPosition → Prop
  | .scanning => True
  | .reading met => met = entry
  | .finished result => result = some handle
  | _ => False

namespace Draw

variable {draw : Draw} {shared : Shared} {entry : InstanceId} {handle : PipelineHandle}

theorem finds_step (supplies : shared.Supplies draw.state draw.pass.format entry handle)
    (finds : draw.position.Finds entry handle) : (draw.step shared).1.position.Finds entry handle := by
  obtain ⟨found, item, present, fast⟩ := supplies
  obtain ⟨state, pass, position⟩ := draw
  cases position with
  | scanning =>
      simp only [step, found]
      exact rfl
  | reading met =>
      obtain rfl : met = entry := finds
      simp only [step, present, Option.bind_some, Instance.handle, fast, Option.some_or]
      exact rfl
  | finished result => exact finds
  | _ => cases finds

theorem finds_answer (finds : draw.position.Finds entry handle)
    (result : Except CacheError PipelineHandle) : (draw.answer result).position.Finds entry handle := by
  obtain ⟨state, pass, position⟩ := draw
  cases position with
  | compiling parent => cases finds
  | _ => exact finds

theorem request?_of_finds (finds : draw.position.Finds entry handle) (shared : Shared) :
    draw.request? shared = none := by
  obtain ⟨state, pass, position⟩ := draw
  cases position with
  | compiling parent => cases finds
  | _ => rfl

end Draw

/-! ### Among others -/

/-- A draw draws what a key stands for. -/
def Drawing.Draws (drawing : Drawing) (key : PipelineKey) : Prop :=
  drawing.shaders.keys = key.shaders ∧ drawing.draw.state = key.state ∧
    drawing.draw.pass.format = key.format

theorem Drawing.Draws.earlier {before after : Drawing} {key : PipelineKey} (draws : after.Draws key)
    (continues : before.Continues after) : before.Draws key := by
  obtain ⟨shaders, _, state, pass⟩ := continues
  rwa [Drawing.Draws, shaders, state, pass] at draws

namespace Overview

variable {fails : Bool} {view next : Overview} {loaded : List PipelineKey} {key : PipelineKey}
  {id : PipelineId} {entry : InstanceId} {handle : PipelineHandle} {shaders : ShaderSet}

/-- All draws of a key find the instance that serves it. -/
structure Supplied (view : Overview) (key : PipelineKey) (id : PipelineId) (entry : InstanceId)
    (handle : PipelineHandle) : Prop where
  serves : view.Serves key id entry handle
  draws : ∀ drawing ∈ view.drawings, drawing.Draws key →
    drawing.pipeline = id ∧ drawing.draw.position.Finds entry handle

/-- The manager leads to the pipeline that serves a key. -/
theorem Serves.lookup_eq (serves : view.Serves key id entry handle) (tabled : view.Tabled)
    (same : shaders.keys = key.shaders) : view.manager.table.lookup shaders.keys = some id := by
  obtain ⟨pipeline, there, keys, _⟩ := serves
  rw [same, ← keys]
  exact tabled.found id pipeline there

theorem Supplied.step (orderly : view.Orderly loaded) (supplied : view.Supplied key id entry handle)
    (stepped : Step fails view next) : next.Supplied key id entry handle := by
  have later := (orderly.step stepped).accounted
  have grows := stepped.grows orderly.accounted orderly.founded
  refine ⟨supplied.serves.later orderly.accounted later grows, ?_⟩
  cases stepped with
  | begins shaders state pass =>
      intro drawing member draws
      rcases List.mem_append.mp member with old | newest
      · exact supplied.draws drawing old draws
      · rw [List.mem_singleton.mp newest] at draws ⊢
        have leads := supplied.serves.lookup_eq orderly.tabled draws.1
        refine ⟨?_, trivial⟩
        simp only [obtain, leads]
  | draws index acting pipeline found there reported =>
      intro drawing member draws
      rcases List.mem_or_eq_of_mem_set member with old | rfl
      · exact supplied.draws drawing old draws
      · have drew := draws.earlier (acting.continues_step _)
        obtain ⟨acts, finds⟩ := supplied.draws acting (List.mem_of_getElem? found) drew
        obtain ⟨same, also, _, supplies⟩ := supplied.serves
        rw [← acts, there] at also
        obtain rfl := Option.some.inj also
        rw [← drew.2.1, ← drew.2.2] at supplies
        exact ⟨acts, acting.draw.finds_step supplies finds⟩
  | answers index acting result found =>
      intro drawing member draws
      rcases List.mem_or_eq_of_mem_set member with old | rfl
      · exact supplied.draws drawing old draws
      · have drew := draws.earlier (acting.continues_answer result)
        obtain ⟨acts, finds⟩ := supplied.draws acting (List.mem_of_getElem? found) drew
        exact ⟨acts, Draw.finds_answer finds result⟩
  | builds ready others position =>
      rw [obtain_eq]
      exact supplied.draws
  | _ => exact supplied.draws

theorem Supplied.steps (orderly : view.Orderly loaded) (supplied : view.Supplied key id entry handle)
    (steps : Steps fails view next) : next.Orderly loaded ∧ next.Supplied key id entry handle := by
  induction steps with
  | refl => exact ⟨orderly, supplied⟩
  | tail _ stepped ih => exact ⟨ih.1.step stepped, ih.2.step ih.1 stepped⟩

end Overview

/-! ### Alone -/

variable {n : Type → Type} [Monad n]

theorem Engine.stepCall_unchanged {engine : Engine} {id : PipelineId} {pipeline : Pipeline}
    (there : engine.pipelines[id]? = some pipeline) (thread : Thread) {call next : Call}
    (stays : call.step ⟨pipeline, engine.store⟩ = (next, ⟨pipeline, engine.store⟩, [])) :
    engine.stepCall thread id call = (next, engine.unchanged) := by
  obtain ⟨inside, same⟩ := List.getElem?_eq_some_iff.mp there
  simp only [stepCall, shared?_of_getElem? there, stays, List.foldl_nil]
  rw [← same, List.set_getElem_self]

namespace Surroundings

variable {engine : Engine} {id : PipelineId} {pipeline : Pipeline} {state : PipelineState}
  {pass : RenderPass} {entry : InstanceId} {handle : PipelineHandle} {thread : Thread}
  {call next : Call}

theorem run_runCall_finished (around : Surroundings (StateT Engine n)) (steps : Nat)
    (finished : call.isFinished = true) :
    (around.runCall thread id (steps + 1) call).run engine = pure (call, engine) := by
  simp [runCall, finished]

variable [LawfulMonad n]

/-- A step of a call that leaves everything as it is. -/
theorem run_runCall_succ (around : Surroundings (StateT Engine n)) (steps : Nat)
    (running : call.isFinished = false) (unasked : engine.requestOf? id call = none)
    (stays : engine.stepCall thread id call = (next, engine.unchanged)) :
    (around.runCall thread id (steps + 1) call).run engine =
      (around.runCall thread id steps next).run engine := by
  simp [runCall, running, unasked, performWith, stays, Engine.unchanged]

/-- A draw that finds an optimized instance returns its handle at once: it asks the device for nothing,
and leaves everything as it is. -/
theorem run_draw (around : Surroundings (StateT Engine n))
    (there : engine.pipelines[id]? = some pipeline)
    (supplies : Shared.Supplies ⟨pipeline, engine.store⟩ state pass.format entry handle) :
    (around.draw id state pass).run engine = pure (some handle, engine) := by
  obtain ⟨found, item, present, fast⟩ := supplies
  have unasked {position : DrawPosition} (finds : position.Finds entry handle) :
      engine.requestOf? id (.draw ⟨state, pass, position⟩) = none := by
    rw [Engine.requestOf?, Engine.shared?_of_getElem? there, Option.bind_some]
    exact Draw.request?_of_finds finds _
  have scans : engine.stepCall .caller id (.draw ⟨state, pass, .scanning⟩) =
      (.draw ⟨state, pass, .reading entry⟩, engine.unchanged) := by
    refine Engine.stepCall_unchanged there .caller ?_
    simp only [Call.step, Draw.step, found, Draw.moveTo]
  have reads : engine.stepCall .caller id (.draw ⟨state, pass, .reading entry⟩) =
      (.draw ⟨state, pass, .finished (some handle)⟩, engine.unchanged) := by
    refine Engine.stepCall_unchanged there .caller ?_
    simp [Call.step, Draw.step, present, Draw.moveTo, Instance.handle, fast]
  have ran : (around.runCall .caller id Call.stepBound (.draw ⟨state, pass, .scanning⟩)).run engine =
      pure (.draw ⟨state, pass, .finished (some handle)⟩, engine) :=
    calc (around.runCall .caller id 12 (.draw ⟨state, pass, .scanning⟩)).run engine
      _ = (around.runCall .caller id 11 (.draw ⟨state, pass, .reading entry⟩)).run engine :=
          around.run_runCall_succ 11 rfl (unasked trivial) scans
      _ = (around.runCall .caller id 10 (.draw ⟨state, pass, .finished (some handle)⟩)).run engine :=
          around.run_runCall_succ 10 rfl (unasked rfl) reads
      _ = _ := around.run_runCall_finished 9 rfl
  simp [draw, ran, Call.handle?]

end Surroundings

end PipelineCache

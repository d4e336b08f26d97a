import PipelineCache.Proofs.Runtime.Basic
import PipelineCache.Proofs.Traffic.Holders
import PipelineCache.Proofs.Worker.Step

/-! The store of an engine keeps no instance that nothing holds, whatever goes on around it and inside
it. Instances come with a holder, and go with the last one. -/

namespace PipelineCache

theorem Optimization.sound_step {optimization : Optimization} {shared : Shared}
    (sound : shared.store.Sound) : (optimization.step shared).2.1.store.Sound := by
  cases present : shared.store.get? optimization.entry with
  | none => simpa only [step, present] using sound
  | some item =>
      have effect := optimization.effect_step shared ⟨item, present⟩
      exact (Traffic.holders_effect effect sound optimization.entry).1

theorem Draw.sound_step {draw : Draw} {shared : Shared} (sound : shared.store.Sound) :
    (draw.step shared).2.1.store.Sound :=
  (Traffic.holders_effect (draw.effect_step shared) sound 0).1

theorem Call.sound_step (call : Call) {shared : Shared} (sound : shared.store.Sound) :
    (call.step shared).2.1.store.Sound := by
  cases call with
  | draw current => exact Draw.sound_step sound
  | optimize current => exact Optimization.sound_step sound

namespace Engine

variable {engine : Engine} {turn : Turn} {thread : Thread} {id : PipelineId}

theorem sound_releaseAll (sound : turn.engine.store.Sound) (entries : List InstanceId) :
    (turn.releaseAll entries).engine.store.Sound := by
  induction entries generalizing turn with
  | nil => exact sound
  | cons entry entries ih => exact ih (Store.sound_release sound entry)

theorem sound_report (sound : engine.store.Sound) (job : Job) : (engine.report job).store.Sound := by
  unfold report
  split
  · exact sound
  · split
    · exact Store.sound_hold sound job.entry
    · exact sound

theorem sound_offerJob (sound : engine.store.Sound) (job : Job) :
    (engine.offerJob job).store.Sound := by
  unfold offerJob
  split
  · exact Store.sound_hold sound job.entry
  · exact sound

theorem sound_absorb (sound : turn.engine.store.Sound) (events : List Event) :
    (events.foldl (absorb thread id) turn).engine.store.Sound := by
  induction events generalizing turn with
  | nil => exact sound
  | cons event events ih =>
      refine ih ?_
      cases event with
      | reported entry => exact sound_report sound ⟨id, entry⟩
      | queued entry => exact sound_offerJob sound ⟨id, entry⟩
      | _ => exact sound

theorem sound_stepCall (sound : engine.store.Sound) (call : Call) :
    (engine.stepCall thread id call).2.engine.store.Sound := by
  cases there : engine.pipelines[id]? with
  | none =>
      simp only [stepCall, shared?, there, Option.map_none]
      exact sound
  | some pipeline =>
      have stepped : (call.step ⟨pipeline, engine.store⟩).2.1.store.Sound := call.sound_step sound
      simp only [stepCall, shared?_of_getElem? there]
      exact sound_absorb stepped _

theorem sound_obtainPipeline (sound : engine.store.Sound) (shaders : ShaderSet) :
    (engine.obtainPipeline thread shaders).2.engine.store.Sound := by
  unfold obtainPipeline
  split <;> exact sound

theorem sound_stepWriter (sound : engine.store.Sound) : engine.stepWriter.engine.store.Sound := by
  unfold stepWriter
  split
  · exact sound
  · split
    · dsimp only
      split
      · exact sound
      · exact sound
      · exact sound_releaseAll sound _
    · split
      · exact sound
      · rw [engine_recordKey]
        exact Store.sound_release sound _
    · exact sound
    · exact sound

theorem sound_submitRemembered (sound : engine.store.Sound) (key : PipelineKey) (pipeline : PipelineId)
    (pass : RenderPass) : (engine.submitRemembered key pipeline pass).engine.store.Sound := by
  have added : (engine.addInstance { state := key.state, pass := pass }).2.store.Sound :=
    Store.sound_add sound _
  exact Store.sound_release (sound_offerJob added _) _

theorem sound_continueLookup (sound : engine.store.Sound) (result : Except CacheError UInt64) :
    (engine.continueLookup result).store.Sound := by
  unfold continueLookup
  split
  · unfold answerLookup
    split
    · exact sound
    · split
      · dsimp only
        split <;> exact sound
      · exact sound
  · unfold stepLookup
    split
    · exact sound
    · split
      · exact sound
      · exact sound
      · exact sound
      · exact sound_obtainPipeline sound _
      · split <;> exact sound
      · exact sound_submitRemembered sound _ _ _
      · exact sound
      · exact sound

theorem sound_placeWorker (sound : engine.store.Sound) (worker : Nat) (position : WorkerPosition) :
    (engine.placeWorker worker position).store.Sound := by
  unfold placeWorker
  split <;> exact sound

theorem sound_stepWorker (sound : engine.store.Sound) (worker : Nat) :
    (engine.stepWorker worker).engine.store.Sound := by
  unfold stepWorker
  split
  · split
    · split
      · exact sound
      · split
        · exact sound
        · exact sound_placeWorker sound worker _
    · exact sound_placeWorker sound worker _
    · split
      · exact sound_placeWorker sound worker _
      · dsimp only
        split
        · exact sound_placeWorker (sound_stepCall sound _) worker _
        · exact sound_stepCall sound _
    · exact Store.sound_release (sound_placeWorker sound worker _) _
    · exact sound
    · exact sound
  · exact sound

theorem sound_answerWorker (sound : engine.store.Sound) (worker : Nat)
    (result : Except CacheError PipelineHandle) : (engine.answerWorker worker result).store.Sound := by
  unfold answerWorker
  split
  · exact sound_placeWorker sound worker _
  · exact sound

theorem sound_takeRecorded (sound : engine.store.Sound) : engine.takeRecorded.2.store.Sound := by
  unfold takeRecorded
  split <;> exact sound

theorem sound_stopCompiler (sound : engine.store.Sound) : engine.stopCompiler.store.Sound := by
  unfold stopCompiler
  split <;> exact sound

end Engine

namespace Runtime

variable {setup : Setup} {disk : Disk} {before after runtime : Runtime} {move : Move} {moves : List Move}

theorem sound_start (setup : Setup) (disk : Disk) : (start setup disk).engine.store.Sound := by
  have empty : (start setup disk).engine.store = {} := rfl
  intro id held present
  rw [empty] at present
  cases present

theorem sound_move (sound : before.engine.store.Sound) (moved : before.move? move = some after) :
    after.engine.store.Sound := by
  cases move with
  | obtain shaders =>
      cases moved
      exact Engine.sound_obtainPipeline sound shaders
  | step index =>
      obtain ⟨visit, _, rfl⟩ := Option.map_eq_some_iff.mp moved
      exact Engine.sound_stepCall sound visit.call
  | answer index result =>
      obtain ⟨_, _, _, rfl⟩ := exists_of_answer moved
      exact sound
  | build item =>
      cases moved
      exact Store.sound_add sound item
  | share entry =>
      cases moved
      exact Store.sound_hold sound entry
  | drop entry =>
      cases moved
      exact Store.sound_release sound entry
  | install entry handle =>
      obtain ⟨store, set, rfl⟩ := Option.map_eq_some_iff.mp moved
      exact Store.sound_install sound set
  | report job =>
      cases moved
      exact Engine.sound_report sound job
  | offer job =>
      cases moved
      exact Engine.sound_offerJob sound job
  | collect =>
      cases moved
      exact Engine.sound_takeRecorded sound
  | write =>
      cases moved
      exact Engine.sound_stepWriter sound
  | look result =>
      cases moved
      exact Engine.sound_continueLookup sound result
  | work worker =>
      cases moved
      exact Engine.sound_stepWorker sound worker
  | answerWorker worker result =>
      obtain ⟨_, same⟩ := Option.ite_none_right_eq_some.mp moved
      cases same
      exact Engine.sound_answerWorker sound worker result
  | stopCompiler =>
      cases moved
      exact Engine.sound_stopCompiler sound
  | _ =>
      cases moved
      exact sound

theorem sound_run (ran : (start setup disk).run? moves = some runtime) : runtime.engine.store.Sound :=
  Run.kept (motive := fun runtime => runtime.engine.store.Sound) (fun _ _ _ => sound_move)
    (sound_start setup disk) ran

end Runtime

end PipelineCache

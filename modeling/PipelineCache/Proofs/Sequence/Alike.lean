import Mathlib.Logic.Basic
import PipelineCache.Proofs.Sequence.Requests
import PipelineCache.Proofs.Worker.Step

/-! Engines that differ only in how many failures their pipelines have counted, and in the numbers that
the device has given out. They serve every request alike, and are alike afterwards. -/

namespace PipelineCache

/-! ### What is forgotten -/

def Pipeline.forget (pipeline : Pipeline) : Pipeline :=
  { pipeline with counters := { pipeline.counters with failures := 0 } }

namespace Shared

def forget (shared : Shared) : Shared := { shared with pipeline := shared.pipeline.forget }

/-- What a step leads to, but for the count of failures. -/
def forgetting {α : Type} (stepped : α × Shared × List Event) : α × Shared × List Event :=
  (stepped.1, stepped.2.1.forget, stepped.2.2)

end Shared

/-- No step depends on the count of failures. -/
theorem Draw.step_forget (draw : Draw) (shared : Shared) :
    Shared.forgetting (draw.step shared.forget) = Shared.forgetting (draw.step shared) := by
  obtain ⟨state, pass, position⟩ := draw
  have find : shared.forget.find? state pass.format = shared.find? state pass.format := rfl
  have validate : shared.forget.pipeline.validate state pass.format =
      shared.pipeline.validate state pass.format := rfl
  cases position with
  | scanning =>
      simp only [step, find]
      split <;> rfl
  | preparing =>
      simp only [step, validate]
      split <;> rfl
  | enlisting handle =>
      simp only [step, find]
      split <;> rfl
  | _ => rfl

theorem Optimization.step_forget (optimization : Optimization) (shared : Shared) :
    Shared.forgetting (optimization.step shared.forget) =
      Shared.forgetting (optimization.step shared) := by
  obtain ⟨entry, position⟩ := optimization
  have store : shared.forget.store = shared.store := rfl
  cases present : shared.store.get? entry with
  | none =>
      simp only [step, store, present]
      rfl
  | some realized =>
      have find : shared.forget.find? realized.state realized.pass.format =
          shared.find? realized.state realized.pass.format := rfl
      have validate : shared.forget.pipeline.validate realized.state realized.pass.format =
          shared.pipeline.validate realized.state realized.pass.format := rfl
      simp only [step, store, present]
      cases position with
      | preparing =>
          simp only [validate]
          split <;> rfl
      | installing handle =>
          simp only
          split <;> rfl
      | adopting handle =>
          simp only [adoption, find]
          split
          · rfl
          · split <;> rfl
      | _ => rfl

theorem Call.step_forget (call : Call) (shared : Shared) :
    Shared.forgetting (call.step shared.forget) = Shared.forgetting (call.step shared) := by
  cases call with
  | draw current =>
      have same := current.step_forget shared
      simp only [Shared.forgetting, Prod.mk.injEq] at same
      simp only [Shared.forgetting, step, same]
  | optimize current =>
      have same := current.step_forget shared
      simp only [Shared.forgetting, Prod.mk.injEq] at same
      simp only [Shared.forgetting, step, same]

namespace Engine

def forget (engine : Engine) : Engine :=
  { engine with pipelines := engine.pipelines.map Pipeline.forget }

end Engine

def Turn.forget (turn : Turn) : Turn := { turn with engine := turn.engine.forget }

namespace Engine

variable (engine : Engine) (thread : Thread) (id : PipelineId) (call : Call)

theorem shared?_forget : engine.forget.shared? id = (engine.shared? id).map Shared.forget := by
  simp only [shared?, forget, List.getElem?_map]
  cases engine.pipelines[id]? <;> rfl

theorem report_forget (job : Job) : engine.forget.report job = (engine.report job).forget := by
  have cache : engine.forget.cache = engine.cache := rfl
  simp only [report, cache]
  split
  · rfl
  · split <;> rfl

theorem offerJob_forget (job : Job) : engine.forget.offerJob job = (engine.offerJob job).forget := by
  have compiler : engine.forget.compiler = engine.compiler := rfl
  simp only [offerJob, compiler]
  split <;> rfl

theorem absorb_forget (turn : Turn) (event : Event) :
    absorb thread id turn.forget event = (absorb thread id turn event).forget := by
  cases event with
  | reported entry => exact congrArg (Turn.mk · turn.notices) (report_forget turn.engine ⟨id, entry⟩)
  | queued entry => exact congrArg (Turn.mk · turn.notices) (offerJob_forget turn.engine ⟨id, entry⟩)
  | _ => rfl

theorem foldl_absorb_forget (events : List Event) (turn : Turn) :
    events.foldl (absorb thread id) turn.forget = (events.foldl (absorb thread id) turn).forget := by
  induction events generalizing turn with
  | nil => rfl
  | cons event events ih => rw [List.foldl_cons, List.foldl_cons, absorb_forget, ih]

theorem forget_changeShared (changed : Shared) :
    (engine.changeShared id changed).forget = engine.forget.changeShared id changed.forget := by
  simp only [changeShared, forget, List.map_set]
  rfl

theorem forget_forget : engine.forget.forget = engine.forget := by
  simp [forget, Pipeline.forget, Function.comp_def]

/-- A step of a call, but for the count of failures. -/
theorem stepCall_forget : (engine.forget.stepCall thread id call).1 = (engine.stepCall thread id call).1 ∧
    (engine.forget.stepCall thread id call).2.forget = (engine.stepCall thread id call).2.forget := by
  simp only [stepCall, shared?_forget]
  cases engine.shared? id with
  | none => exact ⟨rfl, by simp [unchanged, Turn.forget, forget_forget]⟩
  | some common =>
      have same := call.step_forget common
      simp only [Shared.forgetting, Prod.mk.injEq] at same
      obtain ⟨next, changed, events⟩ := same
      simp only [Option.map_some, next, events]
      refine ⟨trivial, ?_⟩
      rw [← foldl_absorb_forget, ← foldl_absorb_forget]
      congr 1
      change Turn.mk (engine.forget.changeShared id _).forget [] =
        Turn.mk (engine.changeShared id _).forget []
      rw [forget_changeShared, forget_changeShared, changed, forget_forget]

theorem isSome_requestOf?_forget :
    (engine.forget.requestOf? id call).isSome = (engine.requestOf? id call).isSome := by
  simp only [requestOf?, shared?_forget]
  cases engine.shared? id with
  | none => rfl
  | some common => rfl

theorem release_forget (entry : InstanceId) :
    engine.forget.release entry = (engine.release entry).forget := rfl

/-! ### Engines that are alike -/

/-- The engines differ only in the counts of failures and in what the device has named its things. -/
def Alike (rename : Renaming) (engine other : Engine) : Prop :=
  (rename.engine engine).forget = other.forget

variable {rename : Renaming} {engine other : Engine}

theorem Alike.earlier {later : Engine} (alike : Alike rename engine other)
    (same : later.forget = engine.forget) : Alike rename later other := by
  have commutes (whole : Engine) : (rename.engine whole).forget = rename.engine whole.forget := by
    simp only [forget, Renaming.engine, List.map_map]
    rfl
  rw [Alike, commutes, same, ← commutes]
  exact alike

theorem Alike.stepCall (alike : Alike rename engine other) (thread : Thread) (id : PipelineId)
    (call : Call) :
    (other.stepCall thread id (rename.call call)).1 = rename.call (engine.stepCall thread id call).1 ∧
    Alike rename (engine.stepCall thread id call).2.engine
      (other.stepCall thread id (rename.call call)).2.engine ∧
    (other.stepCall thread id (rename.call call)).2.notices =
      (engine.stepCall thread id call).2.notices.map rename.notice := by
  obtain ⟨next, turn⟩ := stepCall_forget other thread id (rename.call call)
  obtain ⟨renamedNext, renamedTurn⟩ :=
    stepCall_forget (rename.engine engine) thread id (rename.call call)
  have renamed := rename.stepCall_engine engine thread id call
  rw [alike, renamed] at renamedNext renamedTurn
  have turns := turn.symm.trans renamedTurn
  exact ⟨next.symm.trans renamedNext, (congrArg Turn.engine turns).symm, congrArg Turn.notices turns⟩

theorem Alike.requestOf? (alike : Alike rename engine other) (id : PipelineId) (call : Call) :
    (other.requestOf? id (rename.call call)).isSome = (engine.requestOf? id call).isSome := by
  rw [← isSome_requestOf?_forget other, ← alike, isSome_requestOf?_forget,
    rename.isSome_requestOf?_engine]

theorem Alike.hold (alike : Alike rename engine other) (entry : InstanceId) :
    Alike rename (engine.hold entry) (other.hold entry) := by
  have renamed := rename.hold_engine engine entry
  rw [Alike, ← renamed]
  exact congrArg (Engine.hold · entry) alike

theorem Alike.release (alike : Alike rename engine other) (entry : InstanceId) :
    Alike rename (engine.release entry).engine (other.release entry).engine ∧
      (other.release entry).notices = (engine.release entry).notices.map rename.notice := by
  have renamed := rename.release_engine engine entry
  have turns : (rename.turn (engine.release entry)).forget = (other.release entry).forget := by
    rw [← renamed, ← release_forget, ← release_forget, alike]
  exact ⟨congrArg Turn.engine turns, (congrArg Turn.notices turns).symm⟩

theorem Alike.converse (alike : Alike rename engine other) (request : Request) (id : PipelineId)
    (steps : Nat) (call : Call) (sight : Sight) :
    let one := request.converse id steps call engine sight
    let two := (rename.request request).converse id steps (rename.call call) other (rename.sight sight)
    two.1.1 = rename.call one.1.1 ∧ Alike rename one.1.2 two.1.2 ∧ two.2 = rename.sight one.2 := by
  induction steps generalizing engine other call sight with
  | zero => exact ⟨rfl, alike, rfl⟩
  | succ steps ih =>
      simp only [Request.converse_succ, rename.isFinished_call, alike.requestOf?]
      split
      · exact ⟨rfl, alike, rfl⟩
      · split
        · have noted := rename.note_sight sight request.compiled rename.handle
          have answered := rename.answer_call call request.compiled
          simp only [Renaming.request, noted, answered] at ih ⊢
          exact ih alike (call.answer request.compiled) (sight.note request.compiled)
        · obtain ⟨next, later, notices⟩ := alike.stepCall .caller id call
          rw [next, notices, rename.notify_sight]
          exact ih later _ _

/-- Engines that are alike serve a request alike. -/
theorem Alike.serve (alike : Alike rename engine other) (request : Request) :
    (other.serve (rename.request request)).1 = rename.service (engine.serve request).1 ∧
      Alike rename (engine.serve request).2 (other.serve (rename.request request)).2 := by
  obtain ⟨demand, compiled, created⟩ := request
  cases demand with
  | draw id state pass =>
      obtain ⟨call, later, sight⟩ := alike.converse ⟨.draw id state pass, compiled, created⟩ id
        Call.stepBound (.draw { state := state, pass := pass }) {}
      have handle := (congrArg Call.handle? call).trans (rename.handle?_call _)
      rw [Renaming.request, Renaming.demand] at sight handle later ⊢
      simp only [serve_draw]
      exact ⟨congrArg₂ (Service.mk _) (congrArg Reply.drawn handle) sight, later⟩
  | optimize id entry =>
      obtain ⟨call, later, sight⟩ := (alike.hold entry).converse ⟨.optimize id entry, compiled, created⟩
        id Call.stepBound (.optimize { entry := entry }) {}
      obtain ⟨released, notices⟩ := later.release entry
      have installed := (congrArg Call.hasInstalled call).trans (rename.hasInstalled_call _)
      have seen := (congrArg₂ Sight.notify sight notices).trans (rename.notify_sight _ _)
      rw [Renaming.request, Renaming.demand] at seen installed released ⊢
      simp only [serve_optimize]
      exact ⟨congrArg₂ (Service.mk _) (congrArg Reply.optimized installed) seen, released⟩
  | pass format =>
      have passes : rename.passes engine.passes = other.passes := congrArg Engine.passes alike
      have found := rename.find?_passes engine.passes format
      have obtained := rename.obtain_passes engine.passes format created
      rw [passes] at found obtained
      have noted : (if (other.passes.find? format).isSome then {} else
          Sight.note {} (created.map rename.number)) =
            rename.sight (if (engine.passes.find? format).isSome then {} else Sight.note {} created) := by
        rw [found, Option.isSome_map]
        split
        · rfl
        · exact rename.note_sight {} created rename.number
      rw [Renaming.request, Renaming.demand]
      simp only [serve_pass, obtained, noted]
      refine ⟨rfl, ?_⟩
      exact congrArg (fun whole : Engine =>
        { whole with passes := rename.passes (engine.passes.obtain format created).2 }) alike

end Engine

end PipelineCache

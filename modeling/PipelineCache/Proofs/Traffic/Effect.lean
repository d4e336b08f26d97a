import PipelineCache.Proofs.Traffic.Basic

/-! What one step of a call does to the instances of a pipeline. Most steps leave them alone; the others
append a new instance, append an existing one, or set a fast handle. With what a pipeline was made it is
never changed. -/

namespace PipelineCache

/-- What a step does to the instances and to the handle that the call carries, where `destroyed` are
the handles that it destroys. -/
inductive Call.Effect (call : Call) (shared : Shared) (next : Call) (changed : Shared)
    (destroyed : List PipelineHandle) : Prop
  | quiet
      (store : changed.store = shared.store)
      (listed : changed.pipeline.instances = shared.pipeline.instances)
      (carried : next.carried = call.carried)
      (spared : destroyed = [])
  | enlists (state : PipelineState) (pass : RenderPass) (handle : PipelineHandle)
      (position : call = .draw ⟨state, pass, .enlisting handle⟩)
      (absent : shared.find? state pass.format = none)
      (store : changed.store =
        (shared.store.add { state := state, pass := pass, base := some handle }).2)
      (listed : changed.pipeline.instances = shared.pipeline.instances ++
        [(shared.store.add { state := state, pass := pass, base := some handle }).1])
      (carried : next.carried = [])
      (spared : destroyed = [])
  | installs (entry : InstanceId) (handle : PipelineHandle)
      (position : call = .optimize ⟨entry, .installing handle⟩)
      (set : shared.store.install entry handle = some changed.store)
      (listed : changed.pipeline.instances = shared.pipeline.instances)
      (carried : next.carried = [])
      (spared : destroyed = [])
  | adopts (entry : InstanceId) (handle : PipelineHandle) (item : Instance)
      (position : call = .optimize ⟨entry, .adopting handle⟩)
      (present : shared.store.get? entry = some item)
      (absent : shared.find? item.state item.pass.format = none)
      (store : changed.store = shared.store.hold entry)
      (listed : changed.pipeline.instances = shared.pipeline.instances ++ [entry])
      (carried : next.carried = [])
      (spared : destroyed = [])
  | discards (handle : PipelineHandle)
      (store : changed.store = shared.store)
      (listed : changed.pipeline.instances = shared.pipeline.instances)
      (had : call.carried = [handle])
      (carried : next.carried = [])
      (gone : destroyed = [handle])

theorem Draw.effect_step (draw : Draw) (shared : Shared) :
    Call.Effect (.draw draw) shared (.draw (draw.step shared).1) (draw.step shared).2.1
      ((draw.step shared).2.2.filterMap Event.destroyed?) := by
  obtain ⟨state, pass, position⟩ := draw
  cases position with
  | scanning =>
      simp only [step]
      split <;> exact .quiet rfl rfl rfl rfl
  | preparing =>
      simp only [step]
      split <;> exact .quiet rfl rfl rfl rfl
  | enlisting handle =>
      simp only [step]
      split
      · exact .quiet rfl rfl rfl rfl
      · rename_i absent
        exact .enlists state pass handle rfl absent rfl rfl rfl rfl
  | discarding handle entry => exact .discards handle rfl rfl rfl rfl rfl
  | reporting handle entry =>
      refine .quiet rfl rfl rfl ?_
      simp only [step]
      split <;> rfl
  | queueing handle entry =>
      refine .quiet rfl rfl rfl ?_
      simp only [step]
      split <;> rfl
  | _ => exact .quiet rfl rfl rfl rfl

theorem Optimization.effect_adopting (entry : InstanceId) (handle : PipelineHandle)
    (shared : Shared) (item : Instance) (present : shared.store.get? entry = some item) :
    Call.Effect (.optimize ⟨entry, .adopting handle⟩) shared
      (.optimize (Optimization.step ⟨entry, .adopting handle⟩ shared).1)
      (Optimization.step ⟨entry, .adopting handle⟩ shared).2.1
      ((Optimization.step ⟨entry, .adopting handle⟩ shared).2.2.filterMap Event.destroyed?) := by
  simp only [step, present, adoption]
  split
  · exact .quiet rfl rfl rfl rfl
  · split
    · refine .quiet rfl rfl ?_ rfl
      split <;> rfl
    · rename_i absent
      exact .adopts entry handle item rfl present absent rfl rfl rfl rfl

theorem Optimization.effect_step (optimization : Optimization) (shared : Shared)
    (alive : ∃ item, shared.store.get? optimization.entry = some item) :
    Call.Effect (.optimize optimization) shared (.optimize (optimization.step shared).1)
      (optimization.step shared).2.1
      ((optimization.step shared).2.2.filterMap Event.destroyed?) := by
  obtain ⟨item, present⟩ := alive
  obtain ⟨entry, position⟩ := optimization
  cases position with
  | adopting handle => exact effect_adopting entry handle shared item present
  | checking =>
      simp only [step, present]
      refine .quiet rfl rfl ?_ rfl
      split <;> rfl
  | preparing =>
      simp only [step, present]
      split <;> exact .quiet rfl rfl rfl rfl
  | installing handle =>
      simp only [step, present]
      split
      · rename_i store set
        exact .installs entry handle rfl set rfl rfl rfl
      · exact .quiet rfl rfl rfl rfl
  | discarding handle =>
      simp only [step, present]
      exact .discards handle rfl rfl rfl rfl rfl
  | _ =>
      simp only [step, present]
      exact .quiet rfl rfl rfl rfl

namespace Call

/-- A step does one of five things, as long as the instance that the call needs is there. -/
theorem effect_step (call : Call) (shared : Shared) (running : call.isFinished = false)
    (alive : ∀ entry ∈ call.borrowed, ∃ item, shared.store.get? entry = some item) :
    call.Effect shared (call.step shared).1 (call.step shared).2.1
      ((call.step shared).2.2.filterMap Event.destroyed?) := by
  cases call with
  | draw current => exact current.effect_step shared
  | optimize current =>
      refine current.effect_step shared (alive current.entry ?_)
      simp [borrowed, running]

theorem entry_step (optimization : Optimization) (shared : Shared) :
    (optimization.step shared).1.entry = optimization.entry := by
  unfold Optimization.step
  split
  · rfl
  · split <;> try rfl
    all_goals split <;> rfl

theorem borrowed_step (call : Call) (shared : Shared) (running : call.isFinished = false) :
    (call.step shared).1.borrowed =
      if (call.step shared).1.isFinished then [] else call.borrowed := by
  cases call with
  | draw current => exact (ite_self []).symm
  | optimize current =>
      simp only [borrowed, running, step, entry_step]
      rfl

theorem position_of_waits {call : Call} {shared : Shared} (waits : (call.request? shared).isSome) :
    (∃ state pass parent, call = .draw ⟨state, pass, .compiling parent⟩) ∨
      ∃ entry parent, call = .optimize ⟨entry, .compiling parent⟩ := by
  cases call with
  | draw current =>
      obtain ⟨state, pass, position⟩ := current
      cases position <;> simp [request?, Draw.request?] at waits
      exact Or.inl ⟨state, pass, _, rfl⟩
  | optimize current =>
      obtain ⟨entry, position⟩ := current
      cases position <;> simp [request?, Optimization.request?] at waits
      exact Or.inr ⟨entry, _, rfl⟩

theorem borrowed_answer {call : Call} {shared : Shared} (waits : (call.request? shared).isSome)
    (result : Except CacheError PipelineHandle) : (call.answer result).borrowed = call.borrowed := by
  rcases position_of_waits waits with ⟨state, pass, parent, rfl⟩ | ⟨entry, parent, rfl⟩
  · rfl
  · cases result <;> rfl

theorem carried_answer {call : Call} {shared : Shared} (waits : (call.request? shared).isSome)
    (result : Except CacheError PipelineHandle) :
    call.carried = [] ∧ (call.answer result).carried = result.toOption.toList := by
  rcases position_of_waits waits with ⟨state, pass, parent, rfl⟩ | ⟨entry, parent, rfl⟩ <;>
    cases result <;> exact ⟨rfl, rfl⟩

end Call

/-! ### What a pipeline was made with -/

def Pipeline.outfit (pipeline : Pipeline) : ShaderSet × Bool × Bool :=
  (pipeline.shaders, pipeline.optimizes, pipeline.reports)

theorem Draw.outfit_step (draw : Draw) (shared : Shared) :
    (draw.step shared).2.1.pipeline.outfit = shared.pipeline.outfit := by
  obtain ⟨state, pass, position⟩ := draw
  cases position with
  | scanning =>
      simp only [step]
      split <;> rfl
  | preparing =>
      simp only [step]
      split <;> rfl
  | enlisting handle =>
      simp only [step]
      split <;> rfl
  | _ => rfl

theorem Optimization.outfit_adoption (entry : InstanceId) (realized : Instance) (shared : Shared) :
    (adoption entry realized shared).2.1.pipeline.outfit = shared.pipeline.outfit := by
  unfold adoption
  split
  · rfl
  · split <;> rfl

theorem Optimization.outfit_step (optimization : Optimization) (shared : Shared) :
    (optimization.step shared).2.1.pipeline.outfit = shared.pipeline.outfit := by
  obtain ⟨entry, position⟩ := optimization
  cases present : shared.store.get? entry with
  | none => simp only [step, present]
  | some realized =>
      cases position with
      | preparing =>
          simp only [step, present]
          split <;> rfl
      | installing handle =>
          simp only [step, present]
          split <;> rfl
      | adopting handle =>
          simp only [step, present]
          exact outfit_adoption entry realized shared
      | _ => simp only [step, present] <;> rfl

theorem Call.outfit_step (call : Call) (shared : Shared) :
    (call.step shared).2.1.pipeline.outfit = shared.pipeline.outfit := by
  cases call with
  | draw current => exact current.outfit_step shared
  | optimize current => exact current.outfit_step shared

end PipelineCache

import PipelineCache.Proofs.Session.Checks

/-! Optimizations in a session in which nobody draws. Every instance is then made for one job and optimized
by this job alone. So its fast handle is missing until the job sets it, the job never comes too late, and
whatever has joined a list is optimized. -/

namespace PipelineCache

/-- The optimization has yet to set the fast handle. -/
def OptimizationPosition.isEarly : OptimizationPosition → Bool
  | .checking => true
  | .preparing => true
  | .compiling _ => true
  | .installing _ => true
  | _ => false

namespace Optimization

variable {optimization : Optimization} {shared : Shared} {item : Instance}

/-- An optimization that is early after a step was early before, and has changed no instance. -/
theorem early_step (early : (optimization.step shared).1.position.isEarly = true) :
    optimization.position.isEarly = true ∧ (optimization.step shared).2.1.store = shared.store := by
  obtain ⟨entry, position⟩ := optimization
  cases present : shared.store.get? entry with
  | none =>
      simp only [step, present] at early
      cases early
  | some realized =>
      cases position with
      | checking =>
          simp only [step, present]
          exact ⟨rfl, trivial⟩
      | preparing =>
          simp only [step, present]
          refine ⟨rfl, ?_⟩
          split <;> rfl
      | compiling parent =>
          simp only [step, present]
          exact ⟨rfl, trivial⟩
      | installing handle =>
          simp only [step, present] at early
          split at early <;> cases early
      | adopting handle =>
          simp only [step, present, moveTo] at early
          split at early <;> cases early
      | _ =>
          simp only [step, present] at early
          cases early

theorem early_answer {result : Except CacheError PipelineHandle}
    (early : (optimization.answer result).position.isEarly = true) :
    optimization.position.isEarly = true := by
  obtain ⟨entry, position⟩ := optimization
  cases position with
  | compiling parent => rfl
  | _ => exact early

/-- An optimization changes no instance but its own. -/
theorem get?_step_other (optimization : Optimization) (shared : Shared)
    (alive : ∃ item, shared.store.get? optimization.entry = some item) {other : InstanceId}
    (different : other ≠ optimization.entry) :
    (optimization.step shared).2.1.store.get? other = shared.store.get? other := by
  have effect := optimization.effect_step shared alive
  cases effect with
  | quiet store _ _ _ => rw [store]
  | enlists _ _ _ position => cases position
  | installs entry handle position set _ _ _ =>
      have own : optimization = ⟨entry, .installing handle⟩ := Call.optimize.inj position
      rw [own] at different
      obtain ⟨item, installed, _, _, put⟩ := Store.install_eq_some_iff.mp set
      rw [← put, Store.get?_put, if_neg different]
  | adopts entry handle item _ _ _ store _ _ _ => rw [store, Store.get?_hold]
  | discards handle store _ _ _ _ => rw [store]

end Optimization

namespace Overview

variable {fails : Bool} {view next : Overview} {loaded : List PipelineKey} {pipeline : Pipeline}
  {entry : InstanceId} {item : Instance} {task : Task}

structure Prompt (view : Overview) : Prop where
  apart : (view.tasks.map fun task => task.job.entry).Nodup
  tasks : ∀ task ∈ view.tasks, ∀ item, view.store.get? task.job.entry = some item →
    item.base = none ∧ (task.optimization.position.isEarly = true → item.fast = none)
  listed : ∀ pipeline ∈ view.pipelines, ∀ entry ∈ pipeline.instances, ∀ item,
    view.store.get? entry = some item → item.fast.isSome = true

theorem Step.drawings_nil (stepped : Step fails view next) (silent : next.drawings = []) :
    view.drawings = [] := by
  cases stepped with
  | begins shaders state pass => exact absurd silent (List.concat_ne_nil _ _)
  | draws index drawing pipeline found _ _ =>
      simpa using silent
  | answers index drawing result found => simpa using silent
  | builds ready others position =>
      rw [obtain_eq] at silent
      exact silent
  | _ => exact silent

theorem Prompt.apart_step (orderly : view.Orderly loaded) (prompt : view.Prompt)
    (stepped : Step fails view next) (silent : next.drawings = []) :
    (next.tasks.map fun task => task.job.entry).Nodup := by
  have nobody := stepped.drawings_nil silent
  have apart := prompt.apart
  cases stepped with
  | begins shaders state pass => exact absurd silent (List.concat_ne_nil _ _)
  | builds ready others position =>
      rw [obtain_eq]
      exact apart
  | queues drawing handle entry member _ =>
      rw [nobody] at member
      cases member
  | submits key pipeline pass ready position =>
      refine List.nodup_cons.mpr ⟨fun member => ?_, apart⟩
      -- Numbers are given upwards, so no job has the new one.
      obtain ⟨task, running, same⟩ := List.mem_map.mp member
      obtain ⟨item, present⟩ := orderly.accounted.task running
      have below := Store.lt_of_get? present
      rw [same] at below
      exact absurd below (Nat.lt_irrefl _)
  | arranges tasks same => exact (same.map _).nodup_iff.mp apart
  | works task rest pipeline first _ =>
      rw [first] at apart
      exact apart
  | replies task rest result first _ =>
      rw [first] at apart
      exact apart
  | ends task rest result first _ =>
      rw [first] at apart
      exact apart
  | releases task rest result first _ =>
      rw [first] at apart
      exact (List.nodup_cons.mp apart).2
  | _ => exact apart

/-- A worker gives an instance no base handle, and no optimized one before it has asked for it. -/
theorem Prompt.acts (prompt : view.Prompt) (orderly : view.Orderly loaded)
    (running : task ∈ view.tasks)
    (present : (task.optimization.step ⟨pipeline, view.store⟩).2.1.store.get? task.job.entry =
      some item) :
    item.base = none ∧
      ((task.optimization.step ⟨pipeline, view.store⟩).1.position.isEarly = true →
        item.fast = none) := by
  obtain ⟨old, found⟩ := orderly.accounted.task running
  have alive := orderly.accounted.worked orderly.founded running
  have grows := (task.optimization.effect_step ⟨pipeline, view.store⟩ alive).grows
  obtain ⟨same, also, evolves⟩ := grows.store.earlier _ item (Store.lt_of_get? found) present
  refine ⟨evolves.base.trans (prompt.tasks task running same also).1, fun early => ?_⟩
  obtain ⟨before, unchanged⟩ := Optimization.early_step early
  rw [unchanged] at present
  exact (prompt.tasks task running item present).2 before

/-- The job that acts has another instance than the jobs behind it. -/
theorem Prompt.get?_of_acts (prompt : view.Prompt) (orderly : view.Orderly loaded) {acting : Task}
    {rest : List Task} (first : view.tasks = acting :: rest) (among : task ∈ rest)
    (pipeline : Pipeline) :
    (acting.optimization.step ⟨pipeline, view.store⟩).2.1.store.get? task.job.entry =
      view.store.get? task.job.entry := by
  have acts : acting ∈ view.tasks := first ▸ List.mem_cons_self
  obtain ⟨matched, _⟩ := orderly.founded.tasks acting acts
  have apart := prompt.apart
  rw [first, List.map_cons, List.nodup_cons] at apart
  have different : task.job.entry ≠ acting.optimization.entry := by
    intro same
    exact apart.1 (List.mem_map.mpr ⟨task, among, same.trans matched⟩)
  have alive := orderly.accounted.worked orderly.founded acts
  exact acting.optimization.get?_step_other ⟨pipeline, view.store⟩ alive different

theorem Prompt.tasks_step (orderly : view.Orderly loaded) (prompt : view.Prompt)
    (stepped : Step fails view next) (silent : next.drawings = []) :
    ∀ task ∈ next.tasks, ∀ item, next.store.get? task.job.entry = some item →
      item.base = none ∧ (task.optimization.position.isEarly = true → item.fast = none) := by
  have nobody := stepped.drawings_nil silent
  intro task member item present
  have kept (running : task ∈ view.tasks) (same : view.store.get? task.job.entry = some item) :=
    prompt.tasks task running item same
  cases stepped with
  | begins shaders state pass => exact absurd silent (List.concat_ne_nil _ _)
  | draws index drawing pipeline found _ _ =>
      rw [nobody] at found
      cases found
  | reports drawing handle entry among _ =>
      rw [nobody] at among
      cases among
  | queues drawing handle entry among _ =>
      rw [nobody] at among
      cases among
  | records job rest pipeline other held _ _ _ _ => exact kept member (Store.get?_release_eq_some present)
  | builds ready others position =>
      rw [obtain_eq] at member present
      exact kept member present
  | submits key pipeline pass ready position =>
      rcases List.mem_cons.mp member with rfl | running
      · rw [Task.ofJob, Store.get?_add, if_pos rfl] at present
        obtain rfl := Option.some.inj present
        exact ⟨rfl, fun _ => rfl⟩
      · obtain ⟨old, found⟩ := orderly.accounted.task running
        have older : task.job.entry ≠ (view.store.add { state := key.state, pass := pass }).1 :=
          Nat.ne_of_lt (Store.lt_of_get? found)
        rw [Store.get?_add, if_neg older] at present
        exact kept running present
  | arranges tasks same => exact kept (same.mem_iff.mpr member) present
  | works acting rest pipeline first there =>
      rcases List.mem_cons.mp member with rfl | among
      · exact prompt.acts orderly (first ▸ List.mem_cons_self) present
      · have unchanged := prompt.get?_of_acts orderly first among pipeline
        exact kept (first ▸ List.mem_cons_of_mem _ among) (unchanged.symm.trans present)
  | replies acting rest result first _ =>
      rcases List.mem_cons.mp member with rfl | among
      · obtain ⟨base, fast⟩ := prompt.tasks acting (first ▸ List.mem_cons_self) item present
        exact ⟨base, fun early => fast (Optimization.early_answer early)⟩
      · exact kept (first ▸ List.mem_cons_of_mem _ among) present
  | ends acting rest result first _ =>
      rcases List.mem_cons.mp member with rfl | among
      · have earlier := prompt.tasks acting (first ▸ List.mem_cons_self) item present
        exact ⟨earlier.1, fun early => by cases early⟩
      · exact kept (first ▸ List.mem_cons_of_mem _ among) present
  | releases acting rest result first _ =>
      exact kept (first ▸ List.mem_cons_of_mem _ member) (Store.get?_release_eq_some present)
  | _ => exact kept member present

theorem Prompt.listed_step (orderly : view.Orderly loaded) (prompt : view.Prompt)
    (stepped : Step fails view next) (silent : next.drawings = []) :
    ∀ pipeline ∈ next.pipelines, ∀ entry ∈ pipeline.instances, ∀ item,
      next.store.get? entry = some item → item.fast.isSome = true := by
  intro pipeline among entry member item present
  obtain ⟨id, there⟩ := List.mem_iff_getElem?.mp among
  have nobody := stepped.drawings_nil silent
  have grows := stepped.grows orderly.accounted orderly.founded
  have later {old : Instance} (found : view.store.get? entry = some old)
      (fast : old.fast.isSome = true) : item.fast.isSome = true := by
    obtain ⟨same, also, evolves⟩ := grows.store.earlier entry item (Store.lt_of_get? found) present
    obtain rfl : old = same := Option.some.inj (found.symm.trans also)
    rwa [evolves.fast fast]
  cases stepped.joins orderly.accounted orderly.founded there member present with
  | stays earlier old before listed found _ =>
      exact later found (prompt.listed earlier (List.mem_of_getElem? before) entry listed old found)
  | enlists drawing _ _ drawn _ _ _ _ _ =>
      rw [nobody] at drawn
      cases drawn
  | adopts task earlier old handle running acts _ position found _ _ =>
      obtain ⟨matched, other, _, knows⟩ := orderly.founded.tasks task running
      rw [Optimization.Founded, position, matched, acts] at knows
      obtain ⟨same, also, fast⟩ := knows
      obtain rfl : old = same := Option.some.inj (found.symm.trans also)
      exact later found fast

theorem Prompt.step (orderly : view.Orderly loaded) (prompt : view.Prompt)
    (stepped : Step fails view next) (silent : next.drawings = []) : next.Prompt where
  apart := prompt.apart_step orderly stepped silent
  tasks := prompt.tasks_step orderly stepped silent
  listed := prompt.listed_step orderly stepped silent

end Overview

end PipelineCache

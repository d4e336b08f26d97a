import PipelineCache.Proofs.Session.Holdings

/-! What the instances of a session were checked for. An instance joins the list of a pipeline when a draw
enlists it or an optimization adopts it, and both have checked its state and format against the shaders
of the pipeline before. So whatever stands in a list would pass the check again. -/

namespace PipelineCache

/-- A state and a format that may be used with the shaders of a pipeline. -/
def Pipeline.Permits (pipeline : Pipeline) (combination : PipelineState × RenderPassFormat) : Prop :=
  pipeline.validate combination.1 combination.2 = .ok ()

theorem Pipeline.permits_congr {before after : Pipeline} (same : after.shaders = before.shaders)
    (combination : PipelineState × RenderPassFormat) :
    after.Permits combination ↔ before.Permits combination := by
  rw [Permits, Permits, validate, validate, same]

/-- A draw that asks for a handle, or has it, has checked what it draws. -/
def Draw.Checked (draw : Draw) (pipeline : Pipeline) : Prop :=
  match draw.position with
  | .compiling _ => pipeline.Permits (draw.state, draw.pass.format)
  | .enlisting _ => pipeline.Permits (draw.state, draw.pass.format)
  | _ => True

/-- An optimization that asks for a handle, or has it, has checked its instance. -/
def Optimization.Checked (optimization : Optimization) (shared : Shared) : Prop :=
  let checked := ∃ item, shared.store.get? optimization.entry = some item ∧
    shared.pipeline.Permits item.combination
  match optimization.position with
  | .compiling _ => checked
  | .installing _ => checked
  | .countingInstalled _ => checked
  | .adopting _ => checked
  | _ => True

theorem Draw.Checked.congr {draw : Draw} {before after : Pipeline} (checked : draw.Checked before)
    (same : after.shaders = before.shaders) : draw.Checked after := by
  obtain ⟨state, pass, position⟩ := draw
  cases position with
  | compiling parent => exact (Pipeline.permits_congr same _).mpr checked
  | enlisting handle => exact (Pipeline.permits_congr same _).mpr checked
  | _ => trivial

theorem Draw.Checked.step {draw : Draw} (shared : Shared) (checked : draw.Checked shared.pipeline) :
    (draw.step shared).1.Checked shared.pipeline := by
  obtain ⟨state, pass, position⟩ := draw
  cases position with
  | scanning =>
      simp only [Draw.step]
      split <;> trivial
  | preparing =>
      simp only [Draw.step]
      split
      · rename_i passed
        exact passed
      · trivial
  | enlisting handle =>
      simp only [Draw.step]
      split <;> trivial
  | compiling parent => exact checked
  | _ => trivial

theorem Draw.Checked.answer {draw : Draw} {pipeline : Pipeline} (checked : draw.Checked pipeline)
    (result : Except CacheError PipelineHandle) : (draw.answer result).Checked pipeline := by
  obtain ⟨state, pass, position⟩ := draw
  cases position with
  | compiling parent =>
      cases result with
      | ok handle => exact checked
      | error error => trivial
  | _ => exact checked

theorem Optimization.Checked.later {optimization : Optimization} {before : Shared} (after : Shared)
    (checked : optimization.Checked before) (same : after.pipeline.shaders = before.pipeline.shaders)
    (evolves : before.store.Evolves after.store)
    (alive : ∃ item, after.store.get? optimization.entry = some item) : optimization.Checked after := by
  obtain ⟨entry, position⟩ := optimization
  have still (passed : ∃ item, before.store.get? entry = some item ∧
      before.pipeline.Permits item.combination) :
      ∃ item, after.store.get? entry = some item ∧ after.pipeline.Permits item.combination := by
    obtain ⟨item, present, permits⟩ := passed
    obtain ⟨later, found, evolved⟩ := evolves.later present alive
    refine ⟨later, found, ?_⟩
    rw [evolved.combination]
    exact (Pipeline.permits_congr same _).mpr permits
  cases position with
  | compiling parent => exact still checked
  | installing handle => exact still checked
  | countingInstalled handle => exact still checked
  | adopting handle => exact still checked
  | _ => trivial

theorem Optimization.Checked.step {optimization : Optimization} {shared : Shared}
    (checked : optimization.Checked shared)
    (alive : ∃ item, (optimization.step shared).2.1.store.get? optimization.entry = some item) :
    (optimization.step shared).1.Checked (optimization.step shared).2.1 := by
  have same := optimization.shaders_step shared
  cases present : shared.store.get? optimization.entry with
  | none =>
      simp only [Optimization.step, present]
      trivial
  | some item =>
      have effect := optimization.effect_step shared ⟨item, present⟩
      have evolves := effect.grows.store
      -- What was checked before the step is the same instance after it.
      have kept (passed : shared.pipeline.Permits item.combination) :
          ∃ later, (optimization.step shared).2.1.store.get? optimization.entry = some later ∧
            (optimization.step shared).2.1.pipeline.Permits later.combination := by
        obtain ⟨later, found, evolved⟩ := evolves.later present alive
        refine ⟨later, found, ?_⟩
        rw [evolved.combination]
        exact (Pipeline.permits_congr same _).mpr passed
      have passed (earlier : ∃ item, shared.store.get? optimization.entry = some item ∧
          shared.pipeline.Permits item.combination) : shared.pipeline.Permits item.combination := by
        obtain ⟨other, there, permits⟩ := earlier
        obtain rfl : item = other := Option.some.inj (present.symm.trans there)
        exact permits
      obtain ⟨entry, position⟩ := optimization
      cases position with
      | checking =>
          simp only [Optimization.step, present]
          split <;> trivial
      | preparing =>
          simp only [Optimization.step, present] at kept ⊢
          split
          · rename_i permits
            exact ⟨item, present, permits⟩
          · trivial
      | compiling parent =>
          simp only [Optimization.step, present]
          exact checked
      | installing handle =>
          simp only [Optimization.step, present] at kept ⊢
          split
          · rename_i store set
            simp only [set] at kept
            exact kept (passed checked)
          · trivial
      | countingInstalled handle =>
          simp only [Optimization.step, present] at kept ⊢
          exact kept (passed checked)
      | adopting handle =>
          simp only [Optimization.step, present]
          split <;> trivial
      | _ =>
          simp only [Optimization.step, present]
          trivial

theorem Optimization.Checked.answer {optimization : Optimization} {shared : Shared}
    (checked : optimization.Checked shared) (result : Except CacheError PipelineHandle) :
    (optimization.answer result).Checked shared := by
  obtain ⟨entry, position⟩ := optimization
  cases position with
  | compiling parent =>
      cases result with
      | ok handle => exact checked
      | error error => trivial
  | _ => exact checked

namespace Overview

variable {fails : Bool} {view next : Overview} {id : PipelineId} {pipeline : Pipeline}
  {entry : InstanceId} {item : Instance} {task : Task} {loaded : List PipelineKey}

/-- How an instance that serves a combination comes to stand in a list after a step. -/
inductive Joins (view next : Overview) (id : PipelineId) (entry : InstanceId)
    (combination : PipelineState × RenderPassFormat) : Prop
  | stays (pipeline : Pipeline) (item : Instance) (there : view.pipelines[id]? = some pipeline)
      (member : entry ∈ pipeline.instances) (present : view.store.get? entry = some item)
      (same : combination = item.combination)
  | enlists (drawing : Drawing) (pipeline : Pipeline) (handle : PipelineHandle)
      (member : drawing ∈ view.drawings) (acts : drawing.pipeline = id)
      (there : view.pipelines[id]? = some pipeline)
      (position : drawing.draw.position = .enlisting handle)
      (same : combination = (drawing.draw.state, drawing.draw.pass.format))
      (counts : { drawing with draw := drawing.draw.moveTo (.counting handle entry) } ∈ next.drawings)
  | adopts (task : Task) (pipeline : Pipeline) (item : Instance) (handle : PipelineHandle)
      (member : task ∈ view.tasks) (acts : task.job = ⟨id, entry⟩)
      (there : view.pipelines[id]? = some pipeline)
      (position : task.optimization.position = .adopting handle)
      (present : view.store.get? entry = some item)
      (absent : pipeline.find? view.store item.state item.pass.format = none)
      (same : combination = item.combination)

/-- How a task comes to run after a step. -/
inductive Runs (view next : Overview) (task : Task) : Prop
  | stays (member : task ∈ view.tasks)
  | queues (drawing : Drawing) (handle : PipelineHandle) (member : drawing ∈ view.drawings)
      (position : drawing.draw.position = .queueing handle task.job.entry)
      (acts : drawing.pipeline = task.job.pipeline) (fresh : task = .ofJob task.job)
  | submits (key : PipelineKey) (pass : RenderPass) (ready : List ReadyKey)
      (position : view.position = .submitting key task.job.pipeline pass ready)
      (present : next.store.get? task.job.entry = some { state := key.state, pass := pass })
      (fresh : task = .ofJob task.job)
  | works (old : Task) (pipeline : Pipeline) (member : old ∈ view.tasks)
      (there : view.pipelines[old.job.pipeline]? = some pipeline)
      (became : task = ⟨old.job, (old.optimization.step ⟨pipeline, view.store⟩).1⟩)
      (pipelines : next.pipelines[old.job.pipeline]? =
        some (old.optimization.step ⟨pipeline, view.store⟩).2.1.pipeline)
      (store : next.store = (old.optimization.step ⟨pipeline, view.store⟩).2.1.store)
  | replies (old : Task) (result : Except CacheError PipelineHandle) (member : old ∈ view.tasks)
      (became : task = ⟨old.job, old.optimization.answer result⟩)
  | ends (old : Task) (member : old ∈ view.tasks)
      (became : task = ⟨old.job, ⟨old.job.entry, .finished false⟩⟩)

theorem Grows.earlier (grows : view.Grows next) (alive : ∃ item, view.store.get? entry = some item)
    (present : next.store.get? entry = some item) :
    ∃ old, view.store.get? entry = some old ∧ item.combination = old.combination := by
  obtain ⟨first, there⟩ := alive
  obtain ⟨old, found, evolves⟩ := grows.store.earlier entry item (Store.lt_of_get? there) present
  exact ⟨old, found, evolves.combination⟩

/-- What stood in a list before is there as before. -/
theorem joins_of_listed (accounted : view.Accounted) (grows : view.Grows next)
    (there : view.pipelines[id]? = some pipeline) (member : entry ∈ pipeline.instances)
    (present : next.store.get? entry = some item) : view.Joins next id entry item.combination := by
  obtain ⟨old, found, same⟩ := grows.earlier (accounted.listed there member) present
  exact .stays pipeline old there member found same

theorem joins_draws (accounted : view.Accounted) {index : Nat} {drawing : Drawing}
    (grows : view.Grows next) (found : view.drawings[index]? = some drawing)
    (there : view.pipelines[drawing.pipeline]? = some pipeline)
    (drawings : next.drawings = view.drawings.set index
      { drawing with draw := (drawing.draw.step ⟨pipeline, view.store⟩).1 })
    (store : next.store = (drawing.draw.step ⟨pipeline, view.store⟩).2.1.store)
    (member : entry ∈ (drawing.draw.step ⟨pipeline, view.store⟩).2.1.pipeline.instances)
    (present : next.store.get? entry = some item) :
    view.Joins next drawing.pipeline entry item.combination := by
  have effect := drawing.draw.effect_step ⟨pipeline, view.store⟩
  cases effect with
  | quiet _ listed _ _ => exact joins_of_listed accounted grows there (listed ▸ member) present
  | installs _ _ position => cases position
  | adopts _ _ _ position => cases position
  | discards _ _ listed _ _ _ => exact joins_of_listed accounted grows there (listed ▸ member) present
  | enlists state pass handle position absent added listed _ _ =>
      rw [listed] at member
      rcases List.mem_append.mp member with old | newest
      · exact joins_of_listed accounted grows there old present
      · obtain rfl := List.mem_singleton.mp newest
        rw [store, added, Store.get?_add, if_pos rfl] at present
        obtain rfl := Option.some.inj present
        obtain ⟨shaders, id, draw⟩ := drawing
        obtain rfl : draw = ⟨state, pass, .enlisting handle⟩ := Call.draw.inj position
        refine .enlists _ pipeline handle (List.mem_of_getElem? found) rfl there rfl rfl ?_
        have stands : (Draw.step ⟨state, pass, .enlisting handle⟩ ⟨pipeline, view.store⟩).1 =
            Draw.moveTo ⟨state, pass, .enlisting handle⟩ (.counting handle
              (view.store.add { state := state, pass := pass, base := some handle }).1) := by
          simp only [Draw.step, absent]
          rfl
        rw [drawings, ← stands]
        exact List.mem_of_getElem? (List.getElem?_set_self (List.getElem?_eq_some_iff.mp found).1)

theorem joins_works (accounted : view.Accounted) (founded : view.Founded) (grows : view.Grows next)
    (running : task ∈ view.tasks) (there : view.pipelines[task.job.pipeline]? = some pipeline)
    (member : entry ∈ (task.optimization.step ⟨pipeline, view.store⟩).2.1.pipeline.instances)
    (present : next.store.get? entry = some item) :
    view.Joins next task.job.pipeline entry item.combination := by
  obtain ⟨matched, _⟩ := founded.tasks task running
  have alive := accounted.worked founded running
  have effect := task.optimization.effect_step ⟨pipeline, view.store⟩ alive
  cases effect with
  | quiet _ listed _ _ => exact joins_of_listed accounted grows there (listed ▸ member) present
  | installs _ _ _ _ listed _ _ =>
      exact joins_of_listed accounted grows there (listed ▸ member) present
  | enlists _ _ _ position => cases position
  | discards _ _ listed _ _ _ => exact joins_of_listed accounted grows there (listed ▸ member) present
  | adopts target handle old position found absent _ listed _ _ =>
      rw [listed] at member
      rcases List.mem_append.mp member with among | newest
      · exact joins_of_listed accounted grows there among present
      · obtain rfl := List.mem_singleton.mp newest
        have stands : task.optimization = ⟨entry, .adopting handle⟩ := Call.optimize.inj position
        obtain ⟨later, still, same⟩ := grows.earlier ⟨old, found⟩ present
        obtain rfl : old = later := Option.some.inj (found.symm.trans still)
        have acts : task.job = ⟨task.job.pipeline, entry⟩ := by
          rw [stands] at matched
          exact congrArg (Job.mk task.job.pipeline) matched.symm
        exact .adopts task pipeline old handle running acts there (by rw [stands]) found absent same

/-- A list grows only by what draws enlist and optimizations adopt. -/
theorem Step.joins (accounted : view.Accounted) (founded : view.Founded)
    (stepped : Step fails view next) (there : next.pipelines[id]? = some pipeline)
    (member : entry ∈ pipeline.instances) (present : next.store.get? entry = some item) :
    view.Joins next id entry item.combination := by
  have grows := stepped.grows accounted founded
  have listed {shaders : ShaderSet} {other : PipelineId} {grown : Overview}
      (obtained : view.Obtained shaders other grown) (there : grown.pipelines[id]? = some pipeline) :
      view.Joins next id entry item.combination := by
    cases obtained with
    | old => exact joins_of_listed accounted grows there member present
    | new =>
        rcases getElem?_append_singleton there with old | ⟨rfl, rfl⟩
        · exact joins_of_listed accounted grows old member present
        · cases member
  cases stepped with
  | begins shaders state pass => exact listed (view.obtained shaders) there
  | draws index drawing acting found stands _ =>
      rcases getElem?_set_cases there with old | ⟨rfl, rfl⟩
      · exact joins_of_listed accounted grows old member present
      · exact joins_draws accounted grows found stands rfl rfl member present
  | builds ready others position => exact listed (view.obtained ready.shaders) there
  | works task rest acting first stands =>
      rcases getElem?_set_cases there with old | ⟨rfl, rfl⟩
      · exact joins_of_listed accounted grows old member present
      · exact joins_works accounted founded grows (first ▸ List.mem_cons_self) stands member present
  | _ => exact joins_of_listed accounted grows there member present

theorem Step.runs (stepped : Step fails view next) (member : task ∈ next.tasks) :
    view.Runs next task := by
  cases stepped with
  | begins shaders state pass =>
      rw [obtain_eq] at member
      exact .stays member
  | builds ready others position =>
      rw [obtain_eq] at member
      exact .stays member
  | queues drawing handle entry among position =>
      rcases List.mem_cons.mp member with rfl | old
      · exact .queues drawing handle among position rfl rfl
      · exact .stays old
  | submits key pipeline pass ready position =>
      rcases List.mem_cons.mp member with rfl | old
      · exact .submits key pass ready position ((Store.get?_add ..).trans (if_pos rfl)) rfl
      · exact .stays old
  | arranges tasks same => exact .stays (same.mem_iff.mpr member)
  | works old rest pipeline first there =>
      rcases List.mem_cons.mp member with rfl | among
      · exact .works old pipeline (first ▸ List.mem_cons_self) there rfl
          (List.getElem?_set_self (List.getElem?_eq_some_iff.mp there).1) rfl
      · exact .stays (first ▸ List.mem_cons_of_mem _ among)
  | replies old rest result first allowed =>
      rcases List.mem_cons.mp member with rfl | among
      · exact .replies old result (first ▸ List.mem_cons_self) rfl
      · exact .stays (first ▸ List.mem_cons_of_mem _ among)
  | ends old rest result first finished =>
      rcases List.mem_cons.mp member with rfl | among
      · exact .ends old (first ▸ List.mem_cons_self) rfl
      · exact .stays (first ▸ List.mem_cons_of_mem _ among)
  | releases old rest result first finished => exact .stays (first ▸ List.mem_cons_of_mem _ member)
  | _ => exact .stays member

/-- Whatever is listed, or about to be listed, was checked. -/
structure Checked (view : Overview) : Prop where
  listed : ∀ (id : PipelineId) (pipeline : Pipeline), view.pipelines[id]? = some pipeline →
    ∀ entry ∈ pipeline.instances, ∀ item, view.store.get? entry = some item →
      pipeline.Permits item.combination
  drawings : ∀ drawing ∈ view.drawings, ∀ pipeline,
    view.pipelines[drawing.pipeline]? = some pipeline → drawing.draw.Checked pipeline
  tasks : ∀ task ∈ view.tasks, ∀ pipeline, view.pipelines[task.job.pipeline]? = some pipeline →
    task.optimization.Checked ⟨pipeline, view.store⟩

/-- A pipeline that stood there before a step has the same shaders as after it. -/
theorem Step.shaders_eq (stepped : Step fails view next) {later : Pipeline}
    (before : view.pipelines[id]? = some pipeline) (after : next.pipelines[id]? = some later) :
    later.shaders = pipeline.shaders := by
  obtain ⟨other, there, same⟩ := stepped.shaders_kept before
  obtain rfl : later = other := Option.some.inj (after.symm.trans there)
  exact same

theorem Checked.listed_step (orderly : view.Orderly loaded) (checked : view.Checked)
    (stepped : Step fails view next) (there : next.pipelines[id]? = some pipeline)
    (member : entry ∈ pipeline.instances) (present : next.store.get? entry = some item) :
    pipeline.Permits item.combination := by
  cases stepped.joins orderly.accounted orderly.founded there member present with
  | stays old earlier before listed found same =>
      rw [same]
      exact (Pipeline.permits_congr (stepped.shaders_eq before there) _).mpr
        (checked.listed id old before entry listed earlier found)
  | enlists drawing old handle among acts before position same _ =>
      subst acts
      have passed := checked.drawings drawing among old before
      rw [Draw.Checked, position] at passed
      rw [same]
      exact (Pipeline.permits_congr (stepped.shaders_eq before there) _).mpr passed
  | adopts task old earlier handle running acts before position found _ same =>
      have passed := checked.tasks task running old (by rw [acts]; exact before)
      have matched := (orderly.founded.tasks task running).1
      rw [Optimization.Checked, position, matched, acts] at passed
      obtain ⟨other, also, permits⟩ := passed
      obtain rfl : earlier = other := Option.some.inj (found.symm.trans also)
      rw [same]
      exact (Pipeline.permits_congr (stepped.shaders_eq before there) _).mpr permits

theorem Checked.drawings_step (orderly : view.Orderly loaded) (checked : view.Checked)
    (stepped : Step fails view next) :
    ∀ drawing ∈ next.drawings, ∀ pipeline, next.pipelines[drawing.pipeline]? = some pipeline →
      drawing.draw.Checked pipeline := by
  have old (drawing : Drawing) (member : drawing ∈ view.drawings) (pipeline : Pipeline)
      (there : next.pipelines[drawing.pipeline]? = some pipeline) : drawing.draw.Checked pipeline := by
    obtain ⟨earlier, before, _⟩ := orderly.founded.drawings drawing member
    exact (checked.drawings drawing member earlier before).congr (stepped.shaders_eq before there)
  have same {target : PipelineId} {earlier : Pipeline}
      (before : view.pipelines[target]? = some earlier) {pipeline : Pipeline}
      (there : next.pipelines[target]? = some pipeline) : pipeline.shaders = earlier.shaders :=
    stepped.shaders_eq before there
  cases stepped with
  | begins shaders state pass =>
      intro drawing member pipeline there
      rcases List.mem_append.mp member with among | newest
      · exact old drawing among pipeline there
      · rw [List.mem_singleton.mp newest]
        trivial
  | draws index acting pipeline found there _ =>
      intro drawing member later after
      rcases List.mem_or_eq_of_mem_set member with among | rfl
      · exact old drawing among later after
      · have passed := checked.drawings acting (List.mem_of_getElem? found) pipeline there
        have stepped := Draw.Checked.step ⟨pipeline, view.store⟩ passed
        exact stepped.congr (same there after)
  | answers index acting result found =>
      intro drawing member later after
      rcases List.mem_or_eq_of_mem_set member with among | rfl
      · exact old drawing among later after
      · exact (old acting (List.mem_of_getElem? found) later after).answer result
  | builds ready others position =>
      rw [obtain_eq] at old ⊢
      exact old
  | _ => exact old

theorem Checked.tasks_step (orderly : view.Orderly loaded) (checked : view.Checked)
    (stepped : Step fails view next) :
    ∀ task ∈ next.tasks, ∀ pipeline, next.pipelines[task.job.pipeline]? = some pipeline →
      task.optimization.Checked ⟨pipeline, next.store⟩ := by
  have grows := stepped.grows orderly.accounted orderly.founded
  have later := orderly.step stepped
  -- A task that does not act has checked the same instance for the same shaders.
  have spared {task : Task} (running : task ∈ view.tasks)
      (alive : ∃ item, next.store.get? task.job.entry = some item) {pipeline : Pipeline}
      (there : next.pipelines[task.job.pipeline]? = some pipeline) :
      task.optimization.Checked ⟨pipeline, next.store⟩ := by
    obtain ⟨matched, earlier, before, _⟩ := orderly.founded.tasks task running
    refine (checked.tasks task running earlier before).later ⟨pipeline, next.store⟩
      (stepped.shaders_eq before there) grows.store ?_
    rwa [matched]
  intro task member pipeline there
  have alive := later.accounted.task member
  cases stepped.runs member with
  | stays running => exact spared running alive there
  | queues drawing handle _ _ _ fresh =>
      rw [fresh]
      trivial
  | submits key pass ready _ _ fresh =>
      rw [fresh]
      trivial
  | works old acting running before became pipelines store =>
      subst became
      obtain rfl := Option.some.inj (pipelines.symm.trans there)
      rw [store] at alive ⊢
      rw [← (orderly.founded.tasks old running).1] at alive
      exact Optimization.Checked.step (checked.tasks old running acting before) alive
  | replies old result running became =>
      subst became
      exact (spared running alive there).answer result
  | ends old running became =>
      rw [became]
      trivial

theorem Checked.step (orderly : view.Orderly loaded) (checked : view.Checked)
    (stepped : Step fails view next) : next.Checked where
  listed _ _ there _ member _ present := checked.listed_step orderly stepped there member present
  drawings := checked.drawings_step orderly stepped
  tasks := checked.tasks_step orderly stepped

end Overview

end PipelineCache

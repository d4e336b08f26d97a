import PipelineCache.Proofs.Session.Sources

/-! Who holds the instances of a session: the lists of the pipelines, the reports on their way to the
writer, and the jobs of the compiler. Whatever one of them needs is there; so the pipelines of a session
only grow, and every draw and every optimization is right about the instance that it has met. -/

namespace PipelineCache

namespace Overview

variable {fails : Bool} {view next : Overview} {shaders : ShaderSet} {id : PipelineId}
  {pipeline : Pipeline} {entry : InstanceId}

def listed (view : Overview) : List InstanceId := view.pipelines.flatMap Pipeline.instances

/-- Every place that holds an instance. -/
def holdings (view : Overview) : List InstanceId :=
  view.listed ++ (view.reported.map Job.entry ++ view.tasks.map fun task => task.job.entry)

/-- The store counts exactly the places that hold an instance. -/
structure Accounted (view : Overview) : Prop where
  sound : view.store.Sound
  holders : ∀ entry, view.store.holders entry = view.holdings.count entry

/-- All pipelines grow, and the instances evolve. -/
structure Grows (before after : Overview) : Prop where
  pipelines : ∀ (id : PipelineId) (pipeline : Pipeline), before.pipelines[id]? = some pipeline →
    ∃ later, after.pipelines[id]? = some later ∧ later.shaders = pipeline.shaders ∧
      pipeline.instances <+: later.instances
  store : before.store.Evolves after.store

/-- A draw has a pipeline with its keys, and is right about the instance that it has met. -/
def Bears (view : Overview) (drawing : Drawing) : Prop :=
  ∃ pipeline, view.pipelines[drawing.pipeline]? = some pipeline ∧
    pipeline.keys = drawing.shaders.keys ∧ drawing.draw.Founded ⟨pipeline, view.store⟩

/-- A job has a pipeline, and its optimization is about its instance and right about it. -/
def Employs (view : Overview) (task : Task) : Prop :=
  task.optimization.entry = task.job.entry ∧ ∃ pipeline,
    view.pipelines[task.job.pipeline]? = some pipeline ∧
      task.optimization.Founded ⟨pipeline, view.store⟩

/-- Every draw and every job is right about its pipeline and the instance that it has met. -/
structure Founded (view : Overview) : Prop where
  drawings : ∀ drawing ∈ view.drawings, view.Bears drawing
  tasks : ∀ task ∈ view.tasks, view.Employs task
  reported : ∀ job ∈ view.reported, ∃ pipeline, view.pipelines[job.pipeline]? = some pipeline

theorem Accounted.alive (accounted : view.Accounted) (member : entry ∈ view.holdings) :
    ∃ item, view.store.get? entry = some item := by
  apply Store.exists_of_holders_pos
  rw [accounted.holders]
  exact List.count_pos_iff.mpr member

theorem Accounted.listed (accounted : view.Accounted) (there : view.pipelines[id]? = some pipeline)
    (member : entry ∈ pipeline.instances) : ∃ item, view.store.get? entry = some item :=
  accounted.alive (List.mem_append_left _
    (List.mem_flatMap.mpr ⟨pipeline, List.mem_of_getElem? there, member⟩))

theorem Accounted.task (accounted : view.Accounted) {task : Task} (member : task ∈ view.tasks) :
    ∃ item, view.store.get? task.job.entry = some item :=
  accounted.alive (List.mem_append_right _ (List.mem_append_right _
    (List.mem_map_of_mem member)))

theorem count_holdings (view : Overview) (entry : InstanceId) :
    view.holdings.count entry = view.listed.count entry + ((view.reported.map Job.entry).count entry +
      (view.tasks.map fun task => task.job.entry).count entry) := by
  simp only [holdings, List.count_append]

theorem Obtained.listed_eq (obtained : view.Obtained shaders id next) : next.listed = view.listed := by
  cases obtained with
  | old => rfl
  | new => simp [listed]

/-- A step on one pipeline changes the lists by what it does to this one. -/
theorem count_listed_change (there : view.pipelines[id]? = some pipeline) (shared : Shared)
    (entry : InstanceId) :
    (view.change id shared).listed.count entry + pipeline.instances.count entry =
      view.listed.count entry + shared.pipeline.instances.count entry := by
  obtain ⟨inside, rfl⟩ := List.getElem?_eq_some_iff.mp there
  exact count_flatMap_set Pipeline.instances view.pipelines shared.pipeline entry id inside

/-- What a call does to the number of holders, it does to the list of its pipeline. -/
theorem Accounted.called {call after : Call} {changed : Shared} {destroyed : List PipelineHandle}
    (accounted : view.Accounted) (there : view.pipelines[id]? = some pipeline)
    (effect : call.Effect ⟨pipeline, view.store⟩ after changed destroyed)
    (pipelines : next.pipelines = (view.change id changed).pipelines) (store : next.store = changed.store)
    (reported : next.reported = view.reported)
    (tasks : next.tasks.map (fun task => task.job.entry) =
      view.tasks.map fun task => task.job.entry) : next.Accounted := by
  refine ⟨?_, fun entry => ?_⟩
  · rw [store]
    exact (Traffic.holders_effect effect accounted.sound 0).1
  · have changes := (Traffic.holders_effect effect accounted.sound entry).2
    have lists := count_listed_change there changed entry
    have counted := accounted.holders entry
    rw [count_holdings] at counted
    rw [store, count_holdings, Overview.listed, pipelines, ← Overview.listed, reported, tasks]
    simp only at changes
    omega

/-- One more place holds an instance that was there. -/
theorem Accounted.held {item : Instance} (accounted : view.Accounted)
    (present : view.store.get? entry = some item) (store : next.store = view.store.hold entry)
    (counts : ∀ other, next.holdings.count other = view.holdings.count other + [entry].count other) :
    next.Accounted := by
  refine ⟨?_, fun other => ?_⟩
  · rw [store]
    exact Store.sound_hold accounted.sound entry
  · rw [store, Store.holders_hold present, counts, accounted.holders]

/-- One place gives up an instance. -/
theorem Accounted.released (accounted : view.Accounted)
    (store : next.store = (view.store.release entry).2)
    (counts : ∀ other, view.holdings.count other = next.holdings.count other + [entry].count other) :
    next.Accounted := by
  refine ⟨?_, fun other => ?_⟩
  · rw [store]
    exact Store.sound_release accounted.sound entry
  · rw [store, Store.holders_release, accounted.holders, counts, Nat.add_sub_cancel]

/-- One place holds a new instance. -/
theorem Accounted.added {item : Instance} (accounted : view.Accounted)
    (store : next.store = (view.store.add item).2)
    (counts : ∀ other, next.holdings.count other =
      view.holdings.count other + [(view.store.add item).1].count other) : next.Accounted := by
  refine ⟨?_, fun other => ?_⟩
  · rw [store]
    exact Store.sound_add accounted.sound item
  · rw [store, Store.holders_add, counts, accounted.holders]

/-- The same places hold the same instances, in whatever order. -/
theorem Accounted.arranged (accounted : view.Accounted) (store : next.store = view.store)
    (same : view.holdings.Perm next.holdings) : next.Accounted := by
  refine ⟨?_, fun entry => ?_⟩
  · rw [store]
    exact accounted.sound
  · rw [store, accounted.holders, same.count_eq]

/-- The instance that a draw is about to hand on is in the list of its pipeline. -/
theorem Founded.handed (founded : view.Founded) {drawing : Drawing} (member : drawing ∈ view.drawings)
    {handle : PipelineHandle} (position : drawing.draw.position = .reporting handle entry ∨
      drawing.draw.position = .queueing handle entry) :
    ∃ pipeline, view.pipelines[drawing.pipeline]? = some pipeline ∧ entry ∈ pipeline.instances ∧
      ∃ item, view.store.get? entry = some item := by
  obtain ⟨pipeline, there, _, knows⟩ := founded.drawings drawing member
  rcases position with position | position <;> rw [Draw.Founded, position] at knows <;>
    obtain ⟨item, serving, _⟩ := knows <;>
    exact ⟨pipeline, there, serving.member, item, serving.present⟩

/-- The instance of a job is there while a worker acts on it. -/
theorem Accounted.worked (accounted : view.Accounted) (founded : view.Founded) {task : Task}
    (member : task ∈ view.tasks) : ∃ item, view.store.get? task.optimization.entry = some item := by
  obtain ⟨matched, _⟩ := founded.tasks task member
  rw [matched]
  exact accounted.task member

theorem Obtained.accounted (obtained : view.Obtained shaders id next) (accounted : view.Accounted) :
    next.Accounted := by
  cases obtained with
  | old => exact accounted
  | new absent =>
      have same := Obtained.listed_eq (.new absent : view.Obtained shaders _ _)
      refine ⟨accounted.sound, fun entry => ?_⟩
      rw [holdings, same]
      exact accounted.holders entry

theorem Accounted.step (accounted : view.Accounted) (founded : view.Founded)
    (stepped : Step fails view next) : next.Accounted := by
  cases stepped with
  | begins shaders state pass =>
      have later := (view.obtained shaders).accounted accounted
      exact ⟨later.sound, later.holders⟩
  | draws index drawing pipeline found there _ =>
      have effect := drawing.draw.effect_step ⟨pipeline, view.store⟩
      exact accounted.called there effect rfl rfl rfl rfl
  | reports drawing handle entry member position =>
      obtain ⟨_, _, _, item, present⟩ := founded.handed member (Or.inl position)
      apply accounted.held present rfl
      intro other
      simp only [holdings, Overview.listed, List.map_append, List.map_singleton, List.count_append]
      omega
  | queues drawing handle entry member position =>
      obtain ⟨_, _, _, item, present⟩ := founded.handed member (Or.inr position)
      apply accounted.held present rfl
      intro other
      simp only [holdings, Overview.listed, List.map_cons, List.count_append, List.count_cons, List.count_nil,
        Task.ofJob]
      omega
  | records job rest pipeline item held reported there present passed =>
      apply accounted.released rfl
      intro other
      simp only [holdings, Overview.listed, reported, List.map_cons, List.count_append, List.count_cons,
        List.count_nil]
      omega
  | builds ready others position =>
      have later := (view.obtained ready.shaders).accounted accounted
      exact ⟨later.sound, later.holders⟩
  | submits key pipeline pass ready position =>
      apply accounted.added rfl
      intro other
      simp only [holdings, Overview.listed, List.map_cons, List.count_append, List.count_cons, List.count_nil,
        Task.ofJob]
      omega
  | arranges tasks same =>
      refine accounted.arranged rfl ?_
      exact ((same.map _).append_left _).append_left _
  | works task rest pipeline first there =>
      have alive := accounted.worked founded (first ▸ List.mem_cons_self)
      have effect := task.optimization.effect_step ⟨pipeline, view.store⟩ alive
      refine accounted.called there effect rfl rfl rfl ?_
      rw [first]
      rfl
  | replies task rest result first allowed =>
      refine accounted.arranged rfl ?_
      rw [holdings, first]
      exact .refl _
  | ends task rest result first finished =>
      refine accounted.arranged rfl ?_
      rw [holdings, first]
      exact .refl _
  | releases task rest result first finished =>
      apply accounted.released rfl
      intro other
      simp only [holdings, Overview.listed, first, List.map_cons, List.count_append, List.count_cons,
        List.count_nil]
      omega
  | _ => exact ⟨accounted.sound, accounted.holders⟩

/-! ### Growth -/

theorem Grows.change {shared : Shared} (there : view.pipelines[id]? = some pipeline)
    (grows : Shared.Grows ⟨pipeline, view.store⟩ shared)
    (same : shared.pipeline.shaders = pipeline.shaders) : view.Grows (view.change id shared) := by
  refine ⟨fun other old found => ?_, grows.store⟩
  by_cases acts : id = other
  · subst acts
    obtain rfl : pipeline = old := Option.some.inj (there.symm.trans found)
    have inside := (List.getElem?_eq_some_iff.mp there).1
    exact ⟨shared.pipeline, List.getElem?_set_self inside, same, grows.listed⟩
  · exact ⟨old, (List.getElem?_set_ne acts).trans found, rfl, List.prefix_rfl⟩

theorem Obtained.grows (obtained : view.Obtained shaders id next) : view.Grows next := by
  refine ⟨fun other old found => ⟨old, obtained.kept found, rfl, List.prefix_rfl⟩, ?_⟩
  cases obtained <;> exact .refl _

theorem Step.grows (accounted : view.Accounted) (founded : view.Founded)
    (stepped : Step fails view next) : view.Grows next := by
  have spared (id : PipelineId) (pipeline : Pipeline) (found : view.pipelines[id]? = some pipeline) :
      ∃ later, view.pipelines[id]? = some later ∧ later.shaders = pipeline.shaders ∧
        pipeline.instances <+: later.instances :=
    ⟨pipeline, found, rfl, List.prefix_rfl⟩
  cases stepped with
  | begins shaders state pass =>
      have grows := (view.obtained shaders).grows
      exact ⟨grows.pipelines, grows.store⟩
  | draws index drawing pipeline found there _ =>
      have effect := drawing.draw.effect_step ⟨pipeline, view.store⟩
      have grows := Grows.change there effect.grows (drawing.draw.shaders_step _)
      exact ⟨grows.pipelines, grows.store⟩
  | builds ready others position =>
      have grows := (view.obtained ready.shaders).grows
      exact ⟨grows.pipelines, grows.store⟩
  | works task rest pipeline first there =>
      have alive := accounted.worked founded (first ▸ List.mem_cons_self)
      have effect := task.optimization.effect_step ⟨pipeline, view.store⟩ alive
      have grows := Grows.change there effect.grows (task.optimization.shaders_step _)
      exact ⟨grows.pipelines, grows.store⟩
  | reports drawing handle entry member position => exact ⟨spared, Store.evolves_hold _ _⟩
  | queues drawing handle entry member position => exact ⟨spared, Store.evolves_hold _ _⟩
  | records job rest pipeline item held reported there present passed =>
      exact ⟨spared, Store.evolves_release _ _⟩
  | submits key pipeline pass ready position => exact ⟨spared, Store.evolves_add _ _⟩
  | releases task rest result first finished => exact ⟨spared, Store.evolves_release _ _⟩
  | _ => exact ⟨spared, .refl _⟩

/-! ### What draws and jobs know -/

theorem Bears.later {drawing : Drawing} (bears : view.Bears drawing) (grows : view.Grows next)
    (accounted : next.Accounted) : next.Bears drawing := by
  obtain ⟨pipeline, there, keys, knows⟩ := bears
  obtain ⟨later, still, shaders, listed⟩ := grows.pipelines _ pipeline there
  refine ⟨later, still, (congrArg ShaderSet.keys shaders).trans keys, ?_⟩
  have shared : Shared.Grows ⟨pipeline, view.store⟩ ⟨later, next.store⟩ := ⟨listed, grows.store⟩
  exact knows.later shared fun entry member => accounted.listed still member

theorem Employs.later {task : Task} (employs : view.Employs task) (grows : view.Grows next)
    (accounted : next.Accounted) (stays : task ∈ next.tasks) : next.Employs task := by
  obtain ⟨matched, pipeline, there, knows⟩ := employs
  obtain ⟨later, still, _⟩ := grows.pipelines _ pipeline there
  refine ⟨matched, later, still, .later knows grows.store fun _ => ?_⟩
  rw [matched]
  exact accounted.task stays

theorem Grows.there (grows : view.Grows next) (there : view.pipelines[id]? = some pipeline) :
    ∃ later, next.pipelines[id]? = some later := by
  obtain ⟨later, still, _⟩ := grows.pipelines id pipeline there
  exact ⟨later, still⟩

end Overview

theorem Draw.Founded.answer {draw : Draw} {shared : Shared} (founded : draw.Founded shared)
    (result : Except CacheError PipelineHandle) : (draw.answer result).Founded shared := by
  obtain ⟨state, pass, position⟩ := draw
  cases position with
  | compiling parent => cases result <;> trivial
  | _ => exact founded

theorem Optimization.Founded.answer {optimization : Optimization} {shared : Shared}
    (founded : optimization.Founded shared) (result : Except CacheError PipelineHandle) :
    (optimization.answer result).entry = optimization.entry ∧
      (optimization.answer result).Founded shared := by
  obtain ⟨entry, position⟩ := optimization
  cases position with
  | compiling parent => cases result <;> exact ⟨rfl, trivial⟩
  | _ => exact ⟨rfl, founded⟩

namespace Overview

variable {fails : Bool} {view next : Overview}

/-- After its next step a draw bears the pipeline that this step has changed. -/
theorem Bears.step {drawing : Drawing} {pipeline : Pipeline} (bears : view.Bears drawing)
    (there : view.pipelines[drawing.pipeline]? = some pipeline) :
    (view.change drawing.pipeline (drawing.draw.step ⟨pipeline, view.store⟩).2.1).Bears
      { drawing with draw := (drawing.draw.step ⟨pipeline, view.store⟩).1 } := by
  obtain ⟨same, present, keys, knows⟩ := bears
  obtain rfl : pipeline = same := Option.some.inj (there.symm.trans present)
  have inside := (List.getElem?_eq_some_iff.mp there).1
  refine ⟨_, List.getElem?_set_self inside, ?_, Draw.founded_step knows⟩
  rw [Pipeline.keys, drawing.draw.shaders_step]
  exact keys

theorem Bears.answer {drawing : Drawing} (bears : view.Bears drawing)
    (result : Except CacheError PipelineHandle) :
    view.Bears { drawing with draw := drawing.draw.answer result } := by
  obtain ⟨pipeline, there, keys, knows⟩ := bears
  exact ⟨pipeline, there, keys, Draw.Founded.answer knows result⟩

theorem Employs.step {task : Task} {pipeline : Pipeline} (employs : view.Employs task)
    (there : view.pipelines[task.job.pipeline]? = some pipeline) :
    (view.change task.job.pipeline (task.optimization.step ⟨pipeline, view.store⟩).2.1).Employs
      ⟨task.job, (task.optimization.step ⟨pipeline, view.store⟩).1⟩ := by
  obtain ⟨matched, same, present, knows⟩ := employs
  obtain rfl : pipeline = same := Option.some.inj (there.symm.trans present)
  have inside := (List.getElem?_eq_some_iff.mp there).1
  exact ⟨(Call.entry_step ..).trans matched, _, List.getElem?_set_self inside,
    Optimization.founded_step knows⟩

theorem Employs.answer {task : Task} (employs : view.Employs task)
    (result : Except CacheError PipelineHandle) :
    view.Employs ⟨task.job, task.optimization.answer result⟩ := by
  obtain ⟨matched, pipeline, there, knows⟩ := employs
  obtain ⟨same, answered⟩ := Optimization.Founded.answer knows result
  exact ⟨same.trans matched, pipeline, there, answered⟩

theorem Founded.drawings_step (tabled : view.Tabled) (founded : view.Founded)
    (accounted : next.Accounted) (grows : view.Grows next) (stepped : Step fails view next) :
    ∀ drawing ∈ next.drawings, next.Bears drawing := by
  have drawn (drawing : Drawing) (member : drawing ∈ view.drawings) : next.Bears drawing :=
    (founded.drawings drawing member).later grows accounted
  cases stepped with
  | begins shaders state pass =>
      obtain ⟨pipeline, there, keys⟩ := (view.obtained shaders).at tabled
      intro drawing member
      rcases List.mem_append.mp member with old | newest
      · exact drawn drawing old
      · rw [List.mem_singleton.mp newest]
        exact ⟨pipeline, there, keys, trivial⟩
  | draws index drawing pipeline found there _ =>
      intro other member
      rcases List.mem_or_eq_of_mem_set member with old | rfl
      · exact drawn other old
      · exact (founded.drawings drawing (List.mem_of_getElem? found)).step there
  | answers index drawing result found =>
      intro other member
      rcases List.mem_or_eq_of_mem_set member with old | rfl
      · exact drawn other old
      · exact (drawn drawing (List.mem_of_getElem? found)).answer result
  | builds ready others position =>
      rw [obtain_eq] at drawn ⊢
      exact drawn
  | _ => exact drawn

theorem Founded.tasks_step (sourced : view.Sourced) (founded : view.Founded)
    (accounted : next.Accounted) (grows : view.Grows next) (stepped : Step fails view next) :
    ∀ task ∈ next.tasks, next.Employs task := by
  have employed (task : Task) (member : task ∈ view.tasks) (stays : task ∈ next.tasks) :
      next.Employs task :=
    (founded.tasks task member).later grows accounted stays
  -- What a worker does with the first job leaves the others as they were.
  have others {task : Task} {rest : List Task} (first : view.tasks = task :: rest)
      (stays : rest ⊆ next.tasks) : ∀ other ∈ rest, next.Employs other := fun other member =>
    employed other (first ▸ List.mem_cons_of_mem _ member) (stays member)
  cases stepped with
  | begins shaders state pass =>
      rw [obtain_eq] at employed ⊢
      exact fun task member => employed task member member
  | queues drawing handle entry member position =>
      obtain ⟨pipeline, there, _⟩ := founded.handed member (Or.inr position)
      refine List.forall_mem_cons.mpr ⟨⟨rfl, pipeline, there, trivial⟩, fun task old => ?_⟩
      exact employed task old (List.mem_cons_of_mem _ old)
  | builds ready _ position =>
      rw [obtain_eq] at employed ⊢
      exact fun task member => employed task member member
  | submits key id pass ready position =>
      have standing := sourced.standing
      rw [position] at standing
      obtain ⟨_, ⟨pipeline, there, _⟩, _⟩ := standing
      refine List.forall_mem_cons.mpr ⟨⟨rfl, pipeline, there, trivial⟩, fun task old => ?_⟩
      exact employed task old (List.mem_cons_of_mem _ old)
  | arranges tasks same =>
      exact fun task member => employed task (same.mem_iff.mpr member) member
  | works task rest pipeline first there =>
      have acts := founded.tasks task (first ▸ List.mem_cons_self)
      exact List.forall_mem_cons.mpr ⟨acts.step there, others first (List.subset_cons_self _ _)⟩
  | replies task rest result first allowed =>
      have acts := founded.tasks task (first ▸ List.mem_cons_self)
      exact List.forall_mem_cons.mpr ⟨acts.answer result, others first (List.subset_cons_self _ _)⟩
  | ends task rest result first finished =>
      obtain ⟨_, pipeline, there, _⟩ := founded.tasks task (first ▸ List.mem_cons_self)
      refine List.forall_mem_cons.mpr ⟨⟨rfl, pipeline, there, trivial⟩, ?_⟩
      exact others first (List.subset_cons_self _ _)
  | releases task rest result first finished => exact others first (List.Subset.refl _)
  | _ => exact fun task member => employed task member member

theorem Founded.reported_step (founded : view.Founded) (grows : view.Grows next)
    (stepped : Step fails view next) :
    ∀ job ∈ next.reported, ∃ pipeline, next.pipelines[job.pipeline]? = some pipeline := by
  have reported (job : Job) (member : job ∈ view.reported) :
      ∃ pipeline, next.pipelines[job.pipeline]? = some pipeline := by
    obtain ⟨pipeline, there⟩ := founded.reported job member
    exact grows.there there
  cases stepped with
  | begins shaders state pass =>
      rw [obtain_eq] at reported ⊢
      exact reported
  | reports drawing handle entry member position =>
      obtain ⟨pipeline, there, _⟩ := founded.handed member (Or.inl position)
      intro job among
      rcases List.mem_append.mp among with old | newest
      · exact reported job old
      · rw [List.mem_singleton.mp newest]
        exact ⟨pipeline, there⟩
  | records job rest pipeline item held queued there present passed =>
      exact fun other member => reported other (queued ▸ List.mem_cons_of_mem _ member)
  | builds ready others position =>
      rw [obtain_eq] at reported ⊢
      exact reported
  | _ => exact reported

theorem Founded.step (tabled : view.Tabled) (sourced : view.Sourced) (accounted : view.Accounted)
    (founded : view.Founded) (stepped : Step fails view next) : next.Founded := by
  have grows := stepped.grows accounted founded
  have later := accounted.step founded stepped
  exact ⟨founded.drawings_step tabled later grows stepped,
    founded.tasks_step sourced later grows stepped, founded.reported_step grows stepped⟩

/-- What holds throughout a session that has loaded some keys. -/
structure Orderly (loaded : List PipelineKey) (view : Overview) : Prop where
  tabled : view.Tabled
  sourced : view.Sourced
  rooted : view.Rooted loaded
  accounted : view.Accounted
  founded : view.Founded

theorem Orderly.step {loaded : List PipelineKey} (orderly : view.Orderly loaded)
    (stepped : Step fails view next) : next.Orderly loaded where
  tabled := orderly.tabled.step stepped
  sourced := orderly.sourced.step orderly.tabled stepped
  rooted := orderly.rooted.step orderly.sourced stepped
  accounted := orderly.accounted.step orderly.founded stepped
  founded := orderly.founded.step orderly.tabled orderly.sourced orderly.accounted stepped

end Overview

end PipelineCache

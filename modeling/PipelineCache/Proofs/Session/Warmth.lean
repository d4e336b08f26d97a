import Mathlib.Data.List.Find
import PipelineCache.Proofs.Session.Optimizing

/-! How a known key becomes warm: the pipeline for its shaders lists an instance for its state and format,
and this instance is optimized. On the way there the key waits for its shaders, then for the lookup to
submit it, and then for a job of the compiler. As long as nobody draws and nothing fails, it is never
lost; and what serves it once serves it ever after, whatever happens. -/

namespace PipelineCache

/-- The optimization will go on until the instance stands in the list. -/
def OptimizationPosition.advances : OptimizationPosition → Bool
  | .checking => true
  | .preparing => true
  | .compiling _ => true
  | .installing _ => true
  | .countingInstalled _ => true
  | .adopting _ => true
  | _ => false

namespace Shared

variable {shared before after : Shared} {state : PipelineState} {format : RenderPassFormat}
  {entry : InstanceId} {item : Instance} {handle : PipelineHandle}

/-- The first instance that serves a combination is optimized. -/
structure Supplies (shared : Shared) (state : PipelineState) (format : RenderPassFormat)
    (entry : InstanceId) (handle : PipelineHandle) : Prop where
  found : shared.find? state format = some entry
  fast : ∃ item, shared.store.get? entry = some item ∧ item.fast = some handle

/-- The first instance that serves a combination stays the first one. -/
theorem find?_later (grows : before.Grows after)
    (alive : ∀ entry ∈ before.pipeline.instances, ∃ item, after.store.get? entry = some item)
    (inside : ∀ entry ∈ before.pipeline.instances, ∃ item, before.store.get? entry = some item)
    (found : before.find? state format = some entry) : after.find? state format = some entry := by
  obtain ⟨joined, listed⟩ := grows.listed
  have agree (other : InstanceId) (member : other ∈ before.pipeline.instances) :
      ((after.store.get? other).any fun item => item.serves state format) =
        (before.store.get? other).any fun item => item.serves state format := by
    obtain ⟨old, present⟩ := inside other member
    obtain ⟨later, still, evolves⟩ := grows.store.later present (alive other member)
    rw [present, still, Option.any_some, Option.any_some, Bool.eq_iff_iff, Instance.serves_iff,
      Instance.serves_iff, evolves.combination]
  rw [find?, Pipeline.find?, ← listed, List.find?_append, List.find?_congr agree]
  exact Option.or_eq_some_iff.mpr (Or.inl found)

theorem Supplies.later (supplies : before.Supplies state format entry handle)
    (grows : before.Grows after)
    (alive : ∀ entry ∈ before.pipeline.instances, ∃ item, after.store.get? entry = some item)
    (inside : ∀ entry ∈ before.pipeline.instances, ∃ item, before.store.get? entry = some item) :
    after.Supplies state format entry handle := by
  obtain ⟨found, item, present, fast⟩ := supplies
  have still := find?_later grows alive inside found
  obtain ⟨later, remains, evolves⟩ :=
    grows.store.later present (alive entry (List.mem_of_find?_eq_some found))
  exact ⟨still, later, remains, (evolves.fast (by rw [fast]; rfl)).trans fast⟩

theorem find?_adopt (absent : shared.find? state format = none)
    (present : shared.store.get? entry = some item) (serves : item.combination = (state, format)) :
    (shared.adopt entry).find? state format = some entry := by
  have same (other : InstanceId) : (shared.store.hold entry).get? other = shared.store.get? other :=
    Store.get?_hold ..
  have own : item.serves state format = true := Instance.serves_iff.mpr serves
  show ((shared.pipeline.instances ++ [entry]).find? fun id =>
    ((shared.store.hold entry).get? id).any fun item => item.serves state format) = some entry
  simp only [same]
  rw [List.find?_append]
  rw [find?, Pipeline.find?] at absent
  rw [absent, Option.none_or, List.find?_singleton, present, Option.any_some, own]
  rfl

end Shared

namespace Optimization

variable {optimization : Optimization} {shared : Shared} {item : Instance} {handle : PipelineHandle}

theorem advances_answer {result : Except CacheError PipelineHandle} (succeeded : result.isOk = true)
    (advancing : optimization.position.advances = true) :
    (optimization.answer result).position.advances = true := by
  obtain ⟨entry, position⟩ := optimization
  cases position with
  | compiling parent =>
      cases result with
      | ok handle => rfl
      | error error => cases succeeded
  | _ => exact advancing

/-- What is permitted and not optimized by anybody else goes on until it is adopted. -/
theorem advances_step (optimization : Optimization) (shared : Shared)
    (present : shared.store.get? optimization.entry = some item)
    (unset : optimization.position.isEarly = true → item.fast = none)
    (permits : shared.pipeline.Permits item.combination)
    (advancing : optimization.position.advances = true) :
    (optimization.step shared).1.position.advances = true ∨
      ∃ handle, optimization.position = .adopting handle := by
  obtain ⟨entry, position⟩ := optimization
  cases position with
  | checking =>
      simp only [step, present, unset rfl]
      exact Or.inl rfl
  | preparing =>
      have passed : shared.pipeline.validate item.state item.pass.format = .ok () := permits
      simp only [step, present, passed]
      exact Or.inl rfl
  | compiling parent =>
      simp only [step, present]
      exact Or.inl rfl
  | installing handle =>
      have wins : (shared.store.install entry handle).isSome :=
        Store.isSome_install_iff.mpr ⟨item, present, unset rfl⟩
      obtain ⟨store, set⟩ := Option.isSome_iff_exists.mp wins
      simp only [step, present, set]
      exact Or.inl rfl
  | countingInstalled handle =>
      simp only [step, present]
      exact Or.inl rfl
  | adopting handle => exact Or.inr ⟨handle, rfl⟩
  | _ => cases advancing

/-- After the last step on the way, the list has an optimized instance for the combination. -/
theorem supplies_adopting (optimization : Optimization) (shared : Shared)
    (position : optimization.position = .adopting handle)
    (present : shared.store.get? optimization.entry = some item) (base : item.base = none)
    (fast : item.fast.isSome = true)
    (listed : ∀ entry ∈ shared.pipeline.instances, ∃ item,
      shared.store.get? entry = some item ∧ item.fast.isSome = true) :
    ∃ entry handle,
      (optimization.step shared).2.1.Supplies item.state item.pass.format entry handle := by
  obtain ⟨entry, stands⟩ := optimization
  obtain rfl : stands = .adopting handle := position
  have own : item.base.isSome = false := by rw [base]; rfl
  simp only [step, present, adoption, own, Bool.false_eq_true, if_false]
  cases found : shared.find? item.state item.pass.format with
  | some other =>
      obtain ⟨rival, there, optimized⟩ := listed other (List.mem_of_find?_eq_some found)
      obtain ⟨handle, set⟩ := Option.isSome_iff_exists.mp optimized
      exact ⟨other, handle, found, rival, there, set⟩
  | none =>
      obtain ⟨handle, set⟩ := Option.isSome_iff_exists.mp fast
      exact ⟨entry, handle, Shared.find?_adopt found present rfl, item,
        (Store.get?_hold ..).trans present, set⟩

end Optimization

namespace Overview

variable {fails : Bool} {view next : Overview} {loaded : List PipelineKey} {pipeline : Pipeline}
  {item : Instance} {task : Task} {key : PipelineKey} {objects : List Shader} {id : PipelineId}
  {entry : InstanceId} {handle : PipelineHandle}

/-- The pipeline for the shaders of a key lists an optimized instance for its state and format. -/
def Serves (view : Overview) (key : PipelineKey) (id : PipelineId) (entry : InstanceId)
    (handle : PipelineHandle) : Prop :=
  ∃ pipeline, view.pipelines[id]? = some pipeline ∧ pipeline.keys = key.shaders ∧
    Shared.Supplies ⟨pipeline, view.store⟩ key.state key.format entry handle

def Warm (view : Overview) (key : PipelineKey) : Prop :=
  ∃ id entry handle, view.Serves key id entry handle

/-- A job of the compiler will make a key warm. -/
structure Underway (view : Overview) (key : PipelineKey) (task : Task) (pipeline : Pipeline)
    (item : Instance) : Prop where
  running : task ∈ view.tasks
  there : view.pipelines[task.job.pipeline]? = some pipeline
  keys : pipeline.keys = key.shaders
  present : view.store.get? task.job.entry = some item
  combination : item.combination = (key.state, key.format)
  advancing : task.optimization.position.advances = true

def Warming (view : Overview) (key : PipelineKey) : Prop :=
  view.Warm key ∨ ∃ task pipeline item, view.Underway key task pipeline item

/-- What serves a key goes on serving it. -/
theorem Serves.later (serves : view.Serves key id entry handle) (before : view.Accounted)
    (after : next.Accounted) (grows : view.Grows next) : next.Serves key id entry handle := by
  obtain ⟨pipeline, there, keys, supplies⟩ := serves
  obtain ⟨later, still, shaders, listed⟩ := grows.pipelines id pipeline there
  have shared : Shared.Grows ⟨pipeline, view.store⟩ ⟨later, next.store⟩ := ⟨listed, grows.store⟩
  exact ⟨later, still, (congrArg ShaderSet.keys shaders).trans keys,
    supplies.later shared (fun other member => after.listed still (listed.subset member))
      fun other member => before.listed there member⟩

theorem Underway.later (underway : view.Underway key task pipeline item) (grows : view.Grows next)
    (after : next.Accounted) (running : task ∈ next.tasks) :
    ∃ later grown, next.Underway key task later grown := by
  obtain ⟨later, still, shaders, _⟩ := grows.pipelines _ pipeline underway.there
  obtain ⟨grown, remains, evolves⟩ := grows.store.later underway.present (after.task running)
  exact ⟨later, grown, running, still, (congrArg ShaderSet.keys shaders).trans underway.keys, remains,
    evolves.combination.trans underway.combination, underway.advancing⟩

/-- Nobody draws, and only certain shaders are provided. -/
def Silent (objects : List Shader) (view : Overview) : Prop :=
  view.drawings = [] ∧ view.provided ⊆ objects

theorem Silent.earlier (silent : next.Silent objects) (stepped : Step fails view next) :
    view.Silent objects :=
  ⟨stepped.drawings_nil silent.1, List.Subset.trans stepped.provided_subset silent.2⟩

/-- A step of a job that is on its way to make a key warm. -/
theorem Underway.works (orderly : view.Orderly loaded) (prompt : view.Prompt)
    (underway : view.Underway key task pipeline item) (permits : pipeline.Permits item.combination)
    (store : next.store = (task.optimization.step ⟨pipeline, view.store⟩).2.1.store)
    (pipelines : next.pipelines[task.job.pipeline]? =
      some (task.optimization.step ⟨pipeline, view.store⟩).2.1.pipeline)
    (running : ⟨task.job, (task.optimization.step ⟨pipeline, view.store⟩).1⟩ ∈ next.tasks)
    (grows : view.Grows next) (after : next.Accounted) : next.Warming key := by
  obtain ⟨acts, there, keys, present, combination, advancing⟩ := underway
  obtain ⟨matched, same, also, knows⟩ := orderly.founded.tasks task acts
  obtain rfl : pipeline = same := Option.some.inj (there.symm.trans also)
  obtain ⟨base, unset⟩ := prompt.tasks task acts item present
  have own : view.store.get? task.optimization.entry = some item := by rwa [matched]
  have shaders := task.optimization.shaders_step ⟨pipeline, view.store⟩
  have advanced :=
    task.optimization.advances_step ⟨pipeline, view.store⟩ own unset permits advancing
  rcases advanced with still | ⟨handle, position⟩
  · have alive := after.task running
    obtain ⟨grown, remains, evolves⟩ := grows.store.later present alive
    exact Or.inr ⟨_, _, grown, running, pipelines, (congrArg ShaderSet.keys shaders).trans keys,
      remains, evolves.combination.trans combination, still⟩
  · have fast : item.fast.isSome = true := by
      rw [Optimization.Founded, position] at knows
      obtain ⟨other, found, set⟩ := knows
      obtain rfl : item = other := Option.some.inj (own.symm.trans found)
      exact set
    have listed (entry : InstanceId) (member : entry ∈ pipeline.instances) :
        ∃ item, view.store.get? entry = some item ∧ item.fast.isSome = true := by
      obtain ⟨other, found⟩ := orderly.accounted.listed there member
      exact ⟨other, found, prompt.listed pipeline (List.mem_of_getElem? there) entry member other found⟩
    obtain ⟨entry, handle, supplies⟩ :=
      task.optimization.supplies_adopting ⟨pipeline, view.store⟩ position own base fast listed
    obtain ⟨state, format⟩ := Prod.mk.inj combination
    refine Or.inl ⟨_, entry, handle, _, pipelines, (congrArg ShaderSet.keys shaders).trans keys, ?_⟩
    rw [store, ← state, ← format]
    exact supplies

/-- A key that is on its way to be warm stays on its way. -/
theorem Warming.step (orderly : view.Orderly loaded) (prompt : view.Prompt)
    (permitted : ∀ pipeline ∈ view.pipelines, pipeline.keys = key.shaders →
      pipeline.Permits (key.state, key.format))
    (warming : view.Warming key) (stepped : Step false view next) : next.Warming key := by
  have grows := stepped.grows orderly.accounted orderly.founded
  have after := (orderly.step stepped).accounted
  rcases warming with ⟨id, entry, handle, serves⟩ | ⟨task, pipeline, item, underway⟩
  · exact Or.inl ⟨id, entry, handle, serves.later orderly.accounted after grows⟩
  have kept (running : task ∈ next.tasks) : next.Warming key := by
    obtain ⟨later, grown, still⟩ := underway.later grows after running
    exact Or.inr ⟨task, later, grown, still⟩
  have running := underway.running
  cases stepped with
  | begins shaders state pass =>
      rw [obtain_eq] at kept ⊢
      exact kept running
  | builds ready others position =>
      rw [obtain_eq] at kept ⊢
      exact kept running
  | queues drawing handle entry member _ => exact kept (List.mem_cons_of_mem _ running)
  | submits id pass ready position there => exact kept (List.mem_cons_of_mem _ running)
  | arranges tasks same => exact kept (same.mem_iff.mp running)
  | works acting rest same first there =>
      rw [first] at running
      rcases List.mem_cons.mp running with rfl | among
      · obtain rfl : pipeline = same := Option.some.inj (underway.there.symm.trans there)
        have permits := permitted pipeline (List.mem_of_getElem? there) underway.keys
        rw [← underway.combination] at permits
        exact underway.works orderly prompt permits rfl
          (List.getElem?_set_self (List.getElem?_eq_some_iff.mp there).1) List.mem_cons_self grows after
      · exact kept (List.mem_cons_of_mem _ among)
  | replies acting rest result first allowed =>
      rw [first] at running
      rcases List.mem_cons.mp running with rfl | among
      · have succeeded : result.isOk = true := by
          cases failed : result.isOk with
          | true => rfl
          | false => exact absurd (allowed failed) Bool.false_ne_true
        exact Or.inr ⟨_, pipeline, item, List.mem_cons_self, underway.there, underway.keys,
          underway.present, underway.combination,
          Optimization.advances_answer succeeded underway.advancing⟩
      · exact kept (List.mem_cons_of_mem _ among)
  | ends acting rest result first finished =>
      rw [first] at running
      rcases List.mem_cons.mp running with rfl | among
      · have advancing := underway.advancing
        rw [finished] at advancing
        cases advancing
      · exact kept (List.mem_cons_of_mem _ among)
  | releases acting rest result first finished =>
      rw [first] at running
      rcases List.mem_cons.mp running with rfl | among
      · have advancing := underway.advancing
        rw [finished] at advancing
        cases advancing
      · exact kept among
  | _ => exact kept running

end Overview

/-! ### From the shaders to the job -/

namespace Lookup

variable {lookup : Lookup} {key : PipelineKey} {entry : LookupEntry}

/-- A key is found by each of its shaders. -/
def Finds (lookup : Lookup) (key : PipelineKey) : Prop :=
  ∀ shader ∈ key.required, key ∈ lookup.index.candidates shader

theorem Finds.handle (finds : lookup.Finds key) (entry : LookupEntry) :
    (lookup.handle entry).1.Finds key := by
  have handled := lookup.handled entry
  generalize (lookup.handle entry).1 = grown at handled ⊢
  generalize (lookup.handle entry).2 = response at handled
  cases handled with
  | registers given _ _ _ index _ => exact fun shader member => index ▸ finds shader member
  | indexes added =>
      intro shader member
      rw [BackReferences.candidates_insert]
      exact List.mem_append_left _ (finds shader member)
  | ignores given _ _ _ => exact finds

/-- The last of its shaders makes a key ready. -/
theorem mem_ready_handle (finds : lookup.Finds key) (lacked : ¬ lookup.Covers key)
    (covers : (lookup.handle entry).1.Covers key) :
    key ∈ (lookup.handle entry).2.ready.map ReadyKey.key := by
  have handled := lookup.handled entry
  generalize (lookup.handle entry).1 = grown at handled covers
  generalize (lookup.handle entry).2 = response at handled ⊢
  cases handled with
  | registers given _ _ _ index registered =>
      rw [LookupResponse.ready, map_key_ready, index]
      refine List.mem_filter.mpr ⟨finds given.key ?_, decide_eq_true covers⟩
      -- If the key did not have this shader, it would have been complete before.
      by_contra unneeded
      refine lacked fun shader member => ?_
      have there := covers shader member
      rw [registered, List.mem_append, List.mem_singleton] at there
      refine there.resolve_right fun same => unneeded ?_
      rwa [same] at member
  | indexes added => exact absurd covers lacked
  | ignores given _ _ _ => exact absurd covers lacked

end Lookup

namespace Overview

variable {fails : Bool} {view next : Overview} {loaded : List PipelineKey} {key : PipelineKey}
  {objects : List Shader}

/-- A key lacks a shader, or is ready and not yet submitted, or is on its way to be warm. -/
def Progress (view : Overview) (key : PipelineKey) : Prop :=
  ¬ view.lookup.Covers key ∨ key ∈ view.position.pending ∨ view.Warming key

theorem Progress.looks {lookup : Lookup} {position : LookupPosition} {entries : List LookupEntry}
    (finds : view.lookup.Finds key)
    (unsubmitted : ¬ view.lookup.Covers key ∨ key ∈ view.position.pending)
    (looked : Looks false view.lookup view.position view.entries lookup position entries) :
    ¬ lookup.Covers key ∨ key ∈ position.pending := by
  generalize view.position = before at looked unsubmitted
  generalize view.entries = earlier at looked
  cases looked with
  | takes entry entries => exact unsubmitted
  | handles entry entries =>
      rw [LookupResponse.pending_next]
      rcases unsubmitted with lacked | pending
      · rw [Classical.or_iff_not_imp_left]
        exact fun covers => Lookup.mem_ready_handle finds lacked (Classical.not_not.mp covers)
      · cases pending
  | returns entries => exact unsubmitted
  | passes key id pass ready entries fits => exact unsubmitted
  | refused key id ready entries allowed => cases allowed
  | counts ready entries => exact unsubmitted

/-- The key that is submitted gets a job. -/
theorem warming_submits (orderly : view.Orderly loaded) (canonical : key.shaders.cleared = key.shaders)
    {id : PipelineId} {pass : RenderPass} {ready : List ReadyKey}
    (position : view.position = .submitting key id pass ready)
    (stepped : Step fails view next)
    (store : next.store = (view.store.add { state := key.state, pass := pass }).2)
    (tasks : .ofJob ⟨id, (view.store.add { state := key.state, pass := pass }).1⟩ ∈ next.tasks) :
    next.Warming key := by
  have standing := orderly.sourced.standing
  rw [position] at standing
  obtain ⟨_, there, fits, _⟩ := standing
  obtain ⟨pipeline, found, keys⟩ := stepped.at_kept there
  have present : next.store.get? (view.store.add { state := key.state, pass := pass }).1 =
      some { state := key.state, pass := pass } := by
    rw [store, Store.get?_add, if_pos rfl]
  exact Or.inr ⟨_, pipeline, _, tasks, found, keys.trans canonical, present,
    congrArg (key.state, ·) fits, rfl⟩

/-- Without failures a key makes progress, or keeps what progress it has made. -/
theorem Progress.step (orderly : view.Orderly loaded) (prompt : view.Prompt)
    (canonical : key.shaders.cleared = key.shaders)
    (permitted : ∀ pipeline ∈ view.pipelines, pipeline.keys = key.shaders →
      pipeline.Permits (key.state, key.format))
    (finds : view.lookup.Finds key) (progress : view.Progress key) (stepped : Step false view next) :
    next.Progress key := by
  rcases or_assoc.mpr progress with unsubmitted | warming
  · have whole := stepped
    cases stepped with
    | begins shaders state pass =>
        rw [obtain_eq]
        exact or_assoc.mp (Or.inl unsubmitted)
    | looks lookup position entries looked =>
        exact or_assoc.mp (Or.inl (Progress.looks finds unsubmitted looked))
    | builds ready others position =>
        rw [position] at unsubmitted
        rw [obtain_eq]
        exact or_assoc.mp (Or.inl unsubmitted)
    | submits submitted id pass ready position =>
        rcases unsubmitted with lacked | pending
        · exact Or.inl lacked
        · rw [position] at pending
          rcases List.mem_cons.mp pending with rfl | later
          · exact Or.inr (Or.inr
              (warming_submits orderly canonical position whole rfl List.mem_cons_self))
          · exact Or.inr (Or.inl later)
    | _ => exact or_assoc.mp (Or.inl unsubmitted)
  · exact Or.inr (Or.inr (warming.step orderly prompt permitted stepped))

theorem Step.finds_kept (stepped : Step fails view next) (finds : view.lookup.Finds key) :
    next.lookup.Finds key := by
  cases stepped with
  | begins shaders state pass =>
      rw [obtain_eq]
      exact finds
  | looks lookup position entries looked =>
      generalize view.position = before at looked
      generalize view.entries = earlier at looked
      cases looked with
      | handles entry _ => exact finds.handle entry
      | _ => exact finds
  | builds ready others position =>
      rw [obtain_eq]
      exact finds
  | _ => exact finds

/-- What is known of a session in which nobody draws, about a key that it has loaded. -/
structure Heading (loaded : List PipelineKey) (key : PipelineKey) (view : Overview) : Prop where
  orderly : view.Orderly loaded
  prompt : view.Prompt
  finds : view.lookup.Finds key
  progress : view.Progress key

/-- The key may be used with whatever shaders have its shader keys. -/
def Admitted (objects : List Shader) (key : PipelineKey) : Prop :=
  ∀ pipeline : Pipeline, pipeline.shaders.From objects → pipeline.keys = key.shaders →
    pipeline.Permits (key.state, key.format)

theorem Silent.permitted (silent : view.Silent objects) (orderly : view.Orderly loaded)
    (admitted : Admitted objects key) : ∀ pipeline ∈ view.pipelines, pipeline.keys = key.shaders →
      pipeline.Permits (key.state, key.format) := by
  intro pipeline member keys
  rcases orderly.rooted.pipelines pipeline member with ⟨drawing, drawn, _⟩ | ⟨filled, _⟩
  · rw [silent.1] at drawn
    cases drawn
  · exact admitted pipeline (fun stage shader present => silent.2 (filled stage shader present)) keys

theorem Heading.step (canonical : key.shaders.cleared = key.shaders) (admitted : Admitted objects key)
    (heading : view.Heading loaded key) (silent : next.Silent objects)
    (stepped : Step false view next) : next.Heading loaded key where
  orderly := heading.orderly.step stepped
  prompt := heading.prompt.step heading.orderly stepped silent.1
  finds := stepped.finds_kept heading.finds
  progress := heading.progress.step heading.orderly heading.prompt canonical
    ((silent.earlier stepped).permitted heading.orderly admitted) heading.finds stepped

theorem Heading.steps (canonical : key.shaders.cleared = key.shaders)
    (admitted : Admitted objects key) (heading : view.Heading loaded key)
    (steps : Steps false view next) (silent : next.Silent objects) : next.Heading loaded key := by
  induction steps with
  | refl => exact heading
  | tail _ stepped ih => exact (ih (silent.earlier stepped)).step canonical admitted silent stepped

/-- A key whose shaders have all been registered is on its way once the lookup has nothing left to
submit. -/
theorem Heading.warming (heading : view.Heading loaded key) (covers : view.lookup.Covers key)
    (submitted : view.position.pending = []) : view.Warming key := by
  rcases heading.progress with lacks | pending | warming
  · exact absurd covers lacks
  · rw [submitted] at pending
    cases pending
  · exact warming

theorem Warming.steps (canonical : key.shaders.cleared = key.shaders)
    (admitted : Admitted objects key) (heading : view.Heading loaded key)
    (warming : view.Warming key) (steps : Steps false view next) (silent : next.Silent objects) :
    next.Warming key := by
  induction steps with
  | refl => exact warming
  | tail before stepped ih =>
      have earlier := silent.earlier stepped
      obtain ⟨orderly, prompt, _, _⟩ := heading.steps canonical admitted before earlier
      exact (ih earlier).step orderly prompt (earlier.permitted orderly admitted) stepped

/-- What is on its way is warm once the compiler has nothing left to do. -/
theorem Warming.warm (warming : view.Warming key) (rests : view.tasks = []) : view.Warm key := by
  rcases warming with warm | ⟨task, pipeline, item, underway⟩
  · exact warm
  · have running := underway.running
    rw [rests] at running
    cases running

end Overview

end PipelineCache

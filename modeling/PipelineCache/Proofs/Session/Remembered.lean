import PipelineCache.Proofs.Session.Checks

/-! What a session remembers. An instance that stands in the list of a pipeline was drawn with or fetched
for a known key. If it was drawn with, its key is known, or the instance is on its way to the writer, or
the draw that made it has yet to report it. So once all draws have returned and the writer has nothing
left to do, the key of every listed instance is known. -/

namespace PipelineCache

/-- The key recalls a pipeline with such shader keys and an instance of such a combination. -/
def PipelineKey.Recalls (key : PipelineKey) (keys : ShaderKeys)
    (combination : PipelineState × RenderPassFormat) : Prop :=
  (keys = key.shaders ∨ keys = key.shaders.cleared) ∧ combination = (key.state, key.format)

theorem Pipeline.recalls_instanceKey (pipeline : Pipeline) (item : Instance) :
    (pipeline.instanceKey item).Recalls pipeline.keys item.combination := ⟨Or.inl rfl, rfl⟩

/-- The instance that a draw has made and not yet reported. -/
def DrawPosition.unreported? : DrawPosition → Option InstanceId
  | .counting _ entry => some entry
  | .offering _ entry => some entry
  | .reporting _ entry => some entry
  | _ => none

theorem Draw.unreported_answer (draw : Draw) (result : Except CacheError PipelineHandle)
    {entry : InstanceId} (unreported : draw.position.unreported? = some entry) :
    (draw.answer result).position.unreported? = some entry := by
  obtain ⟨state, pass, position⟩ := draw
  cases position <;> first | exact unreported | cases unreported

/-- A draw goes on towards its report, or makes it. -/
theorem Draw.unreported_step (draw : Draw) (shared : Shared) {entry : InstanceId}
    (unreported : draw.position.unreported? = some entry) :
    (draw.step shared).1.position.unreported? = some entry ∨
      ∃ handle, draw.position = .reporting handle entry := by
  obtain ⟨state, pass, position⟩ := draw
  cases position with
  | counting handle other => exact Or.inl unreported
  | offering handle other => exact Or.inl unreported
  | reporting handle other =>
      obtain rfl : other = entry := Option.some.inj unreported
      exact Or.inr ⟨handle, rfl⟩
  | _ => cases unreported

namespace Overview

variable {fails : Bool} {view next : Overview} {id : PipelineId} {pipeline : Pipeline}
  {entry : InstanceId} {item : Instance} {loaded : List PipelineKey} {keys : ShaderKeys}
  {combination : PipelineState × RenderPassFormat}

def Recalled (view : Overview) (keys : ShaderKeys)
    (combination : PipelineState × RenderPassFormat) : Prop :=
  ∃ key ∈ view.known, key.Recalls keys combination

inductive Noted (view : Overview) (id : PipelineId) (entry : InstanceId) (keys : ShaderKeys)
    (combination : PipelineState × RenderPassFormat) : Prop
  | known (recalled : view.Recalled keys combination)
  | reported (member : ⟨id, entry⟩ ∈ view.reported)
  | drawn (drawing : Drawing) (member : drawing ∈ view.drawings) (acts : drawing.pipeline = id)
      (unreported : drawing.draw.position.unreported? = some entry)

structure Remembering (view : Overview) : Prop where
  remembers : view.remembers = true
  reports : view.manager.reports = true
  fetched : ∀ task ∈ view.tasks, ∀ pipeline item,
    view.pipelines[task.job.pipeline]? = some pipeline → view.store.get? task.job.entry = some item →
      task.job.entry ∈ pipeline.instances ∨ view.Recalled pipeline.keys item.combination
  noted : ∀ (id : PipelineId) (pipeline : Pipeline), view.pipelines[id]? = some pipeline →
    ∀ entry ∈ pipeline.instances, ∀ item, view.store.get? entry = some item →
      view.Noted id entry pipeline.keys item.combination

theorem Step.settings_kept (stepped : Step fails view next) :
    next.manager.reports = view.manager.reports ∧ next.remembers = view.remembers ∧
      next.prewarms = view.prewarms := by
  have kept {shaders : ShaderSet} {id : PipelineId} {grown : Overview}
      (obtained : view.Obtained shaders id grown) :
      grown.manager.reports = view.manager.reports ∧ grown.remembers = view.remembers ∧
        grown.prewarms = view.prewarms := by
    cases obtained <;> exact ⟨rfl, rfl, rfl⟩
  cases stepped with
  | begins shaders state pass =>
      have same := kept (view.obtained shaders)
      exact same
  | builds ready others position =>
      have same := kept (view.obtained ready.shaders)
      exact same
  | _ => exact ⟨rfl, rfl, rfl⟩

theorem Recalled.later (recalled : view.Recalled keys combination) (stepped : Step fails view next) :
    next.Recalled keys combination :=
  recalled.imp fun _ ⟨member, recalls⟩ => ⟨stepped.known_subset member, recalls⟩

/-- What was reported stays on its way until its key is known. -/
theorem noted_of_reported (there : view.pipelines[id]? = some pipeline)
    (present : view.store.get? entry = some item) (stepped : Step fails view next)
    (member : ⟨id, entry⟩ ∈ view.reported) : next.Noted id entry pipeline.keys item.combination := by
  cases stepped with
  | begins shaders state pass =>
      rw [obtain_eq]
      exact .reported member
  | reports drawing handle other _ _ => exact .reported (List.mem_append_left _ member)
  | records job rest acting drawn held queued acts found _ =>
      rw [queued] at member
      rcases List.mem_cons.mp member with rfl | old
      · obtain rfl : pipeline = acting := Option.some.inj (there.symm.trans acts)
        obtain rfl : item = drawn := Option.some.inj (present.symm.trans found)
        refine .known ⟨pipeline.instanceKey item, ?_, pipeline.recalls_instanceKey item⟩
        show _ ∈ ite _ _ _
        split
        · assumption
        · exact List.mem_append_right _ (List.mem_singleton.mpr rfl)
      · exact .reported old
  | builds ready others position =>
      rw [obtain_eq]
      exact .reported member
  | _ => exact .reported member

/-- A draw that has yet to report its instance goes on, or has reported it. -/
theorem noted_of_drawn (tabled : view.Tabled) (remembering : view.Remembering)
    (stepped : Step fails view next) {drawing : Drawing} (member : drawing ∈ view.drawings)
    (unreported : drawing.draw.position.unreported? = some entry) :
    next.Noted drawing.pipeline entry keys combination := by
  obtain ⟨index, stands⟩ := List.mem_iff_getElem?.mp member
  have inside := (List.getElem?_eq_some_iff.mp stands).1
  cases stepped with
  | begins shaders state pass => exact .drawn drawing (List.mem_append_left _ member) rfl unreported
  | draws target acting pipeline found there reported =>
      by_cases acts : target = index
      · subst acts
        obtain rfl : acting = drawing := Option.some.inj (found.symm.trans stands)
        rcases acting.draw.unreported_step ⟨pipeline, view.store⟩ unreported with
          still | ⟨handle, position⟩
        · exact .drawn _ (List.mem_of_getElem? (List.getElem?_set_self inside)) rfl still
        · have asked : pipeline.reports = true :=
            (tabled.reports pipeline (List.mem_of_getElem? there)).trans remembering.reports
          exact .reported (reported handle entry position asked remembering.remembers)
      · exact .drawn drawing (List.mem_of_getElem? ((List.getElem?_set_ne acts).trans stands)) rfl
          unreported
  | answers target acting result found =>
      by_cases acts : target = index
      · subst acts
        obtain rfl : acting = drawing := Option.some.inj (found.symm.trans stands)
        exact .drawn _ (List.mem_of_getElem? (List.getElem?_set_self inside)) rfl
          (acting.draw.unreported_answer result unreported)
      · exact .drawn drawing (List.mem_of_getElem? ((List.getElem?_set_ne acts).trans stands)) rfl
          unreported
  | builds ready others position =>
      rw [obtain_eq]
      exact .drawn drawing member rfl unreported
  | _ => exact .drawn drawing member rfl unreported

theorem Noted.later (tabled : view.Tabled) (remembering : view.Remembering)
    (stepped : Step fails view next) (there : view.pipelines[id]? = some pipeline)
    (present : view.store.get? entry = some item)
    (noted : view.Noted id entry pipeline.keys item.combination) :
    next.Noted id entry pipeline.keys item.combination := by
  cases noted with
  | known recalled => exact .known (recalled.later stepped)
  | reported member => exact noted_of_reported there present stepped member
  | drawn drawing member acts unreported =>
      subst acts
      exact noted_of_drawn tabled remembering stepped member unreported

theorem Step.keys_eq (stepped : Step fails view next) {later : Pipeline}
    (before : view.pipelines[id]? = some pipeline) (after : next.pipelines[id]? = some later) :
    later.keys = pipeline.keys :=
  congrArg ShaderSet.keys (stepped.shaders_eq before after)

/-- An instance that is adopted does not stand in the list already, so it was fetched for a known key. -/
theorem Remembering.noted_step (orderly : view.Orderly loaded) (remembering : view.Remembering)
    (stepped : Step fails view next) (there : next.pipelines[id]? = some pipeline)
    (member : entry ∈ pipeline.instances) (present : next.store.get? entry = some item) :
    next.Noted id entry pipeline.keys item.combination := by
  cases stepped.joins orderly.accounted orderly.founded there member present with
  | stays old earlier before listed found same =>
      rw [same, stepped.keys_eq before there]
      exact (remembering.noted id old before entry listed earlier found).later orderly.tabled
        remembering stepped before found
  | enlists drawing old handle _ acts _ _ _ counts => exact .drawn _ counts acts rfl
  | adopts task old earlier handle running acts before position found absent same =>
      have fetched := remembering.fetched task running old earlier (by rw [acts]; exact before)
        (by rw [acts]; exact found)
      rw [same, stepped.keys_eq before there]
      rcases fetched with listed | recalled
      · rw [acts] at listed
        have missing : Shared.find? ⟨old, view.store⟩ earlier.state earlier.pass.format = none := absent
        have other := Shared.combination_ne_of_find? missing listed found
        exact absurd rfl other
      · exact .known (recalled.later stepped)

theorem Remembering.fetched_step (orderly : view.Orderly loaded) (remembering : view.Remembering)
    (stepped : Step fails view next) : ∀ task ∈ next.tasks, ∀ pipeline item,
      next.pipelines[task.job.pipeline]? = some pipeline →
        next.store.get? task.job.entry = some item →
          task.job.entry ∈ pipeline.instances ∨ next.Recalled pipeline.keys item.combination := by
  have grows := stepped.grows orderly.accounted orderly.founded
  have kept {task : Task} (running : task ∈ view.tasks) {pipeline : Pipeline} {item : Instance}
      (there : next.pipelines[task.job.pipeline]? = some pipeline)
      (present : next.store.get? task.job.entry = some item) :
      task.job.entry ∈ pipeline.instances ∨ next.Recalled pipeline.keys item.combination := by
    obtain ⟨_, earlier, before, _⟩ := orderly.founded.tasks task running
    obtain ⟨old, found, same⟩ := grows.earlier (orderly.accounted.task running) present
    refine (remembering.fetched task running earlier old before found).imp (fun listed => ?_)
      fun recalled => ?_
    · obtain ⟨later, after, _, longer⟩ := grows.pipelines _ earlier before
      obtain rfl : pipeline = later := Option.some.inj (there.symm.trans after)
      exact longer.subset listed
    · rw [same, stepped.keys_eq before there]
      exact recalled.later stepped
  intro task member pipeline item there present
  cases stepped.runs member with
  | stays running => exact kept running there present
  | queues drawing handle among position acts _ =>
      obtain ⟨earlier, before, listed, _⟩ := orderly.founded.handed among (Or.inr position)
      rw [acts] at before
      obtain ⟨later, after, _, longer⟩ := grows.pipelines _ earlier before
      obtain rfl : pipeline = later := Option.some.inj (there.symm.trans after)
      exact Or.inl (longer.subset listed)
  | submits key pass ready position added _ =>
      have standing := orderly.sourced.standing
      rw [position] at standing
      obtain ⟨known, ⟨earlier, before, same⟩, fits, _⟩ := standing
      obtain rfl := Option.some.inj (added.symm.trans present)
      rw [stepped.keys_eq before there]
      exact Or.inr ⟨key, stepped.known_subset known, Or.inr same, congrArg (key.state, ·) fits⟩
  | works old acting running before became _ _ =>
      subst became
      exact kept running there present
  | replies old result running became =>
      subst became
      exact kept running there present
  | ends old running became =>
      subst became
      exact kept running there present

theorem Remembering.step (orderly : view.Orderly loaded) (remembering : view.Remembering)
    (stepped : Step fails view next) : next.Remembering where
  remembers := stepped.settings_kept.2.1.trans remembering.remembers
  reports := stepped.settings_kept.1.trans remembering.reports
  fetched := remembering.fetched_step orderly stepped
  noted _ _ there _ member _ present := remembering.noted_step orderly stepped there member present

/-- Once no draw has yet to report an instance and no report is on its way, every listed instance is
recalled by a known key. -/
theorem Remembering.recalled (remembering : view.Remembering)
    (silent : ∀ drawing ∈ view.drawings, drawing.draw.position.unreported? = none)
    (rests : view.reported = []) (there : view.pipelines[id]? = some pipeline)
    (member : entry ∈ pipeline.instances) (present : view.store.get? entry = some item) :
    view.Recalled pipeline.keys item.combination := by
  cases remembering.noted id pipeline there entry member item present with
  | known recalled => exact recalled
  | reported queued =>
      rw [rests] at queued
      cases queued
  | drawn drawing among acts unreported =>
      rw [silent drawing among] at unreported
      cases unreported

end Overview

end PipelineCache

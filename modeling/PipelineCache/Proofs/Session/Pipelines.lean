import PipelineCache.Proofs.Lookup.Resolution
import PipelineCache.Proofs.Session.Overview

/-! The pipelines of a session. There is one for each array of shader keys that was asked for, the table of
the manager leads to it, and its shaders never change. They are what a caller asked for, or shaders that
were provided before. -/

namespace PipelineCache

theorem getElem?_append_singleton {α : Type} {values : List α} {value found : α} {index : Nat}
    (there : (values ++ [value])[index]? = some found) :
    values[index]? = some found ∨ (index = values.length ∧ found = value) := by
  rw [List.getElem?_append] at there
  split at there
  · exact Or.inl there
  · rename_i beyond
    refine Or.inr ?_
    obtain ⟨inside, same⟩ := List.getElem?_eq_some_iff.mp there
    rw [List.length_singleton] at inside
    simp only [List.getElem_singleton] at same
    exact ⟨by omega, same.symm⟩

theorem getElem?_set_cases {α : Type} {values : List α} {value found : α} {target index : Nat}
    (there : (values.set target value)[index]? = some found) :
    values[index]? = some found ∨ (index = target ∧ found = value) := by
  rw [List.getElem?_set] at there
  split at there
  · rename_i same
    obtain ⟨_, became⟩ := Option.ite_none_right_eq_some.mp there
    exact Or.inr ⟨same.symm, (Option.some.inj became).symm⟩
  · exact Or.inl there

theorem Draw.reports_step (draw : Draw) (shared : Shared) :
    (draw.step shared).2.1.pipeline.reports = shared.pipeline.reports :=
  congrArg (fun outfit => outfit.2.2) (draw.outfit_step shared)

theorem Optimization.reports_step (optimization : Optimization) (shared : Shared) :
    (optimization.step shared).2.1.pipeline.reports = shared.pipeline.reports :=
  congrArg (fun outfit => outfit.2.2) (optimization.outfit_step shared)

/-- A draw goes on drawing the same. -/
def Drawing.Continues (before after : Drawing) : Prop :=
  after.shaders = before.shaders ∧ after.pipeline = before.pipeline ∧
    after.draw.state = before.draw.state ∧ after.draw.pass = before.draw.pass

theorem Drawing.continues_step (drawing : Drawing) (shared : Shared) :
    drawing.Continues { drawing with draw := (drawing.draw.step shared).1 } := by
  obtain ⟨position, moved⟩ := drawing.draw.moves_step shared
  rw [moved]
  exact ⟨rfl, rfl, rfl, rfl⟩

theorem Drawing.continues_answer (drawing : Drawing) (result : Except CacheError PipelineHandle) :
    drawing.Continues { drawing with draw := drawing.draw.answer result } := by
  obtain ⟨position, moved⟩ := drawing.draw.moves_answer result
  rw [moved]
  exact ⟨rfl, rfl, rfl, rfl⟩

namespace Overview

variable {fails : Bool} {view next : Overview} {shaders : ShaderSet} {keys : ShaderKeys}
  {id : PipelineId} {pipeline : Pipeline}

/-- A pipeline for certain shader keys. -/
def At (view : Overview) (id : PipelineId) (keys : ShaderKeys) : Prop :=
  ∃ pipeline, view.pipelines[id]? = some pipeline ∧ pipeline.keys = keys

structure Tabled (view : Overview) : Prop where
  found : ∀ id pipeline, view.pipelines[id]? = some pipeline →
    view.manager.table.lookup pipeline.keys = some id
  leads : ∀ keys id, view.manager.table.lookup keys = some id → view.At id keys
  reports : ∀ pipeline ∈ view.pipelines, pipeline.reports = view.manager.reports

/-- What a request for a pipeline leads to: one that is there, or a new one. -/
inductive Obtained (view : Overview) (shaders : ShaderSet) : PipelineId → Overview → Prop
  | old (id : PipelineId) (found : view.manager.table.lookup shaders.keys = some id) :
      Obtained view shaders id view
  | new (absent : view.manager.table.lookup shaders.keys = none) :
      Obtained view shaders view.pipelines.length { view with
        pipelines := view.pipelines ++ [{
          shaders := shaders
          optimizes := view.manager.optimizes
          reports := view.manager.reports }]
        manager := { view.manager with
          table := view.manager.table ++ [(shaders.keys, view.pipelines.length)] } }

theorem obtain_eq (view : Overview) (shaders : ShaderSet) :
    (view.obtain shaders).2 = { view with
      pipelines := (view.obtain shaders).2.pipelines
      manager := (view.obtain shaders).2.manager } := by
  unfold obtain
  split <;> rfl

theorem obtained (view : Overview) (shaders : ShaderSet) :
    view.Obtained shaders (view.obtain shaders).1 (view.obtain shaders).2 := by
  unfold obtain
  cases found : view.manager.table.lookup shaders.keys with
  | some id => exact .old id found
  | none => exact .new found

/-- A pipeline is found again where it was, with the same shaders. -/
theorem Obtained.kept (obtained : view.Obtained shaders id next) {other : PipelineId}
    (there : view.pipelines[other]? = some pipeline) : next.pipelines[other]? = some pipeline := by
  cases obtained with
  | old => exact there
  | new =>
      have inside := (List.getElem?_eq_some_iff.mp there).1
      exact (List.getElem?_append_left inside).trans there

theorem Obtained.mem_pipelines (obtained : view.Obtained shaders id next)
    (member : pipeline ∈ next.pipelines) :
    pipeline ∈ view.pipelines ∨ pipeline.shaders = shaders := by
  cases obtained with
  | old => exact Or.inl member
  | new =>
      refine (List.mem_append.mp member).imp_right fun newest => ?_
      rw [List.mem_singleton.mp newest]

theorem Obtained.at (obtained : view.Obtained shaders id next) (tabled : view.Tabled) :
    next.At id shaders.keys := by
  cases obtained with
  | old id found => exact tabled.leads _ _ found
  | new absent => exact ⟨_, List.getElem?_concat_length, rfl⟩

theorem Obtained.tabled (obtained : view.Obtained shaders id next) (tabled : view.Tabled) :
    next.Tabled := by
  have kept {other : PipelineId} {pipeline : Pipeline}
      (there : view.pipelines[other]? = some pipeline) := obtained.kept there
  cases obtained with
  | old id found => exact tabled
  | new absent =>
      have single : [(shaders.keys, view.pipelines.length)].lookup shaders.keys =
          some view.pipelines.length := by simp
      refine ⟨?_, ?_, ?_⟩
      · intro other pipeline there
        rw [List.lookup_append]
        rcases getElem?_append_singleton there with old | ⟨rfl, rfl⟩
        · rw [tabled.found other pipeline old, Option.some_or]
        · rw [Pipeline.keys, absent, Option.none_or, single]
      · intro keys other found
        rw [List.lookup_append, Option.or_eq_some_iff] at found
        rcases found with old | ⟨_, newest⟩
        · obtain ⟨pipeline, there, same⟩ := tabled.leads keys other old
          exact ⟨pipeline, kept there, same⟩
        · by_cases same : keys = shaders.keys
          · rw [same, single] at newest
            cases newest
            exact ⟨_, List.getElem?_concat_length, same.symm⟩
          · simp [List.lookup_cons, List.lookup_nil, beq_false_of_ne same] at newest
      · intro pipeline member
        rcases List.mem_append.mp member with old | newest
        · exact tabled.reports pipeline old
        · rw [List.mem_singleton.mp newest]

/-- What a step leaves of a pipeline: its place and its shaders. -/
theorem exists_set {changed : Pipeline} {target : PipelineId} {before : Pipeline}
    (there : view.pipelines[target]? = some before) (same : changed.shaders = before.shaders)
    (found : view.pipelines[id]? = some pipeline) :
    ∃ later, (view.pipelines.set target changed)[id]? = some later ∧
      later.shaders = pipeline.shaders := by
  by_cases acts : target = id
  · subst acts
    obtain rfl : before = pipeline := Option.some.inj (there.symm.trans found)
    exact ⟨changed, List.getElem?_set_self (List.getElem?_eq_some_iff.mp there).1, same⟩
  · exact ⟨pipeline, (List.getElem?_set_ne acts).trans found, rfl⟩

theorem Tabled.change {shared : Shared} {before : Pipeline} (tabled : view.Tabled)
    (there : view.pipelines[id]? = some before) (shaders : shared.pipeline.shaders = before.shaders)
    (reports : shared.pipeline.reports = before.reports) : (view.change id shared).Tabled where
  found other pipeline found := by
    rcases getElem?_set_cases found with old | ⟨rfl, rfl⟩
    · exact tabled.found other pipeline old
    · rw [Pipeline.keys, shaders]
      exact tabled.found other before there
  leads keys other found := by
    obtain ⟨pipeline, present, same⟩ := tabled.leads keys other found
    obtain ⟨later, still, kept⟩ := exists_set there shaders present
    exact ⟨later, still, (congrArg ShaderSet.keys kept).trans same⟩
  reports pipeline member := by
    rcases List.mem_or_eq_of_mem_set member with old | rfl
    · exact tabled.reports pipeline old
    · exact reports.trans (tabled.reports before (List.mem_of_getElem? there))

/-- The table stays right with every step. -/
theorem Tabled.step (tabled : view.Tabled) (stepped : Step fails view next) : next.Tabled := by
  cases stepped with
  | begins shaders state pass =>
      have later := (view.obtained shaders).tabled tabled
      exact ⟨later.found, later.leads, later.reports⟩
  | draws index drawing pipeline found there _ =>
      have later := tabled.change there (drawing.draw.shaders_step ⟨pipeline, view.store⟩)
        (drawing.draw.reports_step ⟨pipeline, view.store⟩)
      exact ⟨later.found, later.leads, later.reports⟩
  | builds ready others position =>
      have later := (view.obtained ready.shaders).tabled tabled
      exact ⟨later.found, later.leads, later.reports⟩
  | works task rest pipeline first there =>
      have later := tabled.change there (task.optimization.shaders_step ⟨pipeline, view.store⟩)
        (task.optimization.reports_step ⟨pipeline, view.store⟩)
      exact ⟨later.found, later.leads, later.reports⟩
  | _ => exact ⟨tabled.found, tabled.leads, tabled.reports⟩

/-- A pipeline keeps its place and its shaders. -/
theorem Step.shaders_kept (stepped : Step fails view next)
    (found : view.pipelines[id]? = some pipeline) :
    ∃ later, next.pipelines[id]? = some later ∧ later.shaders = pipeline.shaders := by
  cases stepped with
  | begins shaders state pass => exact ⟨pipeline, (view.obtained shaders).kept found, rfl⟩
  | draws index drawing acting _ there _ =>
      exact exists_set there (drawing.draw.shaders_step ⟨acting, view.store⟩) found
  | builds ready others position =>
      exact ⟨pipeline, (view.obtained ready.shaders).kept found, rfl⟩
  | works task rest acting _ there =>
      exact exists_set there (task.optimization.shaders_step ⟨acting, view.store⟩) found
  | _ => exact ⟨pipeline, found, rfl⟩

theorem Step.at_kept (stepped : Step fails view next) (there : view.At id keys) : next.At id keys := by
  obtain ⟨pipeline, found, same⟩ := there
  obtain ⟨later, still, kept⟩ := stepped.shaders_kept found
  exact ⟨later, still, (congrArg ShaderSet.keys kept).trans same⟩

theorem Step.known_subset (stepped : Step fails view next) : view.known ⊆ next.known := by
  cases stepped with
  | begins shaders state pass =>
      rw [obtain_eq]
      exact List.Subset.refl _
  | records job rest pipeline item held _ _ _ _ =>
      intro key member
      show key ∈ ite _ _ _
      split
      · exact member
      · exact List.mem_append_left _ member
  | builds ready others position =>
      rw [obtain_eq]
      exact List.Subset.refl _
  | _ => exact List.Subset.refl _

theorem Step.provided_subset (stepped : Step fails view next) : view.provided ⊆ next.provided := by
  cases stepped with
  | begins shaders state pass =>
      rw [obtain_eq]
      exact List.Subset.refl _
  | provides shader => exact List.subset_append_left _ _
  | builds ready others position =>
      rw [obtain_eq]
      exact List.Subset.refl _
  | _ => exact List.Subset.refl _

theorem exists_set_drawing {index target : Nat} {drawing acting changed : Drawing}
    (acts : view.drawings[target]? = some acting) (continues : acting.Continues changed)
    (found : view.drawings[index]? = some drawing) :
    ∃ later, (view.drawings.set target changed)[index]? = some later ∧ drawing.Continues later := by
  by_cases same : target = index
  · subst same
    obtain rfl : acting = drawing := Option.some.inj (acts.symm.trans found)
    exact ⟨changed, List.getElem?_set_self (List.getElem?_eq_some_iff.mp acts).1, continues⟩
  · exact ⟨drawing, (List.getElem?_set_ne same).trans found, rfl, rfl, rfl, rfl⟩

theorem Step.drawings_kept {index : Nat} {drawing : Drawing} (stepped : Step fails view next)
    (found : view.drawings[index]? = some drawing) :
    ∃ later, next.drawings[index]? = some later ∧ drawing.Continues later := by
  cases stepped with
  | begins shaders state pass =>
      have inside := (List.getElem?_eq_some_iff.mp found).1
      exact ⟨drawing, (List.getElem?_append_left inside).trans found, rfl, rfl, rfl, rfl⟩
  | draws target acting pipeline acts _ _ => exact exists_set_drawing acts (acting.continues_step _) found
  | answers target acting result acts =>
      exact exists_set_drawing acts (acting.continues_answer result) found
  | builds ready others position =>
      rw [obtain_eq]
      exact ⟨drawing, found, rfl, rfl, rfl, rfl⟩
  | _ => exact ⟨drawing, found, rfl, rfl, rfl, rfl⟩

end Overview

end PipelineCache

import PipelineCache.Proofs.Session.Pipelines

/-! Where the lookup has its keys and shaders from. Every key that it works with was recorded or loaded,
every shader was provided, and the pipeline that it obtains for a key has the keys of that key, with a
stage that is not defined left empty. -/

namespace PipelineCache

namespace Overview

variable {fails : Bool} {view next : Overview}

/-- These keys are known, and their shaders were provided and have the right keys. -/
def Readied (view : Overview) (ready : List ReadyKey) : Prop :=
  ∀ one ∈ ready, one.key ∈ view.known ∧ one.shaders.From view.provided ∧
    one.shaders.keys = one.key.shaders.cleared

/-- The lookup works with what it may work with. -/
def Standing (view : Overview) : LookupPosition → Prop
  | .waiting => True
  | .handling entry => entry.From view.known view.provided
  | .building ready => view.Readied ready
  | .passing key id ready =>
      key ∈ view.known ∧ view.At id key.shaders.cleared ∧ view.Readied ready
  | .submitting key id pass ready =>
      key ∈ view.known ∧ view.At id key.shaders.cleared ∧ pass.format = key.format ∧
        view.Readied ready
  | .counting ready => view.Readied ready
  | .ended => True

structure Sourced (view : Overview) : Prop where
  standing : view.Standing view.position
  queued : ∀ entry ∈ view.entries, entry.From view.known view.provided
  held : view.held ⊆ view.known
  indexed : ∀ shader, view.lookup.index.candidates shader ⊆ view.known
  registered : view.lookup.Registered view.provided

theorem Readied.later {ready : List ReadyKey} (readied : view.Readied ready)
    (stepped : Step fails view next) : next.Readied ready := by
  intro one member
  obtain ⟨known, filled, keys⟩ := readied one member
  exact ⟨stepped.known_subset known,
    fun stage shader present => stepped.provided_subset (filled stage shader present), keys⟩

theorem Standing.later {position : LookupPosition} (standing : view.Standing position)
    (stepped : Step fails view next) : next.Standing position := by
  cases position with
  | handling entry => exact LookupEntry.From.later standing stepped.known_subset stepped.provided_subset
  | building ready => exact Readied.later standing stepped
  | passing key id ready =>
      exact ⟨stepped.known_subset standing.1, stepped.at_kept standing.2.1, standing.2.2.later stepped⟩
  | submitting key id pass ready =>
      exact ⟨stepped.known_subset standing.1, stepped.at_kept standing.2.1, standing.2.2.1,
        standing.2.2.2.later stepped⟩
  | counting ready => exact Readied.later standing stepped
  | _ => trivial

/-- What the lookup does on its own side keeps to what it may work with. -/
theorem Sourced.looks {lookup : Lookup} {position : LookupPosition} {entries : List LookupEntry}
    (sourced : view.Sourced)
    (looked : Looks fails view.lookup view.position view.entries lookup position entries) :
    Sourced { view with lookup := lookup, position := position, entries := entries } := by
  obtain ⟨standing, queued, held, indexed, registered⟩ := sourced
  generalize view.position = before at looked standing
  generalize view.entries = earlier at looked queued
  generalize view.lookup = old at looked indexed registered
  cases looked with
  | takes entry entries =>
      exact ⟨queued entry List.mem_cons_self, fun other member => queued other
        (List.mem_cons_of_mem _ member), held, indexed, registered⟩
  | handles entry entries =>
      have given : entry.From view.known view.provided := standing
      have grown := Lookup.candidates_handle indexed given
      have larger := Lookup.registered_handle registered given
      refine ⟨?_, queued, held, grown, larger⟩
      have readied : view.Readied (old.handle entry).2.ready := by
        intro one member
        obtain ⟨⟨shader, candidate⟩, resolved⟩ := Lookup.ready_handle member
        exact ⟨grown shader candidate, Lookup.from_of_resolve larger resolved,
          Lookup.keys_of_resolve larger resolved⟩
      show view.Standing (old.handle entry).2.next
      cases response : (old.handle entry).2 with
      | registered ready =>
          rw [response] at readied
          exact readied
      | _ => trivial
  | returns entries => exact ⟨trivial, queued, held, indexed, registered⟩
  | passes key id pass ready entries fits =>
      exact ⟨⟨standing.1, standing.2.1, fits, standing.2.2⟩, queued, held, indexed, registered⟩
  | refused key id ready entries allowed =>
      exact ⟨standing.2.2, queued, held, indexed, registered⟩
  | counts ready entries => exact ⟨standing, queued, held, indexed, registered⟩

theorem Sourced.step (tabled : view.Tabled) (sourced : view.Sourced)
    (stepped : Step fails view next) : next.Sourced := by
  have standing := sourced.standing.later stepped
  have queued (entry : LookupEntry) (member : entry ∈ view.entries) :
      entry.From next.known next.provided :=
    (sourced.queued entry member).later stepped.known_subset stepped.provided_subset
  have held : view.held ⊆ next.known := List.Subset.trans sourced.held stepped.known_subset
  have indexed (shader : ShaderKey) : view.lookup.index.candidates shader ⊆ next.known :=
    List.Subset.trans (sourced.indexed shader) stepped.known_subset
  have registered : view.lookup.Registered next.provided := fun key shader found =>
    (sourced.registered key shader found).imp_right (stepped.provided_subset ·)
  have later {ready : List ReadyKey} (readied : view.Readied ready) : next.Readied ready :=
    readied.later stepped
  cases stepped with
  | begins shaders state pass =>
      rw [obtain_eq] at *
      exact ⟨standing, queued, held, indexed, registered⟩
  | provides shader =>
      refine ⟨standing, fun entry member => ?_, held, indexed, registered⟩
      simp only at member
      split at member
      · rcases List.mem_append.mp member with old | newest
        · exact queued entry old
        · rw [List.mem_singleton.mp newest]
          exact List.mem_append_right _ (List.mem_singleton.mpr rfl)
      · exact queued entry member
  | records job rest pipeline item others reported there present passed =>
      refine ⟨standing, queued, fun key member => ?_, indexed, registered⟩
      rw [passed key member]
      show _ ∈ ite _ _ _
      split
      · assumption
      · exact List.mem_append_right _ (List.mem_singleton.mpr rfl)
  | forwards key forwarding =>
      refine ⟨standing, fun entry member => ?_, List.nil_subset _, indexed, registered⟩
      rcases List.mem_append.mp member with old | newest
      · exact queued entry old
      · rw [List.mem_singleton.mp newest]
        exact sourced.held (forwarding ▸ List.mem_singleton.mpr rfl)
  | looks lookup position entries looked => exact sourced.looks looked
  | builds ready others position =>
      have readied := sourced.standing
      rw [position] at readied
      obtain ⟨known, filled, keys⟩ := readied ready List.mem_cons_self
      have there := (view.obtained ready.shaders).at tabled
      rw [keys] at there
      have rest := later fun one member => readied one (List.mem_cons_of_mem _ member)
      rw [obtain_eq] at queued held indexed registered rest ⊢
      exact ⟨⟨known, there, rest⟩, queued, held, indexed, registered⟩
  | submits key pipeline pass ready position =>
      have before := sourced.standing
      rw [position] at before
      exact ⟨before.2.2.2, queued, held, indexed, registered⟩
  | _ => exact ⟨standing, queued, held, indexed, registered⟩

/-- A shader that was provided is registered, or it waits for the lookup. -/
def Arrived (view : Overview) : Prop :=
  ∀ shader ∈ view.provided, shader.key.isDefined = true →
    shader.key ∈ view.lookup.registered ∨ .shader shader ∈ view.position.taken ++ view.entries

theorem Arrived.looks {lookup : Lookup} {position : LookupPosition} {entries : List LookupEntry}
    {shader : Shader} (defined : shader.key.isDefined = true)
    (arrived : shader.key ∈ view.lookup.registered ∨
      .shader shader ∈ view.position.taken ++ view.entries)
    (looked : Looks fails view.lookup view.position view.entries lookup position entries) :
    shader.key ∈ lookup.registered ∨ .shader shader ∈ position.taken ++ entries := by
  generalize view.position = before at looked arrived
  generalize view.entries = earlier at looked arrived
  cases looked with
  | handles entry entries =>
      have idle : (view.lookup.handle entry).2.next.taken = [] := by
        cases (view.lookup.handle entry).2 <;> rfl
      rw [Lookup.mem_registered_handle, idle]
      rcases arrived with registered | waits
      · exact Or.inl (Or.inl registered)
      · rcases List.mem_cons.mp waits with rfl | later
        · exact Or.inl (Or.inr ⟨defined, rfl⟩)
        · exact Or.inr later
  | _ => exact arrived

theorem Arrived.step (prewarms : view.prewarms = true) (arrived : view.Arrived)
    (stepped : Step fails view next) : next.Arrived := by
  cases stepped with
  | begins shaders state pass =>
      rw [Arrived, obtain_eq]
      exact arrived
  | provides given =>
      intro shader member defined
      simp only [prewarms, if_true]
      rw [← List.append_assoc]
      rcases List.mem_append.mp member with old | newest
      · exact (arrived shader old defined).imp_right (List.mem_append_left _)
      · rw [List.mem_singleton.mp newest]
        exact Or.inr (List.mem_append_right _ (List.mem_singleton.mpr rfl))
  | forwards key held =>
      intro shader member defined
      refine (arrived shader member defined).imp_right fun waits => ?_
      rw [← List.append_assoc]
      exact List.mem_append_left _ waits
  | looks lookup position entries looked =>
      exact fun shader member defined => Arrived.looks defined (arrived shader member defined) looked
  | builds ready others position =>
      rw [Arrived, position] at arrived
      rw [Arrived, obtain_eq]
      exact arrived
  | submits key pipeline pass ready position =>
      rw [Arrived, position] at arrived
      exact arrived
  | _ => exact arrived

/-- Somebody draws with these shaders, or they were provided and have canonical keys. -/
def Root (view : Overview) (shaders : ShaderSet) : Prop :=
  (∃ drawing ∈ view.drawings, drawing.shaders = shaders) ∨
    (shaders.From view.provided ∧ shaders.keys.cleared = shaders.keys)

/-- All pipelines have such shaders, and the known keys were loaded or are keys of pipelines. -/
structure Rooted (loaded : List PipelineKey) (view : Overview) : Prop where
  pipelines : ∀ pipeline ∈ view.pipelines, view.Root pipeline.shaders
  known : ∀ key ∈ view.known, key ∈ loaded ∨ ∃ pipeline ∈ view.pipelines, pipeline.keys = key.shaders

/-- If the loaded keys and those drawn with are canonical, all known keys are. -/
theorem Rooted.canonical {loaded : List PipelineKey} (rooted : view.Rooted loaded)
    (old : ∀ key ∈ loaded, key.shaders.cleared = key.shaders)
    (drawn : ∀ drawing ∈ view.drawings, drawing.shaders.keys.cleared = drawing.shaders.keys) :
    ∀ key ∈ view.known, key.shaders.cleared = key.shaders := by
  intro key member
  rcases rooted.known key member with before | ⟨pipeline, among, same⟩
  · exact old key before
  · rw [← same]
    rcases rooted.pipelines pipeline among with ⟨drawing, begun, shaders⟩ | ⟨_, canonical⟩
    · rw [Pipeline.keys, ← shaders]
      exact drawn drawing begun
    · exact canonical

theorem Root.later {shaders : ShaderSet} (root : view.Root shaders) (stepped : Step fails view next) :
    next.Root shaders := by
  rcases root with ⟨drawing, member, same⟩ | ⟨filled, canonical⟩
  · obtain ⟨index, found⟩ := List.mem_iff_getElem?.mp member
    obtain ⟨later, still, continues⟩ := stepped.drawings_kept found
    exact Or.inl ⟨later, List.mem_of_getElem? still, continues.1.trans same⟩
  · exact Or.inr ⟨fun stage shader present => stepped.provided_subset (filled stage shader present),
      canonical⟩

theorem Rooted.step {loaded : List PipelineKey} (sourced : view.Sourced) (rooted : view.Rooted loaded)
    (stepped : Step fails view next) : next.Rooted loaded := by
  have old (pipeline : Pipeline) (member : pipeline ∈ view.pipelines) : next.Root pipeline.shaders :=
    (rooted.pipelines pipeline member).later stepped
  have known (key : PipelineKey) (member : key ∈ view.known) :
      key ∈ loaded ∨ ∃ pipeline ∈ next.pipelines, pipeline.keys = key.shaders := by
    refine (rooted.known key member).imp_right fun ⟨pipeline, among, same⟩ => ?_
    obtain ⟨id, found⟩ := List.mem_iff_getElem?.mp among
    obtain ⟨later, still, kept⟩ := stepped.shaders_kept found
    exact ⟨later, List.mem_of_getElem? still, (congrArg ShaderSet.keys kept).trans same⟩
  cases stepped with
  | begins shaders state pass =>
      refine ⟨fun pipeline member => ?_, ?_⟩
      · rcases (view.obtained shaders).mem_pipelines member with there | newest
        · exact old pipeline there
        · exact Or.inl ⟨_, List.mem_append_right _ (List.mem_singleton.mpr rfl), newest.symm⟩
      · rwa [obtain_eq] at known ⊢
  | draws index drawing pipeline found there reported =>
      refine ⟨fun other member => ?_, known⟩
      rcases List.mem_or_eq_of_mem_set member with among | rfl
      · exact old other among
      · rw [drawing.draw.shaders_step]
        exact old pipeline (List.mem_of_getElem? there)
  | builds ready others position =>
      have readied := sourced.standing
      rw [position] at readied
      obtain ⟨_, filled, keys⟩ := readied ready List.mem_cons_self
      refine ⟨fun pipeline member => ?_, ?_⟩
      · rcases (view.obtained ready.shaders).mem_pipelines member with there | newest
        · exact old pipeline there
        · rw [newest, obtain_eq]
          refine Or.inr ⟨filled, ?_⟩
          rw [keys, ShaderKeys.cleared_cleared]
      · rwa [obtain_eq] at known ⊢
  | works task rest pipeline first there =>
      refine ⟨fun other member => ?_, known⟩
      rcases List.mem_or_eq_of_mem_set member with among | rfl
      · exact old other among
      · rw [task.optimization.shaders_step]
        exact old pipeline (List.mem_of_getElem? there)
  | records job rest pipeline item held reported there present passed =>
      refine ⟨old, fun key member => ?_⟩
      simp only at member
      split at member
      · exact known key member
      · rcases List.mem_append.mp member with among | newest
        · exact known key among
        · rw [List.mem_singleton.mp newest]
          exact Or.inr ⟨pipeline, List.mem_of_getElem? there, rfl⟩
  | _ => exact ⟨old, known⟩

end Overview

end PipelineCache

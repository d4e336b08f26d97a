import PipelineCache.Proofs.Session.Remembered
import PipelineCache.Proofs.Session.Rest
import PipelineCache.Proofs.Session.Warmth

/-! The start of a session, and what its moves lead to. At the start there are no pipelines, draws and
jobs, and the lookup knows the loaded keys and no shaders. Everything that holds throughout a session
holds there. -/

namespace PipelineCache

namespace Overview

variable {fails : Bool} {view next : Overview} {key : PipelineKey}

structure Fresh (view : Overview) : Prop where
  pipelines : view.pipelines = []
  table : view.manager.table = []
  store : view.store = {}
  drawings : view.drawings = []
  provided : view.provided = []
  tasks : view.tasks = []
  reported : view.reported = []
  held : view.held = []
  lookup : view.lookup = .ofKeys view.known
  position : view.position = .waiting ∨ view.position = .ended
  entries : view.entries = []

theorem Fresh.count_candidates (fresh : view.Fresh) (key : PipelineKey) (shader : ShaderKey) :
    (view.lookup.index.candidates shader).count key =
      view.known.count key * key.required.count shader := by
  rw [fresh.lookup, Lookup.ofKeys, BackReferences.count_candidates_foldl]
  exact Nat.zero_add _

theorem Fresh.orderly (fresh : view.Fresh) : view.Orderly view.known where
  tabled :=
    { found := fun id pipeline found => by
        rw [fresh.pipelines] at found
        cases found
      leads := fun keys id found => by
        rw [fresh.table] at found
        cases found
      reports := fun pipeline member => by
        rw [fresh.pipelines] at member
        cases member }
  sourced :=
    { standing := by
        rcases fresh.position with position | position <;> rw [position] <;> trivial
      queued := fun entry member => by
        rw [fresh.entries] at member
        cases member
      held := by
        rw [fresh.held]
        exact List.nil_subset _
      indexed := fun shader key member => by
        have counted := List.count_pos_iff.mpr member
        rw [fresh.count_candidates] at counted
        exact List.count_pos_iff.mp (Nat.pos_of_mul_pos_right counted)
      registered := fun key shader found => by
        rw [fresh.lookup] at found
        cases found }
  rooted :=
    { pipelines := fun pipeline member => by
        rw [fresh.pipelines] at member
        cases member
      known := fun key member => Or.inl member }
  accounted :=
    { sound := fun id held found => by
        rw [fresh.store] at found
        cases found
      holders := fun entry => by
        rw [fresh.store, holdings, Overview.listed, fresh.pipelines, fresh.reported, fresh.tasks]
        rfl }
  founded :=
    { drawings := fun drawing member => by
        rw [fresh.drawings] at member
        cases member
      tasks := fun task member => by
        rw [fresh.tasks] at member
        cases member
      reported := fun job member => by
        rw [fresh.reported] at member
        cases member }

theorem Fresh.checked (fresh : view.Fresh) : view.Checked where
  listed id pipeline found := by
    rw [fresh.pipelines] at found
    cases found
  drawings drawing member := by
    rw [fresh.drawings] at member
    cases member
  tasks task member := by
    rw [fresh.tasks] at member
    cases member

theorem Fresh.remembering (fresh : view.Fresh) (remembers : view.remembers = true)
    (reports : view.manager.reports = true) : view.Remembering where
  remembers := remembers
  reports := reports
  fetched task member := by
    rw [fresh.tasks] at member
    cases member
  noted id pipeline found := by
    rw [fresh.pipelines] at found
    cases found

theorem Fresh.arrived (fresh : view.Fresh) : view.Arrived := by
  intro shader member
  rw [fresh.provided] at member
  cases member

/-- A loaded key that has shaders waits for them. -/
theorem Fresh.heading (fresh : view.Fresh) (member : key ∈ view.known) (needs : key.required ≠ []) :
    view.Heading view.known key where
  orderly := fresh.orderly
  prompt :=
    { apart := by
        rw [fresh.tasks]
        exact List.nodup_nil
      tasks := fun task running => by
        rw [fresh.tasks] at running
        cases running
      listed := fun pipeline listed => by
        rw [fresh.pipelines] at listed
        cases listed }
  finds := by
    intro shader needed
    apply List.count_pos_iff.mp
    rw [fresh.count_candidates]
    exact Nat.mul_pos (List.count_pos_iff.mpr member) (List.count_pos_iff.mpr needed)
  progress := by
    refine Or.inl fun covers => needs ?_
    rw [fresh.lookup] at covers
    exact (Lookup.covers_ofKeys _).mp covers

/-- What holds throughout a session holds after any number of steps. -/
theorem Orderly.steps {loaded : List PipelineKey} (orderly : view.Orderly loaded)
    (steps : Steps fails view next) : next.Orderly loaded := by
  induction steps with
  | refl => exact orderly
  | tail _ stepped ih => exact ih.step stepped

theorem Checked.steps {loaded : List PipelineKey} (orderly : view.Orderly loaded)
    (checked : view.Checked) (steps : Steps fails view next) : next.Checked := by
  induction steps with
  | refl => exact checked
  | tail before stepped ih => exact ih.step (orderly.steps before) stepped

theorem Remembering.steps {loaded : List PipelineKey} (orderly : view.Orderly loaded)
    (remembering : view.Remembering) (steps : Steps fails view next) : next.Remembering := by
  induction steps with
  | refl => exact remembering
  | tail before stepped ih => exact ih.step (orderly.steps before) stepped

theorem Arrived.steps (prewarms : view.prewarms = true) (arrived : view.Arrived)
    (steps : Steps fails view next) : next.prewarms = true ∧ next.Arrived := by
  induction steps with
  | refl => exact ⟨prewarms, arrived⟩
  | tail _ stepped ih =>
      exact ⟨stepped.settings_kept.2.2.trans ih.1, ih.2.step ih.1 stepped⟩

end Overview

namespace Session

variable {before after session start : Session} {move : Move} {moves : List Move} {allows : Bool}

theorem fresh_start (setup : Setup) (disk : Disk) : (Session.start setup disk).overview.Fresh := by
  have tasks : (Session.start setup disk).engine.compiler.tasks = [] := by
    show setup.compiler.compiler.tasks = []
    cases setup.compiler with
    | background workers =>
        simp [CompilerChoice.compiler, Compiler.tasks, Pool.ofSize, Pool.tasks,
          List.filterMap_replicate, WorkerPosition.task?]
    | _ => rfl
  cases chosen : setup.cache with
  | none =>
      have cached := Engine.cache_start setup disk
      rw [chosen] at cached
      have overview : (Session.start setup disk).overview = (Session.start setup disk).view absent := by
        rw [Session.overview, Session.start, cached]
        rfl
      rw [overview]
      exact ⟨rfl, rfl, rfl, rfl, rfl, tasks, rfl, rfl, rfl, Or.inr rfl, rfl⟩
  | some config =>
      rw [overview_of_cache (cache_of_chosen chosen disk)]
      refine ⟨rfl, rfl, rfl, rfl, rfl, tasks, ?_, ?_, rfl, ?_, rfl⟩
      · show WriterPosition.jobs (if config.enableWriter then .waiting else .ended) ++ [] = []
        cases config.enableWriter <;> rfl
      · show WriterPosition.held (if config.enableWriter then .waiting else .ended) = []
        cases config.enableWriter <;> rfl
      · have position : (Cache.start config disk).value.lookupPosition =
            if config.enablePrewarm then .waiting else .ended := rfl
        rw [view, position]
        cases config.enablePrewarm <;> simp

/-- What every move keeps while nothing is stopped, every run keeps. -/
theorem kept_run {motive : Session → Prop}
    (keeps : ∀ before move after, motive before → Moved before move after → motive after)
    (running : Running start.engine) (initial : motive start)
    (ran : start.run? moves = some session) : Running session.engine ∧ motive session := by
  refine Run.kept (motive := fun middle => Running middle.engine ∧ motive middle) ?_
    ⟨running, initial⟩ ran
  rintro before move after ⟨running, kept⟩ moved
  have possible := moved_of_move? running moved
  exact ⟨running_moved running possible, keeps before move after kept possible⟩

theorem running_run (running : Running start.engine) (ran : start.run? moves = some session) :
    Running session.engine :=
  (kept_run (motive := fun _ => True) (fun _ _ _ _ _ => trivial) running trivial ran).1

/-- A run is made of steps of the overview. -/
theorem steps_run (running : Running start.engine)
    (allowed : ∀ move ∈ moves, move.fails = true → allows = true)
    (ran : start.run? moves = some session) :
    Overview.Steps allows start.overview session.overview := by
  induction moves generalizing start with
  | nil =>
      cases ran
      exact .refl
  | cons move moves ih =>
      obtain ⟨next, moved, rest⟩ := Run.final?_cons_eq_some_iff.mp ran
      have possible := moved_of_move? running moved
      have first := steps_moved possible (allowed move List.mem_cons_self)
      have later := ih (running_moved running possible)
        (fun other member => allowed other (List.mem_cons_of_mem _ member)) rest
      exact first.trans later

/-- In any run the device may fail. -/
theorem steps_run_true (running : Running start.engine) (ran : start.run? moves = some session) :
    Overview.Steps true start.overview session.overview :=
  steps_run running (fun _ _ _ => rfl) ran

theorem steps_run_false (running : Running start.engine)
    (calm : ∀ move ∈ moves, move.fails = false) (ran : start.run? moves = some session) :
    Overview.Steps false start.overview session.overview :=
  steps_run running (fun move among fails => (calm move among).symm.trans fails) ran

end Session

end PipelineCache

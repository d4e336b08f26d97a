import PipelineCache.Engine.Start
import PipelineCache.Proofs.Lookup.Step
import PipelineCache.Proofs.Run
import PipelineCache.Proofs.Session.Checks

/-! An engine in any surroundings. Callers ask for pipelines through the manager or make their own, draw
with any of them, hand any instance to any compiler, and may stop the state cache or the compiler at any
moment; the device answers whenever it likes, and the threads of the engine take their steps in any
order. What none of this touches, a call on a pipeline does. -/

namespace PipelineCache

/-- A call that somebody outside the engine makes on a pipeline. -/
structure Visit where
  pipeline : PipelineId
  call : Call
  deriving DecidableEq

/-- What somebody has asked the state cache to do. -/
inductive Submission
  | job (job : Job)
  | shader (shader : Shader)
  deriving DecidableEq

def Event.submission? (pipeline : PipelineId) : Event → Option Submission
  | .reported entry => some (.job ⟨pipeline, entry⟩)
  | _ => none

structure Runtime where
  engine : Engine
  /-- All calls from outside that ever began; those that have returned stay as they are. -/
  visits : List Visit := []
  /-- What the state cache was asked to do, in this order. -/
  submissions : List Submission := []

namespace Runtime

inductive Move
  /-- Somebody asks the manager for a pipeline. -/
  | obtain (shaders : ShaderSet)
  /-- Somebody makes a pipeline without the manager. -/
  | create (shaders : ShaderSet) (optimizes reports : Bool)
  /-- The manager's new pipelines report to the state cache from now on. -/
  | attach
  /-- A draw begins. -/
  | draw (pipeline : PipelineId) (state : PipelineState) (pass : RenderPass)
  /-- An optimization of an instance begins, whoever made the instance. -/
  | optimize (pipeline : PipelineId) (entry : InstanceId)
  /-- A call from outside takes its next step. -/
  | step (index : Nat)
  /-- The device answers a call from outside. -/
  | answer (index : Nat) (result : Except CacheError PipelineHandle)
  /-- Somebody makes an instance. -/
  | build (item : Instance)
  /-- Somebody takes one more reference to an instance. -/
  | share (entry : InstanceId)
  /-- Somebody gives up a reference to an instance. -/
  | drop (entry : InstanceId)
  /-- Somebody gives an instance its fast handle. -/
  | install (entry : InstanceId) (handle : PipelineHandle)
  /-- Somebody reports an instance to the state cache. -/
  | report (job : Job)
  | provide (shader : Shader)
  /-- Somebody hands an instance to the background compiler. -/
  | offer (job : Job)
  /-- Somebody takes the jobs that a recording compiler has collected. -/
  | collect
  /-- The writer takes a step. -/
  | write
  /-- The lookup takes a step; if it waits for a render pass, this is what the device answers. -/
  | look (result : Except CacheError UInt64)
  /-- A worker of the compiler takes a step. -/
  | work (worker : Nat)
  /-- The device answers a worker of the compiler. -/
  | answerWorker (worker : Nat) (result : Except CacheError PipelineHandle)
  | stopCache
  | stopCompiler

def start (setup : Setup) (disk : Disk) : Runtime := { engine := (Engine.start setup disk).engine }

def advance (runtime : Runtime) (index : Nat) (visit : Visit) : Runtime :=
  let (next, turn) := runtime.engine.stepCall .caller visit.pipeline visit.call
  let events := (runtime.engine.shared? visit.pipeline).toList.flatMap fun shared =>
    (visit.call.step shared).2.2
  { engine := turn.engine
    visits := runtime.visits.set index { visit with call := next }
    submissions := runtime.submissions ++ events.filterMap (Event.submission? visit.pipeline) }

/-- What a move leads to, if it is possible. -/
def move? (runtime : Runtime) : Move → Option Runtime
  | .obtain shaders => some { runtime with
      engine := (runtime.engine.obtainPipeline .caller shaders).2.engine }
  | .create shaders optimizes reports => some { runtime with
      engine := (runtime.engine.addPipeline
        { shaders := shaders, optimizes := optimizes, reports := reports }).2 }
  | .attach => some { runtime with engine := runtime.engine.attach.2 }
  | .draw pipeline state pass => some { runtime with
      visits := runtime.visits ++ [⟨pipeline, .draw { state := state, pass := pass }⟩] }
  | .optimize pipeline entry => some { runtime with
      visits := runtime.visits ++ [⟨pipeline, .optimize { entry := entry }⟩] }
  | .step index => runtime.visits[index]?.map (runtime.advance index)
  | .answer index result =>
      match runtime.visits[index]? with
      | none => none
      | some visit =>
          if (runtime.engine.requestOf? visit.pipeline visit.call).isSome then
            some { runtime with
              visits := runtime.visits.set index { visit with call := visit.call.answer result } }
          else none
  | .build item => some { runtime with engine := (runtime.engine.addInstance item).2 }
  | .share entry => some { runtime with engine := runtime.engine.hold entry }
  | .drop entry => some { runtime with engine := (runtime.engine.release entry).engine }
  | .install entry handle => (runtime.engine.store.install entry handle).map fun store =>
      { runtime with engine := { runtime.engine with store := store } }
  | .report job => some { runtime with
      engine := runtime.engine.report job, submissions := runtime.submissions ++ [.job job] }
  | .provide shader => some { runtime with
      engine := runtime.engine.provide shader
      submissions := runtime.submissions ++ [.shader shader] }
  | .offer job => some { runtime with engine := runtime.engine.offerJob job }
  | .collect => some { runtime with engine := runtime.engine.takeRecorded.2 }
  | .write => some { runtime with engine := runtime.engine.stepWriter.engine }
  | .look result => some { runtime with engine := runtime.engine.continueLookup result }
  | .work worker => some { runtime with engine := (runtime.engine.stepWorker worker).engine }
  | .answerWorker worker result =>
      if (runtime.engine.workerRequest? worker).isSome then
        some { runtime with engine := runtime.engine.answerWorker worker result }
      else none
  | .stopCache => some { runtime with engine := runtime.engine.stopCache }
  | .stopCompiler => some { runtime with engine := runtime.engine.stopCompiler }

abbrev run? (runtime : Runtime) (moves : List Move) : Option Runtime :=
  Run.final? move? runtime moves

end Runtime

/-! ### What spares the calls and the lists -/

/-- The position of a worker that has not asked the device for anything. -/
def WorkerPosition.isFresh : WorkerPosition → Bool
  | .compiling _ optimization => optimization.position == .checking
  | _ => true

def Compiler.workers : Compiler → List WorkerPosition
  | recording _ => []
  | pool current => current.workers

namespace Engine

variable {before middle after engine : Engine} {id : PipelineId} {pipeline : Pipeline} {cache : Cache}

/-- Nothing has come into the list of a pipeline, and no worker has gone on with its call. -/
structure Spares (before after : Engine) : Prop where
  store : before.store.Evolves after.store
  pipelines : ∃ added : List Pipeline, after.pipelines = before.pipelines ++ added ∧
    ∀ pipeline ∈ added, pipeline.instances = []
  workers : ∀ position ∈ after.compiler.workers,
    position ∈ before.compiler.workers ∨ position.isFresh = true

theorem Spares.trans (early : before.Spares middle) (late : middle.Spares after) :
    before.Spares after := by
  obtain ⟨first, began, unlisted⟩ := early.pipelines
  obtain ⟨second, became, empty⟩ := late.pipelines
  refine ⟨early.store.trans late.store, ⟨first ++ second, ?_, ?_⟩, fun position member => ?_⟩
  · rw [became, began, List.append_assoc]
  · intro pipeline member
    rcases List.mem_append.mp member with old | new
    · exact unlisted pipeline old
    · exact empty pipeline new
  · rcases late.workers position member with old | fresh
    · exact early.workers position old
    · exact Or.inr fresh

theorem spares_of_workers (store : before.store.Evolves after.store)
    (pipelines : after.pipelines = before.pipelines)
    (workers : ∀ position ∈ after.compiler.workers,
      position ∈ before.compiler.workers ∨ position.isFresh = true) : before.Spares after :=
  ⟨store, ⟨[], by rw [pipelines, List.append_nil], List.forall_mem_nil _⟩, workers⟩

/-- Whatever happens elsewhere spares the calls and the lists. -/
theorem spares_of_same (store : before.store.Evolves after.store)
    (pipelines : after.pipelines = before.pipelines) (compiler : after.compiler = before.compiler) :
    before.Spares after :=
  spares_of_workers store pipelines fun _ member => Or.inl (compiler ▸ member)

theorem spares_refl (engine : Engine) : engine.Spares engine :=
  spares_of_same (.refl _) rfl rfl

theorem spares_addPipeline (engine : Engine) (pipeline : Pipeline) (empty : pipeline.instances = []) :
    engine.Spares (engine.addPipeline pipeline).2 := by
  refine ⟨.refl _, ⟨[pipeline], rfl, fun other member => ?_⟩, fun _ member => Or.inl member⟩
  rw [List.mem_singleton.mp member, empty]

theorem spares_obtainPipeline (engine : Engine) (thread : Thread) (shaders : ShaderSet) :
    engine.Spares (engine.obtainPipeline thread shaders).2.engine := by
  unfold obtainPipeline
  split
  · exact spares_refl engine
  · refine ⟨.refl _, ⟨[_], rfl, fun pipeline member => ?_⟩, fun _ member => Or.inl member⟩
    rw [List.mem_singleton.mp member]

theorem spares_release (turn : Turn) (entry : InstanceId) :
    turn.engine.Spares (turn.release entry).engine :=
  spares_of_same (Store.evolves_release _ entry) rfl rfl

theorem spares_releaseAll (turn : Turn) (entries : List InstanceId) :
    turn.engine.Spares (turn.releaseAll entries).engine := by
  induction entries generalizing turn with
  | nil => exact spares_refl _
  | cons entry entries ih => exact (spares_release turn entry).trans (ih _)

theorem workers_offer (compiler : Compiler) (job : Job) :
    (compiler.offer job).workers = compiler.workers := by
  cases compiler <;> rfl

theorem spares_offerJob (engine : Engine) (job : Job) : engine.Spares (engine.offerJob job) := by
  unfold offerJob
  split
  · refine spares_of_workers (Store.evolves_hold _ _) rfl fun _ member => Or.inl ?_
    rwa [← workers_offer engine.compiler job]
  · exact spares_refl engine

theorem spares_report (engine : Engine) (job : Job) : engine.Spares (engine.report job) := by
  unfold report
  split
  · exact spares_refl engine
  · split
    · exact spares_of_same (Store.evolves_hold _ _) rfl rfl
    · exact spares_refl engine

theorem spares_absorb (thread : Thread) (id : PipelineId) (turn : Turn) (events : List Event) :
    turn.engine.Spares (events.foldl (absorb thread id) turn).engine := by
  induction events generalizing turn with
  | nil => exact spares_refl _
  | cons event events ih =>
      refine .trans ?_ (ih _)
      cases event with
      | reported entry => exact spares_report _ _
      | queued entry => exact spares_offerJob _ _
      | _ => exact spares_refl _

theorem spares_takeRecorded (engine : Engine) : engine.Spares engine.takeRecorded.2 := by
  unfold takeRecorded
  split
  · exact spares_of_workers (.refl _) rfl (List.forall_mem_nil _)
  · exact spares_refl engine

theorem spares_stopCompiler (engine : Engine) : engine.Spares engine.stopCompiler := by
  unfold stopCompiler
  split
  · exact spares_refl engine
  · rename_i pool found
    refine spares_of_workers (.refl _) rfl fun _ member => Or.inl ?_
    rw [found]
    exact member

theorem spares_stepWriter (engine : Engine) : engine.Spares engine.stepWriter.engine := by
  unfold stepWriter
  split
  · exact spares_refl engine
  · split
    · dsimp only
      split
      · exact spares_of_same (.refl _) rfl rfl
      · exact spares_of_same (.refl _) rfl rfl
      · refine .trans ?_ (spares_releaseAll _ _)
        exact spares_of_same (.refl _) rfl rfl
    · split
      · exact spares_refl engine
      · rw [engine_recordKey]
        exact spares_of_same (Store.evolves_release _ _) rfl rfl
    · exact spares_of_same (.refl _) rfl rfl
    · exact spares_refl engine

theorem spares_moveLookup (engine : Engine) (position : LookupPosition) :
    engine.Spares (engine.moveLookup position) :=
  spares_of_same (.refl _) rfl rfl

theorem spares_submitRemembered (engine : Engine) (key : PipelineKey) (pipeline : PipelineId)
    (pass : RenderPass) : engine.Spares (engine.submitRemembered key pipeline pass).engine := by
  have added : engine.Spares (engine.addInstance { state := key.state, pass := pass }).2 :=
    spares_of_same (Store.evolves_add _ _) rfl rfl
  refine .trans ?_ (spares_release _ _)
  exact added.trans (spares_offerJob _ _)

theorem spares_continueLookup (engine : Engine) (result : Except CacheError UInt64) :
    engine.Spares (engine.continueLookup result) := by
  unfold continueLookup
  split
  · unfold answerLookup
    split
    · exact spares_refl engine
    · split
      · dsimp only
        split <;> exact spares_of_same (.refl _) rfl rfl
      · exact spares_refl engine
  · unfold stepLookup
    split
    · exact spares_refl engine
    · split
      · exact spares_of_same (.refl _) rfl rfl
      · exact spares_of_same (.refl _) rfl rfl
      · exact spares_moveLookup _ _
      · exact (spares_obtainPipeline _ _ _).trans (spares_moveLookup _ _)
      · split
        · exact spares_refl engine
        · exact spares_moveLookup _ _
      · exact (spares_submitRemembered _ _ _ _).trans (spares_moveLookup _ _)
      · exact spares_of_same (.refl _) rfl rfl
      · exact spares_refl engine

theorem spares_placeWorker (engine : Engine) (worker : Nat) {position : WorkerPosition}
    (fresh : position.isFresh = true) : engine.Spares (engine.placeWorker worker position) := by
  unfold placeWorker
  split
  · exact spares_refl engine
  · rename_i pool found
    refine spares_of_workers (.refl _) rfl fun other member => ?_
    rcases List.mem_or_eq_of_mem_set member with old | rfl
    · rw [found]
      exact Or.inl old
    · exact Or.inr fresh

end Engine

/-- The device answers a call that waits for it, and nothing else changes. -/
theorem Runtime.exists_of_answer {before after : Runtime} {index : Nat}
    {result : Except CacheError PipelineHandle}
    (moved : before.move? (.answer index result) = some after) : ∃ visit,
      before.visits[index]? = some visit ∧
      (before.engine.requestOf? visit.pipeline visit.call).isSome = true ∧
      { before with
        visits := before.visits.set index { visit with call := visit.call.answer result } } = after := by
  simp only [move?] at moved
  split at moved
  · cases moved
  · rename_i visit found
    obtain ⟨asked, same⟩ := Option.ite_none_right_eq_some.mp moved
    exact ⟨visit, found, asked, Option.some.inj same⟩

end PipelineCache

import PipelineCache.Proofs.Lookup.Resolution
import PipelineCache.Proofs.Runtime.Basic

/-! What the lookup works with, besides its own side: the table of the manager, the shaders of the
pipelines, and the render passes. Callers add to all of these at any time, and may stop the cache;
everything else that happens in an engine leaves them as they are. -/

namespace PipelineCache

structure Workplace where
  side : Option LookupSide
  table : List (ShaderKeys × PipelineId)
  /-- The shaders of each pipeline. -/
  outfits : List ShaderSet
  passes : RenderPasses

namespace Engine

variable {engine : Engine} {id : PipelineId}

def workplace (engine : Engine) : Workplace :=
  ⟨engine.lookupSide?, engine.manager.table, engine.pipelines.map Pipeline.shaders, engine.passes⟩

/-! ### What leaves it as it is -/

theorem workplace_release (turn : Turn) (entry : InstanceId) :
    (turn.release entry).engine.workplace = turn.engine.workplace := rfl

theorem workplace_releaseAll (turn : Turn) (entries : List InstanceId) :
    (turn.releaseAll entries).engine.workplace = turn.engine.workplace := by
  induction entries generalizing turn with
  | nil => rfl
  | cons entry entries ih => exact (ih _).trans (workplace_release turn entry)

theorem workplace_offerJob (engine : Engine) (job : Job) :
    (engine.offerJob job).workplace = engine.workplace := by
  unfold offerJob
  split <;> rfl

/-- Changes of a cache that spare the side of the lookup. -/
theorem workplace_of_cache {cache changed : Cache} (found : engine.cache = some cache)
    (spared : LookupSide.mk changed.lookup changed.lookupPosition changed.lookupQueue.items
        changed.acceptsShaders =
      ⟨cache.lookup, cache.lookupPosition, cache.lookupQueue.items, cache.acceptsShaders⟩) :
    { engine with cache := some changed }.workplace = engine.workplace := by
  simp only [workplace, lookupSide?, found, Option.map_some, spared]

theorem workplace_report (engine : Engine) (job : Job) :
    (engine.report job).workplace = engine.workplace := by
  unfold report
  split
  · rfl
  · rename_i cache found
    split
    · have held : (engine.hold job.entry).cache = some cache := found
      exact workplace_of_cache held rfl
    · rfl

theorem workplace_absorb (thread : Thread) (turn : Turn) (events : List Event) :
    (events.foldl (absorb thread id) turn).engine.workplace = turn.engine.workplace := by
  induction events generalizing turn with
  | nil => rfl
  | cons event events ih =>
      refine (ih _).trans ?_
      cases event with
      | reported entry => exact workplace_report _ _
      | queued entry => exact workplace_offerJob _ _
      | _ => rfl

theorem workplace_changeShared {pipeline : Pipeline} {shared : Shared}
    (there : engine.pipelines[id]? = some pipeline)
    (same : shared.pipeline.shaders = pipeline.shaders) :
    (engine.changeShared id shared).workplace = engine.workplace := by
  have outfits : (engine.pipelines.set id shared.pipeline).map Pipeline.shaders =
      engine.pipelines.map Pipeline.shaders := by
    obtain ⟨inside, rfl⟩ := List.getElem?_eq_some_iff.mp there
    rw [List.map_set, same]
    refine List.ext_getElem? fun other => ?_
    by_cases acts : id = other
    · subst acts
      simp [inside]
    · rw [List.getElem?_set_ne acts]
  simp only [workplace, changeShared, outfits]
  rfl

theorem workplace_stepCall (engine : Engine) (thread : Thread) (call : Call) :
    (engine.stepCall thread id call).2.engine.workplace = engine.workplace := by
  cases there : engine.pipelines[id]? with
  | none =>
      simp only [stepCall, shared?, there, Option.map_none]
      rfl
  | some pipeline =>
      simp only [stepCall, shared?_of_getElem? there]
      refine (workplace_absorb thread _ _).trans ?_
      exact workplace_changeShared there (call.shaders_step ⟨pipeline, engine.store⟩)

theorem workplace_takeRecorded (engine : Engine) :
    engine.takeRecorded.2.workplace = engine.workplace := by
  unfold takeRecorded
  split <;> rfl

theorem workplace_stopCompiler (engine : Engine) : engine.stopCompiler.workplace = engine.workplace := by
  unfold stopCompiler
  split <;> rfl

theorem workplace_placeWorker (engine : Engine) (worker : Nat) (position : WorkerPosition) :
    (engine.placeWorker worker position).workplace = engine.workplace := by
  unfold placeWorker
  split <;> rfl

theorem workplace_stepWorker (engine : Engine) (worker : Nat) :
    (engine.stepWorker worker).engine.workplace = engine.workplace := by
  unfold stepWorker
  split
  · split
    · split
      · rfl
      · split
        · rfl
        · exact workplace_placeWorker ..
    · exact workplace_placeWorker ..
    · split
      · exact workplace_placeWorker ..
      · dsimp only
        split
        · exact (workplace_placeWorker ..).trans (workplace_stepCall ..)
        · exact workplace_stepCall ..
    · exact (workplace_release _ _).trans (workplace_placeWorker ..)
    · rfl
    · rfl
  · rfl

theorem workplace_answerWorker (engine : Engine) (worker : Nat)
    (result : Except CacheError PipelineHandle) :
    (engine.answerWorker worker result).workplace = engine.workplace := by
  unfold answerWorker
  split
  · exact workplace_placeWorker ..
  · rfl

theorem workplace_submitRemembered (engine : Engine) (key : PipelineKey) (pipeline : PipelineId)
    (pass : RenderPass) :
    (engine.submitRemembered key pipeline pass).engine.workplace = engine.workplace :=
  workplace_offerJob _ _

end Engine

/-! ### What happens to it -/

def LookupSide.receive (side : LookupSide) (entry : LookupEntry) : LookupSide :=
  { side with queued := side.queued ++ [entry] }

/-- A side that does not accept shaders any more ignores them. -/
def LookupSide.provide (side : LookupSide) (shader : Shader) : LookupSide :=
  if side.accepts then side.receive (.shader shader) else side

namespace Workplace

variable {place : Workplace}

/-- What a request for a pipeline leads to: one that is there, or a new one. -/
inductive Obtains (place : Workplace) (shaders : ShaderSet) : PipelineId → Workplace → Prop
  | old (id : PipelineId) (found : place.table.lookup shaders.keys = some id) :
      Obtains place shaders id place
  | new (absent : place.table.lookup shaders.keys = none) :
      Obtains place shaders place.outfits.length { place with
        table := place.table ++ [(shaders.keys, place.outfits.length)]
        outfits := place.outfits ++ [shaders] }

/-- What a step of the lookup leads to. -/
inductive Looks (place : Workplace) : LookupSide → Workplace → Prop
  | stays (side : LookupSide) : Looks place side { place with side := some side }
  | takes (lookup : Lookup) (entry : LookupEntry) (queued : List LookupEntry) (accepts : Bool) :
      Looks place ⟨lookup, .waiting, entry :: queued, accepts⟩
        { place with side := some ⟨lookup, .handling entry, queued, accepts⟩ }
  /-- The cache was stopped, and what was queued is dropped. -/
  | ends (lookup : Lookup) (queued : List LookupEntry) :
      Looks place ⟨lookup, .waiting, queued, false⟩
        { place with side := some ⟨lookup, .ended, [], false⟩ }
  | handles (lookup : Lookup) (entry : LookupEntry) (queued : List LookupEntry) (accepts : Bool) :
      Looks place ⟨lookup, .handling entry, queued, accepts⟩
        { place with
          side := some ⟨(lookup.handle entry).1, (lookup.handle entry).2.next, queued, accepts⟩ }
  | returns (lookup : Lookup) (queued : List LookupEntry) (accepts : Bool) :
      Looks place ⟨lookup, .building [], queued, accepts⟩
        { place with side := some ⟨lookup, .waiting, queued, accepts⟩ }
  | builds (lookup : Lookup) (ready : ReadyKey) (others : List ReadyKey) (queued : List LookupEntry)
      (accepts : Bool) (id : PipelineId) (after : Workplace)
      (obtained : place.Obtains ready.shaders id after) :
      Looks place ⟨lookup, .building (ready :: others), queued, accepts⟩
        { after with side := some ⟨lookup, .passing ready.key id others, queued, accepts⟩ }
  | passes (lookup : Lookup) (key : PipelineKey) (id : PipelineId) (ready : List ReadyKey)
      (queued : List LookupEntry) (accepts : Bool) (answer : Except CacheError UInt64) :
      Looks place ⟨lookup, .passing key id ready, queued, accepts⟩
        { place with
          side := some ⟨lookup, .answered key id ready (place.passes.obtain key.format answer).1,
            queued, accepts⟩
          passes := (place.passes.obtain key.format answer).2 }
  | submits (lookup : Lookup) (key : PipelineKey) (id : PipelineId) (pass : RenderPass)
      (ready : List ReadyKey) (queued : List LookupEntry) (accepts : Bool) :
      Looks place ⟨lookup, .submitting key id pass ready, queued, accepts⟩
        { place with side := some ⟨lookup, .counting ready, queued, accepts⟩ }
  | counts (lookup : Lookup) (ready : List ReadyKey) (queued : List LookupEntry) (accepts : Bool) :
      Looks place ⟨lookup, .counting ready, queued, accepts⟩
        { place with side := some ⟨lookup, .building ready, queued, accepts⟩ }

/-- What may happen next, and the shader that is provided with it. -/
inductive Step (place : Workplace) : Option Shader → Workplace → Prop
  | stays : Step place none place
  | obtains (shaders : ShaderSet) (id : PipelineId) (after : Workplace)
      (obtained : place.Obtains shaders id after) : Step place none after
  /-- Somebody makes a pipeline that the manager does not know. -/
  | creates (shaders : ShaderSet) :
      Step place none { place with outfits := place.outfits ++ [shaders] }
  | passes (format : RenderPassFormat) (answer : Except CacheError UInt64) :
      Step place none { place with passes := (place.passes.obtain format answer).2 }
  | provides (shader : Shader) :
      Step place (some shader) { place with side := place.side.map (LookupSide.provide · shader) }
  | forwards (key : PipelineKey) :
      Step place none { place with side := place.side.map (LookupSide.receive · (.key key)) }
  | stops :
      Step place none { place with
        side := place.side.map fun side => { side with accepts := false } }
  | looks (side : LookupSide) (after : Workplace) (found : place.side = some side)
      (looked : place.Looks side after) : Step place none after

end Workplace

namespace Engine

variable {engine : Engine} {cache : Cache} {id : PipelineId}

theorem side_workplace (found : engine.cache = some cache) : engine.workplace.side =
    some ⟨cache.lookup, cache.lookupPosition, cache.lookupQueue.items, cache.acceptsShaders⟩ := by
  simp only [workplace, lookupSide?, found, Option.map_some]

theorem obtains_obtainPipeline (engine : Engine) (thread : Thread) (shaders : ShaderSet) :
    engine.workplace.Obtains shaders (engine.obtainPipeline thread shaders).1
      (engine.obtainPipeline thread shaders).2.engine.workplace := by
  unfold obtainPipeline
  cases found : engine.manager.table.lookup shaders.keys with
  | some id => exact .old id found
  | none =>
      have grown : engine.workplace.Obtains shaders _ _ := .new found
      have size : engine.workplace.outfits.length = engine.pipelines.length := List.length_map _
      rw [size] at grown
      simp only [workplace, addPipeline, List.map_append] at grown ⊢
      exact grown

theorem workplace_moveLookup (found : engine.cache = some cache) (position : LookupPosition) :
    (engine.moveLookup position).workplace = { engine.workplace with
      side := some ⟨cache.lookup, position, cache.lookupQueue.items, cache.acceptsShaders⟩ } := by
  rw [moveLookup_of_cache found]
  rfl

theorem looks_waiting (found : engine.cache = some cache) (position : cache.lookupPosition = .waiting)
    (result : Except CacheError UInt64) :
    engine.workplace.Looks ⟨cache.lookup, .waiting, cache.lookupQueue.items, cache.acceptsShaders⟩
      (engine.continueLookup result).workplace := by
  rw [continueLookup_eq_step (by simp [wantedFormat?, found, position])]
  simp only [stepLookup, found, position]
  by_cases stopped : cache.stopped = true
  · have popped : cache.lookupQueue.pop cache.stopped = (.stopped cache.lookupQueue.items, {}) := by
      rw [stopped, WorkQueue.pop_stopped]
    have idle : cache.acceptsShaders = false := by simp [Cache.acceptsShaders, stopped]
    have ended : engine.workplace.Looks _ _ := .ends cache.lookup cache.lookupQueue.items
    rw [← idle] at ended
    rw [popped]
    exact ended
  · have live : cache.stopped = false := Bool.eq_false_iff.mpr stopped
    cases items : cache.lookupQueue.items with
    | nil =>
        rw [WorkQueue.pop_of_nil live items]
        exact .stays ⟨cache.lookup, .waiting, [], cache.acceptsShaders⟩
    | cons entry queued =>
        rw [WorkQueue.pop_of_cons live items]
        exact .takes cache.lookup entry queued cache.acceptsShaders

/-- Whatever the lookup does next, it does in its workplace. -/
theorem looks_continueLookup (found : engine.cache = some cache) (result : Except CacheError UInt64) :
    engine.workplace.Looks
      ⟨cache.lookup, cache.lookupPosition, cache.lookupQueue.items, cache.acceptsShaders⟩
      (engine.continueLookup result).workplace := by
  cases position : cache.lookupPosition with
  | waiting => exact looks_waiting found position result
  | handling entry =>
      rw [continueLookup_eq_step (by simp [wantedFormat?, found, position])]
      simp only [stepLookup, found, position, handleEntry]
      have handled : engine.workplace.Looks _ _ := .handles cache.lookup entry
        cache.lookupQueue.items cache.acceptsShaders
      cases response : (cache.lookup.handle entry).2 <;> rw [response] at handled <;> exact handled
  | building ready =>
      rw [continueLookup_eq_step (by simp [wantedFormat?, found, position])]
      cases ready with
      | nil =>
          simp only [stepLookup, found, position, workplace_moveLookup found]
          exact .returns cache.lookup cache.lookupQueue.items cache.acceptsShaders
      | cons ready others =>
          have same := (cache_obtainPipeline engine .lookup ready.shaders).trans found
          simp only [stepLookup, found, position, workplace_moveLookup same]
          exact .builds cache.lookup ready others cache.lookupQueue.items cache.acceptsShaders _ _
            (engine.obtains_obtainPipeline .lookup ready.shaders)
  | passing key id ready =>
      rw [continueLookup_passing found position]
      exact .passes cache.lookup key id ready cache.lookupQueue.items cache.acceptsShaders result
  | submitting key id pass ready =>
      have same := (cache_submitRemembered engine key id pass).trans found
      rw [continueLookup_eq_step (by simp [wantedFormat?, found, position])]
      simp only [stepLookup, found, position, workplace_moveLookup same, workplace_submitRemembered]
      exact .submits cache.lookup key id pass ready cache.lookupQueue.items cache.acceptsShaders
  | counting ready =>
      rw [continueLookup_eq_step (by simp [wantedFormat?, found, position])]
      simp only [stepLookup, found, position]
      simp only [countInCache, updateCache, moveLookup, found, Option.map_some]
      exact .counts cache.lookup ready cache.lookupQueue.items cache.acceptsShaders
  | ended =>
      have idle : engine.continueLookup result = engine := by
        simp [continueLookup, wantedFormat?, stepLookup, found, position, unchanged]
      have stays : engine.workplace.Looks _ _ :=
        .stays ⟨cache.lookup, .ended, cache.lookupQueue.items, cache.acceptsShaders⟩
      rw [← position, ← side_workplace found] at stays
      rw [idle, ← position]
      exact stays

/-- The writer only ever passes a new key on. -/
theorem step_stepWriter (engine : Engine) :
    engine.workplace.Step none engine.stepWriter.engine.workplace := by
  have stays {other : Engine} (same : other.workplace = engine.workplace) :
      engine.workplace.Step none other.workplace := same ▸ .stays
  unfold stepWriter
  split
  · exact .stays
  · rename_i cache found
    split
    · dsimp only
      split
      · exact stays (workplace_of_cache found rfl)
      · exact stays (workplace_of_cache found rfl)
      · exact stays ((workplace_releaseAll _ _).trans (workplace_of_cache found rfl))
    · split
      · exact .stays
      · refine stays ?_
        dsimp only
        rw [engine_recordKey]
        have released (entry : InstanceId) : (engine.release entry).engine.cache = some cache := found
        exact workplace_of_cache (released _) rfl
    · rename_i key _
      have forwarded : engine.workplace.Step none _ := .forwards key
      rw [side_workplace found] at forwarded
      exact forwarded
    · exact .stays

theorem step_provide (engine : Engine) (shader : Shader) :
    engine.workplace.Step (some shader) (engine.provide shader).workplace := by
  have provides : engine.workplace.Step _ _ := .provides shader
  have same : (engine.provide shader).workplace = { engine.workplace with
      side := engine.workplace.side.map (LookupSide.provide · shader) } := by
    cases found : engine.cache with
    | none => simp [workplace, lookupSide?, provide, updateCache, found]
    | some cache =>
        simp only [workplace, lookupSide?, provide, updateCache, found, Option.map_some,
          LookupSide.provide, Cache.provide]
        split <;> rfl
  rw [same]
  exact provides

theorem step_addPipeline (engine : Engine) (pipeline : Pipeline) :
    engine.workplace.Step none (engine.addPipeline pipeline).2.workplace := by
  have creates : engine.workplace.Step none _ := .creates pipeline.shaders
  simp only [workplace, addPipeline, List.map_append] at creates ⊢
  exact creates

theorem step_stopCache (engine : Engine) :
    engine.workplace.Step none engine.stopCache.workplace := by
  have stopping : engine.workplace.Step none _ := .stops
  have same : engine.stopCache.workplace = { engine.workplace with
      side := engine.workplace.side.map fun side => { side with accepts := false } } := by
    cases found : engine.cache with
    | none => simp [workplace, lookupSide?, stopCache, updateCache, found]
    | some cache =>
        simp [workplace, lookupSide?, stopCache, updateCache, found, Cache.stop, Cache.acceptsShaders]
  rw [same]
  exact stopping

theorem step_continueLookup (engine : Engine) (result : Except CacheError UInt64) :
    engine.workplace.Step none (engine.continueLookup result).workplace := by
  cases found : engine.cache with
  | none =>
      have idle : engine.continueLookup result = engine := by
        simp [continueLookup, wantedFormat?, stepLookup, found, unchanged]
      rw [idle]
      exact .stays
  | some cache => exact .looks _ _ (side_workplace found) (looks_continueLookup found result)

end Engine

namespace Submission

def shader? : Submission → Option Shader
  | .shader given => some given
  | .job _ => none

end Submission

namespace Runtime

variable {before after : Runtime}

/-- All shaders that were ever provided, in this order. -/
def provided (runtime : Runtime) : List Shader := runtime.submissions.filterMap Submission.shader?

/-- Something that happens around an engine, or somebody asks for a render pass. -/
inductive Act
  | move (move : Move)
  | pass (format : RenderPassFormat) (answer : Except CacheError UInt64)

def obtainPass (runtime : Runtime) (format : RenderPassFormat) (answer : Except CacheError UInt64) :
    Runtime :=
  { runtime with
    engine := { runtime.engine with passes := (runtime.engine.passes.obtain format answer).2 } }

def act? (runtime : Runtime) : Act → Option Runtime
  | .move move => runtime.move? move
  | .pass format answer => some (runtime.obtainPass format answer)

abbrev enact? (runtime : Runtime) (acts : List Act) : Option Runtime :=
  Run.final? act? runtime acts

theorem provided_advance (runtime : Runtime) (index : Nat) (visit : Visit) :
    (runtime.advance index visit).provided = runtime.provided := by
  have silent (events : List Event) :
      (events.filterMap (Event.submission? visit.pipeline)).filterMap Submission.shader? = [] := by
    rw [List.filterMap_filterMap, List.filterMap_eq_nil_iff]
    intro event _
    cases event <;> rfl
  simp only [provided, advance, List.filterMap_append, silent, List.append_nil]

/-- A move that leaves the workplace as it is. -/
def Move.isQuiet : Move → Bool
  | .obtain _ | .create .. | .provide _ | .write | .look _ | .stopCache => false
  | _ => true

theorem workplace_of_isQuiet {move : Move} (quiet : move.isQuiet = true)
    (moved : before.move? move = some after) :
    after.engine.workplace = before.engine.workplace ∧ after.provided = before.provided := by
  cases move with
  | step index =>
      obtain ⟨visit, _, rfl⟩ := Option.map_eq_some_iff.mp moved
      exact ⟨before.engine.workplace_stepCall .caller visit.call, before.provided_advance index visit⟩
  | answer index result =>
      obtain ⟨_, _, _, rfl⟩ := exists_of_answer moved
      exact ⟨rfl, rfl⟩
  | install entry handle =>
      obtain ⟨store, _, rfl⟩ := Option.map_eq_some_iff.mp moved
      exact ⟨rfl, rfl⟩
  | report job =>
      cases moved
      refine ⟨before.engine.workplace_report job, ?_⟩
      simp [provided, Submission.shader?]
  | offer job =>
      cases moved
      exact ⟨before.engine.workplace_offerJob job, rfl⟩
  | collect =>
      cases moved
      exact ⟨before.engine.workplace_takeRecorded, rfl⟩
  | work worker =>
      cases moved
      exact ⟨before.engine.workplace_stepWorker worker, rfl⟩
  | answerWorker worker result =>
      obtain ⟨_, same⟩ := Option.ite_none_right_eq_some.mp moved
      cases same
      exact ⟨before.engine.workplace_answerWorker worker result, rfl⟩
  | stopCompiler =>
      cases moved
      exact ⟨before.engine.workplace_stopCompiler, rfl⟩
  | obtain shaders => cases quiet
  | create shaders optimizes reports => cases quiet
  | provide shader => cases quiet
  | write => cases quiet
  | look result => cases quiet
  | stopCache => cases quiet
  | _ =>
      cases moved
      exact ⟨rfl, rfl⟩

/-- Every move is one step of the workplace. -/
theorem step_of_move {move : Move} (moved : before.move? move = some after) :
    ∃ given, before.engine.workplace.Step given after.engine.workplace ∧
      after.provided = before.provided ++ given.toList := by
  by_cases quiet : move.isQuiet = true
  · obtain ⟨same, silent⟩ := workplace_of_isQuiet quiet moved
    exact ⟨none, same ▸ .stays, silent.trans (List.append_nil _).symm⟩
  cases move with
  | obtain shaders =>
      cases moved
      exact ⟨none, .obtains _ _ _ (before.engine.obtains_obtainPipeline .caller shaders),
        (List.append_nil _).symm⟩
  | create shaders optimizes reports =>
      cases moved
      exact ⟨none, before.engine.step_addPipeline _, (List.append_nil _).symm⟩
  | provide shader =>
      cases moved
      refine ⟨some shader, before.engine.step_provide shader, ?_⟩
      simp [provided, Submission.shader?]
  | write =>
      cases moved
      exact ⟨none, before.engine.step_stepWriter, (List.append_nil _).symm⟩
  | look result =>
      cases moved
      exact ⟨none, before.engine.step_continueLookup result, (List.append_nil _).symm⟩
  | stopCache =>
      cases moved
      exact ⟨none, before.engine.step_stopCache, (List.append_nil _).symm⟩
  | _ => exact absurd rfl quiet

theorem step_of_act {act : Act} (acted : before.act? act = some after) :
    ∃ given, before.engine.workplace.Step given after.engine.workplace ∧
      after.provided = before.provided ++ given.toList := by
  cases act with
  | move move => exact step_of_move acted
  | pass format answer =>
      cases acted
      exact ⟨none, .passes format answer, (List.append_nil _).symm⟩

end Runtime

end PipelineCache

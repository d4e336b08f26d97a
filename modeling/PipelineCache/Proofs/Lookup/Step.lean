import PipelineCache.Proofs.Lookup.Prewarm
import PipelineCache.Proofs.Store

/-! One step of the lookup, as it changes the whole engine. The lookup takes an entry from its queue and
handles it; for every key that has become ready it obtains a pipeline and a render pass, and submits a
new instance to the compiler. -/

namespace PipelineCache

namespace Store

variable {store : Store} {id other : InstanceId}

theorem held?_add_self (store : Store) (item : Instance) :
    (store.add item).2.held? (store.add item).1 = some ⟨item, 1⟩ := by
  rw [held?_add, if_pos rfl]

/-- A holder that comes and goes leaves no trace. -/
theorem release_hold {held : Held} (present : store.held? id = some held) (positive : 0 < held.holders) :
    (store.hold id).release id = ([], store) := by
  have inside := lt_of_held? present
  have cell := cells_getElem_of_held? present inside
  have holding : (store.hold id).held? id = some { held with holders := held.holders + 1 } := by
    rw [held?_hold, if_pos rfl, present, Option.map_some]
  have shared : ¬ held.holders + 1 ≤ 1 := by omega
  simp only [release, holding, if_neg shared]
  simp only [hold, present, List.set_set, Nat.add_sub_cancel]
  rw [← cell, List.set_getElem_self]

end Store

/-- Where the lookup goes with a render pass, or without one. -/
def LookupPosition.answered (key : PipelineKey) (pipeline : PipelineId) (ready : List ReadyKey) :
    Except CacheError RenderPass → LookupPosition
  | .ok pass => .submitting key pipeline pass ready
  | .error _ => .building ready

@[simp]
theorem LookupPosition.taken_answered (key : PipelineKey) (pipeline : PipelineId)
    (ready : List ReadyKey) (obtained : Except CacheError RenderPass) :
    (answered key pipeline ready obtained).taken = [] := by
  cases obtained <;> rfl

namespace Engine

variable {engine : Engine} {key : PipelineKey} {pipeline : PipelineId} {pass : RenderPass}

/-- A compiler that takes jobs holds the new instance in the place of the lookup. -/
theorem engine_submitRemembered (accepts : engine.compiler.accepts = true) :
    (engine.submitRemembered key pipeline pass).engine = { engine with
      store := (engine.store.add { state := key.state, pass := pass }).2
      compiler := engine.compiler.offer
        ⟨pipeline, (engine.store.add { state := key.state, pass := pass }).1⟩ } := by
  have single := Store.held?_add_self engine.store { state := key.state, pass := pass }
  have returned := Store.release_hold single Nat.one_pos
  simp only [submitRemembered, addInstance, offerJob, accepts, if_true, unchanged, Turn.say,
    Turn.release, hold, returned]

/-- What a step of the lookup leads to, as long as neither the cache nor the compiler is stopped, where
the device answers a request for a render pass with the given result. -/
inductive LookupStep (engine : Engine) (result : Except CacheError UInt64) : Engine → Prop
  | idle (reason : ∀ cache, engine.cache = some cache → cache.lookupPosition = .ended) :
      LookupStep engine result engine
  | rests (cache : Cache) (found : engine.cache = some cache)
      (position : cache.lookupPosition = .waiting) (items : cache.lookupQueue.items = []) :
      LookupStep engine result { engine with cache := some { cache with
        lookupQueue := ⟨[], false⟩, lookupPosition := .waiting } }
  | takes (cache : Cache) (entry : LookupEntry) (entries : List LookupEntry)
      (found : engine.cache = some cache) (position : cache.lookupPosition = .waiting)
      (items : cache.lookupQueue.items = entry :: entries) :
      LookupStep engine result { engine with cache := some { cache with
        lookupQueue := ⟨entries, true⟩, lookupPosition := .handling entry } }
  | handles (cache : Cache) (entry : LookupEntry) (stats : CacheStats)
      (found : engine.cache = some cache) (position : cache.lookupPosition = .handling entry) :
      LookupStep engine result { engine with cache := some { cache with
        lookup := (cache.lookup.handle entry).1
        stats := stats
        lookupPosition := (cache.lookup.handle entry).2.next } }
  | returns (cache : Cache) (found : engine.cache = some cache)
      (position : cache.lookupPosition = .building []) :
      LookupStep engine result { engine with cache := some { cache with
        lookupPosition := .waiting } }
  | builds (cache : Cache) (ready : ReadyKey) (others : List ReadyKey)
      (found : engine.cache = some cache)
      (position : cache.lookupPosition = .building (ready :: others)) :
      LookupStep engine result { (engine.obtainPipeline .lookup ready.shaders).2.engine with
        cache := some { cache with
          lookupPosition :=
            .passing ready.key (engine.obtainPipeline .lookup ready.shaders).1 others } }
  | passes (cache : Cache) (key : PipelineKey) (pipeline : PipelineId) (ready : List ReadyKey)
      (pass : RenderPass) (passes : RenderPasses) (found : engine.cache = some cache)
      (position : cache.lookupPosition = .passing key pipeline ready)
      (fits : pass.format = key.format) :
      LookupStep engine result { engine with
        passes := passes
        cache := some { cache with lookupPosition := .submitting key pipeline pass ready } }
  | refused (cache : Cache) (key : PipelineKey) (pipeline : PipelineId) (ready : List ReadyKey)
      (error : CacheError) (found : engine.cache = some cache)
      (position : cache.lookupPosition = .passing key pipeline ready)
      (failed : result = .error error) :
      LookupStep engine result { engine with
        cache := some { cache with lookupPosition := .building ready } }
  | submits (cache : Cache) (key : PipelineKey) (pipeline : PipelineId) (pass : RenderPass)
      (ready : List ReadyKey) (found : engine.cache = some cache)
      (position : cache.lookupPosition = .submitting key pipeline pass ready) :
      LookupStep engine result { engine with
        store := (engine.store.add { state := key.state, pass := pass }).2
        compiler := engine.compiler.offer
          ⟨pipeline, (engine.store.add { state := key.state, pass := pass }).1⟩
        cache := some { cache with lookupPosition := .counting ready } }
  | counts (cache : Cache) (ready : List ReadyKey) (stats : CacheStats)
      (found : engine.cache = some cache) (position : cache.lookupPosition = .counting ready) :
      LookupStep engine result { engine with cache := some { cache with
        stats := stats, lookupPosition := .building ready } }

/-- The lookup goes on: with its next step, or with the device's answer if it waits for one. -/
def continueLookup (engine : Engine) (result : Except CacheError UInt64) : Engine :=
  if engine.wantedFormat?.isSome then (engine.answerLookup result).engine
  else engine.stepLookup.engine

theorem continueLookup_eq_step (unasked : engine.wantedFormat? = none)
    (result : Except CacheError UInt64) :
    engine.continueLookup result = engine.stepLookup.engine := by
  simp [continueLookup, unasked]

theorem moveLookup_of_cache {cache : Cache} (found : engine.cache = some cache)
    (position : LookupPosition) : engine.moveLookup position =
      { engine with cache := some { cache with lookupPosition := position } } := by
  simp [moveLookup, updateCache, found]

/-- A render pass that is there and one that the device makes now lead the lookup the same way. -/
theorem continueLookup_passing {cache : Cache} {key : PipelineKey} {pipeline : PipelineId}
    {ready : List ReadyKey} (found : engine.cache = some cache)
    (position : cache.lookupPosition = .passing key pipeline ready)
    (result : Except CacheError UInt64) :
    engine.continueLookup result = { engine with
      passes := (engine.passes.obtain key.format result).2
      cache := some { cache with
        lookupPosition := .answered key pipeline ready (engine.passes.obtain key.format result).1 } } := by
  cases made : engine.passes.find? key.format with
  | some pass =>
      rw [continueLookup_eq_step (by simp [wantedFormat?, found, position, made])]
      simp only [stepLookup, found, position, made, RenderPasses.obtain]
      exact moveLookup_of_cache found _
  | none =>
      have asked : engine.wantedFormat?.isSome = true := by
        simp [wantedFormat?, found, position, made]
      rw [continueLookup, asked]
      simp only [if_true, answerLookup, found, position, RenderPasses.obtain, made]
      cases result <;> exact moveLookup_of_cache rfl _

theorem lookupStep_waiting {cache : Cache} (found : engine.cache = some cache)
    (live : cache.stopped = false) (position : cache.lookupPosition = .waiting)
    (result : Except CacheError UInt64) :
    engine.LookupStep result (engine.continueLookup result) := by
  rw [continueLookup_eq_step (by simp [wantedFormat?, found, position])]
  simp only [stepLookup, found, position]
  cases items : cache.lookupQueue.items with
  | nil =>
      rw [WorkQueue.pop_of_nil live items]
      exact .rests cache found position items
  | cons entry entries =>
      rw [WorkQueue.pop_of_cons live items]
      exact .takes cache entry entries found position items

theorem lookupStep_passing {cache : Cache} {ready : List ReadyKey} (found : engine.cache = some cache)
    (position : cache.lookupPosition = .passing key pipeline ready)
    (result : Except CacheError UInt64) :
    engine.LookupStep result (engine.continueLookup result) := by
  rw [continueLookup_passing found position]
  cases made : engine.passes.find? key.format with
  | some pass =>
      simp only [RenderPasses.obtain, made]
      have fits := RenderPasses.format_of_find? made
      exact .passes cache key pipeline ready pass engine.passes found position fits
  | none =>
      simp only [RenderPasses.obtain, made]
      cases result with
      | error error => exact .refused cache key pipeline ready error found position rfl
      | ok handle => exact .passes cache key pipeline ready ⟨handle, key.format⟩ _ found position rfl

theorem lookupStep (running : ∀ cache, engine.cache = some cache → cache.stopped = false)
    (accepts : engine.compiler.accepts = true) (result : Except CacheError UInt64) :
    engine.LookupStep result (engine.continueLookup result) := by
  cases found : engine.cache with
  | none =>
      have idle : engine.continueLookup result = engine := by
        simp [continueLookup, wantedFormat?, stepLookup, found, unchanged]
      rw [idle]
      exact .idle fun cache present => by rw [found] at present; cases present
  | some cache =>
      cases position : cache.lookupPosition with
      | waiting => exact lookupStep_waiting found (running cache found) position result
      | handling entry =>
          rw [continueLookup_eq_step (by simp [wantedFormat?, found, position])]
          simp only [stepLookup, found, position, handleEntry]
          have handles (stats : CacheStats) : engine.LookupStep result _ :=
            .handles cache entry stats found position
          cases response : (cache.lookup.handle entry).2 <;> rw [response] at handles <;>
            exact handles _
      | building ready =>
          rw [continueLookup_eq_step (by simp [wantedFormat?, found, position])]
          rcases ready with _ | ⟨⟨key, shaders⟩, others⟩
          · simp only [stepLookup, found, position]
            rw [moveLookup_of_cache found]
            exact .returns cache found position
          · have same := cache_obtainPipeline engine .lookup shaders
            simp only [stepLookup, found, position]
            rw [moveLookup_of_cache (same.trans found)]
            exact .builds cache ⟨key, shaders⟩ others found position
      | passing key pipeline ready => exact lookupStep_passing found position result
      | submitting key pipeline pass ready =>
          have same := cache_submitRemembered engine key pipeline pass
          rw [continueLookup_eq_step (by simp [wantedFormat?, found, position])]
          simp only [stepLookup, found, position]
          rw [moveLookup_of_cache (same.trans found), engine_submitRemembered accepts]
          exact .submits cache key pipeline pass ready found position
      | counting ready =>
          rw [continueLookup_eq_step (by simp [wantedFormat?, found, position])]
          simp only [stepLookup, found, position]
          simp only [countInCache, updateCache, moveLookup, found, Option.map_some]
          exact .counts cache ready _ found position
      | ended =>
          have idle : engine.continueLookup result = engine := by
            simp [continueLookup, wantedFormat?, stepLookup, found, position, unchanged]
          rw [idle]
          refine .idle fun other present => ?_
          rw [found] at present
          cases present
          exact position

end Engine

end PipelineCache

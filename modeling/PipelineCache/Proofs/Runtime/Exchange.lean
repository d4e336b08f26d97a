import PipelineCache.Proofs.Runtime.Basic
import PipelineCache.Proofs.Writer.Logging

/-! What happens to a state cache in any surroundings, as long as it is not stopped. Callers put work
into its two queues, the writer passes new keys to the lookup, and everything else leaves it alone, even
if the compiler has been stopped. -/

namespace PipelineCache

namespace Cache

/-- A cache that takes everything it is asked to do. -/
structure Serves (cache : Cache) : Prop where
  live : cache.stopped = false
  writes : cache.config.enableWriter = true
  prewarms : cache.config.enablePrewarm = true

theorem Serves.acceptsInstances {cache : Cache} (serves : cache.Serves) :
    cache.acceptsInstances = true := by
  rw [Cache.acceptsInstances, serves.writes, serves.live]
  rfl

theorem Serves.acceptsShaders {cache : Cache} (serves : cache.Serves) : cache.acceptsShaders = true := by
  rw [Cache.acceptsShaders, serves.prewarms, serves.live]
  rfl

/-- What a step of the lookup makes of a cache. -/
inductive Looked (cache : Cache) : Cache → Prop
  | idle (position : cache.lookupPosition = .ended) : Looked cache cache
  | rests (position : cache.lookupPosition = .waiting) (items : cache.lookupQueue.items = []) :
      Looked cache { cache with lookupQueue := ⟨[], false⟩, lookupPosition := .waiting }
  | takes (entry : LookupEntry) (entries : List LookupEntry)
      (position : cache.lookupPosition = .waiting)
      (items : cache.lookupQueue.items = entry :: entries) :
      Looked cache { cache with lookupQueue := ⟨entries, true⟩, lookupPosition := .handling entry }
  | handles (entry : LookupEntry) (stats : CacheStats)
      (position : cache.lookupPosition = .handling entry) :
      Looked cache { cache with
        lookup := (cache.lookup.handle entry).1
        stats := stats
        lookupPosition := (cache.lookup.handle entry).2.next }
  /-- It works on the keys that are ready. -/
  | works (stats : CacheStats) (position : LookupPosition)
      (working : cache.lookupPosition ≠ .waiting ∧ cache.lookupPosition ≠ .ended)
      (nothing : cache.lookupPosition.taken = []) (alive : position ≠ .ended)
      (spared : position.taken = []) :
      Looked cache { cache with stats := stats, lookupPosition := position }

theorem Looked.moves {cache : Cache} {position next : LookupPosition}
    (stands : cache.lookupPosition = position) (working : position ≠ .waiting ∧ position ≠ .ended)
    (nothing : position.taken = []) (alive : next ≠ .ended) (spared : next.taken = []) :
    cache.Looked { cache with lookupPosition := next } :=
  .works cache.stats next (by rwa [stands]) (by rwa [stands]) alive spared

/-- What may happen to a cache next, and what it was asked to do with it. -/
inductive Step (cache : Cache) : List Submission → Cache → Prop
  | stays : Step cache [] cache
  | reported (job : Job) :
      Step cache [.job job] { cache with writerQueue := cache.writerQueue.push job }
  | provided (shader : Shader) :
      Step cache [.shader shader] { cache with lookupQueue := cache.lookupQueue.push (.shader shader) }
  | rests (position : cache.writerPosition = .waiting) (items : cache.writerQueue.items = []) :
      Step cache [] { cache with writerQueue := ⟨[], false⟩ }
  | takes (job : Job) (jobs : List Job) (position : cache.writerPosition = .waiting)
      (items : cache.writerQueue.items = job :: jobs) :
      Step cache [] { cache with writerQueue := ⟨jobs, true⟩, writerPosition := .handling job }
  | records (job : Job) (key : PipelineKey) (disk later : Disk) (writer : Writer)
      (recording : Recording) (position : cache.writerPosition = .handling job)
      (recorded : cache.writer.Recorded disk key writer recording later) :
      Step cache [] { cache with
        writer := writer
        stats := recording.counted cache.stats
        writerPosition := recording.next writer.forwards key }
  | forwards (key : PipelineKey) (position : cache.writerPosition = .forwarding key) :
      Step cache [] { cache with
        lookupQueue := cache.lookupQueue.push (.key key), writerPosition := .waiting }
  | looks (next : Cache) (looked : cache.Looked next) : Step cache [] next

end Cache

namespace Engine

variable {engine : Engine} {cache : Cache} {id : PipelineId}

theorem cache_moveLookup (found : engine.cache = some cache) (position : LookupPosition) :
    (engine.moveLookup position).cache = some { cache with lookupPosition := position } := by
  rw [moveLookup_of_cache found]

theorem looked_waiting (found : engine.cache = some cache) (live : cache.stopped = false)
    (position : cache.lookupPosition = .waiting) (result : Except CacheError UInt64) :
    ∃ next, (engine.continueLookup result).cache = some next ∧ cache.Looked next := by
  rw [continueLookup_eq_step (by simp [wantedFormat?, found, position])]
  simp only [stepLookup, found, position]
  cases items : cache.lookupQueue.items with
  | nil =>
      rw [WorkQueue.pop_of_nil live items]
      exact ⟨_, rfl, .rests position items⟩
  | cons entry entries =>
      rw [WorkQueue.pop_of_cons live items]
      exact ⟨_, rfl, .takes entry entries position items⟩

theorem looked_passing {key : PipelineKey} {ready : List ReadyKey} (found : engine.cache = some cache)
    (position : cache.lookupPosition = .passing key id ready) (result : Except CacheError UInt64) :
    ∃ next, (engine.continueLookup result).cache = some next ∧ cache.Looked next := by
  have passes (next : LookupPosition) (alive : next ≠ .ended) (spared : next.taken = []) :
      cache.Looked { cache with lookupPosition := next } :=
    .moves position ⟨LookupPosition.noConfusion, LookupPosition.noConfusion⟩ rfl alive spared
  rw [continueLookup_passing found position]
  refine ⟨_, rfl, ?_⟩
  cases (engine.passes.obtain key.format result).1 with
  | error error => exact passes _ LookupPosition.noConfusion rfl
  | ok pass => exact passes _ LookupPosition.noConfusion rfl

theorem looked (found : engine.cache = some cache) (live : cache.stopped = false)
    (result : Except CacheError UInt64) :
    ∃ next, (engine.continueLookup result).cache = some next ∧ cache.Looked next := by
  cases position : cache.lookupPosition with
  | waiting => exact looked_waiting found live position result
  | handling entry =>
      rw [continueLookup_eq_step (by simp [wantedFormat?, found, position])]
      simp only [stepLookup, found, position, handleEntry]
      have handles (stats : CacheStats) := Cache.Looked.handles entry stats position
      cases response : (cache.lookup.handle entry).2 <;> rw [response] at handles <;>
        exact ⟨_, rfl, handles _⟩
  | building ready =>
      have builds (next : LookupPosition) (alive : next ≠ .ended) (spared : next.taken = []) :
          cache.Looked { cache with lookupPosition := next } :=
        .moves position ⟨LookupPosition.noConfusion, LookupPosition.noConfusion⟩ rfl alive spared
      rw [continueLookup_eq_step (by simp [wantedFormat?, found, position])]
      rcases ready with _ | ⟨⟨key, shaders⟩, others⟩
      · simp only [stepLookup, found, position]
        exact ⟨_, cache_moveLookup found _, builds _ LookupPosition.noConfusion rfl⟩
      · simp only [stepLookup, found, position]
        have same := (cache_obtainPipeline engine .lookup shaders).trans found
        exact ⟨_, cache_moveLookup same _, builds _ LookupPosition.noConfusion rfl⟩
  | passing key pipeline ready => exact looked_passing found position result
  | submitting key pipeline pass ready =>
      rw [continueLookup_eq_step (by simp [wantedFormat?, found, position])]
      simp only [stepLookup, found, position]
      have same := (cache_submitRemembered engine key pipeline pass).trans found
      refine ⟨_, cache_moveLookup same _, .moves position ⟨?_, ?_⟩ rfl ?_ rfl⟩ <;>
        exact LookupPosition.noConfusion
  | counting ready =>
      rw [continueLookup_eq_step (by simp [wantedFormat?, found, position])]
      simp only [stepLookup, found, position, countInCache, updateCache, moveLookup, Option.map_some]
      refine ⟨_, rfl, .works _ _ ?_ ?_ LookupPosition.noConfusion rfl⟩ <;>
        simp [position, LookupPosition.taken]
  | ended =>
      have idle : engine.continueLookup result = engine := by
        simp [continueLookup, wantedFormat?, stepLookup, found, position, unchanged]
      rw [idle]
      exact ⟨cache, found, .idle position⟩

theorem stepped_stepWriter (found : engine.cache = some cache) (live : cache.stopped = false) :
    ∃ next, engine.stepWriter.engine.cache = some next ∧ cache.Step [] next := by
  have same {other : Cache} (also : engine.cache = some other) : other = cache :=
    Option.some.inj (also.symm.trans found)
  have stepped := writerStep fun other also => (congrArg Cache.stopped (same also)).trans live
  generalize engine.stepWriter.engine = after at stepped ⊢
  cases stepped with
  | idle => exact ⟨cache, found, .stays⟩
  | rests other also position items =>
      obtain rfl := same also
      exact ⟨_, rfl, .rests position items⟩
  | takes other job jobs also position items =>
      obtain rfl := same also
      exact ⟨_, rfl, .takes job jobs position items⟩
  | records other job key writer recording disk also position named recorded =>
      obtain rfl := same also
      exact ⟨_, rfl, .records job key engine.disk disk writer recording position recorded⟩
  | forwards other key also position =>
      obtain rfl := same also
      exact ⟨_, rfl, .forwards key position⟩

theorem cache_offerJob (engine : Engine) (job : Job) : (engine.offerJob job).cache = engine.cache := by
  unfold offerJob
  split <;> rfl

/-- Only a report of an instance reaches the cache. -/
theorem cache_absorb (thread : Thread) (turn : Turn) (events : List Event)
    (unreported : events.filterMap (Event.submission? id) = []) :
    (events.foldl (absorb thread id) turn).engine.cache = turn.engine.cache := by
  induction events generalizing turn with
  | nil => rfl
  | cons event events ih =>
      rw [List.filterMap_cons] at unreported
      cases event with
      | reported entry => cases unreported
      | queued entry => exact (ih _ unreported).trans (cache_offerJob _ _)
      | said message => exact ih _ unreported
      | destroyed handle => exact ih _ unreported

theorem cache_report (found : engine.cache = some cache) (serves : cache.Serves) (job : Job) :
    (engine.report job).cache =
      some { cache with writerQueue := cache.writerQueue.push job } := by
  simp only [report, found, serves.acceptsInstances, if_true]

theorem cache_provide (found : engine.cache = some cache) (serves : cache.Serves) (shader : Shader) :
    (engine.provide shader).cache =
      some { cache with lookupQueue := cache.lookupQueue.push (.shader shader) } := by
  simp only [provide, updateCache, found, Option.map_some, Cache.provide, serves.acceptsShaders,
    if_true]

theorem cache_placeWorker (engine : Engine) (worker : Nat) (position : WorkerPosition) :
    (engine.placeWorker worker position).cache = engine.cache := by
  unfold placeWorker
  split <;> rfl

theorem cache_stepCall_optimize (engine : Engine) (thread : Thread) (optimization : Optimization) :
    (engine.stepCall thread id (.optimize optimization)).2.engine.cache = engine.cache := by
  cases there : engine.pipelines[id]? with
  | none =>
      simp only [stepCall, shared?, there, Option.map_none]
      rfl
  | some pipeline =>
      rw [(stepCall_optimize there thread optimization).2]
      rfl

theorem cache_stepWorker (engine : Engine) (worker : Nat) :
    (engine.stepWorker worker).engine.cache = engine.cache := by
  unfold stepWorker
  split
  · split
    · split
      · rfl
      · split
        · rfl
        · exact cache_placeWorker ..
    · exact cache_placeWorker ..
    · split
      · exact cache_placeWorker ..
      · dsimp only
        split
        · exact (cache_placeWorker ..).trans (cache_stepCall_optimize ..)
        · exact cache_stepCall_optimize ..
    · exact cache_placeWorker ..
    · rfl
    · rfl
  · rfl

theorem cache_answerWorker (engine : Engine) (worker : Nat)
    (result : Except CacheError PipelineHandle) :
    (engine.answerWorker worker result).cache = engine.cache := by
  unfold answerWorker
  split
  · exact cache_placeWorker ..
  · rfl

end Engine

/-- A step of a call reports at most one instance, and then nothing else happens. -/
theorem Call.submissions_step (call : Call) (shared : Shared) (id : PipelineId) :
    (call.step shared).2.2.filterMap (Event.submission? id) = [] ∨
      ∃ entry, (call.step shared).2.2 = [.reported entry] := by
  cases call with
  | draw current =>
      obtain ⟨state, pass, position⟩ := current
      cases position with
      | reporting handle entry =>
          cases asked : shared.pipeline.reports with
          | false => exact Or.inl (by simp [step, Draw.step, asked])
          | true => exact Or.inr ⟨entry, by simp [step, Draw.step, asked]⟩
      | queueing handle entry =>
          refine Or.inl ?_
          simp only [step, Draw.step]
          split <;> rfl
      | scanning =>
          refine Or.inl ?_
          simp only [step, Draw.step]
          split <;> rfl
      | preparing =>
          refine Or.inl ?_
          simp only [step, Draw.step]
          split <;> rfl
      | enlisting handle =>
          refine Or.inl ?_
          simp only [step, Draw.step]
          split <;> rfl
      | _ => exact Or.inl rfl
  | optimize current =>
      obtain ⟨entry, position⟩ := current
      refine Or.inl ?_
      simp only [step, Optimization.step]
      split
      · rfl
      · cases position with
        | preparing => dsimp only; split <;> rfl
        | installing handle => dsimp only; split <;> rfl
        | adopting handle =>
            simp only [Optimization.adoption]
            split
            · rfl
            · split <;> rfl
        | _ => rfl

namespace Runtime

variable {before after : Runtime} {move : Move} {cache : Cache}

theorem exchange_advance {index : Nat} {visit : Visit} (found : before.engine.cache = some cache)
    (serves : cache.Serves) : ∃ asked next, (before.advance index visit).engine.cache = some next ∧
      cache.Step asked next ∧
      (before.advance index visit).submissions = before.submissions ++ asked := by
  unfold advance
  cases there : before.engine.shared? visit.pipeline with
  | none =>
      simp only [Engine.stepCall, there]
      exact ⟨[], cache, found, .stays, rfl⟩
  | some shared =>
      simp only [Engine.stepCall, there]
      rcases visit.call.submissions_step shared visit.pipeline with silent | ⟨entry, reported⟩
      · refine ⟨[], cache, ?_, .stays, ?_⟩
        · rw [Engine.cache_absorb .caller _ _ silent]
          exact found
        · simp only [Option.toList_some, List.flatMap_cons, List.flatMap_nil, List.append_nil, silent]
      · refine ⟨[.job ⟨visit.pipeline, entry⟩], _, ?_, .reported ⟨visit.pipeline, entry⟩, ?_⟩
        · rw [reported]
          have changed : (before.engine.changeShared visit.pipeline
              (visit.call.step shared).2.1).cache = some cache := found
          exact Engine.cache_report changed serves _
        · simp only [Option.toList_some, List.flatMap_cons, List.flatMap_nil, List.append_nil, reported]
          rfl

/-- Any move but one that stops the cache does to it at most one thing. -/
theorem exchange_move (found : before.engine.cache = some cache) (serves : cache.Serves)
    (moved : before.move? move = some after) (unstopped : move ≠ .stopCache) :
    ∃ asked next, after.engine.cache = some next ∧ cache.Step asked next ∧
      after.submissions = before.submissions ++ asked := by
  have stays {engine : Engine} (visits : List Visit) (same : engine.cache = before.engine.cache) :
      ∃ asked next, (Runtime.mk engine visits before.submissions).engine.cache = some next ∧
        cache.Step asked next ∧ before.submissions = before.submissions ++ asked :=
    ⟨[], cache, same.trans found, .stays, (List.append_nil _).symm⟩
  cases move with
  | stopCache => exact absurd rfl unstopped
  | step index =>
      obtain ⟨visit, _, rfl⟩ := Option.map_eq_some_iff.mp moved
      exact exchange_advance found serves
  | report job =>
      cases moved
      exact ⟨_, _, Engine.cache_report found serves job, .reported job, rfl⟩
  | provide shader =>
      cases moved
      exact ⟨_, _, Engine.cache_provide found serves shader, .provided shader, rfl⟩
  | write =>
      cases moved
      obtain ⟨next, same, stepped⟩ := Engine.stepped_stepWriter found serves.live
      exact ⟨[], next, same, stepped, (List.append_nil _).symm⟩
  | look result =>
      cases moved
      obtain ⟨next, same, looked⟩ := Engine.looked found serves.live result
      exact ⟨[], next, same, .looks next looked, (List.append_nil _).symm⟩
  | obtain shaders =>
      cases moved
      exact stays _ (Engine.cache_obtainPipeline ..)
  | answer index result =>
      obtain ⟨_, _, _, rfl⟩ := exists_of_answer moved
      exact stays _ rfl
  | install entry handle =>
      obtain ⟨store, _, rfl⟩ := Option.map_eq_some_iff.mp moved
      exact stays _ rfl
  | offer job =>
      cases moved
      exact stays _ (Engine.cache_offerJob ..)
  | collect =>
      cases moved
      refine stays _ ?_
      unfold Engine.takeRecorded
      split <;> rfl
  | work worker =>
      cases moved
      exact stays _ (Engine.cache_stepWorker ..)
  | answerWorker worker result =>
      obtain ⟨_, same⟩ := Option.ite_none_right_eq_some.mp moved
      cases same
      exact stays _ (Engine.cache_answerWorker ..)
  | stopCompiler =>
      cases moved
      refine stays _ ?_
      unfold Engine.stopCompiler
      split <;> rfl
  | _ =>
      cases moved
      exact stays _ rfl

end Runtime

end PipelineCache

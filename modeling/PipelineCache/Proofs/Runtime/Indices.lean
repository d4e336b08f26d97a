import PipelineCache.Proofs.Runtime.Exchange
import PipelineCache.Proofs.Session.Rest
import PipelineCache.Proofs.Writer.Deduplication

/-! The writer knows keys, the lookup indexes them by their shaders, and only messages pass between the
two. At every moment the known keys are those in the index, followed by those on their way, in the order
in which they became known; so whoever has seen first the writer and then the lookup at rest finds all
known keys in the index, unless somebody asked for more in the meantime. -/

namespace PipelineCache

namespace LookupResponse

@[simp] theorem taken_next (response : LookupResponse) : response.next.taken = [] := by
  cases response <;> rfl

theorem next_ne_ended (response : LookupResponse) : response.next ≠ .ended := by
  cases response <;> exact nofun

end LookupResponse

namespace Cache

variable {cache next : Cache} {asked : List Submission} {indexed : List PipelineKey}
  {key : PipelineKey} {shader : ShaderKey}

/-- The keys that the lookup has been given, or has just taken, and has not handled yet. -/
def underway (cache : Cache) : List PipelineKey :=
  (cache.lookupPosition.taken ++ cache.lookupQueue.items).filterMap LookupEntry.key?

/-- The known keys are those that the index was made from, those underway, and at most one that the
writer has yet to pass on. -/
structure Agrees (cache : Cache) (indexed : List PipelineKey) : Prop where
  split : cache.writer.known = indexed ++ (cache.underway ++ cache.writerPosition.held)
  distinct : cache.writer.known.Nodup
  index : cache.lookup.index = indexed.foldl BackReferences.insert []

structure Agreeing (cache : Cache) : Prop where
  serves : cache.Serves
  forwards : cache.writer.forwards = true
  writes : cache.writerPosition ≠ .ended
  looks : cache.lookupPosition ≠ .ended
  attended : cache.Attended
  agrees : ∃ indexed, cache.Agrees indexed

theorem length_held_le (position : WriterPosition) : position.held.length ≤ 1 := by
  cases position <;> simp [WriterPosition.held]

/-- Under each shader key the index holds every key it was made from, once for each slot that has this
shader key, and nothing else. -/
theorem Agrees.count_candidates (agrees : cache.Agrees indexed) (shader : ShaderKey)
    (key : PipelineKey) : (cache.lookup.index.candidates shader).count key =
      if key ∈ indexed then key.required.count shader else 0 := by
  have once : indexed.Nodup := by
    have distinct := agrees.distinct
    rw [agrees.split] at distinct
    exact distinct.of_append_left
  have empty : (BackReferences.candidates [] shader).count key = 0 := rfl
  rw [agrees.index, BackReferences.count_candidates_foldl, empty, Nat.zero_add]
  split
  · rename_i member
    rw [List.count_eq_one_of_mem once member, Nat.one_mul]
  · rename_i outside
    rw [List.count_eq_zero.mpr outside, Nat.zero_mul]

theorem Agrees.recorded {disk later : Disk} {writer : Writer} {recording : Recording}
    (agrees : cache.Agrees indexed) (forwards : cache.writer.forwards = true)
    (unheld : cache.writerPosition.held = [])
    (recorded : cache.writer.Recorded disk key writer recording later) (stats : CacheStats) :
    Agrees { cache with
      writer := writer
      stats := stats
      writerPosition := recording.next writer.forwards key } indexed := by
  have split := agrees.split
  rw [unheld, List.append_nil] at split
  have grows (fresh : key ∉ cache.writer.known) : (cache.writer.known ++ [key]).Nodup := by
    refine List.nodup_append.mpr ⟨agrees.distinct, List.nodup_singleton key, ?_⟩
    intro other among newest member same
    rw [same, List.mem_singleton.mp member] at among
    exact fresh among
  have passes (log : Option Handle) (written : Bool) (fresh : key ∉ cache.writer.known) :
      Agrees { cache with
        writer := { cache.writer with log := log, known := cache.writer.known ++ [key] }
        stats := stats
        writerPosition := Recording.next cache.writer.forwards key (.added written) } indexed := by
    refine ⟨?_, grows fresh, agrees.index⟩
    rw [Recording.next, forwards, if_pos rfl]
    show cache.writer.known ++ [key] = indexed ++ (cache.underway ++ [key])
    rw [split, List.append_assoc]
  cases recorded with
  | duplicate old =>
      refine ⟨?_, agrees.distinct, agrees.index⟩
      exact split.trans (congrArg (indexed ++ ·) (List.append_nil _).symm)
  | closed fresh _ => exact passes cache.writer.log false fresh
  | written handle changed fresh _ _ => exact passes cache.writer.log true fresh
  | failed handle changed error fresh _ _ => exact passes none false fresh

theorem Agrees.looked (agrees : cache.Agrees indexed) (looked : cache.Looked next) :
    ∃ grown, next.Agrees grown := by
  have split := agrees.split
  cases looked with
  | idle => exact ⟨indexed, agrees⟩
  | rests position items =>
      refine ⟨indexed, ?_, agrees.distinct, agrees.index⟩
      rw [underway, position, items] at split
      exact split
  | takes entry entries position items =>
      refine ⟨indexed, ?_, agrees.distinct, agrees.index⟩
      rw [underway, position, items] at split
      exact split
  | works stats position _ nothing _ spared =>
      refine ⟨indexed, ?_, agrees.distinct, agrees.index⟩
      rw [underway, nothing] at split
      rw [underway, spared]
      exact split
  | handles entry stats position =>
      rw [underway, position] at split
      cases entry with
      | key key =>
          refine ⟨indexed ++ [key], ?_, agrees.distinct, ?_⟩
          · rw [underway, LookupResponse.taken_next]
            simpa [LookupPosition.taken, List.filterMap_cons, LookupEntry.key?] using split
          · rw [List.foldl_append, ← agrees.index]
            rfl
      | shader shader =>
          have index : (cache.lookup.handle (.shader shader)).1.index = cache.lookup.index := by
            have handled := cache.lookup.handled (.shader shader)
            generalize (cache.lookup.handle (.shader shader)).1 = grown at handled ⊢
            generalize (cache.lookup.handle (.shader shader)).2 = response at handled
            cases handled with
            | registers _ _ _ _ index _ => exact index
            | ignores => rfl
          refine ⟨indexed, ?_, agrees.distinct, index.trans agrees.index⟩
          rw [underway, LookupResponse.taken_next]
          simpa [LookupPosition.taken, List.filterMap_cons, LookupEntry.key?] using split

theorem Agrees.step (agrees : cache.Agrees indexed) (forwards : cache.writer.forwards = true)
    (stepped : cache.Step asked next) : ∃ grown, next.Agrees grown := by
  have split := agrees.split
  cases stepped with
  | stays => exact ⟨indexed, agrees⟩
  | reported job => exact ⟨indexed, agrees.split, agrees.distinct, agrees.index⟩
  | provided shader =>
      refine ⟨indexed, ?_, agrees.distinct, agrees.index⟩
      simpa [underway, List.filterMap_cons, LookupEntry.key?] using split
  | rests => exact ⟨indexed, agrees.split, agrees.distinct, agrees.index⟩
  | takes job jobs position items =>
      refine ⟨indexed, ?_, agrees.distinct, agrees.index⟩
      rw [position] at split
      exact split
  | records job key disk later writer recording position recorded =>
      exact ⟨indexed, agrees.recorded forwards (by rw [position]; rfl) recorded _⟩
  | forwards key position =>
      refine ⟨indexed, ?_, agrees.distinct, agrees.index⟩
      rw [position] at split
      simpa [underway, WriterPosition.held, List.filterMap_cons, LookupEntry.key?] using split
  | looks next looked => exact agrees.looked looked

theorem Serves.step (serves : cache.Serves) (stepped : cache.Step asked next) : next.Serves := by
  cases stepped with
  | looks next looked => cases looked <;> exact ⟨serves.live, serves.writes, serves.prewarms⟩
  | _ => exact ⟨serves.live, serves.writes, serves.prewarms⟩

theorem forwards_step (stepped : cache.Step asked next) :
    next.writer.forwards = cache.writer.forwards := by
  cases stepped with
  | looks next looked => cases looked <;> rfl
  | records job key disk later writer recording position recorded => cases recorded <;> rfl
  | _ => rfl

theorem Attended.looked (attended : cache.Attended) (looked : cache.Looked next) : next.Attended := by
  -- A lookup that is at work has a busy queue, and only comes to rest when it finds the queue empty.
  have busy (working : ¬ (cache.lookupPosition = .waiting ∨ cache.lookupPosition = .ended))
      {goal : Prop} (idle : cache.lookupQueue.busy = false) : goal :=
    absurd (attended.lookup idle) working
  cases looked with
  | idle => exact attended
  | rests => exact ⟨attended.writer, fun _ => Or.inl rfl⟩
  | takes => exact ⟨attended.writer, nofun⟩
  | handles entry stats position => exact ⟨attended.writer, busy (by simp [position])⟩
  | works stats position working _ _ _ =>
      exact ⟨attended.writer, busy fun resting => resting.elim working.1 working.2⟩

theorem Attended.step (attended : cache.Attended) (stepped : cache.Step asked next) :
    next.Attended := by
  cases stepped with
  | stays => exact attended
  | reported job => exact ⟨attended.writer, attended.lookup⟩
  | provided shader => exact ⟨attended.writer, attended.lookup⟩
  | rests position items => exact ⟨fun _ => Or.inl position, attended.lookup⟩
  | takes => exact ⟨nofun, attended.lookup⟩
  | records job key disk later writer recording position recorded =>
      refine ⟨fun idle => ?_, attended.lookup⟩
      rcases attended.writer idle with wrong | wrong <;> rw [position] at wrong <;> cases wrong
  | forwards => exact ⟨fun _ => Or.inl rfl, attended.lookup⟩
  | looks next looked => exact attended.looked looked

theorem Agreeing.step (agreeing : cache.Agreeing) (stepped : cache.Step asked next) :
    next.Agreeing := by
  obtain ⟨indexed, agrees⟩ := agreeing.agrees
  refine ⟨agreeing.serves.step stepped, (forwards_step stepped).trans agreeing.forwards, ?_, ?_,
    agreeing.attended.step stepped, agrees.step agreeing.forwards stepped⟩
  · cases stepped with
    | takes => exact nofun
    | records job key disk later writer recording position recorded =>
        show recording.next writer.forwards key ≠ .ended
        unfold Recording.next
        split
        · exact nofun
        · split <;> exact nofun
    | forwards => exact nofun
    | looks next looked => cases looked <;> exact agreeing.writes
    | _ => exact agreeing.writes
  · cases stepped with
    | looks next looked =>
        cases looked with
        | idle => exact agreeing.looks
        | handles entry stats position => exact LookupResponse.next_ne_ended _
        | works stats position working nothing alive spared => exact alive
        | _ => exact nofun
    | _ => exact agreeing.looks

/-- A writer at rest stays at rest until the cache is asked for something. -/
theorem Agreeing.idle_step (agreeing : cache.Agreeing) (stepped : cache.Step [] next)
    (idle : cache.writerQueue.isIdle = true) : next.writerQueue.isIdle = true := by
  obtain ⟨rests, empty⟩ := (WorkQueue.isIdle_iff _).mp idle
  have waits := (agreeing.attended.writer rests).resolve_right agreeing.writes
  cases stepped with
  | stays => exact idle
  | rests => rfl
  | takes job jobs position items =>
      rw [empty] at items
      cases items
  | records job key disk later writer recording position recorded =>
      rw [waits] at position
      cases position
  | forwards key position =>
      rw [waits] at position
      cases position
  | looks next looked => cases looked <;> exact idle

/-- Once both queues are idle, the index is the one that the known keys make. -/
theorem Agreeing.index_of_idle (agreeing : cache.Agreeing) (writer : cache.writerQueue.isIdle = true)
    (lookup : cache.lookupQueue.isIdle = true) :
    cache.writerPosition = .waiting ∧ cache.lookupPosition = .waiting ∧
      cache.lookup.index = (Lookup.ofKeys cache.writer.known).index := by
  obtain ⟨indexed, agrees⟩ := agreeing.agrees
  obtain ⟨rests, _⟩ := (WorkQueue.isIdle_iff _).mp writer
  obtain ⟨alsoRests, empty⟩ := (WorkQueue.isIdle_iff _).mp lookup
  have waits := (agreeing.attended.writer rests).resolve_right agreeing.writes
  have alsoWaits := (agreeing.attended.lookup alsoRests).resolve_right agreeing.looks
  have split := agrees.split
  have nothing : cache.underway = [] := by
    rw [underway, alsoWaits, empty]
    rfl
  have unheld : cache.writerPosition.held = [] := by rw [waits]; rfl
  rw [nothing, unheld, List.append_nil, List.append_nil] at split
  refine ⟨waits, alsoWaits, ?_⟩
  rw [split]
  exact agrees.index

theorem agreeing_start {config : CacheConfig} (writes : config.enableWriter = true)
    (prewarms : config.enablePrewarm = true) (disk : Disk) : (start config disk).value.Agreeing := by
  have writer : (start config disk).value.writerPosition = .waiting := by
    show (if config.enableWriter then WriterPosition.waiting else .ended) = .waiting
    rw [if_pos writes]
  have lookup : (start config disk).value.lookupPosition = .waiting := by
    show (if config.enablePrewarm then LookupPosition.waiting else .ended) = .waiting
    rw [if_pos prewarms]
  refine ⟨⟨rfl, writes, prewarms⟩, prewarms, ?_, ?_, ⟨fun _ => Or.inl writer, fun _ => Or.inl lookup⟩,
    (start config disk).value.writer.known, ?_, nodup_distinct _, rfl⟩
  · rw [writer]
    exact nofun
  · rw [lookup]
    exact nofun
  · rw [underway, writer, lookup]
    exact (List.append_nil _).symm

end Cache

namespace Runtime

variable {called runtime : Runtime} {moves : List Move} {cache : Cache}

/-- A run that does not stop the cache keeps its indices in agreement, and a writer that was at rest is
still at rest unless the cache was asked for something. -/
theorem agreeing_run (found : called.engine.cache = some cache) (agreeing : cache.Agreeing)
    (unstopped : ∀ move ∈ moves, move ≠ .stopCache) (ran : called.run? moves = some runtime) :
    ∃ next, runtime.engine.cache = some next ∧ next.Agreeing ∧
      ∃ asked, runtime.submissions = called.submissions ++ asked ∧
        (asked = [] → cache.writerQueue.isIdle = true → next.writerQueue.isIdle = true) := by
  refine Run.kept_of_forall (motive := fun reached => ∃ next, reached.engine.cache = some next ∧
    next.Agreeing ∧ ∃ asked, reached.submissions = called.submissions ++ asked ∧
      (asked = [] → cache.writerQueue.isIdle = true → next.writerQueue.isIdle = true))
    ?_ ⟨cache, found, agreeing, [], (List.append_nil _).symm, fun _ idle => idle⟩ unstopped ran
  rintro before move after lasting ⟨middle, there, agrees, asked, since, rested⟩ moved
  obtain ⟨more, next, cached, stepped, grown⟩ := exchange_move there agrees.serves moved lasting
  refine ⟨next, cached, agrees.step stepped, asked ++ more, ?_, fun nothing idle => ?_⟩
  · rw [grown, since, List.append_assoc]
  · obtain ⟨rfl, rfl⟩ := List.append_eq_nil_iff.mp nothing
    exact agrees.idle_step stepped (rested rfl idle)

/-- With the writer and the lookup at work and the cache not stopped, the known keys are at every moment
those in the index, those on their way to it, and at most one that the writer still holds, without
repetitions; and under each shader key the index holds its keys once for each slot with that shader key,
and nothing else. If the writer's queue was seen idle, and now the lookup's queue is, and the cache was
asked for nothing in between, then nothing is on its way, both threads rest, and the index is the one
that all known keys make. -/
theorem indices_agree {setup : Setup} {config : CacheConfig} {disk : Disk}
    (chosen : setup.cache = some config) (writes : config.enableWriter = true)
    (prewarms : config.enablePrewarm = true) (unstopped : ∀ move ∈ moves, move ≠ .stopCache)
    (ran : (start setup disk).run? moves = some runtime) :
    ∃ cache, runtime.engine.cache = some cache ∧
      (∃ indexed,
        cache.writer.known = indexed ++ (cache.underway ++ cache.writerPosition.held) ∧
        cache.writer.known.Nodup ∧ cache.writerPosition.held.length ≤ 1 ∧
        ∀ shader key, (cache.lookup.index.candidates shader).count key =
          if key ∈ indexed then key.required.count shader else 0) ∧
      ∀ earlier later called seen, moves = earlier ++ later →
        (start setup disk).run? earlier = some called → called.engine.cache = some seen →
        seen.writerQueue.isIdle = true → runtime.submissions = called.submissions →
        cache.lookupQueue.isIdle = true →
          cache.writerQueue = {} ∧ cache.lookupQueue = {} ∧ cache.writerPosition = .waiting ∧
          cache.lookupPosition = .waiting ∧
          cache.lookup.index = (Lookup.ofKeys cache.writer.known).index := by
  have begins : (start setup disk).engine.cache = some (Cache.start config disk).value := by
    rw [start, Engine.cache_start, chosen, Option.map_some]
  have initial := Cache.agreeing_start writes prewarms disk
  obtain ⟨cache, found, agreeing, _⟩ := agreeing_run begins initial unstopped ran
  obtain ⟨indexed, agrees⟩ := agreeing.agrees
  refine ⟨cache, found, ⟨indexed, agrees.split, agrees.distinct, Cache.length_held_le _,
    agrees.count_candidates⟩, ?_⟩
  rintro earlier later called seen rfl reached there rested silent idle
  obtain ⟨early, late⟩ := List.forall_mem_append.mp unstopped
  obtain ⟨_, first, rest⟩ := Run.final?_append_eq_some_iff.mp ran
  obtain rfl := Option.some.inj (reached.symm.trans first)
  obtain ⟨same, alsoThere, settled, _⟩ := agreeing_run begins initial early reached
  obtain rfl : seen = same := Option.some.inj (there.symm.trans alsoThere)
  obtain ⟨last, alsoFound, _, asked, since, still⟩ := agreeing_run there settled late rest
  obtain rfl : cache = last := Option.some.inj (found.symm.trans alsoFound)
  have nothing : asked = [] := List.append_right_eq_self.mp (since.symm.trans silent)
  have writer := still nothing rested
  obtain ⟨waits, alsoWaits, index⟩ := agreeing.index_of_idle writer idle
  have empty {α : Type} {queue : WorkQueue α} (idle : queue.isIdle = true) : queue = {} := by
    obtain ⟨busy, items⟩ := (WorkQueue.isIdle_iff _).mp idle
    obtain ⟨_, _⟩ := queue
    cases busy
    cases items
    rfl
  exact ⟨empty writer, empty idle, waits, alsoWaits, index⟩

/-- A draw reports its instance, and the writer records and passes on the key and comes to rest. -/
def recordOnce (handle : PipelineHandle) : List Move :=
  [.obtain { vertex := some Prewarming.sharedShader }, .draw 0 {} ⟨1, {}⟩, .step 0, .step 0,
    .answer 0 (.ok handle)] ++ List.replicate 4 (.step 0) ++ List.replicate 4 .write

/-- The lookup takes the key, handles it and comes to rest. -/
def indexOnce : List Move := List.replicate 3 (.look (.ok 1))

/-- The writer was seen at rest while the key was on its way, and then the lookup. -/
theorem indices_agree_recordOnce : ∃ called runtime seen cache,
    (start { compiler := .recording } {}).run? (recordOnce ⟨1, by decide⟩) = some called ∧
    (start { compiler := .recording } {}).run? (recordOnce ⟨1, by decide⟩ ++ indexOnce) =
      some runtime ∧
    called.engine.cache = some seen ∧ seen.underway.length = 1 ∧
    runtime.engine.cache = some cache ∧ cache.lookup.index.length = 1 ∧
    cache.lookup.index = (Lookup.ofKeys cache.writer.known).index := by
  have possible : ((start { compiler := .recording } {}).run? (recordOnce ⟨1, by decide⟩)).any
      (fun called => (called.engine.cache.any fun seen =>
          seen.writerQueue.isIdle && decide (seen.underway.length = 1)) &&
        (called.run? indexOnce).any fun runtime =>
          decide (runtime.submissions = called.submissions) &&
          runtime.engine.cache.any fun cache =>
            cache.lookupQueue.isIdle && decide (cache.lookup.index.length = 1)) = true := by
    decide +kernel
  simp only [Option.any_eq_true, Bool.and_eq_true, decide_eq_true_eq] at possible
  obtain ⟨called, reached, ⟨seen, there, rested, underway⟩, runtime, rest, silent, cache, found,
    idle, indexed⟩ := possible
  have ran := Run.final?_append_eq_some_iff.mpr ⟨called, reached, rest⟩
  have unstopped : ∀ move ∈ recordOnce ⟨1, by decide⟩ ++ indexOnce, move ≠ .stopCache := by
    simp [recordOnce, indexOnce]
  obtain ⟨same, alsoFound, _, rests⟩ := indices_agree rfl rfl rfl unstopped ran
  obtain rfl : cache = same := Option.some.inj (found.symm.trans alsoFound)
  obtain ⟨_, _, _, _, index⟩ := rests _ _ called seen rfl reached there rested silent idle
  exact ⟨called, runtime, seen, cache, reached, ran, there, underway, found, indexed, index⟩

end Runtime

end PipelineCache

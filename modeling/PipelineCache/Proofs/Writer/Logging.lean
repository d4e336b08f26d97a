import Mathlib.Data.List.Induction
import Mathlib.Data.List.Nodup
import PipelineCache.Engine.Start
import PipelineCache.Proofs.Run
import PipelineCache.Proofs.Writer.Appending

/-! A writer at work. Instances come to its queue at any time, and meanwhile anything else in the engine
may change that does not take away what the queue holds. What becomes of the keys that it is given says
`added`: of these keys it adds those that were not loaded, each at its first occurrence. -/

namespace PipelineCache

def WriterPosition.jobs : WriterPosition → List Job
  | .handling job => [job]
  | _ => []

/-- The key that is recorded and not yet passed on. -/
def WriterPosition.held : WriterPosition → List PipelineKey
  | .forwarding key => [key]
  | _ => []

/-- How many steps the writer has to take before it comes for the next instance. -/
def WriterPosition.rest : WriterPosition → Nat
  | .handling _ => 2
  | .forwarding _ => 1
  | _ => 0

/-- What the writer works with. -/
structure WriterSide where
  writer : Writer
  position : WriterPosition
  queued : List Job
  /-- Instances are taken. -/
  accepts : Bool
  entriesLoaded : Nat
  entriesAdded : Nat
  recordsWritten : Nat
  duplicatesDropped : Nat
  disk : Disk
  deriving DecidableEq

namespace Engine

def writerSide? (engine : Engine) : Option WriterSide :=
  engine.cache.map fun cache =>
    ⟨cache.writer, cache.writerPosition, cache.writerQueue.items, cache.acceptsInstances,
      cache.stats.entriesLoaded, cache.stats.entriesAdded, cache.stats.recordsWritten,
      cache.stats.duplicatesDropped, engine.disk⟩

/-- The instances that the writer was given and has not yet recorded, oldest first. -/
def writerJobs (engine : Engine) : List Job :=
  match engine.cache with
  | none => []
  | some cache => cache.writerPosition.jobs ++ cache.writerQueue.items

def lookupEntries (engine : Engine) : List LookupEntry :=
  match engine.cache with
  | none => []
  | some cache => cache.lookupQueue.items

end Engine

/-- A writer at work, with what was given to it and what it has passed on. -/
structure Logging where
  engine : Engine
  /-- The keys of all instances that were submitted, in their order. -/
  submitted : List PipelineKey := []
  /-- What the steps of the writer have put into the queue of the lookup. -/
  forwarded : List LookupEntry := []

namespace Logging

inductive Move
  /-- An instance is submitted together with its pipeline. -/
  | submit (job : Job)
  /-- The writer takes a step. -/
  | turn
  /-- Anything else in the engine changes. -/
  | elsewhere (engine : Engine)

/-- The writer's side is the same, and what its queue holds is there as before. -/
def Spares (before after : Engine) : Prop :=
  after.writerSide? = before.writerSide? ∧
    ∀ job ∈ before.writerJobs, after.keyOf? job = before.keyOf? job ∧
      (before.writerJobs.map Job.entry).count job.entry ≤ after.store.holders job.entry

instance (before after : Engine) : Decidable (Spares before after) :=
  inferInstanceAs (Decidable (_ ∧ _))

def turn (logging : Logging) : Logging :=
  { logging with
    engine := logging.engine.stepWriter.engine
    forwarded := logging.forwarded ++ logging.engine.stepWriter.engine.lookupEntries.drop
      logging.engine.lookupEntries.length }

def move? (logging : Logging) : Move → Option Logging
  | .submit job => (logging.engine.keyOf? job).map fun key =>
      { logging with
        engine := logging.engine.report job
        submitted := logging.submitted ++ [key] }
  | .turn => some logging.turn
  | .elsewhere engine =>
      if Spares logging.engine engine then some { logging with engine := engine } else none

abbrev run? (logging : Logging) (moves : List Move) : Option Logging :=
  Run.final? move? logging moves

/-- Of some keys those that were not loaded, each at its first occurrence. -/
def added (loaded keys : List PipelineKey) : List PipelineKey :=
  (keys.filter fun key => key ∉ loaded).eraseDups

theorem mem_added_iff {loaded keys : List PipelineKey} {key : PipelineKey} :
    key ∈ added loaded keys ↔ key ∈ keys ∧ key ∉ loaded := by
  simp [added]

theorem added_append_singleton (loaded keys : List PipelineKey) (key : PipelineKey) :
    added loaded (keys ++ [key]) =
      if key ∈ loaded ++ added loaded keys then added loaded keys
      else added loaded keys ++ [key] := by
  simp only [List.mem_append, mem_added_iff]
  by_cases old : key ∈ loaded
  · simp [added, old]
  · by_cases seen : key ∈ keys
    · simp [added, List.eraseDups_append, old, seen, List.removeAll]
    · simp [added, List.eraseDups_append, List.eraseDups_cons, old, seen, List.removeAll]

theorem nodup_added {loaded : List PipelineKey} (distinct : loaded.Nodup) (keys : List PipelineKey) :
    (loaded ++ added loaded keys).Nodup := by
  induction keys using List.reverseRecOn with
  | nil => simpa [added] using distinct
  | append_singleton keys key ih =>
      rw [added_append_singleton]
      split
      · exact ih
      · rename_i fresh
        rw [← List.append_assoc]
        exact List.concat_eq_append ▸ ih.concat fresh

end Logging

namespace Engine

variable {engine other : Engine} {writer : Writer} {position : WriterPosition} {queued : List Job}
  {accepts : Bool} {entriesLoaded entriesAdded recordsWritten duplicatesDropped : Nat} {disk : Disk}
  {job : Job} {key : PipelineKey} {cache : Cache}

theorem writerSide?_eq_some_iff : engine.writerSide? = some ⟨writer, position, queued, accepts,
      entriesLoaded, entriesAdded, recordsWritten, duplicatesDropped, disk⟩ ↔
    ∃ cache, engine.cache = some cache ∧ cache.writer = writer ∧ cache.writerPosition = position ∧
      cache.writerQueue.items = queued ∧ cache.acceptsInstances = accepts ∧
      cache.stats.entriesLoaded = entriesLoaded ∧ cache.stats.entriesAdded = entriesAdded ∧
      cache.stats.recordsWritten = recordsWritten ∧
      cache.stats.duplicatesDropped = duplicatesDropped ∧ engine.disk = disk := by
  simp [writerSide?, Option.map_eq_some_iff]

theorem writerJobs_of_side (side : engine.writerSide? = some ⟨writer, position, queued, accepts,
    entriesLoaded, entriesAdded, recordsWritten, duplicatesDropped, disk⟩) :
    engine.writerJobs = position.jobs ++ queued := by
  obtain ⟨cache, found, _, rfl, rfl, _⟩ := writerSide?_eq_some_iff.mp side
  simp [writerJobs, found]

theorem running_of_accepts (found : engine.cache = some cache)
    (accepts : cache.acceptsInstances = true) :
    ∀ other, engine.cache = some other → other.stopped = false := by
  intro other also
  obtain rfl : other = cache := Option.some.inj (also.symm.trans found)
  simp only [Cache.acceptsInstances, Bool.and_eq_true, Bool.not_eq_true'] at accepts
  exact accepts.2

theorem lookupEntries_of_cache (found : engine.cache = some cache) :
    engine.lookupEntries = cache.lookupQueue.items := by
  simp [lookupEntries, found]

theorem keyOf?_eq_some_iff : engine.keyOf? job = some key ↔
    ∃ pipeline item, engine.pipelines[job.pipeline]? = some pipeline ∧
      engine.store.get? job.entry = some item ∧ pipeline.instanceKey item = key := by
  simp [keyOf?, Option.bind_eq_some_iff]

/-- Keys do not change as long as the pipelines and the instances themselves are the same. -/
theorem keyOf?_congr (pipelines : other.pipelines = engine.pipelines)
    (same : other.store.get? job.entry = engine.store.get? job.entry) :
    other.keyOf? job = engine.keyOf? job := by
  simp [keyOf?, pipelines, same]

end Engine

/-- An instance that several places hold is still there when one of them has given it up. -/
theorem Store.get?_release_of_held {store : Store} {entry other : InstanceId}
    (held : other = entry → 1 < store.holders other) :
    (store.release entry).2.get? other = store.get? other := by
  simp only [Store.get?, held?_release]
  split
  · rename_i same
    have several := held same
    subst same
    cases found : store.held? other with
    | none => rfl
    | some place =>
        rw [Store.holders, found] at several
        have still : ¬ place.holders ≤ 1 := Nat.not_le.mpr several
        simp [still]
  · rfl

end PipelineCache

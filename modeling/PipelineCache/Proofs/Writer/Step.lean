import PipelineCache.Engine.Worker
import PipelineCache.Proofs.Store

/-! One step of the writer. It takes an instance from its queue, gives it up and records its key, and
passes a new key on; a key is recorded at most once, and its record is appended as long as the file is
open. -/

namespace PipelineCache

/-- What becomes of a key that the writer is given: it was known, or it is known from now on and its
record is appended as long as the file is open. -/
inductive Writer.Recorded (writer : Writer) (disk : Disk) (key : PipelineKey) :
    Writer → Recording → Disk → Prop
  | duplicate (old : key ∈ writer.known) : Recorded writer disk key writer .duplicate disk
  | closed (fresh : key ∉ writer.known) (log : writer.log = none) :
      Recorded writer disk key { writer with known := writer.known ++ [key] } (.added false) disk
  | written (handle : Handle) (changed : Disk) (fresh : key ∉ writer.known)
      (log : writer.log = some handle)
      (appended : disk.appendRecord handle key = (.ok (), changed)) :
      Recorded writer disk key { writer with known := writer.known ++ [key] } (.added true) changed
  | failed (handle : Handle) (changed : Disk) (error : IoError) (fresh : key ∉ writer.known)
      (log : writer.log = some handle)
      (appended : disk.appendRecord handle key = (.error error, changed)) :
      Recorded writer disk key { writer with log := none, known := writer.known ++ [key] }
        (.added false) changed

theorem Writer.recorded (writer : Writer) (disk : Disk) (key : PipelineKey) :
    writer.Recorded disk key (writer.record disk key).1 (writer.record disk key).2.value
      (writer.record disk key).2.disk := by
  unfold record
  split
  · rename_i old
    exact .duplicate old
  · rename_i fresh
    cases log : writer.log with
    | none =>
        have closed : writer.Recorded disk key _ _ disk := .closed fresh log
        simpa only [persist, log] using closed
    | some handle =>
        rcases appended : disk.appendRecord handle key with ⟨error | _, changed⟩
        · have failed := Recorded.failed handle changed error fresh log appended
          simpa only [persist, log, appended] using failed
        · have written := Recorded.written handle changed fresh log appended
          simpa only [persist, log, appended] using written

namespace Recording

def counted (stats : CacheStats) : Recording → CacheStats
  | .duplicate => { stats with duplicatesDropped := stats.duplicatesDropped + 1 }
  | .added written => { stats with
      entriesAdded := stats.entriesAdded + 1
      recordsWritten := stats.recordsWritten + if written then 1 else 0 }

def next (forwards : Bool) (key : PipelineKey) : Recording → WriterPosition
  | .duplicate => .waiting
  | .added _ => if forwards then .forwarding key else .waiting

end Recording

namespace Engine

variable {engine : Engine} {cache : Cache} {job : Job} {key : PipelineKey}

theorem engine_recordKey (engine : Engine) (cache : Cache) (key : PipelineKey) :
    (engine.recordKey cache key).engine = { engine with
      disk := (cache.writer.record engine.disk key).2.disk
      cache := some { cache with
        writer := (cache.writer.record engine.disk key).1
        stats := (cache.writer.record engine.disk key).2.value.counted cache.stats
        writerPosition := (cache.writer.record engine.disk key).2.value.next
          (cache.writer.record engine.disk key).1.forwards key } } := by
  simp only [recordKey]
  cases (cache.writer.record engine.disk key).2.value <;> rfl

/-- What a step of the writer leads to, as long as the cache is not stopped. -/
inductive WriterStep (engine : Engine) : Engine → Prop
  | idle (reason : ∀ cache, engine.cache = some cache → cache.writerPosition = .ended ∨
      ∃ job, cache.writerPosition = .handling job ∧ engine.keyOf? job = none) :
      WriterStep engine engine
  | rests (cache : Cache) (found : engine.cache = some cache)
      (position : cache.writerPosition = .waiting) (items : cache.writerQueue.items = []) :
      WriterStep engine { engine with cache := some { cache with writerQueue := ⟨[], false⟩ } }
  | takes (cache : Cache) (job : Job) (jobs : List Job) (found : engine.cache = some cache)
      (position : cache.writerPosition = .waiting) (items : cache.writerQueue.items = job :: jobs) :
      WriterStep engine { engine with cache := some { cache with
        writerQueue := ⟨jobs, true⟩, writerPosition := .handling job } }
  | records (cache : Cache) (job : Job) (key : PipelineKey) (writer : Writer)
      (recording : Recording) (disk : Disk) (found : engine.cache = some cache)
      (position : cache.writerPosition = .handling job) (named : engine.keyOf? job = some key)
      (recorded : cache.writer.Recorded engine.disk key writer recording disk) :
      WriterStep engine { engine with
        store := (engine.store.release job.entry).2
        disk := disk
        cache := some { cache with
          writer := writer
          stats := recording.counted cache.stats
          writerPosition := recording.next writer.forwards key } }
  | forwards (cache : Cache) (key : PipelineKey) (found : engine.cache = some cache)
      (position : cache.writerPosition = .forwarding key) :
      WriterStep engine { engine with cache := some { cache with
        lookupQueue := cache.lookupQueue.push (.key key), writerPosition := .waiting } }

theorem writerStep (running : ∀ cache, engine.cache = some cache → cache.stopped = false) :
    engine.WriterStep engine.stepWriter.engine := by
  unfold stepWriter
  split
  · rename_i absent
    refine .idle fun cache found => ?_
    rw [absent] at found
    cases found
  · rename_i cache found
    have live := running cache found
    have same {other : Cache} (also : engine.cache = some other) : other = cache :=
      Option.some.inj (also.symm.trans found)
    split
    · rename_i position
      cases items : cache.writerQueue.items with
      | nil =>
          rw [WorkQueue.pop_of_nil live items]
          exact .rests cache found position items
      | cons job jobs =>
          rw [WorkQueue.pop_of_cons live items]
          exact .takes cache job jobs found position items
    · rename_i job position
      split
      · rename_i nameless
        refine .idle fun other also => Or.inr ⟨job, ?_, nameless⟩
        rw [same also, position]
      · rename_i key named
        simp only [engine_recordKey]
        exact .records cache job key _ _ _ found position named (cache.writer.recorded _ _)
    · rename_i key position
      exact .forwards cache key found position
    · rename_i position
      refine .idle fun other also => Or.inl ?_
      rw [same also, position]

end Engine

end PipelineCache

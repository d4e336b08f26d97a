import PipelineCache.Proofs.File.Repair
import PipelineCache.Proofs.Session.Basic
import PipelineCache.Proofs.Writer.Appending

/-! The cache file of a session in which no file operation fails. From the start on the file holds exactly
the records of the known keys, in their order; so a later session that starts from it knows the same
keys. -/

namespace PipelineCache

namespace Disk

variable {disk : Disk} {keys : List PipelineKey}

/-- A missing file reads as no cache, and loading writes a fresh header. -/
theorem load_missing (works : disk.Works) (missing : disk.node = .missing) (path : String) :
    (disk.load path).value = {} ∧ (disk.load path).disk =
      { disk with node := .file (Record.file []), vacancy := disk.prospect.vacancy } := by
  rw [Record.file_nil]
  exact load_of_missing works missing path

/-- A file of whole records gives their keys and stays as it is. -/
theorem load_whole (calm : disk.faults = {}) (present : disk.node = .file (Record.file keys))
    (path : String) : (disk.load path).value = .ofKeys keys ∧ (disk.load path).disk = disk := by
  have whole := Source.readCache_file keys [] Record.size_pos
  rw [List.append_nil] at whole
  have read : disk.readCache = .ok (.ofKeys keys) := by
    simpa [readCache, openForReading, source, calm, present, mapError_ok, bind, Except.bind] using whole
  have trimmed : disk.trim path (Contents.ofKeys keys).endOffset = ⟨.ok (), [], disk⟩ := by
    simp [trim, length, present, Contents.endOffset_ofKeys]
  simp only [load, read, trimmed, and_self]

theorem appendRecord_calm (calm : disk.faults = {}) (present : disk.node = .file (Record.file keys))
    (key : PipelineKey) : disk.appendRecord ⟨disk.generation⟩ key =
      (.ok (), { disk with node := .file (Record.file (keys ++ [key])) }) := by
  simp [appendRecord, append, nextWrite, calm, present, Record.file_append]

end Disk

theorem Cache.known_start {config : CacheConfig} {path : String} (named : config.filePath = some path)
    (disk : Disk) : (start config disk).value.writer.known = distinct (disk.load path).value.keys := by
  simp only [start, named]

/-- The file holds the records of the keys that a writer knows, and the writer can append to it. -/
structure Writer.Backed (writer : Writer) (disk : Disk) : Prop where
  calm : disk.faults = {}
  node : disk.node = .file (Record.file writer.known)
  log : writer.log = some ⟨disk.generation⟩
  distinct : writer.known.Nodup

/-- The writer adds the record of each new key to the file. -/
theorem Writer.Backed.recorded {writer changed : Writer} {disk later : Disk} {key : PipelineKey}
    {recording : Recording} (backed : writer.Backed disk)
    (recorded : writer.Recorded disk key changed recording later) : changed.Backed later := by
  have appended := Disk.appendRecord_calm backed.calm backed.node key
  cases recorded with
  | duplicate old => exact backed
  | closed fresh closed =>
      rw [backed.log] at closed
      cases closed
  | written handle _ fresh isOpen wrote =>
      obtain rfl := Option.some.inj (backed.log.symm.trans isOpen)
      rw [appended] at wrote
      cases wrote
      exact ⟨backed.calm, rfl, backed.log, List.concat_eq_append ▸ backed.distinct.concat fresh⟩
  | failed handle _ error fresh isOpen refused =>
      obtain rfl := Option.some.inj (backed.log.symm.trans isOpen)
      rw [appended] at refused
      cases refused

theorem Engine.disk_obtainPipeline (engine : Engine) (thread : Thread) (shaders : ShaderSet) :
    (engine.obtainPipeline thread shaders).2.engine.disk = engine.disk := by
  unfold obtainPipeline
  split <;> rfl

namespace Session

variable {before after session start : Session} {move : Move} {moves : List Move} {setup : Setup}
  {config : CacheConfig} {disk : Disk} {path : String}

/-- The writer of an engine is backed by the disk. -/
def Backed (engine : Engine) : Prop :=
  ∃ cache, engine.cache = some cache ∧ cache.writer.Backed engine.disk

theorem backed_start (chosen : setup.cache = some config) (named : config.filePath = some path)
    (writes : config.enableWriter = true) (works : disk.Works) (missing : disk.node = .missing) :
    ∃ cache, (Session.start setup disk).engine.cache = some cache ∧
      cache.writer.Backed (Session.start setup disk).engine.disk ∧ cache.writer.known = [] := by
  obtain ⟨value, written⟩ := Disk.load_missing works missing path
  have opened : (disk.load path).disk.openForAppend = .ok ⟨disk.generation⟩ := by
    simp [written, Disk.openForAppend, works.calm]
  obtain ⟨left, log, known, _⟩ := Cache.start_eq named writes opened
  rw [value] at known
  have placed : (Session.start setup disk).engine.disk = (disk.load path).disk := by
    rw [← left, Session.start]
    simp only [Engine.start, chosen]
    rfl
  refine ⟨_, cache_of_chosen chosen disk, ⟨?_, ?_, ?_, ?_⟩, known⟩
  · rw [placed, written]
    exact works.calm
  · rw [placed, written, known]
    rfl
  · rw [placed, written, log]
  · rw [known]
    exact List.nodup_nil

/-- A session that starts from such a file knows its keys. -/
theorem known_start {writer : Writer} (backed : writer.Backed disk) (chosen : setup.cache = some config)
    (named : config.filePath = some path) : ∃ cache,
      (Session.start setup disk).engine.cache = some cache ∧ cache.config = config ∧
        cache.writer.known = writer.known := by
  refine ⟨_, cache_of_chosen chosen disk, rfl, ?_⟩
  rw [Cache.known_start named, (Disk.load_whole backed.calm backed.node path).1, Contents.keys_ofKeys,
    Cache.distinct_eq_self backed.distinct]

/-- The writer of an engine is in a certain relation to the disk. -/
def Keeps (relation : Writer → Disk → Prop) (engine : Engine) : Prop :=
  ∃ cache, engine.cache = some cache ∧ relation cache.writer engine.disk

namespace Keeps

variable {relation : Writer → Disk → Prop}

/-- Whatever else becomes of the cache, its writer stands as before. -/
theorem kept {engine : Engine} {cache changed : Cache} (keeps : Keeps relation engine)
    (found : engine.cache = some cache) (same : changed.writer = cache.writer) :
    relation changed.writer engine.disk := by
  obtain ⟨other, also, stands⟩ := keeps
  obtain rfl : cache = other := Option.some.inj (found.symm.trans also)
  rwa [same]

theorem look {result : Except CacheError UInt64} {engine : Engine}
    (keeps : Keeps relation before.engine) (stepped : before.engine.LookupStep result engine) :
    Keeps relation engine := by
  cases stepped with
  | idle => exact keeps
  | builds other ready others also _ =>
      refine ⟨_, rfl, ?_⟩
      rw [Engine.disk_obtainPipeline]
      exact keeps.kept also rfl
  | submits other key pipeline pass ready also _ => exact ⟨_, rfl, keeps.kept also rfl⟩
  | rests other also => exact ⟨_, rfl, keeps.kept also rfl⟩
  | takes other _ _ also => exact ⟨_, rfl, keeps.kept also rfl⟩
  | handles other _ _ also => exact ⟨_, rfl, keeps.kept also rfl⟩
  | returns other also => exact ⟨_, rfl, keeps.kept also rfl⟩
  | passes other _ _ _ _ _ also => exact ⟨_, rfl, keeps.kept also rfl⟩
  | refused other _ _ _ _ also => exact ⟨_, rfl, keeps.kept also rfl⟩
  | counts other _ _ also => exact ⟨_, rfl, keeps.kept also rfl⟩

/-- What every recording of a key keeps, every move keeps: only the writer uses the disk. -/
theorem moved (records : ∀ {writer changed : Writer} {disk later : Disk} {key : PipelineKey}
      {recording : Recording}, relation writer disk →
      writer.Recorded disk key changed recording later → relation changed later)
    (keeps : Keeps relation before.engine) (moved : Moved before move after) :
    Keeps relation after.engine := by
  have whole := keeps
  obtain ⟨cache, found, stands⟩ := keeps
  cases moved with
  | stays => exact whole
  | draw shaders state pass =>
      refine ⟨cache, (Engine.cache_obtainPipeline ..).trans found, ?_⟩
      simpa only [beginDraw, Engine.disk_obtainPipeline] using stands
  | step index drawing pipeline engine _ _ stepped =>
      cases stepped with
      | reports other _ _ _ also _ => exact ⟨_, rfl, whole.kept also rfl⟩
      | _ => exact ⟨cache, found, stands⟩
  | answer => exact whole
  | provide shader =>
      refine ⟨cache.provide shader, ?_, ?_⟩
      · simp [Engine.provide, Engine.updateCache, found]
      · unfold Cache.provide
        split <;> exact stands
  | write engine stepped =>
      cases stepped with
      | idle => exact whole
      | rests other also => exact ⟨_, rfl, whole.kept also rfl⟩
      | takes other _ _ also => exact ⟨_, rfl, whole.kept also rfl⟩
      | records other job key writer recording disk also _ _ recorded =>
          exact ⟨_, rfl, records (whole.kept also rfl) recorded⟩
      | forwards other _ also => exact ⟨_, rfl, whole.kept also rfl⟩
  | look result engine stepped => exact whole.look stepped
  | work worker engine stepped => cases stepped <;> exact ⟨cache, found, stands⟩
  | answerWorker => exact ⟨cache, found, stands⟩

end Keeps

theorem backed_moved (backed : Backed before.engine) (moved : Moved before move after) :
    Backed after.engine :=
  Keeps.moved Writer.Backed.recorded backed moved

end Session

end PipelineCache

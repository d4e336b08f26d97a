import PipelineCache.Proofs.Session.WarmStart
import PipelineCache.Proofs.Writer.Retention

/-! Everything that is drawn is remembered. Only the draw that makes an instance reports it; a draw that
finds one, comes too late with its own, or is served by one that was compiled ahead reports nothing.
Each of these is covered by the report of somebody else or by a loaded key. So whenever no draw is in
progress and the writer has come to rest, the key of every draw that has returned a handle is known. The
file gives it back if loading kept the file or could write a fresh header. If it could not, this is only
said: the records are appended and counted all the same, and no key is ever read back. -/

namespace PipelineCache

namespace Disk

variable {disk : Disk}

/-- A file of another build stands at the path. -/
def Foreign (disk : Disk) : Prop :=
  ∃ content, disk.node = .file content ∧ Header.size ≤ content.length ∧
    content.take Header.size ≠ Header.current.toBytes

/-- Whatever is appended to such a file, its front stays as it is. -/
theorem Foreign.append (foreign : disk.Foreign) (handle : Handle) (bytes : Bytes) :
    (disk.append handle bytes).2.Foreign := by
  obtain ⟨content, present, enough, other⟩ := foreign
  have same : disk.nextWrite.2.node = .file content := by
    unfold nextWrite
    split <;> exact present
  have longer (more : Bytes) : Header.size ≤ (content ++ more).length ∧
      (content ++ more).take Header.size ≠ Header.current.toBytes := by
    constructor
    · rw [List.length_append]
      omega
    · rwa [List.take_append_of_le_length enough]
  unfold Disk.append
  simp only
  split
  · exact ⟨content, same, enough, other⟩
  · rw [same]
    cases disk.nextWrite.1 with
    | none => exact ⟨content ++ bytes, rfl, longer bytes⟩
    | some failure => exact ⟨content ++ bytes.take failure.1, rfl, longer _⟩

/-- Reading such a file back gives no key at all. -/
theorem Foreign.readCache (foreign : disk.Foreign) :
    ∃ found, disk.calm.readCache = .error (.layoutMismatch found .current) := by
  obtain ⟨content, present, enough, other⟩ := foreign
  obtain ⟨found, _, refused⟩ := Source.readCache_of_foreign enough other
  have calm : disk.calm.faults = {} := rfl
  exact ⟨found, (readCache_calm calm present).trans refused⟩

end Disk

/-- Recording a key does not change to which build the file belongs. -/
theorem Disk.Foreign.recorded {writer changed : Writer} {disk later : Disk} {key : PipelineKey}
    {recording : Recording} (foreign : disk.Foreign)
    (recorded : writer.Recorded disk key changed recording later) : later.Foreign := by
  cases recorded with
  | written handle _ _ _ appended =>
      have kept := foreign.append handle (Record.encode key)
      rwa [← Disk.appendRecord, appended] at kept
  | failed handle _ _ _ _ appended =>
      have kept := foreign.append handle (Record.encode key)
      rwa [← Disk.appendRecord, appended] at kept
  | _ => exact foreign

/-- No call of the draw is in progress: it has yet to take its first step, or it has returned. -/
def Drawing.Rests (drawing : Drawing) : Prop :=
  drawing.draw.position = .scanning ∨ ∃ result, drawing.draw.position = .finished result

theorem Drawing.Rests.unreported {drawing : Drawing} (rests : drawing.Rests) :
    drawing.draw.position.unreported? = none := by
  rcases rests with position | ⟨_, position⟩ <;> rw [position] <;> rfl

namespace Session

variable {setup : Setup} {config : CacheConfig} {disk : Disk} {path : String} {moves later : List Move}
  {rested session : Session} {cache : Cache} {drawing : Drawing} {handle : PipelineHandle}

/-- The writer has nothing to do and is not at work. -/
def WriterRests (session : Session) : Prop :=
  ∃ cache, session.engine.cache = some cache ∧ cache.writerQueue.isIdle = true

/-- Reading the file of a session back gives a key. -/
def Recovers (session : Session) (key : PipelineKey) : Prop :=
  ∃ contents, session.engine.disk.calm.readCache = .ok contents ∧ key ∈ contents.keys

theorem disk_start (chosen : setup.cache = some config) (disk : Disk) :
    (start setup disk).engine.disk = (Cache.start config disk).disk := by
  rw [start]
  simp only [Engine.start, chosen]
  rfl

theorem exists_cache_run (chosen : setup.cache = some config)
    (ran : (start setup disk).run? moves = some session) :
    ∃ cache, session.engine.cache = some cache := by
  have initial : Keeps (fun _ _ => True) (start setup disk).engine :=
    ⟨_, cache_of_chosen chosen disk, trivial⟩
  obtain ⟨_, cache, found, _⟩ := kept_run (fun _ _ _ => Keeps.moved fun _ _ => trivial)
    (running_start setup disk) initial ran
  exact ⟨cache, found⟩

theorem retained_run (chosen : setup.cache = some config) (named : config.filePath = some path)
    (prepared : disk.Prepared path) (ran : (start setup disk).run? moves = some session)
    (found : session.engine.cache = some cache) : cache.writer.Retained session.engine.disk := by
  have initial : Keeps Writer.Retained (start setup disk).engine := by
    refine ⟨_, cache_of_chosen chosen disk, ?_⟩
    rw [disk_start chosen]
    exact Cache.retained_start named prepared
  obtain ⟨_, other, also, retained⟩ := kept_run
    (fun _ _ _ => Keeps.moved Writer.Retained.recorded) (running_start setup disk) initial ran
  obtain rfl : cache = other := Option.some.inj (found.symm.trans also)
  exact retained

/-- The keys that a session starts with are those that were loaded. -/
theorem known_start_subset (chosen : setup.cache = some config) (disk : Disk)
    {property : PipelineKey → Prop}
    (loaded : ∀ path, config.filePath = some path → ∀ key ∈ (disk.load path).value.keys, property key) :
    ∀ key ∈ (start setup disk).overview.known, property key := by
  rw [known_overview (cache_of_chosen chosen disk)]
  cases named : config.filePath with
  | none =>
      have none : (Cache.start config disk).value.writer.known = [] := by
        simp only [Cache.start, named]
        rfl
      rw [none]
      exact List.forall_mem_nil _
  | some path =>
      rw [Cache.known_start named]
      exact fun key member => loaded path named key (Cache.distinct_subset _ member)

/-- The keys of all draws that have returned a handle are known once everything rests. -/
theorem known_of_rested (chosen : setup.cache = some config) (writes : config.enableWriter = true)
    (attached : setup.attach = true)
    (loaded : ∀ path, config.filePath = some path → ∀ key ∈ (disk.load path).value.keys,
      key.shaders.IsClean)
    (ran : (start setup disk).run? moves = some rested)
    (used : ∀ drawing ∈ rested.drawings, drawing.shaders.keys.IsClean)
    (returned : ∀ drawing ∈ rested.drawings, drawing.Rests) (idle : rested.WriterRests)
    (member : drawing ∈ rested.drawings)
    (finished : drawing.draw.position = .finished (some handle)) :
    drawing.key ∈ rested.overview.known := by
  obtain ⟨cache, found, idle⟩ := idle
  have fresh := fresh_start setup disk
  have running := running_start setup disk
  obtain ⟨remembers, _, reports⟩ := overview_start chosen disk
  have steps := steps_run_true running ran
  have orderly := fresh.orderly.steps steps
  have remembering := (fresh.remembering (remembers.trans writes) (reports.trans attached)).steps
    fresh.orderly steps
  obtain ⟨_, attended⟩ := kept_run (fun _ _ _ => attended_moved) running (attended_start setup disk) ran
  have clean := known_start_subset chosen disk loaded
  have canonical := orderly.rooted.canonical
    (fun key old => ShaderKeys.cleared_of_isClean (clean key old))
    fun other among => ShaderKeys.cleared_of_isClean (used other among)
  exact remembering.key_mem canonical orderly (fun other among => (returned other among).unreported)
    (reported_eq_nil attended found idle) member finished

/-- A session with a writer, attached from the start, whose shader keys are each defined or all zero. At
some moment no draw is in progress and the writer rests, which is what whoever waits for the workers to
be idle sees first. Then the keys of all draws that have returned a handle are known from now on. If the
file was prepared for writing, and the writer has not given it up, as it does when an append fails, then
reading it back gives these keys. -/
theorem drawn_is_remembered (chosen : setup.cache = some config) (writes : config.enableWriter = true)
    (attached : setup.attach = true)
    (loaded : ∀ path, config.filePath = some path → ∀ key ∈ (disk.load path).value.keys,
      key.shaders.IsClean)
    (ran : (start setup disk).run? moves = some rested)
    (used : ∀ drawing ∈ rested.drawings, drawing.shaders.keys.IsClean)
    (returned : ∀ drawing ∈ rested.drawings, drawing.Rests) (idle : rested.WriterRests)
    (went : rested.run? later = some session) :
    ∃ cache, session.engine.cache = some cache ∧
      ∀ drawing ∈ rested.drawings, ∀ handle, drawing.draw.position = .finished (some handle) →
        drawing.key ∈ cache.writer.known ∧
        (∀ path, config.filePath = some path → disk.Prepared path → cache.writer.log.isSome = true →
          session.Recovers drawing.key) := by
  have whole := Run.final?_append_eq_some_iff.mpr ⟨rested, ran, went⟩
  obtain ⟨cache, found⟩ := exists_cache_run chosen whole
  have grown := (steps_run_true (running_run (running_start setup disk) ran) went).known_subset
  rw [known_overview found] at grown
  refine ⟨cache, found, fun drawing member handle finished => ?_⟩
  have known := grown
    (known_of_rested chosen writes attached loaded ran used returned idle member finished)
  refine ⟨known, fun path named prepared isOpen => ?_⟩
  obtain ⟨log, held⟩ := Option.isSome_iff_exists.mp isOpen
  obtain ⟨_, retains⟩ := retained_run chosen named prepared whole found log held
  obtain ⟨contents, read, inside⟩ := retains.readCache
  exact ⟨contents, read, inside known⟩

theorem isClean_sole : soleSet.keys.IsClean := ShaderSet.isClean_keys fun stage shader present =>
  Or.inl (identified_sole.defined shader (from_sole stage shader present))

/-- Two draws race for one state. The slower one destroys its handle and returns that of the other, which
alone reports; then the writer records the key. -/
def drawTwice (first second : PipelineHandle) : List Move :=
  [.draw soleSet {} ⟨1, {}⟩, .draw soleSet {} ⟨1, {}⟩, .step 0, .step 1, .step 0, .step 1,
    .answer 0 (.ok first), .answer 1 (.ok second)] ++ List.replicate 5 (.step 0) ++
  List.replicate 3 (.step 1) ++ List.replicate 4 .write

theorem drawn_is_remembered_drawTwice : ∃ session cache,
    (start recordingSetup {}).run? (drawTwice ⟨5, by decide⟩ ⟨6, by decide⟩) = some session ∧
    session.drawings.map (fun drawing => (drawing.key, drawing.draw.position)) =
      List.replicate 2 (soleKey, .finished (some ⟨5, by decide⟩)) ∧
    session.engine.cache = some cache ∧ soleKey ∈ cache.writer.known ∧ session.Recovers soleKey := by
  have possible : ((start recordingSetup {}).run? (drawTwice ⟨5, by decide⟩ ⟨6, by decide⟩)).any
      (fun session => decide (session.drawings = List.replicate 2
          ⟨soleSet, 0, ⟨{}, ⟨1, {}⟩, .finished (some ⟨5, by decide⟩)⟩⟩) &&
        session.engine.cache.any fun cache =>
          cache.writerQueue.isIdle && cache.writer.log.isSome) = true := by
    decide +kernel
  simp only [Option.any_eq_true, Bool.and_eq_true, decide_eq_true_eq] at possible
  obtain ⟨session, ran, drawings, seen, there, idle, isOpen⟩ := possible
  have loaded : ∀ path, some "cache" = some path → ∀ key ∈ (Disk.load {} path).value.keys,
      key.shaders.IsClean := by
    rintro _ ⟨⟩
    rw [(Disk.load_missing recordingRun_sole.works rfl "cache").1]
    exact List.forall_mem_nil _
  have only (drawing : Drawing) (member : drawing ∈ session.drawings) :
      drawing = ⟨soleSet, 0, ⟨{}, ⟨1, {}⟩, .finished (some ⟨5, by decide⟩)⟩⟩ := by
    rw [drawings] at member
    exact List.eq_of_mem_replicate member
  have still : session.run? [] = some session := rfl
  obtain ⟨cache, found, remembered⟩ := drawn_is_remembered rfl rfl rfl loaded ran
    (fun drawing member => by rw [only drawing member]; exact isClean_sole)
    (fun drawing member => by rw [only drawing member]; exact Or.inr ⟨_, rfl⟩)
    ⟨seen, there, idle⟩ still
  obtain rfl : seen = cache := Option.some.inj (there.symm.trans found)
  obtain ⟨known, recovers⟩ := remembered
    ⟨soleSet, 0, ⟨{}, ⟨1, {}⟩, .finished (some ⟨5, by decide⟩)⟩⟩
    (by rw [drawings]; exact List.mem_cons_self) ⟨5, by decide⟩ rfl
  have fresh : (Disk.startAfresh {}).1 = .ok () := rfl
  have prepared : Disk.Prepared {} "cache" := fresh
  refine ⟨session, seen, ran, ?_, there, known, recovers "cache" rfl prepared isOpen⟩
  rw [drawings]
  rfl

/-- If loading leaves a file of another build where it is, the file never gives a key back, whatever is
drawn and recorded. -/
theorem not_recovers_of_foreign (chosen : setup.cache = some config)
    (foreign : (Cache.start config disk).disk.Foreign)
    (ran : (start setup disk).run? moves = some session) (key : PipelineKey) :
    ¬ session.Recovers key := by
  have initial : Keeps (fun _ disk => disk.Foreign) (start setup disk).engine := by
    refine ⟨_, cache_of_chosen chosen disk, ?_⟩
    rwa [disk_start chosen]
  obtain ⟨_, _, _, stays⟩ := kept_run
    (fun _ _ _ => Keeps.moved Disk.Foreign.recorded) (running_start setup disk) initial ran
  obtain ⟨_, refused⟩ := stays.readCache
  rintro ⟨contents, read, _⟩
  rw [refused] at read
  cases read

/-- A file of another build stands in the place of the cache file, and creating a file is refused. This is
only said: the file is opened for appending all the same. The draws of the race are known, and their
record is appended and counted, but reading the file back gives nothing. -/
theorem drawn_is_lost_unreplaceable : ∃ session cache,
    recordingSetup.cache = some { filePath := some "cache" } ∧ recordingSetup.attach = true ∧
    (Logging.unreplaceable.load "cache").value.keys = [] ∧
    (start recordingSetup Logging.unreplaceable).run? (drawTwice ⟨5, by decide⟩ ⟨6, by decide⟩) =
      some session ∧
    (∀ drawing ∈ session.drawings, drawing.key = soleKey ∧ drawing.shaders.keys.IsClean ∧
      drawing.draw.position = .finished (some ⟨5, by decide⟩)) ∧
    session.WriterRests ∧ session.engine.cache = some cache ∧ soleKey ∈ cache.writer.known ∧
    cache.stats.recordsWritten = 1 ∧ cache.writer.log.isSome = true ∧ ¬ session.Recovers soleKey := by
  have possible : ((start recordingSetup Logging.unreplaceable).run?
      (drawTwice ⟨5, by decide⟩ ⟨6, by decide⟩)).any (fun session =>
        decide (session.drawings = List.replicate 2
          ⟨soleSet, 0, ⟨{}, ⟨1, {}⟩, .finished (some ⟨5, by decide⟩)⟩⟩) &&
        session.engine.cache.any fun cache =>
          cache.writerQueue.isIdle && decide (soleKey ∈ cache.writer.known) &&
            decide (cache.stats.recordsWritten = 1) && cache.writer.log.isSome) = true := by
    decide +kernel
  simp only [Option.any_eq_true, Bool.and_eq_true, decide_eq_true_eq] at possible
  obtain ⟨session, ran, drawings, cache, there, ⟨⟨idle, known⟩, counted⟩, isOpen⟩ := possible
  have chosen : recordingSetup.cache = some { filePath := some "cache" } := rfl
  have foreign :
      (Cache.start { filePath := some "cache" } Logging.unreplaceable).disk.Foreign :=
    ⟨Bytes.zeros Header.size, by decide, by decide, by decide⟩
  refine ⟨session, cache, chosen, rfl, by decide, ran, fun drawing member => ?_,
    ⟨cache, there, idle⟩, there, known, counted, isOpen,
    not_recovers_of_foreign chosen foreign ran soleKey⟩
  rw [drawings] at member
  rw [List.eq_of_mem_replicate member]
  exact ⟨rfl, isClean_sole, rfl⟩

end Session

end PipelineCache

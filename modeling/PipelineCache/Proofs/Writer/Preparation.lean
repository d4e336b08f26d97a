import PipelineCache.Proofs.Writer.Deduplication

/-! Whether there is a header in front of what is appended. Loading leaves a header at the front of the
file if it keeps the file or succeeds in writing a fresh one, and then every record is appended behind
it. If a fresh header cannot be written, this is only said; the file is opened for appending all the
same, and what is appended to it is lost to the next load. -/

namespace PipelineCache

namespace Source

variable {source : Source} {contents : Contents} {bytes : Bytes}

theorem headed_of_readCache (read : source.readCache = .ok contents) :
    Header.current.toBytes <+: source.bytes ∧ contents.start = Header.size := by
  by_cases enough : Header.size ≤ source.bytes.length
  · by_cases current : Header.codec.decode (source.bytes.take Header.size) = .current
    · have whole : Header.codec.size ≤ (source.bytes.take Header.size).length := by
        rw [List.length_take]
        exact Nat.le_min.mpr ⟨Nat.le_refl _, enough⟩
      have written := Header.lawful_codec.encode_decode _ whole
      rw [current, List.take_take] at written
      refine ⟨?_, ?_⟩
      · rw [Header.toBytes, written]
        exact List.take_prefix _ _
      · simp only [readCache, readHeader, Source.read, if_pos enough, bind, Except.bind, pure,
          Except.pure, mapError_ok, current, Header.check_current] at read
        cases read
        rfl
    · simp [readCache, readHeader, Source.read, enough, bind, Except.bind, pure, Except.pure,
        mapError_ok, Header.check, current] at read
  · simp [readCache, readHeader, Source.read, enough, bind, Except.bind, mapError_error] at read

/-- Behind a header of this build whole records are read, of whatever content. -/
theorem readCache_header_append (rest : Bytes) (failure : Option IoError) :
    readCache ⟨Header.current.toBytes ++ rest, failure⟩ =
      .ok { start := Header.size, records := (Record.whole rest).map Record.decode? } := by
  have header := Header.length_toBytes .current
  have enough : Header.size ≤ (Header.current.toBytes ++ rest).length := by
    rw [List.length_append, header]
    exact Nat.le_add_right _ _
  have decoded := Header.lawful_codec.decode_encode .current []
  rw [List.append_nil] at decoded
  have current : Header.codec.decode ((Header.current.toBytes ++ rest).take Header.size) = .current := by
    rw [List.take_left' header]
    exact decoded
  simp only [readCache, readHeader, Source.read, if_pos enough, bind, Except.bind, pure, Except.pure,
    mapError_ok, current, Header.check_current, readRecords, List.drop_left' header]

theorem readCache_of_headed (headed : Header.current.toBytes <+: bytes) :
    ∃ contents, readCache { bytes := bytes } = .ok contents := by
  obtain ⟨rest, rfl⟩ := headed
  exact ⟨_, readCache_header_append rest none⟩

end Source

namespace Disk

variable {disk fresh : Disk} {contents : Contents} {path : String} {content : Bytes} {handle : Handle}

/-- Loading keeps the file that it reads, or succeeds in replacing it by a fresh one. -/
def Prepared (disk : Disk) (path : String) : Prop :=
  match disk.readCache with
  | .ok contents => (disk.trim path contents.endOffset).value = .ok () ∨
      (disk.trim path contents.endOffset).disk.startAfresh.1 = .ok ()
  | .error _ => disk.startAfresh.1 = .ok ()

/-- A regular file that starts with a header of this build stands at the path. -/
def Headed (disk : Disk) : Prop :=
  ∃ content, disk.node = .file content ∧ Header.current.toBytes <+: content

/-- What was read are the records at the front of a file with a header of this build. -/
theorem exists_of_readCache (read : disk.readCache = .ok contents) : ∃ front rest : Bytes,
    disk.node = .file (Header.current.toBytes ++ (front ++ rest)) ∧
      contents = { start := Header.size, records := (Record.whole front).map Record.decode? } := by
  cases opened : disk.openForReading with
  | error error => simp [readCache, opened, mapError_error, bind, Except.bind] at read
  | ok source =>
      have sourced : source.readCache = .ok contents := by
        simpa [readCache, opened, mapError_ok, bind, Except.bind] using read
      have headed := (Source.headed_of_readCache sourced).1
      have inside : ∃ content, disk.node = .file content ∧ source.bytes <+: content := by
        unfold openForReading at opened
        split at opened
        · cases opened
        · split at opened
          · cases opened
          · rename_i content present
            cases opened
            refine ⟨content, present, ?_⟩
            unfold Disk.source
            split
            · exact List.prefix_rfl
            · exact List.take_prefix _ _
          · cases opened
            exact absurd headed (by decide)
          · cases opened
          · cases opened
            exact absurd headed (by decide)
      obtain ⟨content, present, rest, rfl⟩ := inside
      obtain ⟨bytes, failure⟩ := source
      obtain ⟨front, rfl⟩ := headed
      have whole := Source.readCache_header_append front failure
      refine ⟨front, rest, ?_, Except.ok.inj (sourced.symm.trans whole)⟩
      rw [present, List.append_assoc]

theorem headed_of_readCache (read : disk.readCache = .ok contents) :
    disk.Headed ∧ contents.start = Header.size := by
  obtain ⟨front, rest, present, rfl⟩ := exists_of_readCache read
  exact ⟨⟨_, present, List.prefix_append _ _⟩, rfl⟩

theorem headed_trim (read : disk.readCache = .ok contents)
    (trimmed : (disk.trim path contents.endOffset).value = .ok ()) :
    (disk.trim path contents.endOffset).disk.Headed := by
  obtain ⟨⟨content, present, headed⟩, start⟩ := headed_of_readCache read
  have behind : Header.current.toBytes.length ≤ contents.endOffset := by
    rw [Header.length_toBytes, Contents.endOffset, start]
    exact Nat.le_add_right _ _
  simp only [trim, length, present] at trimmed ⊢
  split at trimmed
  · rename_i shorter
    rw [if_pos shorter]
    cases faulty : disk.faults.trimming with
    | some error =>
        simp only [truncate, faulty] at trimmed
        cases trimmed
    | none =>
        simp only [truncate, faulty, present]
        refine ⟨_, rfl, ?_⟩
        rw [Bytes.resize]
        exact (List.prefix_take_iff.mpr ⟨headed, behind⟩).trans (List.prefix_append _ _)
  · rename_i whole
    rw [if_neg whole]
    exact ⟨content, present, headed⟩

theorem node_create (created : disk.create = .ok fresh) : fresh.node = .file [] ∨ fresh.node = .full := by
  unfold create at created
  split at created
  · cases created
  · split at created
    · cases created
      exact Or.inl rfl
    · split at created
      · cases created
        exact Or.inl rfl
      · cases created
    · cases created
    · cases created
    · rename_i full
      cases created
      exact Or.inr full

theorem node_startAfresh (begun : disk.startAfresh.1 = .ok ()) :
    disk.startAfresh.2.node = .file Header.current.toBytes := by
  rcases made : disk.makeParents with ⟨error | _, ready⟩
  · simp only [startAfresh, made] at begun
    cases begun
  · cases created : ready.create with
    | error error =>
        simp only [startAfresh, made, created] at begun
        cases begun
    | ok fresh =>
        have openable : fresh.IsOpenable := by
          rcases node_create created with empty | full
          · exact Or.inr ⟨[], empty⟩
          · exact Or.inl full
        have written := append_eq_grown openable Header.current.toBytes
        simp only [startAfresh, made, created, written] at begun ⊢
        cases fate : fresh.fate 0 with
        | some failure =>
            rw [fate] at begun
            cases begun
        | none =>
            rcases node_create created with empty | full
            · simp [grown, empty, Fate.through]
            · simp [Disk.fate, full] at fate

theorem headed_startAfresh (begun : disk.startAfresh.1 = .ok ()) : disk.startAfresh.2.Headed :=
  ⟨_, node_startAfresh begun, List.prefix_rfl⟩

/-- A file that was prepared has a header in front. -/
theorem headed_load (prepared : disk.Prepared path) : (disk.load path).disk.Headed := by
  unfold Prepared at prepared
  cases read : disk.readCache with
  | ok contents =>
      rw [read] at prepared
      cases trimmed : (disk.trim path contents.endOffset).value with
      | ok _ =>
          have headed := headed_trim read trimmed
          simpa only [load, read, trimmed] using headed
      | error error =>
          have fresh := prepared.resolve_left fun kept => by
            rw [trimmed] at kept
            cases kept
          simp only [load, read, trimmed, (loadEmpty_eq ..).2]
          exact headed_startAfresh fresh
  | error error =>
      rw [read] at prepared
      simp only [load, read, (loadEmpty_eq ..).2]
      exact headed_startAfresh prepared

end Disk

namespace Logging

variable {setup : Setup} {config : CacheConfig} {disk : Disk} {path : String} {handle : Handle}
  {logging : Logging} {moves : List Move}

/-- If loading keeps the file or succeeds in replacing it, a header stands in front of all records at
every moment, and the next load reads them. -/
theorem appends_behind_header (chosen : setup.cache = some config) (named : config.filePath = some path)
    (opened : (Cache.start config disk).value.writer.log = some handle)
    (prepared : disk.Prepared path)
    (ran : run? { engine := (Engine.start setup disk).engine } moves = some logging) :
    ∃ content, logging.engine.disk.content? = some content ∧
      Header.current.toBytes <+: content ∧
      ∃ contents, Source.readCache { bytes := content } = .ok contents := by
  obtain ⟨openable, logged⟩ := logged_start chosen opened
  obtain ⟨account, logged⟩ := logged_run openable logged ran
  obtain ⟨other, also, writes, file⟩ := Cache.opened_start opened
  obtain rfl : path = other := Option.some.inj (named.symm.trans also)
  obtain ⟨content, present, headed⟩ := Disk.headed_load prepared
  rw [← (Cache.start_eq named writes file).1] at present
  have loaded : (Cache.start config disk).disk.content? = some content := by
    rw [Disk.content?, present]
  obtain ⟨torn, grown, _⟩ := logged.persisted.content_eq loaded
  obtain ⟨_, _, _, _, _, _, _, _, _, _, left⟩ := Engine.writerSide?_eq_some_iff.mp logged.side
  have longer := headed.trans (List.prefix_append content
    (((added (Cache.start config disk).value.writer.known account.handled).take
      account.written).flatMap Record.encode ++ torn))
  rw [left]
  exact ⟨_, grown, longer, Source.readCache_of_headed longer⟩

/-- The file is missing at first, and one record is appended to it. -/
def firstRecord : List Move :=
  [.elsewhere (populated (Engine.start (setupAt "cache") {}).engine), .submit ⟨0, 0⟩, .turn, .turn]

theorem appends_behind_header_firstRecord : ∃ logging cache content,
    run? { engine := (Engine.start (setupAt "cache") {}).engine } firstRecord = some logging ∧
    logging.engine.cache = some cache ∧ cache.stats.recordsWritten = 1 ∧
    logging.engine.disk.content? = some content ∧ Header.current.toBytes <+: content := by
  have opened : (Cache.start { filePath := some "cache" } {}).value.writer.log = some ⟨0⟩ := by
    decide
  have ran : ∃ logging cache,
      run? { engine := (Engine.start (setupAt "cache") {}).engine } firstRecord = some logging ∧
      logging.engine.cache = some cache ∧ cache.stats.recordsWritten = 1 :=
    ⟨_, _, rfl, rfl, by decide +kernel⟩
  obtain ⟨logging, cache, ran, found, written⟩ := ran
  have fresh : (Disk.startAfresh {}).1 = .ok () := rfl
  have prepared : Disk.Prepared {} "cache" := fresh
  obtain ⟨content, present, headed, _⟩ := appends_behind_header rfl rfl opened prepared ran
  exact ⟨logging, cache, content, ran, found, written, present, headed⟩

/-- The next step of the writer appends a record where no header of this build stands in front. -/
def AppendsHeadless (logging : Logging) : Prop :=
  ∃ cache handle job key, logging.engine.cache = some cache ∧
    cache.writerPosition = .handling job ∧ logging.engine.keyOf? job = some key ∧
    key ∉ cache.writer.known ∧ cache.writer.log = some handle ∧ ¬ logging.engine.disk.Headed

/-- A file of another build can be appended to, but not replaced. -/
def unreplaceable : Disk :=
  { node := .file (Bytes.zeros Header.size)
    faults := { creating := some (.system .permissionDenied) } }

theorem readCache_zeros (rest : Bytes) :
    Source.readCache { bytes := Bytes.zeros Header.size ++ rest } =
      .error (.layoutMismatch ⟨0, 0⟩ .current) := by
  have length : (Bytes.zeros Header.size).length = Header.size := Bytes.length_zeros _
  have enough : Header.size ≤ (Bytes.zeros Header.size ++ rest).length := by
    rw [List.length_append, length]
    exact Nat.le_add_right _ _
  have decoded : Header.codec.decode (Bytes.zeros Header.size) = ⟨0, 0⟩ := by decide
  have foreign : Header.check ⟨0, 0⟩ = .error (.layoutMismatch ⟨0, 0⟩ .current) := by decide
  simp only [Source.readCache, Source.readHeader, Source.read, if_pos enough, bind, Except.bind, pure,
    Except.pure, mapError_ok, List.take_left' length, decoded, foreign]

def oneSubmission (engine : Engine) : List Move :=
  [.elsewhere (populated engine), .submit ⟨0, 0⟩, .turn]

/-- A file of another build that cannot be replaced is appended to, and the record that was counted is
lost; and the device without room, where no header can be written, is appended to as well. -/
theorem headless_appends :
    (∃ logging later cache content,
      run? { engine := (Engine.start (setupAt "cache") unreplaceable).engine }
        (oneSubmission (Engine.start (setupAt "cache") unreplaceable).engine) = some logging ∧
      AppendsHeadless logging ∧ later = logging.turn ∧ later.engine.cache = some cache ∧
      cache.stats.recordsWritten = 1 ∧ later.engine.disk.content? = some content ∧
      Source.readCache { bytes := content } = .error (.layoutMismatch ⟨0, 0⟩ .current)) ∧
    ∃ logging,
      run? { engine := (Engine.start (setupAt "/dev/full") (.atPath "/dev/full")).engine }
        (oneSubmission (Engine.start (setupAt "/dev/full") (.atPath "/dev/full")).engine) =
          some logging ∧
      AppendsHeadless logging := by
  refine ⟨⟨_, _, _, _, rfl, ⟨_, _, _, _, rfl, rfl, rfl, by decide, rfl, ?_⟩, rfl, rfl,
    by decide +kernel, rfl, readCache_zeros _⟩,
    ⟨_, rfl, _, _, _, _, rfl, rfl, rfl, by decide, rfl, ?_⟩⟩
  · rintro ⟨content, present, headed⟩
    cases present
    exact absurd headed (by decide)
  · rintro ⟨content, present, headed⟩
    cases present

end Logging

end PipelineCache

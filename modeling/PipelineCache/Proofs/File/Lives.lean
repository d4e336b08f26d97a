import PipelineCache.Engine.Start
import PipelineCache.Engine.Worker
import PipelineCache.Proofs.File.Recovery
import PipelineCache.Proofs.Run

/-! One cache file over the lives of many processes. Each process loads the file and then appends the
keys that it is given; it may end at any moment, also within a header or within a record, and an append
may fail within a record. What stands in the file at every moment is known: nothing, the beginning of a
header, or a header, whole records and at most the beginning of one more. Each process finds exactly the
keys whose records were written in full. -/

namespace PipelineCache

structure Lives where
  path : String
  /-- The process that runs, or, where there is no cache, what is left after the last one. -/
  engine : Engine
  /-- The keys whose records got into the file in full, in their order. -/
  completed : List PipelineKey := []

namespace Lives

/-- One thing that may happen next. -/
inductive Move
  /-- A process starts, loads the file and opens it for new records. -/
  | start (prewarm : Bool)
  /-- A process starts, and ends once so many bytes of a fresh header are written, or, if the file
  needs none, once it is loaded. -/
  | abort (prewarm : Bool) (written : Nat)
  /-- The writer is given a key. -/
  | submit (key : PipelineKey) (fate : Fate)
  /-- The writer is given a key, and the process ends once so many bytes of its record are written,
  or, if the key is not written, once that is clear. -/
  | abandon (key : PipelineKey) (written : Nat)
  /-- The process ends. -/
  | die

/-- The first process has yet to start. -/
def origin (path : String) (disk : Disk) : Lives := { path := path, engine := { disk := disk } }

def node (lives : Lives) : Node := lives.engine.disk.node

def config (lives : Lives) (prewarm : Bool) : CacheConfig :=
  { filePath := some lives.path, enablePrewarm := prewarm }

/-- The write of a process that ends after some bytes; nobody sees the error. -/
def cut (written : Nat) : Fate := some (written, .shortRead)

/-- A process starts, with a fate for the header that it may write. -/
def launch (lives : Lives) (prewarm : Bool) (fate : Fate) : Lives :=
  let engine :=
    (Engine.start { cache := some (lives.config prewarm) } (lives.engine.disk.awaiting fate)).engine
  { lives with engine := { engine with disk := engine.disk.calm } }

/-- Whether the record of a key is appended, and gets into the file in full. -/
def completes (cache : Cache) (key : PipelineKey) (fate : Fate) : Bool :=
  cache.writer.log.isSome && key ∉ cache.writer.known &&
    fate.all fun failure => Record.size ≤ failure.1

/-- The writer is given a key, with a fate for the record that it may write. -/
def give (lives : Lives) (cache : Cache) (key : PipelineKey) (fate : Fate) : Lives :=
  let ready : Engine := { lives.engine with disk := lives.engine.disk.awaiting fate }
  let engine := (ready.recordKey cache key).engine
  { lives with
    engine := { engine with disk := engine.disk.calm }
    completed := if completes cache key fate then lives.completed ++ [key] else lives.completed }

def die (lives : Lives) : Lives := { lives with engine := { disk := lives.engine.disk } }

def move? (lives : Lives) : Move → Option Lives
  | .start prewarm =>
      match lives.engine.cache with
      | none => some (lives.launch prewarm none)
      | some _ => none
  | .abort prewarm written =>
      match lives.engine.cache with
      | none => some (lives.launch prewarm (cut written)).die
      | some _ => none
  | .submit key fate => lives.engine.cache.map fun cache => lives.give cache key fate
  | .abandon key written =>
      lives.engine.cache.map fun cache => (lives.give cache key (cut written)).die
  | .die => lives.engine.cache.map fun _ => lives.die

abbrev run? (lives : Lives) (moves : List Move) : Option Lives := Run.final? move? lives moves

/-- What may stand at the path, where some keys were written in full. -/
inductive Form (completed : List PipelineKey) : Node → Prop
  | missing (unwritten : completed = []) : Form completed .missing
  /-- A header that was not finished. -/
  | header (bytes : Bytes) (beginning : bytes <+: Header.current.toBytes)
      (short : bytes.length < Header.size) (unwritten : completed = []) :
      Form completed (.file bytes)
  /-- A header, whole records, and the beginning of one more. -/
  | records (torn : Bytes) (key : PipelineKey) (beginning : torn <+: Record.encode key)
      (short : torn.length < Record.size) : Form completed (.file (Record.file completed ++ torn))

/-- The file has its form, and a process that still writes stands at the end of its whole records and
knows all of them. -/
structure Kept (lives : Lives) : Prop where
  works : lives.engine.disk.Works
  nodup : lives.completed.Nodup
  form : Form lives.completed lives.node
  aligned : ∀ cache handle, lives.engine.cache = some cache → cache.writer.log = some handle →
    handle = ⟨lives.engine.disk.generation⟩ ∧ lives.node = .file (Record.file lives.completed) ∧
      cache.writer.known = lives.completed

variable {lives next start : Lives} {cache : Cache} {handle : Handle} {key : PipelineKey}
  {fate : Fate} {prewarm : Bool} {move : Move} {moves : List Move}

/-- The moves that are possible, and what they lead to. -/
inductive Moved (lives : Lives) : Move → Lives → Prop
  | start (prewarm : Bool) (resting : lives.engine.cache = none) :
      Moved lives (.start prewarm) (lives.launch prewarm none)
  | abort (prewarm : Bool) (written : Nat) (resting : lives.engine.cache = none) :
      Moved lives (.abort prewarm written) (lives.launch prewarm (cut written)).die
  | submit (cache : Cache) (key : PipelineKey) (fate : Fate)
      (runs : lives.engine.cache = some cache) :
      Moved lives (.submit key fate) (lives.give cache key fate)
  | abandon (cache : Cache) (key : PipelineKey) (written : Nat)
      (runs : lives.engine.cache = some cache) :
      Moved lives (.abandon key written) (lives.give cache key (cut written)).die
  | die (cache : Cache) (runs : lives.engine.cache = some cache) : Moved lives .die lives.die

theorem moved_of_move? (moved : lives.move? move = some next) : Moved lives move next := by
  cases move with
  | start prewarm =>
      simp only [move?] at moved
      split at moved
      · rename_i resting
        cases moved
        exact .start prewarm resting
      · cases moved
  | abort prewarm written =>
      simp only [move?] at moved
      split at moved
      · rename_i resting
        cases moved
        exact .abort prewarm written resting
      · cases moved
  | submit key fate =>
      obtain ⟨cache, runs, rfl⟩ := Option.map_eq_some_iff.mp moved
      exact .submit cache key fate runs
  | abandon key written =>
      obtain ⟨cache, runs, rfl⟩ := Option.map_eq_some_iff.mp moved
      exact .abandon cache key written runs
  | die =>
      obtain ⟨cache, runs, rfl⟩ := Option.map_eq_some_iff.mp moved
      exact .die cache runs

theorem form_file (completed : List PipelineKey) :
    Form completed (.file (Record.file completed)) := by
  have whole : Form completed (.file (Record.file completed ++ [])) :=
    .records [] (PipelineKey.codec.decode []) List.nil_prefix Record.size_pos
  rwa [List.append_nil] at whole

theorem Form.short {completed : List PipelineKey} {torn : Bytes}
    (form : Form completed (.file (Record.file completed ++ torn))) : torn.length < Record.size := by
  generalize content : Node.file (Record.file completed ++ torn) = node at form
  cases form with
  | missing _ => cases content
  | header bytes _ short _ =>
      obtain rfl := Node.file.inj content
      simp only [Record.file, List.length_append, Header.length_toBytes] at short
      omega
  | records rest key _ short =>
      obtain rfl := List.append_cancel_left (Node.file.inj content)
      exact short

/-! ### A process starts -/

/-- Loading the file gives the keys that were written in full; what is in the file afterwards is
again in form, and whole if no write fails. -/
structure Loaded (completed : List PipelineKey) (disk : Disk) (fate : Fate)
    (outcome : Outcome Contents) : Prop where
  keys : outcome.value.keys = completed
  skipped : outcome.value.skipped = 0
  opened : outcome.disk.openForAppend = .ok ⟨disk.generation⟩
  left : ∃ vacancy content, outcome.disk.calm =
    { disk with node := .file content, vacancy := vacancy, faults := {} } ∧
    Form completed (.file content) ∧ (fate = none → content = Record.file completed)

theorem form_through (fate : Fate) : Form [] (.file (fate.through Header.current.toBytes)) := by
  have whole := form_file []
  rw [Record.file_nil] at whole
  cases fate with
  | none => exact whole
  | some failure =>
      obtain ⟨written, error⟩ := failure
      have length := Header.length_toBytes .current
      show Form [] (.file (Header.current.toBytes.take written))
      by_cases inside : written < Header.size
      · refine .header _ (List.take_prefix _ _) ?_ rfl
        rw [List.length_take]
        omega
      · rwa [List.take_of_length_le (by omega)]

theorem loaded_of_form {completed : List PipelineKey} {disk : Disk} (works : disk.Works)
    (form : Form completed disk.node) (fate : Fate) (path : String) :
    Loaded completed disk fate ((disk.awaiting fate).load path) := by
  -- A missing file and one that ends within its header are both started afresh.
  have fresh (unwritten : completed = []) (short : disk.node = .missing ∨
      ∃ bytes, disk.node = .file bytes ∧ bytes.length < Header.size) :
      Loaded completed disk fate ((disk.awaiting fate).load path) := by
    subst unwritten
    obtain ⟨empty, vacancy, written⟩ := Disk.load_short works short fate path
    refine ⟨by rw [empty]; rfl, by rw [empty]; rfl, by rw [written]; rfl, vacancy, _,
      by rw [written]; rfl, form_through fate, fun succeeds => ?_⟩
    subst succeeds
    exact Record.file_nil.symm
  generalize present : disk.node = node at form
  cases form with
  | missing unwritten => exact fresh unwritten (Or.inl present)
  | header bytes _ short unwritten => exact fresh unwritten (Or.inr ⟨bytes, present, short⟩)
  | records torn key beginning short =>
      obtain ⟨loaded, trimmed⟩ := Disk.load_file present short fate path
      refine ⟨?_, ?_, by rw [trimmed]; rfl, disk.vacancy, _, by rw [trimmed]; rfl,
        form_file completed, fun _ => rfl⟩
      · rw [loaded, Contents.keys_ofKeys]
      · rw [loaded, Contents.skipped_ofKeys]

theorem Loaded.works {completed : List PipelineKey} {disk : Disk} {outcome : Outcome Contents}
    (loaded : Loaded completed disk fate outcome) (works : disk.Works) :
    outcome.disk.calm.Works := by
  obtain ⟨vacancy, content, left, _, _⟩ := loaded.left
  rw [left]
  exact ⟨rfl, works.isFile, works.made, works.creatable⟩

theorem disk_launch (lives : Lives) (prewarm : Bool) (fate : Fate) :
    (lives.launch prewarm fate).engine.disk =
      ((lives.engine.disk.awaiting fate).load lives.path).disk.calm := rfl

theorem Kept.loaded (kept : lives.Kept) (fate : Fate) :
    Loaded lives.completed lives.engine.disk fate
      ((lives.engine.disk.awaiting fate).load lives.path) :=
  loaded_of_form kept.works kept.form fate lives.path

/-- The process that has started knows exactly the keys that were written in full, and writes on. -/
theorem Kept.launched (kept : lives.Kept) (prewarm : Bool) (fate : Fate) :
    ∃ cache, (lives.launch prewarm fate).engine.cache = some cache ∧
      cache.writer.log = some ⟨lives.engine.disk.generation⟩ ∧
      cache.writer.known = lives.completed ∧
      cache.stats.entriesLoaded = lives.completed.length ∧ cache.stats.recordsSkipped = 0 := by
  have loaded := kept.loaded fate
  have named : (lives.config prewarm).filePath = some lives.path := rfl
  obtain ⟨_, log, known, count, skipped⟩ := Cache.start_eq named rfl loaded.opened
  rw [loaded.keys, Cache.distinct_eq_self kept.nodup] at known count
  exact ⟨_, rfl, log, known, count, skipped.trans loaded.skipped⟩

theorem Kept.launch (kept : lives.Kept) (prewarm : Bool) :
    (lives.launch prewarm none).Kept := by
  have loaded := kept.loaded none
  obtain ⟨vacancy, content, left, form, whole⟩ := loaded.left
  obtain ⟨cache, runs, log, known, _⟩ := kept.launched prewarm none
  have disk := (disk_launch lives prewarm none).trans left
  refine ⟨?_, kept.nodup, ?_, fun other handle found held => ?_⟩
  · rw [disk_launch]
    exact loaded.works kept.works
  · rw [node, disk]
    exact form
  · obtain rfl : cache = other := Option.some.inj (runs.symm.trans found)
    obtain rfl := Option.some.inj (log.symm.trans held)
    rw [node, disk, whole rfl]
    exact ⟨rfl, rfl, known⟩

theorem Kept.die (kept : lives.Kept) : lives.die.Kept :=
  ⟨kept.works, kept.nodup, kept.form, fun _ _ runs => nomatch runs⟩

theorem Kept.abort (kept : lives.Kept) (prewarm : Bool) (fate : Fate) :
    (lives.launch prewarm fate).die.Kept := by
  have loaded := kept.loaded fate
  obtain ⟨vacancy, content, left, form, _⟩ := loaded.left
  have disk := (disk_launch lives prewarm fate).trans left
  refine ⟨?_, kept.nodup, ?_, fun _ _ runs => nomatch runs⟩
  · show (lives.launch prewarm fate).engine.disk.Works
    rw [disk_launch]
    exact loaded.works kept.works
  · show Form lives.completed (lives.launch prewarm fate).engine.disk.node
    rw [disk]
    exact form

/-! ### The writer is given a key -/

/-- What becomes of the file when the writer is given a key: nothing, or the key is new and its
record is appended to whole records, as far as it gets through. -/
inductive Given (lives : Lives) (key : PipelineKey) (fate : Fate) (next : Lives) : Prop
  | spared (disk : next.engine.disk = lives.engine.disk)
      (completed : next.completed = lives.completed)
      (writer : ∀ cache handle, next.engine.cache = some cache → cache.writer.log = some handle →
        ∃ before, lives.engine.cache = some before ∧ before.writer = cache.writer)
  | appended (whole : lives.node = .file (Record.file lives.completed))
      (fresh : key ∉ lives.completed)
      (disk : next.engine.disk = { lives.engine.disk with
        node := .file (Record.file lives.completed ++ fate.through (Record.encode key)) })
      (completed : next.completed =
        if fate.all fun failure => Record.size ≤ failure.1 then lives.completed ++ [key]
        else lives.completed)
      (writer : ∀ cache handle, next.engine.cache = some cache → cache.writer.log = some handle →
        fate = none ∧ handle = ⟨lives.engine.disk.generation⟩ ∧
          cache.writer.known = lives.completed ++ [key])

theorem disk_give (lives : Lives) (cache : Cache) (key : PipelineKey) (fate : Fate) :
    (lives.give cache key fate).engine.disk =
      (cache.writer.record (lives.engine.disk.awaiting fate) key).2.disk.calm := rfl

theorem writer_give {after : Cache} (found : (lives.give cache key fate).engine.cache = some after) :
    after.writer = (cache.writer.record (lives.engine.disk.awaiting fate) key).1 := by
  cases found
  rfl

theorem completed_give (lives : Lives) (cache : Cache) (key : PipelineKey) (fate : Fate) :
    (lives.give cache key fate).completed =
      if completes cache key fate then lives.completed ++ [key] else lives.completed := rfl

/-- A known key, or any key when the file is closed, leaves the file alone. -/
theorem spared_give (kept : lives.Kept) (runs : lives.engine.cache = some cache)
    (spared : key ∈ cache.writer.known ∨ cache.writer.log = none) :
    Given lives key fate (lives.give cache key fate) := by
  have same : (lives.engine.disk.awaiting fate).calm = lives.engine.disk := by
    rw [Disk.calm, Disk.awaiting, ← kept.works.calm]
  have incomplete : completes cache key fate = false := by
    rcases spared with old | closed
    · simp [completes, old]
    · simp [completes, closed]
  have recorded : (cache.writer.record (lives.engine.disk.awaiting fate) key).2.disk =
      lives.engine.disk.awaiting fate ∧
      ∀ handle, (cache.writer.record (lives.engine.disk.awaiting fate) key).1.log = some handle →
        (cache.writer.record (lives.engine.disk.awaiting fate) key).1 = cache.writer := by
    unfold Writer.record
    split
    · exact ⟨rfl, fun _ _ => rfl⟩
    · rename_i fresh
      have closed := spared.resolve_left fresh
      simp only [Writer.persist, closed]
      refine ⟨trivial, fun handle held => ?_⟩
      cases held
  refine .spared ?_ ?_ fun after handle found held => ?_
  · rw [disk_give, recorded.1, same]
  · rw [completed_give, incomplete]
    rfl
  · rw [writer_give found] at held ⊢
    exact ⟨cache, runs, (recorded.2 handle held).symm⟩

/-- A new key is appended behind whole records, and if that fails, the file is closed. -/
theorem appended_give (kept : lives.Kept) (runs : lives.engine.cache = some cache)
    (fresh : key ∉ cache.writer.known) (log : cache.writer.log = some handle) :
    Given lives key fate (lives.give cache key fate) := by
  obtain ⟨rfl, whole, known⟩ := kept.aligned cache handle runs log
  have complete : completes cache key fate =
      fate.all fun failure => decide (Record.size ≤ failure.1) := by
    simp [completes, log, fresh]
  have written := Disk.append_awaiting whole fate (Record.encode key)
  have recorded : (cache.writer.record (lives.engine.disk.awaiting fate) key).2.disk =
      { lives.engine.disk with
        node := .file (Record.file lives.completed ++ fate.through (Record.encode key))
        faults := {} } ∧
      (cache.writer.record (lives.engine.disk.awaiting fate) key).1 =
        { cache.writer with
          known := cache.writer.known ++ [key]
          log := if fate = none then cache.writer.log else none } := by
    rw [Writer.record, if_neg fresh, Writer.persist, log]
    simp only [Disk.appendRecord, written]
    cases fate with
    | none => exact ⟨rfl, by simp [log]⟩
    | some failure => exact ⟨rfl, rfl⟩
  refine .appended whole (known ▸ fresh) ?_ ?_ fun after handle found held => ?_
  · rw [disk_give, recorded.1]
    simp [Disk.calm, kept.works.calm]
  · rw [completed_give, complete]
  · have extended : after.writer.known = lives.completed ++ [key] := by
      rw [writer_give found, recorded.2, known]
    rw [writer_give found, recorded.2, log] at held
    obtain ⟨succeeds, same⟩ := Option.ite_none_right_eq_some.mp held
    exact ⟨succeeds, (Option.some.inj same).symm, extended⟩

theorem given_give (kept : lives.Kept) (runs : lives.engine.cache = some cache) (key : PipelineKey)
    (fate : Fate) : Given lives key fate (lives.give cache key fate) := by
  by_cases old : key ∈ cache.writer.known
  · exact spared_give kept runs (Or.inl old)
  · cases log : cache.writer.log with
    | none => exact spared_give kept runs (Or.inr log)
    | some handle => exact appended_give kept runs old log

theorem form_appended (completed : List PipelineKey) (key : PipelineKey) (fate : Fate) :
    Form (if fate.all fun failure => Record.size ≤ failure.1 then completed ++ [key] else completed)
      (.file (Record.file completed ++ fate.through (Record.encode key))) := by
  have whole := form_file (completed ++ [key])
  rw [Record.file_append] at whole
  cases fate with
  | none => exact whole
  | some failure =>
      obtain ⟨written, error⟩ := failure
      have length := Record.length_encode key
      simp only [Option.all_some, decide_eq_true_eq, Fate.through]
      split
      · rwa [List.take_of_length_le (by omega)]
      · refine .records _ key (List.take_prefix _ _) ?_
        rw [List.length_take]
        omega

theorem kept_given (kept : lives.Kept) (given : Given lives key fate next) : next.Kept := by
  cases given with
  | spared disk completed writer =>
      refine ⟨disk ▸ kept.works, completed ▸ kept.nodup, ?_, fun cache handle runs log => ?_⟩
      · rw [node, disk, completed]
        exact kept.form
      · obtain ⟨before, ran, same⟩ := writer cache handle runs log
        rw [node, disk, completed, ← same]
        exact kept.aligned before handle ran (same ▸ log)
  | appended whole fresh disk completed writer =>
      have form := form_appended lives.completed key fate
      rw [← completed] at form
      refine ⟨?_, ?_, ?_, fun cache handle runs log => ?_⟩
      · rw [disk]
        exact ⟨kept.works.calm, kept.works.isFile, kept.works.made, kept.works.creatable⟩
      · rw [completed]
        split
        · refine List.nodup_append.mpr ⟨kept.nodup, List.pairwise_singleton _ _, ?_⟩
          intro old member other only same
          rw [same, List.mem_singleton.mp only] at member
          exact fresh member
        · exact kept.nodup
      · rw [node, disk]
        exact form
      · obtain ⟨rfl, rfl, known⟩ := writer cache handle runs log
        rw [known, node, disk, completed]
        refine ⟨rfl, ?_, rfl⟩
        show Node.file (Record.file lives.completed ++ Record.encode key) = _
        rw [← Record.file_append]
        rfl

/-! ### All lives -/

theorem kept_origin {disk : Disk} (path : String) (works : disk.Works)
    (missing : disk.node = .missing) : (origin path disk).Kept := by
  refine ⟨works, List.nodup_nil, ?_, fun _ _ runs => nomatch runs⟩
  show Form [] disk.node
  rw [missing]
  exact .missing rfl

theorem kept_moved (kept : lives.Kept) (moved : Moved lives move next) : next.Kept := by
  cases moved with
  | start prewarm _ => exact kept.launch prewarm
  | abort prewarm written _ => exact kept.abort prewarm (cut written)
  | submit cache key fate runs => exact kept_given kept (given_give kept runs key fate)
  | abandon cache key written runs =>
      exact (kept_given kept (given_give kept runs key (cut written))).die
  | die cache runs => exact kept.die

theorem kept_run (kept : start.Kept) (ran : start.run? moves = some lives) : lives.Kept :=
  Run.kept (fun _ _ _ kept moved => kept_moved kept (moved_of_move? moved)) kept ran

/-- Behind the beginning of a record nothing is ever written; the next process cuts it off. -/
theorem torn_moved (kept : lives.Kept) (moved : Moved lives move next) {torn : Bytes}
    (present : lives.node = .file (Record.file lives.completed ++ torn)) (broken : torn ≠ []) :
    next.node = lives.node ∨ next.node = .file (Record.file lives.completed) := by
  have short : torn.length < Record.size := by
    have form := kept.form
    rw [present] at form
    exact form.short
  have launched (prewarm : Bool) (fate : Fate) :
      (lives.launch prewarm fate).node = .file (Record.file lives.completed) := by
    rw [node, disk_launch, (Disk.load_file present short fate lives.path).2]
    rfl
  have given {fate : Fate} {key : PipelineKey} {after : Lives} (given : Given lives key fate after) :
      after.node = lives.node := by
    cases given with
    | spared disk _ _ => rw [node, disk, node]
    | appended whole _ _ _ _ =>
        -- A record is appended to whole records only, and these are not.
        have nothing := Node.file.inj (present.symm.trans whole)
        exact absurd (List.append_right_eq_self.mp nothing) broken
  cases moved with
  | start prewarm _ => exact Or.inr (launched prewarm none)
  | abort prewarm written _ => exact Or.inr (launched prewarm (cut written))
  | submit cache key fate runs => exact Or.inl (given (given_give kept runs key fate))
  | abandon cache key written runs =>
      have same := given (given_give kept runs key (cut written))
      exact Or.inl same
  | die cache runs => exact Or.inl rfl

/-- Over all lives, at every moment nothing stands at the path, or the beginning of a header, or a
header, the records of the keys that were written in full, and at most the beginning of one more.
Nothing is ever written behind such a beginning. No key is written in full twice, and each process
that starts loads exactly the keys that were, in their order, and skips nothing. -/
theorem crash_durability {path : String} {disk : Disk} (works : disk.Works)
    (missing : disk.node = .missing) (ran : (origin path disk).run? moves = some lives) :
    Form lives.completed lives.node ∧
    (∀ move next torn, lives.move? move = some next →
      lives.node = .file (Record.file lives.completed ++ torn) → torn ≠ [] →
      next.node = lives.node ∨ next.node = .file (Record.file lives.completed)) ∧
    lives.completed.Nodup ∧
    (lives.engine.cache = none → ∀ prewarm, ∃ cache,
      lives.move? (.start prewarm) = some (lives.launch prewarm none) ∧
      (lives.launch prewarm none).engine.cache = some cache ∧
      ((lives.engine.disk.awaiting none).load lives.path).value.keys = lives.completed ∧
      cache.writer.known = lives.completed ∧
      cache.stats.entriesLoaded = lives.completed.length ∧
      cache.stats.recordsSkipped = 0) := by
  have kept := kept_run (kept_origin path works missing) ran
  refine ⟨kept.form, fun move next torn moved present broken => ?_, kept.nodup,
    fun resting prewarm => ?_⟩
  · exact torn_moved kept (moved_of_move? moved) present broken
  · obtain ⟨cache, runs, _, known, count, skipped⟩ := kept.launched prewarm none
    refine ⟨cache, ?_, runs, (kept.loaded none).keys, known, count, skipped⟩
    simp only [move?, resting]

/-- The first process ends within the header, the second within its second record. -/
def mishaps : List Move :=
  [.abort true 3, .start true, .submit (PipelineKey.codec.decode []) none,
    .abandon (PipelineKey.codec.decode [1]) 40]

theorem crash_durability_mishaps : ∃ lives, (origin "cache" {}).run? mishaps = some lives ∧
    lives.completed = [PipelineKey.codec.decode []] ∧ lives.engine.cache = none ∧
    Form lives.completed lives.node ∧
    ((lives.engine.disk.awaiting none).load lives.path).value.keys = lives.completed := by
  have ran : ∃ lives, (origin "cache" {}).run? mishaps = some lives ∧
      lives.completed = [PipelineKey.codec.decode []] ∧ lives.engine.cache = none :=
    ⟨_, rfl, by decide, rfl⟩
  obtain ⟨lives, ran, completed, resting⟩ := ran
  obtain ⟨form, _, _, restarts⟩ := crash_durability ⟨rfl, rfl, rfl, rfl⟩ rfl ran
  obtain ⟨_, _, _, keys, _⟩ := restarts resting true
  exact ⟨lives, ran, completed, resting, form, keys⟩

end Lives

end PipelineCache

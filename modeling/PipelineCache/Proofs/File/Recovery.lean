import PipelineCache.Cache.Basic

/-! What a cache file gives back. A header, whole records and the beginning of one more read back as the
keys of the whole records, and loading cuts the rest off. A file that ends within its header reads as no
cache at all, and loading replaces it by a fresh one. All of this on a disk where nothing fails but
perhaps the one write to come. -/

namespace PipelineCache

theorem mapError_ok {α ε ε' : Type} (value : α) (change : ε → ε') :
    (Except.ok value).mapError change = .ok value := rfl

theorem mapError_error {α ε ε' : Type} (error : ε) (change : ε → ε') :
    (Except.error error : Except ε α).mapError change = .error (change error) := rfl

namespace Record

/-- The content of a file with a header and the records of some keys. -/
def file (keys : List PipelineKey) : Bytes := Header.current.toBytes ++ keys.flatMap encode

theorem size_pos : 0 < size := by
  unfold size digestSize
  omega

theorem file_nil : file [] = Header.current.toBytes := List.append_nil _

theorem file_append (keys : List PipelineKey) (key : PipelineKey) :
    file (keys ++ [key]) = file keys ++ encode key := by
  simp [file]

theorem length_flatMap_encode (keys : List PipelineKey) :
    (keys.flatMap encode).length = size * keys.length := by
  induction keys with
  | nil => rfl
  | cons key keys ih =>
      rw [List.flatMap_cons, List.length_append, length_encode, ih, List.length_cons, Nat.mul_succ]
      exact Nat.add_comm _ _

/-- A string of records that breaks off within a record consists of those before it. -/
theorem whole_flatten {records : List Bytes} (sized : ∀ record ∈ records, record.length = size)
    (torn : Bytes) (short : torn.length < size) : whole (records.flatten ++ torn) = records := by
  induction records with
  | nil =>
      have empty : torn.length / size = 0 := Nat.div_eq_of_lt short
      simp [whole, empty, blocks]
  | cons record records ih =>
      obtain ⟨first, others⟩ := List.forall_mem_cons.mp sized
      have count : ((record :: records).flatten ++ torn).length / size =
          (records.flatten ++ torn).length / size + 1 := by
        rw [List.flatten_cons, List.append_assoc, List.length_append, first, Nat.add_comm,
          Nat.add_div_right _ size_pos]
      rw [whole, count, List.flatten_cons, List.append_assoc, blocks, List.take_left' first,
        List.drop_left' first]
      exact congrArg _ (ih others)

theorem whole_flatMap_encode (keys : List PipelineKey) (torn : Bytes) (short : torn.length < size) :
    whole (keys.flatMap encode ++ torn) = keys.map encode := by
  rw [List.flatMap_def]
  refine whole_flatten (fun record member => ?_) torn short
  obtain ⟨key, _, rfl⟩ := List.mem_map.mp member
  exact length_encode key

end Record

namespace Header

theorem length_toBytes (header : Header) : header.toBytes.length = size :=
  lawful_codec.length_encode header

theorem check_current : current.check = .ok () := if_pos rfl

end Header

namespace Contents

def ofKeys (keys : List PipelineKey) : Contents :=
  { start := Header.size, records := keys.map some }

theorem keys_ofKeys (keys : List PipelineKey) : (ofKeys keys).keys = keys := by
  simp [ofKeys, Contents.keys, List.filterMap_map]

theorem skipped_ofKeys (keys : List PipelineKey) : (ofKeys keys).skipped = 0 := by
  simp [ofKeys, skipped, List.countP_map, List.countP_eq_zero]

theorem endOffset_ofKeys (keys : List PipelineKey) :
    (ofKeys keys).endOffset = (Record.file keys).length := by
  rw [endOffset, Record.file, List.length_append, Header.length_toBytes,
    Record.length_flatMap_encode, ofKeys, List.length_map]

end Contents

namespace Source

/-- Whole records read back, whatever part of one more stands behind them. -/
theorem readCache_file (keys : List PipelineKey) (torn : Bytes) (short : torn.length < Record.size) :
    readCache { bytes := Record.file keys ++ torn } = .ok (.ofKeys keys) := by
  have header := Header.length_toBytes .current
  have enough : Header.size ≤ (Record.file keys ++ torn).length := by
    simp only [Record.file, List.length_append, header]
    omega
  have decoded := Header.lawful_codec.decode_encode .current []
  rw [List.append_nil] at decoded
  have read : (Source.mk (Record.file keys ++ torn) none).readHeader =
      .ok (.current, ⟨keys.flatMap Record.encode ++ torn, none⟩) := by
    rw [readHeader, Source.read, if_pos enough]
    simp only [Record.file, List.append_assoc, List.take_left' header, List.drop_left' header]
    exact congrArg (fun current => Except.ok (current, _)) decoded
  have records := Record.whole_flatMap_encode keys torn short
  have keysRead : (keys.map Record.encode).map Record.decode? = keys.map some := by
    simp [Function.comp_def]
  simp only [readCache, read, mapError_ok, bind, Except.bind, Header.check_current, pure,
    Except.pure, readRecords, records, keysRead, Contents.ofKeys]

theorem readCache_short (bytes : Bytes) (short : bytes.length < Header.size) :
    ∃ error, readCache { bytes := bytes } = .error error := by
  refine ⟨.io .shortRead, ?_⟩
  have refused : ¬ Header.size ≤ bytes.length := Nat.not_le.mpr short
  simp only [readCache, readHeader, Source.read, if_neg refused]
  rfl

end Source

/-! ### A disk on which one write may fail -/

/-- How many bytes of a write get through before it fails, if it fails. -/
abbrev Fate := Option (Nat × IoError)

def Fate.through (fate : Fate) (bytes : Bytes) : Bytes :=
  match fate with
  | none => bytes
  | some (count, _) => bytes.take count

namespace Disk

variable {disk : Disk} {keys : List PipelineKey} {content torn : Bytes}

/-- The disk with a fate for its next write; nothing else fails. -/
def awaiting (disk : Disk) (fate : Fate) : Disk := { disk with faults := { writing := [fate] } }

def calm (disk : Disk) : Disk := { disk with faults := {} }

/-- Nothing fails, and the file can be created if it is missing. -/
structure Works (disk : Disk) : Prop where
  calm : disk.faults = {}
  isFile : disk.prospect.isDirectory = false
  made : disk.prospect.failure = none
  creatable : disk.prospect.vacancy.creating = none

/-- An append leaves the bytes behind that got through, and fails if some did not. -/
theorem append_awaiting (present : disk.node = .file content) (fate : Fate) (bytes : Bytes) :
    (disk.awaiting fate).append ⟨disk.generation⟩ bytes =
      (match fate with
        | none => .ok ()
        | some (_, error) => .error error,
        { disk with node := .file (content ++ fate.through bytes), faults := {} }) := by
  cases fate with
  | none => simp [append, nextWrite, awaiting, present, Fate.through]
  | some failure => simp [append, nextWrite, awaiting, present, Fate.through]

theorem readCache_awaiting (present : disk.node = .file content) (fate : Fate) :
    (disk.awaiting fate).readCache = Source.readCache { bytes := content } := by
  simp [readCache, openForReading, awaiting, present, source, mapError_ok, bind, Except.bind]

theorem trim_awaiting (present : disk.node = .file (content ++ torn)) (fate : Fate) (path : String) :
    ((disk.awaiting fate).trim path content.length).value = .ok () ∧
      ((disk.awaiting fate).trim path content.length).disk =
        { disk.awaiting fate with node := .file content } := by
  have here : (disk.awaiting fate).node = .file (content ++ torn) := present
  simp only [trim, length, here]
  split
  · simp [truncate, awaiting, present, Bytes.resize, Bytes.zeros]
  · rename_i whole
    obtain rfl : torn = [] := by
      apply List.eq_nil_of_length_eq_zero
      simp only [List.length_append] at whole
      omega
    rw [List.append_nil] at here
    simp [← here]

/-- Loading gives the keys of the whole records, and cuts off the beginning of one more. -/
theorem load_file (present : disk.node = .file (Record.file keys ++ torn))
    (short : torn.length < Record.size) (fate : Fate) (path : String) :
    ((disk.awaiting fate).load path).value = .ofKeys keys ∧
      ((disk.awaiting fate).load path).disk =
        { disk.awaiting fate with node := .file (Record.file keys) } := by
  have read : (disk.awaiting fate).readCache = .ok (.ofKeys keys) :=
    (readCache_awaiting present fate).trans (Source.readCache_file keys torn short)
  obtain ⟨trimmed, kept⟩ := trim_awaiting present fate path
  rw [← Contents.endOffset_ofKeys] at trimmed kept
  simp only [load, read, trimmed]
  exact ⟨trivial, kept⟩

theorem create_awaiting (works : disk.Works)
    (replaced : disk.node = .missing ∨ ∃ bytes, disk.node = .file bytes) (fate : Fate) :
    ∃ ready vacancy, (disk.awaiting fate).makeParents = (.ok (), ready) ∧
      ready.create = .ok ({ disk with node := .file [], vacancy := vacancy }.awaiting fate) := by
  rcases replaced with missing | ⟨bytes, present⟩
  · refine ⟨{ disk.awaiting fate with node := .missing, vacancy := disk.prospect.vacancy },
      disk.prospect.vacancy, ?_, ?_⟩
    · simp [makeParents, awaiting, missing, works.isFile, works.made]
    · simp [create, awaiting, works.creatable]
  · refine ⟨disk.awaiting fate, disk.vacancy, ?_, ?_⟩
    · simp [makeParents, awaiting, present]
    · simp [create, awaiting, present]

/-- A fresh header replaces what stood there, as far as it gets through. -/
theorem startAfresh_awaiting (works : disk.Works)
    (replaced : disk.node = .missing ∨ ∃ bytes, disk.node = .file bytes) (fate : Fate) :
    ∃ vacancy, (disk.awaiting fate).startAfresh.2 =
      { disk with
        node := .file (fate.through Header.current.toBytes), vacancy := vacancy, faults := {} } := by
  obtain ⟨ready, vacancy, made, created⟩ := create_awaiting works replaced fate
  have empty : Disk.node { disk with node := .file [], vacancy := vacancy } = .file [] := rfl
  refine ⟨vacancy, ?_⟩
  simp only [startAfresh, made, created]
  exact congrArg Prod.snd (append_awaiting empty fate Header.current.toBytes)

theorem loadEmpty_eq (disk : Disk) (path : String) (messages : List Message) :
    (disk.loadEmpty path messages).value = {} ∧
      (disk.loadEmpty path messages).disk = disk.startAfresh.2 := by
  unfold loadEmpty
  split <;> rename_i begun <;> exact ⟨rfl, (congrArg Prod.snd begun).symm⟩

/-- Loading a file that is missing or ends within its header gives nothing, and writes a fresh one. -/
theorem load_short (works : disk.Works)
    (short : disk.node = .missing ∨ ∃ bytes, disk.node = .file bytes ∧ bytes.length < Header.size)
    (fate : Fate) (path : String) :
    ((disk.awaiting fate).load path).value = {} ∧
      ∃ vacancy, ((disk.awaiting fate).load path).disk =
        { disk with
          node := .file (fate.through Header.current.toBytes), vacancy := vacancy, faults := {} } := by
  have replaced : disk.node = .missing ∨ ∃ bytes, disk.node = .file bytes :=
    short.imp_right fun ⟨bytes, present, _⟩ => ⟨bytes, present⟩
  have refused : ∃ error, (disk.awaiting fate).readCache = .error error := by
    rcases short with missing | ⟨bytes, present, inside⟩
    · refine ⟨.io (.system disk.vacancy.opening), ?_⟩
      simp [readCache, openForReading, awaiting, missing, mapError_error, bind, Except.bind]
    · rw [readCache_awaiting present fate]
      exact Source.readCache_short bytes inside
  obtain ⟨error, read⟩ := refused
  have empty (messages : List Message) := loadEmpty_eq (disk.awaiting fate) path messages
  obtain ⟨vacancy, fresh⟩ := startAfresh_awaiting works replaced fate
  simp only [load, read]
  exact ⟨(empty _).1, vacancy, (empty _).2.trans fresh⟩

end Disk

namespace Cache

theorem foldl_distinct (known keys : List PipelineKey) (nodup : (known ++ keys).Nodup) :
    keys.foldl (fun known key => if key ∈ known then known else known ++ [key]) known =
      known ++ keys := by
  induction keys generalizing known with
  | nil => exact (List.append_nil known).symm
  | cons key keys ih =>
      rw [List.append_cons] at nodup
      have fresh : key ∉ known := by
        have apart := (List.nodup_append.mp (List.nodup_append.mp nodup).1).2.2
        exact fun member => apart key member key (List.mem_singleton.mpr rfl) rfl
      rw [List.foldl_cons, if_neg fresh, ih _ nodup]
      exact (List.append_cons known key keys).symm

theorem distinct_eq_self {keys : List PipelineKey} (nodup : keys.Nodup) : distinct keys = keys :=
  foldl_distinct [] keys nodup

theorem start_eq {config : CacheConfig} {disk : Disk} {path : String} {handle : Handle}
    (named : config.filePath = some path) (writes : config.enableWriter = true)
    (opened : (disk.load path).disk.openForAppend = .ok handle) :
    (start config disk).disk = (disk.load path).disk ∧
      (start config disk).value.writer.log = some handle ∧
      (start config disk).value.writer.known = distinct (disk.load path).value.keys ∧
      (start config disk).value.stats.entriesLoaded =
        (distinct (disk.load path).value.keys).length ∧
      (start config disk).value.stats.recordsSkipped = (disk.load path).value.skipped := by
  simp [start, named, writes, openLog, Disk.openLog, opened, mapError_ok]

end Cache

end PipelineCache

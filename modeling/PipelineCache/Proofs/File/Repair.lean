import PipelineCache.Proofs.File.Reading

/-! Loading as repair, while no file operation fails. Loading leaves a file that ends where its last whole
record ends, or a header alone. In such a file every later load finds the same records and changes
nothing, and what is appended to it stands on a record boundary and is read next time. The only thing in
which a second load can differ is the place where the records end: it is told as zero by the load that
wrote the header, and behind the header by all others. -/

namespace PipelineCache

namespace Record

variable {content : Bytes}

/-- The content without what stands behind the last whole record. -/
def trimmed (content : Bytes) : Bytes := content.take (Header.size + size * count content)

theorem size_mul_count_le (content : Bytes) : size * count content ≤ content.length - Header.size :=
  Nat.mul_div_le _ _

theorem length_trimmed (enough : Header.size ≤ content.length) :
    (trimmed content).length = Header.size + size * count content := by
  have within := size_mul_count_le content
  rw [trimmed, List.length_take]
  omega

theorem count_trimmed (enough : Header.size ≤ content.length) :
    count (trimmed content) = count content := by
  calc count (trimmed content) = (Header.size + size * count content - Header.size) / size := by
        rw [count, length_trimmed enough]
    _ = size * count content / size := by rw [Nat.add_sub_cancel_left]
    _ = count content := Nat.mul_div_cancel_left _ size_pos

theorem trimmed_trimmed (enough : Header.size ≤ content.length) :
    trimmed (trimmed content) = trimmed content := by
  rw [trimmed, count_trimmed enough]
  exact List.take_of_length_le (Nat.le_of_eq (length_trimmed enough))

theorem take_header_trimmed (content : Bytes) :
    (trimmed content).take Header.size = content.take Header.size := by
  rw [trimmed, List.take_take, Nat.min_eq_left (Nat.le_add_right _ _)]

/-- Every whole record stays where it is. -/
theorem slice_trimmed {index : Nat} (inside : index < count content) :
    slice (trimmed content) index = slice content index := by
  have before : size * (index + 1) ≤ size * count content := Nat.mul_le_mul_left size inside
  rw [Nat.mul_add, Nat.mul_one] at before
  rw [slice, slice, trimmed, List.drop_take, List.take_take]
  apply congrArg (fun length => (content.drop (Header.size + size * index)).take length)
  omega

theorem behindHeader_trimmed (enough : Header.size ≤ content.length) :
    Contents.behindHeader (trimmed content) = Contents.behindHeader content := by
  rw [Contents.behindHeader, Contents.behindHeader, count_trimmed enough]
  apply congrArg (Contents.mk Header.size)
  apply List.map_congr_left
  intro index inside
  rw [slice_trimmed (List.mem_range.mp inside)]

theorem length_of_take_header (current : content.take Header.size = Header.current.toBytes) :
    Header.size ≤ content.length := by
  have length := congrArg List.length current
  rw [List.length_take, Header.length_toBytes] at length
  omega

theorem behindHeader_eq (content : Bytes) : Contents.behindHeader content =
    { start := Header.size, records := (whole (content.drop Header.size)).map decode? } := by
  rw [whole_drop_header, List.map_map]
  rfl

theorem whole_append {front : Bytes} {records : List Bytes} (aligned : (whole front).flatten = front)
    (sized : ∀ record ∈ records, record.length = size) :
    whole (front ++ records.flatten) = whole front ++ records := by
  have all : ∀ record ∈ whole front ++ records, record.length = size := by
    intro record member
    rcases List.mem_append.mp member with old | new
    · exact length_of_mem_blocks (Nat.div_mul_le_self _ _) old
    · exact sized record new
  calc whole (front ++ records.flatten) = whole ((whole front ++ records).flatten ++ []) := by
        rw [List.flatten_append, aligned, List.append_nil]
    _ = whole front ++ records := whole_flatten all [] size_pos

theorem flatten_whole_of_trimmed (ends : trimmed content = content) :
    (whole (content.drop Header.size)).flatten = content.drop Header.size := by
  rw [whole, flatten_blocks, List.length_drop, Nat.mul_comm, ← count, List.take_drop, ← trimmed, ends]

/-- Records that are appended behind whole records are read behind them. -/
theorem behindHeader_append (current : content.take Header.size = Header.current.toBytes)
    (ends : trimmed content = content) (keys : List PipelineKey) :
    Contents.behindHeader (content ++ keys.flatMap encode) =
      { start := Header.size, records := (Contents.behindHeader content).records ++ keys.map some } := by
  have sized : ∀ record ∈ keys.map encode, record.length = size := by
    intro record member
    obtain ⟨key, _, rfl⟩ := List.mem_map.mp member
    exact length_encode key
  have read : (keys.map encode).map decode? = keys.map some := by
    simp [Function.comp_def]
  rw [behindHeader_eq, behindHeader_eq, List.drop_append_of_le_length (length_of_take_header current),
    List.flatMap_def, whole_append (flatten_whole_of_trimmed ends) sized, List.map_append, read]

theorem take_header_append (current : content.take Header.size = Header.current.toBytes)
    (more : Bytes) : (content ++ more).take Header.size = Header.current.toBytes := by
  rw [List.take_append_of_le_length (length_of_take_header current), current]

end Record

/-- A file of this build that ends where its last whole record ends, on a disk where nothing fails. -/
structure Disk.Aligned (disk : Disk) (content : Bytes) : Prop where
  calm : disk.faults = {}
  present : disk.node = .file content
  current : content.take Header.size = Header.current.toBytes
  ends : Record.trimmed content = content

namespace Disk

variable {disk : Disk} {content : Bytes}

/-- Nothing fails, and a regular file stands at the path or can be created there. -/
inductive Accepts (disk : Disk) : Prop
  | file (calm : disk.faults = {}) (content : Bytes) (present : disk.node = .file content)
  | missing (works : disk.Works) (missing : disk.node = .missing)

theorem Accepts.calm (accepts : disk.Accepts) : disk.faults = {} := by
  cases accepts with
  | file calm _ _ => exact calm
  | missing works _ => exact works.calm

theorem Accepts.works (accepts : disk.Accepts) (missing : disk.node = .missing) : disk.Works := by
  cases accepts with
  | file _ content present =>
      rw [missing] at present
      cases present
  | missing works _ => exact works

theorem readCache_calm (calm : disk.faults = {}) (present : disk.node = .file content) :
    disk.readCache = Source.readCache { bytes := content } := by
  simp [readCache, openForReading, calm, present, source, mapError_ok, bind, Except.bind]

theorem trim_file (trims : disk.faults.trimming = none) (present : disk.node = .file content)
    {endOffset : Nat} (inside : endOffset ≤ content.length) (path : String) :
    (disk.trim path endOffset).value = .ok () ∧
      (disk.trim path endOffset).disk = { disk with node := .file (content.take endOffset) } := by
  by_cases longer : endOffset < content.length
  · have cut : content.resize endOffset = content.take endOffset := by
      rw [Bytes.resize, Nat.sub_eq_zero_of_le inside]
      exact List.append_nil _
    simp [trim, length, truncate, trims, present, longer, cut]
  · have same : content.take endOffset = content := List.take_of_length_le (Nat.not_lt.mp longer)
    have unchanged : { disk with node := .file content } = disk := by
      rw [← present]
    simp only [trim, length, present, if_neg longer, same, unchanged, and_self]

/-- Whatever was read, the file is cut off behind it. -/
theorem load_of_read {contents : Contents} (trims : disk.faults.trimming = none)
    (present : disk.node = .file content) (read : disk.readCache = .ok contents)
    (inside : contents.endOffset ≤ content.length) (path : String) :
    (disk.load path).value = contents ∧
      (disk.load path).disk = { disk with node := .file (content.take contents.endOffset) } := by
  obtain ⟨value, kept⟩ := trim_file trims present inside path
  simp only [load, read, value, kept, and_self]

theorem endOffset_behindHeader_le (enough : Header.size ≤ content.length) :
    (Contents.behindHeader content).endOffset ≤ content.length := by
  have within := Record.size_mul_count_le content
  rw [(Contents.readFrom_behindHeader content).endOffset]
  omega

theorem load_of_current (calm : disk.faults = {}) (present : disk.node = .file content)
    (current : content.take Header.size = Header.current.toBytes) (path : String) :
    (disk.load path).value = .behindHeader content ∧
      (disk.load path).disk = { disk with node := .file (Record.trimmed content) } := by
  have read := (readCache_calm calm present).trans (Source.readCache_of_current current)
  have trims : disk.faults.trimming = none := by rw [calm]
  have inside := endOffset_behindHeader_le (Record.length_of_take_header current)
  rw [Record.trimmed, ← (Contents.readFrom_behindHeader content).endOffset]
  exact load_of_read trims present read inside path

theorem load_of_refused {error : CacheError} (read : disk.readCache = .error error) (path : String) :
    (disk.load path).value = {} ∧ (disk.load path).disk = disk.startAfresh.2 := by
  simp only [load, read]
  exact loadEmpty_eq ..

/-- It does not matter whether reading fails. -/
theorem startAfresh_file {reading : Option (Nat × IoError)} (calm : disk.faults = { reading := reading })
    (present : disk.node = .file content) :
    disk.startAfresh.2 = { disk with node := .file Header.current.toBytes } := by
  simp [startAfresh, makeParents, create, append, nextWrite, calm, present]

/-- A file of another build, or one that is too short, is replaced by a header. -/
theorem load_of_foreign (calm : disk.faults = {}) (present : disk.node = .file content)
    (foreign : content.take Header.size ≠ Header.current.toBytes) (path : String) :
    (disk.load path).value = {} ∧
      (disk.load path).disk = { disk with node := .file Header.current.toBytes } := by
  have refused : ∃ error, disk.readCache = .error error := by
    rw [readCache_calm calm present]
    rcases Nat.lt_or_ge content.length Header.size with short | enough
    · exact ⟨_, Source.readCache_of_lt short⟩
    · obtain ⟨found, _, read⟩ := Source.readCache_of_foreign enough foreign
      exact ⟨_, read⟩
  obtain ⟨error, read⟩ := refused
  rw [← startAfresh_file calm present]
  exact load_of_refused read path

theorem load_of_missing (works : disk.Works) (missing : disk.node = .missing) (path : String) :
    (disk.load path).value = {} ∧ (disk.load path).disk =
      { disk with node := .file Header.current.toBytes, vacancy := disk.prospect.vacancy } := by
  have calm := works.calm
  have read : disk.readCache = .error (.io (.system disk.vacancy.opening)) := by
    simp [readCache, openForReading, calm, missing, mapError_error, bind, Except.bind]
  have made : disk.makeParents = (.ok (), { disk with vacancy := disk.prospect.vacancy }) := by
    simp [makeParents, calm, missing, works.isFile, works.made]
  have fresh : disk.startAfresh.2 =
      { disk with node := .file Header.current.toBytes, vacancy := disk.prospect.vacancy } := by
    simp [startAfresh, made, create, append, nextWrite, calm, missing, works.creatable]
  rw [← fresh]
  exact load_of_refused read path

/-! ### Loading again -/

/-- Loads, and loads again what the first load left. -/
def reload (disk : Disk) (path : String) : Outcome Contents := (disk.load path).disk.load path

theorem aligned_header {vacancy : Vacancy} (calm : disk.faults = {}) :
    Aligned { disk with node := .file Header.current.toBytes, vacancy := vacancy }
      Header.current.toBytes where
  calm := calm
  present := rfl
  current := List.take_of_length_le (Nat.le_of_eq (Header.length_toBytes _))
  ends := rfl

/-- Loading leaves a file in which the records that were told are found. -/
theorem aligned_load (accepts : disk.Accepts) (path : String) :
    ∃ content, (disk.load path).disk.Aligned content ∧
      (disk.load path).value.records = (Contents.behindHeader content).records := by
  cases accepts with
  | file calm content present =>
      by_cases current : content.take Header.size = Header.current.toBytes
      · have enough := Record.length_of_take_header current
        obtain ⟨value, left⟩ := load_of_current calm present current path
        refine ⟨Record.trimmed content, ⟨?_, ?_, ?_, Record.trimmed_trimmed enough⟩, ?_⟩
        · rw [left]
          exact calm
        · rw [left]
        · rw [Record.take_header_trimmed, current]
        · rw [value, Record.behindHeader_trimmed enough]
      · obtain ⟨value, left⟩ := load_of_foreign calm present current path
        rw [value, left]
        exact ⟨_, aligned_header calm, rfl⟩
  | missing works missing =>
      obtain ⟨value, left⟩ := load_of_missing works missing path
      rw [value, left]
      exact ⟨_, aligned_header works.calm, rfl⟩

theorem Aligned.load (aligned : disk.Aligned content) (path : String) :
    (disk.load path).value = .behindHeader content ∧ (disk.load path).disk = disk := by
  obtain ⟨value, left⟩ := load_of_current aligned.calm aligned.present aligned.current path
  rw [aligned.ends, ← aligned.present] at left
  exact ⟨value, left⟩

theorem appendRecords_calm (calm : disk.faults = {}) (present : disk.node = .file content)
    (keys : List PipelineKey) : disk.appendRecords ⟨disk.generation⟩ keys =
      (.ok (), { disk with node := .file (content ++ keys.flatMap Record.encode) }) := by
  induction keys generalizing disk content with
  | nil =>
      rw [List.flatMap_nil, List.append_nil, ← present]
      rfl
  | cons key keys ih =>
      have first : disk.appendRecord ⟨disk.generation⟩ key =
          (.ok (), { disk with node := .file (content ++ Record.encode key) }) := by
        simp [appendRecord, append, nextWrite, calm, present]
      rw [appendRecords, first, List.flatMap_cons, ← List.append_assoc]
      exact ih calm rfl

/-- What is appended to a file that was loaded is read behind what stood there. -/
theorem Aligned.append (aligned : disk.Aligned content) (keys : List PipelineKey) (path : String) :
    ∃ handle written, disk.openForAppend = .ok handle ∧
      disk.appendRecords handle keys = (.ok (), written) ∧
      written.node = .file (content ++ keys.flatMap Record.encode) ∧
      (written.load path).value.records =
        (Contents.behindHeader content).records ++ keys.map some := by
  have opened : disk.openForAppend = .ok ⟨disk.generation⟩ := by
    simp [openForAppend, aligned.calm, aligned.present]
  refine ⟨_, _, opened, appendRecords_calm aligned.calm aligned.present keys, rfl, ?_⟩
  have current := Record.take_header_append aligned.current (keys.flatMap Record.encode)
  have calm : Disk.faults { disk with node := .file (content ++ keys.flatMap Record.encode) } = {} :=
    aligned.calm
  rw [(load_of_current calm rfl current path).1,
    Record.behindHeader_append aligned.current aligned.ends]

/-- A file of this build is read in full and keeps its whole records; any other file, and a missing one,
becomes a header alone. Loading again changes nothing and gives the same keys, with the same number of
damaged records, and the very same contents unless the first load wrote a new header. Appended keys
follow the earlier ones when the file is loaded next. -/
theorem load_repairs (accepts : disk.Accepts) (path : String) :
    (∀ content, disk.node = .file content → content.take Header.size = Header.current.toBytes →
      Source.readCache { bytes := content } = .ok (disk.load path).value ∧
      (disk.load path).disk = { disk with node := .file (Record.trimmed content) } ∧
      Record.count (Record.trimmed content) = Record.count content ∧
      (∀ index < Record.count content,
        Record.slice (Record.trimmed content) index = Record.slice content index) ∧
      (disk.reload path).value = (disk.load path).value) ∧
    ((disk.node = .missing ∨
        ∃ content, disk.node = .file content ∧ content.take Header.size ≠ Header.current.toBytes) →
      (disk.load path).value = {} ∧ (disk.load path).disk.node = .file Header.current.toBytes ∧
      (disk.load path).value.endOffset = 0 ∧ (disk.reload path).value.endOffset = Header.size) ∧
    ((disk.reload path).disk = (disk.load path).disk ∧
      (disk.reload path).value.keys = (disk.load path).value.keys ∧
      (disk.reload path).value.skipped = (disk.load path).value.skipped) ∧
    ∀ keys : List PipelineKey, ∃ handle written, (disk.load path).disk.openForAppend = .ok handle ∧
      (disk.load path).disk.appendRecords handle keys = (.ok (), written) ∧
      (∀ content, (disk.load path).disk.node = .file content →
        written.node = .file (content ++ keys.flatMap Record.encode)) ∧
      (written.load path).value.keys = (disk.load path).value.keys ++ keys ∧
      (written.load path).value.skipped = (disk.load path).value.skipped := by
  obtain ⟨left, aligned, records⟩ := aligned_load accepts path
  obtain ⟨value, unchanged⟩ := aligned.load path
  refine ⟨?_, ?_, ⟨unchanged, ?_, ?_⟩, ?_⟩
  · intro content present current
    have enough := Record.length_of_take_header current
    obtain ⟨first, kept⟩ := load_of_current accepts.calm present current path
    have same : left = Record.trimmed content := by
      apply Node.file.inj
      rw [← aligned.present, kept]
    refine ⟨?_, kept, Record.count_trimmed enough, fun index => Record.slice_trimmed, ?_⟩
    · rw [first]
      exact Source.readCache_of_current current
    · rw [reload, value, first, same, Record.behindHeader_trimmed enough]
  · intro fresh
    have begun : (disk.load path).value = {} ∧
        (disk.load path).disk.node = .file Header.current.toBytes := by
      rcases fresh with missing | ⟨content, present, foreign⟩
      · obtain ⟨empty, created⟩ := load_of_missing (accepts.works missing) missing path
        exact ⟨empty, congrArg Disk.node created⟩
      · obtain ⟨empty, created⟩ := load_of_foreign accepts.calm present foreign path
        exact ⟨empty, congrArg Disk.node created⟩
    have same : left = Header.current.toBytes := by
      apply Node.file.inj
      rw [← aligned.present, begun.2]
    refine ⟨begun.1, begun.2, ?_, ?_⟩
    · rw [begun.1]
      rfl
    · rw [reload, value, same]
      rfl
  · rw [reload, value, Contents.keys, ← records, ← Contents.keys]
  · rw [reload, value, Contents.skipped, ← records, ← Contents.skipped]
  · intro keys
    obtain ⟨handle, written, opened, appended, node, read⟩ := aligned.append keys path
    refine ⟨handle, written, opened, appended, ?_, ?_, ?_⟩
    · intro content there
      obtain rfl : left = content := Node.file.inj (aligned.present.symm.trans there)
      exact node
    · rw [Contents.keys, read, List.filterMap_append, ← records, ← Contents.keys]
      simp
    · rw [Contents.skipped, read, List.countP_append, ← records, ← Contents.skipped]
      simp [List.countP_map, List.countP_eq_zero]

/-- A file that breaks off within its first record. -/
def tornAtFirst : Disk := { node := .file (Header.current.toBytes ++ [0]) }

theorem load_repairs_tornAtFirst : (tornAtFirst.load "cache").disk.node = .file Header.current.toBytes ∧
    (tornAtFirst.reload "cache").disk = (tornAtFirst.load "cache").disk ∧
    (tornAtFirst.reload "cache").value = (tornAtFirst.load "cache").value := by
  have current : (Header.current.toBytes ++ [0]).take Header.size = Header.current.toBytes := by decide
  have accepts : tornAtFirst.Accepts := .file rfl _ rfl
  obtain ⟨headed, _, again, _⟩ := load_repairs accepts "cache"
  obtain ⟨_, left, _, _, same⟩ := headed _ rfl current
  exact ⟨congrArg Disk.node left, again.1, same⟩

/-- A missing file is loaded twice: the end of its records is told once as zero and once as eight. -/
theorem reload_after_initializing : Accepts {} ∧
    (Disk.load {} "cache.scache").value.endOffset = 0 ∧
    (Disk.reload {} "cache.scache").value.endOffset = 8 ∧
    (Disk.reload {} "cache.scache").value ≠ (Disk.load {} "cache.scache").value := by
  have works : Works {} := ⟨rfl, rfl, rfl, rfl⟩
  exact ⟨.missing works rfl, rfl, rfl, by decide⟩

end Disk

end PipelineCache

import PipelineCache.Proofs.File.Repair

/-! Loading while reading fails at some offset. A reader takes a failure for the end of the file, wherever
it comes; so what loading cuts off begins behind the last whole record that was read, and not behind the
last whole record of the file. A failure within the header counts as a file that cannot be read, and the
file is replaced. -/

namespace PipelineCache

namespace Record

variable {content : Bytes} {offset index : Nat}

/-- The whole records in front of an offset are those that end before it. -/
theorem count_take (content : Bytes) (offset : Nat) :
    count (content.take offset) = min ((offset - Header.size) / size) (count content) := by
  rw [count, count, List.length_take]
  rcases Nat.le_total offset content.length with before | beyond
  · rw [Nat.min_eq_left before]
    exact (Nat.min_eq_left (Nat.div_le_div_right (Nat.sub_le_sub_right before _))).symm
  · rw [Nat.min_eq_right beyond]
    exact (Nat.min_eq_right (Nat.div_le_div_right (Nat.sub_le_sub_right beyond _))).symm

/-- A record that ends before an offset stands there as in the whole content. -/
theorem slice_take (inside : index < count (content.take offset)) :
    slice (content.take offset) index = slice content index := by
  have ends : size * (index + 1) ≤ (content.take offset).length - Header.size := by
    calc size * (index + 1) ≤ size * count (content.take offset) := Nat.mul_le_mul_left size inside
      _ ≤ (content.take offset).length - Header.size := size_mul_count_le _
  have positive := size_pos
  rw [Nat.mul_add, Nat.mul_one, List.length_take] at ends
  rw [slice, slice, List.drop_take, List.take_take]
  apply congrArg (fun length => (content.drop (Header.size + size * index)).take length)
  omega

theorem trimmed_take (enough : Header.size ≤ (content.take offset).length) :
    trimmed (content.take offset) =
      content.take (Header.size + size * count (content.take offset)) := by
  have within := size_mul_count_le (content.take offset)
  have front := List.length_take_le offset content
  rw [trimmed, List.take_take, Nat.min_eq_left (by omega)]

/-- An offset behind the last whole record has all whole records in front of it. -/
theorem count_take_of_le (beyond : Header.size + size * count content ≤ offset) :
    count (content.take offset) = count content := by
  rw [count_take]
  apply Nat.min_eq_right
  rw [Nat.le_div_iff_mul_le size_pos, Nat.mul_comm]
  omega

theorem length_file (keys : List PipelineKey) :
    (file keys).length = Header.size + size * keys.length := by
  rw [file, List.length_append, Header.length_toBytes, length_flatMap_encode]

theorem count_file_append (keys : List PipelineKey) {torn : Bytes} (short : torn.length < size) :
    count (file keys ++ torn) = keys.length := by
  rw [count, List.length_append, length_file, Nat.add_assoc, Nat.add_sub_cancel_left,
    Nat.mul_add_div size_pos, Nat.div_eq_of_lt short, Nat.add_zero]

theorem trimmed_file_append (keys : List PipelineKey) {torn : Bytes} (short : torn.length < size) :
    trimmed (file keys ++ torn) = file keys := by
  rw [trimmed, count_file_append keys short]
  exact List.take_left' (length_file keys)

end Record

/-- A file of this build of which nothing can be read from an offset on, while nothing else fails. -/
structure Disk.Interrupted (disk : Disk) (content : Bytes) (offset : Nat) : Prop where
  fails : ∃ error, disk.faults = { reading := some (offset, error) }
  present : disk.node = .file content
  current : content.take Header.size = Header.current.toBytes

namespace Disk

variable {disk : Disk} {content : Bytes} {offset : Nat}

theorem Interrupted.readCache (interrupted : disk.Interrupted content offset) :
    ∃ error, disk.readCache = Source.readCache ⟨content.take offset, some error⟩ := by
  obtain ⟨⟨error, faults⟩, present, _⟩ := interrupted
  refine ⟨error, ?_⟩
  simp [Disk.readCache, openForReading, faults, present, source, mapError_ok, bind, Except.bind]

theorem Interrupted.take_header (interrupted : disk.Interrupted content offset)
    (behind : Header.size ≤ offset) :
    (content.take offset).take Header.size = Header.current.toBytes := by
  rw [List.take_take, Nat.min_eq_left behind, interrupted.current]

theorem Interrupted.length_take (interrupted : disk.Interrupted content offset)
    (behind : Header.size ≤ offset) : Header.size ≤ (content.take offset).length :=
  Record.length_of_take_header (interrupted.take_header behind)

/-- A file whose header cannot be read is replaced by a header. -/
theorem Interrupted.load_of_lt (interrupted : disk.Interrupted content offset)
    (within : offset < Header.size) (path : String) :
    (disk.load path).value = {} ∧
      (disk.load path).disk = { disk with node := .file Header.current.toBytes } := by
  obtain ⟨error, read⟩ := interrupted.readCache
  obtain ⟨_, faults⟩ := interrupted.fails
  have short : ¬ Header.size ≤ (content.take offset).length := by
    rw [List.length_take]
    omega
  have refused : disk.readCache = .error (.io error) := by
    rw [read]
    simp only [Source.readCache, Source.readHeader, Source.read, if_neg short]
    rfl
  rw [← startAfresh_file faults interrupted.present]
  exact load_of_refused refused path

/-- Behind the header, the file is cut off where the last record ends that was read. -/
theorem Interrupted.load_of_le (interrupted : disk.Interrupted content offset)
    (behind : Header.size ≤ offset) (path : String) :
    (disk.load path).value = .behindHeader (content.take offset) ∧
      (disk.load path).disk = { disk with node := .file (Record.trimmed (content.take offset)) } := by
  obtain ⟨error, read⟩ := interrupted.readCache
  obtain ⟨_, faults⟩ := interrupted.fails
  have trims : disk.faults.trimming = none := by rw [faults]
  have current := interrupted.take_header behind
  have parts := Source.readCache_header_append ((content.take offset).drop Header.size) (some error)
  rw [← current, List.take_append_drop, ← Record.behindHeader_eq] at parts
  have enough := interrupted.length_take behind
  have inside := Nat.le_trans (endOffset_behindHeader_le enough) (List.length_take_le' offset content)
  rw [Record.trimmed_take enough,
    ← (Contents.readFrom_behindHeader (content.take offset)).endOffset]
  exact load_of_read trims interrupted.present (read.trans parts) inside path

/-- What loading leaves of a file of this build of which nothing can be read from an offset on, while
nothing else fails. A failure within the header leaves a new header alone. Behind the header, the records
that end before the offset are told and stay where they are, and everything behind them is cut off, also
records that are whole. So all whole records stay if the failure comes behind the last of them. -/
theorem load_keeps_what_was_read (interrupted : disk.Interrupted content offset) (path : String) :
    (offset < Header.size →
      (disk.load path).value = {} ∧ (disk.load path).disk.node = .file Header.current.toBytes) ∧
    (Header.size ≤ offset → ∃ left, (disk.load path).disk.node = .file left ∧
      (disk.load path).value = .behindHeader left ∧
      left = content.take (Header.size + Record.size * Record.count left) ∧
      Record.count left = min ((offset - Header.size) / Record.size) (Record.count content) ∧
      ∀ index < Record.count left, Record.slice left index = Record.slice content index) ∧
    (Header.size + Record.size * Record.count content ≤ offset →
      (disk.load path).disk.node = .file (Record.trimmed content)) := by
  refine ⟨fun within => ?_, fun behind => ?_, fun beyond => ?_⟩
  · obtain ⟨value, left⟩ := interrupted.load_of_lt within path
    exact ⟨value, congrArg Disk.node left⟩
  · obtain ⟨value, left⟩ := interrupted.load_of_le behind path
    have enough := interrupted.length_take behind
    have count := Record.count_trimmed enough
    refine ⟨Record.trimmed (content.take offset), congrArg Disk.node left, ?_, ?_, ?_, ?_⟩
    · rw [value, Record.behindHeader_trimmed enough]
    · rw [count, Record.trimmed_take enough]
    · rw [count, Record.count_take]
    · intro index inside
      rw [count] at inside
      rw [Record.slice_trimmed inside, Record.slice_take inside]
  · have behind := Nat.le_trans (Nat.le_add_right _ _) beyond
    obtain ⟨_, left⟩ := interrupted.load_of_le behind path
    rw [left, Record.trimmed_take (interrupted.length_take behind), Record.count_take_of_le beyond]
    rfl

/-- A file that breaks off within its second record, of which nothing can be read behind the first. -/
def tornUnread : Disk where
  node := .file (Record.file [.blank] ++ [0])
  faults := { reading := some (Header.size + Record.size, .plain .other) }

/-- The torn byte is cut off, as if it had been read. -/
theorem load_keeps_what_was_read_tornUnread :
    tornUnread.Interrupted (Record.file [.blank] ++ [0]) (Header.size + Record.size) ∧
    (tornUnread.load "cache.scache").disk.node = .file (Record.file [.blank]) := by
  have short : [(0 : UInt8)].length < Record.size := by decide
  have interrupted :
      tornUnread.Interrupted (Record.file [.blank] ++ [0]) (Header.size + Record.size) :=
    ⟨⟨_, rfl⟩, rfl, Record.take_header_append (Record.take_header_file _) _⟩
  have last : Header.size + Record.size * Record.count (Record.file [.blank] ++ [0]) ≤
      Header.size + Record.size := by
    rw [Record.count_file_append [.blank] short]
    exact Nat.le_refl _
  obtain ⟨_, _, kept⟩ := load_keeps_what_was_read interrupted "cache.scache"
  exact ⟨interrupted, (kept last).trans (congrArg Node.file (Record.trimmed_file_append _ short))⟩

/-- A failure in front of the end of the last whole record costs at least that record. -/
theorem load_drops_unread_records (interrupted : disk.Interrupted content offset)
    (stored : 0 < Record.count content)
    (before : offset < Header.size + Record.size * Record.count content) (path : String) :
    ∃ left, (disk.load path).disk.node = .file left ∧ Record.count left < Record.count content := by
  rcases Nat.lt_or_ge offset Header.size with within | behind
  · obtain ⟨_, left⟩ := interrupted.load_of_lt within path
    exact ⟨Header.current.toBytes, congrArg Disk.node left, stored⟩
  · obtain ⟨_, left⟩ := interrupted.load_of_le behind path
    refine ⟨Record.trimmed (content.take offset), congrArg Disk.node left, ?_⟩
    rw [Record.count_trimmed (interrupted.length_take behind), Record.count_take]
    apply Nat.lt_of_le_of_lt (Nat.min_le_left _ _)
    rw [Nat.div_lt_iff_lt_mul Record.size_pos, Nat.mul_comm]
    omega

/-- A file with ten records, of which nothing can be read behind the first two pages. -/
def unreadable : Disk where
  node := .file (Record.file (List.replicate 10 .blank))
  faults := { reading := some (8192, .plain .other) }

/-- The failure of a single read costs four records that are whole and intact. -/
theorem load_unreadable : unreadable.Interrupted (Record.file (List.replicate 10 .blank)) 8192 ∧
    Source.readCache { bytes := Record.file (List.replicate 10 .blank) } =
      .ok (.ofKeys (List.replicate 10 .blank)) ∧
    ∃ left, (unreadable.load "cache.scache").disk.node = .file left ∧ left.length = 7088 ∧
      Record.count left = 6 := by
  have interrupted : unreadable.Interrupted (Record.file (List.replicate 10 .blank)) 8192 :=
    ⟨⟨_, rfl⟩, rfl, Record.take_header_file _⟩
  have behind : Header.size ≤ 8192 := by decide
  have whole := Source.readCache_file (List.replicate 10 .blank) [] Record.size_pos
  rw [List.append_nil] at whole
  have enough := interrupted.length_take behind
  have six : Record.count ((Record.file (List.replicate 10 .blank)).take 8192) = 6 := by
    rw [Record.count_take, Record.count_file, List.length_replicate]
    rfl
  obtain ⟨_, left⟩ := interrupted.load_of_le behind "cache.scache"
  refine ⟨interrupted, whole, _, congrArg Disk.node left, ?_, ?_⟩
  · rw [Record.length_trimmed enough, six]
    rfl
  · rw [Record.count_trimmed enough, six]

end Disk

end PipelineCache

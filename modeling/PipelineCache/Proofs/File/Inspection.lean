import PipelineCache.Inspect
import PipelineCache.Proofs.File.Repair

/-! The inspector reads a file in its own way: it takes the header, checks it, and goes on to the records,
whose end it tells from the end of the header on. Loading tells it from the start of the file. Both follow
from what the header and the rest of the file are, so on a regular file the report says what loading reads,
what it cuts off, and why it refuses a file. -/

namespace PipelineCache

namespace Source

variable {source rest : Source} {header : Header}

/-- Reading a cache is reading its header, checking it, and reading the records. -/
theorem readCache_of_readHeader (read : source.readHeader = .ok (header, rest)) :
    source.readCache =
      if header = .current then .ok { rest.readRecords with start := Header.size }
      else .error (.layoutMismatch header .current) := by
  by_cases same : header = .current <;>
    simp [readCache, read, Header.check, same, mapError_ok, bind, Except.bind, pure, Except.pure]

theorem readCache_of_readHeader_error {error : IoError} (refused : source.readHeader = .error error) :
    source.readCache = .error (.io error) := by
  simp [readCache, refused, mapError_error, bind, Except.bind]

theorem rest_of_readHeader (read : source.readHeader = .ok (header, rest)) :
    Header.size ≤ source.bytes.length ∧ rest.bytes = source.bytes.drop Header.size := by
  by_cases enough : Header.size ≤ source.bytes.length
  · simp only [readHeader, Source.read, if_pos enough, bind, Except.bind, pure, Except.pure,
      Except.ok.injEq, Prod.mk.injEq] at read
    exact ⟨enough, congrArg Source.bytes read.2.symm⟩
  · simp only [readHeader, Source.read, if_neg enough, bind, Except.bind] at read
    cases read

/-- The records that are read end within the source. -/
theorem endOffset_readRecords_le (source : Source) :
    source.readRecords.endOffset ≤ source.bytes.length := by
  rw [readRecords, Contents.endOffset, List.length_map, Record.length_whole, Nat.zero_add]
  exact Nat.mul_div_le _ _

/-- Behind the header there is room for all records that are read. -/
theorem endOffset_behind_header_le (read : source.readHeader = .ok (header, rest)) :
    Header.size + rest.readRecords.endOffset ≤ source.bytes.length := by
  obtain ⟨enough, behind⟩ := rest_of_readHeader read
  have within := endOffset_readRecords_le rest
  rw [behind, List.length_drop] at within
  omega

end Source

/-- The end of the records is told from the end of the header on, or from the start of the file. -/
theorem Contents.endOffset_behind_header (source : Source) :
    Contents.endOffset { source.readRecords with start := Header.size } =
      Header.size + source.readRecords.endOffset := by
  rw [endOffset, endOffset, Source.readRecords, Nat.zero_add]

namespace Inspect

variable {disk : Disk} {content : Bytes} {header : Header} {rest : Source}

/-- A regular file that is too short for a header. -/
theorem inspect_of_readHeader_error {error : IoError} (calm : disk.faults = {})
    (present : disk.node = .file content) (path : String)
    (refused : Source.readHeader { bytes := content } = .error error) :
    inspect path disk =
      failure [] (warnings path) ("reading cache header: " ++ error.message) := by
  simp [inspect, Disk.openForReading, Disk.length, Disk.source, calm, present, refused]

theorem inspect_of_readHeader (calm : disk.faults = {}) (present : disk.node = .file content)
    (path : String) (read : Source.readHeader { bytes := content } = .ok (header, rest)) :
    inspect path disk =
      if header = .current then
        ⟨headerLines path header ++ contentLines content.length rest.readRecords, warnings path, 0⟩
      else
        failure (headerLines path header) (warnings path)
          ("cache file was written by an incompatible build: "
            ++ (CacheError.layoutMismatch header .current).message) := by
  by_cases same : header = .current <;>
    simp [inspect, Disk.openForReading, Disk.length, Disk.source, calm, present, read, Header.check, same]

/-- Loading cuts a file that is read behind its last whole record, where the torn end begins. -/
theorem load_cuts_torn_end (calm : disk.faults = {}) (present : disk.node = .file content)
    (read : Source.readHeader { bytes := content } = .ok (.current, rest)) (path : String) :
    (disk.load path).value = { rest.readRecords with start := Header.size } ∧
      (disk.load path).disk.node =
        .file (content.take (Header.size + rest.readRecords.endOffset)) := by
  have trims : disk.faults.trimming = none := by rw [calm]
  have cached := Source.readCache_of_readHeader read
  rw [if_pos rfl, ← Disk.readCache_calm calm present] at cached
  have inside := Source.endOffset_behind_header_le read
  rw [← Contents.endOffset_behind_header] at inside ⊢
  obtain ⟨value, left⟩ := Disk.load_of_read trims present cached inside path
  exact ⟨value, congrArg Disk.node left⟩

/-- The report tells of a torn end exactly if cutting it off changes the file. -/
theorem torn_line_eq (content : Bytes) (contents : Contents) (lines : List String) :
    (if 0 < tornLength content.length contents then lines else []) =
      if content.take (Header.size + contents.endOffset) = content then [] else lines := by
  rw [tornLength]
  by_cases whole : content.length ≤ Header.size + contents.endOffset
  · rw [if_neg (by omega), if_pos (List.take_of_length_le whole)]
  · have cut : content.take (Header.size + contents.endOffset) ≠ content := fun same => by
      have length := congrArg List.length same
      rw [List.length_take] at length
      omega
    rw [if_pos (by omega), if_neg cut]

/-- On a regular file the report ends well exactly if the content can be read as a cache. Then it counts
and lists the keys that are read, and tells of a torn end exactly if loading cuts the file, by as many
bytes as loading cuts off. For a file of another build it shows the header that the error names. What
follows the records is never a negative number of bytes. -/
theorem inspect_agrees_with_load (calm : disk.faults = {}) (present : disk.node = .file content)
    (path : String) :
    ((inspect path disk).status = 0 ↔
      ∃ contents, Source.readCache { bytes := content } = .ok contents) ∧
    ((inspect path disk).status = 0 ∨ (inspect path disk).status = 1) ∧
    (∀ contents, Source.readCache { bytes := content } = .ok contents →
      ∃ left torn, (disk.load path).disk.node = .file left ∧ (disk.load path).value = contents ∧
        left <+: content ∧ left.length = contents.endOffset ∧ left.length + torn = content.length ∧
        (inspect path disk).output =
          ["file:      " ++ path, "version:   " ++ toString Header.current.version,
            "key size:  " ++ toString Header.current.keySize ++ " bytes",
            "records:   " ++ toString contents.keys.length,
            "skipped:   " ++ toString contents.skipped] ++
          (if left = content then [] else ["torn tail: " ++ toString torn ++ " bytes"]) ++
          contents.keys.zipIdx.map fun (key, index) =>
            Text.alignedRight 6 (toString index) ++ "  " ++ key.describe) ∧
    (∀ found expected,
      Source.readCache { bytes := content } = .error (.layoutMismatch found expected) →
      inspect path disk = ⟨["file:      " ++ path, "version:   " ++ toString found.version,
          "key size:  " ++ toString found.keySize ++ " bytes"],
        warnings path ++ [.error ("cache file was written by an incompatible build: " ++
          (CacheError.layoutMismatch found expected).message)], 1⟩) ∧
    ∀ header rest, Source.readHeader { bytes := content } = .ok (header, rest) →
      Header.size + rest.readRecords.endOffset ≤ content.length := by
  cases read : Source.readHeader { bytes := content } with
  | error error =>
      rw [inspect_of_readHeader_error calm present path read,
        Source.readCache_of_readHeader_error read]
      simp [failure]
  | ok found =>
      obtain ⟨header, rest⟩ := found
      have cached := Source.readCache_of_readHeader read
      have room := Source.endOffset_behind_header_le read
      rw [inspect_of_readHeader calm present path read, cached]
      by_cases current : header = .current
      · subst current
        rw [if_pos rfl, if_pos rfl]
        obtain ⟨value, left⟩ := load_cuts_torn_end calm present read path
        refine ⟨⟨fun _ => ⟨_, rfl⟩, fun _ => rfl⟩, Or.inl rfl, ?_, nofun, ?_⟩
        · rintro _ ⟨⟩
          refine ⟨_, tornLength content.length rest.readRecords, left, value,
            List.take_prefix _ _, ?_, ?_, ?_⟩
          · rw [List.length_take_of_le room, Contents.endOffset_behind_header]
          · rw [List.length_take_of_le room, tornLength, Nat.add_sub_cancel' room]
          · simp only [contentLines, torn_line_eq, headerLines, keyLine, List.append_assoc]
            rfl
        · rintro _ _ ⟨⟩
          exact room
      · rw [if_neg current, if_neg current]
        refine ⟨by simp [failure], Or.inr rfl, nofun, ?_, ?_⟩
        · rintro _ _ ⟨⟩
          rfl
        · rintro _ _ ⟨⟩
          exact room

/-- A cache file with one record, of which one byte more was written. -/
def tornBehindFirst : Disk := { node := .file (Record.file [.blank] ++ [0]) }

theorem inspect_agrees_with_load_torn : (inspect "old.scache" tornBehindFirst).status = 0 ∧
    (tornBehindFirst.load "old.scache").disk.node = .file (Record.file [.blank]) ∧
    "torn tail: 1 bytes" ∈ (inspect "old.scache" tornBehindFirst).output := by
  have short : [(0 : UInt8)].length < Record.size := by decide
  have read := Source.readCache_file [.blank] [0] short
  have calm : tornBehindFirst.faults = {} := rfl
  obtain ⟨status, _, agrees, _⟩ := inspect_agrees_with_load calm rfl "old.scache"
  obtain ⟨left, torn, node, _, front, ends, whole, output⟩ := agrees _ read
  rw [Contents.endOffset_ofKeys] at ends
  have one : torn = 1 := by
    rw [ends, List.length_append, List.length_singleton] at whole
    exact Nat.add_left_cancel whole
  have kept : left = Record.file [.blank] := by
    rw [List.prefix_iff_eq_take.mp front, ends, List.take_left]
  have cut : left ≠ Record.file [.blank] ++ [0] := fun same => by
    simp [kept] at same
  refine ⟨status.mpr ⟨_, read⟩, kept ▸ node, ?_⟩
  rw [output, if_neg cut, one]
  exact List.mem_append_left _ (List.mem_append_right _ (List.mem_singleton.mpr (by decide)))

end Inspect

end PipelineCache

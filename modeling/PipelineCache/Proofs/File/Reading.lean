import PipelineCache.Proofs.StoredForm
import PipelineCache.Proofs.Writer.Retention

/-! What is read from a file of any content. Records stand one behind the other at fixed places, so each
has a number, and whether it is read depends on its own bytes only. A reader that goes through the file
record by record, counting what it keeps and what it passes over, finds exactly the records whose digest
is right, and knows each damaged one by its number. Damage to some records therefore leaves all others,
and a file that is cut off keeps the records in front of the cut. -/

namespace PipelineCache

namespace Record

variable {content record : Bytes} {index : Nat}

/-- The record with a number, in the content of a file. -/
def slice (content : Bytes) (index : Nat) : Bytes :=
  (content.drop (Header.size + size * index)).take size

/-- How many whole records stand behind the header. -/
def count (content : Bytes) : Nat := (content.length - Header.size) / size

/-- The digest in front of a record is that of the rest. -/
def IsIntact (record : Bytes) : Prop :=
  record.take digestSize = Sha256.digest (record.drop digestSize)

instance (record : Bytes) : Decidable (IsIntact record) :=
  inferInstanceAs (Decidable (_ = _))

theorem blocks_eq_map (count : Nat) (bytes : Bytes) :
    blocks count bytes = (List.range count).map fun index => (bytes.drop (size * index)).take size := by
  induction count generalizing bytes with
  | zero => rfl
  | succ count ih =>
      rw [blocks, ih, List.range_succ_eq_map, List.map_cons, List.map_map, Nat.mul_zero, List.drop_zero]
      congr 1
      apply List.map_congr_left
      intro index _
      rw [List.drop_drop, Function.comp_apply, Nat.succ_eq_add_one, Nat.mul_add, Nat.mul_one,
        Nat.add_comm]

theorem whole_drop_header (content : Bytes) :
    whole (content.drop Header.size) = (List.range (count content)).map (slice content) := by
  rw [whole, List.length_drop, blocks_eq_map]
  apply List.map_congr_left
  intro index _
  rw [slice, List.drop_drop]

theorem length_slice (inside : index < count content) : (slice content index).length = size := by
  have enough : size * (index + 1) ≤ content.length - Header.size := by
    calc size * (index + 1) ≤ size * count content := Nat.mul_le_mul_left size inside
      _ ≤ content.length - Header.size := Nat.mul_div_le _ _
  rw [Nat.mul_add, Nat.mul_one] at enough
  rw [slice, List.length_take, List.length_drop]
  have positive := size_pos
  omega

theorem length_drop_digest (whole : record.length = size) :
    (record.drop digestSize).length = PipelineKey.size := by
  rw [List.length_drop, whole]
  rfl

theorem ofBytes?_drop (whole : record.length = size) : PipelineKey.ofBytes? (record.drop digestSize) =
    some (PipelineKey.codec.decode (record.drop digestSize)) :=
  if_pos (length_drop_digest whole)

/-- An intact record is read as the key whose stored form it holds, and a damaged one is not read. -/
theorem decode?_eq (whole : record.length = size) : decode? record =
    if IsIntact record then some (PipelineKey.codec.decode (record.drop digestSize)) else none := by
  have digest : (PipelineKey.codec.decode (record.drop digestSize)).digest =
      Sha256.digest (record.drop digestSize) := by
    rw [PipelineKey.digest, PipelineKey.toBytes_decode _ (length_drop_digest whole)]
  by_cases intact : IsIntact record
  · rw [if_pos intact]
    exact if_pos (digest.trans intact.symm)
  · rw [if_neg intact]
    exact if_neg fun same => intact (same.symm.trans digest)

/-- The keys that are read are those whose stored form stands in the intact records. -/
theorem map_some_filterMap_decode? {records : List Bytes}
    (sized : ∀ record ∈ records, record.length = size) :
    (records.filterMap decode?).map some =
      (records.filter (IsIntact ·)).map fun record => PipelineKey.ofBytes? (record.drop digestSize) := by
  induction records with
  | nil => rfl
  | cons record records ih =>
      obtain ⟨whole, others⟩ := List.forall_mem_cons.mp sized
      by_cases intact : IsIntact record
      · rw [List.filterMap_cons, decode?_eq whole, if_pos intact]
        simp [intact, ih others, ofBytes?_drop whole]
      · rw [List.filterMap_cons, decode?_eq whole, if_neg intact]
        simp [intact, ih others]

end Record

/-! ### Reading record by record -/

namespace Contents

/-- What is said about a damaged record. -/
def passedOver (index : Nat) : Message :=
  .debug ("state cache: skipping record " ++ toString index ++ " (digest mismatch)")

/-- The numbers of the damaged records, where the first one has a given number. -/
def damagedFrom (first : Nat) (records : List (Option PipelineKey)) : List Nat :=
  (records.zipIdx first).filterMap fun (record, index) => if record.isNone then some index else none

/-- What the whole records behind the header give, one by one. -/
def behindHeader (content : Bytes) : Contents where
  start := Header.size
  records := (List.range (Record.count content)).map fun index =>
    Record.decode? (Record.slice content index)

theorem messages_eq (contents : Contents) :
    contents.messages = (damagedFrom 0 contents.records).map passedOver := rfl

theorem damagedFrom_cons (first : Nat) (record : Option PipelineKey)
    (records : List (Option PipelineKey)) : damagedFrom first (record :: records) =
      (if record.isNone then [first] else []) ++ damagedFrom (first + 1) records := by
  cases record <;> rfl

end Contents

/-- What a reader has found so far. -/
structure Findings where
  keys : List PipelineKey := []
  skipped : Nat := 0
  endOffset : Nat := 0
  messages : List Message := []

namespace Findings

/-- Keeps the key of a record whose digest is right. Another record is passed over, under the number of
records that came before it. -/
def note (findings : Findings) (digest : Bytes) (key : PipelineKey) : Findings :=
  let passed := { findings with endOffset := findings.endOffset + Record.size }
  if key.digest = digest then { passed with keys := findings.keys ++ [key] }
  else
    { passed with
      skipped := findings.skipped + 1
      messages := findings.messages ++
        [Contents.passedOver (findings.keys.length + findings.skipped)] }

/-- What was found, and then what further records give, each read or damaged. -/
def after (findings : Findings) (records : List (Option PipelineKey)) : Findings where
  keys := findings.keys ++ records.filterMap id
  skipped := findings.skipped + records.countP Option.isNone
  endOffset := findings.endOffset + Record.size * records.length
  messages := findings.messages ++
    (Contents.damagedFrom (findings.keys.length + findings.skipped) records).map Contents.passedOver

theorem after_nil (findings : Findings) : findings.after [] = findings := by
  simp [after, Contents.damagedFrom]

theorem after_note (findings : Findings) (digest : Bytes) (key : PipelineKey)
    (records : List (Option PipelineKey)) : (findings.note digest key).after records =
      findings.after ((if key.digest = digest then some key else none) :: records) := by
  have offset : findings.endOffset + Record.size + Record.size * records.length =
      findings.endOffset + Record.size * (records.length + 1) := by
    rw [Nat.mul_add, Nat.mul_one, Nat.add_assoc, Nat.add_comm Record.size]
  by_cases intact : key.digest = digest
  · simp [after, note, intact, Contents.damagedFrom_cons, offset, Nat.add_right_comm]
  · simp [after, note, intact, Contents.damagedFrom_cons, offset, Nat.add_assoc, Nat.add_comm 1]

end Findings

namespace Source

/-- Reads a digest and then a key, unless one of them is cut short. -/
def next? (source : Source) : Option (Bytes × PipelineKey × Source) :=
  match source.read Record.digestSize with
  | .error _ => none
  | .ok (digest, behind) =>
      match behind.read PipelineKey.size with
      | .error _ => none
      | .ok (bytes, rest) => (PipelineKey.ofBytes? bytes).map fun key => (digest, key, rest)

theorem read_of_le {source : Source} {count : Nat} (enough : count ≤ source.bytes.length) :
    source.read count =
      .ok (source.bytes.take count, { source with bytes := source.bytes.drop count }) :=
  if_pos enough

theorem read_of_lt {source : Source} {count : Nat} (short : source.bytes.length < count) :
    source.read count = .error (source.failure.getD .shortRead) :=
  if_neg (Nat.not_le.mpr short)

theorem next?_eq (source : Source) : source.next? =
    if Record.size ≤ source.bytes.length then
      some (source.bytes.take Record.digestSize,
        PipelineKey.codec.decode ((source.bytes.take Record.size).drop Record.digestSize),
        { source with bytes := source.bytes.drop Record.size })
    else none := by
  have sum : Record.size = Record.digestSize + PipelineKey.size := rfl
  by_cases first : source.bytes.length < Record.digestSize
  · rw [next?, read_of_lt first, if_neg (by omega)]
  have digest := read_of_le (Nat.not_lt.mp first)
  by_cases second : (source.bytes.drop Record.digestSize).length < PipelineKey.size
  · rw [List.length_drop] at second
    rw [if_neg (by omega), next?, digest]
    simp only
    rw [read_of_lt (by simpa using second)]
  · rw [List.length_drop] at second
    have enough : Record.size ≤ source.bytes.length := by omega
    have whole : (source.bytes.take Record.size).length = Record.size := List.length_take_of_le enough
    have cut : (source.bytes.drop Record.digestSize).take PipelineKey.size =
        (source.bytes.take Record.size).drop Record.digestSize := by
      rw [List.drop_take, sum, Nat.add_sub_cancel_left]
    rw [if_pos enough, next?, digest]
    simp only
    rw [read_of_le (by simpa using second)]
    simp only [cut, Record.ofBytes?_drop whole, Option.map_some, List.drop_drop, ← sum]

/-- Reads on, record by record, until no whole record is left. -/
def readOn (source : Source) (findings : Findings) : Findings :=
  match _ : source.next? with
  | none => findings
  | some (digest, key, rest) => rest.readOn (findings.note digest key)
termination_by source.bytes.length
decreasing_by
  rename_i found
  rw [next?_eq] at found
  obtain ⟨enough, same⟩ := Option.ite_none_right_eq_some.mp found
  cases same
  have positive := Record.size_pos
  rw [List.length_drop]
  omega

theorem records_of_next? {source rest : Source} {digest : Bytes} {key : PipelineKey}
    (found : source.next? = some (digest, key, rest)) : source.readRecords.records =
      (if key.digest = digest then some key else none) :: rest.readRecords.records := by
  rw [next?_eq] at found
  obtain ⟨enough, same⟩ := Option.ite_none_right_eq_some.mp found
  cases same
  have count : source.bytes.length / Record.size =
      (source.bytes.drop Record.size).length / Record.size + 1 := by
    rw [List.length_drop, ← Nat.add_div_right _ Record.size_pos, Nat.sub_add_cancel enough]
  have inside : Record.digestSize ≤ Record.size := Nat.le_add_right _ _
  have front : (source.bytes.take Record.size).take Record.digestSize =
      source.bytes.take Record.digestSize := by
    rw [List.take_take, Nat.min_eq_left inside]
  rw [readRecords, Record.whole, count, Record.blocks, List.map_cons, Record.decode?, front]
  rfl

theorem records_of_next?_eq_none {source : Source} (ended : source.next? = none) :
    source.readRecords.records = [] := by
  rw [next?_eq] at ended
  have short : source.bytes.length < Record.size := by simpa using ended
  rw [readRecords, Record.whole, Nat.div_eq_of_lt short]
  rfl

/-- Reading record by record finds what reading all records at once does. -/
theorem readOn_eq (source : Source) (findings : Findings) :
    source.readOn findings = findings.after source.readRecords.records := by
  induction source, findings using readOn.induct with
  | case1 source findings ended =>
      rw [readOn, ended, records_of_next?_eq_none ended, Findings.after_nil]
  | case2 source findings digest key rest found ih =>
      rw [readOn, found, records_of_next? found, ← Findings.after_note]
      exact ih

/-! ### Files of any content -/

theorem readCache_of_lt {content : Bytes} (short : content.length < Header.size) :
    readCache { bytes := content } = .error (.io .shortRead) := by
  have refused : ¬ Header.size ≤ content.length := Nat.not_le.mpr short
  simp only [readCache, readHeader, read, if_neg refused]
  rfl

theorem readCache_of_foreign {content : Bytes} (enough : Header.size ≤ content.length)
    (foreign : content.take Header.size ≠ Header.current.toBytes) :
    ∃ found : Header, found.toBytes = content.take Header.size ∧
      readCache { bytes := content } = .error (.layoutMismatch found .current) := by
  have whole : Header.codec.size ≤ (content.take Header.size).length := by
    rw [List.length_take]
    exact Nat.le_min.mpr ⟨Nat.le_refl _, enough⟩
  have written : (Header.codec.decode (content.take Header.size)).toBytes = content.take Header.size := by
    rw [Header.toBytes, Header.lawful_codec.encode_decode _ whole, List.take_take]
    exact congrArg (fun count => content.take count) (Nat.min_self Header.size)
  have other : Header.codec.decode (content.take Header.size) ≠ .current := fun same => by
    rw [same] at written
    exact foreign written.symm
  refine ⟨_, written, ?_⟩
  simp [readCache, readHeader, read, enough, bind, Except.bind, pure, Except.pure, mapError_ok,
    Header.check, other]

theorem readCache_of_current {content : Bytes}
    (current : content.take Header.size = Header.current.toBytes) :
    readCache { bytes := content } = .ok (.behindHeader content) := by
  have parts := readCache_header_append (content.drop Header.size) none
  rw [← current, List.take_append_drop, Record.whole_drop_header, List.map_map] at parts
  exact parts

end Source

namespace Contents

/-- The contents are what stands in the whole records behind the header: the keys of the intact ones in
their order, the number of the others, the place where the last one ends, and a message for each damaged
one with its own number. This is also what a reader finds that goes on from the header record by record.
-/
structure ReadFrom (contents : Contents) (content : Bytes) : Prop where
  keys : contents.keys.map some =
    (((List.range (Record.count content)).map (Record.slice content)).filter (Record.IsIntact ·)).map
      fun record => PipelineKey.ofBytes? (record.drop Record.digestSize)
  skipped : contents.skipped + contents.keys.length = Record.count content
  endOffset : contents.endOffset = Header.size + Record.size * Record.count content
  messages : contents.messages = ((List.range (Record.count content)).filter fun index =>
    ¬ Record.IsIntact (Record.slice content index)).map passedOver
  recordwise : Source.readOn { bytes := content.drop Header.size } { endOffset := Header.size } =
    ⟨contents.keys, contents.skipped, contents.endOffset, contents.messages⟩

theorem damagedFrom_range (count : Nat) (read : Nat → Option PipelineKey) :
    damagedFrom 0 ((List.range count).map read) =
      (List.range count).filter fun index => (read index).isNone := by
  induction count with
  | zero => rfl
  | succ count ih =>
      simp only [damagedFrom] at ih ⊢
      rw [List.range_succ, List.map_append, List.zipIdx_append, List.filterMap_append, ih,
        List.filter_append]
      cases newest : read count with
      | none => simp [newest]
      | some key => simp [newest]

theorem skipped_add_length (contents : Contents) :
    contents.skipped + contents.keys.length = contents.records.length := by
  have read : contents.keys.length = contents.records.countP fun record => ¬ record.isNone := by
    rw [keys, List.length_filterMap_eq_countP]
    apply List.countP_congr
    intro record _
    cases record <;> simp
  rw [read, skipped]
  exact (List.length_eq_countP_add_countP _).symm

theorem readFrom_behindHeader (content : Bytes) : (behindHeader content).ReadFrom content where
  keys := by
    have sized : ∀ record ∈ (List.range (Record.count content)).map (Record.slice content),
        record.length = Record.size := by
      intro record member
      obtain ⟨index, inside, rfl⟩ := List.mem_map.mp member
      exact Record.length_slice (List.mem_range.mp inside)
    rw [← Record.map_some_filterMap_decode? sized, keys, behindHeader]
    simp [List.filterMap_map]
  skipped := by
    rw [skipped_add_length, behindHeader, List.length_map, List.length_range]
  endOffset := by
    rw [endOffset, behindHeader, List.length_map, List.length_range]
  messages := by
    rw [messages_eq, behindHeader, damagedFrom_range]
    apply congrArg
    apply List.filter_congr
    intro index inside
    have whole := Record.length_slice (List.mem_range.mp inside)
    rw [Record.decode?_eq whole]
    by_cases intact : Record.IsIntact (Record.slice content index) <;> simp [intact]
  recordwise := by
    have records : (Source.readRecords { bytes := content.drop Header.size }).records =
        (behindHeader content).records := by
      rw [Source.readRecords, Record.whole_drop_header, List.map_map]
      rfl
    rw [Source.readOn_eq, records]
    simp [Findings.after, messages_eq, keys, Contents.skipped, Contents.endOffset, behindHeader]

end Contents

/-! ### Damage and cuts -/

namespace Record

/-- A byte of a file belongs to the record with a number. -/
def Covers (index offset : Nat) : Prop :=
  Header.size + size * index ≤ offset ∧ offset < Header.size + size * (index + 1)

instance (index offset : Nat) : Decidable (Covers index offset) :=
  inferInstanceAs (Decidable (_ ∧ _))

/-- Two contents of one length differ only in some records. -/
structure DamagedIn (damaged : List Nat) (content changed : Bytes) : Prop where
  length : changed.length = content.length
  elsewhere : ∀ offset, (∀ index ∈ damaged, ¬ Covers index offset) →
    changed[offset]? = content[offset]?

theorem damagedIn_set {index offset : Nat} (covers : Covers index offset) (content : Bytes)
    (byte : UInt8) : DamagedIn [index] content (content.set offset byte) where
  length := List.length_set
  elsewhere other apart := by
    apply List.getElem?_set_ne
    rintro rfl
    exact apart index (List.mem_singleton_self _) covers

theorem take_header_of_damagedIn {damaged : List Nat} {content changed : Bytes}
    (hurt : DamagedIn damaged content changed) :
    changed.take Header.size = content.take Header.size := by
  apply List.ext_getElem?
  intro offset
  rw [List.getElem?_take, List.getElem?_take]
  split
  · rename_i within
    apply hurt.elsewhere
    rintro index - ⟨behind, -⟩
    omega
  · rfl

theorem slice_of_damagedIn {damaged : List Nat} {content changed : Bytes} {index : Nat}
    (hurt : DamagedIn damaged content changed) (spared : index ∉ damaged) :
    slice changed index = slice content index := by
  apply List.ext_getElem?
  intro offset
  rw [slice, slice, List.getElem?_take, List.getElem?_take]
  split
  · rename_i within
    rw [List.getElem?_drop, List.getElem?_drop]
    apply hurt.elsewhere
    rintro other member ⟨first, last⟩
    have size : size = 1180 := rfl
    rw [size] at within first last
    have same : other = index := by omega
    exact spared (same ▸ member)
  · rfl

theorem count_file (keys : List PipelineKey) : count (file keys) = keys.length := by
  rw [count, file, List.length_append, Header.length_toBytes, Nat.add_sub_cancel_left,
    length_flatMap_encode, Nat.mul_div_cancel_left _ size_pos]

theorem take_header_file (keys : List PipelineKey) :
    (file keys).take Header.size = Header.current.toBytes := by
  rw [file, List.take_left' (Header.length_toBytes _)]

theorem decode?_slice_file {keys : List PipelineKey} {index : Nat} (inside : index < keys.length) :
    decode? (slice (file keys) index) = keys[index]? := by
  have written := whole_flatMap_encode keys [] size_pos
  have read := whole_drop_header (file keys)
  rw [List.append_nil] at written
  rw [file, List.drop_left' (Header.length_toBytes _), written, ← file, count_file] at read
  have there := congrArg (fun records => records[index]?) read
  rw [List.getElem?_map, List.getElem?_map, List.getElem?_range inside,
    List.getElem?_eq_getElem inside] at there
  rw [← Option.some.inj there, decode?_encode, List.getElem?_eq_getElem inside]

/-- The keys of the records that were left alone, in their order. -/
def spared (damaged : List Nat) (keys : List PipelineKey) : List PipelineKey :=
  ((List.range keys.length).filter (· ∉ damaged)).filterMap (keys[·]?)

theorem file_eq_append (keys : List PipelineKey) (count : Nat) :
    file keys = file (keys.take count) ++ (keys.drop count).flatMap encode := by
  rw [file, file, List.append_assoc, ← List.flatMap_append, List.take_append_drop]

end Record

namespace Source

theorem readCache_of_damagedIn {keys : List PipelineKey} {damaged : List Nat} {changed : Bytes}
    (hurt : Record.DamagedIn damaged (Record.file keys) changed) :
    ∃ contents, readCache { bytes := changed } = .ok contents ∧
      contents.records = (List.range keys.length).map (fun index =>
        if index ∈ damaged then Record.decode? (Record.slice changed index) else keys[index]?) ∧
      (Record.spared damaged keys).Sublist contents.keys := by
  have current := (Record.take_header_of_damagedIn hurt).trans (Record.take_header_file keys)
  have count : Record.count changed = keys.length := by
    rw [← Record.count_file keys, Record.count, hurt.length, Record.count]
  have records : (Contents.behindHeader changed).records = (List.range keys.length).map (fun index =>
      if index ∈ damaged then Record.decode? (Record.slice changed index) else keys[index]?) := by
    rw [Contents.behindHeader, count]
    apply List.map_congr_left
    intro index inside
    split
    · rfl
    · rename_i alone
      rw [Record.slice_of_damagedIn hurt alone, Record.decode?_slice_file (List.mem_range.mp inside)]
  refine ⟨_, readCache_of_current current, records, ?_⟩
  have alone : Record.spared damaged keys = ((List.range keys.length).filter (· ∉ damaged)).filterMap
      (fun index =>
        if index ∈ damaged then Record.decode? (Record.slice changed index) else keys[index]?) := by
    apply List.filterMap_congr
    intro index member
    rw [if_neg (of_decide_eq_true (List.mem_filter.mp member).2)]
  rw [alone, Contents.keys, records, List.filterMap_map]
  exact (List.filter_sublist).filterMap _

/-- A file that is cut off keeps the records that end before the cut. -/
theorem readCache_take_file (keys : List PipelineKey) {cut : Nat} (behind : Header.size ≤ cut) :
    readCache { bytes := (Record.file keys).take cut } =
      .ok (.ofKeys (keys.take ((cut - Header.size) / Record.size))) := by
  have parts := Record.file_eq_append keys ((cut - Header.size) / Record.size)
  have rest := Nat.div_add_mod (cut - Header.size) Record.size
  have torn := Nat.mod_lt (cut - Header.size) Record.size_pos
  revert parts rest torn
  generalize (cut - Header.size) / Record.size = kept
  intro parts rest torn
  have length : (Record.file (keys.take kept)).length =
      Header.size + Record.size * min kept keys.length := by
    rw [← Contents.endOffset_ofKeys, Contents.endOffset, Contents.ofKeys, List.length_map,
      List.length_take]
  have front : (Record.file (keys.take kept)).length ≤ cut := by
    have fewer := Nat.mul_le_mul_left Record.size (Nat.min_le_left kept keys.length)
    omega
  rw [parts, List.take_append, List.take_of_length_le front]
  apply readCache_file
  rw [List.length_take, length]
  rcases Nat.le_total kept keys.length with within | beyond
  · rw [Nat.min_eq_left within]
    omega
  · rw [List.drop_of_length_le beyond]
    exact Nat.lt_of_le_of_lt (Nat.min_le_right _ _) Record.size_pos

/-- What reading gives for every content of a file, and what follows for records that are written: they
read back, damage to some leaves the others in place and in order, and a cut keeps those before it. -/
theorem reads_exactly_whole_records :
    (Header.size = 8 ∧ Record.digestSize = 32 ∧ Record.size = 1180 ∧
      Header.current.toBytes = [2, 0, 0, 0, 124, 4, 0, 0] ∧ IoError.shortRead.kind = .unexpectedEnd) ∧
    (∀ content : Bytes,
      (content.length < Header.size → readCache { bytes := content } = .error (.io .shortRead)) ∧
      (Header.size ≤ content.length → content.take Header.size ≠ Header.current.toBytes →
        ∃ found : Header, found.toBytes = content.take Header.size ∧
          readCache { bytes := content } = .error (.layoutMismatch found .current)) ∧
      (content.take Header.size = Header.current.toBytes →
        ∃ contents, readCache { bytes := content } = .ok contents ∧ contents.ReadFrom content)) ∧
    ∀ keys : List PipelineKey,
      (∃ contents, readCache { bytes := Record.file keys } = .ok contents ∧ contents.keys = keys ∧
        contents.skipped = 0) ∧
      (∀ (damaged : List Nat) (changed : Bytes), Record.DamagedIn damaged (Record.file keys) changed →
        ∃ contents, readCache { bytes := changed } = .ok contents ∧
          contents.records = (List.range keys.length).map (fun index =>
            if index ∈ damaged then Record.decode? (Record.slice changed index) else keys[index]?) ∧
          (Record.spared damaged keys).Sublist contents.keys) ∧
      ∀ cut, Header.size ≤ cut → ∃ contents,
        readCache { bytes := (Record.file keys).take cut } = .ok contents ∧
        contents.keys = keys.take ((cut - Header.size) / Record.size) ∧ contents.skipped = 0 := by
  refine ⟨⟨rfl, rfl, rfl, rfl, rfl⟩, fun content => ⟨readCache_of_lt, readCache_of_foreign, ?_⟩,
    fun keys => ⟨?_, fun damaged changed => readCache_of_damagedIn, ?_⟩⟩
  · intro current
    exact ⟨_, readCache_of_current current, Contents.readFrom_behindHeader content⟩
  · have read := readCache_file keys [] Record.size_pos
    rw [List.append_nil] at read
    exact ⟨_, read, Contents.keys_ofKeys keys, Contents.skipped_ofKeys keys⟩
  · intro cut behind
    exact ⟨_, readCache_take_file keys behind, Contents.keys_ofKeys _, Contents.skipped_ofKeys _⟩

/-- The first byte behind the header is overwritten: the second of two records is still read. -/
theorem reads_exactly_whole_records_overwritten : ∃ contents,
    readCache { bytes := (Record.file [.blank, .blank]).set Header.size 0 } = .ok contents ∧
      contents.records[1]? = some (some .blank) ∧ [PipelineKey.blank].Sublist contents.keys := by
  have first : Record.Covers 0 Header.size := by decide
  have hurt := Record.damagedIn_set first (Record.file [.blank, .blank]) 0
  obtain ⟨contents, read, records, kept⟩ :=
    (reads_exactly_whole_records.2.2 [.blank, .blank]).2.1 [0] _ hurt
  refine ⟨contents, read, ?_, kept⟩
  rw [records]
  rfl

end Source

end PipelineCache

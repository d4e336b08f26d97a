import PipelineCache.Proofs.Writer.Preparation

/-! What a file that is written to gives back. Behind the header stand whole records only, the loaded
ones and then those that were appended; so as long as no append fails, the file holds the record of
every known key, and reading it back gives them all. -/

namespace PipelineCache

namespace Record

theorem length_of_mem_blocks {count : Nat} {bytes block : Bytes} (enough : count * size ≤ bytes.length)
    (member : block ∈ blocks count bytes) : block.length = size := by
  induction count generalizing bytes with
  | zero => cases member
  | succ count ih =>
      rw [Nat.succ_mul] at enough
      rcases List.mem_cons.mp member with rfl | later
      · rw [List.length_take]
        omega
      · exact ih (by rw [List.length_drop]; omega) later

theorem flatten_blocks (count : Nat) (bytes : Bytes) :
    (blocks count bytes).flatten = bytes.take (count * size) := by
  induction count generalizing bytes with
  | zero => rw [Nat.zero_mul, List.take_zero, blocks, List.flatten_nil]
  | succ count ih =>
      rw [blocks, List.flatten_cons, ih, Nat.succ_mul, Nat.add_comm, List.take_add]

end Record

namespace Disk

variable {disk changed : Disk} {keys : List PipelineKey} {key : PipelineKey} {path : String}
  {contents : Contents}

/-- A file of whole records stands at the path, those of some keys among them. -/
def Retains (disk : Disk) (keys : List PipelineKey) : Prop :=
  ∃ records : List Bytes, disk.node = .file (Header.current.toBytes ++ records.flatten) ∧
    (∀ record ∈ records, record.length = Record.size) ∧ ∀ key ∈ keys, Record.encode key ∈ records

theorem Retains.subset {more : List PipelineKey} (retains : disk.Retains more) (fewer : keys ⊆ more) :
    disk.Retains keys :=
  retains.imp fun _ ⟨present, sized, held⟩ => ⟨present, sized, fun key member => held key (fewer member)⟩

/-- Reading the file back gives the keys, unless reading itself fails. -/
theorem Retains.readCache (retains : disk.Retains keys) :
    ∃ contents, disk.calm.readCache = .ok contents ∧ keys ⊆ contents.keys := by
  obtain ⟨records, present, sized, held⟩ := retains
  have whole := Record.whole_flatten sized [] Record.size_pos
  rw [List.append_nil] at whole
  refine ⟨{ start := Header.size, records := records.map Record.decode? }, ?_, fun key member => ?_⟩
  · have read := Source.readCache_header_append records.flatten none
    rw [whole] at read
    simpa [Disk.readCache, openForReading, calm, present, source, mapError_ok, bind, Except.bind]
      using read
  · refine List.mem_filterMap.mpr ⟨some key, ?_, rfl⟩
    exact List.mem_map.mpr ⟨_, held key member, Record.decode?_encode key⟩

/-- A record that is appended in full joins the others. -/
theorem Retains.append (retains : disk.Retains keys)
    (appended : disk.appendRecord ⟨disk.generation⟩ key = (.ok (), changed)) :
    changed.Retains (keys ++ [key]) ∧ changed.generation = disk.generation := by
  obtain ⟨records, present, sized, held⟩ := retains
  have openable : disk.IsOpenable := Or.inr ⟨_, present⟩
  rw [appendRecord, append_eq_grown openable] at appended
  cases fate : disk.fate 0 with
  | some failure =>
      rw [fate] at appended
      cases appended
  | none =>
      rw [fate] at appended
      cases appended
      refine ⟨⟨records ++ [Record.encode key], ?_, fun record member => ?_, fun other member => ?_⟩, rfl⟩
      · simp [grown, present, Fate.through]
      · rcases List.mem_append.mp member with old | newest
        · exact sized record old
        · rw [List.mem_singleton.mp newest]
          exact Record.length_encode key
      · rcases List.mem_append.mp member with old | newest
        · exact List.mem_append_left _ (held other old)
        · rw [List.mem_singleton.mp newest]
          exact List.mem_append_right _ (List.mem_singleton_self _)

/-- Trimming leaves exactly the records that were read. -/
theorem node_trim {front rest : Bytes}
    (present : disk.node = .file (Header.current.toBytes ++ (front ++ rest)))
    (read : contents = { start := Header.size, records := (Record.whole front).map Record.decode? })
    (trimmed : (disk.trim path contents.endOffset).value = .ok ()) :
    (disk.trim path contents.endOffset).disk.node =
      .file (Header.current.toBytes ++ (Record.whole front).flatten) := by
  have header := Header.length_toBytes .current
  have short : front.length / Record.size * Record.size ≤ front.length := Nat.div_mul_le_self _ _
  have offset : contents.endOffset = Header.size + front.length / Record.size * Record.size := by
    rw [read, Contents.endOffset, List.length_map, Record.length_whole, Nat.mul_comm]
  have kept : (Header.current.toBytes ++ (front ++ rest)).take contents.endOffset =
      Header.current.toBytes ++ (Record.whole front).flatten := by
    rw [offset, ← header, List.take_length_add_append, Record.whole, Record.flatten_blocks,
      List.take_append_of_le_length short]
  have inside : contents.endOffset ≤ (Header.current.toBytes ++ (front ++ rest)).length := by
    rw [offset, List.length_append, header, List.length_append]
    omega
  simp only [trim, length, present] at trimmed ⊢
  split at trimmed
  · rename_i longer
    rw [if_pos longer]
    cases faulty : disk.faults.trimming with
    | some error =>
        simp only [truncate, faulty] at trimmed
        cases trimmed
    | none =>
        have exact : contents.endOffset - (Header.current.toBytes ++ (front ++ rest)).length = 0 :=
          Nat.sub_eq_zero_of_le inside
        simp only [truncate, faulty, present, Bytes.resize, exact, kept]
        simp [Bytes.zeros]
  · rename_i whole
    rw [if_neg whole, present, ← kept, List.take_of_length_le (Nat.not_lt.mp whole)]

theorem retains_trim (read : disk.readCache = .ok contents)
    (trimmed : (disk.trim path contents.endOffset).value = .ok ()) :
    (disk.trim path contents.endOffset).disk.Retains contents.keys := by
  obtain ⟨front, rest, present, same⟩ := exists_of_readCache read
  have sized : ∀ record ∈ Record.whole front, record.length = Record.size := fun record member =>
    Record.length_of_mem_blocks (Nat.div_mul_le_self _ _) member
  refine ⟨_, node_trim present same trimmed, sized, fun key member => ?_⟩
  rw [same] at member
  obtain ⟨read, among, rfl⟩ := List.mem_filterMap.mp member
  obtain ⟨record, there, decoded⟩ := List.mem_map.mp among
  rwa [← Record.eq_encode_of_decode? (sized record there) decoded]

theorem retains_startAfresh (begun : disk.startAfresh.1 = .ok ()) : disk.startAfresh.2.Retains [] := by
  refine ⟨[], ?_, List.forall_mem_nil _, List.forall_mem_nil _⟩
  rw [node_startAfresh begun, List.flatten_nil, List.append_nil]

/-- A file that was prepared holds the records of the keys that were loaded. -/
theorem retains_load (prepared : disk.Prepared path) :
    (disk.load path).disk.Retains (disk.load path).value.keys := by
  unfold Prepared at prepared
  cases read : disk.readCache with
  | ok contents =>
      rw [read] at prepared
      cases trimmed : (disk.trim path contents.endOffset).value with
      | ok _ =>
          have retains := retains_trim read trimmed
          simpa only [load, read, trimmed] using retains
      | error error =>
          have fresh := prepared.resolve_left fun kept => by
            rw [trimmed] at kept
            cases kept
          simp only [load, read, trimmed, (loadEmpty_eq ..).1, (loadEmpty_eq ..).2]
          exact retains_startAfresh fresh
  | error error =>
      rw [read] at prepared
      simp only [load, read, (loadEmpty_eq ..).1, (loadEmpty_eq ..).2]
      exact retains_startAfresh prepared

end Disk

/-- As long as a writer has its file open, the file holds the record of every key that it knows. -/
def Writer.Retained (writer : Writer) (disk : Disk) : Prop :=
  ∀ handle, writer.log = some handle → handle = ⟨disk.generation⟩ ∧ disk.Retains writer.known

theorem Writer.Retained.recorded {writer changed : Writer} {disk later : Disk} {key : PipelineKey}
    {recording : Recording} (retained : writer.Retained disk)
    (recorded : writer.Recorded disk key changed recording later) : changed.Retained later := by
  intro handle isOpen
  cases recorded with
  | duplicate _ => exact retained handle isOpen
  | closed _ closed =>
      rw [show writer.log = some handle from isOpen] at closed
      cases closed
  | written other _ _ log wrote =>
      obtain ⟨rfl, retains⟩ := retained other log
      obtain rfl : handle = ⟨disk.generation⟩ := Option.some.inj (isOpen.symm.trans log)
      obtain ⟨grown, same⟩ := retains.append wrote
      exact ⟨congrArg Handle.mk same.symm, grown⟩
  | failed => cases isOpen

namespace Cache

theorem distinct_subset (keys : List PipelineKey) : distinct keys ⊆ keys := by
  suffices grown : ∀ known : List PipelineKey, known ⊆ keys →
      ∀ later ⊆ keys, later.foldl (fun known key =>
        if key ∈ known then known else known ++ [key]) known ⊆ keys from
    grown [] (List.nil_subset _) keys (List.Subset.refl _)
  intro known inside later
  induction later generalizing known with
  | nil => exact fun _ => inside
  | cons key later ih =>
      intro more
      obtain ⟨first, others⟩ := List.cons_subset.mp more
      refine ih _ ?_ others
      show (if key ∈ known then known else known ++ [key]) ⊆ keys
      split
      · exact inside
      · exact List.append_subset.mpr ⟨inside, List.cons_subset.mpr ⟨first, List.nil_subset _⟩⟩

/-- A cache that starts with a file that was prepared retains what it has loaded. -/
theorem retained_start {config : CacheConfig} {disk : Disk} {path : String}
    (named : config.filePath = some path) (prepared : disk.Prepared path) :
    (start config disk).value.writer.Retained (start config disk).disk := by
  intro handle isOpen
  obtain ⟨other, also, writes, opened⟩ := opened_start isOpen
  obtain rfl : path = other := Option.some.inj (named.symm.trans also)
  obtain ⟨left, _, known, _⟩ := start_eq named writes opened
  rw [left, known]
  exact ⟨(Disk.openable_of_openForAppend opened).2,
    (Disk.retains_load prepared).subset (distinct_subset _)⟩

end Cache

end PipelineCache

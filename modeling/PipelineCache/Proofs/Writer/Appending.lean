import PipelineCache.Proofs.File.Recovery
import PipelineCache.Proofs.Writer.Step

/-! What one open file comes to hold. Each append takes the next fate of the disk; as long as these are
kind, the records of all new keys stand in the file one behind the other. The first append that fails
leaves a part of its record behind, and none follows it. -/

namespace PipelineCache

namespace Disk

variable {disk start : Disk} {content bytes : Bytes}

/-- What awaits one of the writes to come to an open file; the device without room fails them all. -/
def fate (disk : Disk) (index : Nat) : Fate :=
  match disk.node with
  | .full => some (0, .system .noSpaceLeft)
  | _ => disk.faults.writing[index]?.join

/-- The disk after some writes that left bytes behind. -/
def grown (disk : Disk) (writes : Nat) (bytes : Bytes) : Disk :=
  { disk with
    node := match disk.node with
      | .file content => .file (content ++ bytes)
      | node => node
    faults := { disk.faults with writing := disk.faults.writing.drop writes } }

/-- What stands at the path can be opened for appending. -/
def IsOpenable (disk : Disk) : Prop := disk.node = .full ∨ ∃ content, disk.node = .file content

theorem grown_zero (openable : disk.IsOpenable) : disk.grown 0 [] = disk := by
  obtain ⟨node, vacancy, prospect, generation, faults⟩ := disk
  rcases openable with full | ⟨content, present⟩
  · obtain rfl : node = .full := full
    rfl
  · obtain rfl : node = .file content := present
    simp [grown]

theorem grown_grown (disk : Disk) (first second : Nat) (early late : Bytes) :
    (disk.grown first early).grown second late = disk.grown (first + second) (early ++ late) := by
  cases present : disk.node <;> simp [grown, present]

theorem fate_grown (disk : Disk) (writes index : Nat) (bytes : Bytes) :
    (disk.grown writes bytes).fate index = disk.fate (writes + index) := by
  cases present : disk.node <;> simp [grown, fate, present]

theorem openable_grown (openable : disk.IsOpenable) (writes : Nat) (bytes : Bytes) :
    (disk.grown writes bytes).IsOpenable := by
  rcases openable with full | ⟨content, present⟩
  · exact Or.inl (by simp [grown, full])
  · exact Or.inr ⟨content ++ bytes, by simp [grown, present]⟩

theorem generation_grown (disk : Disk) (writes : Nat) (bytes : Bytes) :
    (disk.grown writes bytes).generation = disk.generation := rfl

theorem content?_grown (present : disk.content? = some content) (writes : Nat) (bytes : Bytes) :
    (disk.grown writes bytes).content? = some (content ++ bytes) := by
  unfold content? at present
  split at present
  · rename_i there
    cases present
    simp [content?, grown, there]
  · cases present

theorem append_eq_grown (openable : disk.IsOpenable) (bytes : Bytes) :
    disk.append ⟨disk.generation⟩ bytes =
      (match disk.fate 0 with
        | none => .ok ()
        | some (_, error) => .error error,
        disk.grown 1 ((disk.fate 0).through bytes)) := by
  obtain ⟨node, vacancy, prospect, generation, faults⟩ := disk
  obtain ⟨openingToRead, reading, makingParents, creating, openingToAppend, trimming, writing⟩ := faults
  rcases openable with full | ⟨content, present⟩
  · obtain rfl : node = .full := full
    cases writing <;> simp [append, nextWrite, fate, grown, fails]
  · obtain rfl : node = .file content := present
    rcases writing with _ | ⟨_ | ⟨count, error⟩, later⟩ <;>
      simp [append, nextWrite, fate, grown, Fate.through]

theorem openable_of_openForAppend {handle : Handle} (opened : disk.openForAppend = .ok handle) :
    disk.IsOpenable ∧ handle = ⟨disk.generation⟩ := by
  unfold openForAppend at opened
  split at opened
  · cases opened
  · split at opened
    · cases opened
    · rename_i content present
      cases opened
      exact ⟨Or.inr ⟨content, present⟩, rfl⟩
    · rename_i full
      cases opened
      exact ⟨Or.inl full, rfl⟩
    · cases opened
    · cases opened

end Disk

/-- What the disk is like and how many records were written, once the writer has added some keys: all
records stand in the file, and it is still open, or those before the first append that failed. -/
inductive Persisted (start : Disk) (added : List PipelineKey) : Option Handle → Nat → Disk → Prop
  | whole (spared : ∀ index < added.length, start.fate index = none) :
      Persisted start added (some ⟨start.generation⟩) added.length
        (start.grown added.length (added.flatMap Record.encode))
  | broken (earlier later : List PipelineKey) (key : PipelineKey) (count : Nat) (error : IoError)
      (split : added = earlier ++ key :: later)
      (spared : ∀ index < earlier.length, start.fate index = none)
      (failed : start.fate earlier.length = some (count, error)) :
      Persisted start added none earlier.length (start.grown (earlier.length + 1)
        (earlier.flatMap Record.encode ++ (Record.encode key).take count))

namespace Persisted

variable {start disk changed : Disk} {added : List PipelineKey} {log : Option Handle} {records : Nat}
  {key : PipelineKey} {handle : Handle} {error : IoError}

theorem nothing (openable : start.IsOpenable) :
    Persisted start [] (some ⟨start.generation⟩) 0 start := by
  have whole : Persisted start [] _ _ _ := .whole fun _ impossible => nomatch impossible
  rwa [List.flatMap_nil, List.length_nil, Disk.grown_zero openable] at whole

/-- Once the file is closed, a new key changes nothing about it. -/
theorem remembered (persisted : Persisted start added none records disk) (key : PipelineKey) :
    Persisted start (added ++ [key]) none records disk := by
  cases persisted with
  | broken earlier later first count error split spared failed =>
      refine .broken earlier (later ++ [key]) first count error ?_ spared failed
      rw [split, List.append_assoc, List.cons_append]

theorem written (openable : start.IsOpenable)
    (persisted : Persisted start added (some handle) records disk)
    (appended : disk.appendRecord handle key = (.ok (), changed)) :
    Persisted start (added ++ [key]) (some handle) (records + 1) changed := by
  cases persisted with
  | whole spared =>
      have same := Disk.append_eq_grown (Disk.openable_grown openable added.length
        (added.flatMap Record.encode)) (Record.encode key)
      rw [Disk.generation_grown] at same
      rw [Disk.appendRecord, same, Disk.fate_grown, Disk.grown_grown, Nat.add_zero] at appended
      cases fate : start.fate added.length with
      | some failure =>
          rw [fate] at appended
          cases appended
      | none =>
          rw [fate] at appended
          cases appended
          have all : ∀ index < (added ++ [key]).length, start.fate index = none := by
            intro index inside
            rw [List.length_append, List.length_singleton] at inside
            rcases Nat.lt_succ_iff_lt_or_eq.mp inside with before | rfl
            · exact spared index before
            · exact fate
          have whole := Persisted.whole all
          rw [List.length_append, List.flatMap_append, List.flatMap_singleton] at whole
          exact whole

theorem failed (openable : start.IsOpenable)
    (persisted : Persisted start added (some handle) records disk)
    (appended : disk.appendRecord handle key = (.error error, changed)) :
    Persisted start (added ++ [key]) none records changed := by
  cases persisted with
  | whole spared =>
      have same := Disk.append_eq_grown (Disk.openable_grown openable added.length
        (added.flatMap Record.encode)) (Record.encode key)
      rw [Disk.generation_grown] at same
      rw [Disk.appendRecord, same, Disk.fate_grown, Disk.grown_grown, Nat.add_zero] at appended
      cases fate : start.fate added.length with
      | none =>
          rw [fate] at appended
          cases appended
      | some failure =>
          obtain ⟨count, error⟩ := failure
          rw [fate] at appended
          cases appended
          exact .broken added [] key count error rfl spared fate

/-- The records that were written are those before the first append that failed, if one did. -/
theorem written_eq (persisted : Persisted start added log records disk) :
    records ≤ added.length ∧ (∀ index < records, start.fate index = none) ∧
      (records = added.length ∨ (start.fate records).isSome) := by
  cases persisted with
  | whole spared => exact ⟨Nat.le_refl _, spared, Or.inl rfl⟩
  | broken earlier later key count error split spared failed =>
      refine ⟨?_, spared, Or.inr (by rw [failed]; rfl)⟩
      rw [split, List.length_append]
      exact Nat.le_add_right _ _

/-- Behind what the file held at the start stand the records that were written, and what the append that
failed has left. -/
theorem content_eq {content : Bytes} (persisted : Persisted start added log records disk)
    (present : start.content? = some content) : ∃ torn,
    disk.content? =
      some (content ++ ((added.take records).flatMap Record.encode ++ torn)) ∧
    (records = added.length → torn = []) ∧
    ∀ key, added[records]? = some key → ∃ count error,
      start.fate records = some (count, error) ∧ torn = (Record.encode key).take count := by
  cases persisted with
  | whole spared =>
      refine ⟨[], ?_, fun _ => rfl, fun key beyond => ?_⟩
      · rw [List.take_length, List.append_nil]
        exact Disk.content?_grown present _ _
      · rw [List.getElem?_eq_none (Nat.le_refl _)] at beyond
        cases beyond
  | broken earlier later key count error split spared failed =>
      refine ⟨(Record.encode key).take count, ?_, fun whole => ?_, fun other next => ?_⟩
      · rw [split, List.take_left]
        exact Disk.content?_grown present _ _
      · rw [split, List.length_append, List.length_cons] at whole
        omega
      · rw [split, List.getElem?_append_right (Nat.le_refl _), Nat.sub_self] at next
        cases next
        exact ⟨count, error, failed, rfl⟩

end Persisted

end PipelineCache

import Mathlib.Data.List.GetD
import PipelineCache.State.VertexInput

/-! The tables of a vertex input as lists. However pushes of the two kinds follow one another on a fresh
vertex input, each table holds the first sixteen entries that were pushed to it, in their order, and blank
places behind them. So two vertex inputs built by pushes are equal exactly if they took the same entries.
A vertex input that was not built by pushes may have any words for its counts; there, too, a push writes
inside its table, and no count exceeds its word. -/

namespace PipelineCache

namespace VertexInput

/-- A call that appends an entry to one of the tables. -/
inductive Push
  | toAttributes (entry : VertexAttribute)
  | toBindings (entry : VertexBinding)
  deriving DecidableEq

namespace Push

def attribute? : Push → Option VertexAttribute
  | toAttributes entry => some entry
  | toBindings _ => none

def binding? : Push → Option VertexBinding
  | toAttributes _ => none
  | toBindings entry => some entry

end Push

/-- Whether an append found room, and the vertex input after it. -/
def answer (input : VertexInput) (appended : Option VertexInput) : Bool × VertexInput :=
  (appended.isSome, appended.getD input)

/-- Whether a push was taken, and the vertex input after it. -/
def push (input : VertexInput) : Push → Bool × VertexInput
  | .toAttributes entry => input.answer (input.pushAttribute entry)
  | .toBindings entry => input.answer (input.pushBinding entry)

/-- The answers to a sequence of pushes, and the vertex input after the last of them. -/
def pushAll (input : VertexInput) : List Push → List Bool × VertexInput
  | [] => ([], input)
  | first :: rest =>
      let (taken, next) := input.push first
      let (answers, last) := next.pushAll rest
      (taken :: answers, last)

/-- The pushes of a sequence that were answered with true. -/
def accepted (input : VertexInput) (pushes : List Push) : List Push :=
  ((pushes.zip (input.pushAll pushes).1).filter Prod.snd).map Prod.fst

variable {α : Type} {blank entry : α} {entries : List α} {attributes : List VertexAttribute}
  {bindings : List VertexBinding}

/-! ### One push -/

theorem count_of_append? {count counted : UInt32} {places placed : Vector α capacity}
    (appended : append? count places entry = some (counted, placed)) : counted ≠ count := by
  intro same
  unfold append? at appended
  split at appended
  · rename_i room
    have small : count.toNat + 1 < UInt32.size := Nat.lt_of_le_of_lt room (by decide)
    have higher : counted = count + 1 := (congrArg Prod.fst (Option.some.inj appended)).symm
    have next : counted.toNat = count.toNat + 1 := by
      rw [higher, UInt32.toNat_add]
      exact Nat.mod_eq_of_lt small
    rw [same] at next
    omega
  · cases appended

/-- What holds of either table: the answer is false exactly if nothing changes, because an entry that is
taken is counted. -/
theorem answer_eq_false_iff {input : VertexInput} {count : UInt32} {places : Vector α capacity}
    (rebuild : UInt32 × Vector α capacity → VertexInput) (counter : VertexInput → UInt32)
    (counted : ∀ outcome, counter (rebuild outcome) = outcome.1) (current : counter input = count) :
    (input.answer ((append? count places entry).map rebuild)).1 = false ↔
      (input.answer ((append? count places entry).map rebuild)).2 = input := by
  cases appended : append? count places entry with
  | none => exact ⟨fun _ => rfl, fun _ => rfl⟩
  | some outcome =>
      refine ⟨nofun, fun same => ?_⟩
      have recounted : outcome.1 = count := by
        rw [← counted outcome, ← current]
        exact congrArg counter same
      exact absurd recounted (count_of_append? appended)

/-- A push is refused exactly if it changes nothing. -/
theorem push_eq_false_iff (input : VertexInput) (pushed : Push) :
    (input.push pushed).1 = false ↔ (input.push pushed).2 = input := by
  cases pushed with
  | toAttributes entry =>
      exact answer_eq_false_iff _ VertexInput.attributeCount (fun _ => rfl) rfl
  | toBindings entry =>
      exact answer_eq_false_iff _ VertexInput.bindingCount (fun _ => rfl) rfl

/-! ### Lists as tables -/

/-- The entries of a list in the first places, and blanks in all others. -/
def table (blank : α) (entries : List α) : Vector α capacity :=
  Vector.ofFn fun place => entries.getD place blank

theorem getElem_table {place : Nat} (inside : place < capacity) :
    (table blank entries)[place] = entries.getD place blank :=
  Vector.getElem_ofFn _

theorem toList_table (within : entries.length ≤ capacity) : (table blank entries).toList =
    entries ++ List.replicate (capacity - entries.length) blank := by
  apply List.ext_getElem
  · rw [Vector.length_toList, List.length_append, List.length_replicate]
    omega
  · intro place left right
    rw [Vector.getElem_toList, getElem_table, List.getElem_append]
    split
    · exact (List.getElem_eq_getD blank).symm
    · rename_i outside
      rw [List.getElem_replicate]
      exact List.getD_eq_default _ _ (Nat.le_of_not_lt outside)

theorem take_table (within : entries.length ≤ capacity) :
    (table blank entries).toList.take entries.length = entries := by
  rw [toList_table within]
  exact List.take_left

theorem set_table (room : entries.length < capacity) :
    (table blank entries).set entries.length entry = table blank (entries ++ [entry]) := by
  ext place inside
  rw [Vector.getElem_set, getElem_table, getElem_table]
  split
  · rename_i same
    rw [← same, List.getD_append_right _ _ _ _ (Nat.le_refl _), Nat.sub_self, List.getD_cons_zero]
  · rename_i other
    rcases Nat.lt_or_gt_of_ne other with beyond | before
    · rw [List.getD_eq_default _ _ (Nat.le_of_lt beyond), List.getD_eq_default]
      rw [List.length_append, List.length_singleton]
      omega
    · rw [List.getD_append _ _ _ _ before]

theorem toNat_length (within : entries.length ≤ capacity) :
    (UInt32.ofNat entries.length).toNat = entries.length :=
  UInt32.toNat_ofNat_of_lt' (Nat.lt_of_le_of_lt within (by decide))

/-- To put an entry behind a list is to put it into the first unused place, as long as there is one. -/
theorem append?_table (within : entries.length ≤ capacity) :
    append? (UInt32.ofNat entries.length) (table blank entries) entry =
      if entries.length < capacity then
        some (UInt32.ofNat (entries ++ [entry]).length, table blank (entries ++ [entry]))
      else none := by
  unfold append?
  simp only [toNat_length within]
  split
  · rename_i room
    rw [set_table room, List.length_append, List.length_singleton, UInt32.ofNat_add]
    rfl
  · rfl

theorem take_append_singleton (within : entries.length ≤ capacity) (entry : α) :
    (entries ++ [entry]).take capacity =
      if entries.length < capacity then entries ++ [entry] else entries := by
  split
  · apply List.take_of_length_le
    rw [List.length_append, List.length_singleton]
    omega
  · exact List.take_left' (by omega)

/-- The vertex input that holds two lists. -/
def ofLists (attributes : List VertexAttribute) (bindings : List VertexBinding) : VertexInput where
  attributeCount := UInt32.ofNat attributes.length
  bindingCount := UInt32.ofNat bindings.length
  attributeTable := table {} attributes
  bindingTable := table {} bindings

theorem ofLists_nil : ofLists [] [] = {} := by decide

theorem attributes_ofLists (within : attributes.length ≤ capacity) :
    (ofLists attributes bindings).attributes = attributes := by
  rw [VertexInput.attributes, ofLists, toNat_length within, take_table within]

theorem bindings_ofLists (within : bindings.length ≤ capacity) :
    (ofLists attributes bindings).bindings = bindings := by
  rw [VertexInput.bindings, ofLists, toNat_length within, take_table within]

theorem ofLists_inj {otherAttributes : List VertexAttribute} {otherBindings : List VertexBinding}
    (within : attributes.length ≤ capacity ∧ bindings.length ≤ capacity)
    (otherWithin : otherAttributes.length ≤ capacity ∧ otherBindings.length ≤ capacity) :
    ofLists attributes bindings = ofLists otherAttributes otherBindings ↔
      attributes = otherAttributes ∧ bindings = otherBindings := by
  constructor
  · intro same
    constructor
    · calc attributes = (ofLists attributes bindings).attributes := (attributes_ofLists within.1).symm
        _ = (ofLists otherAttributes otherBindings).attributes := congrArg VertexInput.attributes same
        _ = otherAttributes := attributes_ofLists otherWithin.1
    · calc bindings = (ofLists attributes bindings).bindings := (bindings_ofLists within.2).symm
        _ = (ofLists otherAttributes otherBindings).bindings := congrArg VertexInput.bindings same
        _ = otherBindings := bindings_ofLists otherWithin.2
  · rintro ⟨rfl, rfl⟩
    rfl

/-- An append to one table of a vertex input, whichever it is, puts the entry behind the list of that
table if there is room, and else changes nothing. -/
theorem answer_append?_table (within : entries.length ≤ capacity)
    (rebuild : UInt32 × Vector α capacity → VertexInput) (entry : α) :
    (rebuild (UInt32.ofNat entries.length, table blank entries)).answer
        ((append? (UInt32.ofNat entries.length) (table blank entries) entry).map rebuild) =
      (decide (entries.length < capacity),
        rebuild (UInt32.ofNat ((entries ++ [entry]).take capacity).length,
          table blank ((entries ++ [entry]).take capacity))) := by
  rw [append?_table within, take_append_singleton within]
  by_cases room : entries.length < capacity
  · rw [if_pos room, if_pos room, decide_eq_true room]
    rfl
  · rw [if_neg room, if_neg room, decide_eq_false room]
    rfl

theorem push_toAttributes (within : attributes.length ≤ capacity) (entry : VertexAttribute) :
    (ofLists attributes bindings).push (.toAttributes entry) =
      (decide (attributes.length < capacity),
        ofLists ((attributes ++ [entry]).take capacity) bindings) :=
  answer_append?_table within (fun outcome =>
    { ofLists attributes bindings with
      attributeCount := outcome.1
      attributeTable := outcome.2 }) entry

theorem push_toBindings (within : bindings.length ≤ capacity) (entry : VertexBinding) :
    (ofLists attributes bindings).push (.toBindings entry) =
      (decide (bindings.length < capacity),
        ofLists attributes ((bindings ++ [entry]).take capacity)) :=
  answer_append?_table within (fun outcome =>
    { ofLists attributes bindings with
      bindingCount := outcome.1
      bindingTable := outcome.2 }) entry

/-- Both kinds of push at once: an entry goes behind its list, as long as sixteen places are enough. -/
theorem push_ofLists (pushed : Push)
    (within : attributes.length ≤ capacity ∧ bindings.length ≤ capacity) :
    (ofLists attributes bindings).push pushed =
      (decide ((attributes ++ pushed.attribute?.toList).length ≤ capacity ∧
          (bindings ++ pushed.binding?.toList).length ≤ capacity),
        ofLists ((attributes ++ pushed.attribute?.toList).take capacity)
          ((bindings ++ pushed.binding?.toList).take capacity)) := by
  obtain ⟨first, second⟩ := within
  cases pushed with
  | toAttributes entry =>
      have room : (attributes ++ [entry]).length ≤ capacity ∧ bindings.length ≤ capacity ↔
          attributes.length < capacity := by
        rw [List.length_append, List.length_singleton]
        omega
      simp only [push_toAttributes first, Push.attribute?, Push.binding?, Option.toList_some,
        Option.toList_none, List.append_nil, List.take_of_length_le second, room]
  | toBindings entry =>
      have room : attributes.length ≤ capacity ∧ (bindings ++ [entry]).length ≤ capacity ↔
          bindings.length < capacity := by
        rw [List.length_append, List.length_singleton]
        omega
      simp only [push_toBindings second, Push.attribute?, Push.binding?, Option.toList_some,
        Option.toList_none, List.append_nil, List.take_of_length_le first, room]

/-! ### Sequences of pushes -/

theorem pushAll_cons (input : VertexInput) (first : Push) (rest : List Push) :
    input.pushAll (first :: rest) = ((input.push first).1 :: ((input.push first).2.pushAll rest).1,
      ((input.push first).2.pushAll rest).2) := rfl

theorem pushAll_append (input : VertexInput) (earlier later : List Push) :
    input.pushAll (earlier ++ later) =
      ((input.pushAll earlier).1 ++ ((input.pushAll earlier).2.pushAll later).1,
        ((input.pushAll earlier).2.pushAll later).2) := by
  induction earlier generalizing input with
  | nil => rfl
  | cons first rest ih => rw [List.cons_append, pushAll_cons, ih, pushAll_cons, List.cons_append]

theorem length_pushAll (input : VertexInput) (pushes : List Push) :
    (input.pushAll pushes).1.length = pushes.length := by
  induction pushes generalizing input with
  | nil => rfl
  | cons first rest ih => rw [pushAll_cons, List.length_cons, List.length_cons, ih]

theorem accepted_cons (input : VertexInput) (first : Push) (rest : List Push) :
    input.accepted (first :: rest) = if (input.push first).1 = true
      then first :: (input.push first).2.accepted rest else (input.push first).2.accepted rest := by
  rw [accepted, pushAll_cons, List.zip_cons_cons, List.filter_cons]
  split <;> rfl

theorem take_take_append (front back : List α) (count : Nat) :
    (front.take count ++ back).take count = (front ++ back).take count := by
  rw [List.take_append, List.take_append, List.take_take, Nat.min_self, List.length_take]
  congr 2
  omega

theorem filterMap_cons_toList {β : Type} (view : α → Option β) (first : α) (rest : List α) :
    (first :: rest).filterMap view = (view first).toList ++ rest.filterMap view := by
  cases seen : view first with
  | none => rw [List.filterMap_cons_none seen, Option.toList_none, List.nil_append]
  | some value =>
      rw [List.filterMap_cons_some seen, Option.toList_some, List.cons_append, List.nil_append]

/-- After a sequence of pushes each table holds what it held before and what was pushed to it, up to
sixteen entries. -/
theorem pushAll_ofLists (pushes : List Push)
    (within : attributes.length ≤ capacity ∧ bindings.length ≤ capacity) :
    ((ofLists attributes bindings).pushAll pushes).2 =
      ofLists ((attributes ++ pushes.filterMap Push.attribute?).take capacity)
        ((bindings ++ pushes.filterMap Push.binding?).take capacity) := by
  induction pushes generalizing attributes bindings with
  | nil =>
      rw [List.filterMap_nil, List.filterMap_nil, List.append_nil, List.append_nil,
        List.take_of_length_le within.1, List.take_of_length_le within.2]
      rfl
  | cons first rest ih =>
      rw [pushAll_cons, push_ofLists first within, filterMap_cons_toList, filterMap_cons_toList,
        ih ⟨List.length_take_le _ _, List.length_take_le _ _⟩, take_take_append, take_take_append,
        List.append_assoc, List.append_assoc]

/-- After a sequence of pushes each table holds what it held before and what was accepted for it. -/
theorem pushAll_accepted (pushes : List Push)
    (within : attributes.length ≤ capacity ∧ bindings.length ≤ capacity) :
    let kept := (ofLists attributes bindings).accepted pushes
    ((ofLists attributes bindings).pushAll pushes).2 =
        ofLists (attributes ++ kept.filterMap Push.attribute?)
          (bindings ++ kept.filterMap Push.binding?) ∧
      (attributes ++ kept.filterMap Push.attribute?).length ≤ capacity ∧
      (bindings ++ kept.filterMap Push.binding?).length ≤ capacity := by
  induction pushes generalizing attributes bindings with
  | nil => simpa [accepted, pushAll] using within
  | cons first rest ih =>
      have pushed := push_ofLists first within
      by_cases room : (attributes ++ first.attribute?.toList).length ≤ capacity ∧
          (bindings ++ first.binding?.toList).length ≤ capacity
      · have later := ih room
        rw [decide_eq_true room, List.take_of_length_le room.1, List.take_of_length_le room.2] at pushed
        rw [accepted_cons, pushAll_cons, pushed, if_pos rfl]
        simp only [filterMap_cons_toList, ← List.append_assoc]
        exact later
      · rw [decide_eq_false room] at pushed
        have unchanged := (push_eq_false_iff _ first).mp (congrArg Prod.fst pushed)
        rw [accepted_cons, pushAll_cons, unchanged, pushed, if_neg Bool.false_ne_true]
        exact ih within

/-! ### On a fresh vertex input -/

theorem pushAll_fresh (pushes : List Push) : (pushAll {} pushes).2 =
    ofLists ((pushes.filterMap Push.attribute?).take capacity)
      ((pushes.filterMap Push.binding?).take capacity) := by
  rw [← ofLists_nil, pushAll_ofLists pushes ⟨Nat.zero_le _, Nat.zero_le _⟩, List.nil_append,
    List.nil_append]

/-- What was accepted is what came first. -/
theorem accepted_fresh (pushes : List Push) :
    (accepted {} pushes).filterMap Push.attribute? =
        (pushes.filterMap Push.attribute?).take capacity ∧
      (accepted {} pushes).filterMap Push.binding? =
        (pushes.filterMap Push.binding?).take capacity := by
  have empty : ([] : List VertexAttribute).length ≤ capacity ∧
      ([] : List VertexBinding).length ≤ capacity := ⟨Nat.zero_le _, Nat.zero_le _⟩
  obtain ⟨reached, fits⟩ := pushAll_accepted pushes empty
  rw [ofLists_nil, pushAll_fresh] at reached
  simp only [List.nil_append, ofLists_nil] at reached fits
  obtain ⟨attributes, bindings⟩ :=
    (ofLists_inj ⟨List.length_take_le _ _, List.length_take_le _ _⟩ fits).mp reached
  exact ⟨attributes.symm, bindings.symm⟩

/-- The answer to one push of a sequence. -/
theorem answer_pushAll (input : VertexInput) (earlier later : List Push) (pushed : Push) :
    (input.pushAll (earlier ++ pushed :: later)).1[earlier.length]? =
      some ((input.pushAll earlier).2.push pushed).1 := by
  have behind : (input.pushAll earlier).1.length ≤ earlier.length :=
    Nat.le_of_eq (length_pushAll input earlier)
  rw [pushAll_append, pushAll_cons, List.getElem?_append_right behind, length_pushAll, Nat.sub_self,
    List.getElem?_cons_zero]

theorem length_take_lt_iff : (entries.take capacity).length < capacity ↔ entries.length < capacity := by
  rw [List.length_take]
  omega

/-! ### Checked operations -/

/-- Puts an entry into one of the places, if the place exists. -/
def put? (places : Vector α capacity) (index : Nat) (entry : α) : Option (Vector α capacity) :=
  if inside : index < capacity then some (places.set index entry) else none

/-- A count that is one higher, if a word can hold it. -/
def increment? (count : UInt32) : Option UInt32 :=
  if count.toNat + 1 < UInt32.size then some (count + 1) else none

/-- The entries in the first places, if there are so many. -/
def slice? (places : Vector α capacity) (stop : Nat) : Option (List α) :=
  if stop ≤ capacity then some (places.toList.take stop) else none

/-- Appends an entry by checked operations; there is no outcome if one of them fails. -/
def appendChecked? (count : UInt32) (places : Vector α capacity) (entry : α) :
    Option (Option (UInt32 × Vector α capacity)) :=
  if capacity ≤ count.toNat then some none
  else do
    let placed ← put? places count.toNat entry
    let counted ← increment? count
    some (some (counted, placed))

/-- A push by checked operations. -/
def pushChecked? (input : VertexInput) : Push → Option (Bool × VertexInput)
  | .toAttributes entry =>
      (appendChecked? input.attributeCount input.attributeTable entry).map fun
        | some (count, places) =>
            (true, { input with attributeCount := count, attributeTable := places })
        | none => (false, input)
  | .toBindings entry =>
      (appendChecked? input.bindingCount input.bindingTable entry).map fun
        | some (count, places) => (true, { input with bindingCount := count, bindingTable := places })
        | none => (false, input)

/-- The attributes in use, cut from their table by a checked slice. -/
def attributesChecked? (input : VertexInput) : Option (List VertexAttribute) :=
  slice? input.attributeTable (min input.attributeCount.toNat capacity)

def bindingsChecked? (input : VertexInput) : Option (List VertexBinding) :=
  slice? input.bindingTable (min input.bindingCount.toNat capacity)

theorem slice?_min (places : Vector α capacity) (count : Nat) :
    slice? places (min count capacity) = some (places.toList.take count) := by
  have shorter : places.toList.take (min count capacity) = places.toList.take count := by
    apply List.take_eq_take_iff.mpr
    rw [Vector.length_toList]
    omega
  rw [slice?, if_pos (Nat.min_le_right _ _), shorter]

/-- No place outside the table is written, and no count exceeds its word. -/
theorem appendChecked?_eq (count : UInt32) (places : Vector α capacity) (entry : α) :
    appendChecked? count places entry = some (append? count places entry) := by
  unfold appendChecked? append?
  by_cases room : count.toNat < capacity
  · have small : count.toNat + 1 < UInt32.size := Nat.lt_of_le_of_lt room (by decide)
    rw [if_neg (Nat.not_le_of_lt room), dif_pos room, put?, dif_pos room, increment?, if_pos small]
    rfl
  · rw [if_pos (Nat.le_of_not_lt room), dif_neg room]

theorem pushChecked?_eq (input : VertexInput) (pushed : Push) :
    input.pushChecked? pushed = some (input.push pushed) := by
  cases pushed with
  | toAttributes entry =>
      rw [pushChecked?, appendChecked?_eq, push, pushAttribute]
      cases append? input.attributeCount input.attributeTable entry <;> rfl
  | toBindings entry =>
      rw [pushChecked?, appendChecked?_eq, push, pushBinding]
      cases append? input.bindingCount input.bindingTable entry <;> rfl

/-! ### Both tables -/

theorem bindings_push_toAttributes (input : VertexInput) (entry : VertexAttribute) :
    (input.push (.toAttributes entry)).2.bindingCount = input.bindingCount ∧
      (input.push (.toAttributes entry)).2.bindingTable = input.bindingTable := by
  rw [push, pushAttribute]
  cases append? input.attributeCount input.attributeTable entry <;> exact ⟨rfl, rfl⟩

theorem attributes_push_toBindings (input : VertexInput) (entry : VertexBinding) :
    (input.push (.toBindings entry)).2.attributeCount = input.attributeCount ∧
      (input.push (.toBindings entry)).2.attributeTable = input.attributeTable := by
  rw [push, pushBinding]
  cases append? input.bindingCount input.bindingTable entry <;> exact ⟨rfl, rfl⟩

/-- After any sequence of pushes on a fresh vertex input the entries in use are the first sixteen of each
kind, which are those that were accepted, and all other places are zero; a push is answered with true
exactly if fewer than sixteen of its kind came before; and two sequences lead to the same vertex input
exactly if the same attributes and the same bindings were accepted. On any vertex input, whatever its
counts, a push leaves the other table alone, is refused exactly if it changes nothing, and does the same
when each of its operations is checked, as do the two slices. -/
theorem tables_stay_canonical :
    (∀ pushes : List Push,
      (pushAll {} pushes).2.attributes = (pushes.filterMap Push.attribute?).take 16 ∧
      (pushAll {} pushes).2.bindings = (pushes.filterMap Push.binding?).take 16 ∧
      (accepted {} pushes).filterMap Push.attribute? = (pushes.filterMap Push.attribute?).take 16 ∧
      (accepted {} pushes).filterMap Push.binding? = (pushes.filterMap Push.binding?).take 16 ∧
      (pushAll {} pushes).2.attributeTable.toList = (pushes.filterMap Push.attribute?).take 16 ++
        List.replicate (16 - (pushes.filterMap Push.attribute?).length) ⟨0, 0, ⟨0⟩, 0⟩ ∧
      (pushAll {} pushes).2.bindingTable.toList = (pushes.filterMap Push.binding?).take 16 ++
        List.replicate (16 - (pushes.filterMap Push.binding?).length) ⟨0, 0, ⟨0⟩, 0⟩) ∧
    (∀ earlier later entry,
      (pushAll {} (earlier ++ .toAttributes entry :: later)).1[earlier.length]? =
        some (decide ((earlier.filterMap Push.attribute?).length < 16))) ∧
    (∀ earlier later entry,
      (pushAll {} (earlier ++ .toBindings entry :: later)).1[earlier.length]? =
        some (decide ((earlier.filterMap Push.binding?).length < 16))) ∧
    (∀ pushes others, (pushAll {} pushes).2 = (pushAll {} others).2 ↔
      (accepted {} pushes).filterMap Push.attribute? =
          (accepted {} others).filterMap Push.attribute? ∧
        (accepted {} pushes).filterMap Push.binding? =
          (accepted {} others).filterMap Push.binding?) ∧
    (∀ (input : VertexInput) entry,
      (input.push (.toAttributes entry)).2.bindingCount = input.bindingCount ∧
        (input.push (.toAttributes entry)).2.bindingTable = input.bindingTable) ∧
    (∀ (input : VertexInput) entry,
      (input.push (.toBindings entry)).2.attributeCount = input.attributeCount ∧
        (input.push (.toBindings entry)).2.attributeTable = input.attributeTable) ∧
    (∀ (input : VertexInput) pushed,
      ((input.push pushed).1 = false ↔ (input.push pushed).2 = input) ∧
        input.pushChecked? pushed = some (input.push pushed)) ∧
    (∀ input : VertexInput, input.attributesChecked? = some input.attributes ∧
      input.bindingsChecked? = some input.bindings) := by
  have short {β : Type} (list : List β) : (list.take capacity).length ≤ capacity :=
    List.length_take_le _ _
  have unused {β : Type} (list : List β) : capacity - (list.take capacity).length =
      capacity - list.length := by
    rw [List.length_take]
    omega
  refine ⟨?_, ?_, ?_, ?_, bindings_push_toAttributes, attributes_push_toBindings, ?_, ?_⟩
  · intro pushes
    rw [pushAll_fresh]
    refine ⟨attributes_ofLists (short _), bindings_ofLists (short _), (accepted_fresh pushes).1,
      (accepted_fresh pushes).2, ?_, ?_⟩
    · exact (toList_table (short _)).trans (by rw [unused]; rfl)
    · exact (toList_table (short _)).trans (by rw [unused]; rfl)
  · intro earlier later entry
    rw [answer_pushAll, pushAll_fresh, push_toAttributes (short _)]
    exact congrArg some (decide_eq_decide.mpr length_take_lt_iff)
  · intro earlier later entry
    rw [answer_pushAll, pushAll_fresh, push_toBindings (short _)]
    exact congrArg some (decide_eq_decide.mpr length_take_lt_iff)
  · intro pushes others
    rw [pushAll_fresh, pushAll_fresh, ofLists_inj ⟨short _, short _⟩ ⟨short _, short _⟩,
      (accepted_fresh pushes).1, (accepted_fresh pushes).2, (accepted_fresh others).1,
      (accepted_fresh others).2]
  · intro input pushed
    exact ⟨push_eq_false_iff input pushed, pushChecked?_eq input pushed⟩
  · intro input
    exact ⟨slice?_min _ _, slice?_min _ _⟩

example : (pushAll {} (List.replicate 17 (.toBindings {}))).1 = List.replicate 16 true ++ [false] := by
  decide

end VertexInput

end PipelineCache

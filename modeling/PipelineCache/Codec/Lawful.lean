import PipelineCache.Codec

/-! Laws of fixed-size layouts. A lawful codec pairs its values with the byte strings of its size,
one to one, and layouts put together from lawful ones are lawful. -/

namespace PipelineCache.Codec

variable {α β : Type}

/-- Values and byte strings of the codec's size correspond one to one. -/
structure Lawful (codec : Codec α) : Prop where
  length_encode (value : α) : (codec.encode value).length = codec.size
  decode_encode (value : α) (rest : Bytes) : codec.decode (codec.encode value ++ rest) = value
  encode_decode (bytes : Bytes) (enough : codec.size ≤ bytes.length) :
    codec.encode (codec.decode bytes) = bytes.take codec.size

theorem lawful_byte : byte.Lawful where
  length_encode _ := rfl
  decode_encode _ _ := rfl
  encode_decode bytes enough := by
    cases bytes with
    | nil => simp [byte] at enough
    | cons first rest => simp [byte]

theorem lawful_word : word.Lawful where
  length_encode value := by simp [word]
  decode_encode value rest := by
    have small := value.toNat_lt
    have bound : value.toNat % 1 <<< (8 * 4) = value.toNat := Nat.mod_eq_of_lt small
    simp only [word, List.take_left' (Bytes.length_ofNat 4 value.toNat), Bytes.toNat_ofNat, bound,
      UInt32.ofNat_toNat]
  encode_decode bytes enough := by
    have length : (bytes.take 4).length = 4 := by simp [word] at enough; simp; omega
    have small := Bytes.toNat_lt (bytes.take 4)
    rw [length] at small
    have value : (UInt32.ofNat (Bytes.toNat (bytes.take 4))).toNat = Bytes.toNat (bytes.take 4) :=
      UInt32.toNat_ofNat_of_lt' (by simpa using small)
    have digits := Bytes.ofNat_toNat (bytes.take 4)
    rw [length] at digits
    simp only [word, value, digits]

theorem Lawful.pair {first : Codec α} {second : Codec β} (left : first.Lawful)
    (right : second.Lawful) : (first.pair second).Lawful where
  length_encode value := by
    simp [Codec.pair, left.length_encode, right.length_encode]
  decode_encode value rest := by
    have dropped : (first.encode value.1 ++ (second.encode value.2 ++ rest)).drop first.size
        = second.encode value.2 ++ rest := by
      rw [← left.length_encode value.1, List.drop_left]
    simp only [Codec.pair, List.append_assoc, left.decode_encode, dropped, right.decode_encode]
  encode_decode bytes enough := by
    simp only [Codec.pair] at enough ⊢
    rw [left.encode_decode bytes (by omega),
      right.encode_decode (bytes.drop first.size) (by simp; omega), ← List.take_add]

theorem Lawful.map {codec : Codec α} (lawful : codec.Lawful) {build : α → β} {parts : β → α}
    (build_parts : ∀ value, build (parts value) = value)
    (parts_build : ∀ value, parts (build value) = value) : (codec.map build parts).Lawful where
  length_encode value := lawful.length_encode (parts value)
  decode_encode value rest := by
    simp only [Codec.map, lawful.decode_encode, build_parts]
  encode_decode bytes enough := by
    simp only [Codec.map, parts_build]
    exact lawful.encode_decode bytes enough

theorem drop_flatMap_encode {codec : Codec α} (lawful : codec.Lawful) (values : List α)
    (rest : Bytes) (index : Nat) (inside : index < values.length) :
    (values.flatMap codec.encode ++ rest).drop (index * codec.size)
      = codec.encode values[index] ++
        ((values.drop (index + 1)).flatMap codec.encode ++ rest) := by
  induction values generalizing index with
  | nil => simp at inside
  | cons value values ih =>
      cases index with
      | zero => simp
      | succ index =>
          have split : (index + 1) * codec.size = codec.size + index * codec.size := by
            rw [Nat.add_mul, Nat.one_mul, Nat.add_comm]
          rw [List.flatMap_cons, List.append_assoc, split, ← List.drop_drop,
            ← lawful.length_encode value, List.drop_left, lawful.length_encode value]
          simpa using ih index (by simpa using inside)

theorem length_flatMap_encode {codec : Codec α} (lawful : codec.Lawful) (values : List α) :
    (values.flatMap codec.encode).length = values.length * codec.size := by
  induction values with
  | nil => simp
  | cons value values ih =>
      simp only [List.flatMap_cons, List.length_append, ih, lawful.length_encode,
        List.length_cons, Nat.add_mul, Nat.one_mul]
      omega

theorem flatMap_encode_decode {codec : Codec α} (lawful : codec.Lawful) (count : Nat)
    (bytes : Bytes) (enough : count * codec.size ≤ bytes.length) :
    (List.ofFn fun index : Fin count => codec.decode (bytes.drop (index * codec.size))).flatMap
      codec.encode = bytes.take (count * codec.size) := by
  induction count generalizing bytes with
  | zero => simp
  | succ count ih =>
      have split : (count + 1) * codec.size = codec.size + count * codec.size := by
        rw [Nat.add_mul, Nat.one_mul, Nat.add_comm]
      rw [split] at enough
      have tail := ih (bytes.drop codec.size) (by simp; omega)
      have shifted (index : Nat) : (bytes.drop codec.size).drop (index * codec.size)
          = bytes.drop ((index + 1) * codec.size) := by
        rw [List.drop_drop, Nat.add_mul, Nat.one_mul, Nat.add_comm]
      simp only [shifted] at tail
      rw [List.ofFn_succ, List.flatMap_cons, split, List.take_add, ← tail]
      simp only [Fin.val_zero, Nat.zero_mul, List.drop_zero, Fin.val_succ]
      rw [lawful.encode_decode bytes (by omega)]

theorem Lawful.vector {codec : Codec α} (lawful : codec.Lawful) (count : Nat) :
    (codec.vector count).Lawful where
  length_encode values := by
    simp [Codec.vector, length_flatMap_encode lawful]
  decode_encode values rest := by
    ext index inside
    have bound : index < values.toList.length := by simpa using inside
    simp only [Codec.vector, Vector.getElem_ofFn]
    rw [drop_flatMap_encode lawful values.toList rest index bound, lawful.decode_encode]
    simp
  encode_decode bytes enough := by
    have both := flatMap_encode_decode lawful count bytes enough
    simpa [Codec.vector, Vector.toList_ofFn] using both

end PipelineCache.Codec

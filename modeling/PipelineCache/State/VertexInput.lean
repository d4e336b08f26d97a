import PipelineCache.State.Enumeration

/-! Vertex input: two tables of sixteen places, one for attributes and one for bindings, each with a
count of the places in use. Places beyond the count stay zero as long as entries are only appended.
-/

namespace PipelineCache

structure VertexAttribute where
  location : UInt32 := 0
  binding : UInt32 := 0
  format : Format := ⟨0⟩
  offset : UInt32 := 0
  deriving DecidableEq

structure VertexBinding where
  binding : UInt32 := 0
  stride : UInt32 := 0
  inputRate : VertexInputRate := ⟨0⟩
  /-- The instance step rate, without meaning for a binding that advances with each vertex. -/
  divisor : UInt32 := 0
  deriving DecidableEq

/-- The number of places in each of the two tables. -/
def VertexInput.capacity : Nat := 16

structure VertexInput where
  attributeCount : UInt32 := 0
  bindingCount : UInt32 := 0
  attributeTable : Vector VertexAttribute VertexInput.capacity := Vector.replicate _ {}
  bindingTable : Vector VertexBinding VertexInput.capacity := Vector.replicate _ {}
  deriving DecidableEq

def VertexAttribute.text (entry : VertexAttribute) : String :=
  Text.record "VertexAttribute" [
    ("location", toString entry.location), ("binding", toString entry.binding),
    ("format", entry.format.text), ("offset", toString entry.offset)]

def VertexAttribute.codec : Codec VertexAttribute :=
  (Codec.word.pair (Codec.word.pair (Choice.codec.pair Codec.word))).map
    (fun (location, binding, format, offset) => ⟨location, binding, format, offset⟩)
    (fun entry => (entry.location, entry.binding, entry.format, entry.offset))

theorem VertexAttribute.lawful_codec : VertexAttribute.codec.Lawful :=
  (Codec.lawful_word.pair (Codec.lawful_word.pair (Choice.lawful_codec.pair Codec.lawful_word))).map
    (fun _ => rfl) fun _ => rfl

def VertexBinding.text (entry : VertexBinding) : String :=
  Text.record "VertexBinding" [
    ("binding", toString entry.binding), ("stride", toString entry.stride),
    ("input_rate", entry.inputRate.text), ("divisor", toString entry.divisor)]

def VertexBinding.codec : Codec VertexBinding :=
  (Codec.word.pair (Codec.word.pair (Choice.codec.pair Codec.word))).map
    (fun (binding, stride, inputRate, divisor) => ⟨binding, stride, inputRate, divisor⟩)
    (fun entry => (entry.binding, entry.stride, entry.inputRate, entry.divisor))

theorem VertexBinding.lawful_codec : VertexBinding.codec.Lawful :=
  (Codec.lawful_word.pair (Codec.lawful_word.pair (Choice.lawful_codec.pair Codec.lawful_word))).map
    (fun _ => rfl) fun _ => rfl

namespace VertexInput

/-- The attributes in use; a count above the capacity means all of them. -/
def attributes (input : VertexInput) : List VertexAttribute :=
  input.attributeTable.toList.take input.attributeCount.toNat

/-- The bindings in use; a count above the capacity means all of them. -/
def bindings (input : VertexInput) : List VertexBinding :=
  input.bindingTable.toList.take input.bindingCount.toNat

/-- A count of places in use and the places, after an entry was put into the first unused one; nothing
when all are in use. -/
def append? {α : Type} (count : UInt32) (table : Vector α capacity) (entry : α) :
    Option (UInt32 × Vector α capacity) :=
  if room : count.toNat < capacity then some (count + 1, table.set count.toNat entry) else none

/-- Appends an attribute, or answers nothing when the table is full. -/
def pushAttribute (input : VertexInput) (entry : VertexAttribute) : Option VertexInput :=
  (append? input.attributeCount input.attributeTable entry).map fun (count, table) =>
    { input with attributeCount := count, attributeTable := table }

/-- Appends a binding, or answers nothing when the table is full. -/
def pushBinding (input : VertexInput) (entry : VertexBinding) : Option VertexInput :=
  (append? input.bindingCount input.bindingTable entry).map fun (count, table) =>
    { input with bindingCount := count, bindingTable := table }

def text (input : VertexInput) : String :=
  Text.record "VertexInputState" [
    ("attribute_count", toString input.attributeCount),
    ("binding_count", toString input.bindingCount),
    ("attributes", Text.list (input.attributeTable.toList.map VertexAttribute.text)),
    ("bindings", Text.list (input.bindingTable.toList.map VertexBinding.text))]

def codec : Codec VertexInput :=
  (Codec.word.pair (Codec.word.pair ((VertexAttribute.codec.vector capacity).pair
    (VertexBinding.codec.vector capacity)))).map
    (fun (attributeCount, bindingCount, attributes, bindings) =>
      ⟨attributeCount, bindingCount, attributes, bindings⟩)
    (fun input =>
      (input.attributeCount, input.bindingCount, input.attributeTable, input.bindingTable))

theorem lawful_codec : codec.Lawful :=
  (Codec.lawful_word.pair (Codec.lawful_word.pair ((VertexAttribute.lawful_codec.vector
    capacity).pair (VertexBinding.lawful_codec.vector capacity)))).map (fun _ => rfl) fun _ => rfl

end VertexInput

end PipelineCache

import PipelineCache.Bytes

/-! Fixed-size binary layouts. A codec writes each value as the same number of bytes and reads a
value back from the front of a byte string; layouts of records and tables are put together from
those of their parts, with no gap between them. -/

namespace PipelineCache

structure Codec (α : Type) where
  size : Nat
  encode : α → Bytes
  /-- Reads the first `size` bytes; bytes beyond the end of the string count as zero. -/
  decode : Bytes → α

namespace Codec

variable {α β : Type}

def byte : Codec UInt8 := ⟨1, fun value => [value], fun bytes => bytes.headD 0⟩

/-- A 32-bit word, least significant byte first. -/
def word : Codec UInt32 where
  size := 4
  encode value := Bytes.ofNat 4 value.toNat
  decode bytes := UInt32.ofNat (Bytes.toNat (bytes.take 4))

def pair (first : Codec α) (second : Codec β) : Codec (α × β) where
  size := first.size + second.size
  encode value := first.encode value.1 ++ second.encode value.2
  decode bytes := (first.decode bytes, second.decode (bytes.drop first.size))

def vector (item : Codec α) (count : Nat) : Codec (Vector α count) where
  size := count * item.size
  encode values := values.toList.flatMap item.encode
  decode bytes := Vector.ofFn fun index => item.decode (bytes.drop (index * item.size))

/-- The layout of a type with the same values under other names. -/
def map (codec : Codec α) (build : α → β) (parts : β → α) : Codec β where
  size := codec.size
  encode value := codec.encode (parts value)
  decode bytes := build (codec.decode bytes)

/-- Reads a value from exactly `size` bytes. -/
def decode? (codec : Codec α) (bytes : Bytes) : Option α :=
  if bytes.length = codec.size then some (codec.decode bytes) else none

end Codec

end PipelineCache

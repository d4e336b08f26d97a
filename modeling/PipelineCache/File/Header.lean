import PipelineCache.Key

/-! The header of a cache file: a version of the framing and the size of a key. A file is read only
if both are those of this build. -/

namespace PipelineCache

structure Header where
  version : UInt32
  keySize : UInt32
  deriving DecidableEq

namespace Header

def codec : Codec Header :=
  (Codec.word.pair Codec.word).map (fun (version, keySize) => ⟨version, keySize⟩)
    (fun header => (header.version, header.keySize))

theorem lawful_codec : codec.Lawful :=
  (Codec.lawful_word.pair Codec.lawful_word).map (fun _ => rfl) fun _ => rfl

/-- The size of the stored form in bytes. -/
def size : Nat := codec.size

def toBytes (header : Header) : Bytes := codec.encode header

/-- The header that this build writes, and the only one it accepts. -/
def current : Header := ⟨2, UInt32.ofNat PipelineKey.size⟩

def text (header : Header) : String :=
  Text.record "CacheHeader" [
    ("version", toString header.version), ("key_size", toString header.keySize)]

end Header

end PipelineCache

import PipelineCache.Error
import PipelineCache.Log

/-! What can be read from a cache file. Behind the header stand records of fixed size, each the
digest of a key and the key itself. A record whose digest is not that of its key is damaged and is
passed over alone; bytes that do not fill a record are the torn end of the file. -/

namespace PipelineCache

/-- The bytes an input has left to give, and what happens after them: the input ends, or reading
fails. -/
structure Source where
  bytes : Bytes
  failure : Option IoError := none

namespace Source

/-- Reads exactly `count` bytes. -/
def read (source : Source) (count : Nat) : Except IoError (Bytes × Source) :=
  if count ≤ source.bytes.length then
    .ok (source.bytes.take count, { source with bytes := source.bytes.drop count })
  else .error (source.failure.getD .shortRead)

end Source

namespace Record

def digestSize : Nat := 32

def size : Nat := digestSize + PipelineKey.size

/-- The digest of the key, then the key. -/
def encode (key : PipelineKey) : Bytes := key.digest ++ key.toBytes

/-- The key of a record whose digest is right. -/
def decode? (record : Bytes) : Option PipelineKey :=
  let key := PipelineKey.codec.decode (record.drop digestSize)
  if key.digest = record.take digestSize then some key else none

/-- The first `count` records of a byte string. -/
def blocks : Nat → Bytes → List Bytes
  | 0, _ => []
  | count + 1, bytes => bytes.take size :: blocks count (bytes.drop size)

/-- All whole records of a byte string. -/
def whole (bytes : Bytes) : List Bytes := blocks (bytes.length / size) bytes

@[simp] theorem length_encode (key : PipelineKey) : (encode key).length = size := by
  simp [encode, PipelineKey.digest, size, digestSize]

theorem take_encode (key : PipelineKey) : (encode key).take digestSize = key.digest :=
  List.take_left' (Sha256.length_digest _)

theorem drop_encode (key : PipelineKey) : (encode key).drop digestSize = key.toBytes :=
  List.drop_left' (Sha256.length_digest _)

@[simp] theorem decode?_encode (key : PipelineKey) : decode? (encode key) = some key := by
  simp [decode?, take_encode, drop_encode, PipelineKey.decode_toBytes]

/-- Only a whole record written for a key is read as that key. -/
theorem eq_encode_of_decode? {record : Bytes} {key : PipelineKey} (whole : record.length = size)
    (read : decode? record = some key) : record = encode key := by
  have length : (record.drop digestSize).length = PipelineKey.size := by
    simp [whole, size]
  simp only [decode?] at read
  split at read
  · rename_i digest
    cases read
    rw [encode, digest, PipelineKey.toBytes_decode _ length, List.take_append_drop]
  · cases read

@[simp] theorem length_blocks (count : Nat) (bytes : Bytes) :
    (blocks count bytes).length = count := by
  induction count generalizing bytes with
  | zero => rfl
  | succ count ih => simp [blocks, ih]

theorem length_whole (bytes : Bytes) : (whole bytes).length = bytes.length / size :=
  length_blocks _ _

/-- Blocks of one string come from its front. -/
theorem blocks_append (count : Nat) (front rest : Bytes)
    (enough : count * size ≤ front.length) : blocks count (front ++ rest) = blocks count front := by
  induction count generalizing front with
  | zero => rfl
  | succ count ih =>
      rw [Nat.add_mul, Nat.one_mul] at enough
      simp only [blocks]
      rw [List.take_append_of_le_length (by omega), List.drop_append_of_le_length (by omega),
        ih _ (by simp; omega)]

end Record

/-- The whole records read from a place in a file on: the key of each, or nothing where the record
is damaged. -/
structure Contents where
  start : Nat := 0
  records : List (Option PipelineKey) := []
  deriving DecidableEq

namespace Contents

/-- The keys of the undamaged records in file order; a key may come twice. -/
def keys (contents : Contents) : List PipelineKey := contents.records.filterMap id

/-- The number of damaged records. -/
def skipped (contents : Contents) : Nat := contents.records.countP Option.isNone

/-- The offset just behind the last whole record. -/
def endOffset (contents : Contents) : Nat :=
  contents.start + Record.size * contents.records.length

/-- The places of the damaged records among all records. -/
def damaged (contents : Contents) : List Nat :=
  contents.records.zipIdx.filterMap fun (record, index) =>
    if record.isNone then some index else none

/-- One message for each damaged record. -/
def messages (contents : Contents) : List Message :=
  contents.damaged.map fun index =>
    .debug ("state cache: skipping record " ++ toString index ++ " (digest mismatch)")

end Contents

namespace Source

def readHeader (source : Source) : Except IoError (Header × Source) := do
  let (bytes, rest) ← source.read Header.size
  return (Header.codec.decode bytes, rest)

/-- Reads records up to the first that is not whole, for whatever reason. -/
def readRecords (source : Source) : Contents :=
  { records := (Record.whole source.bytes).map Record.decode? }

/-- Reads a whole file: a header of this build, then records. -/
def readCache (source : Source) : Except CacheError Contents := do
  let (header, rest) ← (source.readHeader).mapError CacheError.io
  header.check
  return { rest.readRecords with start := Header.size }

end Source

end PipelineCache

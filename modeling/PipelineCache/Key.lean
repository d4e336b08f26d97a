import PipelineCache.Shader.Key
import PipelineCache.State.Basic
import PipelineCache.State.RenderPass

/-! Pipeline keys: the identity of one compiled pipeline across runs, made of the five shader keys,
the whole fixed-function state and the render pass format. Its stored form has a fixed size, without
gaps, and every byte string of that size is the stored form of a key. -/

namespace PipelineCache

structure PipelineKey where
  shaders : ShaderKeys
  state : PipelineState
  format : RenderPassFormat
  deriving DecidableEq

namespace PipelineKey

def codec : Codec PipelineKey :=
  ((ShaderKey.codec.vector 5).pair (PipelineState.codec.pair RenderPassFormat.codec)).map
    (fun (shaders, state, format) => ⟨shaders, state, format⟩)
    (fun key => (key.shaders, key.state, key.format))

theorem lawful_codec : codec.Lawful :=
  ((ShaderKey.lawful_codec.vector 5).pair (PipelineState.lawful_codec.pair
    RenderPassFormat.lawful_codec)).map (fun _ => rfl) fun _ => rfl

/-- The size of the stored form in bytes. -/
def size : Nat := codec.size

def toBytes (key : PipelineKey) : Bytes := codec.encode key

/-- Reads a key from exactly `size` bytes. -/
def ofBytes? (bytes : Bytes) : Option PipelineKey := codec.decode? bytes

/-- The SHA-256 digest of the stored form. -/
def digest (key : PipelineKey) : Bytes := Sha256.digest key.toBytes

/-- A short hash of the stored form. -/
def hash64 (key : PipelineKey) : UInt64 := Xxh3.hash key.toBytes

def shaderKey (key : PipelineKey) (stage : Stage) : ShaderKey := key.shaders[stage.index]

def describe (key : PipelineKey) : String :=
  key.shaders.text ++ " state=" ++ hex64 key.state.hash64

def text (key : PipelineKey) : String :=
  Text.record "PipelineStateKey" [
    ("shaders", key.shaders.listing), ("state", key.state.text), ("format", key.format.text)]

@[simp] theorem length_toBytes (key : PipelineKey) : key.toBytes.length = size :=
  lawful_codec.length_encode key

theorem decode_toBytes (key : PipelineKey) : codec.decode key.toBytes = key := by
  have read := lawful_codec.decode_encode key []
  rwa [List.append_nil] at read

theorem toBytes_decode (bytes : Bytes) (whole : bytes.length = size) :
    (codec.decode bytes).toBytes = bytes := by
  have written := lawful_codec.encode_decode bytes (by rw [whole]; exact Nat.le_refl _)
  rwa [List.take_of_length_le (by rw [whole]; exact Nat.le_refl _)] at written

end PipelineKey

end PipelineCache

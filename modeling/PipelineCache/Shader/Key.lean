import PipelineCache.Codec.Lawful
import PipelineCache.Digest.Sha256
import PipelineCache.Shader.Stage

/-! Shader keys: a stage and the SHA-256 digest of a program's code. The undefined key, which is all
zero, stands for a stage that is not used. A stored key may hold any words. -/

namespace PipelineCache

structure ShaderKey where
  stageNumber : UInt32 := 0
  /-- Zero for an undefined key. -/
  marker : UInt32 := 0
  sha256 : Vector UInt8 32 := Vector.replicate _ 0
  deriving DecidableEq

/-- One key for each stage, in pipeline order. -/
abbrev ShaderKeys := Vector ShaderKey 5

namespace ShaderKey

def undefined : ShaderKey := {}

def defined (stage : Stage) (sha256 : Vector UInt8 32) : ShaderKey := ⟨stage.number, 1, sha256⟩

/-- The first bytes of a string as a digest, filled up with zeros. -/
def digestOfBytes (bytes : Bytes) : Vector UInt8 32 := (Codec.byte.vector 32).decode bytes

def ofCode (stage : Stage) (code : Bytes) : ShaderKey :=
  defined stage (digestOfBytes (Sha256.digest code))

def isDefined (key : ShaderKey) : Bool := key.marker != 0

/-- The stage of a defined key whose number names one. -/
def stage? (key : ShaderKey) : Option Stage :=
  if key.isDefined then Stage.ofNumber? key.stageNumber else none

/-- The stage's short name and the first eight bytes of the digest. -/
def text (key : ShaderKey) : String :=
  if key.isDefined then
    ((key.stage?.map Stage.profile).getD "??") ++ ":" ++ Bytes.toHex (key.sha256.toList.take 8)
  else "undefined"

def codec : Codec ShaderKey :=
  (Codec.word.pair (Codec.word.pair (Codec.byte.vector 32))).map
    (fun (stageNumber, marker, sha256) => ⟨stageNumber, marker, sha256⟩)
    (fun key => (key.stageNumber, key.marker, key.sha256))

theorem lawful_codec : codec.Lawful :=
  (Codec.lawful_word.pair (Codec.lawful_word.pair (Codec.lawful_byte.vector 32))).map
    (fun _ => rfl) fun _ => rfl

end ShaderKey

namespace ShaderKeys

def definedKeys (keys : ShaderKeys) : List ShaderKey := keys.toList.filter ShaderKey.isDefined

/-- The defined keys, separated by blanks. -/
def text (keys : ShaderKeys) : String :=
  " ".intercalate (keys.definedKeys.map ShaderKey.text)

/-- All five keys as a list. -/
def listing (keys : ShaderKeys) : String := Text.list (keys.toList.map ShaderKey.text)

end ShaderKeys

end PipelineCache

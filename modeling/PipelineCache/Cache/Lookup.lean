import PipelineCache.Key
import PipelineCache.Shader.Basic

/-! The lookup of a state cache. It knows which remembered keys refer to a shader, and which shaders
have been provided. Whenever a shader arrives, every key that refers to it and has all its shaders
is ready to be compiled. -/

namespace PipelineCache

/-- For each shader key the remembered keys that refer to it, oldest first. -/
abbrev BackReferences := List (ShaderKey × List PipelineKey)

namespace BackReferences

def candidates (index : BackReferences) (shader : ShaderKey) : List PipelineKey :=
  (index.lookup shader).getD []

/-- Adds one reference from a shader key. -/
def addReference (shader : ShaderKey) (key : PipelineKey) : BackReferences → BackReferences
  | [] => [(shader, [key])]
  | (other, keys) :: rest =>
      if other = shader then (other, keys ++ [key]) :: rest
      else (other, keys) :: addReference shader key rest

/-- Adds a reference from every defined shader key of a key. -/
def insert (index : BackReferences) (key : PipelineKey) : BackReferences :=
  key.shaders.definedKeys.foldl (fun index shader => addReference shader key index) index

end BackReferences

structure Lookup where
  index : BackReferences := []
  /-- The first shader provided under each key. -/
  shaders : List (ShaderKey × Shader) := []
  deriving DecidableEq

/-- What the lookup is told. -/
inductive LookupEntry
  | shader (shader : Shader)
  /-- A key that the writer has added in this run. -/
  | key (key : PipelineKey)
  deriving DecidableEq

/-- A remembered key together with its shaders. -/
structure ReadyKey where
  key : PipelineKey
  shaders : ShaderSet
  deriving DecidableEq

/-- What the lookup makes of an entry. -/
inductive LookupResponse
  /-- A key is from now on found by its shaders. -/
  | indexed
  /-- A shader without a defined key cannot be referred to. -/
  | ignored
  | duplicate (shader : ShaderKey)
  /-- A shader is new, and with it these keys have all their shaders. -/
  | registered (ready : List ReadyKey)
  deriving DecidableEq

namespace Lookup

def find? (lookup : Lookup) (shader : ShaderKey) : Option Shader := lookup.shaders.lookup shader

/-- The shader for one slot: none for an undefined key, and no answer while it is missing. -/
def slot (lookup : Lookup) (shader : ShaderKey) : Option (Option Shader) :=
  if shader.isDefined then (lookup.find? shader).map some else some none

/-- The shaders of a key, once all of them have been provided. -/
def resolve (lookup : Lookup) (key : PipelineKey) : Option ShaderSet := do
  let vertex ← lookup.slot (key.shaderKey .vertex)
  let tessControl ← lookup.slot (key.shaderKey .tessControl)
  let tessEval ← lookup.slot (key.shaderKey .tessEval)
  let geometry ← lookup.slot (key.shaderKey .geometry)
  let fragment ← lookup.slot (key.shaderKey .fragment)
  return ⟨vertex, tessControl, tessEval, geometry, fragment⟩

/-- The keys that refer to a shader and have all their shaders. -/
def ready (lookup : Lookup) (shader : ShaderKey) : List ReadyKey :=
  (lookup.index.candidates shader).filterMap fun key =>
    (lookup.resolve key).map fun shaders => ⟨key, shaders⟩

def register (lookup : Lookup) (shader : Shader) : Lookup × LookupResponse :=
  if !shader.key.isDefined then (lookup, .ignored)
  else if (lookup.find? shader.key).isSome then (lookup, .duplicate shader.key)
  else
    let grown := { lookup with shaders := lookup.shaders ++ [(shader.key, shader)] }
    (grown, .registered (grown.ready shader.key))

def handle (lookup : Lookup) : LookupEntry → Lookup × LookupResponse
  | .shader shader => lookup.register shader
  | .key key => ({ lookup with index := lookup.index.insert key }, .indexed)

end Lookup

end PipelineCache

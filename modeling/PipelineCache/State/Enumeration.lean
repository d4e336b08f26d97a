import PipelineCache.Codec.Lawful
import PipelineCache.Text.Description

/-! Enumerated settings of the fixed-function state. A setting is a 32-bit word: some words have a
name in their enumeration, and every other word is still a value, because a stored state may hold
any. -/

namespace PipelineCache

inductive Enumeration
  | flag
  | primitiveTopology
  | polygonMode
  | cullMode
  | frontFace
  | compareOp
  | stencilOp
  | blendFactor
  | blendOp
  | logicOp
  | vertexInputRate
  | format
  deriving DecidableEq

namespace Enumeration

def all : List Enumeration :=
  [flag, primitiveTopology, polygonMode, cullMode, frontFace, compareOp, stencilOp, blendFactor,
    blendOp, logicOp, vertexInputRate, format]

def name : Enumeration → String
  | flag => "Bool32"
  | primitiveTopology => "PrimitiveTopology"
  | polygonMode => "PolygonMode"
  | cullMode => "CullMode"
  | frontFace => "FrontFace"
  | compareOp => "CompareOp"
  | stencilOp => "StencilOp"
  | blendFactor => "BlendFactor"
  | blendOp => "BlendOp"
  | logicOp => "LogicOp"
  | vertexInputRate => "VertexInputRate"
  | format => "Format"

/-- The named words of an enumeration. -/
def constants : Enumeration → List (String × UInt32)
  | flag => [("FALSE", 0), ("TRUE", 1)]
  | primitiveTopology =>
      [("POINT_LIST", 0), ("LINE_LIST", 1), ("LINE_STRIP", 2), ("TRIANGLE_LIST", 3),
        ("TRIANGLE_STRIP", 4), ("TRIANGLE_FAN", 5), ("PATCH_LIST", 10)]
  | polygonMode => [("FILL", 0), ("LINE", 1), ("POINT", 2)]
  | cullMode => [("NONE", 0), ("FRONT", 1), ("BACK", 2), ("FRONT_AND_BACK", 3)]
  | frontFace => [("COUNTER_CLOCKWISE", 0), ("CLOCKWISE", 1)]
  | compareOp =>
      [("NEVER", 0), ("LESS", 1), ("EQUAL", 2), ("LESS_OR_EQUAL", 3), ("GREATER", 4),
        ("NOT_EQUAL", 5), ("GREATER_OR_EQUAL", 6), ("ALWAYS", 7)]
  | stencilOp =>
      [("KEEP", 0), ("ZERO", 1), ("REPLACE", 2), ("INCREMENT_AND_CLAMP", 3),
        ("DECREMENT_AND_CLAMP", 4), ("INVERT", 5), ("INCREMENT_AND_WRAP", 6),
        ("DECREMENT_AND_WRAP", 7)]
  | blendFactor =>
      [("ZERO", 0), ("ONE", 1), ("SRC_COLOR", 2), ("ONE_MINUS_SRC_COLOR", 3), ("DST_COLOR", 4),
        ("ONE_MINUS_DST_COLOR", 5), ("SRC_ALPHA", 6), ("ONE_MINUS_SRC_ALPHA", 7),
        ("DST_ALPHA", 8), ("ONE_MINUS_DST_ALPHA", 9), ("CONSTANT_COLOR", 10),
        ("ONE_MINUS_CONSTANT_COLOR", 11), ("SRC_ALPHA_SATURATE", 14)]
  | blendOp =>
      [("ADD", 0), ("SUBTRACT", 1), ("REVERSE_SUBTRACT", 2), ("MIN", 3), ("MAX", 4)]
  | logicOp =>
      [("CLEAR", 0), ("AND", 1), ("AND_REVERSE", 2), ("COPY", 3), ("AND_INVERTED", 4),
        ("NO_OP", 5), ("XOR", 6), ("OR", 7), ("NOR", 8), ("EQUIVALENT", 9), ("INVERT", 10),
        ("OR_REVERSE", 11), ("COPY_INVERTED", 12), ("OR_INVERTED", 13), ("NAND", 14), ("SET", 15)]
  | vertexInputRate => [("VERTEX", 0), ("INSTANCE", 1)]
  | format =>
      [("UNDEFINED", 0), ("R8G8B8A8_UNORM", 37), ("R8G8B8A8_SRGB", 43), ("B8G8R8A8_UNORM", 44),
        ("B8G8R8A8_SRGB", 50), ("R16G16B16A16_SFLOAT", 97), ("R32_SFLOAT", 100),
        ("R32G32_SFLOAT", 103), ("R32G32B32_SFLOAT", 106), ("R32G32B32A32_SFLOAT", 109),
        ("D16_UNORM", 124), ("D32_SFLOAT", 126), ("D24_UNORM_S8_UINT", 129),
        ("D32_SFLOAT_S8_UINT", 130)]

def ofName? (name : String) : Option Enumeration := all.find? (·.name == name)

def constant? (enumeration : Enumeration) (name : String) : Option UInt32 :=
  enumeration.constants.lookup name

end Enumeration

/-- A word read as a value of an enumeration. -/
structure Choice (enumeration : Enumeration) where
  raw : UInt32
  deriving DecidableEq

namespace Choice

variable {enumeration : Enumeration}

/-- The name of the value, or the enumeration and the number where it has none. -/
def text (choice : Choice enumeration) : String :=
  match enumeration.constants.find? fun constant => constant.2 == choice.raw with
  | some constant => constant.1
  | none => Text.application enumeration.name [toString choice.raw]

def codec : Codec (Choice enumeration) := Codec.word.map Choice.mk Choice.raw

theorem lawful_codec : (codec : Codec (Choice enumeration)).Lawful :=
  Codec.Lawful.map Codec.lawful_word (fun _ => rfl) fun _ => rfl

end Choice

/-- A truth value held in a word: every word but zero is true. -/
abbrev Flag := Choice .flag
abbrev PrimitiveTopology := Choice .primitiveTopology
abbrev PolygonMode := Choice .polygonMode
abbrev CullMode := Choice .cullMode
abbrev FrontFace := Choice .frontFace
abbrev CompareOp := Choice .compareOp
abbrev StencilOp := Choice .stencilOp
abbrev BlendFactor := Choice .blendFactor
abbrev BlendOp := Choice .blendOp
abbrev LogicOp := Choice .logicOp
abbrev VertexInputRate := Choice .vertexInputRate
abbrev Format := Choice .format

def Flag.isTrue (flag : Flag) : Bool := flag.raw != 0

def Flag.ofBool (value : Bool) : Flag := ⟨if value then 1 else 0⟩

def Flag.off : Flag := ⟨0⟩
def Flag.on : Flag := ⟨1⟩

def PrimitiveTopology.patchList : PrimitiveTopology := ⟨10⟩

/-- The format of an attachment that is absent. -/
def Format.absent : Format := ⟨0⟩

def Format.isPresent (format : Format) : Bool := format.raw != 0

end PipelineCache

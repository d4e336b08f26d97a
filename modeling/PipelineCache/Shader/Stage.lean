import PipelineCache.Text.Description

/-! The five programmable stages of a graphics pipeline, in pipeline order, and sets of stages. -/

namespace PipelineCache

inductive Stage
  | vertex
  | tessControl
  | tessEval
  | geometry
  | fragment
  deriving DecidableEq

/-- A set of stages, one bit for each. -/
structure StageFlags where
  bits : UInt32
  deriving DecidableEq

namespace Stage

/-- All stages in pipeline order. -/
def all : Vector Stage 5 := #v[vertex, tessControl, tessEval, geometry, fragment]

/-- The place of a stage in pipeline order. -/
def index : Stage → Fin 5
  | vertex => 0
  | tessControl => 1
  | tessEval => 2
  | geometry => 3
  | fragment => 4

/-- The number of a stage in stored keys; no stage has the number zero. -/
def number (stage : Stage) : UInt32 := UInt32.ofNat (stage.index + 1)

def ofNumber? (number : UInt32) : Option Stage :=
  all.toList.find? (·.number == number)

def flag (stage : Stage) : StageFlags := ⟨1 <<< UInt32.ofNat stage.index⟩

def name : Stage → String
  | vertex => "Vertex"
  | tessControl => "TessControl"
  | tessEval => "TessEval"
  | geometry => "Geometry"
  | fragment => "Fragment"

/-- The short name of the stage's program in listings. -/
def profile : Stage → String
  | vertex => "VS"
  | tessControl => "HS"
  | tessEval => "DS"
  | geometry => "GS"
  | fragment => "PS"

end Stage

namespace StageFlags

def none : StageFlags := ⟨0⟩

def union (flags others : StageFlags) : StageFlags := ⟨flags.bits ||| others.bits⟩

/-- Whether every stage of the second set is in the first. -/
def contains (flags others : StageFlags) : Bool := flags.bits &&& others.bits == others.bits

def text (flags : StageFlags) : String := Text.application "StageFlags" [toString flags.bits]

end StageFlags

end PipelineCache

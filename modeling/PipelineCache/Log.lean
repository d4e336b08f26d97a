import PipelineCache.Text.Pieces
import PipelineCache.Text.Terminal

/-! Messages about what the library does, each with a level of importance. -/

namespace PipelineCache

inductive Level
  | debug
  | info
  | warning
  | error
  deriving DecidableEq

structure Message where
  level : Level
  text : String
  deriving DecidableEq

def Level.name : Level → String
  | debug => "DEBUG"
  | info => "INFO"
  | warning => "WARN"
  | error => "ERROR"

namespace Message

def debug (text : String) : Message := ⟨.debug, text⟩
def info (text : String) : Message := ⟨.info, text⟩
def warning (text : String) : Message := ⟨.warning, text⟩
def error (text : String) : Message := ⟨.error, text⟩

/-- The level's name and the text. -/
def line (message : Message) : String := message.level.name ++ " " ++ message.text

/-- A message as a paragraph of a log: further lines of its text are indented, and control sequences
of terminals are left out. -/
def paragraph (message : Message) : String :=
  String.ofList (Text.Terminal.visible (Text.indented message.line.toList ++ ['\n']))

end Message

end PipelineCache

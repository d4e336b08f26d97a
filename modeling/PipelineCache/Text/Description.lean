import PipelineCache.Text.Combining
import PipelineCache.Text.Invisible

/-! The text of values in messages and listings: records with named fields, constructors with
arguments, lists, optional values and quoted strings. -/

namespace PipelineCache.Text

def commaSeparated (items : List String) : String := ", ".intercalate items

def list (items : List String) : String := "[" ++ commaSeparated items ++ "]"

def application (name : String) (arguments : List String) : String :=
  name ++ "(" ++ commaSeparated arguments ++ ")"

def record (name : String) (fields : List (String × String)) : String :=
  name ++ " \x7b " ++ commaSeparated (fields.map fun field => field.1 ++ ": " ++ field.2) ++ " \x7d"

def optional : Option String → String
  | none => "None"
  | some value => application "Some" [value]

def boolean (value : Bool) : String := if value then "true" else "false"

/-- Lower-case hexadecimal digits, without leading zeros. -/
def hex (value : Nat) : String := String.ofList (Nat.toDigits 16 value)

/-- A number in lower-case hexadecimal after `0x`. -/
def hexNumber (value : Nat) : String := "0x" ++ hex value

/-- Characters that show nothing by themselves. -/
def isUnseen (char : Char) : Bool :=
  if char.toNat < 127 then decide (char.toNat < 32) else isInvisible char || isCombining char

/-- Quotes, backslashes and characters that cannot be seen are written as escapes. -/
def escaped (char : Char) : String :=
  if char = '"' then "\\\""
  else if char = '\\' then "\\\\"
  else if char = '\n' then "\\n"
  else if char = '\t' then "\\t"
  else if char = '\r' then "\\r"
  else if char.toNat = 0 then "\\0"
  else if isUnseen char then
    "\\u\x7b" ++ hex char.toNat ++ "\x7d"
  else char.toString

def quoted (text : String) : String :=
  "\"" ++ String.join (text.toList.map escaped) ++ "\""

/-- Fills up on the left with blanks. -/
def alignedRight (width : Nat) (text : String) : String :=
  String.ofList (List.replicate (width - text.length) ' ') ++ text

end PipelineCache.Text

import PipelineCache.File.Load
import PipelineCache.File.Location

/-! A report on a cache file: its header, the numbers of whole and of damaged records, the length of
a torn end, and one line for each key. -/

namespace PipelineCache.Inspect

/-- What one run of the inspector prints, and the status it ends with. -/
structure Report where
  output : List String := []
  messages : List Message := []
  status : Nat := 0
  deriving DecidableEq

/-- What a run prints, each entry ended by a line feed. -/
def Report.printed (report : Report) : String := String.join (report.output.map (· ++ "\n"))

def Report.logged (report : Report) : String := String.join (report.messages.map Message.paragraph)

def warnings (path : String) : List Message :=
  if Path.extension? path = some cacheExtension then []
  else [.warning (path ++ " does not have the ." ++ cacheExtension ++ " extension")]

def headerLines (path : String) (header : Header) : List String :=
  ["file:      " ++ path, "version:   " ++ toString header.version,
    "key size:  " ++ toString header.keySize ++ " bytes"]

def keyLine (key : PipelineKey) (index : Nat) : String :=
  Text.alignedRight 6 (toString index) ++ "  " ++ key.describe

/-- The bytes of a file behind its last whole record. -/
def tornLength (length : Nat) (contents : Contents) : Nat :=
  length - (Header.size + contents.endOffset)

def contentLines (length : Nat) (contents : Contents) : List String :=
  let torn := tornLength length contents
  ["records:   " ++ toString contents.keys.length, "skipped:   " ++ toString contents.skipped]
    ++ (if 0 < torn then ["torn tail: " ++ toString torn ++ " bytes"] else [])
    ++ contents.keys.zipIdx.map fun (key, index) => keyLine key index

def failure (output : List String) (messages : List Message) (text : String) : Report :=
  ⟨output, messages ++ [.error text], 1⟩

/-- Reports on the file at a path. -/
def inspect (path : String) (disk : Disk) : Report :=
  let warned := warnings path
  match disk.openForReading with
  | .error error => failure [] warned ("opening " ++ path ++ ": " ++ error.message)
  | .ok source =>
      match disk.length with
      | .error error => failure [] warned ("reading file size: " ++ error.message)
      | .ok length =>
          match source.readHeader with
          | .error error => failure [] warned ("reading cache header: " ++ error.message)
          | .ok (header, rest) =>
              let lines := headerLines path header
              match header.check with
              | .error error =>
                  failure lines warned ("cache file was written by an incompatible build: "
                    ++ error.message)
              | .ok () =>
                  ⟨lines ++ contentLines length rest.readRecords, warned, 0⟩

def usage : String := "usage: scache-inspect <cache file>"

end PipelineCache.Inspect

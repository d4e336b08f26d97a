import PipelineCache.Inspect

/-! The command line of the inspector: one argument, the path of a cache file. -/

namespace PipelineCache

/-- What an attempt to read a file tells about its path. -/
def diskOfError : IO.Error → Disk
  | .noFileOrDirectory .. => {}
  | .permissionDenied .. =>
      { faults := { openingToRead := some (.system .permissionDenied) } }
  | .inappropriateType _ code _ => { node := if code = 20 then .obstructed else .directory }
  | error => { faults := { openingToRead := some (.custom .other (toString error)) } }

def diskAt (path : String) : IO Disk := do
  try
    let content ← IO.FS.readBinFile path
    return { node := .file content.toList }
  catch error => return diskOfError error

def inspectFile (path : String) : IO UInt32 := do
  let report := Inspect.inspect path (← diskAt path)
  IO.print report.printed
  IO.eprint report.logged
  return UInt32.ofNat report.status

end PipelineCache

def main (arguments : List String) : IO UInt32 := do
  match arguments with
  | [] =>
      IO.eprintln PipelineCache.Inspect.usage
      return 2
  | path :: _ => PipelineCache.inspectFile path

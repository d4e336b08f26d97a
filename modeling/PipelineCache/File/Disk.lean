import PipelineCache.File.Contents
import PipelineCache.File.Directories
import PipelineCache.File.Path

/-! The place of one cache file in the file system: what stands there, and which of the next file
operations fail. A handle stays bound to the file it was opened on, even if that file is removed.
Where nothing stands, the directories along the path decide how operations fail, and making the
parent directories can change that, also where it ends in a failure. -/

namespace PipelineCache

/-- What stands at the path of a file. -/
inductive Node
  | missing
  | file (content : Bytes)
  | directory
  /-- A regular file stands in the place of the parent directory. -/
  | obstructed
  /-- A device that gives zeros without end and has no room for a single byte. -/
  | full
  deriving DecidableEq

/-- Failures that do not follow from what stands at the path. -/
structure Faults where
  openingToRead : Option IoError := none
  /-- Reading fails at this offset. -/
  reading : Option (Nat × IoError) := none
  makingParents : Option IoError := none
  creating : Option IoError := none
  openingToAppend : Option IoError := none
  trimming : Option IoError := none
  /-- For each write to come, how many bytes get through before it fails; writes beyond the list and
  those without an entry succeed. -/
  writing : List (Option (Nat × IoError)) := []
  deriving DecidableEq

/-- How operations fail while nothing stands at the path. -/
structure Vacancy where
  opening : SystemFailure := .noSuchFile
  /-- Why no file can be created. -/
  creating : Option SystemFailure := none
  deriving DecidableEq

/-- What making the parent directories leads to while nothing stands at the path. -/
structure Prospect where
  /-- Whether the path then leads to a directory, one of those that were made or one above them. -/
  isDirectory : Bool := false
  vacancy : Vacancy := {}
  failure : Option IoError := none
  deriving DecidableEq

structure Disk where
  node : Node := .missing
  vacancy : Vacancy := {}
  prospect : Prospect := {}
  /-- How often the path was cleared; a handle opened before the last time reaches a removed file.
  -/
  generation : Nat := 0
  faults : Faults := {}
  deriving DecidableEq

/-- A file opened for appending. -/
structure Handle where
  generation : Nat
  deriving DecidableEq

namespace Disk

/-- The file system refuses an operation. -/
abbrev fails {α : Type} (failure : SystemFailure) : Except IoError α := .error (.system failure)

def source (disk : Disk) (content : Bytes) : Source :=
  match disk.faults.reading with
  | none => { bytes := content }
  | some (offset, error) => { bytes := content.take offset, failure := some error }

/-- Opens the file for reading. The zeros of the device are given as far as a header reaches, since
nothing reads on behind a header of zeros. -/
def openForReading (disk : Disk) : Except IoError Source :=
  match disk.faults.openingToRead with
  | some error => .error error
  | none =>
      match disk.node with
      | .missing => fails disk.vacancy.opening
      | .file content => .ok (disk.source content)
      | .directory => .ok { bytes := [], failure := some (.system .isADirectory) }
      | .obstructed => fails .notADirectory
      | .full => .ok { bytes := Bytes.zeros Header.size }

/-- Creates the parent directories where they are missing, as far as that goes. -/
def makeParents (disk : Disk) : Except IoError Unit × Disk :=
  match disk.faults.makingParents with
  | some error => (.error error, disk)
  | none =>
      match disk.node with
      | .obstructed => (fails .fileExists, disk)
      | .missing =>
          let ready := { disk with
            node := if disk.prospect.isDirectory then .directory else .missing
            vacancy := disk.prospect.vacancy }
          match disk.prospect.failure with
          | none => (.ok (), ready)
          | some error => (.error error, ready)
      | _ => (.ok (), disk)

/-- Creates an empty file, or cuts an existing one to nothing. -/
def create (disk : Disk) : Except IoError Disk :=
  match disk.faults.creating with
  | some error => .error error
  | none =>
      match disk.node with
      | .file _ => .ok { disk with node := .file [] }
      | .missing =>
          match disk.vacancy.creating with
          | none => .ok { disk with node := .file [] }
          | some failure => fails failure
      | .directory => fails .isADirectory
      | .obstructed => fails .notADirectory
      | .full => .ok disk

/-- Opens an existing file for appending. -/
def openForAppend (disk : Disk) : Except IoError Handle :=
  match disk.faults.openingToAppend with
  | some error => .error error
  | none =>
      match disk.node with
      | .missing => fails disk.vacancy.opening
      | .file _ | .full => .ok ⟨disk.generation⟩
      | .directory => fails .isADirectory
      | .obstructed => fails .notADirectory

/-- No path holds the null character. -/
def nullError : IoError :=
  .custom .invalidInput "file name contained an unexpected NUL byte"

/-- Why the file system refuses a path whatever stands there, if it does. -/
def refusal? (path : String) : Option IoError :=
  if '\x00' ∈ path.toList then some nullError
  else if Path.isTooLong path then some (.system .nameTooLong)
  else none

/-- Whether a path leads to one of some directories, and how operations fail if it does not. -/
def survey (directories : Directories) (path : String) : Bool × Vacancy :=
  let parts := Path.parts path
  let creating := directories.obstacle? parts
  match directories.walk {} parts with
  | .ok _ => (true, { creating := creating })
  | .error failure => (false, { opening := failure, creating := creating })

/-- What a path leads to once its parent directories were made. -/
def prospectOf (path : String) : Prospect :=
  let parents := Path.parents path
  let (made, failure) := Directories.make {} {} parents
  let (isDirectory, vacancy) := survey made path
  { isDirectory := isDirectory
    vacancy := vacancy
    failure :=
      if parents.any (·.contains '\x00') then some nullError else failure.map IoError.system }

/-- Whether a path leads from the root to the device without room. -/
def isFullDevice (path : String) : Bool :=
  let parts := Path.parts path
  parts.head? = some [] && parts.getLast? = some "full".toList &&
    Path.components path = ["dev".toList, "full".toList]

/-- The place of a path before anything was put there. A path that is too long is not followed. -/
def atPath (path : String) : Disk :=
  let refused := refusal? path
  let faults : Faults :=
    { openingToRead := refused, creating := refused, openingToAppend := refused }
  if Path.isTooLong path then { faults := faults }
  else
    let (isDirectory, vacancy) := survey {} path
    { node := if isFullDevice path then .full else if isDirectory then .directory else .missing
      vacancy := vacancy
      prospect := prospectOf path
      faults := faults }

/-- The failure that awaits the next write, and the disk without it. -/
def nextWrite (disk : Disk) : Option (Nat × IoError) × Disk :=
  match disk.faults.writing with
  | [] => (none, disk)
  | fate :: later => (fate, { disk with faults := { disk.faults with writing := later } })

/-- Writes bytes at the end of the file. A write that fails may leave a first part of them behind.
-/
def append (disk : Disk) (handle : Handle) (bytes : Bytes) : Except IoError Unit × Disk :=
  let (fate, disk) := disk.nextWrite
  if handle.generation ≠ disk.generation then
    (match fate with | none => .ok () | some (_, error) => .error error, disk)
  else
    match disk.node, fate with
    | .file content, none => (.ok (), { disk with node := .file (content ++ bytes) })
    | .file content, some (written, error) =>
        (.error error, { disk with node := .file (content ++ bytes.take written) })
    | .full, _ => (fails .noSpaceLeft, disk)
    | _, _ => (.ok (), disk)

/-- The length of the file as the file system tells it. -/
def length (disk : Disk) : Except IoError Nat :=
  match disk.node with
  | .missing => fails disk.vacancy.opening
  | .file content => .ok content.length
  | .directory | .full => .ok 0
  | .obstructed => fails .notADirectory

/-- Cuts the file down to a length. -/
def truncate (disk : Disk) (length : Nat) : Except IoError Disk :=
  match disk.faults.trimming with
  | some error => .error error
  | none =>
      match disk.node with
      | .file content => .ok { disk with node := .file (content.resize length) }
      | _ => .ok disk

/-- Removes what stands at the path and puts something else there. -/
def replace (disk : Disk) (node : Node) : Disk :=
  { disk with node := node, generation := disk.generation + 1 }

/-- The whole content, where the path leads to a regular file. -/
def content? (disk : Disk) : Option Bytes :=
  match disk.node with
  | .file content => some content
  | _ => none

/-- Gives the file a new content, keeping handles on it, or creates it with its parent directories
if that is possible. -/
def put (disk : Disk) (content : Bytes) : Disk :=
  let ready := disk.makeParents.2
  match ready.create with
  | .ok created =>
      match created.node with
      | .file _ => { created with node := .file content }
      | _ => created
  | .error _ => ready

end Disk

end PipelineCache

import PipelineCache.File.Disk

/-! Loading a cache file, and repairing it. A file that is missing, cannot be read or belongs to
another build is replaced by an empty one; a torn end is cut off, so that later records stand where
a reader looks for them. Loading never fails: at worst the cache is empty. -/

namespace PipelineCache

/-- What an operation on a file gave, what it said, and the file system after it. -/
structure Outcome (α : Type) where
  value : α
  messages : List Message
  disk : Disk

namespace Disk

def readCache (disk : Disk) : Except CacheError Contents := do
  let source ← disk.openForReading.mapError CacheError.io
  source.readCache

/-- Replaces the file by one that holds a header only. -/
def startAfresh (disk : Disk) : Except CacheError Unit × Disk :=
  match disk.makeParents with
  | (.error error, ready) => (.error (.io error), ready)
  | (.ok (), ready) =>
      match ready.create with
      | .error error => (.error (.io error), ready)
      | .ok created =>
          let (result, written) := created.append ⟨created.generation⟩ Header.current.toBytes
          (result.mapError CacheError.io, written)

/-- Cuts off what stands behind the last whole record. -/
def trim (disk : Disk) (path : String) (endOffset : Nat) : Outcome (Except CacheError Unit) :=
  match disk.length with
  | .error error => ⟨.error (.io error), [], disk⟩
  | .ok length =>
      if endOffset < length then
        let message := Message.warning ("state cache: dropping " ++ toString (length - endOffset)
          ++ " bytes of torn record at the end of " ++ path)
        match disk.truncate endOffset with
        | .error error => ⟨.error (.io error), [message], disk⟩
        | .ok trimmed => ⟨.ok (), [message], trimmed⟩
      else ⟨.ok (), [], disk⟩

/-- Replaces the file by an empty cache, whether or not that succeeds. -/
def loadEmpty (disk : Disk) (path : String) (messages : List Message) : Outcome Contents :=
  let begun := messages ++ [.info ("state cache: initializing cache file " ++ path)]
  match disk.startAfresh with
  | (.ok (), fresh) => ⟨{}, begun, fresh⟩
  | (.error error, fresh) =>
      ⟨{}, begun ++ [.warning ("state cache: failed to initialize " ++ path ++ ": "
        ++ error.message)], fresh⟩

/-- Reads the file, cutting off a torn end, or replaces it by an empty cache. -/
def load (disk : Disk) (path : String) : Outcome Contents :=
  match disk.readCache with
  | .ok contents =>
      let messages := contents.messages ++ [.info ("state cache: read "
        ++ toString contents.keys.length ++ " entries from " ++ path ++ " ("
        ++ toString contents.skipped ++ " skipped)")]
      let trimmed := disk.trim path contents.endOffset
      match trimmed.value with
      | .ok () => ⟨contents, messages ++ trimmed.messages, trimmed.disk⟩
      | .error error =>
          trimmed.disk.loadEmpty path (messages ++ trimmed.messages ++
            [.warning ("state cache: cannot trim " ++ path ++ ": " ++ error.message)])
  | .error error =>
      disk.loadEmpty path (
        if error.isNotFound then [.info ("state cache: no cache file at " ++ path)]
        else [.warning ("state cache: discarding " ++ path ++ ": " ++ error.message)])

/-- Opens an existing cache file for new records. -/
def openLog (disk : Disk) (path : String) : Except CacheError Handle :=
  disk.openForAppend.mapError fun error =>
    .withContext ("opening " ++ path ++ " for append") (.io error)

/-- Appends one record with a single write. -/
def appendRecord (disk : Disk) (handle : Handle) (key : PipelineKey) : Except IoError Unit × Disk :=
  disk.append handle (Record.encode key)

/-- Appends records up to the first that fails. -/
def appendRecords (disk : Disk) (handle : Handle) : List PipelineKey → Except IoError Unit × Disk
  | [] => (.ok (), disk)
  | key :: keys =>
      match disk.appendRecord handle key with
      | (.ok (), written) => written.appendRecords handle keys
      | (.error error, written) => (.error error, written)

end Disk

end PipelineCache

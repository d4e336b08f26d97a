import PipelineCache.File.Load

/-! The writer of a state cache. It owns the set of known keys and the open file, and appends each
key that it sees for the first time. A failed write closes the file for good; keys are remembered in
memory all the same. -/

namespace PipelineCache

structure Writer where
  /-- The open cache file. -/
  log : Option Handle
  /-- The known keys, oldest first, each once. -/
  known : List PipelineKey
  /-- New keys are passed on to the lookup. -/
  forwards : Bool
  deriving DecidableEq

/-- What becomes of a key that the writer is given. -/
inductive Recording
  | duplicate
  | added (written : Bool)
  deriving DecidableEq

namespace Writer

/-- Appends the key to the open file. -/
def persist (writer : Writer) (disk : Disk) (key : PipelineKey) : Writer × Outcome Bool :=
  match writer.log with
  | none => (writer, ⟨false, [], disk⟩)
  | some handle =>
      match disk.appendRecord handle key with
      | (.ok (), written) => (writer, ⟨true, [], written⟩)
      | (.error error, written) =>
          ({ writer with log := none }, ⟨false,
            [.warning ("state cache: write failed, disabling persistence: " ++ error.message)],
            written⟩)

/-- Takes a key into the set of known ones. -/
def record (writer : Writer) (disk : Disk) (key : PipelineKey) : Writer × Outcome Recording :=
  if key ∈ writer.known then (writer, ⟨.duplicate, [], disk⟩)
  else
    let (persisted, outcome) := writer.persist disk key
    ({ persisted with known := persisted.known ++ [key] },
      ⟨.added outcome.value, outcome.messages, outcome.disk⟩)

end Writer

end PipelineCache

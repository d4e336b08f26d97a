import PipelineCache.Cache.Config
import PipelineCache.Cache.Lookup
import PipelineCache.Cache.Writer
import PipelineCache.Compiler
import PipelineCache.WorkQueue

/-! The state cache: a writer that remembers every instance drawn with, and a lookup that has
remembered pipelines compiled as soon as their shaders are there. Each works through its own queue;
the writer passes new keys to the lookup, never the other way round. -/

namespace PipelineCache

/-- Where the writer stands; each name says what it does next. -/
inductive WriterPosition
  | waiting
  | handling (job : Job)
  | forwarding (key : PipelineKey)
  | ended
  deriving DecidableEq

/-- Where the lookup stands; each name says what it does next. The list at the end of a position
holds the keys that come after the current one. -/
inductive LookupPosition
  | waiting
  | handling (entry : LookupEntry)
  /-- Gets a pipeline for the shaders of the next key. -/
  | building (ready : List ReadyKey)
  /-- Gets a render pass for the format of a key. -/
  | passing (key : PipelineKey) (pipeline : PipelineId) (ready : List ReadyKey)
  | submitting (key : PipelineKey) (pipeline : PipelineId) (pass : RenderPass)
      (ready : List ReadyKey)
  | counting (ready : List ReadyKey)
  | ended
  deriving DecidableEq

structure Cache where
  config : CacheConfig
  stats : CacheStats := {}
  stopped : Bool := false
  writerQueue : WorkQueue Job := {}
  lookupQueue : WorkQueue LookupEntry := {}
  writer : Writer
  writerPosition : WriterPosition := .waiting
  lookup : Lookup
  lookupPosition : LookupPosition := .waiting

namespace Cache

/-- The keys without repetitions, each at its first place. -/
def distinct (keys : List PipelineKey) : List PipelineKey :=
  keys.foldl (fun known key => if key ∈ known then known else known ++ [key]) []

/-- Opens the cache file for new records; without success nothing will be written. -/
def openLog (path : String) (disk : Disk) : Option Handle × List Message :=
  match disk.openLog path with
  | .ok handle => (some handle, [])
  | .error error =>
      (none, [.warning ("state cache: new entries will not be persisted: " ++ error.message)])

/-- Loads the cache file and gets the writer and the lookup ready. -/
def start (config : CacheConfig) (disk : Disk) : Outcome Cache :=
  let loaded : Outcome Contents :=
    match config.filePath with
    | some path => disk.load path
    | none => ⟨{}, [], disk⟩
  let known := distinct loaded.value.keys
  let (log, warnings) :=
    match config.filePath, config.enableWriter with
    | some path, true => openLog path loaded.disk
    | _, _ => (none, [])
  { value := {
      config := config
      stats := { entriesLoaded := known.length, recordsSkipped := loaded.value.skipped }
      writer := { log := log, known := known, forwards := config.enablePrewarm }
      writerPosition := if config.enableWriter then .waiting else .ended
      lookup := { index := known.foldl BackReferences.insert [] }
      lookupPosition := if config.enablePrewarm then .waiting else .ended }
    messages := loaded.messages ++ warnings
    disk := loaded.disk }

def acceptsInstances (cache : Cache) : Bool := cache.config.enableWriter && !cache.stopped

def acceptsShaders (cache : Cache) : Bool := cache.config.enablePrewarm && !cache.stopped

/-- Makes a shader known to the lookup. -/
def provide (cache : Cache) (shader : Shader) : Cache :=
  if cache.acceptsShaders then
    { cache with lookupQueue := cache.lookupQueue.push (.shader shader) }
  else cache

/-- Lets both workers end; queued work will be dropped. -/
def stop (cache : Cache) : Cache := { cache with stopped := true }

def count (cache : Cache) (change : CacheStats → CacheStats) : Cache :=
  { cache with stats := change cache.stats }

end Cache

end PipelineCache

import PipelineCache.File.Location
import PipelineCache.Text.Description

/-! Settings of a state cache, and the numbers it keeps about its work. -/

namespace PipelineCache

structure CacheConfig where
  /-- The path of the cache file; without one the cache lives in memory only. -/
  filePath : Option String := none
  /-- New instances are remembered. -/
  enableWriter : Bool := true
  /-- Remembered pipelines are compiled as soon as their shaders are there. -/
  enablePrewarm : Bool := true
  deriving DecidableEq

namespace CacheConfig

/-- The settings for an executable, whose name may be unknown. -/
def ofExecutable (temporary : String) (executable : Option String) : CacheConfig :=
  { filePath := executable.map (defaultCachePath temporary) }

def withFilePath (config : CacheConfig) (path : String) : CacheConfig :=
  { config with filePath := some path }

def withoutFile (config : CacheConfig) : CacheConfig := { config with filePath := none }

def writer (config : CacheConfig) (enabled : Bool) : CacheConfig :=
  { config with enableWriter := enabled }

def prewarm (config : CacheConfig) (enabled : Bool) : CacheConfig :=
  { config with enablePrewarm := enabled }

def text (config : CacheConfig) : String :=
  Text.record "StateCacheConfig" [
    ("file_path", Text.optional (config.filePath.map Text.quoted)),
    ("enable_writer", Text.boolean config.enableWriter),
    ("enable_prewarm", Text.boolean config.enablePrewarm)]

end CacheConfig

structure CacheStats where
  /-- Distinct keys read from the cache file. -/
  entriesLoaded : Nat := 0
  /-- Damaged records in the cache file. -/
  recordsSkipped : Nat := 0
  /-- Keys seen for the first time in this run. -/
  entriesAdded : Nat := 0
  recordsWritten : Nat := 0
  /-- Reported instances whose key was known already. -/
  duplicatesDropped : Nat := 0
  shadersRegistered : Nat := 0
  /-- Shaders provided under a key that was registered already. -/
  duplicateShaders : Nat := 0
  prewarmsSubmitted : Nat := 0
  deriving DecidableEq

end PipelineCache

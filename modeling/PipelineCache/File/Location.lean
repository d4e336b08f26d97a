import PipelineCache.Digest.Xxh3

/-! Where the cache of an executable is kept, if nobody says otherwise. -/

namespace PipelineCache

def cacheExtension : String := "scache"

/-- A name that is the same for every run of an executable. -/
def cacheFileName (executable : String) : String :=
  hex64 (Xxh3.hash (Bytes.ofText executable)) ++ "." ++ cacheExtension

/-- The cache file of an executable inside a directory for temporary files. -/
def defaultCachePath (temporary executable : String) : String :=
  temporary ++ "/slop/" ++ cacheFileName executable

end PipelineCache

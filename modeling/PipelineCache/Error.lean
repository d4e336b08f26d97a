import PipelineCache.File.Header

/-! Failures and their wording. A failure has a cause, around which descriptions of what was being
done may be wrapped; questions about the cause look through the wrapping. -/

namespace PipelineCache

/-- The class of an input or output failure. -/
inductive IoKind
  | notFound
  | permissionDenied
  | alreadyExists
  | notADirectory
  | isADirectory
  | storageFull
  | invalidData
  | invalidInput
  | invalidName
  | unexpectedEnd
  | other
  deriving DecidableEq

/-- A failure that the file system reports. -/
inductive SystemFailure
  | noSuchFile
  | permissionDenied
  | fileExists
  | notADirectory
  | isADirectory
  | noSpaceLeft
  | nameTooLong
  deriving DecidableEq

inductive IoError
  | system (failure : SystemFailure)
  /-- The input ended inside a value of fixed size. -/
  | shortRead
  | plain (kind : IoKind)
  | custom (kind : IoKind) (message : String)
  deriving DecidableEq

inductive CacheError
  | io (error : IoError)
  | layoutMismatch (found expected : Header)
  | compile (message : String)
  | invalidState (message : String)
  | custom (message : String)
  | withContext (message : String) (source : CacheError)
  deriving DecidableEq

namespace IoKind

def name : IoKind → String
  | notFound => "NotFound"
  | permissionDenied => "PermissionDenied"
  | alreadyExists => "AlreadyExists"
  | notADirectory => "NotADirectory"
  | isADirectory => "IsADirectory"
  | storageFull => "StorageFull"
  | invalidData => "InvalidData"
  | invalidInput => "InvalidInput"
  | invalidName => "InvalidFilename"
  | unexpectedEnd => "UnexpectedEof"
  | other => "Other"

def all : List IoKind :=
  [notFound, permissionDenied, alreadyExists, notADirectory, isADirectory, storageFull,
    invalidData, invalidInput, invalidName, unexpectedEnd, other]

def message : IoKind → String
  | notFound => "entity not found"
  | permissionDenied => "permission denied"
  | alreadyExists => "entity already exists"
  | notADirectory => "not a directory"
  | isADirectory => "is a directory"
  | storageFull => "no storage space"
  | invalidData => "invalid data"
  | invalidInput => "invalid input parameter"
  | invalidName => "invalid filename"
  | unexpectedEnd => "unexpected end of file"
  | other => "other error"

end IoKind

namespace SystemFailure

def code : SystemFailure → Nat
  | noSuchFile => 2
  | permissionDenied => 13
  | fileExists => 17
  | notADirectory => 20
  | isADirectory => 21
  | noSpaceLeft => 28
  | nameTooLong => 36

def kind : SystemFailure → IoKind
  | noSuchFile => .notFound
  | permissionDenied => .permissionDenied
  | fileExists => .alreadyExists
  | notADirectory => .notADirectory
  | isADirectory => .isADirectory
  | noSpaceLeft => .storageFull
  | nameTooLong => .invalidName

def message : SystemFailure → String
  | noSuchFile => "No such file or directory"
  | permissionDenied => "Permission denied"
  | fileExists => "File exists"
  | notADirectory => "Not a directory"
  | isADirectory => "Is a directory"
  | noSpaceLeft => "No space left on device"
  | nameTooLong => "File name too long"

end SystemFailure

namespace IoError

def kind : IoError → IoKind
  | system failure => failure.kind
  | shortRead => .unexpectedEnd
  | plain kind => kind
  | custom kind _ => kind

def message : IoError → String
  | system failure => failure.message ++ " (os error " ++ toString failure.code ++ ")"
  | shortRead => "failed to fill whole buffer"
  | plain kind => kind.message
  | custom _ message => message

def text : IoError → String
  | system failure =>
      Text.record "Os" [("code", toString failure.code), ("kind", failure.kind.name),
        ("message", Text.quoted failure.message)]
  | shortRead =>
      Text.record "Error" [("kind", IoKind.unexpectedEnd.name),
        ("message", Text.quoted shortRead.message)]
  | plain kind => Text.application "Kind" [kind.name]
  | custom kind message =>
      Text.record "Custom" [("kind", kind.name), ("error", Text.quoted message)]

end IoError

namespace CacheError

/-- The innermost failure, without descriptions around it. -/
def cause : CacheError → CacheError
  | withContext _ source => source.cause
  | error => error

def isIo (error : CacheError) : Bool :=
  match error.cause with
  | io _ => true
  | _ => false

/-- Whether the cause is a file that does not exist. -/
def isNotFound (error : CacheError) : Bool :=
  match error.cause with
  | io error => error.kind == .notFound
  | _ => false

def isLayoutMismatch (error : CacheError) : Bool :=
  match error.cause with
  | layoutMismatch .. => true
  | _ => false

def message : CacheError → String
  | io error => "I/O error: " ++ error.message
  | layoutMismatch found expected =>
      "state cache layout mismatch: found version " ++ toString found.version ++ " key size "
        ++ toString found.keySize ++ ", expected version " ++ toString expected.version
        ++ " key size " ++ toString expected.keySize
  | compile message => "pipeline compilation failed: " ++ message
  | invalidState message => "invalid pipeline state: " ++ message
  | custom message => message
  | withContext message source => message ++ ": " ++ source.message

/-- The messages of the failures behind this one, outermost first. -/
def sources : CacheError → List String
  | io error => [error.message]
  | withContext _ source => source.message :: source.sources
  | _ => []

def text : CacheError → String
  | io error => Text.application "Io" [error.text]
  | layoutMismatch found expected =>
      Text.record "LayoutMismatch" [
        ("found_version", toString found.version), ("found_key_size", toString found.keySize),
        ("expected_version", toString expected.version),
        ("expected_key_size", toString expected.keySize)]
  | compile message => Text.application "Compile" [Text.quoted message]
  | invalidState message => Text.application "InvalidState" [Text.quoted message]
  | custom message => Text.application "Custom" [Text.quoted message]
  | withContext message source =>
      Text.record "WithContext" [("message", Text.quoted message), ("source", source.text)]

end CacheError

namespace Header

/-- Refuses every header but that of this build. -/
def check (header : Header) : Except CacheError Unit :=
  if header = current then .ok () else .error (.layoutMismatch header current)

end Header

end PipelineCache

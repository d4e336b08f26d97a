import PipelineCache.Engine.Basic

/-! Starting an engine, and taking it down. -/

namespace PipelineCache

/-- Who compiles new instances in the background. -/
inductive CompilerChoice
  /-- Nobody; what the state cache submits is only collected. -/
  | absent
  /-- All jobs are only collected. -/
  | recording
  | background (workers : Nat)
  deriving DecidableEq

structure Setup where
  compiler : CompilerChoice := .absent
  cache : Option CacheConfig := some {}
  /-- Pipelines report to the state cache. -/
  attach : Bool := true

namespace CompilerChoice

def compiler : CompilerChoice → Compiler
  | absent | recording => .recording []
  | background workers => .pool (.ofSize workers)

def messages : CompilerChoice → List Message
  | absent | recording => []
  | background workers =>
      [.debug ("background compiler: started " ++ toString (Pool.ofSize workers).workers.length
        ++ " workers")]

end CompilerChoice

namespace Engine

/-- Starts the compiler, then the state cache, which loads its file. -/
def start (setup : Setup) (disk : Disk) : Turn :=
  let outcome : Outcome (Option Cache) :=
    match setup.cache with
    | none => ⟨none, [], disk⟩
    | some config =>
        let started := Cache.start config disk
        ⟨some started.value, started.messages, started.disk⟩
  let engine : Engine :=
    { manager := {
        optimizes := setup.compiler != .absent
        reports := setup.attach && outcome.value.isSome }
      compiler := setup.compiler.compiler
      cache := outcome.value
      disk := outcome.disk }
  (engine.unchanged.sayAll .caller setup.compiler.messages).sayAll .caller outcome.messages

/-- Lets the threads of the state cache end. -/
def stopCache (engine : Engine) : Engine := engine.updateCache Cache.stop

/-- Lets the workers of the background compiler end. -/
def stopCompiler (engine : Engine) : Engine :=
  match engine.compiler with
  | .recording _ => engine
  | .pool pool => { engine with compiler := .pool pool.stop }

/-- Every handle that some instance owns; these are destroyed when the engine is taken down. -/
def ownedHandles (engine : Engine) : List PipelineHandle :=
  engine.store.live.flatMap Instance.handles

/-- The owned handles in ascending order. -/
def sortedHandles (engine : Engine) : List PipelineHandle :=
  engine.ownedHandles.mergeSort fun first second => first.raw ≤ second.raw

end Engine

end PipelineCache

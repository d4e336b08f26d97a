import PipelineCache.Pipeline.Call

/-! Background compilation. Jobs are either only collected, or taken by the workers of a pool, each
of which optimizes one instance after the other. The pool counts the jobs that were accepted and are
not done, so that others can wait for it. -/

namespace PipelineCache

/-- The number of a pipeline in an engine. -/
abbrev PipelineId := Nat

/-- An instance together with the pipeline it is to be used with. -/
structure Job where
  pipeline : PipelineId
  entry : InstanceId
  deriving DecidableEq

/-- Where a worker stands; each name says what it does next. -/
inductive WorkerPosition
  | waiting
  /-- Has taken a job and looks whether the pool is stopped. -/
  | starting (job : Job)
  | compiling (job : Job) (optimization : Optimization)
  /-- Lets go of a job that was done or dropped. -/
  | releasing (job : Job)
  | counting
  | ended
  deriving DecidableEq

structure Pool where
  jobs : List Job := []
  /-- Jobs that were accepted and are not yet done or dropped. -/
  pending : Nat := 0
  accepts : Bool := true
  stopped : Bool := false
  workers : List WorkerPosition
  deriving DecidableEq

inductive Compiler
  /-- Collects jobs until somebody asks for them. -/
  | recording (jobs : List Job)
  | pool (pool : Pool)
  deriving DecidableEq

namespace Pool

/-- The name of the workers' threads, before the number of each. -/
def threadName : String := "scache-compiler"

/-- A pool has at least one worker. -/
def ofSize (workers : Nat) : Pool := { workers := List.replicate (max workers 1) .waiting }

/-- One more job is counted. -/
def announce (pool : Pool) : Pool := { pool with pending := pool.pending + 1 }

/-- A counted job is put where the workers find it. -/
def send (pool : Pool) (job : Job) : Pool := { pool with jobs := pool.jobs ++ [job] }

def offer (pool : Pool) (job : Job) : Pool := pool.announce.send job

def finishOne (pool : Pool) : Pool := { pool with pending := pool.pending - 1 }

/-- Refuses new jobs, and drops the waiting ones as workers come to them. -/
def stop (pool : Pool) : Pool := { pool with stopped := true, accepts := false }

def place (pool : Pool) (worker : Nat) (position : WorkerPosition) : Pool :=
  { pool with workers := pool.workers.set worker position }

end Pool

namespace Compiler

def accepts : Compiler → Bool
  | recording _ => true
  | pool current => current.accepts

def offer (compiler : Compiler) (job : Job) : Compiler :=
  match compiler with
  | recording jobs => recording (jobs ++ [job])
  | pool current => pool (current.offer job)

/-- The jobs collected so far. -/
def recorded : Compiler → List Job
  | recording jobs => jobs
  | pool _ => []

/-- The jobs that nobody has taken yet: those collected, or those on their way to the workers. -/
def jobs : Compiler → List Job
  | recording jobs => jobs
  | pool current => current.jobs

theorem jobs_offer (compiler : Compiler) (job : Job) :
    (compiler.offer job).jobs = compiler.jobs ++ [job] := by
  cases compiler <;> rfl

end Compiler

end PipelineCache

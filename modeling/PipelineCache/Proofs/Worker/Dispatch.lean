import Mathlib.Logic.Function.Basic
import PipelineCache.Engine.Start
import PipelineCache.Proofs.Run
import PipelineCache.Proofs.Worker.Step

/-! A pool of workers among those who use it: any number of callers queue jobs, wait until the pool is
idle, or shut it down, each in steps between which workers and other callers may act. Queueing and
shutting down take turns at the sender of the jobs, which is locked from the first look at it until a job
is counted and sent; a shutdown then claims the workers that no other has claimed, and joins one after
the other. The count of pending jobs has a lock of its own, which nobody keeps over a step. A call may
be made on the thread of a worker, which then waits for it.

Beside the pool a ledger is kept of the jobs that were accepted, and of what became of each. -/

namespace PipelineCache

/-- Where somebody stands who queues a job; each name says what comes next. -/
inductive QueueStage
  /-- Needs the lock of the sender. -/
  | entering
  | announcing
  | sending
  /-- Takes the announcement back, because nobody receives any more. -/
  | retracting
  | leaving
  | returned
  deriving DecidableEq

inductive WaitStage
  | checking
  | asleep
  | returned
  deriving DecidableEq

inductive ShutdownStage
  | stopping
  /-- Needs the lock of the sender. -/
  | closing
  /-- Needs the lock of the workers. -/
  | claiming
  /-- Waits for workers to end, one after the other. -/
  | joining (workers : List Nat)
  | returned
  deriving DecidableEq

/-- What somebody wants of a pool, and how far it has come. -/
inductive Errand
  | queue (job : Job) (stage : QueueStage)
  /-- Waits until the pool is idle. When the call was made, `since` jobs had been accepted. -/
  | wait (since : Nat) (stage : WaitStage)
  | shutdown (stage : ShutdownStage)
  deriving DecidableEq

namespace Errand

/-- The sender is locked. -/
def hasSender : Errand → Bool
  | queue _ .announcing | queue _ .sending | queue _ .retracting | queue _ .leaving => true
  | _ => false

/-- The handles of the workers are locked. -/
def isJoining : Errand → Bool
  | shutdown (.joining _) => true
  | _ => false

/-- The job that is counted and not sent. -/
def unsent : Errand → List Job
  | queue job .sending | queue job .retracting => [job]
  | _ => []

def hasReturned : Errand → Bool
  | queue _ .returned | wait _ .returned | shutdown .returned => true
  | _ => false

def woken : Errand → Errand
  | wait since .asleep => wait since .checking
  | errand => errand

end Errand

structure PoolCall where
  errand : Errand
  /-- The worker on whose thread the call is made. -/
  host : Option Nat := none
  deriving DecidableEq

/-- What became of a job that a worker has taken, and whether the pool was stopped when that was
decided. -/
inductive Mark
  | started (stopped : Bool)
  | completed
  | skipped (stopped : Bool)
  deriving DecidableEq

/-- A job in the hands of a worker. -/
structure Taking where
  worker : Nat
  job : Job
  marks : List Mark := []
  deriving DecidableEq

/-- A pool with everybody who uses it. -/
structure Dispatch where
  engine : Engine
  /-- The workers that no shutdown has claimed. -/
  unclaimed : List Nat
  /-- All calls that were ever made, in their order. -/
  calls : List PoolCall := []
  /-- All jobs that were ever accepted, in their order. -/
  accepted : List Job := []
  /-- The jobs that workers have taken, in their order. -/
  takings : List Taking := []
  /-- The number of each worker's last taking. -/
  desk : Nat → Nat := fun _ => 0

namespace Dispatch

/-- A new pool, in an engine. -/
def start (engine : Engine) (workers : Nat) : Dispatch where
  engine := { engine with compiler := .pool (.ofSize workers) }
  unclaimed := List.range (max workers 1)

/-- The jobs that are counted and not sent. -/
def unsent (dispatch : Dispatch) : List Job :=
  dispatch.calls.flatMap fun call => call.errand.unsent

def senderLocked (dispatch : Dispatch) : Bool := dispatch.calls.any fun call => call.errand.hasSender

def workersLocked (dispatch : Dispatch) : Bool := dispatch.calls.any fun call => call.errand.isJoining

/-- The worker has a job in its hands. -/
def isBusy (dispatch : Dispatch) (worker : Nat) : Bool :=
  (dispatch.engine.workerAt? worker).any WorkerPosition.isBusy

/-- A call is made on the thread of the worker and has not returned. -/
def isHost (dispatch : Dispatch) (worker : Nat) : Bool :=
  dispatch.calls.any fun call => call.host == some worker && !call.errand.hasReturned

/-- All who wait for the pool to be idle are woken. -/
def wake (dispatch : Dispatch) : Dispatch :=
  { dispatch with calls := dispatch.calls.map fun call => { call with errand := call.errand.woken } }

/-- The count has gone down; those who wait for it are woken if nothing is pending. -/
def notify (dispatch : Dispatch) (pool : Pool) : Dispatch :=
  if pool.pending = 0 then dispatch.wake else dispatch

/-! ### Callers -/

/-- What a call does next to a pool and becomes itself, unless it has to wait. -/
def next? (dispatch : Dispatch) (pool : Pool) (call : PoolCall) : Option (Errand × Pool) :=
  match call.errand with
  | .queue job .entering =>
      if dispatch.senderLocked then none
      else some (.queue job (if pool.accepts then .announcing else .returned), pool)
  | .queue job .announcing => some (.queue job .sending, pool.announce)
  | .queue job .sending =>
      if pool.workers.all (· == .ended) then some (.queue job .retracting, pool)
      else some (.queue job .leaving, pool.send job)
  | .queue job .retracting => some (.queue job .leaving, pool.finishOne)
  | .queue job .leaving => some (.queue job .returned, pool)
  | .wait since .checking =>
      some (.wait since (if pool.pending = 0 then .returned else .asleep), pool)
  | .shutdown .stopping => some (.shutdown .closing, { pool with stopped := true })
  | .shutdown .closing =>
      if dispatch.senderLocked then none
      else some (.shutdown .claiming, { pool with accepts := false })
  | .shutdown .claiming =>
      if dispatch.workersLocked then none
      else some (.shutdown (.joining dispatch.unclaimed), pool)
  | .shutdown (.joining []) => some (.shutdown .returned, pool)
  | .shutdown (.joining (worker :: rest)) =>
      -- A thread does not wait for itself.
      if call.host = some worker ∨ pool.workers[worker]? = some .ended then
        some (.shutdown (.joining rest), pool)
      else none
  | _ => none

/-- The pool is replaced; a job that is sent is held from then on. -/
def place (dispatch : Dispatch) (call : PoolCall) (errand : Errand) (pool : Pool) : Engine :=
  match call.errand, errand with
  | .queue job .sending, .queue _ .leaving =>
      { dispatch.engine.hold job.entry with compiler := .pool pool }
  | _, _ => { dispatch.engine with compiler := .pool pool }

/-- A call has done what it does next. -/
def proceed (dispatch : Dispatch) (index : Nat) (call : PoolCall) (errand : Errand) (pool : Pool) :
    Dispatch :=
  let moved : Dispatch := { dispatch with
    engine := dispatch.place call errand pool
    calls := dispatch.calls.set index { call with errand := errand } }
  match call.errand with
  | .queue job .announcing => { moved with accepted := dispatch.accepted ++ [job] }
  | .queue _ .retracting => moved.notify pool
  | .shutdown .claiming => { moved with unclaimed := [] }
  | _ => moved

/-! ### Workers -/

/-- A worker has taken a job. -/
def take (dispatch : Dispatch) (worker : Nat) (job : Job) : Dispatch :=
  { dispatch with
    takings := dispatch.takings ++ [⟨worker, job, []⟩]
    desk := Function.update dispatch.desk worker dispatch.takings.length }

def mark (dispatch : Dispatch) (worker : Nat) (mark : Mark) : Dispatch :=
  { dispatch with takings := dispatch.takings.modify (dispatch.desk worker) fun taking =>
      { taking with marks := taking.marks ++ [mark] } }

/-- What follows when a worker has come from one position to another. -/
def follow (dispatch : Dispatch) (worker : Nat) (before after : Pool) : Dispatch :=
  match before.workers[worker]?, after.workers[worker]? with
  | some .waiting, some (.starting job) => dispatch.take worker job
  | some (.starting _), some (.compiling _ _) => dispatch.mark worker (.started before.stopped)
  | some (.starting _), some (.releasing _) => dispatch.mark worker (.skipped before.stopped)
  | some (.compiling _ _), some (.releasing _) => dispatch.mark worker .completed
  | some .counting, some .waiting => dispatch.notify after
  | _, _ => dispatch

/-- The engine has come to another state by something that a worker did. -/
def work (dispatch : Dispatch) (worker : Nat) (engine : Engine) : Dispatch :=
  match dispatch.engine.compiler, engine.compiler with
  | .pool before, .pool after => { dispatch with engine := engine }.follow worker before after
  | _, _ => { dispatch with engine := engine }

/-! ### Moves -/

inductive PoolRequest
  | queue (job : Job)
  | waitIdle
  | shutdown

def errand (dispatch : Dispatch) : PoolRequest → Errand
  | .queue job => .queue job .entering
  | .waitIdle => .wait dispatch.accepted.length .checking
  | .shutdown => .shutdown .stopping

/-- One thing that may happen next. -/
inductive Move
  /-- A call is made, maybe on the thread of a worker, by what its job leads to. -/
  | call (request : PoolRequest) (host : Option Nat)
  /-- A call takes its next step. -/
  | proceed (index : Nat)
  /-- Somebody who waits wakes for no reason. -/
  | stir (index : Nat)
  /-- A worker takes its next step. -/
  | work (worker : Nat)
  /-- The device answers a worker. -/
  | answer (worker : Nat) (result : Except CacheError PipelineHandle)
  /-- Anything happens in the engine outside the pool. -/
  | elsewhere (engine : Engine)

def move? (dispatch : Dispatch) : Move → Option Dispatch
  | .call request host =>
      if host.all dispatch.isBusy then
        some { dispatch with calls := dispatch.calls ++ [⟨dispatch.errand request, host⟩] }
      else none
  | .proceed index =>
      match dispatch.engine.compiler, dispatch.calls[index]? with
      | .pool pool, some call =>
          (dispatch.next? pool call).map fun (errand, changed) =>
            dispatch.proceed index call errand changed
      | _, _ => none
  | .stir index =>
      match dispatch.calls[index]? with
      | some ⟨.wait since .asleep, host⟩ =>
          some { dispatch with calls := dispatch.calls.set index ⟨.wait since .checking, host⟩ }
      | _ => none
  | .work worker =>
      if dispatch.isHost worker then none
      else some (dispatch.work worker (dispatch.engine.stepWorker worker).engine)
  | .answer worker result =>
      if (dispatch.engine.workerRequest? worker).isSome ∧ dispatch.isHost worker = false then
        some (dispatch.work worker (dispatch.engine.answerWorker worker result))
      else none
  | .elsewhere engine =>
      some { dispatch with engine := { engine with compiler := dispatch.engine.compiler } }

abbrev run? (dispatch : Dispatch) (moves : List Move) : Option Dispatch :=
  Run.final? move? dispatch moves

end Dispatch

end PipelineCache

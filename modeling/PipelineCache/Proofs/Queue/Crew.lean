import Mathlib.Logic.Function.Basic
import PipelineCache.Proofs.Run
import PipelineCache.WorkQueue

/-! A work queue among those who use it: one worker that comes for items again and again, and any
number of callers that push items, wait until the queue is idle, or stop the worker. The queue and the
stop flag are touched under one lock. A worker that finds nothing and a caller that waits give up the
lock as they fall asleep; whoever is woken, also for no reason, has to get the lock again. -/

namespace PipelineCache

/-- What a caller wants of a queue. -/
inductive QueueCall (α : Type)
  | push (value : α)
  | waitIdle
  | stop

/-- What a caller that has the lock does next. -/
inductive CallerTask (α : Type)
  | add (value : α)
  | wakeWorker
  | check
  | doze
  /-- The queue is idle or stopped, and the call comes back. -/
  | depart
  | setStop
  | rouseWorker
  | rouseWaiters
  | leave

/-- What the worker does next when it has the lock. -/
inductive WorkerTask
  | pop
  /-- Wakes those who wait until the queue is idle, before the worker falls asleep. -/
  | tell
  | doze
  /-- Wakes those who wait until the queue is idle, before the worker ends. -/
  | dismiss
  | retire
  | leave
  deriving DecidableEq

inductive Holder (α : Type)
  | worker (task : WorkerTask)
  | caller (number : Nat) (task : CallerTask α)

inductive WorkerPlace
  /-- It works on an item, or has not begun. -/
  | away
  /-- It needs the lock to look for an item. -/
  | coming
  | inside
  | asleep
  | ended
  deriving DecidableEq

def WorkerPlace.woken : WorkerPlace → WorkerPlace
  | .asleep => .coming
  | place => place

inductive CallerPlace (α : Type)
  | away
  /-- It needs the lock to go on with its call. -/
  | coming (call : QueueCall α)
  | inside
  /-- It waits until the queue is idle. -/
  | asleep

def CallerPlace.woken {α : Type} : CallerPlace α → CallerPlace α
  | .asleep => .coming .waitIdle
  | place => place

structure Crew (α : Type) where
  queue : WorkQueue α := {}
  stopped : Bool := false
  lock : Option (Holder α) := none
  worker : WorkerPlace := .away
  caller : Nat → CallerPlace α := fun _ => .away
  /-- All items that were ever pushed, in this order. -/
  pushed : List α := []
  /-- The items that the worker was given, in this order. -/
  popped : List α := []
  /-- The items that the worker had been given when it last came for one. -/
  finished : List α := []

namespace Crew

variable {α : Type}

def firstTask : QueueCall α → CallerTask α
  | .push value => .add value
  | .waitIdle => .check
  | .stop => .setStop

/-- A sleeping worker is woken. -/
def wakeWorker (crew : Crew α) : Crew α := { crew with worker := crew.worker.woken }

/-- All sleeping callers are woken. -/
def wakeWaiters (crew : Crew α) : Crew α :=
  { crew with caller := fun number => (crew.caller number).woken }

def placeCaller (crew : Crew α) (number : Nat) (place : CallerPlace α) : Crew α :=
  { crew with caller := Function.update crew.caller number place }

/-- The worker, which has the lock, does its next task. -/
def workWorker (crew : Crew α) : WorkerTask → Crew α
  | .pop =>
      match crew.queue.pop crew.stopped with
      | (.item value, queue) =>
          { crew with queue := queue, popped := crew.popped ++ [value], finished := crew.popped,
                      lock := some (.worker .leave) }
      | (.waits, queue) =>
          { crew with queue := queue, finished := crew.popped, lock := some (.worker .tell) }
      | (.stopped _, queue) =>
          { crew with queue := queue, finished := crew.popped, lock := some (.worker .dismiss) }
  | .tell => { crew.wakeWaiters with lock := some (.worker .doze) }
  | .doze => { crew with worker := .asleep, lock := none }
  | .dismiss => { crew.wakeWaiters with lock := some (.worker .retire) }
  | .retire => { crew with worker := .ended, lock := none }
  | .leave => { crew with worker := .away, lock := none }

/-- A caller, which has the lock, does its next task. -/
def workCaller (crew : Crew α) (number : Nat) : CallerTask α → Crew α
  | .add value =>
      { crew with queue := crew.queue.push value, pushed := crew.pushed ++ [value],
                  lock := some (.caller number .wakeWorker) }
  | .wakeWorker => { crew.wakeWorker with lock := some (.caller number .leave) }
  | .check =>
      { crew with lock := some (.caller number
          (if crew.queue.isIdle || crew.stopped then .depart else .doze)) }
  | .doze => { crew.placeCaller number .asleep with lock := none }
  | .setStop => { crew with stopped := true, lock := some (.caller number .rouseWorker) }
  | .rouseWorker => { crew.wakeWorker with lock := some (.caller number .rouseWaiters) }
  | .rouseWaiters => { crew.wakeWaiters with lock := some (.caller number .leave) }
  | .depart | .leave => { crew.placeCaller number .away with lock := none }

inductive Move (α : Type)
  | call (number : Nat) (call : QueueCall α)
  /-- The worker is done with its item and comes for the next. -/
  | comeBack
  /-- Someone who needs the lock gets it. -/
  | enterWorker
  | enter (number : Nat)
  /-- Whoever has the lock does the next task. -/
  | work
  /-- Someone wakes for no reason. -/
  | stirWorker
  | stir (number : Nat)

def move? (crew : Crew α) : Move α → Option (Crew α)
  | .call number call =>
      match crew.caller number with
      | .away => some (crew.placeCaller number (.coming call))
      | _ => none
  | .comeBack => if crew.worker = .away then some { crew with worker := .coming } else none
  | .enterWorker =>
      match crew.lock with
      | none =>
          if crew.worker = .coming then
            some { crew with worker := .inside, lock := some (.worker .pop) }
          else none
      | some _ => none
  | .enter number =>
      match crew.lock, crew.caller number with
      | none, .coming call =>
          some { crew.placeCaller number .inside with
            lock := some (.caller number (firstTask call)) }
      | _, _ => none
  | .work =>
      match crew.lock with
      | none => none
      | some (.worker task) => some (crew.workWorker task)
      | some (.caller number task) => some (crew.workCaller number task)
  | .stirWorker => if crew.worker = .asleep then some { crew with worker := .coming } else none
  | .stir number =>
      match crew.caller number with
      | .asleep => some (crew.placeCaller number (.coming .waitIdle))
      | _ => none

abbrev run? (crew : Crew α) (moves : List (Move α)) : Option (Crew α) :=
  Run.final? move? crew moves

end Crew

end PipelineCache

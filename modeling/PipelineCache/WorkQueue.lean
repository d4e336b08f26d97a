/-! A queue of work for one worker. The worker counts as busy from the moment it takes an item until
it comes back for the next one, so that others can tell when all work is done. -/

namespace PipelineCache

structure WorkQueue (α : Type) where
  items : List α := []
  busy : Bool := false
  deriving DecidableEq

/-- What a worker that comes for an item gets. -/
inductive Popped (α : Type)
  | item (value : α)
  /-- The worker is to end; what was still queued is dropped. -/
  | stopped (dropped : List α)
  /-- There is nothing to do yet. -/
  | waits
  deriving DecidableEq

namespace WorkQueue

variable {α : Type}

def push (queue : WorkQueue α) (value : α) : WorkQueue α :=
  { queue with items := queue.items ++ [value] }

/-- The worker is done with its last item and comes for the next. -/
def pop (queue : WorkQueue α) (stop : Bool) : Popped α × WorkQueue α :=
  if stop then (.stopped queue.items, { items := [], busy := false })
  else
    match queue.items with
    | [] => (.waits, { queue with busy := false })
    | value :: rest => (.item value, { items := rest, busy := true })

def isIdle (queue : WorkQueue α) : Bool := !queue.busy && queue.items.isEmpty

/-- What a worker gets that comes back up to `count` times, until it would have to wait. -/
def popAll (stop : Bool) : Nat → WorkQueue α → List α × WorkQueue α
  | 0, queue => ([], queue)
  | count + 1, queue =>
      match queue.pop stop with
      | (.item value, rest) =>
          let (values, last) := popAll stop count rest
          (value :: values, last)
      | (_, rest) => ([], rest)

/-- Pushes values and lets a worker take everything. -/
def drain (queue : WorkQueue α) (stop : Bool) (values : List α) : List α × WorkQueue α :=
  let filled := values.foldl push queue
  popAll stop (filled.items.length + 1) filled

@[simp] theorem items_push (queue : WorkQueue α) (value : α) :
    (queue.push value).items = queue.items ++ [value] := rfl

@[simp] theorem busy_push (queue : WorkQueue α) (value : α) :
    (queue.push value).busy = queue.busy := rfl

theorem isIdle_iff (queue : WorkQueue α) :
    queue.isIdle = true ↔ queue.busy = false ∧ queue.items = [] := by
  simp [isIdle]

/-- An item is given out in the order of arrival, and its taker counts as busy. -/
theorem pop_of_cons {queue : WorkQueue α} {stop : Bool} {value : α} {rest : List α}
    (live : stop = false) (items : queue.items = value :: rest) :
    queue.pop stop = (.item value, ⟨rest, true⟩) := by
  simp [pop, live, items]

theorem pop_of_nil {queue : WorkQueue α} {stop : Bool} (live : stop = false)
    (items : queue.items = []) : queue.pop stop = (.waits, ⟨[], false⟩) := by
  simp [pop, live, items]

theorem pop_stopped (queue : WorkQueue α) : queue.pop true = (.stopped queue.items, {}) := rfl

theorem isIdle_of_waits {queue : WorkQueue α} {stop : Bool} (waits : (queue.pop stop).1 = .waits) :
    (queue.pop stop).2.isIdle = true := by
  obtain ⟨items, busy⟩ := queue
  cases stop <;> cases items <;> simp_all [pop, isIdle]

end WorkQueue

end PipelineCache

import PipelineCache.Proofs.Queue.Crew

/-! What a work queue promises to those who use it, however their steps interleave: items come to the
worker in the order in which they were pushed, callers that wait are told of an idle queue only when
it is idle, and nobody sleeps on while there is something to wake up for. -/

namespace PipelineCache

namespace WorkQueue

variable {α : Type} {queue : WorkQueue α}

theorem isIdle_push (queue : WorkQueue α) (value : α) : (queue.push value).isIdle = false := by
  simp [isIdle]

theorem isIdle_eq_false_of_busy (busy : queue.busy = true) : queue.isIdle = false := by
  simp [isIdle, busy]

/-- What a worker that comes for an item finds. -/
inductive Pops (queue : WorkQueue α) : Bool → Popped α × WorkQueue α → Prop
  | item (value : α) (rest : List α) (items : queue.items = value :: rest) :
      Pops queue false (.item value, ⟨rest, true⟩)
  | waits (items : queue.items = []) : Pops queue false (.waits, ⟨[], false⟩)
  | stopped : Pops queue true (.stopped queue.items, ⟨[], false⟩)

theorem pops (queue : WorkQueue α) (stop : Bool) : queue.Pops stop (queue.pop stop) := by
  obtain ⟨items, busy⟩ := queue
  cases stop with
  | true => exact .stopped
  | false =>
      cases items with
      | nil => exact .waits rfl
      | cons value rest => exact .item value rest rfl

end WorkQueue

theorem WorkerPlace.woken_ne_asleep (place : WorkerPlace) : place.woken ≠ .asleep := by
  cases place <;> simp [woken]

theorem WorkerPlace.woken_eq_away_iff {place : WorkerPlace} : place.woken = .away ↔ place = .away := by
  cases place <;> simp [woken]

theorem CallerPlace.woken_ne_asleep {α : Type} (place : CallerPlace α) : place.woken ≠ .asleep := by
  cases place <;> simp [woken]

/-- Whoever has the lock is about to wake the worker. -/
def Holder.wakesWorker {α : Type} : Holder α → Bool
  | .caller _ .wakeWorker | .caller _ .rouseWorker => true
  | _ => false

/-- Whoever has the lock is about to wake those who wait until the queue is idle. -/
def Holder.wakesWaiters {α : Type} : Holder α → Bool
  | .worker .tell | .worker .dismiss | .caller _ .rouseWorker | .caller _ .rouseWaiters => true
  | _ => false

namespace Crew

variable {α : Type} {crew next final : Crew α} {holder : Holder α} {number : Nat}
  {move : Move α} {moves : List (Move α)}

/-- The worker has nothing to wake up for. -/
def Unneeded (crew : Crew α) : Prop := crew.queue.items = [] ∧ crew.stopped = false

/-- Those who wait until the queue is idle have nothing to wake up for. -/
def Unfinished (crew : Crew α) : Prop := crew.queue.isIdle = false ∧ crew.stopped = false

/-- What holds when whoever has the lock comes to a task. -/
def Prepared (crew : Crew α) : Holder α → Prop
  | .worker .tell | .worker .doze => crew.Unneeded
  | .worker .dismiss | .worker .retire => crew.queue.items = []
  | .worker .leave => crew.queue.busy = true
  | .caller _ .doze => crew.Unfinished
  | .caller _ .depart => crew.queue.isIdle = true ∨ crew.stopped = true
  | _ => True

structure Sound (crew : Crew α) : Prop where
  order : crew.popped <+: crew.pushed
  balance : crew.stopped = false → crew.popped ++ crew.queue.items = crew.pushed
  settled : crew.queue.busy = false → crew.finished = crew.popped
  away : crew.worker = .away → crew.queue.busy = true ∨ crew.popped = []
  inside : ∀ task, crew.lock = some (.worker task) → crew.worker = .inside
  prepared : ∀ holder, crew.lock = some holder → crew.Prepared holder
  worker : crew.worker = .asleep →
    crew.Unneeded ∨ crew.lock.any Holder.wakesWorker = true
  waiters : ∀ number, crew.caller number = .asleep →
    crew.Unfinished ∨ crew.lock.any Holder.wakesWaiters = true

/-- As long as nobody is about to wake it, a sleeping worker is not needed. -/
theorem Sound.unneeded (sound : Sound crew) (quiet : crew.lock.any Holder.wakesWorker = false)
    (asleep : crew.worker = .asleep) : crew.Unneeded :=
  (sound.worker asleep).resolve_right (Bool.eq_false_iff.mp quiet)

theorem Sound.unfinished (sound : Sound crew) (quiet : crew.lock.any Holder.wakesWaiters = false)
    (asleep : crew.caller number = .asleep) : crew.Unfinished :=
  (sound.waiters number asleep).resolve_right (Bool.eq_false_iff.mp quiet)

theorem prepared_of_some (prepared : crew.Prepared holder) :
    ∀ other, some holder = some other → crew.Prepared other := by
  rintro _ ⟨⟩
  exact prepared

/-- As long as the queue and the flag stay, the lock and the places may change. -/
theorem Sound.handOver (sound : Sound crew) {lock : Option (Holder α)} {worker : WorkerPlace}
    {caller : Nat → CallerPlace α}
    (away : worker = .away → crew.worker = .away ∨ crew.queue.busy = true)
    (inside : ∀ task, lock = some (.worker task) → worker = .inside)
    (prepared : ∀ holder, lock = some holder → crew.Prepared holder)
    (sleeper : worker = .asleep → crew.Unneeded ∨ lock.any Holder.wakesWorker = true)
    (sleepers : ∀ number, caller number = .asleep →
      crew.Unfinished ∨ lock.any Holder.wakesWaiters = true) :
    Sound { crew with lock := lock, worker := worker, caller := caller } where
  order := sound.order
  balance := sound.balance
  settled := sound.settled
  away := fun gone => (away gone).elim sound.away Or.inl
  inside := inside
  prepared := prepared
  worker := sleeper
  waiters := sleepers

/-- Whoever gives up the lock with nobody left to wake may leave the sleepers asleep, and may fall
asleep if there is nothing to wake up for. -/
theorem Sound.release (sound : Sound crew) (held : crew.lock = some holder)
    (nobody : holder.wakesWorker = false) (noneWaiting : holder.wakesWaiters = false)
    {worker : WorkerPlace} {caller : Nat → CallerPlace α}
    (away : worker = .away → crew.worker = .away ∨ crew.queue.busy = true)
    (sleeper : worker = .asleep → crew.worker = .asleep ∨ crew.Unneeded)
    (sleepers : ∀ number, caller number = .asleep →
      crew.caller number = .asleep ∨ crew.Unfinished) :
    Sound { crew with lock := none, worker := worker, caller := caller } := by
  refine sound.handOver away (fun _ free => nomatch free) (fun _ free => nomatch free)
    (fun asleep => Or.inl ?_) (fun number asleep => Or.inl ?_)
  · exact (sleeper asleep).elim (sound.unneeded (by rw [held]; exact nobody)) id
  · exact (sleepers number asleep).elim (sound.unfinished (by rw [held]; exact noneWaiting)) id

/-- Whoever has the lock, or gets it, comes to a task. -/
theorem Sound.comeTo (sound : Sound crew) (prepared : crew.Prepared holder)
    {worker : WorkerPlace} {caller : Nat → CallerPlace α}
    (away : worker = .away → crew.worker = .away)
    (inside : ∀ task, holder = .worker task → worker = .inside)
    (sleeper : worker = .asleep → crew.Unneeded ∨ holder.wakesWorker = true)
    (sleepers : ∀ number, caller number = .asleep →
      crew.Unfinished ∨ holder.wakesWaiters = true) :
    Sound { crew with lock := some holder, worker := worker, caller := caller } :=
  sound.handOver (fun gone => Or.inl (away gone)) (fun task mine => inside task (Option.some.inj mine))
    (prepared_of_some prepared) sleeper sleepers

theorem Sound.enter (sound : Sound crew) (free : crew.lock = none) (first : crew.Prepared holder)
    {worker : WorkerPlace} {caller : Nat → CallerPlace α}
    (away : worker = .away → crew.worker = .away)
    (inside : ∀ task, holder = .worker task → worker = .inside)
    (sleeper : worker = .asleep → crew.worker = .asleep)
    (sleepers : ∀ number, caller number = .asleep → crew.caller number = .asleep) :
    Sound { crew with lock := some holder, worker := worker, caller := caller } := by
  refine sound.comeTo first away inside (fun asleep => Or.inl ?_) (fun number asleep => Or.inl ?_)
  · exact sound.unneeded (by rw [free]; rfl) (sleeper asleep)
  · exact sound.unfinished (by rw [free]; rfl) (sleepers number asleep)

/-- After all sleeping callers have been woken, none is asleep. -/
theorem Sound.wakeWaiters (sound : Sound crew) (prepared : crew.Prepared holder)
    (inside : ∀ task, holder = .worker task → crew.worker = .inside)
    (sleeper : crew.worker = .asleep → crew.Unneeded) :
    Sound { crew.wakeWaiters with lock := some holder } :=
  sound.comeTo prepared id inside (fun asleep => Or.inl (sleeper asleep))
    fun number asleep => absurd asleep (crew.caller number).woken_ne_asleep

theorem Sound.wakeWorker (sound : Sound crew) {task : CallerTask α}
    (prepared : crew.Prepared (.caller number task))
    (sleepers : ∀ other, crew.caller other = .asleep →
      crew.Unfinished ∨ (Holder.caller number task).wakesWaiters = true) :
    Sound { crew.wakeWorker with lock := some (.caller number task) } :=
  sound.comeTo prepared WorkerPlace.woken_eq_away_iff.mp (fun _ mine => nomatch mine)
    (fun asleep => absurd asleep crew.worker.woken_ne_asleep) sleepers

/-- A caller that is put elsewhere than to sleep adds nobody to the sleepers. -/
theorem caller_of_update {place : CallerPlace α} {other : Nat}
    (asleep : Function.update crew.caller number place other = .asleep) (up : place ≠ .asleep) :
    crew.caller other = .asleep := by
  by_cases same : other = number
  · subst same
    rw [Function.update_self] at asleep
    exact absurd asleep up
  · rwa [Function.update_of_ne same] at asleep

/-! ### What the worker does -/

theorem Sound.pop (sound : Sound crew) (held : crew.lock = some (.worker .pop)) :
    Sound (crew.workWorker .pop) := by
  have inside := sound.inside .pop held
  have up : crew.worker ≠ .asleep := inside ▸ WorkerPlace.noConfusion
  have back : crew.worker ≠ .away := inside ▸ WorkerPlace.noConfusion
  have pops := crew.queue.pops crew.stopped
  simp only [workWorker]
  generalize crew.queue.pop crew.stopped = result at pops ⊢
  generalize live : crew.stopped = stopped at pops
  cases pops with
  | item value rest items =>
      have taken : (crew.popped ++ [value]) ++ rest = crew.pushed := by
        rw [List.append_assoc, List.singleton_append, ← items]
        exact sound.balance live
      exact {
        order := ⟨rest, taken⟩
        balance := fun _ => taken
        settled := fun idle => nomatch idle
        away := fun gone => absurd gone back
        inside := fun _ _ => inside
        prepared := prepared_of_some rfl
        worker := fun asleep => absurd asleep up
        waiters := fun _ _ => Or.inl ⟨WorkQueue.isIdle_eq_false_of_busy rfl, rfl⟩ }
  | waits items =>
      exact {
        order := sound.order
        balance := fun _ => items ▸ sound.balance live
        settled := fun _ => rfl
        away := fun gone => absurd gone back
        inside := fun _ _ => inside
        prepared := prepared_of_some ⟨rfl, rfl⟩
        worker := fun asleep => absurd asleep up
        waiters := fun _ _ => Or.inr rfl }
  | stopped =>
      exact {
        order := sound.order
        balance := fun running => nomatch running
        settled := fun _ => rfl
        away := fun gone => absurd gone back
        inside := fun _ _ => inside
        prepared := prepared_of_some rfl
        worker := fun asleep => absurd asleep up
        waiters := fun _ _ => Or.inr rfl }

theorem Sound.workWorker (sound : Sound crew) {task : WorkerTask}
    (held : crew.lock = some (.worker task)) : Sound (crew.workWorker task) := by
  have inside := sound.inside task held
  have up : crew.worker ≠ .asleep := inside ▸ WorkerPlace.noConfusion
  have prepared := sound.prepared _ held
  cases task with
  | pop => exact sound.pop held
  | tell => exact sound.wakeWaiters prepared (fun _ _ => inside) fun asleep => absurd asleep up
  | doze =>
      exact sound.release held rfl rfl (fun gone => nomatch gone) (fun _ => Or.inr prepared)
        (fun _ => Or.inl)
  | dismiss => exact sound.wakeWaiters prepared (fun _ _ => inside) fun asleep => absurd asleep up
  | retire =>
      exact sound.release held rfl rfl (fun gone => nomatch gone) (fun asleep => nomatch asleep)
        (fun _ => Or.inl)
  | leave =>
      exact sound.release held rfl rfl (fun _ => Or.inr prepared) (fun asleep => nomatch asleep)
        (fun _ => Or.inl)

/-! ### What callers do -/

theorem Sound.add (sound : Sound crew) {value : α}
    (held : crew.lock = some (.caller number (.add value))) :
    Sound (crew.workCaller number (.add value)) where
  order := sound.order.trans (List.prefix_append _ _)
  balance := fun live => by
    have before := sound.balance live
    simp only [workCaller, WorkQueue.items_push, ← List.append_assoc, before]
  settled := sound.settled
  away := sound.away
  inside := fun _ mine => nomatch mine
  prepared := prepared_of_some trivial
  worker := fun _ => Or.inr rfl
  waiters := fun other asleep => by
    have unfinished := sound.unfinished (by rw [held]; rfl) asleep
    exact Or.inl ⟨crew.queue.isIdle_push value, unfinished.2⟩

theorem Sound.setStop (sound : Sound crew) : Sound (crew.workCaller number .setStop) where
  order := sound.order
  balance := fun live => nomatch live
  settled := sound.settled
  away := sound.away
  inside := fun _ mine => nomatch mine
  prepared := prepared_of_some trivial
  worker := fun _ => Or.inr rfl
  waiters := fun _ _ => Or.inr rfl

theorem Sound.check (sound : Sound crew) (held : crew.lock = some (.caller number .check)) :
    Sound (crew.workCaller number .check) := by
  refine sound.comeTo ?_ id (fun _ mine => nomatch mine)
    (fun asleep => Or.inl (sound.unneeded (by rw [held]; rfl) asleep))
    (fun other asleep => Or.inl (sound.unfinished (by rw [held]; rfl) asleep))
  by_cases done : (crew.queue.isIdle || crew.stopped) = true
  · rw [if_pos done]
    exact (Bool.or_eq_true _ _).mp done
  · rw [if_neg done]
    exact Bool.or_eq_false_iff.mp (Bool.eq_false_iff.mpr done)

theorem Sound.workCaller (sound : Sound crew) {task : CallerTask α}
    (held : crew.lock = some (.caller number task)) : Sound (crew.workCaller number task) := by
  have prepared := sound.prepared _ held
  cases task with
  | add value => exact sound.add held
  | wakeWorker =>
      have next : crew.Prepared (.caller number .leave) := trivial
      exact sound.wakeWorker next fun _ asleep =>
        Or.inl (sound.unfinished (by rw [held]; rfl) asleep)
  | check => exact sound.check held
  | doze =>
      refine sound.release held rfl rfl Or.inl Or.inl fun other asleep => ?_
      exact Or.inr prepared
  | setStop => exact sound.setStop
  | rouseWorker =>
      have next : crew.Prepared (.caller number .rouseWaiters) := trivial
      exact sound.wakeWorker next fun _ _ => Or.inr rfl
  | rouseWaiters =>
      have next : crew.Prepared (.caller number .leave) := trivial
      exact sound.wakeWaiters next (fun _ mine => nomatch mine)
        (sound.unneeded (by rw [held]; rfl))
  | depart =>
      exact sound.release held rfl rfl Or.inl Or.inl fun other asleep =>
        Or.inl (caller_of_update asleep fun same => nomatch same)
  | leave =>
      exact sound.release held rfl rfl Or.inl Or.inl fun other asleep =>
        Or.inl (caller_of_update asleep fun same => nomatch same)

/-! ### Every move, and every run -/

/-- Somebody comes, or wakes for no reason. -/
theorem Sound.rouse (sound : Sound crew) {worker : WorkerPlace} {caller : Nat → CallerPlace α}
    (away : worker = .away → crew.worker = .away)
    (inside : crew.worker = .inside → worker = .inside)
    (sleeper : worker = .asleep → crew.worker = .asleep)
    (sleepers : ∀ number, caller number = .asleep → crew.caller number = .asleep) :
    Sound { crew with worker := worker, caller := caller } :=
  sound.handOver (fun gone => Or.inl (away gone)) (fun task mine => inside (sound.inside task mine))
    sound.prepared (fun asleep => sound.worker (sleeper asleep))
    (fun number asleep => sound.waiters number (sleepers number asleep))

theorem Sound.moved (sound : Sound crew) (moved : crew.move? move = some next) : Sound next := by
  cases move with
  | call number call =>
      simp only [move?] at moved
      split at moved <;> cases moved
      exact sound.rouse id id id fun _ asleep => caller_of_update asleep fun same => nomatch same
  | comeBack =>
      obtain ⟨gone, became⟩ := Option.ite_none_right_eq_some.mp moved
      cases became
      exact sound.rouse (fun back => nomatch back) (fun inside => nomatch gone.symm.trans inside)
        (fun asleep => nomatch asleep) (fun _ => id)
  | enterWorker =>
      simp only [move?] at moved
      split at moved
      · rename_i free
        obtain ⟨_, became⟩ := Option.ite_none_right_eq_some.mp moved
        cases became
        have first : crew.Prepared (.worker .pop) := trivial
        exact sound.enter free first (fun gone => nomatch gone) (fun _ _ => rfl)
          (fun asleep => nomatch asleep) (fun _ => id)
      · cases moved
  | enter number =>
      simp only [move?] at moved
      split at moved
      · rename_i call free _
        cases moved
        refine sound.enter free ?_ id (fun _ mine => nomatch mine) id
          (fun _ asleep => caller_of_update asleep fun same => nomatch same)
        cases call <;> trivial
      · cases moved
  | work =>
      simp only [move?] at moved
      split at moved
      · cases moved
      · rename_i held
        cases moved
        exact sound.workWorker held
      · rename_i held
        cases moved
        exact sound.workCaller held
  | stirWorker =>
      obtain ⟨asleep, became⟩ := Option.ite_none_right_eq_some.mp moved
      cases became
      exact sound.rouse (fun back => nomatch back) (fun inside => nomatch asleep.symm.trans inside)
        (fun asleep => nomatch asleep) (fun _ => id)
  | stir number =>
      simp only [move?] at moved
      split at moved <;> cases moved
      exact sound.rouse id id id fun _ asleep => caller_of_update asleep fun same => nomatch same

theorem sound_empty : Sound ({} : Crew α) where
  order := List.prefix_refl []
  balance := fun _ => rfl
  settled := fun _ => rfl
  away := fun _ => Or.inr rfl
  inside := fun _ held => nomatch held
  prepared := fun _ held => nomatch held
  worker := fun asleep => nomatch asleep
  waiters := fun _ asleep => nomatch asleep

theorem sound_run (ran : run? {} moves = some crew) : Sound crew :=
  Run.kept (fun _ _ _ sound moved => Sound.moved sound moved) sound_empty ran

/-- Once the flag is set it stays set, and the worker is given nothing more. -/
theorem popped_of_stopped (stopped : crew.stopped = true) (moved : crew.move? move = some next) :
    next.stopped = true ∧ next.popped = crew.popped := by
  cases move with
  | work =>
      simp only [move?] at moved
      split at moved
      · cases moved
      · rename_i task _
        cases moved
        cases task with
        | pop => simp [workWorker, stopped, WorkQueue.pop_stopped]
        | _ => exact ⟨stopped, rfl⟩
      · rename_i task _
        cases moved
        cases task with
        | setStop => exact ⟨rfl, rfl⟩
        | _ => exact ⟨stopped, rfl⟩
  | _ =>
      simp only [move?] at moved
      grind [placeCaller]

theorem popped_of_stopped_run (stopped : crew.stopped = true)
    (ran : crew.run? moves = some final) : final.popped = crew.popped := by
  have kept : final.stopped = true ∧ final.popped = crew.popped := by
    refine Run.kept (motive := fun reached => reached.stopped = true ∧ reached.popped = crew.popped)
      ?_ ⟨stopped, rfl⟩ ran
    rintro before move after ⟨still, same⟩ moved
    obtain ⟨later, unchanged⟩ := popped_of_stopped still moved
    exact ⟨later, unchanged.trans same⟩
  exact kept.2

/-- However the worker and the callers take turns: the worker is given a prefix of the pushed items in
their order. While the flag is not set, these and the queued items are all that was pushed; afterwards
the worker is given nothing more, and when it is told to end the queue is empty. A call that waits
until the queue is idle comes back before the stop only while every pushed item has been given to the
worker, and the worker has come back after the last one. Whenever the lock is free, a sleeping worker
has neither an item nor a stop to wake up for, and a sleeping caller neither an idle queue nor a stop. -/
theorem delivers_and_idles (ran : run? {} moves = some crew) :
    crew.popped <+: crew.pushed ∧
    (crew.stopped = false → crew.popped ++ crew.queue.items = crew.pushed) ∧
    (crew.stopped = true → ∀ (later : List (Move α)) (final : Crew α),
      crew.run? later = some final → final.popped = crew.popped) ∧
    (crew.lock = some (.worker .dismiss) ∨ crew.lock = some (.worker .retire) →
      crew.queue.items = []) ∧
    (∀ number, crew.lock = some (.caller number .depart) → crew.stopped = false →
      crew.popped = crew.pushed ∧ crew.finished = crew.pushed ∧
      (crew.pushed ≠ [] → crew.worker ≠ .away)) ∧
    (crew.lock = none →
      (crew.worker = .asleep → crew.queue.items = [] ∧ crew.stopped = false) ∧
      ∀ number, crew.caller number = .asleep →
        crew.queue.isIdle = false ∧ crew.stopped = false) := by
  have sound := sound_run ran
  refine ⟨sound.order, sound.balance, fun stopped _ _ => popped_of_stopped_run stopped, ?_, ?_, ?_⟩
  · rintro (held | held)
    · exact sound.prepared _ held
    · exact sound.prepared _ held
  · intro number held live
    have idle : crew.queue.isIdle = true :=
      (sound.prepared _ held).resolve_right (Bool.eq_false_iff.mp live)
    obtain ⟨resting, items⟩ := crew.queue.isIdle_iff.mp idle
    have all := sound.balance live
    rw [items, List.append_nil] at all
    refine ⟨all, (sound.settled resting).trans all, fun some_pushed gone => ?_⟩
    rcases sound.away gone with busy | nothing
    · exact Bool.noConfusion (resting.symm.trans busy)
    · exact some_pushed (all.symm.trans nothing)
  · exact fun free => ⟨sound.unneeded (by rw [free]; rfl),
      fun number => sound.unfinished (by rw [free]; rfl)⟩

/-- The worker sleeps, is woken by a push, takes the item and comes back; a caller that waited in the
meantime is told. -/
def shift : List (Move Nat) :=
  [.comeBack, .enterWorker, .work, .work, .work,
    .call 0 (.push 7), .enter 0, .work, .work, .work,
    .call 1 .waitIdle, .enter 1, .work, .work,
    .enterWorker, .work, .work,
    .comeBack, .enterWorker, .work, .work, .work,
    .enter 1, .work]

theorem delivers_and_idles_shift : ∃ crew, run? {} shift = some crew ∧ crew.pushed = [7] ∧
    crew.popped = crew.pushed ∧ crew.worker ≠ .away := by
  have ran : ∃ crew, run? {} shift = some crew ∧ crew.pushed = [7] ∧ crew.stopped = false ∧
      crew.lock = some (.caller 1 .depart) := ⟨_, rfl, rfl, rfl, rfl⟩
  obtain ⟨crew, ran, pushed, live, held⟩ := ran
  obtain ⟨_, _, _, _, departs, _⟩ := delivers_and_idles ran
  obtain ⟨all, _, back⟩ := departs 1 held live
  exact ⟨crew, ran, pushed, all, back (by rw [pushed]; exact List.cons_ne_nil 7 [])⟩

end Crew

end PipelineCache

import PipelineCache.Proofs.Traffic.Audit

/-! The counters of a pipeline. Each is raised after what it counts, in a step of its own, so that a
call may owe it a count meanwhile. Between the counters on one side, and the list, the answers of the
device and the handles destroyed in vain on the other, there is never any difference but what calls in
progress owe. -/

namespace PipelineCache

/-- A sum of counters, kept for something that happens elsewhere. -/
inductive Account
  /-- The instances in the list, made by draws or adopted. -/
  | instances
  /-- The optimized handles, installed or discarded. -/
  | optimized
  /-- The failures of the device. -/
  | failures
  /-- The fast handles, each with a new instance or destroyed as redundant. -/
  | fast

namespace Happening

/-- The device has compiled a pipeline for a call, in a certain mode. -/
@[simp] def isCompiled (mode : CompileMode) : Happening → Bool
  | .compiled used _ => used = mode
  | _ => false

@[simp] def isRefused : Happening → Bool
  | .refused _ _ => true
  | _ => false

/-- A draw has destroyed its handle, because its second look has found an instance. -/
@[simp] def isRedundant : Happening → Bool
  | .shown .fast (.destroyed _) => true
  | _ => false

/-- No account takes notice. -/
structure Uncounted (happening : Happening) : Prop where
  compiled : ∀ mode, happening.isCompiled mode = false
  refused : happening.isRefused = false
  redundant : happening.isRedundant = false

theorem uncounted_shown (mode : CompileMode) {event : Event} (spared : event.destroyed? = none) :
    (shown mode event).Uncounted := by
  refine ⟨fun _ => rfl, rfl, ?_⟩
  cases event <;> first | (cases mode <;> rfl) | cases spared

end Happening

namespace Account

/-- What was counted; a redundant handle counts as soon as it is destroyed. -/
@[simp] def counted (account : Account) (counters : PipelineCounters)
    (history : List Happening) : Nat :=
  match account with
  | .instances => counters.created + counters.adopted
  | .optimized => counters.installed + counters.discarded
  | .failures => counters.failures
  | .fast => counters.created + history.countP Happening.isRedundant

/-- What there was to count. -/
@[simp] def due (account : Account) (instances : List InstanceId)
    (history : List Happening) : Nat :=
  match account with
  | .instances => instances.length
  | .optimized => history.countP (Happening.isCompiled .optimized)
  | .failures => history.countP Happening.isRefused
  | .fast => history.countP (Happening.isCompiled .fast)

/-- The call has brought about something that it has not yet counted. -/
@[simp] def owes (account : Account) (call : Call) : Bool :=
  match account, call with
  | .instances, .draw ⟨_, _, .counting _ _⟩ => true
  | .optimized, .optimize ⟨_, .installing _⟩ => true
  | .optimized, .optimize ⟨_, .discarding _⟩ => true
  | .optimized, .optimize ⟨_, .countingDiscarded⟩ => true
  | .optimized, .optimize ⟨_, .countingInstalled _⟩ => true
  | .failures, .draw ⟨_, _, .failing _⟩ => true
  | .failures, .optimize ⟨_, .failing _⟩ => true
  | .fast, .draw ⟨_, _, .enlisting _⟩ => true
  | .fast, .draw ⟨_, _, .discarding _ _⟩ => true
  | .fast, .draw ⟨_, _, .counting _ _⟩ => true
  | _, _ => false

theorem owes_eq_false (account : Account) {call : Call} (finished : call.isFinished = true) :
    account.owes call = false := by
  cases call with
  | draw current =>
      obtain ⟨state, pass, position⟩ := current
      cases position <;> first | (cases account <;> rfl) | cases finished
  | optimize current =>
      obtain ⟨entry, position⟩ := current
      cases position <;> first | (cases account <;> rfl) | cases finished

variable {account : Account} {call next : Call} {shared changed : Shared}
  {history seen : List Happening}

theorem counted_append (account : Account) (counters : PipelineCounters)
    (uncounted : ∀ happening ∈ seen, happening.Uncounted) :
    account.counted counters (history ++ seen) = account.counted counters history := by
  have redundant : seen.countP Happening.isRedundant = 0 := by
    simpa [List.countP_eq_zero] using fun happening member => (uncounted happening member).redundant
  cases account <;> simp [redundant]

theorem due_append (account : Account) (instances : List InstanceId)
    (uncounted : ∀ happening ∈ seen, happening.Uncounted) :
    account.due instances (history ++ seen) = account.due instances history := by
  have refused : seen.countP Happening.isRefused = 0 := by
    simpa [List.countP_eq_zero] using fun happening member => (uncounted happening member).refused
  have compiled (mode : CompileMode) : seen.countP (Happening.isCompiled mode) = 0 := by
    simpa [List.countP_eq_zero] using fun happening member =>
      (uncounted happening member).compiled mode
  cases account <;> simp [refused, compiled]

/-- What is due and what is counted differ by what the call owes, before as after. -/
def Keeps (account : Account) (call next : Call) (shared changed : Shared)
    (history seen : List Happening) : Prop :=
  account.counted changed.pipeline.counters (history ++ seen) + (account.owes next).toNat +
      account.due shared.pipeline.instances history =
    account.counted shared.pipeline.counters history + (account.owes call).toNat +
      account.due changed.pipeline.instances (history ++ seen)

/-- Most steps neither count anything nor bring about anything to count. -/
theorem Keeps.idle (mode : CompileMode) {events : List Event}
    (owes : account.owes next = account.owes call)
    (counters : changed.pipeline.counters = shared.pipeline.counters)
    (listed : changed.pipeline.instances = shared.pipeline.instances)
    (spared : ∀ event ∈ events, event.destroyed? = none) :
    account.Keeps call next shared changed history (events.map (.shown mode)) := by
  have uncounted : ∀ happening ∈ events.map (Happening.shown mode), happening.Uncounted :=
    List.forall_mem_map.mpr fun event member => Happening.uncounted_shown mode (spared event member)
  rw [Keeps, owes, counters, listed, account.counted_append _ uncounted,
    account.due_append _ uncounted]

end Account

theorem Draw.keeps_step (draw : Draw) (shared : Shared) (history : List Happening)
    (account : Account) :
    account.Keeps (.draw draw) (.draw (draw.step shared).1) shared (draw.step shared).2.1 history
      ((draw.step shared).2.2.map (.shown .fast)) := by
  obtain ⟨state, pass, position⟩ := draw
  cases position with
  | scanning =>
      simp only [step]
      split <;> exact .idle .fast (by cases account <;> rfl) rfl rfl (by simp)
  | preparing =>
      simp only [step]
      split <;> exact .idle .fast (by cases account <;> rfl) rfl rfl (by simp [Event.destroyed?])
  | reporting handle entry =>
      simp only [step]
      split <;> exact .idle .fast (by cases account <;> rfl) rfl rfl (by simp [Event.destroyed?])
  | queueing handle entry =>
      simp only [step]
      split <;> exact .idle .fast (by cases account <;> rfl) rfl rfl (by simp [Event.destroyed?])
  | failing error =>
      cases account <;> simp [Account.Keeps, step, moveTo, Shared.countFailure, Shared.count]
  | enlisting handle =>
      simp only [step]
      split
      · exact .idle .fast (by cases account <;> rfl) rfl rfl (by simp)
      · cases account <;> simp [Account.Keeps, moveTo, Shared.enlist]
        omega
  | discarding handle entry =>
      cases account <;> simp [Account.Keeps, step, moveTo]
      omega
  | counting handle entry =>
      cases account <;> simp [Account.Keeps, step, moveTo, Shared.count] <;> omega
  | _ => exact .idle .fast (by cases account <;> rfl) rfl rfl (by simp [step])

theorem Optimization.keeps_adoption (entry : InstanceId) (handle : PipelineHandle) (shared : Shared)
    (history : List Happening) (account : Account) {item : Instance}
    (present : shared.store.get? entry = some item) :
    account.Keeps (.optimize ⟨entry, .adopting handle⟩)
      (.optimize (Optimization.step ⟨entry, .adopting handle⟩ shared).1) shared
      (Optimization.step ⟨entry, .adopting handle⟩ shared).2.1 history
      ((Optimization.step ⟨entry, .adopting handle⟩ shared).2.2.map (.shown .optimized)) := by
  simp only [step, present, adoption]
  split
  · exact .idle .optimized (by cases account <;> rfl) rfl rfl (by simp)
  · split
    · exact .idle .optimized (by split <;> cases account <;> rfl) rfl rfl (by simp)
    · cases account <;> simp [Account.Keeps, moveTo, Shared.adopt, Shared.count]
      omega

theorem Optimization.keeps_step (optimization : Optimization) (shared : Shared)
    (history : List Happening) (account : Account)
    (alive : ∃ item, shared.store.get? optimization.entry = some item) :
    account.Keeps (.optimize optimization) (.optimize (optimization.step shared).1) shared
      (optimization.step shared).2.1 history
      ((optimization.step shared).2.2.map (.shown .optimized)) := by
  obtain ⟨item, present⟩ := alive
  obtain ⟨entry, position⟩ := optimization
  cases position with
  | adopting handle => exact keeps_adoption entry handle shared history account present
  | checking =>
      simp only [step, present]
      exact .idle .optimized (by split <;> cases account <;> rfl) rfl rfl (by simp)
  | preparing =>
      simp only [step, present]
      split <;> exact .idle .optimized (by cases account <;> rfl) rfl rfl (by simp [Event.destroyed?])
  | failing error =>
      cases account <;> simp [Account.Keeps, step, present, moveTo, Shared.countFailure, Shared.count]
  | installing handle =>
      simp only [step, present]
      split <;> exact .idle .optimized (by cases account <;> rfl) rfl rfl (by simp)
  | discarding handle => cases account <;> simp [Account.Keeps, step, present, moveTo]
  | countingDiscarded =>
      cases account <;> simp [Account.Keeps, step, present, moveTo, Shared.count]
      omega
  | countingInstalled handle =>
      cases account <;> simp [Account.Keeps, step, present, moveTo, Shared.count]
      omega
  | _ =>
      simp only [step, present]
      exact .idle .optimized (by cases account <;> rfl) rfl rfl (by simp)

theorem Call.keeps_step (call : Call) (shared : Shared) (history : List Happening)
    (running : call.isFinished = false) (account : Account)
    (alive : ∀ entry ∈ call.borrowed, ∃ item, shared.store.get? entry = some item) :
    account.Keeps call (call.step shared).1 shared (call.step shared).2.1 history
      ((call.step shared).2.2.map (.shown call.mode)) := by
  cases call with
  | draw current => exact current.keeps_step shared history account
  | optimize current =>
      refine current.keeps_step shared history account (alive current.entry ?_)
      simp [borrowed, running]

namespace Traffic

variable {before after traffic : Traffic} {action : Action} {move : Move} {index : Nat} {call : Call}

/-- What an account has counted, together with what the calls owe it, is what is due. -/
def Balanced (traffic : Traffic) (account : Account) : Prop :=
  account.counted traffic.shared.pipeline.counters traffic.history +
      traffic.calls.countP account.owes =
    account.due traffic.shared.pipeline.instances traffic.history

theorem balanced_start (shaders : ShaderSet) (optimizes reports : Bool) (account : Account) :
    (start shaders optimizes reports).Balanced account := by
  cases account <;> rfl

theorem balanced_advance (accounted : before.Accounted) {account : Account}
    (balanced : before.Balanced account) (found : before.calls[index]? = some call)
    (running : call.isFinished = false) : (before.advance index call).Balanced account := by
  have keeps := call.keeps_step before.shared before.history running account (accounted.borrowed found)
  have exchanged := countP_set_of_getElem? account.owes found (call.step before.shared).1
  rw [Account.Keeps] at keeps
  rw [Balanced] at balanced ⊢
  rw [shared_advance, calls_advance, history_advance]
  omega

/-- An answer of the device is due at once, and owed by the call that gets it. -/
theorem balanced_receive {account : Account} (balanced : before.Balanced account)
    (found : before.calls[index]? = some call) (waits : (call.request? before.shared).isSome)
    (result : Except CacheError PipelineHandle) :
    (before.receive index call result).Balanced account := by
  have exchanged := countP_set_of_getElem? account.owes found (call.answer result)
  rw [Balanced] at balanced ⊢
  simp only [receive] at exchanged ⊢
  rcases Call.position_of_waits waits with ⟨state, pass, parent, rfl⟩ | ⟨entry, parent, rfl⟩ <;>
    cases result <;> cases account <;>
    simp [Call.answer, Draw.answer, Optimization.answer, Draw.moveTo, Optimization.moveTo, Call.mode]
      at balanced exchanged ⊢ <;> omega

/-- Whatever goes on around the calls is neither counted nor to be counted. -/
theorem Balanced.around {account : Account} (balanced : before.Balanced account)
    (pipeline : after.shared.pipeline = before.shared.pipeline)
    (calls : after.calls.countP account.owes = before.calls.countP account.owes)
    (seen : List Happening) (history : after.history = before.history ++ seen)
    (uncounted : ∀ happening ∈ seen, happening.Uncounted) : after.Balanced account := by
  rw [Balanced] at balanced ⊢
  rw [pipeline, calls, history, account.counted_append _ uncounted, account.due_append _ uncounted,
    balanced]

theorem balanced_moved (accounted : before.Accounted) {account : Account}
    (balanced : before.Balanced account) (moved : Moved before move after) :
    after.Balanced account := by
  have dropped : ∀ handles : List PipelineHandle, ∀ happening ∈ handles.map Happening.dropped,
      happening.Uncounted := fun handles =>
    List.forall_mem_map.mpr fun handle _ => ⟨fun _ => rfl, rfl, rfl⟩
  cases moved with
  | step index call found running => exact balanced_advance accounted balanced found running
  | answer index call result found waits _ => exact balanced_receive balanced found waits result
  | draw state pass _ =>
      refine balanced.around rfl ?_ [] (List.append_nil _).symm (by simp)
      cases account <;> simp [beginDraw]
  | optimize entry _ _ =>
      refine balanced.around rfl ?_ [] (List.append_nil _).symm (by simp)
      cases account <;> simp [beginOptimization]
  | build state pass => exact balanced.around rfl rfl [] (List.append_nil _).symm (by simp)
  | share entry _ _ => exact balanced.around rfl rfl [] (List.append_nil _).symm (by simp)
  | drop entry _ => exact balanced.around rfl rfl _ rfl (dropped _)
  | offer entry handle _ _ _ =>
      unfold offer
      split
      · exact balanced.around rfl rfl [.issued handle] rfl
          (by simpa using ⟨fun _ => rfl, rfl, rfl⟩)
      · exact balanced.around rfl rfl [.issued handle, .dropped handle] rfl
          (by simpa using ⟨⟨fun _ => rfl, rfl, rfl⟩, ⟨fun _ => rfl, rfl, rfl⟩⟩)
  | close _ _ => exact balanced.around rfl rfl _ rfl (dropped _)

theorem balanced_acted (accounted : before.Accounted) {account : Account}
    (balanced : before.Balanced account) (acted : Acted before action after) :
    after.Balanced account := by
  cases acted with
  | move move _ moved => exact balanced_moved accounted balanced moved
  | reply index call result found waits => exact balanced_receive balanced found waits result
  | bring item => exact balanced.around rfl rfl [] (List.append_nil _).symm (by simp)

theorem balanced_run {shaders : ShaderSet} {optimizes reports : Bool} {actions : List Action}
    (ran : Run.final? act? (start shaders optimizes reports) actions = some traffic)
    (account : Account) : traffic.Balanced account := by
  refine (Run.kept (motive := fun traffic => traffic.Accounted ∧ traffic.Balanced account) ?_
    ⟨accounted_start shaders optimizes reports, balanced_start shaders optimizes reports account⟩
    ran).2
  rintro middle action next ⟨accounted, balanced⟩ possible
  have acted := acted_of_act? possible
  exact ⟨accounted_acted accounted acted, balanced_acted accounted balanced acted⟩

/-! ### How far the counters lag behind -/

/-- The number of calls that have not returned. -/
def inProgress (traffic : Traffic) : Nat := traffic.calls.countP fun call => !call.isFinished

/-- A sum of counters lags behind what it counts, by no more than one for each call in progress; when
there is none it is exact. -/
structure Lags (traffic : Traffic) (counted due : Nat) : Prop where
  le : counted ≤ due
  le_add : due ≤ counted + traffic.inProgress
  exact : traffic.isQuiet = true → counted = due

theorem inProgress_eq_zero (quiet : traffic.isQuiet = true) : traffic.inProgress = 0 := by
  refine List.countP_eq_zero.mpr fun call member => ?_
  simp [List.all_eq_true.mp quiet call member]

theorem Balanced.lags {account : Account} (balanced : traffic.Balanced account) :
    traffic.Lags (account.counted traffic.shared.pipeline.counters traffic.history)
      (account.due traffic.shared.pipeline.instances traffic.history) := by
  have owed : traffic.calls.countP account.owes ≤ traffic.inProgress := by
    refine List.countP_mono_left fun call _ owes => ?_
    cases finished : call.isFinished with
    | true => rw [account.owes_eq_false finished] at owes; cases owes
    | false => rfl
  rw [Balanced] at balanced
  refine ⟨by omega, by omega, fun quiet => ?_⟩
  have rests := inProgress_eq_zero quiet
  omega

variable {shaders : ShaderSet} {optimizes reports : Bool} {actions : List Action}

/-- Whatever the calls on a pipeline do, in whatever order, and whatever the device answers, the counters
account for all of it: the instances in the list were made or adopted, each handle of an optimized compile
was installed or discarded, each failure was counted, and each fast compile has led to a new instance or
to a handle that was destroyed as redundant. While calls are in progress the counters lag behind by at
most one for each of them, and when none is they are exact. -/
theorem counters_balance
    (ran : Run.final? act? (start shaders optimizes reports) actions = some traffic) :
    let counters := traffic.shared.pipeline.counters
    traffic.Lags (counters.created + counters.adopted) traffic.shared.pipeline.instances.length ∧
    traffic.Lags (counters.installed + counters.discarded)
      (traffic.history.countP (Happening.isCompiled .optimized)) ∧
    traffic.Lags counters.failures (traffic.history.countP Happening.isRefused) ∧
    traffic.Lags (counters.created + traffic.history.countP Happening.isRedundant)
      (traffic.history.countP (Happening.isCompiled .fast)) :=
  ⟨(balanced_run ran .instances).lags, (balanced_run ran .optimized).lags,
    (balanced_run ran .failures).lags, (balanced_run ran .fast).lags⟩

/-- The device fails to compile for a draw. Then two more draw the same, both compile at the same time,
and one of their handles is redundant. -/
def collision (first second : PipelineHandle) : List Action :=
  [.move (.draw {} ⟨1, {}⟩), .move (.step 0), .move (.step 0),
    .reply 0 (.error (.compile "lost")), .move (.step 0),
    .move (.draw {} ⟨1, {}⟩), .move (.draw {} ⟨1, {}⟩), .move (.step 1), .move (.step 1),
    .move (.step 2), .move (.step 2), .reply 2 (.ok second), .reply 1 (.ok first),
    .move (.step 1), .move (.step 2), .move (.step 2), .move (.step 2),
    .move (.step 1), .move (.step 1), .move (.step 1), .move (.step 1)]

theorem counters_balance_collision : ∃ traffic,
    Run.final? act? (start {} true true) (collision ⟨1, by decide⟩ ⟨2, by decide⟩) = some traffic ∧
    traffic.isQuiet = true ∧
    traffic.shared.pipeline.counters.created = 1 ∧
    traffic.history.countP (Happening.isCompiled .fast) = 1 + 1 ∧
    traffic.shared.pipeline.counters.failures = traffic.history.countP Happening.isRefused := by
  have ran : Run.final? act? (start {} true true) (collision ⟨1, by decide⟩ ⟨2, by decide⟩) =
      some ((Run.final? act? (start {} true true) (collision ⟨1, by decide⟩ ⟨2, by decide⟩)).get
        (by decide)) := (Option.some_get _).symm
  obtain ⟨_, _, failures, fast⟩ := counters_balance ran
  exact ⟨_, ran, by decide, by decide, (fast.exact (by decide)).symm.trans (by decide),
    failures.exact (by decide)⟩

end Traffic

end PipelineCache

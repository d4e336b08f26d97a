import Mathlib.Data.List.Induction
import PipelineCache.Proofs.Traffic.Audit

/-! What a call on a pipeline leaves behind when it fails. The strokes of a call are the steps that it
takes and the answers that it gets, in a run in which other calls and the surroundings may do anything
in between. Each place of a call bounds what the strokes that have led there can have done. A failed draw
has at most counted one failure; a failed optimization has destroyed whatever the device has compiled
for it. -/

namespace PipelineCache

/-- Words, or a failure of the device. -/
def Happening.isSilent : Happening → Bool
  | .shown _ (.said _) => true
  | .refused _ _ => true
  | _ => false

theorem Shared.countFailure_ne (shared : Shared) : shared.countFailure ≠ shared := by
  intro same
  have counts := congrArg (fun shared => shared.pipeline.counters.failures) same
  exact Nat.succ_ne_self _ counts

namespace Traffic

/-- The call that takes a step or gets an answer. -/
def Action.subject? : Action → Option Nat
  | .move (.step index) => some index
  | .move (.answer index _) => some index
  | .reply index _ => some index
  | _ => none

def Action.isAnswer : Action → Bool
  | .move (.answer _ _) => true
  | .reply _ _ => true
  | _ => false

/-- One action, between the states before and after it. -/
structure Stroke where
  before : Traffic
  action : Action
  after : Traffic

namespace Stroke

/-- What the device and the surroundings have seen of it. -/
def seen (stroke : Stroke) : List Happening :=
  stroke.after.history.drop stroke.before.history.length

/-- It raises the count of failures, and changes nothing else in the pipeline and its instances. -/
def isFailure (stroke : Stroke) : Bool := stroke.after.shared = stroke.before.shared.countFailure

end Stroke

/-- What one call did in a run, oldest first. -/
def strokes (start : Traffic) (actions : List Action) (index : Nat) : List Stroke :=
  ((Run.trace act? start actions).map fun stroke => ⟨stroke.1, stroke.2.1, stroke.2.2⟩).filter
    fun stroke => stroke.action.subject? = some index

theorem strokes_append {start before after : Traffic} {actions : List Action} {action : Action}
    (ran : Run.final? act? start actions = some before) (acted : before.act? action = some after)
    (index : Nat) : strokes start (actions ++ [action]) index = strokes start actions index ++
      [Stroke.mk before action after].filter fun stroke => stroke.action.subject? = some index := by
  simp only [strokes, Run.trace_append_singleton ran acted, List.map_append, List.filter_append,
    List.map_cons, List.map_nil]

variable {own : List Stroke} {stroke : Stroke} {answers failures : Nat}

/-- So far nothing was changed but the count of failures, and nothing was seen but words. -/
structure Blank (answers failures : Nat) (own : List Stroke) : Prop where
  shared : ∀ stroke ∈ own, stroke.after.shared = stroke.before.shared ∨ stroke.isFailure = true
  silent : ∀ stroke ∈ own, ∀ happening ∈ stroke.seen, happening.isSilent = true
  answers : own.countP (fun stroke => stroke.action.isAnswer) = answers
  failures : own.countP Stroke.isFailure = failures

theorem blank_nil : Blank 0 0 [] :=
  ⟨List.forall_mem_nil _, List.forall_mem_nil _, rfl, rfl⟩

theorem Blank.append (blank : Blank answers failures own)
    (shared : stroke.after.shared = stroke.before.shared ∨ stroke.isFailure = true)
    (silent : ∀ happening ∈ stroke.seen, happening.isSilent = true) :
    Blank (answers + stroke.action.isAnswer.toNat) (failures + stroke.isFailure.toNat)
      (own ++ [stroke]) where
  shared := List.forall_mem_append.mpr ⟨blank.shared, List.forall_mem_singleton.mpr shared⟩
  silent := List.forall_mem_append.mpr ⟨blank.silent, List.forall_mem_singleton.mpr silent⟩
  answers := by
    rw [List.countP_append, blank.answers, List.countP_singleton]
    cases stroke.action.isAnswer <;> rfl
  failures := by
    rw [List.countP_append, blank.failures, List.countP_singleton]
    cases stroke.isFailure <;> rfl

/-- A stroke that changes nothing counts no failure. -/
theorem Blank.pass (blank : Blank answers failures own)
    (shared : stroke.after.shared = stroke.before.shared)
    (silent : ∀ happening ∈ stroke.seen, happening.isSilent = true) :
    Blank (answers + stroke.action.isAnswer.toNat) failures (own ++ [stroke]) := by
  have uncounted : stroke.isFailure = false := by
    rw [Stroke.isFailure, shared]
    exact decide_eq_false fun same => Shared.countFailure_ne _ same.symm
  have passed := blank.append (Or.inl shared) silent
  rwa [uncounted] at passed

/-- What the strokes of a draw have done that has come to a certain place. -/
def Draw.Trail (own : List Stroke) (draw : Draw) : Prop :=
  match draw.position with
  | .scanning => Blank 0 0 own
  | .preparing => Blank 0 0 own
  | .compiling _ => Blank 0 0 own
  | .failing _ => Blank 1 0 own
  | .finished none => ∃ answers ≤ 1, Blank answers answers own
  | _ => True

variable {compiled destroyed : List PipelineHandle}

/-- So far nothing was changed but counters, the device has compiled these handles, and these were
destroyed. -/
structure Tidy (compiled destroyed : List PipelineHandle) (own : List Stroke) : Prop where
  shared : ∀ stroke ∈ own, ∃ change, stroke.after.shared = stroke.before.shared.count change
  compiled : own.flatMap (fun stroke => stroke.seen.filterMap Happening.issued?) = compiled
  destroyed : own.flatMap (fun stroke => stroke.seen.filterMap Happening.destroyed?) = destroyed

theorem tidy_nil : Tidy [] [] [] := ⟨List.forall_mem_nil _, rfl, rfl⟩

theorem Tidy.append (tidy : Tidy compiled destroyed own) (change : PipelineCounters → PipelineCounters)
    (shared : stroke.after.shared = stroke.before.shared.count change) :
    Tidy (compiled ++ stroke.seen.filterMap Happening.issued?)
      (destroyed ++ stroke.seen.filterMap Happening.destroyed?) (own ++ [stroke]) where
  shared := List.forall_mem_append.mpr
    ⟨tidy.shared, List.forall_mem_singleton.mpr ⟨change, shared⟩⟩
  compiled := by simp [tidy.compiled]
  destroyed := by simp [tidy.destroyed]

/-- What the strokes of an optimization have done that has come to a certain place. -/
def Optimization.Trail (own : List Stroke) (optimization : Optimization) : Prop :=
  match optimization.position with
  | .checking => Tidy [] [] own
  | .preparing => Tidy [] [] own
  | .compiling _ => Tidy [] [] own
  | .failing _ => Tidy [] [] own
  | .installing handle => Tidy [handle] [] own
  | .discarding handle => Tidy [handle] [] own
  | .countingDiscarded => ∃ handle, Tidy [handle] [handle] own
  | .finished false => ∃ handles, Tidy handles handles own
  | _ => True

/-- What a call has done, if it has begun. -/
def Trail (own : List Stroke) : Option Call → Prop
  | none => own = []
  | some (.draw draw) => Draw.Trail own draw
  | some (.optimize optimization) => Optimization.Trail own optimization

/-! ### One stroke -/

/-- The stroke is a step that has done this. -/
structure Stroke.Shows (stroke : Stroke) (mode : CompileMode) (changed : Shared) (events : List Event) :
    Prop where
  action : stroke.action.isAnswer = false
  shared : stroke.after.shared = changed
  seen : stroke.seen = events.map (.shown mode)

variable {before after traffic : Traffic} {action : Action} {index : Nat} {call : Call}

theorem shows_advance (traffic : Traffic) (index : Nat) (call : Call) :
    (Stroke.mk traffic (.move (.step index)) (traffic.advance index call)).Shows call.mode
      (call.step traffic.shared).2.1 (call.step traffic.shared).2.2 := by
  refine ⟨rfl, rfl, ?_⟩
  rw [Stroke.seen, history_advance, List.drop_left]

/-- A step that changes nothing and shows nothing but words. -/
theorem Blank.step {mode : CompileMode} {events : List Event} (blank : Blank answers failures own)
    (shows : stroke.Shows mode stroke.before.shared events)
    (silent : ∀ event ∈ events, (Happening.shown mode event).isSilent = true) :
    Blank answers failures (own ++ [stroke]) := by
  have passed := blank.pass shows.shared <| by
    rw [shows.seen]
    exact List.forall_mem_map.mpr silent
  rwa [shows.action] at passed

theorem Draw.Trail.step {draw : Draw}
    (shows : stroke.Shows .fast (draw.step stroke.before.shared).2.1
      (draw.step stroke.before.shared).2.2)
    (founded : draw.Founded stroke.before.shared) (distinct : stroke.before.shared.Distinct)
    (trail : Draw.Trail own draw) :
    Draw.Trail (own ++ [stroke]) (draw.step stroke.before.shared).1 := by
  obtain ⟨state, pass, position⟩ := draw
  cases position with
  | scanning =>
      simp only [Draw.step] at shows ⊢
      split at shows
      · trivial
      · exact Blank.step trail shows (List.forall_mem_nil _)
  | reading entry =>
      obtain ⟨item, serving⟩ := founded
      obtain ⟨handle, drawn⟩ := Option.isSome_iff_exists.mp
        (distinct.handled entry serving.member item serving.present)
      simp only [Draw.step, serving.present, Option.bind_some, drawn]
      trivial
  | preparing =>
      simp only [Draw.step] at shows ⊢
      split at shows
      · exact Blank.step trail shows (List.forall_mem_nil _)
      · exact ⟨0, Nat.zero_le 1, Blank.step trail shows (List.forall_mem_singleton.mpr rfl)⟩
  | compiling parent => exact Blank.step trail shows (List.forall_mem_nil _)
  | failing error =>
      have counted : stroke.isFailure = true := decide_eq_true shows.shared
      have blank := Blank.append trail (Or.inr counted) <| by
        rw [shows.seen]
        exact List.forall_mem_singleton.mpr rfl
      rw [shows.action, counted] at blank
      exact ⟨1, Nat.le_refl 1, blank⟩
  | enlisting handle =>
      simp only [Draw.step]
      split <;> trivial
  | finished result =>
      cases result with
      | none =>
          obtain ⟨answers, few, blank⟩ := trail
          exact ⟨answers, few, blank.step shows (List.forall_mem_nil _)⟩
      | some handle => trivial
  | _ => trivial

/-- A step that changes nothing but counters. -/
theorem Tidy.step {events : List Event} (tidy : Tidy compiled destroyed own)
    (change : PipelineCounters → PipelineCounters)
    (shows : stroke.Shows .optimized (stroke.before.shared.count change) events) :
    Tidy compiled (destroyed ++ events.filterMap Event.destroyed?) (own ++ [stroke]) := by
  have appended := tidy.append change shows.shared
  have issued : stroke.seen.filterMap Happening.issued? = [] := by
    simp [shows.seen, List.filterMap_map, Happening.issued?]
  have dropped : stroke.seen.filterMap Happening.destroyed? = events.filterMap Event.destroyed? := by
    rw [shows.seen, List.filterMap_map]
    rfl
  rwa [issued, dropped, List.append_nil] at appended

theorem Tidy.spare {events : List Event} (tidy : Tidy compiled destroyed own)
    (change : PipelineCounters → PipelineCounters)
    (shows : stroke.Shows .optimized (stroke.before.shared.count change) events)
    (spared : events.filterMap Event.destroyed? = []) :
    Tidy compiled destroyed (own ++ [stroke]) := by
  have stepped := tidy.step change shows
  rwa [spared, List.append_nil] at stepped

/-- An instance that is there has not lost the handle that the optimization carries. -/
theorem Optimization.Trail.step {optimization : Optimization}
    (shows : stroke.Shows .optimized (optimization.step stroke.before.shared).2.1
      (optimization.step stroke.before.shared).2.2)
    (alive : ∃ item, stroke.before.shared.store.get? optimization.entry = some item)
    (trail : Optimization.Trail own optimization) :
    Optimization.Trail (own ++ [stroke]) (optimization.step stroke.before.shared).1 := by
  obtain ⟨item, present⟩ := alive
  obtain ⟨entry, position⟩ := optimization
  simp only [Optimization.step, present] at shows ⊢
  cases position with
  | checking =>
      have idle := Tidy.spare trail id shows rfl
      simp only
      split
      · exact ⟨[], idle⟩
      · exact idle
  | preparing =>
      simp only at shows ⊢
      split at shows
      · exact Tidy.spare trail id shows rfl
      · exact ⟨[], Tidy.spare trail id shows rfl⟩
  | compiling parent => exact Tidy.spare trail id shows rfl
  | failing error =>
      simp only [Shared.countFailure] at shows
      exact ⟨[], Tidy.spare trail _ shows rfl⟩
  | installing handle =>
      simp only at shows ⊢
      split at shows
      · trivial
      · exact Tidy.spare trail id shows rfl
  | discarding handle => exact ⟨handle, Tidy.step trail id shows⟩
  | countingDiscarded =>
      obtain ⟨handle, tidy⟩ := trail
      simp only at shows
      exact ⟨[handle], tidy.spare _ shows rfl⟩
  | adopting handle =>
      simp only
      split <;> trivial
  | finished result =>
      cases result with
      | true => trivial
      | false =>
          obtain ⟨handles, tidy⟩ := trail
          exact ⟨handles, tidy.spare id shows rfl⟩
  | _ => trivial

/-- An answer adds what the device has said, and nothing else. -/
theorem Trail.answer (trail : Trail own (some call)) (result : Except CacheError PipelineHandle)
    (waits : (call.request? stroke.before.shared).isSome) (answer : stroke.action.isAnswer = true)
    (same : stroke.after.shared = stroke.before.shared)
    (seen : stroke.seen = [
      match result with
      | .ok handle => .compiled call.mode handle
      | .error error => .refused call.mode error]) :
    Trail (own ++ [stroke]) (some (call.answer result)) := by
  rcases Call.position_of_waits waits with ⟨state, pass, parent, rfl⟩ | ⟨entry, parent, rfl⟩
  · cases result with
    | ok handle => trivial
    | error error =>
        have blank := Blank.pass trail same <| by
          rw [seen]
          exact List.forall_mem_singleton.mpr rfl
        rwa [answer] at blank
  · have tidy := Tidy.append trail id same
    rw [seen] at tidy
    cases result <;> exact tidy

/-! ### A whole run -/

variable {start : Traffic} {actions : List Action} {shaders : ShaderSet} {optimizes reports : Bool}

/-- Each call has done what its place says. -/
def Trailed (start : Traffic) (actions : List Action) (traffic : Traffic) : Prop :=
  ∀ index, Trail (strokes start actions index) traffic.calls[index]?

/-- What is no step and no answer leaves all calls where they are; one may begin. -/
theorem Trailed.around (trailed : Trailed start actions before)
    (ran : Run.final? act? start actions = some before) (acted : before.act? action = some after)
    (nobody : action.subject? = none)
    (calls : after.calls = before.calls ∨
      ∃ call, after.calls = before.calls ++ [call] ∧ Trail [] (some call)) :
    Trailed start (actions ++ [action]) after := by
  intro index
  have silent : strokes start (actions ++ [action]) index = strokes start actions index := by
    simp [strokes_append ran acted, nobody]
  have trail := trailed index
  rw [silent]
  rcases calls with same | ⟨call, began, fresh⟩
  · rwa [same]
  · rw [began, List.getElem?_append]
    split
    · exact trail
    · rename_i outside
      rw [List.getElem?_eq_none (Nat.le_of_not_lt outside)] at trail
      rw [trail, List.getElem?_singleton]
      split
      · exact fresh
      · rfl

/-- A call takes a stroke, and the others stay where they are. -/
theorem Trailed.set {next : Call} (trailed : Trailed start actions before)
    (ran : Run.final? act? start actions = some before) (acted : before.act? action = some after)
    (subject : action.subject? = some index) (found : before.calls[index]? = some call)
    (calls : after.calls = before.calls.set index next)
    (goes : Trail (strokes start actions index) (some call) →
      Trail (strokes start actions index ++ [⟨before, action, after⟩]) (some next)) :
    Trailed start (actions ++ [action]) after := by
  intro other
  have trail := trailed other
  rw [strokes_append ran acted, calls]
  by_cases same : index = other
  · subst same
    rw [found] at trail
    simpa [subject, (List.getElem?_eq_some_iff.mp found).1] using goes trail
  · simpa [subject, same] using trail

theorem trailed_receive (trailed : Trailed start actions before)
    (ran : Run.final? act? start actions = some before) {result : Except CacheError PipelineHandle}
    (acted : before.act? action = some (before.receive index call result))
    (subject : action.subject? = some index) (answer : action.isAnswer = true)
    (found : before.calls[index]? = some call) (waits : (call.request? before.shared).isSome) :
    Trailed start (actions ++ [action]) (before.receive index call result) := by
  refine trailed.set ran acted subject found rfl fun trail => ?_
  refine trail.answer result waits answer rfl ?_
  exact List.drop_left

theorem trailed_advance (trailed : Trailed start actions before)
    (ran : Run.final? act? start actions = some before) (accounted : before.Accounted)
    (settled : before.isOpen = true → before.Settled) (found : before.calls[index]? = some call)
    (running : call.isFinished = false)
    (acted : before.act? (.move (.step index)) = some (before.advance index call)) :
    Trailed start (actions ++ [.move (.step index)]) (before.advance index call) := by
  have settled := settled (accounted.isOpen found running)
  have founded := settled.founded call (List.mem_of_getElem? found)
  have alive := accounted.borrowed found
  have shows := shows_advance before index call
  refine trailed.set ran acted rfl found rfl fun trail => ?_
  cases call with
  | draw current => exact Draw.Trail.step shows founded settled.distinct trail
  | optimize current =>
      refine Optimization.Trail.step shows (alive current.entry ?_) trail
      simp [Call.borrowed, running]

theorem trailed_acted (trailed : Trailed start actions before)
    (ran : Run.final? act? start actions = some before) (accounted : before.Accounted)
    (settled : before.isOpen = true → before.Settled) (acted : before.act? action = some after) :
    Trailed start (actions ++ [action]) after := by
  cases acted_of_act? acted with
  | move move _ moved =>
      cases moved with
      | draw state pass _ =>
          exact trailed.around ran acted rfl (Or.inr ⟨_, rfl, blank_nil⟩)
      | optimize entry _ _ => exact trailed.around ran acted rfl (Or.inr ⟨_, rfl, tidy_nil⟩)
      | step index call found running =>
          exact trailed_advance trailed ran accounted settled found running acted
      | answer index call result found waits _ =>
          exact trailed_receive trailed ran acted rfl rfl found waits
      | offer entry handle _ _ _ =>
          refine trailed.around ran acted rfl (Or.inl ?_)
          unfold offer
          split <;> rfl
      | _ => exact trailed.around ran acted rfl (Or.inl rfl)
  | reply index call result found waits =>
      exact trailed_receive trailed ran acted rfl rfl found waits
  | bring item => exact trailed.around ran acted rfl (Or.inl rfl)

theorem trailed_run
    (ran : Run.final? act? (Traffic.start shaders optimizes reports) actions = some traffic) :
    traffic.Accounted ∧ (traffic.isOpen = true → traffic.Settled) ∧
      Trailed (Traffic.start shaders optimizes reports) actions traffic := by
  -- The strokes speak about all actions so far, so the last one is taken off.
  induction actions using List.reverseRecOn generalizing traffic with
  | nil =>
      cases ran
      exact ⟨accounted_start .., fun _ => settled_start .., fun _ => rfl⟩
  | append_singleton actions action ih =>
      obtain ⟨before, earlier, last⟩ := Run.final?_append_eq_some_iff.mp ran
      obtain ⟨next, acted, done⟩ := Run.final?_cons_eq_some_iff.mp last
      obtain rfl : next = traffic := Option.some.inj done
      obtain ⟨accounted, settled, trailed⟩ := ih earlier
      refine ⟨accounted_acted accounted (acted_of_act? acted), fun isOpen => ?_,
        trailed_acted trailed earlier accounted settled acted⟩
      have wasOpen := isOpen_of_acted (acted_of_act? acted) isOpen
      exact settled_acted accounted (settled wasOpen) wasOpen isOpen (acted_of_act? acted)

end Traffic

end PipelineCache

import PipelineCache.Pipeline.Call
import PipelineCache.Proofs.Run
import PipelineCache.Proofs.Store

/-! Everything that can happen to one pipeline and its instances, in any order. Draws and optimizations
begin at any time and take their steps in any order; a call made by the device itself, while it
compiles for another call, is one that begins and ends before the other call gets its answer. Around
the calls instances are made, references to them are taken and given up, handles are offered from
outside, and at last the pipeline itself is dropped. The device never issues a handle twice. -/

namespace PipelineCache

/-- The handle that a draw has got from the device and has neither stored nor destroyed. -/
def Draw.carried (draw : Draw) : List PipelineHandle :=
  match draw.position with
  | .enlisting handle => [handle]
  | .discarding handle _ => [handle]
  | _ => []

def Optimization.carried (optimization : Optimization) : List PipelineHandle :=
  match optimization.position with
  | .installing handle => [handle]
  | .discarding handle => [handle]
  | _ => []

namespace Call

def mode : Call → CompileMode
  | .draw _ => .fast
  | .optimize _ => .optimized

def carried : Call → List PipelineHandle
  | .draw current => current.carried
  | .optimize current => current.carried

/-- The instance that a call needs its caller to hold until it returns. -/
def borrowed (call : Call) : List InstanceId :=
  match call with
  | .draw _ => []
  | .optimize current => if call.isFinished then [] else [current.entry]

end Call

/-- What the device and the surroundings of a pipeline have seen. -/
inductive Happening
  /-- The device has compiled a pipeline for a call. -/
  | compiled (mode : CompileMode) (handle : PipelineHandle)
  /-- The device has failed to compile a pipeline for a call. -/
  | refused (mode : CompileMode) (error : CacheError)
  /-- A call has made something visible. -/
  | shown (mode : CompileMode) (event : Event)
  /-- The device has compiled a pipeline for somebody who makes no call. -/
  | issued (handle : PipelineHandle)
  /-- A handle was destroyed with the instance that owned it, or after it was offered in vain. -/
  | dropped (handle : PipelineHandle)

def Event.destroyed? : Event → Option PipelineHandle
  | .destroyed handle => some handle
  | _ => none

namespace Happening

def issued? : Happening → Option PipelineHandle
  | .compiled _ handle => some handle
  | .issued handle => some handle
  | _ => none

def destroyed? : Happening → Option PipelineHandle
  | .shown _ event => event.destroyed?
  | .dropped handle => some handle
  | _ => none

end Happening

/-- A pipeline with its instances, and what goes on around them. -/
structure Traffic where
  shared : Shared
  /-- All calls that ever began, in their order; those that have returned stay as they are. -/
  calls : List Call := []
  /-- The instances that somebody outside holds and may give up, once for each reference. -/
  references : List InstanceId := []
  /-- The pipeline has not been dropped. -/
  isOpen : Bool := true
  history : List Happening := []

namespace Traffic

/-- One thing that may happen next. -/
inductive Move
  /-- A draw begins. -/
  | draw (state : PipelineState) (pass : RenderPass)
  /-- An optimization of an instance begins, with a reference that stays with the call. -/
  | optimize (entry : InstanceId)
  /-- A call takes its next step. -/
  | step (index : Nat)
  /-- The device answers a call. -/
  | answer (index : Nat) (result : Except CacheError PipelineHandle)
  /-- Somebody makes an instance without a base handle. -/
  | build (state : PipelineState) (pass : RenderPass)
  /-- Somebody takes one more reference to an instance. -/
  | share (entry : InstanceId)
  /-- Somebody gives up a reference. -/
  | drop (entry : InstanceId)
  /-- Somebody outside has a handle compiled and sets it as the fast handle of an instance; if there
  is one already, the new one is destroyed. -/
  | offer (entry : InstanceId) (handle : PipelineHandle)
  /-- The pipeline is dropped, and with it its references to its instances. -/
  | close

/-- A new pipeline, with nothing around it. -/
def start (shaders : ShaderSet) (optimizes reports : Bool) : Traffic :=
  { shared := ⟨{ shaders := shaders, optimizes := optimizes, reports := reports }, {}⟩ }

/-- The handles that the device has issued, oldest first. -/
def issued (traffic : Traffic) : List PipelineHandle :=
  traffic.history.filterMap Happening.issued?

/-- The handles that were destroyed, once for each time. -/
def destroyed (traffic : Traffic) : List PipelineHandle :=
  traffic.history.filterMap Happening.destroyed?

/-- The handles that calls in progress carry, once for each call. -/
def carried (traffic : Traffic) : List PipelineHandle := traffic.calls.flatMap Call.carried

/-- The handles in the slots of live instances, once for each slot. -/
def stored (traffic : Traffic) : List PipelineHandle := traffic.shared.store.handles

def isQuiet (traffic : Traffic) : Bool := traffic.calls.all Call.isFinished

def listed (traffic : Traffic) : List InstanceId :=
  bif traffic.isOpen then traffic.shared.pipeline.instances else []

/-- Every place that holds an instance. -/
def holdings (traffic : Traffic) : List InstanceId :=
  traffic.references ++ (traffic.calls.flatMap Call.borrowed ++ traffic.listed)

def beginDraw (traffic : Traffic) (state : PipelineState) (pass : RenderPass) : Traffic :=
  { traffic with calls := traffic.calls ++ [.draw { state := state, pass := pass }] }

/-- The call keeps the reference that its caller lends it. -/
def beginOptimization (traffic : Traffic) (entry : InstanceId) : Traffic :=
  { traffic with
    calls := traffic.calls ++ [.optimize { entry := entry }]
    references := traffic.references.erase entry }

/-- A call takes a step. When it returns, the caller may give up the reference again. -/
def advance (traffic : Traffic) (index : Nat) (call : Call) : Traffic :=
  let (next, changed, events) := call.step traffic.shared
  { traffic with
    shared := changed
    calls := traffic.calls.set index next
    references := traffic.references ++ (if next.isFinished then call.borrowed else [])
    history := traffic.history ++ events.map (.shown call.mode) }

def receive (traffic : Traffic) (index : Nat) (call : Call)
    (result : Except CacheError PipelineHandle) : Traffic :=
  { traffic with
    calls := traffic.calls.set index (call.answer result)
    history := traffic.history ++ [
      match result with
      | .ok handle => .compiled call.mode handle
      | .error error => .refused call.mode error] }

def build (traffic : Traffic) (state : PipelineState) (pass : RenderPass) : Traffic :=
  let (entry, store) := traffic.shared.store.add { state := state, pass := pass }
  { traffic with
    shared := { traffic.shared with store := store }
    references := traffic.references ++ [entry] }

def share (traffic : Traffic) (entry : InstanceId) : Traffic :=
  { traffic with
    shared := { traffic.shared with store := traffic.shared.store.hold entry }
    references := traffic.references ++ [entry] }

def drop (traffic : Traffic) (entry : InstanceId) : Traffic :=
  let (handles, store) := traffic.shared.store.release entry
  { traffic with
    shared := { traffic.shared with store := store }
    references := traffic.references.erase entry
    history := traffic.history ++ handles.map .dropped }

/-- An instance takes a handle from outside; if it has one already, the new one is destroyed. -/
def offer (traffic : Traffic) (entry : InstanceId) (handle : PipelineHandle) : Traffic :=
  match traffic.shared.store.install entry handle with
  | some store =>
      { traffic with
        shared := { traffic.shared with store := store }
        history := traffic.history ++ [.issued handle] }
  | none => { traffic with history := traffic.history ++ [.issued handle, .dropped handle] }

def close (traffic : Traffic) : Traffic :=
  let (handles, store) := traffic.shared.store.releaseAll traffic.shared.pipeline.instances
  { traffic with
    shared := { traffic.shared with store := store }
    isOpen := false
    history := traffic.history ++ handles.map .dropped }

/-- What a move leads to, if it is possible. -/
def move? (traffic : Traffic) : Move → Option Traffic
  | .draw state pass => if traffic.isOpen then some (traffic.beginDraw state pass) else none
  | .optimize entry =>
      if traffic.isOpen ∧ entry ∈ traffic.references then some (traffic.beginOptimization entry)
      else none
  | .step index =>
      match traffic.calls[index]? with
      | none => none
      | some call => if call.isFinished then none else some (traffic.advance index call)
  | .answer index result =>
      match traffic.calls[index]? with
      | none => none
      | some call =>
          if (call.request? traffic.shared).isSome ∧
              (∀ handle ∈ result.toOption, handle ∉ traffic.issued) then
            some (traffic.receive index call result)
          else none
  | .build state pass => some (traffic.build state pass)
  | .share entry =>
      if (traffic.shared.store.get? entry).isSome then some (traffic.share entry) else none
  | .drop entry => if entry ∈ traffic.references then some (traffic.drop entry) else none
  | .offer entry handle =>
      if (traffic.shared.store.get? entry).isSome ∧ handle ∉ traffic.issued then
        some (traffic.offer entry handle)
      else none
  | .close => if traffic.isOpen ∧ traffic.isQuiet then some traffic.close else none

abbrev run? (traffic : Traffic) (moves : List Move) : Option Traffic :=
  Run.final? move? traffic moves

@[simp] theorem shared_advance (traffic : Traffic) (index : Nat) (call : Call) :
    (traffic.advance index call).shared = (call.step traffic.shared).2.1 := rfl

@[simp] theorem calls_advance (traffic : Traffic) (index : Nat) (call : Call) :
    (traffic.advance index call).calls =
      traffic.calls.set index (call.step traffic.shared).1 := rfl

@[simp] theorem references_advance (traffic : Traffic) (index : Nat) (call : Call) :
    (traffic.advance index call).references = traffic.references ++
      (if (call.step traffic.shared).1.isFinished then call.borrowed else []) := rfl

@[simp] theorem isOpen_advance (traffic : Traffic) (index : Nat) (call : Call) :
    (traffic.advance index call).isOpen = traffic.isOpen := rfl

@[simp] theorem history_advance (traffic : Traffic) (index : Nat) (call : Call) :
    (traffic.advance index call).history =
      traffic.history ++ (call.step traffic.shared).2.2.map (.shown call.mode) := rfl

variable {before after : Traffic} {move : Move}

/-- The moves that are possible, and what they lead to. -/
inductive Moved (before : Traffic) : Move → Traffic → Prop
  | draw (state : PipelineState) (pass : RenderPass) (isOpen : before.isOpen) :
      Moved before (.draw state pass) (before.beginDraw state pass)
  | optimize (entry : InstanceId) (isOpen : before.isOpen) (member : entry ∈ before.references) :
      Moved before (.optimize entry) (before.beginOptimization entry)
  | step (index : Nat) (call : Call) (found : before.calls[index]? = some call)
      (running : call.isFinished = false) :
      Moved before (.step index) (before.advance index call)
  | answer (index : Nat) (call : Call) (result : Except CacheError PipelineHandle)
      (found : before.calls[index]? = some call) (waits : (call.request? before.shared).isSome)
      (fresh : ∀ handle, result = .ok handle → handle ∉ before.issued) :
      Moved before (.answer index result) (before.receive index call result)
  | build (state : PipelineState) (pass : RenderPass) :
      Moved before (.build state pass) (before.build state pass)
  | share (entry : InstanceId) (item : Instance)
      (present : before.shared.store.get? entry = some item) :
      Moved before (.share entry) (before.share entry)
  | drop (entry : InstanceId) (member : entry ∈ before.references) :
      Moved before (.drop entry) (before.drop entry)
  | offer (entry : InstanceId) (handle : PipelineHandle) (item : Instance)
      (present : before.shared.store.get? entry = some item) (fresh : handle ∉ before.issued) :
      Moved before (.offer entry handle) (before.offer entry handle)
  | close (isOpen : before.isOpen) (quiet : before.isQuiet) : Moved before .close before.close

theorem moved_of_move? (moved : before.move? move = some after) : Moved before move after := by
  cases move with
  | draw state pass =>
      obtain ⟨isOpen, same⟩ := Option.ite_none_right_eq_some.mp moved
      cases same
      exact .draw state pass isOpen
  | optimize entry =>
      obtain ⟨⟨isOpen, member⟩, same⟩ := Option.ite_none_right_eq_some.mp moved
      cases same
      exact .optimize entry isOpen member
  | step index =>
      simp only [move?] at moved
      split at moved
      · cases moved
      · rename_i call found
        obtain ⟨running, same⟩ := Option.ite_none_left_eq_some.mp moved
        cases same
        exact .step index call found (Bool.eq_false_iff.mpr running)
  | answer index result =>
      simp only [move?] at moved
      split at moved
      · cases moved
      · rename_i call found
        obtain ⟨⟨waits, fresh⟩, same⟩ := Option.ite_none_right_eq_some.mp moved
        cases same
        refine .answer index call result found waits fun handle got => fresh handle ?_
        rw [got]
        rfl
  | build state pass =>
      cases moved
      exact .build state pass
  | share entry =>
      obtain ⟨present, same⟩ := Option.ite_none_right_eq_some.mp moved
      cases same
      obtain ⟨item, found⟩ := Option.isSome_iff_exists.mp present
      exact .share entry item found
  | drop entry =>
      obtain ⟨member, same⟩ := Option.ite_none_right_eq_some.mp moved
      cases same
      exact .drop entry member
  | offer entry handle =>
      obtain ⟨⟨present, fresh⟩, same⟩ := Option.ite_none_right_eq_some.mp moved
      cases same
      obtain ⟨item, found⟩ := Option.isSome_iff_exists.mp present
      exact .offer entry handle item found fresh
  | close =>
      obtain ⟨⟨isOpen, quiet⟩, same⟩ := Option.ite_none_right_eq_some.mp moved
      cases same
      exact .close isOpen quiet

/-- Where a call comes from that is there after a move. -/
inductive Origin (before after : Traffic) : Call → Prop
  | stayed (call : Call) (member : call ∈ before.calls) : Origin before after call
  | drawn (state : PipelineState) (pass : RenderPass) :
      Origin before after (.draw { state := state, pass := pass })
  | optimized (entry : InstanceId) : Origin before after (.optimize { entry := entry })
  | stepped (old : Call) (member : old ∈ before.calls)
      (shared : after.shared = (old.step before.shared).2.1) :
      Origin before after (old.step before.shared).1
  | answered (old : Call) (member : old ∈ before.calls)
      (waits : (old.request? before.shared).isSome) (result : Except CacheError PipelineHandle)
      (shared : after.shared = before.shared) : Origin before after (old.answer result)

theorem origin_of_receive {index : Nat} {call waiting : Call} {result : Except CacheError PipelineHandle}
    (found : before.calls[index]? = some waiting) (waits : (waiting.request? before.shared).isSome)
    (member : call ∈ (before.receive index waiting result).calls) :
    Origin before (before.receive index waiting result) call := by
  rcases List.mem_or_eq_of_mem_set member with there | rfl
  · exact .stayed call there
  · exact .answered waiting (List.mem_of_getElem? found) waits result rfl

theorem origin_of_moved {call : Call} (moved : Moved before move after) (member : call ∈ after.calls) :
    Origin before after call := by
  cases moved with
  | draw state pass _ =>
      rcases List.mem_append.mp member with there | newest
      · exact .stayed call there
      · rw [List.mem_singleton.mp newest]
        exact .drawn state pass
  | optimize entry _ _ =>
      rcases List.mem_append.mp member with there | newest
      · exact .stayed call there
      · rw [List.mem_singleton.mp newest]
        exact .optimized entry
  | step index acting found _ =>
      rcases List.mem_or_eq_of_mem_set member with there | rfl
      · exact .stayed call there
      · exact .stepped acting (List.mem_of_getElem? found) rfl
  | answer index waiting result found waits _ => exact origin_of_receive found waits member
  | offer entry handle _ _ _ =>
      refine .stayed call ?_
      unfold offer at member
      split at member <;> exact member
  | _ => exact .stayed call member

end Traffic

end PipelineCache

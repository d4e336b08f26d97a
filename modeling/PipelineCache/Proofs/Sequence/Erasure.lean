import PipelineCache.Proofs.Runtime.Rebuilding
import PipelineCache.Proofs.Runtime.Soundness
import PipelineCache.Proofs.Sequence.Alike
import PipelineCache.Proofs.Traffic.Failures

/-! Requests during which the device fails may as well not have been made. A failed request leaves an
engine like itself, and engines that are alike serve a request alike; so what is left of a sequence of
requests without the failed ones is served as it was with them. -/

namespace PipelineCache

/-! ### Requests that fail -/

/-- The draw has nothing to store, and never will if the device fails. -/
def DrawPosition.isIdle : DrawPosition → Bool
  | .scanning => true
  | .reading _ => true
  | .preparing => true
  | .compiling _ => true
  | .failing _ => true
  | .finished _ => true
  | _ => false

def OptimizationPosition.isIdle : OptimizationPosition → Bool
  | .checking => true
  | .preparing => true
  | .compiling _ => true
  | .failing _ => true
  | .finished _ => true
  | _ => false

namespace Call

def isIdle : Call → Bool
  | .draw current => current.position.isIdle
  | .optimize current => current.position.isIdle

/-- A step changes nothing but the count of failures, and shows nothing but words. -/
structure Tame (next : Call) (shared changed : Shared) (events : List Event) : Prop where
  idle : next.isIdle = true
  forget : changed.forget = shared.forget
  silent : ∀ event ∈ events, ∃ message, event = .said message

end Call

theorem Draw.tame_step {draw : Draw} (idle : draw.position.isIdle = true) (shared : Shared) :
    Call.Tame (.draw (draw.step shared).1) shared (draw.step shared).2.1 (draw.step shared).2.2 := by
  obtain ⟨state, pass, position⟩ := draw
  cases position with
  | scanning =>
      simp only [step]
      split <;> exact ⟨rfl, rfl, List.forall_mem_nil _⟩
  | preparing =>
      simp only [step]
      split
      · exact ⟨rfl, rfl, List.forall_mem_nil _⟩
      · exact ⟨rfl, rfl, List.forall_mem_singleton.mpr ⟨_, rfl⟩⟩
  | reading entry => exact ⟨rfl, rfl, List.forall_mem_nil _⟩
  | compiling parent => exact ⟨rfl, rfl, List.forall_mem_nil _⟩
  | failing error => exact ⟨rfl, rfl, List.forall_mem_singleton.mpr ⟨_, rfl⟩⟩
  | finished result => exact ⟨rfl, rfl, List.forall_mem_nil _⟩
  | _ => cases idle

theorem Optimization.tame_step {optimization : Optimization}
    (idle : optimization.position.isIdle = true) (shared : Shared) :
    Call.Tame (.optimize (optimization.step shared).1) shared (optimization.step shared).2.1
      (optimization.step shared).2.2 := by
  obtain ⟨entry, position⟩ := optimization
  cases present : shared.store.get? entry with
  | none =>
      simp only [step, present]
      exact ⟨rfl, rfl, List.forall_mem_nil _⟩
  | some realized =>
      simp only [step, present]
      cases position with
      | checking =>
          refine ⟨?_, rfl, List.forall_mem_nil _⟩
          simp only
          split <;> rfl
      | preparing =>
          simp only
          split
          · exact ⟨rfl, rfl, List.forall_mem_nil _⟩
          · exact ⟨rfl, rfl, List.forall_mem_singleton.mpr ⟨_, rfl⟩⟩
      | compiling parent => exact ⟨rfl, rfl, List.forall_mem_nil _⟩
      | failing error => exact ⟨rfl, rfl, List.forall_mem_singleton.mpr ⟨_, rfl⟩⟩
      | finished result => exact ⟨rfl, rfl, List.forall_mem_nil _⟩
      | _ => cases idle

namespace Call

variable {call : Call}

theorem tame_step (idle : call.isIdle = true) (shared : Shared) :
    Tame (call.step shared).1 shared (call.step shared).2.1 (call.step shared).2.2 := by
  cases call with
  | draw current => exact Draw.tame_step idle shared
  | optimize current => exact Optimization.tame_step idle shared

theorem isIdle_answer (idle : call.isIdle = true) (error : CacheError) :
    (call.answer (.error error)).isIdle = true := by
  cases call with
  | draw current =>
      obtain ⟨state, pass, position⟩ := current
      cases position <;> exact idle
  | optimize current =>
      obtain ⟨entry, position⟩ := current
      cases position <;> exact idle

end Call

namespace Engine

variable {engine : Engine} {thread : Thread} {id : PipelineId} {call : Call} {request : Request}

theorem engine_foldl_absorb_said {events : List Event}
    (silent : ∀ event ∈ events, ∃ message, event = .said message) (turn : Turn) :
    (events.foldl (absorb thread id) turn).engine = turn.engine := by
  induction events generalizing turn with
  | nil => rfl
  | cons event events ih =>
      obtain ⟨⟨message, rfl⟩, rest⟩ := List.forall_mem_cons.mp silent
      exact ih rest (turn.say thread message)

theorem forget_stepCall (idle : call.isIdle = true) :
    (engine.stepCall thread id call).1.isIdle = true ∧
      (engine.stepCall thread id call).2.engine.forget = engine.forget := by
  cases there : engine.pipelines[id]? with
  | none =>
      simp only [stepCall, shared?, there, Option.map_none]
      exact ⟨idle, rfl⟩
  | some pipeline =>
      have tame := Call.tame_step idle ⟨pipeline, engine.store⟩
      obtain ⟨inside, same⟩ := List.getElem?_eq_some_iff.mp there
      simp only [stepCall, shared?_of_getElem? there]
      refine ⟨tame.idle, ?_⟩
      rw [engine_foldl_absorb_said tame.silent]
      calc (engine.changeShared id (call.step ⟨pipeline, engine.store⟩).2.1).forget
        _ = engine.forget.changeShared id (call.step ⟨pipeline, engine.store⟩).2.1.forget :=
            forget_changeShared engine id _
        _ = (engine.changeShared id ⟨pipeline, engine.store⟩).forget := by
            rw [tame.forget, forget_changeShared]
        _ = engine.forget := by rw [changeShared, ← same, List.set_getElem_self]

/-- Where the device only fails, a call that has not got anything from it leaves no trace. -/
theorem forget_converse {error : CacheError} (fails : request.compiled = .error error)
    (id : PipelineId) (idle : call.isIdle = true) (engine : Engine) (steps : Nat) (sight : Sight) :
    (request.converse id steps call engine sight).1.2.forget = engine.forget := by
  refine (request.converse_kept id call engine sight
    (motive := fun next later _ => next.isIdle = true ∧ later.forget = engine.forget)
    ?_ ?_ steps ⟨idle, rfl⟩).2
  · rintro next later sight _ ⟨idle, same⟩
    rw [fails]
    exact ⟨Call.isIdle_answer idle error, same⟩
  · rintro next later sight ⟨idle, same⟩
    obtain ⟨stays, forgets⟩ := forget_stepCall idle
    exact ⟨stays, forgets.trans same⟩

/-- A device that compiles has not failed. -/
theorem failed_converse {handle : PipelineHandle} (compiles : request.compiled = .ok handle)
    (id : PipelineId) (call : Call) (engine : Engine) (steps : Nat) (sight : Sight) :
    (request.converse id steps call engine sight).2.failed = sight.failed := by
  refine request.converse_kept id call engine sight
    (motive := fun _ _ later => later.failed = sight.failed) ?_ ?_ steps rfl
  · intro next later seen _ same
    rw [compiles]
    exact (Bool.or_false _).trans same
  · intro next later seen same
    exact same

theorem engine_release_hold (sound : engine.store.Sound) (entry : InstanceId) :
    ((engine.hold entry).release entry).engine = engine := by
  have stores : ((engine.store.hold entry).release entry).2 = engine.store := by
    cases present : engine.store.held? entry with
    | none => simp only [Store.hold, Store.release, present]
    | some held => rw [Store.release_hold present (sound entry held present)]
  simp only [release, unchanged, Turn.release, hold, stores]

/-- A failed request leaves an engine as it was, but for the count of failures. -/
theorem forget_serve (sound : engine.store.Sound) (failed : (engine.serve request).1.sight.failed = true) :
    (engine.serve request).2.forget = engine.forget := by
  obtain ⟨demand, compiled, created⟩ := request
  cases demand with
  | draw id state pass =>
      simp only [serve_draw] at failed ⊢
      cases compiled with
      | ok handle =>
          rw [failed_converse rfl] at failed
          cases failed
      | error error => exact forget_converse rfl id rfl engine _ _
  | optimize id entry =>
      simp only [serve_optimize] at failed ⊢
      cases compiled with
      | ok handle =>
          simp only [Sight.notify] at failed
          rw [failed_converse rfl] at failed
          cases failed
      | error error =>
          have same : (Request.converse ⟨.optimize id entry, .error error, created⟩ id Call.stepBound
              (.optimize { entry := entry }) (engine.hold entry) {}).1.2.forget =
                (engine.hold entry).forget :=
            forget_converse rfl id rfl (engine.hold entry) Call.stepBound {}
          calc _ = ((engine.hold entry).release entry).engine.forget :=
                congrArg (fun whole : Engine => (whole.release entry).engine) same
            _ = engine.forget := congrArg forget (engine_release_hold sound entry)
  | pass format =>
      simp only [serve_pass] at failed ⊢
      cases found : engine.passes.find? format with
      | some pass => simp [found] at failed
      | none =>
          cases created with
          | ok number => simp [found, Sight.note, Except.isOk, Except.toBool] at failed
          | error error => simp only [RenderPasses.obtain, found]

/-! ### A sequence of requests -/

theorem sound_converse (request : Request) (id : PipelineId) (sound : engine.store.Sound) (call : Call)
    (steps : Nat) (sight : Sight) :
    (request.converse id steps call engine sight).1.2.store.Sound :=
  request.converse_kept id call engine sight (motive := fun _ later _ => later.store.Sound)
    (fun _ _ _ _ sound => sound) (fun call _ _ sound => sound_stepCall sound call) steps sound

theorem sound_serve (sound : engine.store.Sound) (request : Request) :
    (engine.serve request).2.store.Sound := by
  obtain ⟨demand, compiled, created⟩ := request
  cases demand with
  | draw id state pass =>
      simp only [serve_draw]
      exact sound_converse _ id sound _ _ _
  | optimize id entry =>
      simp only [serve_optimize]
      have held : (engine.hold entry).store.Sound := Store.sound_hold sound entry
      exact Store.sound_release (sound_converse _ id held _ _ _) entry
  | pass format =>
      simp only [serve_pass]
      exact sound

/-- Without the requests that have failed, the others are served as they were with them, and in the end
the engines are alike. -/
theorem Alike.serveAll {rename : Renaming} {other : Engine} (alike : Alike rename engine other)
    (sound : engine.store.Sound) (requests : List Request) :
    let whole := engine.serveAll requests
    let kept := whole.1.filter fun service => !service.sight.failed
    let again := other.serveAll (kept.map fun service => rename.request service.request)
    again.1 = kept.map rename.service ∧ Alike rename whole.2 again.2 := by
  induction requests generalizing engine other with
  | nil => exact ⟨rfl, alike⟩
  | cons request requests ih =>
      have later := sound_serve sound request
      have named : (engine.serve request).1.request = request := rfl
      simp only [Engine.serveAll, List.filter_cons]
      cases failed : (engine.serve request).1.sight.failed with
      | true =>
          have goes := alike.earlier (forget_serve sound failed)
          simp only [Bool.not_true, Bool.false_eq_true, if_false]
          exact ih goes later
      | false =>
          obtain ⟨served, goes⟩ := alike.serve request
          obtain ⟨rest, ends⟩ := ih goes later
          simp only [Bool.not_false, if_true, List.map_cons, Engine.serveAll, named]
          rw [served, rest]
          exact ⟨rfl, ends⟩

end Engine

/-! ### Render passes -/

/-- A request for a render pass that was served: what the device has answered if it was asked, and what
the request has led to. -/
structure Grant where
  format : RenderPassFormat
  created : Option (Except CacheError UInt64)
  result : Except CacheError RenderPass

/-- The device has made a render pass of this format. -/
def Grant.makes (format : RenderPassFormat) (grant : Grant) : Bool :=
  grant.format = format && grant.created.any Except.isOk

namespace RenderPasses

variable {passes : RenderPasses} {format : RenderPassFormat} {pass : RenderPass} {error : CacheError}
  {answer : Except CacheError UInt64}

/-- Gets one render pass after another, each with what the device answers if it is asked. -/
def obtainAll (passes : RenderPasses) :
    List (RenderPassFormat × Except CacheError UInt64) → List Grant × RenderPasses
  | [] => ([], passes)
  | (format, answer) :: wanted =>
      let (result, next) := passes.obtain format answer
      let (grants, last) := next.obtainAll wanted
      (⟨format, if (passes.find? format).isSome then none else some answer, result⟩ :: grants, last)

theorem obtain_error (failed : (passes.obtain format answer).1 = .error error) :
    (passes.obtain format answer).2 = passes := by
  unfold obtain at failed ⊢
  split at failed
  · cases failed
  · cases answer with
    | error error => rfl
    | ok number => cases failed

theorem obtain_of_find? (found : passes.find? format = some pass) (answer : Except CacheError UInt64) :
    passes.obtain format answer = (.ok pass, passes) := by
  simp only [obtain, found]

/-- Once there is a render pass for a format, the device makes no other. -/
theorem granted_of_find? (found : passes.find? format = some pass)
    (wanted : List (RenderPassFormat × Except CacheError UInt64)) :
    ∀ grant ∈ (passes.obtainAll wanted).1, grant.format = format →
      grant.created = none ∧ grant.result = .ok pass := by
  induction wanted generalizing passes with
  | nil => exact List.forall_mem_nil _
  | cons request wanted ih =>
      obtain ⟨other, answer⟩ := request
      simp only [obtainAll]
      refine List.forall_mem_cons.mpr ⟨?_, ih (find?_obtain_of_find? found answer)⟩
      rintro rfl
      rw [obtain_of_find? found, found]
      exact ⟨rfl, rfl⟩

/-- The device has made no render pass for a format, or one, and all requests for the format that have
not failed have led to the same one. -/
structure Granted (format : RenderPassFormat) (grants : List Grant) : Prop where
  made : grants.countP (Grant.makes format) ≤ 1
  shared : ∃ pass, ∀ grant ∈ grants, grant.format = format →
    grant.result = .ok pass ∨ ∃ error, grant.result = .error error

theorem Granted.of_unmade {grants : List Grant} (pass : RenderPass)
    (unmade : ∀ grant ∈ grants, grant.format = format →
      grant.created = none ∧ grant.result = .ok pass) :
    grants.countP (Grant.makes format) = 0 ∧ Granted format grants := by
  have nothing : grants.countP (Grant.makes format) = 0 := by
    refine List.countP_eq_zero.mpr fun grant member makes => ?_
    obtain ⟨same, made⟩ := Bool.and_eq_true_iff.mp makes
    rw [(unmade grant member (of_decide_eq_true same)).1] at made
    cases made
  exact ⟨nothing, nothing ▸ Nat.zero_le 1, pass,
    fun grant member same => Or.inl (unmade grant member same).2⟩

theorem Granted.cons_unmade {grants : List Grant} {grant : Grant} (granted : Granted format grants)
    (unmade : grant.makes format = false)
    (failed : grant.format = format → ∃ error, grant.result = .error error) :
    Granted format (grant :: grants) := by
  obtain ⟨made, pass, shared⟩ := granted
  refine ⟨?_, pass, List.forall_mem_cons.mpr ⟨fun same => Or.inr (failed same), shared⟩⟩
  rwa [List.countP_cons_of_neg (Bool.eq_false_iff.mp unmade)]

/-- As long as there is no render pass for a format, requests for it fail; the first that succeeds is
the last for which the device is asked. -/
theorem granted_obtainAll (passes : RenderPasses) (format : RenderPassFormat)
    (wanted : List (RenderPassFormat × Except CacheError UInt64)) :
    Granted format (passes.obtainAll wanted).1 := by
  induction wanted generalizing passes with
  | nil => exact ⟨Nat.zero_le 1, ⟨0, format⟩, List.forall_mem_nil _⟩
  | cons request wanted ih =>
      cases found : passes.find? format with
      | some pass => exact (Granted.of_unmade pass (granted_of_find? found (request :: wanted))).2
      | none =>
          obtain ⟨other, answer⟩ := request
          simp only [obtainAll]
          by_cases same : other = format
          · subst same
            cases answer with
            | error error =>
                simp only [found, obtain]
                refine (ih passes).cons_unmade ?_ fun _ => ⟨error, rfl⟩
                simp [Grant.makes, Except.isOk, Except.toBool]
            | ok number =>
                have made : (passes.obtain other (.ok number)).1 = .ok ⟨number, other⟩ := by
                  simp only [obtain, found]
                have later := granted_of_find? (find?_obtain made) wanted
                obtain ⟨nothing, _⟩ := Granted.of_unmade _ later
                refine ⟨?_, ⟨number, other⟩, List.forall_mem_cons.mpr
                  ⟨fun _ => Or.inl made, fun grant member same => Or.inl (later grant member same).2⟩⟩
                rw [List.countP_cons, nothing, Nat.zero_add]
                split <;> split <;> decide
          · refine (ih _).cons_unmade ?_ fun equal => absurd equal same
            simp [Grant.makes, same]

end RenderPasses

/-! ### No trace -/

section

open Traffic (Action act? strokes Blank Tidy)

variable {shaders : ShaderSet} {optimizes reports : Bool} {actions : List Action} {traffic : Traffic}
  {setup : Setup} {disk : Disk} {moves : List Runtime.Move} {runtime : Runtime} {rename : Renaming}
  {other : Engine}

/-- Whatever else goes on around a pipeline, a draw that returns nothing has changed nothing in it and
in its instances, and nothing but words has come of it; it has counted one failure if the device was
asked, and none otherwise. An optimization that returns false has changed nothing but counters, and has
destroyed what the device has compiled for it. A request for a render pass that fails changes nothing; so
for each format the device makes at most one, which all later requests get. And in every engine, however
it has come about, the requests that are served one after another with no failure of the device are served
in the same way if the others are not made at all: with the same replies and the same notices, and with the
same engine in the end, but for the counts of failures and the numbers that the device gives out. -/
theorem failures_leave_no_trace
    (ran : Run.final? act? (Traffic.start shaders optimizes reports) actions = some traffic)
    (reached : (Runtime.start setup disk).run? moves = some runtime)
    (alike : Engine.Alike rename runtime.engine other) :
    (∀ (index : Nat) state pass,
      traffic.calls[index]? = some (.draw ⟨state, pass, .finished none⟩) →
      ∃ asked ≤ 1, Blank asked asked
        (strokes (Traffic.start shaders optimizes reports) actions index)) ∧
    (∀ (index : Nat) entry, traffic.calls[index]? = some (.optimize ⟨entry, .finished false⟩) →
      ∃ handles, Tidy handles handles
        (strokes (Traffic.start shaders optimizes reports) actions index)) ∧
    (∀ (passes : RenderPasses) format answer error, (passes.obtain format answer).1 = .error error →
      (passes.obtain format answer).2 = passes) ∧
    (∀ (passes : RenderPasses) wanted format,
      RenderPasses.Granted format (passes.obtainAll wanted).1) ∧
    ∀ requests : List Request,
      let whole := runtime.engine.serveAll requests
      let kept := whole.1.filter fun service => !service.sight.failed
      let again := other.serveAll (kept.map fun service => rename.request service.request)
      again.1 = kept.map rename.service ∧ Engine.Alike rename whole.2 again.2 := by
  obtain ⟨_, _, trailed⟩ := Traffic.trailed_run ran
  refine ⟨fun index state pass found => ?_, fun index entry found => ?_,
    fun _ _ _ _ => RenderPasses.obtain_error, fun passes wanted format =>
      RenderPasses.granted_obtainAll passes format wanted,
    alike.serveAll (Runtime.sound_run reached)⟩
  · have trail := trailed index
    rwa [found] at trail
  · have trail := trailed index
    rwa [found] at trail

/-- The device fails to compile for a draw. Then an instance gets a fast handle from outside while the
device compiles one for it. -/
def mishaps (first second : PipelineHandle) : List Action :=
  [.move (.draw {} ⟨1, {}⟩), .move (.step 0), .move (.step 0),
    .reply 0 (.error (.compile "lost")), .move (.step 0),
    .move (.build {} ⟨1, {}⟩), .move (.optimize 0), .move (.step 1), .move (.step 1),
    .reply 1 (.ok first), .move (.offer 0 second), .move (.step 1), .move (.step 1), .move (.step 1)]

/-- A draw, an optimization and a request for a render pass; each fails once and is made again. -/
def retries (first second : PipelineHandle) : List Request :=
  [⟨.draw 0 {} ⟨1, {}⟩, .error (.compile "lost"), .ok 1⟩, ⟨.draw 0 {} ⟨1, {}⟩, .ok first, .ok 1⟩,
    ⟨.optimize 0 0, .error (.compile "lost"), .ok 1⟩, ⟨.optimize 0 0, .ok second, .ok 1⟩,
    ⟨.pass {}, .ok first, .error (.compile "lost")⟩, ⟨.pass {}, .ok first, .ok 7⟩]

theorem failures_leave_no_trace_retries : ∃ traffic runtime,
    Run.final? act? (Traffic.start {} true true) (mishaps ⟨1, by decide⟩ ⟨2, by decide⟩) =
      some traffic ∧
    (Runtime.start { cache := none } {}).run? [.create {} true true] = some runtime ∧
    (∃ asked ≤ 1, Blank asked asked
      (strokes (Traffic.start {} true true) (mishaps ⟨1, by decide⟩ ⟨2, by decide⟩) 0)) ∧
    (∃ handles, Tidy handles handles
      (strokes (Traffic.start {} true true) (mishaps ⟨1, by decide⟩ ⟨2, by decide⟩) 1)) ∧
    let whole := runtime.engine.serveAll (retries ⟨1, by decide⟩ ⟨2, by decide⟩)
    let kept := whole.1.filter fun service => !service.sight.failed
    let again := runtime.engine.serveAll (kept.map fun service =>
      Renaming.request ⟨id, (· + 1)⟩ service.request)
    whole.1.length = 6 ∧ kept.length = 3 ∧ again.1.length = kept.length := by
  have ran : Run.final? act? (Traffic.start {} true true) (mishaps ⟨1, by decide⟩ ⟨2, by decide⟩) =
      some ((Run.final? act? (Traffic.start {} true true)
        (mishaps ⟨1, by decide⟩ ⟨2, by decide⟩)).get (by decide)) := (Option.some_get _).symm
  have reached : (Runtime.start { cache := none } {}).run? [.create {} true true] =
      some (((Runtime.start { cache := none } {}).run? [.create {} true true]).get (by decide)) :=
    (Option.some_get _).symm
  have alike : Engine.Alike ⟨id, (· + 1)⟩
      (((Runtime.start { cache := none } {}).run? [.create {} true true]).get (by decide)).engine
      (((Runtime.start { cache := none } {}).run? [.create {} true true]).get (by decide)).engine := rfl
  obtain ⟨drawn, optimized, _, _, erased⟩ := failures_leave_no_trace ran reached alike
  refine ⟨_, _, ran, reached, drawn 0 {} ⟨1, {}⟩ (by decide), optimized 1 0 (by decide),
    by decide +kernel, by decide +kernel, ?_⟩
  have again := congrArg List.length (erased (retries ⟨1, by decide⟩ ⟨2, by decide⟩)).1
  rwa [List.length_map] at again

end

end PipelineCache

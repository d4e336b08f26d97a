import PipelineCache.Engine.Schedule
import PipelineCache.Proofs.Runtime.Workplace
import PipelineCache.Proofs.Sequence.Renaming
import PipelineCache.Proofs.Traffic.Outcomes

/-! Requests to an engine, served one after another while all its threads rest. Each request says what
the device answers if it is asked meanwhile; whether it was asked and has failed, and what became visible,
is noted beside the reply. -/

namespace PipelineCache

/-- What the surroundings of an engine have seen while one request was served. -/
structure Sight where
  /-- The device was asked and has failed. -/
  failed : Bool := false
  notices : List Notice := []

namespace Sight

def note {α : Type} (sight : Sight) (answer : Except CacheError α) : Sight :=
  { sight with failed := sight.failed || !answer.isOk }

def notify (sight : Sight) (notices : List Notice) : Sight :=
  { sight with notices := sight.notices ++ notices }

end Sight

/-- What somebody asks of an engine. -/
inductive Demand
  | draw (pipeline : PipelineId) (state : PipelineState) (pass : RenderPass)
  | optimize (pipeline : PipelineId) (entry : InstanceId)
  | pass (format : RenderPassFormat)

/-- A demand, and what the device answers if it has to compile or to make a render pass. -/
structure Request where
  demand : Demand
  compiled : Except CacheError PipelineHandle
  created : Except CacheError UInt64

inductive Reply
  | drawn (handle : Option PipelineHandle)
  | optimized (installed : Bool)
  | obtained (pass : Except CacheError RenderPass)

/-- A request that was served. -/
structure Service where
  request : Request
  reply : Reply
  sight : Sight

namespace Request

def around (request : Request) : Surroundings (StateT Engine (StateM Sight)) where
  compile _ := StateT.lift (modifyGet fun sight => (request.compiled, sight.note request.compiled))
  createPass _ := StateT.lift (modifyGet fun sight => (request.created, sight.note request.created))
  notice notice := StateT.lift (modify fun sight => sight.notify [notice])

def perform (request : Request) : StateT Engine (StateM Sight) Reply :=
  match request.demand with
  | .draw pipeline state pass => return .drawn (← request.around.draw pipeline state pass)
  | .optimize pipeline entry => return .optimized (← request.around.optimize pipeline entry)
  | .pass format => return .obtained (← request.around.obtainPass format)

/-- Lets a call of the request go on. -/
def converse (request : Request) (id : PipelineId) (steps : Nat) (call : Call) (engine : Engine)
    (sight : Sight) : (Call × Engine) × Sight :=
  (((request.around.runCall .caller id steps call).run engine).run sight).run

end Request

namespace Engine

/-- Serves one request. -/
def serve (engine : Engine) (request : Request) : Service × Engine :=
  let ((reply, after), sight) := ((request.perform.run engine).run {}).run
  (⟨request, reply, sight⟩, after)

/-- Serves one request after another. -/
def serveAll (engine : Engine) : List Request → List Service × Engine
  | [] => ([], engine)
  | request :: requests =>
      let (service, after) := engine.serve request
      let (services, last) := after.serveAll requests
      (service :: services, last)

end Engine

namespace Renaming

variable (rename : Renaming)

def sight (sight : Sight) : Sight := { sight with notices := sight.notices.map rename.notice }

def demand : Demand → Demand
  | .draw pipeline state pass => .draw pipeline state (rename.pass pass)
  | .optimize pipeline entry => .optimize pipeline entry
  | .pass format => .pass format

def request (request : Request) : Request :=
  ⟨rename.demand request.demand, request.compiled.map rename.handle,
    request.created.map rename.number⟩

def reply : Reply → Reply
  | .drawn handle => .drawn (handle.map rename.handle)
  | .optimized installed => .optimized installed
  | .obtained pass => .obtained (pass.map rename.pass)

def service (service : Service) : Service :=
  ⟨rename.request service.request, rename.reply service.reply, rename.sight service.sight⟩

theorem note_sight {α β : Type} (sight : Sight) (answer : Except CacheError α) (number : α → β) :
    (rename.sight sight).note (answer.map number) = rename.sight (sight.note answer) := by
  cases answer <;> rfl

theorem notify_sight (sight : Sight) (notices : List Notice) :
    (rename.sight sight).notify (notices.map rename.notice) = rename.sight (sight.notify notices) := by
  simp [Sight.notify, Renaming.sight]

end Renaming

/-! ### How a request is served -/

namespace Request

variable (request : Request) (id : PipelineId) (call : Call) (engine : Engine) (sight : Sight)

theorem run_notices (notices : List Notice) :
    ((notices.forM request.around.notice).run engine).run sight =
      pure (((), engine), sight.notify notices) := by
  induction notices generalizing sight with
  | nil => simp [Sight.notify]
  | cons notice notices ih =>
      have told : ((request.around.notice notice).run engine).run sight =
          pure (((), engine), sight.notify [notice]) := rfl
      have all : (sight.notify [notice]).notify notices = sight.notify (notice :: notices) := by
        simp [Sight.notify]
      simp only [List.forM_eq_forM, List.forM_cons] at ih ⊢
      simp [told, ih, all]

theorem run_performWith {α : Type} (transition : Engine → α × Turn) :
    ((request.around.performWith transition).run engine).run sight =
      pure (((transition engine).1, (transition engine).2.engine),
        sight.notify (transition engine).2.notices) := by
  have told := run_notices request (transition engine).2.engine sight (transition engine).2.notices
  simp only [List.forM_eq_forM] at told
  simp [Surroundings.performWith, told]

/-- A call goes on until it has finished: it gets an answer if it waits for one, and takes a step if it
does not. -/
theorem converse_succ (steps : Nat) : request.converse id (steps + 1) call engine sight =
    if call.isFinished then ((call, engine), sight)
    else if (engine.requestOf? id call).isSome then
      request.converse id steps (call.answer request.compiled) engine (sight.note request.compiled)
    else
      request.converse id steps (engine.stepCall .caller id call).1
        (engine.stepCall .caller id call).2.engine
        (sight.notify (engine.stepCall .caller id call).2.notices) := by
  rw [converse, Surroundings.runCall]
  split
  · rfl
  · cases asked : engine.requestOf? id call with
    | some question =>
        have answered : ((request.around.compile question).run engine).run sight =
            pure ((request.compiled, engine), sight.note request.compiled) := rfl
        simp [asked, answered, converse]
    | none =>
        have did := request.run_performWith engine sight fun engine => engine.stepCall .caller id call
        simp [asked, did, converse]

/-- What every answer and every step keeps, a whole call keeps. -/
theorem converse_kept {motive : Call → Engine → Sight → Prop}
    (answered : ∀ call engine sight, (engine.requestOf? id call).isSome → motive call engine sight →
      motive (call.answer request.compiled) engine (sight.note request.compiled))
    (stepped : ∀ call engine sight, motive call engine sight →
      motive (engine.stepCall .caller id call).1 (engine.stepCall .caller id call).2.engine
        (sight.notify (engine.stepCall .caller id call).2.notices))
    (steps : Nat) (initial : motive call engine sight) :
    motive (request.converse id steps call engine sight).1.1
      (request.converse id steps call engine sight).1.2
      (request.converse id steps call engine sight).2 := by
  induction steps generalizing call engine sight with
  | zero => exact initial
  | succ steps ih =>
      rw [converse_succ]
      split
      · exact initial
      · split
        · rename_i asked
          exact ih _ _ _ (answered call engine sight asked initial)
        · exact ih _ _ _ (stepped call engine sight initial)

end Request

/-! ### Every call returns -/

/-- How many steps and answers an optimization has left at most. -/
def Optimization.rest (optimization : Optimization) : Nat :=
  match optimization.position with
  | .checking => 7
  | .preparing => 6
  | .compiling _ => 5
  | .installing _ => 4
  | .countingInstalled _ => 3
  | .adopting _ => 2
  | .discarding _ => 2
  | .offering _ => 1
  | .countingDiscarded => 1
  | .failing _ => 1
  | .finished _ => 0

/-- An optimization that neither has returned nor waits for the device comes nearer its end. -/
theorem Optimization.rest_step {optimization : Optimization} {shared : Shared}
    (running : (Call.optimize optimization).isFinished = false)
    (unasked : optimization.request? shared = none) :
    (optimization.step shared).1.rest < optimization.rest := by
  obtain ⟨entry, position⟩ := optimization
  cases present : shared.store.get? entry with
  | none =>
      cases position with
      | finished result => cases running
      | _ => simp [step, present, moveTo, rest]
  | some item =>
      cases position with
      | finished result => cases running
      | compiling parent => simp [request?, present] at unasked
      | checking =>
          simp only [step, present, moveTo]
          split <;> simp [rest]
      | preparing =>
          simp only [step, present]
          split <;> simp [moveTo, rest]
      | installing handle =>
          simp only [step, present]
          split <;> simp [moveTo, rest]
      | adopting handle =>
          simp only [step, present, moveTo]
          split <;> simp [rest]
      | _ => simp [step, present, moveTo, rest]

namespace Call

def rest : Call → Nat
  | .draw current => current.rest
  | .optimize current => current.rest

variable {call : Call} {shared : Shared}

theorem rest_le_stepBound (call : Call) : call.rest ≤ stepBound := by
  cases call with
  | draw current =>
      obtain ⟨state, pass, position⟩ := current
      cases position <;> simp [rest, Draw.rest, stepBound]
  | optimize current =>
      obtain ⟨entry, position⟩ := current
      cases position <;> simp [rest, Optimization.rest, stepBound]

theorem isFinished_of_rest (done : call.rest = 0) : call.isFinished = true := by
  cases call with
  | draw current =>
      obtain ⟨state, pass, position⟩ := current
      cases position <;> first | rfl | cases done
  | optimize current =>
      obtain ⟨entry, position⟩ := current
      cases position <;> first | rfl | cases done

theorem rest_answer (waits : (call.request? shared).isSome) (result : Except CacheError PipelineHandle) :
    (call.answer result).rest < call.rest := by
  rcases position_of_waits waits with ⟨state, pass, parent, rfl⟩ | ⟨entry, parent, rfl⟩
  · cases result <;> simp [answer, Draw.answer, Draw.moveTo, rest, Draw.rest]
  · cases result <;> simp [answer, Optimization.answer, Optimization.moveTo, rest, Optimization.rest]

theorem rest_step (running : call.isFinished = false) (unasked : call.request? shared = none) :
    (call.step shared).1.rest < call.rest := by
  cases call with
  | draw current =>
      rcases current.rest_lowered shared with ⟨result, done⟩ | ⟨asked, _⟩ | lowered
      · obtain ⟨state, pass, position⟩ := current
        cases done
        cases running
      · have silent : current.request? shared = none := unasked
        rw [silent] at asked
        cases asked
      · exact lowered
  | optimize current => exact Optimization.rest_step running unasked

end Call

namespace Request

/-- A call on a pipeline that is there returns, if it may take as many steps as it has left. -/
theorem isFinished_of_enough (request : Request) {id : PipelineId} {call : Call} {engine : Engine}
    (there : id < engine.pipelines.length) {steps : Nat} (enough : call.rest ≤ steps) (sight : Sight) :
    (request.converse id steps call engine sight).1.1.isFinished = true := by
  induction steps generalizing call engine sight with
  | zero => exact Call.isFinished_of_rest (Nat.le_zero.mp enough)
  | succ steps ih =>
      have found : engine.shared? id = some ⟨engine.pipelines[id], engine.store⟩ :=
        Engine.shared?_of_getElem? (List.getElem?_eq_getElem there)
      rw [converse_succ]
      split
      · assumption
      · rename_i running
        simp only [Engine.requestOf?, found, Option.bind_some]
        split
        · rename_i asked
          exact ih there (Nat.le_of_lt_succ (Nat.lt_of_lt_of_le (Call.rest_answer asked _) enough)) _
        · rename_i unasked
          have silent : call.request? ⟨engine.pipelines[id], engine.store⟩ = none :=
            Option.not_isSome_iff_eq_none.mp unasked
          have same : (engine.stepCall .caller id call).2.engine.workplace = engine.workplace :=
            Engine.workplace_stepCall engine .caller call
          have moved : (engine.stepCall .caller id call).1 =
              (call.step ⟨engine.pipelines[id], engine.store⟩).1 := by
            simp only [Engine.stepCall, found]
          have nearer := Call.rest_step (Bool.eq_false_iff.mpr running) silent
          refine ih ?_ ?_ _
          · have length := congrArg (fun place => place.outfits.length) same
            simp only [Engine.workplace, List.length_map] at length
            rwa [length]
          · rw [moved]
            exact Nat.le_of_lt_succ (Nat.lt_of_lt_of_le nearer enough)

/-- Whatever the device answers, a call returns within the steps that a request allows it. -/
theorem isFinished_converse (request : Request) {id : PipelineId} {engine : Engine}
    (there : id < engine.pipelines.length) (call : Call) (sight : Sight) :
    (request.converse id Call.stepBound call engine sight).1.1.isFinished = true :=
  request.isFinished_of_enough there call.rest_le_stepBound sight

end Request

namespace Engine

variable (engine : Engine) (compiled : Except CacheError PipelineHandle)
  (created : Except CacheError UInt64)

theorem serve_draw (id : PipelineId) (state : PipelineState) (pass : RenderPass) :
    let request : Request := ⟨.draw id state pass, compiled, created⟩
    let drawn := request.converse id Call.stepBound (.draw { state := state, pass := pass }) engine {}
    engine.serve request = (⟨request, .drawn drawn.1.1.handle?, drawn.2⟩, drawn.1.2) := by
  simp [serve, Request.perform, Surroundings.draw, Request.converse]

theorem serve_optimize (id : PipelineId) (entry : InstanceId) :
    let request : Request := ⟨.optimize id entry, compiled, created⟩
    let optimized := request.converse id Call.stepBound (.optimize { entry := entry })
      (engine.hold entry) {}
    let released := optimized.1.2.release entry
    engine.serve request = (⟨request, .optimized optimized.1.1.hasInstalled,
      optimized.2.notify released.notices⟩, released.engine) := by
  have released (request : Request) (engine : Engine) (sight : Sight) :=
    request.run_performWith engine sight fun engine => ((), engine.release entry)
  simp [serve, Request.perform, Surroundings.optimize, Surroundings.perform, Request.converse, released]

theorem serve_pass (format : RenderPassFormat) :
    let request : Request := ⟨.pass format, compiled, created⟩
    let obtained := engine.passes.obtain format created
    engine.serve request = (⟨request, .obtained obtained.1,
      if (engine.passes.find? format).isSome then {} else Sight.note {} created⟩,
        { engine with passes := obtained.2 }) := by
  intro request obtained
  cases found : engine.passes.find? format with
  | some pass =>
      simp [serve, Request.perform, Surroundings.obtainPass, found, RenderPasses.obtain, request, obtained]
  | none =>
      have answered : ((request.around.createPass format).run engine).run {} =
          pure ((created, engine), Sight.note {} created) := rfl
      simp only [request, obtained] at answered ⊢
      simp [serve, Request.perform, Surroundings.obtainPass, found, answered, Request.run_performWith,
        unchanged, Sight.notify]

end Engine

end PipelineCache

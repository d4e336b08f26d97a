import PipelineCache.Engine.Basic

/-! The numbers that the device gives to what it makes mean nothing to an engine. It stores them, hands
them on, and gives them back to be destroyed, but it never compares them. So whatever it does, it does in
the same way with other numbers. -/

namespace PipelineCache

/-- Other numbers for what the device has made. -/
structure Renaming where
  handle : PipelineHandle → PipelineHandle
  number : UInt64 → UInt64

namespace Renaming

variable (rename : Renaming)

def pass (pass : RenderPass) : RenderPass := { pass with handle := rename.number pass.handle }

def passes (passes : RenderPasses) : RenderPasses := ⟨passes.made.map rename.pass⟩

def item (item : Instance) : Instance :=
  { item with
    pass := rename.pass item.pass
    base := item.base.map rename.handle
    fast := item.fast.map rename.handle }

def held (held : Held) : Held := { held with item := rename.item held.item }

def store (store : Store) : Store := ⟨store.cells.map (Option.map rename.held)⟩

def pipeline (pipeline : Pipeline) : Pipeline :=
  { pipeline with
    baseParent := pipeline.baseParent.map rename.handle
    fastParent := pipeline.fastParent.map rename.handle }

def shared (shared : Shared) : Shared := ⟨rename.pipeline shared.pipeline, rename.store shared.store⟩

def drawPosition : DrawPosition → DrawPosition
  | .scanning => .scanning
  | .reading entry => .reading entry
  | .preparing => .preparing
  | .compiling parent => .compiling (parent.map rename.handle)
  | .failing error => .failing error
  | .enlisting handle => .enlisting (rename.handle handle)
  | .discarding handle entry => .discarding (rename.handle handle) entry
  | .counting handle entry => .counting (rename.handle handle) entry
  | .offering handle entry => .offering (rename.handle handle) entry
  | .reporting handle entry => .reporting (rename.handle handle) entry
  | .queueing handle entry => .queueing (rename.handle handle) entry
  | .finished result => .finished (result.map rename.handle)

def draw (draw : Draw) : Draw :=
  ⟨draw.state, rename.pass draw.pass, rename.drawPosition draw.position⟩

def optimizationPosition : OptimizationPosition → OptimizationPosition
  | .checking => .checking
  | .preparing => .preparing
  | .compiling parent => .compiling (parent.map rename.handle)
  | .failing error => .failing error
  | .installing handle => .installing (rename.handle handle)
  | .discarding handle => .discarding (rename.handle handle)
  | .countingDiscarded => .countingDiscarded
  | .countingInstalled handle => .countingInstalled (rename.handle handle)
  | .adopting handle => .adopting (rename.handle handle)
  | .offering handle => .offering (rename.handle handle)
  | .finished result => .finished result

def optimization (optimization : Optimization) : Optimization :=
  ⟨optimization.entry, rename.optimizationPosition optimization.position⟩

def call : Call → Call
  | .draw current => .draw (rename.draw current)
  | .optimize current => .optimize (rename.optimization current)

def event : Event → Event
  | .said message => .said message
  | .destroyed handle => .destroyed (rename.handle handle)
  | .reported entry => .reported entry
  | .queued entry => .queued entry

def notice : Notice → Notice
  | .said thread message => .said thread message
  | .destroyed handle => .destroyed (rename.handle handle)

/-- The compiler and the state cache know instances by their place in the store. -/
def engine (engine : Engine) : Engine :=
  { engine with
    pipelines := engine.pipelines.map rename.pipeline
    store := rename.store engine.store
    passes := rename.passes engine.passes }

def turn (turn : Turn) : Turn := ⟨rename.engine turn.engine, turn.notices.map rename.notice⟩

/-! ### Instances -/

variable (realized : Instance) (instances : Store) (id : InstanceId)

@[simp] theorem handle_item : (rename.item realized).handle = realized.handle.map rename.handle := by
  obtain ⟨_, _, base, fast⟩ := realized
  cases fast <;> rfl

@[simp] theorem handles_item :
    (rename.item realized).handles = realized.handles.map rename.handle := by
  obtain ⟨_, _, base, fast⟩ := realized
  cases base <;> cases fast <;> rfl

@[simp] theorem install_item (handle : PipelineHandle) :
    (rename.item realized).install (rename.handle handle) =
      (realized.install handle).map rename.item := by
  obtain ⟨_, _, base, fast⟩ := realized
  cases fast <;> rfl

@[simp] theorem held?_store :
    (rename.store instances).held? id = (instances.held? id).map rename.held := by
  simp only [Store.held?, store, List.getElem?_map]
  cases instances.cells[id]? <;> rfl

@[simp] theorem get?_store :
    (rename.store instances).get? id = (instances.get? id).map rename.item := by
  rw [Store.get?, Store.get?, held?_store]
  cases instances.held? id <;> rfl

theorem store_set (cell : Option Held) :
    rename.store ⟨instances.cells.set id cell⟩ =
      ⟨(rename.store instances).cells.set id (cell.map rename.held)⟩ := by
  simp only [store, List.map_set]

@[simp] theorem add_store :
    (rename.store instances).add (rename.item realized) =
      ((instances.add realized).1, rename.store (instances.add realized).2) := by
  simp [Store.add, store, held]

@[simp] theorem put_store : (rename.store instances).put id (rename.item realized) =
    rename.store (instances.put id realized) := by
  simp only [Store.put, held?_store]
  cases instances.held? id with
  | none => rfl
  | some held => exact (rename.store_set instances id (some { held with item := realized })).symm

@[simp] theorem hold_store :
    (rename.store instances).hold id = rename.store (instances.hold id) := by
  simp only [Store.hold, held?_store]
  cases instances.held? id with
  | none => rfl
  | some held =>
      exact (rename.store_set instances id (some { held with holders := held.holders + 1 })).symm

@[simp] theorem release_store : (rename.store instances).release id =
    ((instances.release id).1.map rename.handle, rename.store (instances.release id).2) := by
  simp only [Store.release, held?_store]
  cases instances.held? id with
  | none => rfl
  | some held =>
      simp only [Option.map_some, Renaming.held, handles_item]
      split
      · rw [store_set]
        rfl
      · rw [store_set]
        rfl

@[simp] theorem install_store (handle : PipelineHandle) :
    (rename.store instances).install id (rename.handle handle) =
      (instances.install id handle).map rename.store := by
  simp only [Store.install, get?_store]
  cases instances.get? id with
  | none => rfl
  | some realized =>
      simp only [Option.map_some, Option.bind_eq_bind, Option.bind_some, install_item]
      cases realized.install handle with
      | none => rfl
      | some installed => exact congrArg some (rename.put_store installed instances id)

/-! ### One pipeline -/

variable (common : Shared)

@[simp] theorem find?_shared (state : PipelineState) (format : RenderPassFormat) :
    (rename.shared common).find? state format = common.find? state format := by
  simp only [Shared.find?, Pipeline.find?, shared, pipeline, get?_store]
  congr 1
  funext entry
  cases common.store.get? entry <;> rfl

theorem offerParent_pipeline (pipeline : Pipeline) (mode : CompileMode) (handle : PipelineHandle) :
    (rename.pipeline pipeline).offerParent mode (rename.handle handle) =
      rename.pipeline (pipeline.offerParent mode handle) := by
  cases mode
  · simp only [Pipeline.offerParent, Renaming.pipeline]
    cases pipeline.baseParent <;> rfl
  · simp only [Pipeline.offerParent, Renaming.pipeline]
    cases pipeline.fastParent <;> rfl

theorem enlist_shared (state : PipelineState) (pass : RenderPass) (handle : PipelineHandle) :
    (rename.shared common).enlist state (rename.pass pass) (rename.handle handle) =
      ((common.enlist state pass handle).1, rename.shared (common.enlist state pass handle).2) := by
  have added := rename.add_store { state := state, pass := pass, base := some handle } common.store
  simp only [Shared.enlist, shared]
  exact congrArg (fun added => (added.1, Shared.mk
    { rename.pipeline common.pipeline with instances := common.pipeline.instances ++ [added.1] }
      added.2)) added

theorem draw_step (draw : Draw) : (rename.draw draw).step (rename.shared common) =
    (rename.draw (draw.step common).1, rename.shared (draw.step common).2.1,
      (draw.step common).2.2.map rename.event) := by
  obtain ⟨state, drawn, position⟩ := draw
  have find := rename.find?_shared common state drawn.format
  cases position with
  | scanning =>
      simp only [Draw.step, Renaming.draw, drawPosition, Renaming.pass, find]
      split <;> rfl
  | reading entry =>
      simp only [Draw.step, Renaming.draw, drawPosition, Renaming.shared, get?_store]
      cases common.store.get? entry with
      | none => rfl
      | some realized => simp [Draw.moveTo]
  | preparing =>
      have validate : (rename.shared common).pipeline.validate state drawn.format =
          common.pipeline.validate state drawn.format := rfl
      simp only [Draw.step, Renaming.draw, drawPosition, Renaming.pass, validate]
      split <;> rfl
  | enlisting handle =>
      have enlist := rename.enlist_shared common state drawn handle
      simp only [Draw.step, Renaming.draw, drawPosition]
      rw [show (rename.pass drawn).format = drawn.format from rfl, find, enlist]
      split <;> rfl
  | offering handle entry =>
      have offered := rename.offerParent_pipeline common.pipeline .fast handle
      simp only [Draw.step, Renaming.draw, drawPosition, Renaming.shared, offered]
      rfl
  | reporting handle entry =>
      have passed : (if common.pipeline.reports then [Event.reported entry] else []).map rename.event =
          if common.pipeline.reports then [.reported entry] else [] := by
        split <;> rfl
      simp only [Draw.step, passed]
      rfl
  | queueing handle entry =>
      have passed : (if common.pipeline.optimizes then [Event.queued entry] else []).map rename.event =
          if common.pipeline.optimizes then [.queued entry] else [] := by
        split <;> rfl
      simp only [Draw.step, passed]
      rfl
  | _ => rfl

theorem adoption_shared (entry : InstanceId) (realized : Instance) :
    Optimization.adoption entry (rename.item realized) (rename.shared common) =
      ((Optimization.adoption entry realized common).1,
        rename.shared (Optimization.adoption entry realized common).2.1,
        (Optimization.adoption entry realized common).2.2.map rename.event) := by
  have find := rename.find?_shared common realized.state realized.pass.format
  have based : (rename.item realized).base.isSome = realized.base.isSome := Option.isSome_map
  have hold := rename.hold_store common.store entry
  simp only [Optimization.adoption, based]
  split
  · rfl
  · rw [show (rename.item realized).state = realized.state from rfl,
      show (rename.item realized).pass.format = realized.pass.format from rfl, find]
    split
    · rfl
    · simp only [Shared.adopt, Renaming.shared, hold]
      rfl

theorem optimization_step (optimization : Optimization) :
    (rename.optimization optimization).step (rename.shared common) =
      (rename.optimization (optimization.step common).1, rename.shared (optimization.step common).2.1,
        (optimization.step common).2.2.map rename.event) := by
  obtain ⟨entry, position⟩ := optimization
  have get := rename.get?_store common.store entry
  cases present : common.store.get? entry with
  | none =>
      rw [present] at get
      simp only [Optimization.step, Renaming.optimization, Renaming.shared, get, Option.map_none, present]
      rfl
  | some realized =>
      rw [present, Option.map_some] at get
      simp only [Optimization.step, Renaming.optimization, Renaming.shared, get, present]
      cases position with
      | checking =>
          have optimized : (rename.item realized).fast.isSome = realized.fast.isSome := Option.isSome_map
          simp only [optimizationPosition, optimized]
          split <;> rfl
      | preparing =>
          have validate : (rename.pipeline common.pipeline).validate (rename.item realized).state
              (rename.item realized).pass.format =
                common.pipeline.validate realized.state realized.pass.format := rfl
          simp only [optimizationPosition, validate]
          split <;> rfl
      | installing handle =>
          have installs := rename.install_store common.store entry handle
          simp only [optimizationPosition, installs]
          cases common.store.install entry handle <;> rfl
      | adopting handle =>
          have adopts := rename.adoption_shared common entry realized
          simp only [Renaming.shared] at adopts
          simp only [optimizationPosition, adopts]
          split <;> rfl
      | offering handle =>
          have offered := rename.offerParent_pipeline common.pipeline .optimized handle
          simp only [optimizationPosition, offered]
          rfl
      | _ => rfl

theorem call_step (call : Call) : (rename.call call).step (rename.shared common) =
    (rename.call (call.step common).1, rename.shared (call.step common).2.1,
      (call.step common).2.2.map rename.event) := by
  cases call with
  | draw current =>
      have stepped := rename.draw_step common current
      simp only [Call.step, Renaming.call, stepped]
  | optimize current =>
      have stepped := rename.optimization_step common current
      simp only [Call.step, Renaming.call, stepped]

@[simp] theorem isFinished_call (call : Call) : (rename.call call).isFinished = call.isFinished := by
  cases call with
  | draw current =>
      obtain ⟨_, _, position⟩ := current
      cases position <;> rfl
  | optimize current =>
      obtain ⟨_, position⟩ := current
      cases position <;> rfl

theorem handle?_call (call : Call) : (rename.call call).handle? = call.handle?.map rename.handle := by
  cases call with
  | draw current =>
      obtain ⟨_, _, position⟩ := current
      cases position <;> rfl
  | optimize current => rfl

theorem hasInstalled_call (call : Call) : (rename.call call).hasInstalled = call.hasInstalled := by
  cases call with
  | draw current => rfl
  | optimize current =>
      obtain ⟨_, position⟩ := current
      cases position <;> rfl

theorem answer_call (call : Call) (result : Except CacheError PipelineHandle) :
    (rename.call call).answer (result.map rename.handle) = rename.call (call.answer result) := by
  cases call with
  | draw current =>
      obtain ⟨_, _, position⟩ := current
      cases position <;> cases result <;> rfl
  | optimize current =>
      obtain ⟨_, position⟩ := current
      cases position <;> cases result <;> rfl

theorem isSome_request?_call (call : Call) :
    ((rename.call call).request? (rename.shared common)).isSome = (call.request? common).isSome := by
  cases call with
  | draw current =>
      obtain ⟨_, _, position⟩ := current
      cases position <;> rfl
  | optimize current =>
      obtain ⟨entry, position⟩ := current
      have get := rename.get?_store common.store entry
      cases position with
      | compiling parent =>
          simp only [Renaming.call, Renaming.optimization, optimizationPosition, Renaming.shared,
            Call.request?, Optimization.request?, get]
          cases common.store.get? entry <;> rfl
      | _ => rfl

/-! ### The whole engine -/

variable (whole : Engine) (thread : Thread) (id : PipelineId)

theorem shared?_engine : (rename.engine whole).shared? id = (whole.shared? id).map rename.shared := by
  simp only [Engine.shared?, engine, List.getElem?_map]
  cases whole.pipelines[id]? <;> rfl

theorem hold_engine (entry : InstanceId) :
    (rename.engine whole).hold entry = rename.engine (whole.hold entry) := by
  simp only [Engine.hold, engine, hold_store]

theorem report_engine (job : Job) :
    (rename.engine whole).report job = rename.engine (whole.report job) := by
  have held := rename.hold_engine whole job.entry
  simp only [Engine.report, held]
  rw [show (rename.engine whole).cache = whole.cache from rfl]
  split
  · rfl
  · split <;> rfl

theorem offerJob_engine (job : Job) :
    (rename.engine whole).offerJob job = rename.engine (whole.offerJob job) := by
  have held := rename.hold_engine whole job.entry
  simp only [Engine.offerJob, held]
  rw [show (rename.engine whole).compiler = whole.compiler from rfl]
  split <;> rfl

theorem absorb_turn (turn : Turn) (event : Event) :
    Engine.absorb thread id (rename.turn turn) (rename.event event) =
      rename.turn (Engine.absorb thread id turn event) := by
  cases event with
  | said message => simp [Engine.absorb, Renaming.event, Turn.say, Renaming.turn, notice]
  | destroyed handle => simp [Engine.absorb, Renaming.event, Renaming.turn, notice]
  | reported entry =>
      have reports := rename.report_engine turn.engine ⟨id, entry⟩
      simp only [Engine.absorb, Renaming.event, Renaming.turn, reports]
  | queued entry =>
      have offers := rename.offerJob_engine turn.engine ⟨id, entry⟩
      simp only [Engine.absorb, Renaming.event, Renaming.turn, offers]

theorem foldl_absorb (events : List Event) (turn : Turn) :
    (events.map rename.event).foldl (Engine.absorb thread id) (rename.turn turn) =
      rename.turn (events.foldl (Engine.absorb thread id) turn) := by
  induction events generalizing turn with
  | nil => rfl
  | cons event events ih =>
      simp only [List.map_cons, List.foldl_cons]
      rw [absorb_turn, ih]

theorem stepCall_engine (call : Call) : (rename.engine whole).stepCall thread id (rename.call call) =
    (rename.call (whole.stepCall thread id call).1, rename.turn (whole.stepCall thread id call).2) := by
  simp only [Engine.stepCall, shared?_engine]
  cases whole.shared? id with
  | none => rfl
  | some common =>
      have stepped := rename.call_step common call
      simp only [Option.map_some, stepped]
      rw [← foldl_absorb]
      simp [Renaming.turn, Engine.unchanged, Renaming.engine, Renaming.shared, List.map_set]

theorem isSome_requestOf?_engine (call : Call) :
    ((rename.engine whole).requestOf? id (rename.call call)).isSome =
      (whole.requestOf? id call).isSome := by
  simp only [Engine.requestOf?, shared?_engine]
  cases whole.shared? id with
  | none => rfl
  | some common => exact rename.isSome_request?_call common call

theorem release_engine (entry : InstanceId) :
    (rename.engine whole).release entry = rename.turn (whole.release entry) := by
  have released := rename.release_store whole.store entry
  simp only [Engine.release, Engine.unchanged, Turn.release, Renaming.engine, released]
  simp [Renaming.turn, Renaming.engine, Function.comp_def, notice]

theorem find?_passes (made : RenderPasses) (format : RenderPassFormat) :
    (rename.passes made).find? format = (made.find? format).map rename.pass := by
  simp only [RenderPasses.find?, passes, List.find?_map]
  rfl

theorem obtain_passes (made : RenderPasses) (format : RenderPassFormat)
    (answer : Except CacheError UInt64) :
    (rename.passes made).obtain format (answer.map rename.number) =
      ((made.obtain format answer).1.map rename.pass, rename.passes (made.obtain format answer).2) := by
  simp only [RenderPasses.obtain, find?_passes]
  cases made.find? format with
  | some found => rfl
  | none =>
      cases answer with
      | error error => rfl
      | ok number => simp [Except.map, passes, Renaming.pass]

end Renaming

end PipelineCache

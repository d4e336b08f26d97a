import PipelineCache.Proofs.Session.Drawn
import PipelineCache.Proofs.Session.Files
import PipelineCache.Proofs.Session.Start

/-! A warm start. A first session remembers what is drawn with in a file that was missing before. A second
session that starts from this file compiles all of it as soon as the shaders are provided, before anybody
draws; so whatever was drawn in the first session is drawn in the second with an optimized instance,
without asking the device. -/

namespace PipelineCache

/-- Shaders that can be told apart by their keys. -/
structure Identified (objects : List Shader) : Prop where
  defined : ∀ shader ∈ objects, shader.key.isDefined = true
  distinct : ∀ first ∈ objects, ∀ second ∈ objects, first.key = second.key → first = second

namespace ShaderSet

variable {objects : List Shader} {first second set : ShaderSet}

theorem eq_of_keys_eq (identified : Identified objects) (left : first.From objects)
    (right : second.From objects) (same : first.keys = second.keys) : first = second := by
  refine ext_get fun stage => ?_
  have keys : first.keys.get stage.index = second.keys.get stage.index := by rw [same]
  rw [get_keys, get_keys] at keys
  cases one : first.get stage with
  | none =>
      cases other : second.get stage with
      | none => rfl
      | some shader =>
          have defined := identified.defined shader (right stage shader other)
          rw [one, other, Option.map_some, Option.getD_some] at keys
          rw [← keys] at defined
          cases defined
  | some shader =>
      have inside := left stage shader one
      cases other : second.get stage with
      | none =>
          have defined := identified.defined shader inside
          rw [one, other, Option.map_some, Option.getD_some] at keys
          rw [keys] at defined
          cases defined
      | some rival =>
          rw [one, other, Option.map_some, Option.map_some] at keys
          rw [identified.distinct shader inside rival (right stage rival other) keys]

theorem cleared_keys (identified : Identified objects) (filled : set.From objects) :
    set.keys.cleared = set.keys :=
  ShaderKeys.cleared_of_isClean <| isClean_keys fun stage shader present =>
    Or.inl (identified.defined shader (filled stage shader present))

/-- A shader that a key needs is one of the shaders of a set with its keys. -/
theorem exists_of_required {key : PipelineKey} (same : key.shaders = set.keys) :
    ∀ shader ∈ key.required, ∃ given stage, set.get stage = some given ∧ given.key = shader := by
  rw [PipelineKey.forall_required_iff]
  intro stage defined
  rw [PipelineKey.shaderKey_eq_get, same, get_keys] at defined ⊢
  cases present : set.get stage with
  | none =>
      rw [present] at defined
      cases defined
  | some shader => exact ⟨shader, stage, present, rfl⟩

theorem required_ne_nil {key : PipelineKey} {stage : Stage} {shader : Shader}
    (identified : Identified objects) (filled : set.From objects) (same : key.shaders = set.keys)
    (present : set.get stage = some shader) : key.required ≠ [] := by
  have defined := identified.defined shader (filled stage shader present)
  have named : key.shaderKey stage = shader.key := by
    rw [PipelineKey.shaderKey_eq_get, same, get_keys, present]
    rfl
  intro empty
  have needs := (PipelineKey.forall_required_iff key fun _ => False).mp fun shader member => by
    rw [empty] at member
    cases member
  exact needs stage (by rw [named]; exact defined)

end ShaderSet

/-- The key under which the instance of a draw is remembered. -/
def Drawing.key (drawing : Drawing) : PipelineKey :=
  ⟨drawing.shaders.keys, drawing.draw.state, drawing.draw.pass.format⟩

namespace Overview

variable {fails : Bool} {view next : Overview} {loaded : List PipelineKey} {objects : List Shader}
  {pipeline : Pipeline} {drawing : Drawing} {handle : PipelineHandle}

/-- All draws and all pipelines use these shaders. -/
def Uses (view : Overview) (objects : List Shader) : Prop :=
  view.provided ⊆ objects ∧ ∀ drawing ∈ view.drawings, drawing.shaders.From objects

theorem Uses.pipelines (uses : view.Uses objects) (orderly : view.Orderly loaded)
    (member : pipeline ∈ view.pipelines) : pipeline.shaders.From objects := by
  rcases orderly.rooted.pipelines pipeline member with ⟨drawing, among, same⟩ | ⟨filled, _⟩
  · rw [← same]
    exact uses.2 drawing among
  · exact fun stage shader present => uses.1 (filled stage shader present)

/-- If all known keys are canonical, then once all is at rest the key of a draw that has returned a handle
is known. -/
theorem Remembering.key_mem (canonical : ∀ key ∈ view.known, key.shaders.cleared = key.shaders)
    (orderly : view.Orderly loaded) (remembering : view.Remembering)
    (silent : ∀ drawing ∈ view.drawings, drawing.draw.position.unreported? = none)
    (rests : view.reported = []) (member : drawing ∈ view.drawings)
    (finished : drawing.draw.position = .finished (some handle)) : drawing.key ∈ view.known := by
  obtain ⟨pipeline, there, keys, knows⟩ := orderly.founded.drawings drawing member
  rw [Draw.Founded, finished] at knows
  obtain ⟨entry, item, serving, _⟩ := knows
  obtain ⟨key, known, recalls, combination⟩ :=
    remembering.recalled silent rests there serving.member serving.present
  rw [canonical key known, or_self, keys] at recalls
  rw [serving.combination] at combination
  obtain ⟨state, format⟩ := Prod.mk.inj combination
  have same : drawing.key = key := by
    rw [Drawing.key, recalls, state, format]
  rwa [same]

theorem Checked.admitted (identified : Identified objects) (uses : view.Uses objects)
    (orderly : view.Orderly loaded) (checked : view.Checked) (member : drawing ∈ view.drawings)
    (finished : drawing.draw.position = .finished (some handle)) : Admitted objects drawing.key := by
  obtain ⟨pipeline, there, keys, knows⟩ := orderly.founded.drawings drawing member
  rw [Draw.Founded, finished] at knows
  obtain ⟨entry, item, serving, _⟩ := knows
  have permits := checked.listed _ pipeline there entry serving.member item serving.present
  rw [serving.combination] at permits
  intro other filled same
  have used := uses.pipelines orderly (List.mem_of_getElem? there)
  exact (Pipeline.permits_congr (ShaderSet.eq_of_keys_eq identified filled used (same.trans keys.symm))
    _).mpr permits

/-- Once the lookup is at rest, it has registered the shaders of every key that was provided for. -/
theorem Arrived.covers {set : ShaderSet} {key : PipelineKey} (identified : Identified objects)
    (arrived : view.Arrived) (rests : view.position.taken ++ view.entries = [])
    (inside : view.provided ⊆ objects) (filled : set.From view.provided)
    (same : key.shaders = set.keys) : view.lookup.Covers key := by
  intro shader needed
  obtain ⟨given, stage, present, rfl⟩ := ShaderSet.exists_of_required same shader needed
  have provided := filled stage given present
  refine (arrived given provided (identified.defined given (inside provided))).resolve_right ?_
  rw [rests]
  exact List.not_mem_nil

theorem Steps.known_subset (steps : Steps fails view next) : view.known ⊆ next.known := by
  induction steps with
  | refl => exact List.Subset.refl _
  | tail _ stepped ih => exact List.Subset.trans ih stepped.known_subset

theorem Silent.before (silent : next.Silent objects) (steps : Steps fails view next) :
    view.Silent objects := by
  induction steps with
  | refl => exact silent
  | tail _ stepped ih => exact ih (silent.earlier stepped)

end Overview

namespace Session

variable {objects : List Shader} {setup first second : Setup} {disk : Disk} {path : String}
  {rested last looked compiled session : Session} {drawing : Drawing} {later : List Move}

/-- A session whose cache keeps a file that was missing before. All of its draws return a handle, and then
the writer comes to rest; what happens until the session ends does not matter. -/
structure RecordingRun (objects : List Shader) (setup : Setup) (disk : Disk) (path : String)
    (rested last : Session) : Prop where
  cached : ∃ config, setup.cache = some config ∧ config.filePath = some path ∧
    config.enableWriter = true
  attached : setup.attach = true
  works : disk.Works
  missing : disk.node = .missing
  ran : ∃ moves, (start setup disk).run? moves = some rested
  provided : rested.provided ⊆ objects
  drawn : ∀ drawing ∈ rested.drawings,
    drawing.shaders.From objects ∧ ∃ stage shader, drawing.shaders.get stage = some shader
  returned : ∀ drawing ∈ rested.drawings, ∃ handle, drawing.draw.position = .finished (some handle)
  idle : ∃ cache, rested.engine.cache = some cache ∧ cache.writerQueue.isIdle = true
  ended : ∃ moves, rested.run? moves = some last

/-- A session in which shaders are provided and nobody draws, until first the lookup and then the compiler
have nothing left to do. The device never fails. -/
structure PrewarmingRun (objects : List Shader) (setup : Setup) (disk : Disk) (path : String)
    (looked compiled : Session) : Prop where
  cached : ∃ config, setup.cache = some config ∧ config.filePath = some path ∧
    config.enablePrewarm = true
  looks : ∃ moves, (∀ move ∈ moves, move.fails = false) ∧
    (start setup disk).run? moves = some looked
  idle : ∃ cache, looked.engine.cache = some cache ∧ cache.lookupQueue.isIdle = true
  compiles : ∃ moves, (∀ move ∈ moves, move.fails = false) ∧ looked.run? moves = some compiled
  done : ∃ pool, compiled.engine.compiler = .pool pool ∧ pool.pending = 0
  provided : compiled.provided ⊆ objects
  silent : compiled.drawings = []

theorem overview_start {config : CacheConfig} (chosen : setup.cache = some config) (disk : Disk) :
    (start setup disk).overview.remembers = config.enableWriter ∧
      (start setup disk).overview.prewarms = config.enablePrewarm ∧
        (start setup disk).overview.manager.reports = setup.attach := by
  rw [overview_of_cache (cache_of_chosen chosen disk)]
  refine ⟨Bool.and_true _, Bool.and_true _, ?_⟩
  rw [view, start, Engine.start, chosen]
  exact Bool.and_true _

theorem known_overview {cache : Cache} (found : session.engine.cache = some cache) :
    session.overview.known = cache.writer.known := by
  rw [overview_of_cache found]
  rfl

/-- The first session leaves a file behind that holds the key of each draw. -/
theorem RecordingRun.recorded (identified : Identified objects)
    (recording : RecordingRun objects setup disk path rested last) :
    ∃ writer : Writer, writer.Backed last.engine.disk ∧
      ∀ drawing ∈ rested.drawings, drawing.key ∈ writer.known ∧
        Overview.Admitted objects drawing.key := by
  obtain ⟨config, chosen, named, writes⟩ := recording.cached
  obtain ⟨moves, ran⟩ := recording.ran
  obtain ⟨more, ended⟩ := recording.ended
  obtain ⟨cache, found, idle⟩ := recording.idle
  obtain ⟨initial, opened, backed, empty⟩ :=
    backed_start chosen named writes recording.works recording.missing
  have fresh := fresh_start setup disk
  have running := running_start setup disk
  obtain ⟨remembers, _, reports⟩ := overview_start chosen disk
  have steps := steps_run_true running ran
  have orderly := fresh.orderly.steps steps
  rw [known_overview opened, empty] at orderly
  have checked := fresh.checked.steps fresh.orderly steps
  have remembering := (fresh.remembering (remembers.trans writes)
    (reports.trans recording.attached)).steps fresh.orderly steps
  obtain ⟨alive, attended⟩ := kept_run (fun _ _ _ => attended_moved) running
    (attended_start setup disk) ran
  obtain ⟨_, whole⟩ := kept_run (fun _ _ _ => backed_moved) running ⟨initial, opened, backed⟩ ran
  obtain ⟨_, kept, present, remains⟩ := kept_run (fun _ _ _ => backed_moved) alive whole ended
  have rest := steps_run_true alive ended
  have uses : rested.overview.Uses objects :=
    ⟨recording.provided, fun drawing member => (recording.drawn drawing member).1⟩
  refine ⟨kept.writer, remains, fun drawing member => ?_⟩
  obtain ⟨handle, finished⟩ := recording.returned drawing member
  have silent (other : Drawing) (among : other ∈ rested.drawings) :
      other.draw.position.unreported? = none := by
    obtain ⟨_, ended⟩ := recording.returned other among
    rw [ended]
    rfl
  have canonical := orderly.rooted.canonical (List.forall_mem_nil _) fun other among =>
    ShaderSet.cleared_keys identified (uses.2 other among)
  have known := remembering.key_mem canonical orderly silent (reported_eq_nil attended found idle)
    member finished
  rw [← known_overview present]
  exact ⟨rest.known_subset known, checked.admitted identified uses orderly member finished⟩

/-- The second session makes every key warm that it has loaded and whose shaders were provided. -/
theorem PrewarmingRun.warm {writer : Writer} {key : PipelineKey} {set : ShaderSet} {stage : Stage}
    {shader : Shader} (identified : Identified objects)
    (prewarming : PrewarmingRun objects setup disk path looked compiled)
    (backed : writer.Backed disk) (member : key ∈ writer.known)
    (admitted : Overview.Admitted objects key) (same : key.shaders = set.keys)
    (filled : set.From looked.provided) (present : set.get stage = some shader) :
    ∃ loaded, Running compiled.engine ∧ compiled.overview.Orderly loaded ∧
      compiled.overview.Warm key := by
  obtain ⟨config, chosen, named, prewarms⟩ := prewarming.cached
  obtain ⟨arrivals, calm, ran⟩ := prewarming.looks
  obtain ⟨jobs, quiet, worked⟩ := prewarming.compiles
  obtain ⟨cache, found, idle⟩ := prewarming.idle
  obtain ⟨pool, pooled, done⟩ := prewarming.done
  obtain ⟨initial, opened, _, known⟩ := known_start backed chosen named
  have fresh := fresh_start setup disk
  have running := running_start setup disk
  obtain ⟨_, wanted, _⟩ := overview_start chosen disk
  obtain ⟨alive, attended⟩ := kept_run (fun _ _ _ => attended_moved) running
    (attended_start setup disk) ran
  obtain ⟨still, resting⟩ := kept_run (fun _ _ _ => attended_moved) alive attended worked
  have steps := steps_run_false running calm ran
  have rest := steps_run_false alive quiet worked
  have silent : compiled.overview.Silent objects := ⟨prewarming.silent, prewarming.provided⟩
  have before := silent.before rest
  have inside : set.From objects := fun stage shader there => before.2 (filled stage shader there)
  have canonical : key.shaders.cleared = key.shaders := by
    rw [same, ShaderSet.cleared_keys identified inside]
  have needs := ShaderSet.required_ne_nil identified inside same present
  have listed : key ∈ (start setup disk).overview.known := by
    rw [known_overview opened, known]
    exact member
  have heading := (fresh.heading listed needs).steps canonical admitted steps before
  obtain ⟨_, arrived⟩ := fresh.arrived.steps (wanted.trans prewarms) steps
  obtain ⟨submitted, handled⟩ := lookup_rests attended found idle
  have covers := arrived.covers identified handled before.2 filled same
  have warming := (heading.warming covers submitted).steps canonical admitted heading rest silent
  exact ⟨_, still, heading.orderly.steps rest, warming.warm (tasks_eq_nil resting pooled done)⟩

/-- A combination is drawn with an optimized instance that stands in the list of its pipeline already: by
a draw on its own, which changes nothing, and by all draws that have begun. -/
structure Warm (session : Session) (shaders : ShaderSet) (state : PipelineState)
    (format : RenderPassFormat) (id : PipelineId) (entry : InstanceId) (handle : PipelineHandle) :
    Prop where
  obtained : session.engine.obtainPipeline .caller shaders = (id, session.engine.unchanged)
  optimized : ∃ pipeline item, session.engine.pipelines[id]? = some pipeline ∧
    Shared.Optimized ⟨pipeline, session.engine.store⟩ state format handle entry item
  alone : ∀ {n : Type → Type} [Monad n] [LawfulMonad n] (around : Surroundings (StateT Engine n))
    (pass : RenderPass), pass.format = format →
      (around.draw id state pass).run session.engine = pure (some handle, session.engine)
  among : ∀ drawing ∈ session.drawings, drawing.shaders = shaders → drawing.draw.state = state →
    drawing.draw.pass.format = format →
      drawing.pipeline = id ∧ session.engine.requestOf? id (.draw drawing.draw) = none ∧
        ∀ result, drawing.draw.position = .finished result → result = some handle

theorem warm_of_supplied {key : PipelineKey} {shaders : ShaderSet} {loaded : List PipelineKey}
    {id : PipelineId} {entry : InstanceId} {handle : PipelineHandle}
    (orderly : session.overview.Orderly loaded)
    (supplied : session.overview.Supplied key id entry handle) (same : shaders.keys = key.shaders) :
    session.Warm shaders key.state key.format id entry handle := by
  have leads := supplied.serves.lookup_eq orderly.tabled same
  obtain ⟨pipeline, there, keys, supplies⟩ := supplied.serves
  have present : session.engine.pipelines[id]? = some pipeline := there
  refine ⟨?_, ?_, ?_, ?_⟩
  · have listed : session.engine.manager.table.lookup shaders.keys = some id := leads
    simp only [Engine.obtainPipeline, listed]
  · obtain ⟨item, serving⟩ := Shared.serving_of_find? supplies.found
    obtain ⟨other, also, fast⟩ := supplies.fast
    obtain rfl : item = other := Option.some.inj (serving.present.symm.trans also)
    exact ⟨pipeline, item, present, serving, fast⟩
  · intro n _ _ around pass fits
    rw [← fits] at supplies
    exact around.run_draw present supplies
  · intro drawing member drew state format
    obtain ⟨acts, finds⟩ := supplied.draws drawing member ⟨drew ▸ same, state, format⟩
    refine ⟨acts, ?_, fun result finished => ?_⟩
    · rw [Engine.requestOf?, Engine.shared?_of_getElem? present, Option.bind_some]
      exact Draw.request?_of_finds finds _
    · rw [finished] at finds
      exact finds

/-- Whatever was drawn in a session whose cache kept its file is drawn in a later session with an optimized
instance, if the same shaders were provided and all work in the background was done before. -/
theorem warm_start (identified : Identified objects)
    (recording : RecordingRun objects first disk path rested last)
    (prewarming : PrewarmingRun objects second last.engine.disk path looked compiled)
    (provided : ∀ drawing ∈ rested.drawings, drawing.shaders.From looked.provided)
    (ran : compiled.run? later = some session) :
    ∀ drawing ∈ rested.drawings, ∃ id entry handle,
      session.Warm drawing.shaders drawing.draw.state drawing.draw.pass.format id entry handle := by
  intro drawing member
  obtain ⟨writer, backed, recorded⟩ := recording.recorded identified
  obtain ⟨known, admitted⟩ := recorded drawing member
  obtain ⟨_, stage, shader, present⟩ := recording.drawn drawing member
  obtain ⟨loaded, running, orderly, id, entry, handle, serves⟩ :=
    prewarming.warm identified backed known admitted rfl (provided drawing member) present
  have supplied : compiled.overview.Supplied drawing.key id entry handle := by
    refine ⟨serves, fun other among => ?_⟩
    have none : other ∈ compiled.drawings := among
    rw [prewarming.silent] at none
    cases none
  have steps := steps_run_true running ran
  obtain ⟨still, kept⟩ := supplied.steps orderly steps
  exact ⟨id, entry, handle, warm_of_supplied still kept rfl⟩

/-! A single shader that is drawn with once. The second session has one worker, which compiles for it. -/

def soleShader : Shader := ⟨.defined .vertex (Vector.replicate 32 0), [], {}⟩

def soleSet : ShaderSet := { vertex := some soleShader }

def soleKey : PipelineKey := ⟨soleSet.keys, {}, {}⟩

def recordingSetup : Setup := { cache := some { filePath := some "cache" } }

def drawOnce : List Move :=
  .draw soleSet {} ⟨1, {}⟩ :: List.replicate 2 (.step 0) ++
    .answer 0 (.ok ⟨5, by decide⟩) :: List.replicate 5 (.step 0) ++ List.replicate 4 .write

def drawnOnce : Session :=
  ((start recordingSetup {}).run? drawOnce).getD (start recordingSetup {})

def prewarmingSetup : Setup :=
  { compiler := .background 1, cache := some { filePath := some "cache" } }

def lookOnce : List Move := .provide soleShader :: List.replicate 8 (.look (.ok 7))

def workOnce : List Move :=
  List.replicate 4 (.work 0) ++ .answerWorker 0 (.ok ⟨6, by decide⟩) :: List.replicate 8 (.work 0)

theorem identified_sole : Identified [soleShader] where
  defined := by decide
  distinct first member second among _ := by
    rw [List.mem_singleton.mp member, List.mem_singleton.mp among]

theorem from_sole : soleSet.From [soleShader] := by
  intro stage shader present
  cases stage with
  | vertex => exact List.mem_singleton.mpr (Option.some.inj present).symm
  | _ => cases present

theorem drawings_drawnOnce : drawnOnce.drawings =
    [⟨soleSet, 0, ⟨{}, ⟨1, {}⟩, .finished (some ⟨5, by decide⟩)⟩⟩] := by
  decide +kernel

theorem run_drawOnce : (start recordingSetup {}).run? drawOnce = some drawnOnce := by
  have possible : ((start recordingSetup {}).run? drawOnce).isSome = true := by decide +kernel
  obtain ⟨session, ran⟩ := Option.isSome_iff_exists.mp possible
  rw [drawnOnce, ran, Option.getD_some]

theorem recordingRun_sole :
    RecordingRun [soleShader] recordingSetup {} "cache" drawnOnce drawnOnce where
  cached := ⟨_, rfl, rfl, rfl⟩
  attached := rfl
  works := ⟨rfl, rfl, rfl, rfl⟩
  missing := rfl
  ran := ⟨drawOnce, run_drawOnce⟩
  provided := by decide +kernel
  drawn := by
    rw [drawings_drawnOnce]
    intro drawing member
    rw [List.mem_singleton.mp member]
    exact ⟨from_sole, .vertex, soleShader, rfl⟩
  returned := by
    rw [drawings_drawnOnce]
    intro drawing member
    rw [List.mem_singleton.mp member]
    exact ⟨_, rfl⟩
  idle := by
    have idle : drawnOnce.engine.cache.any (fun cache => cache.writerQueue.isIdle) = true := by
      decide +kernel
    exact (Option.any_eq_true _ _).mp idle
  ended := ⟨[], rfl⟩

/-- The file holds the key of the draw. What stands in the file is not computed here. -/
theorem load_drawnOnce : drawnOnce.engine.disk.load "cache" =
    ⟨.ofKeys [soleKey], (drawnOnce.engine.disk.load "cache").messages, drawnOnce.engine.disk⟩ := by
  have chosen : recordingSetup.cache = some { filePath := some "cache" } := rfl
  obtain ⟨initial, opened, backed, _⟩ :=
    backed_start chosen rfl rfl recordingRun_sole.works recordingRun_sole.missing
  obtain ⟨_, cache, found, holds⟩ := kept_run (fun _ _ _ => backed_moved)
    (running_start recordingSetup {}) ⟨initial, opened, backed⟩ run_drawOnce
  have known : (drawnOnce.engine.cache.map fun cache => cache.writer.known) = some [soleKey] := by
    decide +kernel
  rw [found, Option.map_some, Option.some.injEq] at known
  obtain ⟨value, disk⟩ := Disk.load_whole holds.calm holds.node "cache"
  rw [known] at value
  generalize drawnOnce.engine.disk.load "cache" = loaded at value disk ⊢
  rw [← value, ← disk]

theorem exists_prewarmingRun : ∃ looked compiled,
    PrewarmingRun [soleShader] prewarmingSetup drawnOnce.engine.disk "cache" looked compiled ∧
      looked.provided = [soleShader] := by
  have possible : (((start prewarmingSetup drawnOnce.engine.disk).run? lookOnce).any fun looked =>
      decide (looked.provided = [soleShader]) &&
        (looked.engine.cache.any fun cache => cache.lookupQueue.isIdle) &&
        (looked.run? workOnce).any fun compiled =>
          decide (compiled.engine.compiler = .pool (.ofSize 1)) &&
            decide (compiled.provided = [soleShader]) && decide (compiled.drawings = [])) = true := by
    simp only [start, Engine.start, prewarmingSetup, Cache.start]
    rw [load_drawnOnce]
    decide +kernel
  simp only [Option.any_eq_true, Bool.and_eq_true, decide_eq_true_eq] at possible
  obtain ⟨looked, looks, ⟨given, idle⟩, compiled, compiles, ⟨pooled, provided⟩, silent⟩ :=
    possible
  exact ⟨looked, compiled,
    { cached := ⟨_, rfl, rfl, rfl⟩
      looks := ⟨lookOnce, by decide, looks⟩
      idle := idle
      compiles := ⟨workOnce, by decide, compiles⟩
      done := ⟨_, pooled, rfl⟩
      provided := by rw [provided]; exact List.Subset.refl _
      silent := silent }, given⟩

theorem warm_start_sole : ∃ looked compiled,
    RecordingRun [soleShader] recordingSetup {} "cache" drawnOnce drawnOnce ∧
      PrewarmingRun [soleShader] prewarmingSetup drawnOnce.engine.disk "cache" looked compiled ∧
        drawnOnce.drawings.map Drawing.key = [soleKey] ∧
          ∃ id entry handle, compiled.Warm soleSet {} {} id entry handle := by
  obtain ⟨looked, compiled, prewarming, given⟩ := exists_prewarmingRun
  have provided : ∀ drawing ∈ drawnOnce.drawings, drawing.shaders.From looked.provided := by
    rw [drawings_drawnOnce, given]
    intro drawing member
    rw [List.mem_singleton.mp member]
    exact from_sole
  have still : compiled.run? [] = some compiled := rfl
  have warm := warm_start identified_sole recordingRun_sole prewarming provided still
  rw [drawings_drawnOnce] at warm ⊢
  exact ⟨looked, compiled, recordingRun_sole, prewarming, rfl, warm _ (List.mem_singleton_self _)⟩

end Session

end PipelineCache

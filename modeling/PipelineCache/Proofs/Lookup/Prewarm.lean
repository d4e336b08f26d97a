import PipelineCache.Engine.Start
import PipelineCache.Engine.Worker
import PipelineCache.Proofs.Lookup.Readiness
import PipelineCache.Proofs.Run

/-! Which remembered keys the lookup submits to the compiler. Entries come to its queue at any time,
and meanwhile anything else in the engine may change; the lookup takes them in their order. Once it has
come to rest, it has submitted exactly the keys that the entries made ready. -/

namespace PipelineCache

structure LookupSide where
  lookup : Lookup
  position : LookupPosition
  queued : List LookupEntry
  /-- Entries are taken. -/
  accepts : Bool
  deriving DecidableEq

namespace LookupPosition

/-- The keys that are ready and not yet submitted. -/
def pending : LookupPosition → List PipelineKey
  | .building ready => ready.map ReadyKey.key
  | .passing key _ ready => key :: ready.map ReadyKey.key
  | .submitting key _ _ ready => key :: ready.map ReadyKey.key
  | .counting ready => ready.map ReadyKey.key
  | _ => []

/-- The entry that was taken and not yet handled. -/
def taken : LookupPosition → List LookupEntry
  | .handling entry => [entry]
  | _ => []

/-- The key that the next step submits to the compiler. -/
def submission? : LookupPosition → Option PipelineKey
  | .submitting key _ _ _ => some key
  | _ => none

/-- The render pass that was found for a key has the format of the key. -/
def Fits : LookupPosition → Prop
  | .submitting key _ pass _ => pass.format = key.format
  | _ => True

/-- How many steps the lookup has to take before it comes for the next entry. -/
def rest : LookupPosition → Nat
  | .building ready => 4 * ready.length + 1
  | .counting ready => 4 * ready.length + 2
  | .submitting _ _ _ ready => 4 * ready.length + 3
  | .passing _ _ ready => 4 * ready.length + 4
  | _ => 0

end LookupPosition

def LookupResponse.next : LookupResponse → LookupPosition
  | .registered ready => .building ready
  | _ => .waiting

theorem LookupResponse.pending_next (response : LookupResponse) :
    response.next.pending = response.ready.map ReadyKey.key := by
  cases response <;> rfl

theorem RenderPasses.format_of_find? {passes : RenderPasses} {format : RenderPassFormat}
    {pass : RenderPass} (found : passes.find? format = some pass) : pass.format = format := by
  simpa using List.find?_some found

namespace Engine

def lookupSide? (engine : Engine) : Option LookupSide :=
  engine.cache.map fun cache =>
    ⟨cache.lookup, cache.lookupPosition, cache.lookupQueue.items, cache.acceptsShaders⟩

/-- An entry comes to the lookup: a shader from a caller, a key from the writer. -/
def arrive (engine : Engine) : LookupEntry → Engine
  | .shader shader => engine.provide shader
  | .key key => engine.updateCache fun cache =>
      { cache with lookupQueue := cache.lookupQueue.push (.key key) }

/-- The lookup takes its next step. A render pass that it asks for is made under the given handle. -/
def turnLookup (engine : Engine) (handle : UInt64) : Engine :=
  if engine.wantedFormat?.isSome then (engine.answerLookup (.ok handle)).engine
  else engine.stepLookup.engine

variable {engine : Engine} {lookup : Lookup} {position : LookupPosition}
  {queued : List LookupEntry} {accepts : Bool}

theorem lookupSide?_eq_some_iff : engine.lookupSide? = some ⟨lookup, position, queued, accepts⟩ ↔
    ∃ cache, engine.cache = some cache ∧ cache.lookup = lookup ∧ cache.lookupPosition = position ∧
      cache.lookupQueue.items = queued ∧ cache.acceptsShaders = accepts := by
  simp [lookupSide?, Option.map_eq_some_iff]

theorem lookupSide?_arrive (present : engine.lookupSide? = some ⟨lookup, position, queued, true⟩)
    (entry : LookupEntry) :
    (engine.arrive entry).lookupSide? = some ⟨lookup, position, queued ++ [entry], true⟩ := by
  obtain ⟨cache, found, rfl, rfl, rfl, accepts⟩ := lookupSide?_eq_some_iff.mp present
  cases entry with
  | shader shader =>
      simp only [arrive, provide, updateCache, lookupSide?, found, Option.map_some, Cache.provide,
        accepts, if_true]
      exact congrArg (fun accepts => some (LookupSide.mk _ _ _ accepts)) accepts
  | key key =>
      simp only [arrive, updateCache, lookupSide?, found, Option.map_some]
      exact congrArg (fun accepts => some (LookupSide.mk _ _ _ accepts)) accepts

theorem cache_obtainPipeline (engine : Engine) (thread : Thread) (shaders : ShaderSet) :
    (engine.obtainPipeline thread shaders).2.engine.cache = engine.cache := by
  unfold obtainPipeline
  split <;> rfl

theorem cache_submitRemembered (engine : Engine) (key : PipelineKey) (pipeline : PipelineId)
    (pass : RenderPass) : (engine.submitRemembered key pipeline pass).engine.cache = engine.cache := by
  unfold submitRemembered offerJob
  simp only
  split <;> rfl

theorem lookupSide?_of_cache {other : Engine} (same : other.cache = engine.cache) :
    other.lookupSide? = engine.lookupSide? := by
  rw [lookupSide?, same, lookupSide?]

theorem lookupSide?_countInCache (engine : Engine) (change : CacheStats → CacheStats) :
    (engine.countInCache change).lookupSide? = engine.lookupSide? := by
  simp only [lookupSide?, countInCache, updateCache, Option.map_map]
  rfl

theorem lookupSide?_moveLookup
    (present : engine.lookupSide? = some ⟨lookup, position, queued, accepts⟩)
    (next : LookupPosition) :
    (engine.moveLookup next).lookupSide? = some ⟨lookup, next, queued, accepts⟩ := by
  obtain ⟨cache, found, rfl, rfl, rfl, rfl⟩ := lookupSide?_eq_some_iff.mp present
  simp only [lookupSide?, moveLookup, updateCache, found, Option.map_some]
  rfl

/-- One step of the lookup, seen from its own side. -/
inductive Advances (lookup : Lookup) :
    LookupPosition → List LookupEntry → Lookup → LookupPosition → List LookupEntry → Prop
  | rests : Advances lookup .waiting [] lookup .waiting []
  | takes (entry : LookupEntry) (queued : List LookupEntry) :
      Advances lookup .waiting (entry :: queued) lookup (.handling entry) queued
  | handles (entry : LookupEntry) (queued : List LookupEntry) :
      Advances lookup (.handling entry) queued (lookup.handle entry).1
        (lookup.handle entry).2.next queued
  | returns (queued : List LookupEntry) : Advances lookup (.building []) queued lookup .waiting queued
  | builds (ready : ReadyKey) (others : List ReadyKey) (pipeline : PipelineId)
      (queued : List LookupEntry) :
      Advances lookup (.building (ready :: others)) queued lookup
        (.passing ready.key pipeline others) queued
  | passes (key : PipelineKey) (pipeline : PipelineId) (pass : RenderPass) (ready : List ReadyKey)
      (queued : List LookupEntry) (fits : pass.format = key.format) :
      Advances lookup (.passing key pipeline ready) queued lookup
        (.submitting key pipeline pass ready) queued
  | submits (key : PipelineKey) (pipeline : PipelineId) (pass : RenderPass) (ready : List ReadyKey)
      (queued : List LookupEntry) :
      Advances lookup (.submitting key pipeline pass ready) queued lookup (.counting ready) queued
  | counts (ready : List ReadyKey) (queued : List LookupEntry) :
      Advances lookup (.counting ready) queued lookup (.building ready) queued

theorem turnLookup_eq_step (unasked : engine.wantedFormat? = none) (handle : UInt64) :
    engine.turnLookup handle = engine.stepLookup.engine := by
  simp [turnLookup, unasked]

theorem stopped_of_accepts {cache : Cache} (accepts : cache.acceptsShaders = true) :
    cache.stopped = false := by
  simp only [Cache.acceptsShaders, Bool.and_eq_true, Bool.not_eq_true'] at accepts
  exact accepts.2

theorem cache_turnLookup_nil {cache : Cache} (found : engine.cache = some cache)
    (waits : cache.lookupPosition = .waiting) (accepts : cache.acceptsShaders = true)
    (items : cache.lookupQueue.items = []) (handle : UInt64) :
    (engine.turnLookup handle).cache =
      some { cache with lookupQueue := { items := [], busy := false }
                        lookupPosition := .waiting } := by
  rw [turnLookup_eq_step (by simp [wantedFormat?, found, waits])]
  simp [stepLookup, found, waits, WorkQueue.pop, stopped_of_accepts accepts, items]

theorem cache_turnLookup_cons {cache : Cache} {entry : LookupEntry} (found : engine.cache = some cache)
    (waits : cache.lookupPosition = .waiting) (accepts : cache.acceptsShaders = true)
    (items : cache.lookupQueue.items = entry :: queued) (handle : UInt64) :
    (engine.turnLookup handle).cache =
      some { cache with lookupQueue := { items := queued, busy := true }
                        lookupPosition := .handling entry } := by
  rw [turnLookup_eq_step (by simp [wantedFormat?, found, waits])]
  simp [stepLookup, found, waits, WorkQueue.pop, stopped_of_accepts accepts, items]

theorem advances_waiting (present : engine.lookupSide? = some ⟨lookup, .waiting, queued, true⟩)
    (handle : UInt64) :
    ∃ next rest, (engine.turnLookup handle).lookupSide? = some ⟨lookup, next, rest, true⟩ ∧
      Advances lookup .waiting queued lookup next rest := by
  obtain ⟨cache, found, rfl, waits, rfl, accepts⟩ := lookupSide?_eq_some_iff.mp present
  cases items : cache.lookupQueue.items with
  | nil =>
      have turned := cache_turnLookup_nil found waits accepts items handle
      exact ⟨_, _, lookupSide?_eq_some_iff.mpr ⟨_, turned, rfl, rfl, rfl, accepts⟩, .rests⟩
  | cons entry queued =>
      have turned := cache_turnLookup_cons found waits accepts items handle
      exact ⟨_, _, lookupSide?_eq_some_iff.mpr ⟨_, turned, rfl, rfl, rfl, accepts⟩, .takes ..⟩

theorem advances_handling {entry : LookupEntry}
    (present : engine.lookupSide? = some ⟨lookup, .handling entry, queued, true⟩)
    (handle : UInt64) :
    (engine.turnLookup handle).lookupSide? =
      some ⟨(lookup.handle entry).1, (lookup.handle entry).2.next, queued, true⟩ := by
  obtain ⟨cache, found, rfl, handling, rfl, accepts⟩ := lookupSide?_eq_some_iff.mp present
  rw [turnLookup_eq_step (by simp [wantedFormat?, found, handling])]
  simp only [stepLookup, found, handling, handleEntry]
  cases response : (cache.lookup.handle entry).2 <;>
    exact lookupSide?_eq_some_iff.mpr ⟨_, rfl, rfl, rfl, rfl, accepts⟩

theorem advances_passing {key : PipelineKey} {pipeline : PipelineId} {ready : List ReadyKey}
    (present : engine.lookupSide? = some ⟨lookup, .passing key pipeline ready, queued, true⟩)
    (handle : UInt64) :
    ∃ pass, pass.format = key.format ∧ (engine.turnLookup handle).lookupSide? =
      some ⟨lookup, .submitting key pipeline pass ready, queued, true⟩ := by
  obtain ⟨cache, found, rfl, passing, rfl, accepts⟩ := lookupSide?_eq_some_iff.mp present
  -- The render pass of the format was made before, or the lookup asks for it now.
  cases made : engine.passes.find? key.format with
  | none =>
      have asks : engine.wantedFormat? = some key.format := by
        simp [wantedFormat?, found, passing, made]
      have answered : engine.turnLookup handle = (engine.answerLookup (.ok handle)).engine := by
        simp [turnLookup, asks]
      refine ⟨⟨handle, key.format⟩, rfl, ?_⟩
      rw [answered]
      simp only [answerLookup, found, passing, RenderPasses.obtain, made]
      exact lookupSide?_moveLookup ((lookupSide?_of_cache found.symm).trans present) _
  | some pass =>
      rw [turnLookup_eq_step (by simp [wantedFormat?, found, passing, made])]
      refine ⟨pass, RenderPasses.format_of_find? made, ?_⟩
      simp only [stepLookup, found, passing, made]
      exact lookupSide?_moveLookup present _

theorem turnLookup_submitting {key : PipelineKey} {pipeline : PipelineId} {pass : RenderPass}
    {ready : List ReadyKey}
    (present : engine.lookupSide? =
      some ⟨lookup, .submitting key pipeline pass ready, queued, accepts⟩) (handle : UInt64) :
    engine.turnLookup handle =
      (engine.submitRemembered key pipeline pass).engine.moveLookup (.counting ready) := by
  obtain ⟨cache, found, _, submitting, _, _⟩ := lookupSide?_eq_some_iff.mp present
  rw [turnLookup_eq_step (by simp [wantedFormat?, found, submitting])]
  simp only [stepLookup, found, submitting]

/-- A lookup that has not ended advances, whatever the rest of the engine is like. -/
theorem advances_turnLookup (present : engine.lookupSide? = some ⟨lookup, position, queued, true⟩)
    (lasting : position ≠ .ended) (handle : UInt64) :
    ∃ changed next rest, (engine.turnLookup handle).lookupSide? = some ⟨changed, next, rest, true⟩ ∧
      Advances lookup position queued changed next rest := by
  obtain ⟨cache, found, rfl, stands, rfl, accepts⟩ := lookupSide?_eq_some_iff.mp present
  cases position with
  | waiting =>
      obtain ⟨next, rest, turned, advances⟩ := advances_waiting present handle
      exact ⟨_, next, rest, turned, advances⟩
  | handling entry => exact ⟨_, _, _, advances_handling present handle, .handles ..⟩
  | building ready =>
      rw [turnLookup_eq_step (by simp [wantedFormat?, found, stands])]
      simp only [stepLookup, found, stands]
      cases ready with
      | nil => exact ⟨_, _, _, lookupSide?_moveLookup present .waiting, .returns _⟩
      | cons ready others =>
          have same := lookupSide?_of_cache (cache_obtainPipeline engine .lookup ready.shaders)
          exact ⟨_, _, _, lookupSide?_moveLookup (same.trans present) _, .builds ..⟩
  | passing key pipeline ready =>
      obtain ⟨pass, fits, turned⟩ := advances_passing present handle
      exact ⟨_, _, _, turned, .passes _ _ _ _ _ fits⟩
  | submitting key pipeline pass ready =>
      rw [turnLookup_submitting present handle]
      have same := lookupSide?_of_cache (cache_submitRemembered engine key pipeline pass)
      exact ⟨_, _, _, lookupSide?_moveLookup (same.trans present) _, .submits ..⟩
  | counting ready =>
      rw [turnLookup_eq_step (by simp [wantedFormat?, found, stands])]
      simp only [stepLookup, found, stands]
      have same := lookupSide?_countInCache engine fun stats =>
        { stats with prewarmsSubmitted := stats.prewarmsSubmitted + 1 }
      exact ⟨_, _, _, lookupSide?_moveLookup (same.trans present) _, .counts ..⟩
  | ended => exact absurd rfl lasting

/-- A submission hands the compiler a job for a new instance with the state of the key. -/
theorem offered_submitRemembered (engine : Engine) (key : PipelineKey) (pipeline : PipelineId)
    (pass : RenderPass) (accepts : engine.compiler.accepts = true) :
    ∃ entry, (engine.submitRemembered key pipeline pass).engine.compiler =
        engine.compiler.offer ⟨pipeline, entry⟩ ∧
      (engine.submitRemembered key pipeline pass).engine.store.get? entry =
        some { state := key.state, pass := pass } := by
  refine ⟨(engine.store.add { state := key.state, pass := pass }).1, ?_, ?_⟩
  · simp only [submitRemembered, offerJob, addInstance, accepts, if_true]
    rfl
  · simp only [submitRemembered, offerJob, addInstance, accepts, if_true]
    -- The job holds the instance as well, so the lookup can give up its own reference.
    show (Store.release _ _).2.get? _ = _
    simp [Store.get?, Store.held?_release, Engine.hold, Turn.say, unchanged, Store.held?_hold,
      Store.held?_add]

theorem compiler_obtainPipeline (engine : Engine) (thread : Thread) (shaders : ShaderSet) :
    (engine.obtainPipeline thread shaders).2.engine.compiler = engine.compiler := by
  unfold obtainPipeline
  split <;> rfl

theorem compiler_answerLookup (engine : Engine) (result : Except CacheError UInt64) :
    (engine.answerLookup result).engine.compiler = engine.compiler := by
  unfold answerLookup
  split
  · rfl
  · split
    · rename_i key _ _ _
      obtain ⟨obtained, passes⟩ := engine.passes.obtain key.format result
      cases obtained <;> rfl
    · rfl

theorem compiler_stepLookup (present : engine.lookupSide? = some ⟨lookup, position, queued, accepts⟩)
    (quiet : position.submission? = none) :
    engine.stepLookup.engine.compiler = engine.compiler := by
  obtain ⟨cache, found, _, stands, _, _⟩ := lookupSide?_eq_some_iff.mp present
  simp only [stepLookup, found, stands]
  cases position with
  | building ready =>
      cases ready with
      | nil => rfl
      | cons ready others => exact compiler_obtainPipeline engine .lookup ready.shaders
  | passing key pipeline ready =>
      simp only
      split <;> rfl
  | submitting key pipeline pass ready => cases quiet
  | _ => rfl

theorem compiler_turnLookup (present : engine.lookupSide? = some ⟨lookup, position, queued, accepts⟩)
    (quiet : position.submission? = none) (handle : UInt64) :
    (engine.turnLookup handle).compiler = engine.compiler := by
  unfold turnLookup
  split
  · exact compiler_answerLookup engine _
  · exact compiler_stepLookup present quiet

/-- What one step does: the entries that it has handled make keys ready, and what it submits was
ready before. -/
theorem Advances.effect {changed : Lookup} {next : LookupPosition} {rest : List LookupEntry}
    (advances : Advances lookup position queued changed next rest) :
    ∃ handled, changed = lookup.handleAll handled ∧
      position.taken ++ queued = handled ++ (next.taken ++ rest) ∧
      position.submission?.toList ++ next.pending = position.pending ++ lookup.readied handled ∧
      next ≠ .ended := by
  cases advances with
  | handles entry queued =>
      refine ⟨[entry], rfl, ?_, ?_, ?_⟩
      · cases (lookup.handle entry).2 <;> rfl
      · rw [LookupResponse.pending_next, Lookup.readied, Lookup.readied, List.append_nil]
        rfl
      · cases (lookup.handle entry).2 <;> exact LookupPosition.noConfusion
  | _ =>
      refine ⟨[], rfl, rfl, ?_, LookupPosition.noConfusion⟩
      rw [Lookup.readied, List.append_nil]
      rfl

/-- A step that leads to a submission has found a render pass of the right format. -/
theorem Advances.fits {changed : Lookup} {next : LookupPosition} {rest : List LookupEntry}
    (advances : Advances lookup position queued changed next rest) : next.Fits := by
  cases advances with
  | passes key pipeline pass ready queued fits => exact fits
  | handles entry queued => cases (lookup.handle entry).2 <;> trivial
  | _ => trivial

/-- Unless it has nothing to do, a step brings the lookup nearer to the next entry, or lets it have
one entry less before it. -/
theorem Advances.nearer {changed : Lookup} {next : LookupPosition} {rest : List LookupEntry}
    (advances : Advances lookup position queued changed next rest) :
    (position = .waiting ∧ queued = []) ∨
      2 * rest.length + next.taken.length < 2 * queued.length + position.taken.length ∨
      (2 * rest.length + next.taken.length = 2 * queued.length + position.taken.length ∧
        next.rest < position.rest) := by
  cases advances with
  | rests => exact Or.inl ⟨rfl, rfl⟩
  | takes entry queued =>
      refine Or.inr (Or.inl ?_)
      simp only [LookupPosition.taken, List.length_cons, List.length_nil]
      omega
  | handles entry queued =>
      refine Or.inr (Or.inl ?_)
      have nothing : (lookup.handle entry).2.next.taken = [] := by
        cases (lookup.handle entry).2 <;> rfl
      rw [nothing]
      exact Nat.lt_succ_self _
  | builds ready others pipeline queued =>
      refine Or.inr (Or.inr ⟨rfl, ?_⟩)
      simp only [LookupPosition.rest, List.length_cons]
      omega
  | _ =>
      refine Or.inr (Or.inr ⟨rfl, ?_⟩)
      simp [LookupPosition.rest]

theorem lookupRests_turnLookup (present : engine.lookupSide? = some ⟨lookup, .waiting, [], true⟩)
    (handle : UInt64) : (engine.turnLookup handle).lookupRests = true := by
  obtain ⟨cache, found, _, waits, items, accepts⟩ := lookupSide?_eq_some_iff.mp present
  simp only [lookupRests, cache_turnLookup_nil found waits accepts items handle]
  simp [stopped_of_accepts accepts]

theorem waiting_of_lookupRests (present : engine.lookupSide? = some ⟨lookup, position, queued, true⟩)
    (lasting : position ≠ .ended) (rests : engine.lookupRests = true) :
    position = .waiting ∧ queued = [] := by
  obtain ⟨cache, found, rfl, stands, rfl, accepts⟩ := lookupSide?_eq_some_iff.mp present
  simp only [lookupRests, found] at rests
  cases position <;> simp [stands] at rests lasting ⊢
  exact rests.1.1

end Engine

/-- A lookup at work, with what came to it and what it submitted. -/
structure Prewarming where
  engine : Engine
  /-- All entries that ever came, in their order. -/
  arrived : List LookupEntry := []
  /-- The keys that were submitted to the compiler, once for each time. -/
  submitted : List PipelineKey := []

namespace Prewarming

inductive Move
  | arrive (entry : LookupEntry)
  /-- The lookup takes a step, and gets a render pass with this handle if it asks for one. -/
  | turn (handle : UInt64)
  /-- Anything else in the engine changes. -/
  | elsewhere (engine : Engine)

def submission? (prewarming : Prewarming) : Option PipelineKey :=
  prewarming.engine.lookupSide?.bind fun side => side.position.submission?

def arrive (prewarming : Prewarming) (entry : LookupEntry) : Prewarming :=
  { prewarming with
    engine := prewarming.engine.arrive entry
    arrived := prewarming.arrived ++ [entry] }

def turn (prewarming : Prewarming) (handle : UInt64) : Prewarming :=
  { prewarming with
    engine := prewarming.engine.turnLookup handle
    submitted := prewarming.submitted ++ prewarming.submission?.toList }

def move? (prewarming : Prewarming) : Move → Option Prewarming
  | .arrive entry => some (prewarming.arrive entry)
  | .turn handle => some (prewarming.turn handle)
  | .elsewhere engine =>
      if engine.lookupSide? = prewarming.engine.lookupSide? then
        some { prewarming with engine := engine }
      else none

abbrev run? (prewarming : Prewarming) (moves : List Move) : Option Prewarming :=
  Run.final? move? prewarming moves

/-- The lookup has handled the first entries, and has taken and queued the others. -/
structure Placed (loaded : List PipelineKey) (prewarming : Prewarming)
    (handled : List LookupEntry) (position : LookupPosition) (queued : List LookupEntry) : Prop where
  side : prewarming.engine.lookupSide? =
    some ⟨(Lookup.ofKeys loaded).handleAll handled, position, queued, true⟩
  lasting : position ≠ .ended
  fits : position.Fits
  arrived : prewarming.arrived = handled ++ (position.taken ++ queued)

/-- The lookup has handled the first entries and made the right keys ready, and has taken and queued
the others. -/
structure Faithful (loaded : List PipelineKey) (prewarming : Prewarming)
    (handled : List LookupEntry) (position : LookupPosition) (queued : List LookupEntry) : Prop extends
    Placed loaded prewarming handled position queued where
  submitted : prewarming.submitted ++ position.pending = (Lookup.ofKeys loaded).readied handled

variable {loaded : List PipelineKey} {start next prewarming : Prewarming} {move : Move}
  {moves : List Move} {handled queued : List LookupEntry} {position : LookupPosition}

theorem Placed.submission?_eq (placed : Placed loaded prewarming handled position queued) :
    prewarming.submission? = position.submission? := by
  rw [submission?, placed.side]
  rfl

theorem Placed.turn (placed : Placed loaded prewarming handled position queued) (handle : UInt64) :
    ∃ changed next rest,
      Engine.Advances ((Lookup.ofKeys loaded).handleAll handled) position queued changed next rest ∧
      ∃ more, Placed loaded (prewarming.turn handle) (handled ++ more) next rest ∧
        prewarming.submission?.toList ++ next.pending =
          position.pending ++ ((Lookup.ofKeys loaded).handleAll handled).readied more := by
  obtain ⟨changed, next, rest, turned, advances⟩ :=
    Engine.advances_turnLookup placed.side placed.lasting handle
  obtain ⟨more, grown, entries, keys, lasting⟩ := advances.effect
  refine ⟨changed, next, rest, advances, more, ⟨?_, lasting, advances.fits, ?_⟩,
    placed.submission?_eq ▸ keys⟩
  · rw [Lookup.handleAll, List.foldl_append]
    exact turned.trans (by rw [grown]; rfl)
  · rw [Prewarming.turn, placed.arrived, entries, List.append_assoc]

/-- Keys that are to come, and those that become ready now, are submitted or still to come. -/
theorem Placed.moved (placed : Placed loaded prewarming handled position queued)
    (moved : prewarming.move? move = some next) : ∃ more later rest keys,
      Placed loaded next (handled ++ more) later rest ∧
      next.submitted = prewarming.submitted ++ keys ∧
      keys ++ later.pending =
        position.pending ++ ((Lookup.ofKeys loaded).handleAll handled).readied more := by
  -- Unless the lookup takes a step, it handles no entry and submits nothing.
  have same : [] ++ position.pending =
      position.pending ++ ((Lookup.ofKeys loaded).handleAll handled).readied [] :=
    (List.append_nil _).symm
  cases move with
  | arrive entry =>
      cases moved
      refine ⟨[], position, queued ++ [entry], [], ⟨?_, placed.lasting, placed.fits, ?_⟩,
        (List.append_nil _).symm, same⟩
      · rw [List.append_nil]
        exact Engine.lookupSide?_arrive placed.side entry
      · rw [arrive, placed.arrived, List.append_nil, List.append_assoc, List.append_assoc]
  | turn handle =>
      cases moved
      obtain ⟨_, later, rest, _, more, turned, keys⟩ := placed.turn handle
      exact ⟨more, later, rest, _, turned, rfl, keys⟩
  | elsewhere engine =>
      obtain ⟨spared, became⟩ := Option.ite_none_right_eq_some.mp moved
      cases became
      refine ⟨[], position, queued, [], ⟨?_, placed.lasting, placed.fits, ?_⟩,
        (List.append_nil _).symm, same⟩
      · rw [List.append_nil]
        exact spared.trans placed.side
      · rw [List.append_nil]
        exact placed.arrived

theorem Faithful.grown (faithful : Faithful loaded prewarming handled position queued)
    {more : List LookupEntry} {later : LookupPosition} {rest : List LookupEntry}
    {keys : List PipelineKey} (placed : Placed loaded next (handled ++ more) later rest)
    (submitted : next.submitted = prewarming.submitted ++ keys)
    (ready : keys ++ later.pending =
      position.pending ++ ((Lookup.ofKeys loaded).handleAll handled).readied more) :
    Faithful loaded next (handled ++ more) later rest := by
  refine ⟨placed, ?_⟩
  rw [submitted, List.append_assoc, ready, ← List.append_assoc, faithful.submitted,
    Lookup.readied_append]

theorem Faithful.turn (faithful : Faithful loaded prewarming handled position queued)
    (handle : UInt64) : ∃ changed next rest,
      Engine.Advances ((Lookup.ofKeys loaded).handleAll handled) position queued changed next rest ∧
      ∃ more, Faithful loaded (prewarming.turn handle) (handled ++ more) next rest := by
  obtain ⟨changed, next, rest, advances, more, placed, keys⟩ := faithful.toPlaced.turn handle
  exact ⟨changed, next, rest, advances, more, faithful.grown placed rfl keys⟩

theorem Faithful.moved (faithful : Faithful loaded prewarming handled position queued)
    (moved : prewarming.move? move = some next) :
    ∃ handled position queued, Faithful loaded next handled position queued := by
  obtain ⟨more, later, rest, _, placed, submitted, ready⟩ := faithful.toPlaced.moved moved
  exact ⟨_, later, rest, faithful.grown placed submitted ready⟩

theorem faithful_run (faithful : Faithful loaded start handled position queued)
    (ran : start.run? moves = some prewarming) :
    ∃ handled position queued, Faithful loaded prewarming handled position queued := by
  refine Run.kept (motive := fun reached =>
    ∃ handled position queued, Faithful loaded reached handled position queued) ?_
    ⟨handled, position, queued, faithful⟩ ran
  rintro before move after ⟨_, _, _, faithful⟩ moved
  exact faithful.moved moved

/-- Left to itself, the lookup comes to rest. -/
theorem Faithful.settles {prewarming : Prewarming} {handled queued : List LookupEntry}
    {position : LookupPosition} (faithful : Faithful loaded prewarming handled position queued)
    (handle : UInt64) : ∃ turns rested,
      prewarming.run? (List.replicate turns (.turn handle)) = some rested ∧
      rested.engine.lookupRests = true ∧ rested.arrived = prewarming.arrived := by
  obtain ⟨changed, next, rest, advances, more, turned⟩ := faithful.turn handle
  by_cases done : position = .waiting ∧ queued = []
  · obtain ⟨rfl, rfl⟩ := done
    exact ⟨1, _, rfl, Engine.lookupRests_turnLookup faithful.side handle, rfl⟩
  · have nearer := advances.nearer.resolve_left done
    obtain ⟨turns, rested, ran, rests, same⟩ := turned.settles handle
    exact ⟨turns + 1, rested, ran, rests, same⟩
-- An entry that waits counts twice, one that is taken once.
termination_by (2 * queued.length + position.taken.length, position.rest)
decreasing_by
  exact Prod.lex_def.mpr (nearer.imp id fun both => both)

/-- What counts as submitted is what the lookup hands to the compiler: at each submission one job for a
new instance, with the state of the key, a render pass of its format and no handles, and nothing at any
other step. -/
theorem Placed.offers (placed : Placed loaded prewarming handled position queued) (handle : UInt64) :
    (prewarming.submission? = none →
      (prewarming.turn handle).engine.compiler = prewarming.engine.compiler) ∧
    ∀ key, prewarming.submission? = some key → prewarming.engine.compiler.accepts = true →
      ∃ job item, (prewarming.turn handle).engine.compiler = prewarming.engine.compiler.offer job ∧
        (prewarming.turn handle).engine.compiler.jobs = prewarming.engine.compiler.jobs ++ [job] ∧
        (prewarming.turn handle).engine.store.get? job.entry = some item ∧
        item.state = key.state ∧ item.pass.format = key.format ∧
        item.base = none ∧ item.fast = none ∧
        ∀ pipeline, (prewarming.turn handle).engine.pipelines[job.pipeline]? = some pipeline →
          (prewarming.turn handle).engine.keyOf? job =
            some ⟨pipeline.keys, key.state, key.format⟩ := by
  rw [placed.submission?_eq]
  refine ⟨fun quiet => Engine.compiler_turnLookup placed.side quiet handle, ?_⟩
  intro key submitted accepts
  obtain ⟨id, pass, ready, rfl⟩ : ∃ id pass ready, position = .submitting key id pass ready := by
    cases position <;> cases submitted
    exact ⟨_, _, _, rfl⟩
  have fits : pass.format = key.format := placed.fits
  obtain ⟨entry, offered, made⟩ := prewarming.engine.offered_submitRemembered key id pass accepts
  have turned := Engine.turnLookup_submitting placed.side handle
  have compiler : (prewarming.turn handle).engine.compiler =
      prewarming.engine.compiler.offer ⟨id, entry⟩ :=
    (congrArg Engine.compiler turned).trans offered
  have present : (prewarming.turn handle).engine.store.get? entry =
      some { state := key.state, pass := pass } :=
    (congrArg (fun engine => engine.store.get? entry) turned).trans made
  refine ⟨⟨id, entry⟩, { state := key.state, pass := pass }, compiler, ?_, present, rfl, fits, rfl,
    rfl, fun pipeline there => ?_⟩
  · rw [compiler, Compiler.jobs_offer]
  · rw [← fits]
    simp only [Engine.keyOf?, there, present]
    rfl

theorem faithful_start {engine : Engine}
    (begun : engine.lookupSide? = some ⟨.ofKeys loaded, .waiting, [], true⟩) :
    Faithful loaded { engine := engine } [] .waiting [] :=
  ⟨⟨begun, LookupPosition.noConfusion, trivial, rfl⟩, rfl⟩

theorem Faithful.count_le_one (faithful : Faithful loaded prewarming handled position queued)
    (proper : Lookup.Proper loaded prewarming.arrived) (key : PipelineKey) :
    prewarming.submitted.count key ≤ 1 := by
  rw [faithful.arrived] at proper
  have bound := proper.earlier.count_le_one key
  rw [← faithful.submitted, List.count_append] at bound
  omega

theorem Faithful.submitted_of_rests (faithful : Faithful loaded prewarming handled position queued)
    (rests : prewarming.engine.lookupRests = true) :
    prewarming.submitted = (Lookup.ofKeys loaded).readied prewarming.arrived := by
  obtain ⟨rfl, rfl⟩ := Engine.waiting_of_lookupRests faithful.side faithful.lasting rests
  have submitted : prewarming.submitted ++ [] = (Lookup.ofKeys loaded).readied handled :=
    faithful.submitted
  have arrived : prewarming.arrived = handled ++ [] := faithful.arrived
  rw [List.append_nil] at submitted arrived
  rw [submitted, arrived]

/-- The lookup always comes to rest; each submission hands the compiler one job, and no key is
submitted twice. At rest it has submitted exactly the loaded keys that have a shader key and whose
shader keys were all provided, each once, and the forwarded keys whose shader keys were all provided,
one of them only afterwards. So the order in which the same shader keys are provided, and how often,
makes no difference to the loaded keys. -/
theorem prewarm_exactly_once {engine : Engine}
    (begun : engine.lookupSide? = some ⟨.ofKeys loaded, .waiting, [], true⟩)
    (ran : Prewarming.run? { engine := engine } moves = some prewarming)
    (proper : Lookup.Proper loaded prewarming.arrived) :
    (∀ handle, ∃ turns rested,
      prewarming.run? (List.replicate turns (.turn handle)) = some rested ∧
      rested.engine.lookupRests = true ∧ rested.arrived = prewarming.arrived) ∧
    (∀ handle,
      (prewarming.submission? = none →
        (prewarming.turn handle).engine.compiler = prewarming.engine.compiler) ∧
      ∀ key, prewarming.submission? = some key → prewarming.engine.compiler.accepts = true →
        ∃ job item, (prewarming.turn handle).engine.compiler =
            prewarming.engine.compiler.offer job ∧
          (prewarming.turn handle).engine.compiler.jobs =
            prewarming.engine.compiler.jobs ++ [job] ∧
          (prewarming.turn handle).engine.store.get? job.entry = some item ∧
          item.state = key.state ∧ item.pass.format = key.format ∧
          item.base = none ∧ item.fast = none ∧
          ∀ pipeline, (prewarming.turn handle).engine.pipelines[job.pipeline]? = some pipeline →
            (prewarming.turn handle).engine.keyOf? job =
              some ⟨pipeline.keys, key.state, key.format⟩) ∧
    (∀ key, prewarming.submitted.count key ≤ 1) ∧
    (prewarming.engine.lookupRests = true →
      (∀ key ∈ prewarming.submitted, key ∈ loaded ∨ .key key ∈ prewarming.arrived) ∧
      (∀ key ∈ loaded, prewarming.submitted.count key =
        if key.required ≠ [] ∧
          ∀ shader ∈ key.required, shader ∈ Lookup.provided prewarming.arrived then 1 else 0) ∧
      (∀ before key after, prewarming.arrived = before ++ .key key :: after →
        prewarming.submitted.count key =
          if (∀ shader ∈ key.required, shader ∈ Lookup.provided prewarming.arrived) ∧
            ∃ shader ∈ key.required, shader ∉ Lookup.provided before then 1 else 0) ∧
      ∀ (other : Engine) (others : List Move) (rival : Prewarming),
        other.lookupSide? = some ⟨.ofKeys loaded, .waiting, [], true⟩ →
        Prewarming.run? { engine := other } others = some rival →
        Lookup.Proper loaded rival.arrived → rival.engine.lookupRests = true →
        (∀ shader, shader ∈ Lookup.provided prewarming.arrived ↔
          shader ∈ Lookup.provided rival.arrived) →
        ∀ key ∈ loaded, prewarming.submitted.count key = rival.submitted.count key) := by
  obtain ⟨handled, position, queued, faithful⟩ := faithful_run (faithful_start begun) ran
  refine ⟨faithful.settles, faithful.toPlaced.offers, faithful.count_le_one proper, fun rests => ?_⟩
  have submitted := faithful.submitted_of_rests rests
  refine ⟨fun key member => ?_, fun key member => ?_, fun before key after split => ?_, ?_⟩
  · rw [submitted] at member
    exact Lookup.mem_of_mem_readied member
  · rw [submitted]
    exact proper.count_loaded member
  · rw [submitted, split]
    rw [split] at proper
    exact proper.count_forwarded
  · intro other others rival otherBegun otherRan otherProper otherRests same key member
    obtain ⟨_, _, _, otherFaithful⟩ := faithful_run (faithful_start otherBegun) otherRan
    rw [submitted, otherFaithful.submitted_of_rests otherRests, proper.count_loaded member,
      otherProper.count_loaded member]
    simp only [same]

/-- A vertex shader that a loaded key and a forwarded one refer to. -/
def sharedShader : Shader := ⟨.defined .vertex (Vector.replicate 32 0), [], {}⟩

def sharingKey (patches : UInt32) : PipelineKey :=
  ⟨#v[sharedShader.key, {}, {}, {}, {}], { inputAssembly := { patchVertexCount := patches } }, {}⟩

/-- A key is loaded, another one comes before its shader, and the shader comes twice. -/
def arrivals : List Move :=
  [.arrive (.key (sharingKey 1)), .arrive (.shader sharedShader), .arrive (.shader sharedShader)]
    ++ List.replicate 20 (.turn 7)

def loadedEngine : Engine :=
  { cache := some {
      config := {}
      writer := { log := none, known := [sharingKey 0], forwards := true }
      lookup := .ofKeys [sharingKey 0] } }

theorem prewarm_exactly_once_arrivals : ∃ prewarming,
    Prewarming.run? { engine := loadedEngine } arrivals = some prewarming ∧
    prewarming.submitted.count (sharingKey 0) = 1 ∧
    prewarming.submitted.count (sharingKey 1) = 1 := by
  have ran : ∃ prewarming, Prewarming.run? { engine := loadedEngine } arrivals = some prewarming ∧
      prewarming.engine.lookupRests = true ∧
      prewarming.arrived = [.key (sharingKey 1), .shader sharedShader, .shader sharedShader] :=
    ⟨_, rfl, by decide +kernel, rfl⟩
  obtain ⟨prewarming, ran, rests, arrived⟩ := ran
  have proper : Lookup.Proper [sharingKey 0] prewarming.arrived := by
    rw [arrived]
    refine ⟨by decide, by decide, by decide +kernel, fun key member => ?_⟩
    rcases member with loaded | added
    · rw [List.mem_singleton.mp loaded]
      decide +kernel
    · rw [List.mem_singleton.mp added]
      decide +kernel
  obtain ⟨_, _, _, settled⟩ := prewarm_exactly_once rfl ran proper
  obtain ⟨_, loaded, forwarded, _⟩ := settled rests
  have once := loaded (sharingKey 0) (List.mem_singleton.mpr rfl)
  have alsoOnce := forwarded [] (sharingKey 1) [.shader sharedShader, .shader sharedShader] arrived
  rw [arrived] at once alsoOnce
  exact ⟨prewarming, ran, once.trans (if_pos (by decide +kernel)),
    alsoOnce.trans (if_pos (by decide +kernel))⟩

end Prewarming

end PipelineCache

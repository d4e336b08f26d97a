import PipelineCache.Proofs.Runtime.Workplace

/-! A remembered pipeline is rebuilt as it was stored. Whatever pipelines and render passes callers have
asked for before, the lookup finds for a key the shaders that were first provided for its slots, gets the
pipeline with their keys from the manager, and a render pass of the stored format. -/

namespace PipelineCache

namespace LookupSide

/-- The shaders that were provided and not yet handled. -/
def waiting (side : LookupSide) : List Shader :=
  (side.position.taken ++ side.queued).filterMap LookupEntry.shader?

/-- Some shaders have been handled, in the order in which they were provided, and the others wait. Once
no more are accepted, later ones are missing. -/
structure Serves (side : LookupSide) (provided handled : List Shader) : Prop where
  knows : side.lookup.Knows handled
  order : handled ++ side.waiting <+: provided
  all : side.accepts = true → handled ++ side.waiting = provided

variable {side later : LookupSide} {provided handled : List Shader}

theorem Serves.kept (serves : side.Serves provided handled) (same : later.lookup = side.lookup)
    (waits : later.waiting = side.waiting) (accepts : later.accepts = side.accepts) :
    later.Serves provided handled :=
  ⟨same ▸ serves.knows, waits ▸ serves.order, waits ▸ accepts ▸ serves.all⟩

theorem waiting_receive (side : LookupSide) (entry : LookupEntry) :
    (side.receive entry).waiting = side.waiting ++ entry.shader?.toList := by
  rw [waiting, receive, ← List.append_assoc, List.filterMap_append]
  cases entry <;> rfl

theorem Serves.provide (serves : side.Serves provided handled) (shader : Shader) :
    (side.provide shader).Serves (provided ++ [shader]) handled := by
  unfold LookupSide.provide
  split
  · rename_i accepts
    have waits : handled ++ (side.receive (.shader shader)).waiting = provided ++ [shader] := by
      rw [waiting_receive, ← List.append_assoc, serves.all accepts]
      rfl
    exact ⟨serves.knows, waits ▸ List.prefix_rfl, fun _ => waits⟩
  · rename_i refuses
    exact ⟨serves.knows, serves.order.trans (List.prefix_append _ _),
      fun accepts => absurd accepts refuses⟩

theorem Serves.forward (serves : side.Serves provided handled) (key : PipelineKey) :
    (side.receive (.key key)).Serves provided handled :=
  serves.kept rfl ((waiting_receive side (.key key)).trans (List.append_nil _)) rfl

theorem Serves.stop (serves : side.Serves provided handled) :
    Serves { side with accepts := false } provided handled :=
  ⟨serves.knows, serves.order, fun accepts => absurd accepts Bool.false_ne_true⟩

end LookupSide

namespace Lookup

/-- These keys go with the shaders that the lookup finds for them. -/
def Resolves (lookup : Lookup) (ready : List ReadyKey) : Prop :=
  ∀ one ∈ ready, lookup.resolve one.key = some one.shaders

theorem resolves_handle (lookup : Lookup) (entry : LookupEntry) :
    (lookup.handle entry).1.Resolves (lookup.handle entry).2.ready :=
  fun _ member => (ready_handle member).2

end Lookup

theorem RenderPasses.find?_obtain {passes : RenderPasses} {format : RenderPassFormat}
    {answer : Except CacheError UInt64} {pass : RenderPass}
    (obtained : (passes.obtain format answer).1 = .ok pass) :
    (passes.obtain format answer).2.find? format = some pass := by
  unfold obtain at obtained ⊢
  split at obtained
  · rename_i made found
    cases obtained
    exact found
  · rename_i absent
    cases answer with
    | error error => cases obtained
    | ok handle =>
        cases obtained
        simp only [find?, List.find?_append] at absent ⊢
        simp [absent]

/-- A render pass stays the one for its format. -/
theorem RenderPasses.find?_obtain_of_find? {passes : RenderPasses} {format other : RenderPassFormat}
    {pass : RenderPass} (found : passes.find? other = some pass) (answer : Except CacheError UInt64) :
    (passes.obtain format answer).2.find? other = some pass := by
  unfold obtain
  split
  · exact found
  · cases answer with
    | error error => exact found
    | ok handle =>
        simp only [find?, List.find?_append] at found ⊢
        rw [found, Option.some_or]

namespace Workplace

variable {place after : Workplace} {provided : List Shader} {given : Option Shader}
  {lookup : Lookup} {position : LookupPosition} {side : LookupSide} {id : PipelineId}
  {shaders : ShaderSet}

/-- The manager's pipeline for the shaders that are found for a key. -/
def Supplies (place : Workplace) (lookup : Lookup) (key : PipelineKey) (id : PipelineId) : Prop :=
  ∃ shaders, lookup.resolve key = some shaders ∧ place.table.lookup shaders.keys = some id

/-- The lookup works on its keys with the right shaders, pipeline and render pass. -/
def Standing (place : Workplace) (lookup : Lookup) : LookupPosition → Prop
  | .building ready | .counting ready => lookup.Resolves ready
  | .passing key id ready => place.Supplies lookup key id ∧ lookup.Resolves ready
  | .submitting key id pass ready =>
      place.Supplies lookup key id ∧ place.passes.find? key.format = some pass ∧
        lookup.Resolves ready
  | _ => True

/-- The table of the manager leads to pipelines with the keys in question. -/
def Leads (place : Workplace) : Prop :=
  ∀ keys id, place.table.lookup keys = some id →
    ∃ shaders, place.outfits[id]? = some shaders ∧ shaders.keys = keys

structure Faithful (place : Workplace) (provided : List Shader) : Prop where
  leads : place.Leads
  serves : ∀ side, place.side = some side → ∃ handled, side.Serves provided handled
  standing : ∀ side, place.side = some side → place.Standing side.lookup side.position

/-- Pipelines and render passes are found again later. -/
structure Extends (place after : Workplace) : Prop where
  table : ∀ keys id, place.table.lookup keys = some id → after.table.lookup keys = some id
  passes : ∀ format pass, place.passes.find? format = some pass →
    after.passes.find? format = some pass

theorem Standing.later (standing : place.Standing lookup position) (extended : place.Extends after) :
    after.Standing lookup position := by
  have supplied {key : PipelineKey} {id : PipelineId} (supplies : place.Supplies lookup key id) :
      after.Supplies lookup key id := by
    obtain ⟨shaders, resolved, found⟩ := supplies
    exact ⟨shaders, resolved, extended.table _ _ found⟩
  cases position with
  | passing key id ready => exact ⟨supplied standing.1, standing.2⟩
  | submitting key id pass ready =>
      exact ⟨supplied standing.1, extended.passes _ _ standing.2.1, standing.2.2⟩
  | building ready => exact standing
  | counting ready => exact standing
  | _ => trivial

theorem Obtains.extends (obtained : place.Obtains shaders id after) : place.Extends after := by
  cases obtained with
  | old => exact ⟨fun _ _ found => found, fun _ _ found => found⟩
  | new absent =>
      refine ⟨fun keys other found => ?_, fun _ _ found => found⟩
      rw [List.lookup_append, found, Option.some_or]

/-- The pipeline that a request leads to is from then on the one for its keys. -/
theorem Obtains.found (obtained : place.Obtains shaders id after) :
    after.table.lookup shaders.keys = some id := by
  cases obtained with
  | old id found => exact found
  | new absent =>
      rw [List.lookup_append, absent, Option.none_or]
      simp

theorem Obtains.leads (obtained : place.Obtains shaders id after)
    (leads : place.Leads) : after.Leads := by
  cases obtained with
  | old => exact leads
  | new absent =>
      intro keys id found
      rw [List.lookup_append, Option.or_eq_some_iff] at found
      rcases found with old | ⟨_, newest⟩
      · obtain ⟨shaders, there, same⟩ := leads keys id old
        have inside := (List.getElem?_eq_some_iff.mp there).1
        exact ⟨shaders, (List.getElem?_append_left inside).trans there, same⟩
      · by_cases same : keys = shaders.keys
        · rw [same, List.lookup_cons_self] at newest
          cases newest
          exact ⟨shaders, List.getElem?_concat_length, same.symm⟩
        · simp [List.lookup_cons, List.lookup_nil, beq_false_of_ne same] at newest

theorem Obtains.side_eq (obtained : place.Obtains shaders id after) : after.side = place.side := by
  cases obtained <;> rfl

/-- With the entry that it handles the lookup comes to know one shader more. -/
theorem Looks.serves {handled : List Shader} (looked : place.Looks side after)
    (serves : side.Serves provided handled) :
    ∀ later, after.side = some later → ∃ handled, later.Serves provided handled := by
  cases looked with
  | ends lookup queued =>
      rintro _ ⟨⟩
      have dropped : handled ++ [] <+: provided :=
        List.IsPrefix.trans ((List.prefix_append_right_inj handled).mpr List.nil_prefix) serves.order
      exact ⟨handled, serves.knows, dropped, fun accepts => absurd accepts Bool.false_ne_true⟩
  | handles lookup entry queued accepts =>
      rintro _ ⟨⟩
      have nothing : (lookup.handle entry).2.next.taken = [] := by
        cases (lookup.handle entry).2 <;> rfl
      have waits : handled ++ LookupSide.waiting ⟨lookup, .handling entry, queued, accepts⟩ =
          (handled ++ entry.shader?.toList) ++ LookupSide.waiting
            ⟨(lookup.handle entry).1, (lookup.handle entry).2.next, queued, accepts⟩ := by
        show handled ++ (entry :: queued).filterMap LookupEntry.shader? =
          handled ++ entry.shader?.toList ++
            ((lookup.handle entry).2.next.taken ++ queued).filterMap LookupEntry.shader?
        rw [nothing, List.append_assoc]
        cases entry <;> rfl
      refine ⟨handled ++ entry.shader?.toList, serves.knows.handle entry, ?_, fun accepts => ?_⟩
      · rw [← waits]
        exact serves.order
      · rw [← waits]
        exact serves.all accepts
  | passes lookup key id ready queued accepts answer =>
      rintro _ ⟨⟩
      refine ⟨handled, serves.kept rfl ?_ rfl⟩
      rw [LookupSide.waiting, LookupPosition.taken_answered]
      rfl
  | _ =>
      rintro _ ⟨⟩
      exact ⟨handled, serves.kept rfl rfl rfl⟩

theorem Looks.standing (looked : place.Looks side after)
    (standing : place.Standing side.lookup side.position) :
    ∀ later, after.side = some later → after.Standing later.lookup later.position := by
  cases looked with
  | stays side =>
      rintro _ ⟨⟩
      exact standing
  | handles lookup entry queued accepts =>
      rintro _ ⟨⟩
      have resolves := lookup.resolves_handle entry
      show Standing _ _ (lookup.handle entry).2.next
      cases response : (lookup.handle entry).2 with
      | registered ready =>
          rw [response] at resolves
          exact resolves
      | _ => trivial
  | builds lookup ready others queued accepts id between obtained =>
      rintro _ ⟨⟩
      have resolved := standing ready List.mem_cons_self
      exact ⟨⟨ready.shaders, resolved, obtained.found⟩,
        fun one member => standing one (List.mem_cons_of_mem _ member)⟩
  | passes lookup key id ready queued accepts answer =>
      rintro _ ⟨⟩
      show Standing _ lookup (.answered key id ready _)
      cases obtained : (place.passes.obtain key.format answer).1 with
      | error error => exact standing.2
      | ok pass => exact ⟨standing.1, RenderPasses.find?_obtain obtained, standing.2⟩
  | submits lookup key id pass ready queued accepts =>
      rintro _ ⟨⟩
      exact standing.2.2
  | counts lookup ready queued accepts =>
      rintro _ ⟨⟩
      exact standing
  | _ =>
      rintro _ ⟨⟩
      trivial

theorem Looks.leads (looked : place.Looks side after)
    (leads : place.Leads) : after.Leads := by
  cases looked with
  | builds lookup ready others queued accepts id between obtained => exact obtained.leads leads
  | _ => exact leads

/-- What becomes of the side while the lookup itself rests. -/
theorem Faithful.changeSide (faithful : place.Faithful provided) {later : List Shader}
    {change : LookupSide → LookupSide}
    (rests : ∀ side, (change side).lookup = side.lookup ∧ (change side).position = side.position)
    (served : ∀ side handled, side.Serves provided handled → (change side).Serves later handled) :
    Faithful { place with side := place.side.map change } later := by
  refine ⟨faithful.leads, fun next found => ?_, fun next found => ?_⟩
  · obtain ⟨side, there, rfl⟩ := Option.map_eq_some_iff.mp found
    exact (faithful.serves side there).imp (served side)
  · obtain ⟨side, there, rfl⟩ := Option.map_eq_some_iff.mp found
    rw [(rests side).1, (rests side).2]
    exact faithful.standing side there

theorem Faithful.step (faithful : place.Faithful provided) (stepped : place.Step given after) :
    after.Faithful (provided ++ given.toList) := by
  cases given with
  | some shader =>
      cases stepped
      refine faithful.changeSide (fun side => ?_) fun side handled serves => serves.provide shader
      unfold LookupSide.provide
      split <;> exact ⟨rfl, rfl⟩
  | none =>
      rw [Option.toList_none, List.append_nil]
      obtain ⟨leads, serves, standing⟩ := faithful
      cases stepped with
      | stays => exact ⟨leads, serves, standing⟩
      | obtains shaders id after obtained =>
          refine ⟨obtained.leads leads, fun side found => ?_, fun side found => ?_⟩
          · exact serves side (obtained.side_eq ▸ found)
          · exact (standing side (obtained.side_eq ▸ found)).later obtained.extends
      | creates shaders =>
          refine ⟨fun keys id found => ?_, serves, standing⟩
          obtain ⟨outfit, there, same⟩ := leads keys id found
          have inside := (List.getElem?_eq_some_iff.mp there).1
          exact ⟨outfit, (List.getElem?_append_left inside).trans there, same⟩
      | passes format answer =>
          refine ⟨leads, serves, fun side found => (standing side found).later ?_⟩
          exact ⟨fun _ _ found => found,
            fun _ _ found => RenderPasses.find?_obtain_of_find? found answer⟩
      | forwards key =>
          exact Faithful.changeSide ⟨leads, serves, standing⟩ (fun _ => ⟨rfl, rfl⟩)
            fun _ _ serving => serving.forward key
      | stops =>
          exact Faithful.changeSide ⟨leads, serves, standing⟩ (fun _ => ⟨rfl, rfl⟩)
            fun _ _ serving => serving.stop
      | looks side after found looked =>
          obtain ⟨handled, serving⟩ := serves side found
          exact ⟨looked.leads leads, looked.serves serving, looked.standing (standing side found)⟩

end Workplace

namespace Engine

variable {engine : Engine} {cache : Cache} {key : PipelineKey} {id : PipelineId} {pass : RenderPass}
  {ready : List ReadyKey}

/-- What is submitted is offered to the compiler, which may refuse it. -/
theorem compiler_continueLookup_submitting (found : engine.cache = some cache)
    (position : cache.lookupPosition = .submitting key id pass ready)
    (result : Except CacheError UInt64) : (engine.continueLookup result).compiler =
      ((engine.addInstance { state := key.state, pass := pass }).2.offerJob
        ⟨id, (engine.addInstance { state := key.state, pass := pass }).1⟩).compiler := by
  rw [continueLookup_eq_step (by simp [wantedFormat?, found, position])]
  simp only [stepLookup, found, position]
  rfl

/-- What is offered joins the jobs that wait, as long as the compiler takes any. -/
theorem jobs_offerJob (engine : Engine) (job : Job) : (engine.offerJob job).compiler.jobs =
    if engine.compiler.accepts = true then engine.compiler.jobs ++ [job] else engine.compiler.jobs := by
  unfold offerJob
  split
  · exact Compiler.jobs_offer _ _
  · rfl

theorem keyOf?_addInstance {pipeline : Pipeline} (stands : engine.pipelines[id]? = some pipeline)
    (item : Instance) : (engine.addInstance item).2.keyOf? ⟨id, (engine.addInstance item).1⟩ =
      some (pipeline.instanceKey item) := by
  have made : (engine.addInstance item).2.store.get? (engine.addInstance item).1 = some item :=
    (Store.get?_add ..).trans (if_pos rfl)
  have there : (engine.addInstance item).2.pipelines[id]? = some pipeline := stands
  simp [keyOf?, made, there]

/-- The table of the manager leads to a pipeline with the keys in question. -/
theorem pipeline_of_leads {keys : ShaderKeys} (leads : engine.workplace.Leads)
    (tabled : engine.manager.table.lookup keys = some id) :
    ∃ pipeline, engine.pipelines[id]? = some pipeline ∧ pipeline.keys = keys := by
  obtain ⟨outfit, there, same⟩ := leads keys id tabled
  rw [workplace, List.getElem?_map] at there
  obtain ⟨pipeline, stands, rfl⟩ := Option.map_eq_some_iff.mp there
  exact ⟨pipeline, stands, same⟩

end Engine

namespace Runtime

variable {runtime : Runtime} {acts : List Act} {setup : Setup} {disk : Disk} {cache : Cache}

theorem faithful_start (setup : Setup) (disk : Disk) :
    (start setup disk).engine.workplace.Faithful (start setup disk).provided := by
  have begun (side : LookupSide) (found : (start setup disk).engine.workplace.side = some side) :
      ∃ index, side.lookup = ⟨index, []⟩ ∧ side.queued = [] ∧
        (side.position = .waiting ∨ side.position = .ended) := by
    obtain ⟨cache, there, rfl⟩ := Option.map_eq_some_iff.mp found
    obtain ⟨config, _, rfl⟩ := Option.map_eq_some_iff.mp
      ((Engine.cache_start setup disk).symm.trans there)
    refine ⟨_, rfl, rfl, ?_⟩
    show (if config.enablePrewarm then LookupPosition.waiting else .ended) = .waiting ∨
      (if config.enablePrewarm then LookupPosition.waiting else .ended) = .ended
    split
    · exact Or.inl rfl
    · exact Or.inr rfl
  refine ⟨fun _ _ found => (nomatch found), fun side found => ?_, fun side found => ?_⟩
  · obtain ⟨index, empty, queued, position⟩ := begun side found
    have waits : side.waiting = [] := by
      rw [LookupSide.waiting, queued]
      rcases position with same | same <;> rw [same] <;> rfl
    refine ⟨[], fun name => ?_, ?_, fun _ => waits⟩
    · rw [empty]
      exact (ite_self none).symm
    · rw [waits]
      exact List.nil_prefix
  · obtain ⟨index, _, _, position⟩ := begun side found
    rcases position with same | same <;> rw [same] <;> trivial

theorem faithful_run (ran : (start setup disk).enact? acts = some runtime) :
    runtime.engine.workplace.Faithful runtime.provided := by
  refine Run.kept (motive := fun reached => reached.engine.workplace.Faithful reached.provided) ?_
    (faithful_start setup disk) ran
  intro before act after faithful acted
  obtain ⟨given, stepped, provided⟩ := step_of_act acted
  rw [provided]
  exact faithful.step stepped

/-- In every state of every run: the lookup knows the shaders that it has handled, which came first. It
does not resolve a key if and only if a defined slot of the key names a shader that it does not know;
else it fills each defined slot with the shader that was provided first under the key of the slot, and
leaves the others empty. When it comes to submit a key, it hands the compiler the manager's pipeline for
these shaders, with a new instance that has the stored state, the render pass of the stored format, and
no handles; together they have the stored key, with the undefined key in each slot that is not defined.
This is the one job that joins those that wait, unless the compiler takes no more. -/
theorem rebuilds_stored_combination (ran : (start setup disk).enact? acts = some runtime)
    (found : runtime.engine.cache = some cache) :
    (∃ handled, handled <+: runtime.provided ∧
      (∀ name, name ∈ cache.lookup.registered ↔
        name.isDefined = true ∧ ∃ shader ∈ handled, shader.key = name) ∧
      (cache.acceptsShaders = true → cache.lookupPosition = .waiting →
        cache.lookupQueue.items = [] → handled = runtime.provided)) ∧
    (∀ key, cache.lookup.resolve key = none ↔ ∃ stage,
      (key.shaderKey stage).isDefined = true ∧ key.shaderKey stage ∉ cache.lookup.registered) ∧
    (∀ key shaders, cache.lookup.resolve key = some shaders → ∀ stage,
      if (key.shaderKey stage).isDefined = true then
        ∃ shader, shaders.get stage = some shader ∧
          runtime.provided.find? (fun shader => shader.key == key.shaderKey stage) = some shader
      else shaders.get stage = none) ∧
    ∀ key id pass ready, cache.lookupPosition = .submitting key id pass ready →
      ∃ shaders, cache.lookup.resolve key = some shaders ∧
        runtime.engine.manager.table.lookup shaders.keys = some id ∧
        (∃ pipeline, runtime.engine.pipelines[id]? = some pipeline ∧
          pipeline.keys = key.shaders.cleared) ∧
        runtime.engine.passes.find? key.format = some pass ∧ pass.format = key.format ∧
        ∀ result, ∃ entry grown,
          runtime.engine.addInstance { state := key.state, pass := pass, base := none, fast := none } =
            (entry, grown) ∧
          (runtime.engine.continueLookup result).compiler = (grown.offerJob ⟨id, entry⟩).compiler ∧
          (runtime.engine.continueLookup result).compiler.jobs =
            (if runtime.engine.compiler.accepts = true then
              runtime.engine.compiler.jobs ++ [⟨id, entry⟩]
            else runtime.engine.compiler.jobs) ∧
          grown.store.get? entry =
            some { state := key.state, pass := pass, base := none, fast := none } ∧
          grown.keyOf? ⟨id, entry⟩ = some ⟨key.shaders.cleared, key.state, key.format⟩ := by
  have faithful := faithful_run ran
  have side := Engine.side_workplace found
  obtain ⟨handled, knows, order, all⟩ := faithful.serves _ side
  have first : handled <+: runtime.provided := (List.prefix_append _ _).trans order
  refine ⟨⟨handled, first, fun _ => knows.mem_registered_iff, fun accepts rests items => ?_⟩,
    fun _ => Lookup.resolve_eq_none_iff, fun key shaders resolved stage => ?_,
    fun key id pass ready position => ?_⟩
  · have whole := all accepts
    simpa [LookupSide.waiting, rests, items, LookupPosition.taken] using whole
  · have filled := Lookup.get_of_resolve resolved stage
    split at filled
    · rename_i defined
      obtain ⟨shader, present, known⟩ := filled
      rw [if_pos defined]
      refine ⟨shader, present, ?_⟩
      rw [knows, if_pos defined] at known
      obtain ⟨later, whole⟩ := first
      rw [← whole, List.find?_append, known, Option.some_or]
    · rename_i undefined
      rwa [if_neg undefined]
  · have standing := faithful.standing _ side
    rw [position] at standing
    obtain ⟨⟨shaders, resolved, tabled⟩, made, _⟩ := standing
    have fits := RenderPasses.format_of_find? made
    have cleared := Lookup.keys_of_resolve knows.registered resolved
    obtain ⟨pipeline, stands, same⟩ := Engine.pipeline_of_leads faithful.leads tabled
    refine ⟨shaders, resolved, tabled, ⟨pipeline, stands, same.trans cleared⟩, made, fits,
      fun result => ⟨_, _, rfl, ?_, ?_, ?_, ?_⟩⟩
    · exact Engine.compiler_continueLookup_submitting found position result
    · rw [Engine.compiler_continueLookup_submitting found position result]
      exact Engine.jobs_offerJob _ _
    · exact (Store.get?_add ..).trans (if_pos rfl)
    · refine (Engine.keyOf?_addInstance stands _).trans ?_
      rw [Pipeline.instanceKey, same, cleared, fits]

/-- Somebody draws with a shader and a render pass, so that a key is recorded; then the shader is
provided, and the lookup comes to submit the key. -/
def drawnBefore : List Act :=
  [.move (.obtain { vertex := some Prewarming.sharedShader }), .pass {} (.ok 5),
    .move (.build { state := (Prewarming.sharingKey 3).state, pass := ⟨5, {}⟩ }),
    .move (.report ⟨0, 0⟩), .move .write, .move .write, .move .write,
    .move (.provide Prewarming.sharedShader)] ++ List.replicate 6 (.move (.look (.ok 9)))

/-- The pipeline and the render pass of the draw serve once more. -/
theorem rebuilds_stored_combination_drawnBefore :
    ∃ (runtime : Runtime) (entry : InstanceId) (grown : Engine),
    (start {} {}).enact? drawnBefore = some runtime ∧
    (runtime.engine.continueLookup (.ok 9)).compiler = (grown.offerJob ⟨0, entry⟩).compiler ∧
    grown.store.get? entry = some { state := (Prewarming.sharingKey 3).state, pass := ⟨5, {}⟩ } ∧
    grown.keyOf? ⟨0, entry⟩ = some (Prewarming.sharingKey 3) := by
  have possible : ((start {} {}).enact? drawnBefore).any (fun runtime =>
      decide (runtime.engine.cache.map Cache.lookupPosition =
        some (.submitting (Prewarming.sharingKey 3) 0 ⟨5, {}⟩ []))) = true := by decide +kernel
  obtain ⟨runtime, ran, stands⟩ := (Option.any_eq_true _ _).mp possible
  obtain ⟨cache, found, position⟩ := Option.map_eq_some_iff.mp (of_decide_eq_true stands)
  obtain ⟨_, _, _, submits⟩ := rebuilds_stored_combination ran found
  obtain ⟨_, _, _, _, _, _, handed⟩ := submits _ _ _ _ position
  obtain ⟨entry, grown, _, offered, _, made, named⟩ := handed (.ok 9)
  refine ⟨runtime, entry, grown, ran, offered, made, named.trans ?_⟩
  decide +kernel

end Runtime

end PipelineCache

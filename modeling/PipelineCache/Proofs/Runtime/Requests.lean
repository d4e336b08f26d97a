import Mathlib.Data.List.Dedup
import Mathlib.Data.List.Induction
import PipelineCache.Proofs.Runtime.Rebuilding
import PipelineCache.Proofs.Runtime.Validity

/-! Everybody who asks the manager for a pipeline, be it a caller or the lookup, gets the one with the keys
of the given shaders. It was made for the first request with these keys and keeps the shaders of that
request. Keys tell which shader a stage has, unless the key is the undefined one: that is the key of a
stage without a shader, but nothing keeps a shader from having it too. Only at such a stage can a pipeline
differ from what was asked for. -/

namespace PipelineCache

/-- A shader stands at a stage under the undefined key, so that the keys do not tell of it. -/
def ShaderSet.Masks (shaders : ShaderSet) (stage : Stage) : Prop :=
  ∃ shader, shaders.get stage = some shader ∧ shader.key = .undefined

namespace ShaderSet

variable {first second : ShaderSet}

theorem key_of_isSome {stage : Stage} (present : (first.get stage).isSome = true)
    (visible : ¬ first.Masks stage) : first.keys.get stage.index ≠ .undefined := by
  obtain ⟨shader, there⟩ := Option.isSome_iff_exists.mp present
  rw [get_keys, there]
  exact fun undefined => visible ⟨shader, there, undefined⟩

theorem key_of_not_isSome {stage : Stage} (absent : ¬ (first.get stage).isSome = true) :
    first.keys.get stage.index = .undefined := by
  rw [get_keys, Option.not_isSome_iff_eq_none.mp absent]
  rfl

/-- Sets with the same keys have shaders at the same stages, as far as the keys tell of them. -/
theorem isSome_get_eq (same : first.keys = second.keys) (stage : Stage) :
    first.Masks stage ∨ second.Masks stage ∨ (first.get stage).isSome = (second.get stage).isSome := by
  by_cases masked : first.Masks stage
  · exact Or.inl masked
  by_cases hidden : second.Masks stage
  · exact Or.inr (Or.inl hidden)
  refine Or.inr (Or.inr (Bool.eq_iff_iff.mpr ⟨fun present => ?_, fun present => ?_⟩))
  · by_contra absent
    exact key_of_isSome present masked (same ▸ key_of_not_isSome absent)
  · by_contra absent
    exact key_of_isSome present hidden (same ▸ key_of_not_isSome absent)

theorem stages_present (shaders : ShaderSet) : shaders.present.map Prod.fst =
    Stage.all.toList.filter fun stage => (shaders.get stage).isSome := by
  rw [present, List.map_filterMap, ← List.filterMap_eq_filter]
  refine List.filterMap_congr fun stage _ => ?_
  cases there : shaders.get stage <;> simp [Option.guard, there]

theorem stages_present_eq (same : first.keys = second.keys) (clear : ∀ stage, ¬ first.Masks stage)
    (plain : ∀ stage, ¬ second.Masks stage) :
    first.present.map Prod.fst = second.present.map Prod.fst := by
  rw [stages_present, stages_present]
  refine List.filter_congr fun stage _ => ?_
  exact ((isSome_get_eq same stage).resolve_left (clear stage)).resolve_left (plain stage)

end ShaderSet

/-- The device compiles the shaders of the pipeline, with their layout. -/
theorem Call.shaders_request? {call : Call} {shared : Shared} {request : CompileRequest}
    (asked : call.request? shared = some request) :
    request.shaders = shared.pipeline.shaders ∧ request.layout = .ofShaders shared.pipeline.shaders := by
  have waits : (call.request? shared).isSome := by rw [asked, Option.isSome_some]
  rcases position_of_waits waits with ⟨state, pass, parent, rfl⟩ | ⟨entry, parent, rfl⟩
  · cases asked
    exact ⟨rfl, rfl⟩
  · simp only [request?, Optimization.request?] at asked
    split at asked
    · cases asked
      exact ⟨rfl, rfl⟩
    · cases asked

/-- The shaders for which the lookup asks the manager next. -/
def LookupPosition.wanted? : LookupPosition → Option ShaderSet
  | .building (ready :: _) => some ready.shaders
  | _ => none

/-- Somebody asked for a pipeline with these shaders, and was given this one. -/
abbrev PipelineRequest := ShaderSet × PipelineId

namespace Workplace

variable {place middle after : Workplace} {shaders : ShaderSet} {id other : PipelineId}
  {requests : List PipelineRequest} {asked : Option PipelineRequest}

/-- What happens to the table and the shaders, where at most one request is answered. -/
inductive Answers (place : Workplace) : Option PipelineRequest → Workplace → Prop
  | nobody (after : Workplace) (table : after.table = place.table)
      (outfits : place.outfits <+: after.outfits) : Answers place none after
  | somebody (shaders : ShaderSet) (id : PipelineId) (between after : Workplace)
      (obtained : place.Obtains shaders id between) (table : after.table = between.table)
      (outfits : after.outfits = between.outfits) : Answers place (some (shaders, id)) after

theorem answers_of_same (table : after.table = place.table) (outfits : after.outfits = place.outfits) :
    place.Answers none after :=
  .nobody after table (outfits ▸ List.prefix_rfl)

/-- The lookup changes the table and the shaders only where it asks for something. -/
theorem Looks.answers {side : LookupSide} (looked : place.Looks side after)
    (quiet : side.position.wanted? = none) : place.Answers none after := by
  cases looked with
  | builds => cases quiet
  | _ => exact answers_of_same rfl rfl

/-- The table leads from the keys of each request to the pipeline that was given, which has the shaders of
the first request with these keys. -/
structure Records (place : Workplace) (requests : List PipelineRequest) : Prop where
  distinct : (place.table.map Prod.fst).Nodup
  answered : ∀ request ∈ requests, place.table.lookup request.1.keys = some request.2
  first : ∀ keys id, place.table.lookup keys = some id → ∃ shaders, place.outfits[id]? = some shaders ∧
    requests.find? (fun request => request.1.keys = keys) = some (shaders, id)

theorem Records.earliest (records : place.Records requests) {keys : ShaderKeys}
    (found : place.table.lookup keys = some id) : ∃ shaders, place.outfits[id]? = some shaders ∧
      shaders.keys = keys ∧ (shaders, id) ∈ requests ∧
      requests.find? (fun request => request.1.keys = keys) = some (shaders, id) := by
  obtain ⟨shaders, stands, earliest⟩ := records.first keys id found
  have same := List.find?_some earliest
  exact ⟨shaders, stands, of_decide_eq_true same, List.mem_of_find?_eq_some earliest, earliest⟩

theorem Records.id_eq_iff (records : place.Records requests) {one rival : PipelineRequest}
    (first : one ∈ requests) (second : rival ∈ requests) :
    one.2 = rival.2 ↔ one.1.keys = rival.1.keys := by
  have answered := records.answered one first
  have answer := records.answered rival second
  constructor
  · intro same
    obtain ⟨outfit, stands, keys, _⟩ := records.earliest answered
    obtain ⟨another, also, others, _⟩ := records.earliest answer
    rw [same, also] at stands
    cases stands
    exact keys.symm.trans others
  · intro same
    rw [same, answer] at answered
    exact (Option.some.inj answered).symm

theorem mem_keys_iff {keys : ShaderKeys} :
    keys ∈ place.table.map Prod.fst ↔ (place.table.lookup keys).isSome = true := by
  rw [List.lookup_isSome_iff, List.mem_map]
  refine exists_congr fun entry => and_congr_right fun _ => ?_
  rw [beq_iff_eq]
  exact eq_comm

theorem Records.isSome_lookup_iff (records : place.Records requests) (keys : ShaderKeys) :
    (place.table.lookup keys).isSome = true ↔ ∃ request ∈ requests, request.1.keys = keys := by
  constructor
  · intro present
    obtain ⟨id, found⟩ := Option.isSome_iff_exists.mp present
    obtain ⟨shaders, _, same, member, _⟩ := records.earliest found
    exact ⟨_, member, same⟩
  · rintro ⟨request, member, rfl⟩
    rw [records.answered request member, Option.isSome_some]

/-- The table has the keys of the requests and no others, each once. -/
theorem Records.length_table (records : place.Records requests) :
    place.table.length = (requests.map fun request => request.1.keys).dedup.length := by
  rw [← List.length_map Prod.fst]
  refine ((List.perm_ext_iff_of_nodup records.distinct (List.nodup_dedup _)).mpr fun keys => ?_).length_eq
  rw [List.mem_dedup, mem_keys_iff, records.isSome_lookup_iff, List.mem_map]

/-- Keys that the table does not have were not asked for. -/
theorem Records.find?_eq_none (records : place.Records requests) {keys : ShaderKeys}
    (absent : place.table.lookup keys = none) :
    requests.find? (fun request => request.1.keys = keys) = none := by
  refine List.find?_eq_none.mpr fun request member same => ?_
  have there := (records.isSome_lookup_iff keys).mpr ⟨request, member, of_decide_eq_true same⟩
  rw [absent] at there
  cases there

theorem Records.nodup_append (records : place.Records requests) {keys : ShaderKeys}
    (absent : place.table.lookup keys = none) (id : PipelineId) :
    ((place.table ++ [(keys, id)]).map Prod.fst).Nodup := by
  rw [List.map_append]
  refine List.nodup_append.mpr ⟨records.distinct, List.nodup_singleton _, fun other inside new last => ?_⟩
  rintro rfl
  rw [List.mem_singleton.mp last, mem_keys_iff, absent] at inside
  cases inside

theorem Records.obtains (records : place.Records requests) (obtained : place.Obtains shaders id after) :
    after.Records (requests ++ [(shaders, id)]) := by
  have answered : ∀ request ∈ requests ++ [(shaders, id)],
      after.table.lookup request.1.keys = some request.2 := by
    intro request member
    rcases List.mem_append.mp member with old | new
    · exact obtained.extends.table _ _ (records.answered request old)
    · rw [List.mem_singleton.mp new]
      exact obtained.found
  cases obtained with
  | old id found =>
      refine ⟨records.distinct, answered, fun keys other there => ?_⟩
      obtain ⟨outfit, stands, earliest⟩ := records.first keys other there
      exact ⟨outfit, stands, by rw [List.find?_append, earliest, Option.some_or]⟩
  | new absent =>
      refine ⟨records.nodup_append absent _, answered, fun keys other there => ?_⟩
      rw [List.lookup_append, Option.or_eq_some_iff] at there
      rcases there with old | ⟨_, newest⟩
      · obtain ⟨outfit, stands, earliest⟩ := records.first keys other old
        have inside := (List.getElem?_eq_some_iff.mp stands).1
        refine ⟨outfit, (List.getElem?_append_left inside).trans stands, ?_⟩
        rw [List.find?_append, earliest, Option.some_or]
      · by_cases same : keys = shaders.keys
        · subst same
          rw [List.lookup_cons_self] at newest
          cases newest
          refine ⟨shaders, List.getElem?_concat_length, ?_⟩
          rw [List.find?_append, records.find?_eq_none absent, Option.none_or]
          simp
        · simp [List.lookup_cons, List.lookup_nil, beq_false_of_ne same] at newest

theorem Records.answers (records : place.Records requests) (answers : place.Answers asked after) :
    after.Records (requests ++ asked.toList) := by
  cases answers with
  | nobody after table outfits =>
      rw [Option.toList_none, List.append_nil]
      refine ⟨table ▸ records.distinct, table ▸ records.answered, fun keys id found => ?_⟩
      obtain ⟨shaders, there, earliest⟩ := records.first keys id (table ▸ found)
      have inside := (List.getElem?_eq_some_iff.mp there).1
      obtain ⟨more, longer⟩ := outfits
      refine ⟨shaders, ?_, earliest⟩
      rw [← longer, List.getElem?_append_left inside, there]
  | somebody shaders id between after obtained table outfits =>
      obtain ⟨distinct, answered, first⟩ := records.obtains obtained
      exact ⟨table ▸ distinct, table ▸ answered, table ▸ outfits ▸ first⟩

end Workplace

namespace Engine

variable {engine : Engine} {cache : Cache} {id : PipelineId} {call : Call} {request : CompileRequest}

/-- The shaders for which the lookup asks the manager with its next step. -/
def wantedShaders? (engine : Engine) : Option ShaderSet :=
  engine.cache.bind fun cache => cache.lookupPosition.wanted?

theorem answers_of_workplace {other : Engine} (same : other.workplace = engine.workplace) :
    engine.workplace.Answers none other.workplace :=
  same ▸ Workplace.answers_of_same rfl rfl

theorem answers_obtainPipeline (engine : Engine) (thread : Thread) (shaders : ShaderSet) :
    engine.workplace.Answers (some (shaders, (engine.obtainPipeline thread shaders).1))
      (engine.obtainPipeline thread shaders).2.engine.workplace :=
  .somebody _ _ _ _ (engine.obtains_obtainPipeline thread shaders) rfl rfl

theorem answers_building {ready : ReadyKey} {others : List ReadyKey} (found : engine.cache = some cache)
    (position : cache.lookupPosition = .building (ready :: others)) (result : Except CacheError UInt64) :
    engine.workplace.Answers (some (ready.shaders, (engine.obtainPipeline .lookup ready.shaders).1))
      (engine.continueLookup result).workplace := by
  have same := (cache_obtainPipeline engine .lookup ready.shaders).trans found
  rw [continueLookup_eq_step (by simp [wantedFormat?, found, position])]
  simp only [stepLookup, found, position, workplace_moveLookup same]
  exact .somebody _ _ _ _ (engine.obtains_obtainPipeline .lookup ready.shaders) rfl rfl

theorem answers_continueLookup (engine : Engine) (result : Except CacheError UInt64) :
    engine.workplace.Answers (engine.wantedShaders?.map fun shaders =>
        (shaders, (engine.obtainPipeline .lookup shaders).1))
      (engine.continueLookup result).workplace := by
  cases found : engine.cache with
  | none =>
      have idle : engine.continueLookup result = engine := by
        simp [continueLookup, wantedFormat?, stepLookup, found, unchanged]
      rw [idle, wantedShaders?, found]
      exact answers_of_workplace rfl
  | some cache =>
      have looked := looks_continueLookup found result
      rw [wantedShaders?, found, Option.bind_some]
      cases position : cache.lookupPosition with
      | building ready =>
          cases ready with
          | nil => exact looked.answers (congrArg LookupPosition.wanted? position)
          | cons ready others => exact answers_building found position result
      | _ => exact looked.answers (congrArg LookupPosition.wanted? position)

/-- The writer asks for no pipeline. -/
theorem answers_stepWriter (engine : Engine) :
    engine.workplace.Answers none engine.stepWriter.engine.workplace := by
  unfold stepWriter
  split
  · exact answers_of_workplace rfl
  · split
    · dsimp only
      split
      · exact Workplace.answers_of_same rfl rfl
      · exact Workplace.answers_of_same rfl rfl
      · rw [workplace_releaseAll]
        exact Workplace.answers_of_same rfl rfl
    · split
      · exact answers_of_workplace rfl
      · dsimp only
        rw [engine_recordKey]
        exact Workplace.answers_of_same rfl rfl
    · exact Workplace.answers_of_same rfl rfl
    · exact answers_of_workplace rfl

end Engine

namespace Runtime

variable {before after runtime : Runtime} {acts : List Act} {asked : List PipelineRequest} {setup : Setup}
  {disk : Disk}

/-- The request that something which happens around an engine makes to the manager: a caller asks for a
pipeline, or the lookup comes to a key that is ready. -/
def request? (runtime : Runtime) : Act → Option PipelineRequest
  | .move (.obtain shaders) => some (shaders, (runtime.engine.obtainPipeline .caller shaders).1)
  | .move (.look _) => runtime.engine.wantedShaders?.map fun shaders =>
      (shaders, (runtime.engine.obtainPipeline .lookup shaders).1)
  | _ => none

/-- All requests in the order in which they are made. -/
def requests (start : Runtime) (acts : List Act) : List PipelineRequest :=
  (Run.trace act? start acts).filterMap fun (before, act, _) => before.request? act

theorem answers_move {move : Move} (moved : before.move? move = some after) :
    before.engine.workplace.Answers (before.request? (.move move)) after.engine.workplace := by
  by_cases quiet : move.isQuiet = true
  · have nobody : before.request? (.move move) = none := by cases move <;> first | rfl | cases quiet
    rw [nobody]
    exact Engine.answers_of_workplace (workplace_of_isQuiet quiet moved).1
  cases move with
  | obtain shaders =>
      cases moved
      exact before.engine.answers_obtainPipeline .caller shaders
  | create shaders optimizes reports =>
      cases moved
      refine .nobody _ rfl ⟨[shaders], ?_⟩
      simp [Engine.workplace, Engine.addPipeline]
  | write =>
      cases moved
      exact before.engine.answers_stepWriter
  | look result =>
      cases moved
      exact before.engine.answers_continueLookup result
  | provide shader =>
      cases moved
      exact Workplace.answers_of_same rfl rfl
  | stopCache =>
      cases moved
      exact Workplace.answers_of_same rfl rfl
  | _ => exact absurd rfl quiet

theorem answers_act {act : Act} (acted : before.act? act = some after) :
    before.engine.workplace.Answers (before.request? act) after.engine.workplace := by
  cases act with
  | move move => exact answers_move acted
  | pass format answer =>
      cases acted
      exact Workplace.answers_of_same rfl rfl

theorem requests_cons {act : Act} (acted : before.act? act = some after) (acts : List Act) :
    before.requests (act :: acts) = (before.request? act).toList ++ after.requests acts := by
  simp only [requests, Run.trace, acted, List.filterMap_cons]
  cases before.request? act <;> rfl

theorem records_run (records : before.engine.workplace.Records asked)
    (ran : before.enact? acts = some after) :
    after.engine.workplace.Records (asked ++ before.requests acts) := by
  induction acts generalizing before asked with
  | nil =>
      cases ran
      rwa [Runtime.requests, Run.trace, List.filterMap_nil, List.append_nil]
  | cons act acts ih =>
      obtain ⟨next, acted, rest⟩ := Run.final?_cons_eq_some_iff.mp ran
      have later := ih (records.answers (answers_act acted)) rest
      rwa [requests_cons acted, ← List.append_assoc]

theorem records_start (setup : Setup) (disk : Disk) :
    (start setup disk).engine.workplace.Records [] :=
  ⟨List.nodup_nil, List.forall_mem_nil _, fun _ _ found => nomatch found⟩

/-- Whoever asks for a pipeline, in every run: the pipeline that is given has the keys of the shaders in
question, and the shaders of the first request with these keys. It is these that states and formats are
checked against, that the layout is made of and that the device compiles. The pipeline has shaders at the
same stages as the ones in question, except where one of the two sets has a shader under the undefined
key; so it has shaders at exactly the requested stages as long as nobody brings such a shader. Two
requests are given one pipeline exactly if their keys are equal, and the manager has as many pipelines as
there were different keys. -/
theorem same_pipeline_iff_same_keys (ran : (start setup disk).enact? acts = some runtime)
    (history : (start setup disk).requests acts = asked) :
    (∀ shaders id, (shaders, id) ∈ asked → ∃ pipeline, runtime.engine.pipelines[id]? = some pipeline ∧
      pipeline.keys = shaders.keys ∧
      asked.find? (fun request => request.1.keys = shaders.keys) = some (pipeline.shaders, id) ∧
      (∀ stage, pipeline.shaders.Masks stage ∨ shaders.Masks stage ∨
        (pipeline.shaders.get stage).isSome = (shaders.get stage).isSome) ∧
      ((∀ request ∈ asked, ∀ stage, ¬ request.1.Masks stage) →
        pipeline.shaders.present.map Prod.fst = shaders.present.map Prod.fst) ∧
      (∀ state format, pipeline.validate state format =
        (state.validate pipeline.shaders format).mapError fun fault => .invalidState fault.message) ∧
      pipeline.layout = .ofShaders pipeline.shaders ∧
      ∀ call request, runtime.engine.requestOf? id call = some request →
        request.shaders = pipeline.shaders ∧ request.layout = .ofShaders pipeline.shaders) ∧
    (∀ one ∈ asked, ∀ other ∈ asked, one.2 = other.2 ↔ one.1.keys = other.1.keys) ∧
    runtime.engine.manager.table.length = (asked.map fun request => request.1.keys).dedup.length := by
  have records := records_run (records_start setup disk) ran
  rw [history, List.nil_append] at records
  refine ⟨fun shaders id member => ?_, fun one first other second => records.id_eq_iff first second,
    records.length_table⟩
  obtain ⟨outfit, stands, same, asks, earliest⟩ := records.earliest (records.answered _ member)
  obtain ⟨pipeline, there, rfl⟩ := Option.map_eq_some_iff.mp ((List.getElem?_map ..).symm.trans stands)
  refine ⟨pipeline, there, same, earliest, ShaderSet.isSome_get_eq same, fun clear => ?_,
    fun _ _ => rfl, rfl, fun call request waits => ?_⟩
  · exact ShaderSet.stages_present_eq same (clear _ asks) (clear _ member)
  · obtain ⟨current, also, compiles⟩ := Engine.requestOf?_eq_some waits
    obtain rfl : pipeline = current := Option.some.inj (there.symm.trans also)
    exact Call.shaders_request? compiles

/-- A vertex shader alone, and one with a fragment shader under the undefined key. -/
def unadorned : ShaderSet := { vertex := some Prewarming.sharedShader }

def adorned : ShaderSet :=
  { vertex := some Prewarming.sharedShader, fragment := some ⟨.undefined, [], {}⟩ }

/-- A caller asks for a pipeline, and later the lookup asks for one with the same shaders. -/
theorem same_pipeline_iff_same_keys_drawnBefore : ∃ runtime pipeline,
    (start {} {}).enact? drawnBefore = some runtime ∧
    (start {} {}).requests drawnBefore = [(unadorned, 0), (unadorned, 0)] ∧
    runtime.engine.pipelines[0]? = some pipeline ∧
    pipeline.shaders.present.map Prod.fst = [.vertex] ∧
    runtime.engine.manager.table.length = 1 := by
  have possible : ((start {} {}).enact? drawnBefore).isSome = true := by decide +kernel
  obtain ⟨runtime, ran⟩ := Option.isSome_iff_exists.mp possible
  have history : (start {} {}).requests drawnBefore = [(unadorned, 0), (unadorned, 0)] := by
    decide +kernel
  obtain ⟨given, _, count⟩ := same_pipeline_iff_same_keys ran history
  obtain ⟨pipeline, there, _, _, _, stages, _⟩ := given unadorned 0 List.mem_cons_self
  refine ⟨runtime, pipeline, ran, history, there, stages ?_, count.trans (by simp)⟩
  have clear (stage : Stage) : ¬ unadorned.Masks stage := by
    rintro ⟨shader, present, undefined⟩
    cases stage <;> cases present
    cases undefined
  simpa using clear

/-- The pipeline for a vertex shader alone has a fragment shader, since somebody asked for that before. -/
theorem fragment_shader_of_earlier_request : ∃ runtime pipeline,
    (start {} {}).enact? [.move (.obtain adorned), .move (.obtain unadorned)] = some runtime ∧
    (start {} {}).requests [.move (.obtain adorned), .move (.obtain unadorned)] =
      [(adorned, 0), (unadorned, 0)] ∧
    runtime.engine.pipelines[0]? = some pipeline ∧
    pipeline.shaders.present.map Prod.fst = [.vertex, .fragment] ∧
    unadorned.present.map Prod.fst = [.vertex] := by
  have possible : ((start {} {}).enact? [.move (.obtain adorned), .move (.obtain unadorned)]).any
      (fun runtime => decide (runtime.engine.pipelines[0]?.map
        (fun pipeline => pipeline.shaders.present.map Prod.fst) = some [.vertex, .fragment])) = true := by
    decide +kernel
  obtain ⟨runtime, ran, stands⟩ := (Option.any_eq_true _ _).mp possible
  obtain ⟨pipeline, there, stages⟩ := Option.map_eq_some_iff.mp (of_decide_eq_true stands)
  exact ⟨runtime, pipeline, ran, by decide +kernel, there, stages, by decide⟩

end Runtime

end PipelineCache

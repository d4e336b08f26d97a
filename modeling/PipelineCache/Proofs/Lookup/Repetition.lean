import Mathlib.Data.List.Induction
import PipelineCache.Proofs.Lookup.Prewarm

/-! Keys that have one shader key in several slots. The lookup lists such a key once for each slot, so
the key is ready once for each slot in which it has the last of its shaders, and so often it is
submitted. Only a key with different shader keys is submitted once, in whatever order they come. -/

namespace PipelineCache

namespace Lookup

variable {lookup : Lookup} {entries before after : List LookupEntry} {key : PipelineKey}
  {table : ShaderKey → Nat} {last : Shader} {loaded : List PipelineKey}

/-- A key that was complete before, or still is not complete, is not ready in between. -/
theorem Listed.count_readied_eq_zero (listed : lookup.Listed key table)
    (strange : ∀ shader, shader ∉ key.required → table shader = 0) (alone : .key key ∉ entries)
    (outside : lookup.Covers key ∨ ¬ (lookup.handleAll entries).Covers key) :
    (lookup.readied entries).count key = 0 := by
  induction entries generalizing lookup with
  | nil => rfl
  | cons entry entries ih =>
      obtain ⟨different, rest⟩ := List.ne_and_not_mem_of_not_mem_cons alone
      have never : ¬ lookup.Completes entry key := by
        rintro ⟨lacks, covers⟩
        exact outside.elim lacks fun later => later (covers.handleAll entries)
      have later := ih (listed.handle (Ne.symm different)) rest
        (outside.imp_left fun covers => covers.handle entry)
      rw [readied, List.count_append, listed.count_ready strange, if_neg never, later]

/-- With the last of its shaders a key is ready, as often as it is listed under that shader. -/
theorem Listed.count_readied_of_completes (listed : lookup.Listed key table)
    (strange : ∀ shader, shader ∉ key.required → table shader = 0)
    (alone : .key key ∉ before ++ .shader last :: after)
    (completes : (lookup.handleAll before).Completes (.shader last) key) :
    (lookup.readied (before ++ .shader last :: after)).count key = table last.key := by
  obtain ⟨early, behind⟩ := not_or.mp (mt List.mem_append.mpr alone)
  obtain ⟨different, late⟩ := List.ne_and_not_mem_of_not_mem_cons behind
  have still := listed.handleAll early
  have early_none := listed.count_readied_eq_zero strange early (Or.inr completes.1)
  have late_none := (still.handle (Ne.symm different)).count_readied_eq_zero strange late
    (Or.inl completes.2)
  rw [readied_append, List.count_append, early_none, readied, List.count_append, late_none,
    still.count_ready strange, if_pos completes]
  exact (Nat.zero_add _).trans (Nat.add_zero _)

/-! ### Loaded keys -/

/-- All shaders of a key but one have come, and the one that is still missing comes now. -/
structure CompletedBy (key : PipelineKey) (before : List LookupEntry) (shader : ShaderKey) : Prop where
  needed : shader ∈ key.required
  fresh : shader ∉ provided before
  others : ∀ other ∈ key.required, other = shader ∨ other ∈ provided before

theorem CompletedBy.completes (completed : CompletedBy key before last.key) :
    ((ofKeys loaded).handleAll before).Completes (.shader last) key := by
  have grown : (((ofKeys loaded).handleAll before).handle (.shader last)).1 =
      (ofKeys loaded).handleAll (before ++ [.shader last]) := by
    rw [handleAll, handleAll, List.foldl_append]
    rfl
  have came : provided (before ++ [.shader last]) = provided before ++ [last.key] :=
    List.filterMap_append
  refine ⟨fun covers => ?_, ?_⟩
  · exact completed.fresh (covers_handleAll_ofKeys loaded |>.mp covers _ completed.needed)
  · rw [grown, covers_handleAll_ofKeys, came]
    intro other needed
    rw [List.mem_append, List.mem_singleton]
    exact (completed.others other needed).symm

/-- If all shaders of a key come, one of them is the last. -/
theorem exists_completedBy (needs : key.required ≠ [])
    (all : ∀ shader ∈ key.required, shader ∈ provided entries) :
    ∃ before last after, entries = before ++ .shader last :: after ∧
      CompletedBy key before last.key := by
  induction entries using List.reverseRecOn with
  | nil =>
      obtain ⟨shader, needed⟩ := List.exists_mem_of_ne_nil _ needs
      cases all shader needed
  | append_singleton entries entry ih =>
      have came : provided (entries ++ [entry]) = provided entries ++ provided [entry] :=
        List.filterMap_append
      by_cases missing : ∃ shader ∈ key.required, shader ∉ provided entries
      -- This shader then comes with the last entry.
      · obtain ⟨shader, needed, missing⟩ := missing
        have now := (List.mem_append.mp (came ▸ all shader needed)).resolve_left missing
        cases entry with
        | key added => cases now
        | shader last =>
            obtain rfl : shader = last.key := List.mem_singleton.mp now
            refine ⟨entries, last, [], rfl, needed, missing, fun other needed => ?_⟩
            exact (List.mem_append.mp (came ▸ all other needed)).symm.imp_left List.mem_singleton.mp
      · have already : ∀ shader ∈ key.required, shader ∈ provided entries := fun shader needed =>
          by_contra fun absent => missing ⟨shader, needed, absent⟩
        obtain ⟨before, last, after, rfl, completed⟩ := ih already
        exact ⟨before, last, after ++ [entry], by simp, completed⟩

theorem listed_ofKeys (distinct : loaded.Nodup) (member : key ∈ loaded) :
    (ofKeys loaded).Listed key fun shader => key.required.count shader := by
  intro shader
  have counted := BackReferences.count_candidates_foldl loaded [] key shader
  rw [List.count_eq_one_of_mem distinct member, Nat.one_mul] at counted
  exact counted.trans (Nat.zero_add _)

/-- A loaded key is ready once for each slot in which it has the last of its shaders. -/
theorem count_readied_completed (distinct : loaded.Nodup) (member : key ∈ loaded)
    (alone : .key key ∉ before ++ .shader last :: after)
    (completed : CompletedBy key before last.key) :
    ((ofKeys loaded).readied (before ++ .shader last :: after)).count key =
      key.required.count last.key :=
  (listed_ofKeys distinct member).count_readied_of_completes
    (fun _ => List.count_eq_zero.mpr) alone completed.completes

/-- A loaded key without shader keys, or with a shader that does not come, is not ready. -/
theorem count_readied_incomplete (distinct : loaded.Nodup) (member : key ∈ loaded)
    (alone : .key key ∉ entries)
    (incomplete : key.required = [] ∨ ∃ shader ∈ key.required, shader ∉ provided entries) :
    ((ofKeys loaded).readied entries).count key = 0 := by
  refine (listed_ofKeys distinct member).count_readied_eq_zero
    (fun _ => List.count_eq_zero.mpr) alone ?_
  rw [covers_ofKeys, covers_handleAll_ofKeys]
  refine incomplete.imp_right ?_
  rintro ⟨shader, needed, missing⟩ all
  exact missing (all shader needed)

end Lookup

/-! ### A lookup at work -/

namespace LookupPosition

/-- The key for which the next step gets a render pass. -/
def asking? : LookupPosition → Option PipelineKey
  | .passing key _ _ => some key
  | _ => none

end LookupPosition

namespace Engine

variable {engine : Engine} {lookup : Lookup} {position : LookupPosition}
  {queued : List LookupEntry} {accepts : Bool}

theorem passing_of_wantedFormat?
    (present : engine.lookupSide? = some ⟨lookup, position, queued, accepts⟩)
    (wants : engine.wantedFormat?.isSome = true) :
    ∃ key pipeline ready, position = .passing key pipeline ready := by
  obtain ⟨cache, found, _, rfl, _, _⟩ := lookupSide?_eq_some_iff.mp present
  simp only [wantedFormat?, found] at wants
  split at wants
  · rename_i key pipeline ready stands
    exact ⟨key, pipeline, ready, stands⟩
  · cases wants

/-- Without a render pass the lookup goes on with the next key. -/
theorem lookupSide?_answerLookup_error {key : PipelineKey} {pipeline : PipelineId}
    {ready : List ReadyKey}
    (present : engine.lookupSide? = some ⟨lookup, .passing key pipeline ready, queued, accepts⟩)
    (wants : engine.wantedFormat?.isSome = true) (error : CacheError) :
    (engine.answerLookup (.error error)).engine.lookupSide? =
      some ⟨lookup, .building ready, queued, accepts⟩ := by
  obtain ⟨cache, found, rfl, passing, rfl, rfl⟩ := lookupSide?_eq_some_iff.mp present
  have unmade : engine.passes.find? key.format = none := by
    simp only [wantedFormat?, found, passing] at wants
    split at wants
    · assumption
    · cases wants
  simp only [answerLookup, found, passing, RenderPasses.obtain, unmade]
  exact lookupSide?_moveLookup ((lookupSide?_of_cache found.symm).trans present) _

end Engine

/-- A lookup at work that may be refused a render pass. -/
structure Warmup where
  prewarming : Prewarming
  /-- The keys that got no render pass, once for each time. -/
  refused : List PipelineKey := []

namespace Warmup

inductive Move
  | act (move : Prewarming.Move)
  /-- The lookup waits for a render pass, and the device cannot make it. -/
  | refuse (error : CacheError)

def asking? (warmup : Warmup) : Option PipelineKey :=
  warmup.prewarming.engine.lookupSide?.bind fun side => side.position.asking?

def refuse (warmup : Warmup) (error : CacheError) : Warmup :=
  { prewarming := { warmup.prewarming with
      engine := (warmup.prewarming.engine.answerLookup (.error error)).engine }
    refused := warmup.refused ++ warmup.asking?.toList }

def move? (warmup : Warmup) : Move → Option Warmup
  | .act move => (warmup.prewarming.move? move).map fun next => { warmup with prewarming := next }
  | .refuse error =>
      if warmup.prewarming.engine.wantedFormat?.isSome then some (warmup.refuse error) else none

abbrev run? (warmup : Warmup) (moves : List Move) : Option Warmup :=
  Run.final? move? warmup moves

/-- The keys that the lookup has dealt with. -/
def dealt (warmup : Warmup) : List PipelineKey := warmup.prewarming.submitted ++ warmup.refused

/-- The lookup has handled the first entries, and each key that they made ready is dealt with or still
to come. -/
structure Accounted (loaded : List PipelineKey) (warmup : Warmup) (handled : List LookupEntry)
    (position : LookupPosition) (queued : List LookupEntry) : Prop extends
    Prewarming.Placed loaded warmup.prewarming handled position queued where
  dealt : ∀ key, warmup.dealt.count key + position.pending.count key =
    ((Lookup.ofKeys loaded).readied handled).count key

variable {loaded : List PipelineKey} {start next warmup : Warmup} {move : Move}
  {moves : List Move} {handled queued : List LookupEntry} {position : LookupPosition}
  {key : PipelineKey}

theorem accounted_start {engine : Engine}
    (begun : engine.lookupSide? = some ⟨.ofKeys loaded, .waiting, [], true⟩) :
    Accounted loaded { prewarming := { engine := engine } } [] .waiting [] :=
  ⟨⟨begun, LookupPosition.noConfusion, trivial, rfl⟩, fun _ => rfl⟩

theorem Accounted.acted (accounted : Accounted loaded warmup handled position queued)
    {move : Prewarming.Move} {after : Prewarming}
    (moved : warmup.prewarming.move? move = some after) :
    ∃ handled position queued,
      Accounted loaded { warmup with prewarming := after } handled position queued := by
  obtain ⟨more, later, rest, keys, placed, submitted, ready⟩ := accounted.toPlaced.moved moved
  refine ⟨handled ++ more, later, rest, placed, fun key => ?_⟩
  have before := accounted.dealt key
  have step := congrArg (List.count key) ready
  simp only [Warmup.dealt, submitted, List.count_append, Lookup.readied_append] at before step ⊢
  omega

theorem Accounted.refused (accounted : Accounted loaded warmup handled position queued)
    (wants : warmup.prewarming.engine.wantedFormat?.isSome = true) (error : CacheError) :
    ∃ position, Accounted loaded (warmup.refuse error) handled position queued := by
  obtain ⟨key, pipeline, ready, rfl⟩ := Engine.passing_of_wantedFormat? accounted.side wants
  have asks : warmup.asking? = some key := by
    rw [asking?, accounted.side]
    rfl
  refine ⟨.building ready, ⟨Engine.lookupSide?_answerLookup_error accounted.side wants error,
    LookupPosition.noConfusion, trivial, accounted.arrived⟩, fun other => ?_⟩
  have before := accounted.dealt other
  simp only [Warmup.dealt, refuse, asks, LookupPosition.pending, List.count_append, List.count_cons,
    Option.toList_some, List.count_nil] at before ⊢
  omega

theorem Accounted.moved (accounted : Accounted loaded warmup handled position queued)
    (moved : warmup.move? move = some next) :
    ∃ handled position queued, Accounted loaded next handled position queued := by
  cases move with
  | act move =>
      obtain ⟨after, acted, became⟩ := Option.map_eq_some_iff.mp moved
      cases became
      exact accounted.acted acted
  | refuse error =>
      obtain ⟨wants, became⟩ := Option.ite_none_right_eq_some.mp moved
      cases became
      exact ⟨handled, (accounted.refused wants error).imp fun position refused => ⟨queued, refused⟩⟩

theorem accounted_run (accounted : Accounted loaded start handled position queued)
    (ran : start.run? moves = some warmup) :
    ∃ handled position queued, Accounted loaded warmup handled position queued := by
  refine Run.kept (motive := fun reached =>
    ∃ handled position queued, Accounted loaded reached handled position queued) ?_
    ⟨handled, position, queued, accounted⟩ ran
  rintro before move after ⟨_, _, _, accounted⟩ moved
  exact accounted.moved moved

theorem Accounted.count_le (accounted : Accounted loaded warmup handled position queued)
    (key : PipelineKey) :
    warmup.dealt.count key ≤ ((Lookup.ofKeys loaded).readied warmup.prewarming.arrived).count key := by
  rw [accounted.arrived, Lookup.readied_append, List.count_append, ← accounted.dealt key]
  omega

theorem Accounted.count_of_rests (accounted : Accounted loaded warmup handled position queued)
    (rests : warmup.prewarming.engine.lookupRests = true) (key : PipelineKey) :
    warmup.dealt.count key = ((Lookup.ofKeys loaded).readied warmup.prewarming.arrived).count key := by
  obtain ⟨rfl, rfl⟩ := Engine.waiting_of_lookupRests accounted.side accounted.lasting rests
  have arrived : warmup.prewarming.arrived = handled ++ [] := accounted.arrived
  rw [arrived, List.append_nil]
  exact accounted.dealt key

/-- Each submission hands the compiler one job. A loaded key is not submitted before all its shaders
have come. From then on it is submitted once for each slot in which it has the shader that came last,
except that the device may refuse some of these times to make the render pass. So a key whose shader
keys are all different is submitted at most once, and the order in which the same shaders come makes
no difference to it. -/
theorem submitted_for_each_slot_of_last {engine : Engine}
    (begun : engine.lookupSide? = some ⟨.ofKeys loaded, .waiting, [], true⟩)
    (ran : Warmup.run? { prewarming := { engine := engine } } moves = some warmup)
    (distinct : loaded.Nodup) (apart : ∀ key ∈ loaded, .key key ∉ warmup.prewarming.arrived) :
    (∀ handle,
      (warmup.prewarming.submission? = none →
        (warmup.prewarming.turn handle).engine.compiler = warmup.prewarming.engine.compiler) ∧
      ∀ key, warmup.prewarming.submission? = some key →
        warmup.prewarming.engine.compiler.accepts = true →
        ∃ job item, (warmup.prewarming.turn handle).engine.compiler =
            warmup.prewarming.engine.compiler.offer job ∧
          (warmup.prewarming.turn handle).engine.compiler.jobs =
            warmup.prewarming.engine.compiler.jobs ++ [job] ∧
          (warmup.prewarming.turn handle).engine.store.get? job.entry = some item ∧
          item.state = key.state ∧ item.pass.format = key.format ∧
          item.base = none ∧ item.fast = none ∧
          ∀ pipeline, (warmup.prewarming.turn handle).engine.pipelines[job.pipeline]? = some pipeline →
            (warmup.prewarming.turn handle).engine.keyOf? job =
              some ⟨pipeline.keys, key.state, key.format⟩) ∧
    ∀ key ∈ loaded,
      ((key.required = [] ∨
          ∃ shader ∈ key.required, shader ∉ Lookup.provided warmup.prewarming.arrived) →
        warmup.dealt.count key = 0) ∧
      (∀ before last after, warmup.prewarming.arrived = before ++ .shader last :: after →
        Lookup.CompletedBy key before last.key →
        warmup.dealt.count key ≤ key.required.count last.key ∧
        (warmup.prewarming.engine.lookupRests = true →
          warmup.dealt.count key = key.required.count last.key)) ∧
      (key.required.Nodup →
        warmup.dealt.count key ≤ 1 ∧
        ∀ (other : Engine) (others : List Move) (rival : Warmup),
          other.lookupSide? = some ⟨.ofKeys loaded, .waiting, [], true⟩ →
          Warmup.run? { prewarming := { engine := other } } others = some rival →
          .key key ∉ rival.prewarming.arrived →
          warmup.prewarming.engine.lookupRests = true →
          rival.prewarming.engine.lookupRests = true →
          (∀ shader, shader ∈ Lookup.provided warmup.prewarming.arrived ↔
            shader ∈ Lookup.provided rival.prewarming.arrived) →
          warmup.dealt.count key = rival.dealt.count key) := by
  obtain ⟨_, _, _, accounted⟩ := accounted_run (accounted_start begun) ran
  refine ⟨accounted.toPlaced.offers, fun key member => ?_⟩
  have alone := apart key member
  have bound := accounted.count_le key
  refine ⟨fun incomplete => ?_, fun before last after split completed => ?_, fun nodup => ⟨?_, ?_⟩⟩
  · rw [Lookup.count_readied_incomplete distinct member alone incomplete] at bound
    exact Nat.le_zero.mp bound
  · have ready : ((Lookup.ofKeys loaded).readied warmup.prewarming.arrived).count key =
        key.required.count last.key := by
      rw [split] at alone ⊢
      exact Lookup.count_readied_completed distinct member alone completed
    exact ⟨ready ▸ bound, fun rests => ready ▸ accounted.count_of_rests rests key⟩
  · rw [Lookup.count_readied_loaded distinct member nodup alone] at bound
    refine Nat.le_trans bound ?_
    split <;> decide
  · intro other others rival otherBegun otherRan otherAlone rests otherRests same
    obtain ⟨_, _, _, otherAccounted⟩ := accounted_run (accounted_start otherBegun) otherRan
    rw [accounted.count_of_rests rests, otherAccounted.count_of_rests otherRests,
      Lookup.count_readied_loaded distinct member nodup alone,
      Lookup.count_readied_loaded distinct member nodup otherAlone]
    simp only [same]

def pixelShader : Shader := ⟨.defined .fragment (Vector.replicate 32 1), [], {}⟩

/-- A key with one shader key in two slots, and another one in a third. -/
def repeatingKey : PipelineKey :=
  ⟨#v[Prewarming.sharedShader.key, Prewarming.sharedShader.key, {}, {}, pixelShader.key], {}, {}⟩

def repeatingEngine : Engine :=
  { cache := some {
      config := {}
      writer := { log := none, known := [repeatingKey], forwards := true }
      lookup := .ofKeys [repeatingKey] } }

/-- Some shaders come, and then the lookup takes its time. -/
def provideInOrder (shaders : List Shader) : List Move :=
  shaders.map (fun shader => .act (.arrive (.shader shader))) ++ List.replicate 20 (.act (.turn 7))

theorem submitted_for_each_slot_of_last_repeating : ∃ warmup,
    Warmup.run? { prewarming := { engine := repeatingEngine } }
      (provideInOrder [pixelShader, Prewarming.sharedShader]) = some warmup ∧
    warmup.dealt.count repeatingKey = 2 := by
  have ran : ∃ warmup, Warmup.run? { prewarming := { engine := repeatingEngine } }
        (provideInOrder [pixelShader, Prewarming.sharedShader]) = some warmup ∧
      warmup.prewarming.engine.lookupRests = true ∧
      warmup.prewarming.arrived = [.shader pixelShader, .shader Prewarming.sharedShader] :=
    ⟨_, rfl, by decide +kernel, rfl⟩
  obtain ⟨warmup, ran, rests, arrived⟩ := ran
  have apart : ∀ key ∈ [repeatingKey], .key key ∉ warmup.prewarming.arrived := by
    rw [arrived]
    decide
  have completed : Lookup.CompletedBy repeatingKey [.shader pixelShader]
      Prewarming.sharedShader.key :=
    ⟨by decide +kernel, by decide +kernel, by decide +kernel⟩
  obtain ⟨_, dealt⟩ := submitted_for_each_slot_of_last rfl ran (List.nodup_singleton _) apart
  obtain ⟨_, counted, _⟩ := dealt repeatingKey List.mem_cons_self
  have twice := (counted _ _ _ arrived completed).2 rests
  exact ⟨warmup, ran, twice.trans (by decide +kernel)⟩

/-- The same two shaders come in both orders. In one order the key is submitted twice. -/
theorem submitted_twice_in_one_order : ∃ once twice,
    Warmup.run? { prewarming := { engine := repeatingEngine } }
      (provideInOrder [Prewarming.sharedShader, pixelShader]) = some once ∧
    Warmup.run? { prewarming := { engine := repeatingEngine } }
      (provideInOrder [pixelShader, Prewarming.sharedShader]) = some twice ∧
    once.prewarming.engine.lookupRests = true ∧ twice.prewarming.engine.lookupRests = true ∧
    once.prewarming.submitted = [repeatingKey] ∧
    twice.prewarming.submitted = [repeatingKey, repeatingKey] :=
  ⟨_, _, rfl, rfl, by decide +kernel, by decide +kernel, by decide +kernel, by decide +kernel⟩

end Warmup

end PipelineCache

import Mathlib.Data.List.Induction
import Mathlib.Data.List.Nodup
import PipelineCache.Proofs.Traffic.Combinations

/-! What a draw can come back with. It returns nothing only if at its first look nothing served what it
draws, and then its state was rejected or its own compilation failed. Every other draw returns a handle
of the one instance that serves its combination. -/

namespace PipelineCache

theorem Shared.serves_eq_false_of_find? {shared : Shared} {state : PipelineState}
    {format : RenderPassFormat} (absent : shared.find? state format = none) :
    ∀ item ∈ shared.entries, item.serves state format = false := by
  intro item member
  obtain ⟨entry, listed, present⟩ := mem_entries_iff.mp member
  rw [Bool.eq_false_iff, ne_eq, Instance.serves_iff]
  exact combination_ne_of_find? absent listed present

theorem Pipeline.validate_eq_error {pipeline : Pipeline} {state : PipelineState}
    {format : RenderPassFormat} {error : CacheError}
    (rejected : pipeline.validate state format = .error error) :
    ∃ fault, state.validate pipeline.shaders format = .error fault := by
  unfold validate at rejected
  cases checked : state.validate pipeline.shaders format with
  | ok _ =>
      rw [checked] at rejected
      cases rejected
  | error fault => exact ⟨fault, rfl⟩

/-! ### A draw comes to its end -/

/-- How many moves of its own a draw has left at most. -/
def Draw.rest (draw : Draw) : Nat :=
  match draw.position with
  | .scanning => 9
  | .preparing => 8
  | .compiling _ => 7
  | .enlisting _ => 5
  | .counting _ _ => 4
  | .offering _ _ => 3
  | .reporting _ _ => 2
  | .discarding _ _ => 2
  | .queueing _ _ => 1
  | .reading _ => 1
  | .failing _ => 1
  | .finished _ => 0

/-- A draw has returned, or it waits for the device, and any answer brings it nearer its end, or its
next step does. -/
theorem Draw.rest_lowered (draw : Draw) (shared : Shared) :
    (∃ result, draw.position = .finished result) ∨
      ((draw.request? shared).isSome ∧ ∀ result, (draw.answer result).rest < draw.rest) ∨
      (draw.step shared).1.rest < draw.rest := by
  obtain ⟨state, pass, position⟩ := draw
  cases position with
  | finished result => exact Or.inl ⟨result, rfl⟩
  | compiling parent =>
      refine Or.inr (Or.inl ⟨rfl, fun result => ?_⟩)
      cases result <;> simp [answer, moveTo, rest]
  | scanning =>
      refine Or.inr (Or.inr ?_)
      simp only [step]
      split <;> simp [moveTo, rest]
  | preparing =>
      refine Or.inr (Or.inr ?_)
      simp only [step]
      split <;> simp [moveTo, rest]
  | enlisting handle =>
      refine Or.inr (Or.inr ?_)
      simp only [step]
      split <;> simp [moveTo, rest]
  | _ => exact Or.inr (Or.inr (by simp [step, moveTo, rest]))

/-! ### The shaders of a pipeline never change -/

theorem Draw.shaders_step (draw : Draw) (shared : Shared) :
    (draw.step shared).2.1.pipeline.shaders = shared.pipeline.shaders :=
  congrArg Prod.fst (draw.outfit_step shared)

theorem Optimization.shaders_step (optimization : Optimization) (shared : Shared) :
    (optimization.step shared).2.1.pipeline.shaders = shared.pipeline.shaders :=
  congrArg Prod.fst (optimization.outfit_step shared)

theorem Call.shaders_step (call : Call) (shared : Shared) :
    (call.step shared).2.1.pipeline.shaders = shared.pipeline.shaders :=
  congrArg Prod.fst (call.outfit_step shared)

namespace Traffic

variable {start before after traffic : Traffic} {moves : List Move} {move : Move} {index : Nat}
  {state : PipelineState} {pass : RenderPass}

theorem shaders_moved (moved : Moved before move after) :
    after.shared.pipeline.shaders = before.shared.pipeline.shaders := by
  cases moved with
  | step index call _ _ => exact call.shaders_step before.shared
  | offer entry handle _ _ _ =>
      unfold offer
      split <;> rfl
  | _ => rfl

theorem shaders_run (ran : start.run? moves = some traffic) :
    traffic.shared.pipeline.shaders = start.shared.pipeline.shaders :=
  Run.kept (motive := fun reached =>
      reached.shared.pipeline.shaders = start.shared.pipeline.shaders)
    (fun _ _ _ same moved => (shaders_moved (moved_of_move? moved)).trans same) rfl ran

/-! ### Why a draw found nothing -/

/-- At the first look of a draw nothing in the list served what it draws. -/
def Missed (start : Traffic) (moves : List Move) (index : Nat) (state : PipelineState)
    (pass : RenderPass) : Prop :=
  ∃ earlier later before, moves = earlier ++ .step index :: later ∧
    start.run? earlier = some before ∧
    before.calls[index]? = some (.draw ⟨state, pass, .scanning⟩) ∧
    ∀ item ∈ before.shared.entries, item.serves state pass.format = false

/-- The device has failed to compile for a call. -/
def Refused (moves : List Move) (index : Nat) : Prop :=
  ∃ error, Move.answer index (.error error) ∈ moves

/-- A draw that compiles, or returns nothing, has a reason to. -/
def Explained (start : Traffic) (moves : List Move) (index : Nat) (draw : Draw) : Prop :=
  match draw.position with
  | .preparing => start.Missed moves index draw.state draw.pass
  | .compiling _ => start.Missed moves index draw.state draw.pass
  | .failing _ => start.Missed moves index draw.state draw.pass ∧ Refused moves index
  | .finished none => start.Missed moves index draw.state draw.pass ∧
      ((∃ fault, draw.state.validate start.shared.pipeline.shaders draw.pass.format = .error fault) ∨
        Refused moves index)
  | _ => True

theorem Missed.later (missed : start.Missed moves index state pass) (more : List Move) :
    start.Missed (moves ++ more) index state pass := by
  obtain ⟨earlier, later, before, rfl, ran, scanning, absent⟩ := missed
  exact ⟨earlier, later ++ more, before, by simp, ran, scanning, absent⟩

theorem Refused.later (refused : Refused moves index) (more : List Move) :
    Refused (moves ++ more) index := by
  obtain ⟨error, member⟩ := refused
  exact ⟨error, List.mem_append_left _ member⟩

theorem Explained.later {draw : Draw} (explained : start.Explained moves index draw)
    (more : List Move) : start.Explained (moves ++ more) index draw := by
  obtain ⟨state, pass, position⟩ := draw
  cases position with
  | preparing => exact Missed.later explained more
  | compiling parent => exact Missed.later explained more
  | failing error => exact ⟨explained.1.later more, explained.2.later more⟩
  | finished result =>
      cases result with
      | none =>
          refine ⟨explained.1.later more, explained.2.imp_right fun refused => ?_⟩
          exact refused.later more
      | some handle => trivial
  | _ => trivial

/-- A step of a draw keeps its reasons: a draw that has found an instance comes back with a handle,
because every instance in the list has one. -/
theorem explained_step {draw : Draw} (ran : start.run? moves = some before)
    (settled : before.Settled) (found : before.calls[index]? = some (.draw draw))
    (explained : start.Explained moves index draw) :
    start.Explained (moves ++ [.step index]) index (draw.step before.shared).1 := by
  have founded : draw.Founded before.shared :=
    settled.founded (.draw draw) (List.mem_of_getElem? found)
  obtain ⟨state, pass, position⟩ := draw
  cases position with
  | scanning =>
      simp only [Draw.step]
      split
      · trivial
      · rename_i absent
        exact ⟨moves, [], before, rfl, ran, found, Shared.serves_eq_false_of_find? absent⟩
  | reading entry =>
      -- Here a draw would return nothing without having compiled, if an instance had no handle.
      obtain ⟨item, serving⟩ := founded
      have handled := settled.distinct.handled entry serving.member item serving.present
      obtain ⟨handle, drawn⟩ := Option.isSome_iff_exists.mp handled
      simp only [Draw.step, serving.present, Option.bind_some, drawn]
      trivial
  | preparing =>
      have missed : start.Missed moves index state pass := explained
      simp only [Draw.step]
      split
      · exact missed.later _
      · rename_i error rejected
        refine ⟨missed.later _, Or.inl ?_⟩
        rw [← shaders_run ran]
        exact Pipeline.validate_eq_error rejected
  | compiling parent => exact explained.later _
  | failing error =>
      obtain ⟨missed, refused⟩ := explained
      exact ⟨missed.later _, Or.inr (refused.later _)⟩
  | enlisting handle =>
      simp only [Draw.step]
      split <;> trivial
  | finished result => exact explained.later _
  | _ => trivial

theorem explained_answer {draw : Draw} (result : Except CacheError PipelineHandle)
    (explained : start.Explained moves index draw) :
    start.Explained (moves ++ [.answer index result]) index (draw.answer result) := by
  obtain ⟨state, pass, position⟩ := draw
  cases position with
  | compiling parent =>
      cases result with
      | ok handle => trivial
      | error error =>
          have missed : start.Missed moves index state pass := explained
          exact ⟨missed.later _, error, List.mem_append_right _ (List.mem_singleton.mpr rfl)⟩
  | _ => cases result <;> exact explained.later _

/-- Every draw that ever began is explained. -/
def AllExplained (start : Traffic) (moves : List Move) (traffic : Traffic) : Prop :=
  ∀ index draw, traffic.calls[index]? = some (.draw draw) → start.Explained moves index draw

theorem AllExplained.append {call : Call} (explained : start.AllExplained moves before)
    (fresh : ∀ index draw, call = .draw draw → start.Explained (moves ++ [move]) index draw)
    (joined : after.calls = before.calls ++ [call]) :
    start.AllExplained (moves ++ [move]) after := by
  intro index draw found
  rw [joined, List.getElem?_append] at found
  split at found
  · exact (explained index draw found).later [move]
  · obtain ⟨_, same⟩ := List.getElem?_eq_some_iff.mp found
    exact fresh index draw (by simpa using same)

theorem AllExplained.set {target : Nat} {next : Call}
    (explained : start.AllExplained moves before)
    (goes : ∀ draw, next = .draw draw → start.Explained (moves ++ [move]) target draw)
    (replaced : after.calls = before.calls.set target next) :
    start.AllExplained (moves ++ [move]) after := by
  intro index draw found
  rw [replaced, List.getElem?_set] at found
  split at found
  · rename_i same
    subst same
    obtain ⟨_, became⟩ := Option.ite_none_right_eq_some.mp found
    exact goes draw (Option.some.inj became)
  · exact (explained index draw found).later [move]

/-- A move keeps all explained; only an open pipeline has calls that take steps. -/
theorem explained_moved (ran : start.run? moves = some before) (accounted : before.Accounted)
    (settled : before.isOpen = true → before.Settled)
    (explained : start.AllExplained moves before) (moved : Moved before move after) :
    start.AllExplained (moves ++ [move]) after := by
  have same (kept : after.calls = before.calls) : start.AllExplained (moves ++ [move]) after := by
    intro index draw found
    rw [kept] at found
    exact (explained index draw found).later [move]
  cases moved with
  | draw state pass _ =>
      refine explained.append (fun index draw began => ?_) rfl
      cases began
      trivial
  | optimize entry _ _ => exact explained.append (fun _ _ began => by cases began) rfl
  | step index call found running =>
      have isOpen := accounted.isOpen found running
      refine explained.set (fun draw stepped => ?_) rfl
      cases call with
      | draw current =>
          cases stepped
          exact explained_step ran (settled isOpen) found (explained index current found)
      | optimize current => cases stepped
  | answer index call result found _ _ =>
      refine explained.set (fun draw answered => ?_) rfl
      cases call with
      | draw current =>
          cases answered
          exact explained_answer result (explained index current found)
      | optimize current => cases answered
  | offer entry handle _ _ _ =>
      refine same ?_
      unfold offer
      split <;> rfl
  | _ => exact same rfl

theorem explained_run {shaders : ShaderSet} {optimizes reports : Bool}
    (ran : (Traffic.start shaders optimizes reports).run? moves = some traffic) :
    (Traffic.start shaders optimizes reports).AllExplained moves traffic := by
  -- The reasons speak about the moves made so far, so the last move is taken off.
  induction moves using List.reverseRecOn generalizing traffic with
  | nil =>
      cases ran
      exact fun index draw found => nomatch found
  | append_singleton moves move ih =>
      obtain ⟨before, earlier, last⟩ := Run.final?_append_eq_some_iff.mp ran
      obtain ⟨next, moved, done⟩ := Run.final?_cons_eq_some_iff.mp last
      obtain rfl : next = traffic := Option.some.inj done
      exact explained_moved earlier (accounted_run earlier) (settled_run earlier) (ih earlier)
        (moved_of_move? moved)

/-! ### One instance for each combination -/

theorem length_entries (accounted : traffic.Accounted) (isOpen : traffic.isOpen = true) :
    traffic.shared.entries.length = traffic.shared.pipeline.instances.length := by
  apply List.filterMap_length_eq_length.mpr
  intro entry listed
  obtain ⟨item, present⟩ := accounted.listed isOpen listed
  rw [present]
  rfl

theorem handled_entries (settled : traffic.Settled) :
    ∀ item ∈ traffic.shared.entries, item.handle.isSome := by
  intro item member
  obtain ⟨entry, listed, present⟩ := Shared.mem_entries_iff.mp member
  exact settled.distinct.handled entry listed item present

theorem listed_earlier {earlier later : List Move} (initial : start.Accounted)
    (ran : start.run? (earlier ++ later) = some traffic) (reached : start.run? earlier = some before) :
    before.shared.pipeline.instances <+: traffic.shared.pipeline.instances := by
  obtain ⟨middle, first, rest⟩ := Run.final?_append_eq_some_iff.mp ran
  obtain rfl : before = middle := Option.some.inj (reached.symm.trans first)
  exact (grows_run (initial.later reached) rest).listed

theorem entry_of_finished {handle : PipelineHandle} (settled : traffic.Settled)
    (found : traffic.calls[index]? = some (.draw ⟨state, pass, .finished (some handle)⟩)) :
    ∃ item ∈ traffic.shared.entries, item.combination = (state, pass.format) ∧
      handle ∈ item.handles ∧
      ∀ other ∈ traffic.shared.entries, other.combination = (state, pass.format) → other = item := by
  obtain ⟨entry, item, serving, owned⟩ := settled.founded _ (List.mem_of_getElem? found)
  have member := Shared.mem_entries_iff.mpr ⟨entry, serving.member, serving.present⟩
  refine ⟨item, member, serving.combination, owned, fun other otherMember same => ?_⟩
  exact List.inj_on_of_nodup_map settled.distinct.nodup otherMember member
    (same.trans serving.combination.symm)

/-- As long as a pipeline is there, no two instances in its list serve one state and format, each of
them has a handle, and the list only ever grows at its end. A draw that returns nothing found nothing
at its first look, and was rejected or not compiled by the device; every other draw that returns has
a handle of the one instance that serves its combination. And every draw comes to its end. -/
theorem one_instance_per_combination {shaders : ShaderSet} {optimizes reports : Bool}
    (ran : (Traffic.start shaders optimizes reports).run? moves = some traffic)
    (isOpen : traffic.isOpen = true) :
    traffic.shared.entries.length = traffic.shared.pipeline.instances.length ∧
    (traffic.shared.entries.map Instance.combination).Nodup ∧
    (∀ item ∈ traffic.shared.entries, item.handle.isSome) ∧
    (∀ earlier later before, moves = earlier ++ later →
      (Traffic.start shaders optimizes reports).run? earlier = some before →
      before.shared.pipeline.instances <+: traffic.shared.pipeline.instances) ∧
    (∀ (index : Nat) state pass,
      traffic.calls[index]? = some (.draw ⟨state, pass, .finished none⟩) →
      (Traffic.start shaders optimizes reports).Missed moves index state pass ∧
        ((∃ fault, state.validate shaders pass.format = .error fault) ∨ Refused moves index)) ∧
    (∀ (index : Nat) state pass handle,
      traffic.calls[index]? = some (.draw ⟨state, pass, .finished (some handle)⟩) →
      ∃ item ∈ traffic.shared.entries, item.combination = (state, pass.format) ∧
        handle ∈ item.handles ∧
        ∀ other ∈ traffic.shared.entries, other.combination = (state, pass.format) →
          other = item) ∧
    (∀ (index : Nat) draw, traffic.calls[index]? = some (.draw draw) →
      (∃ result, draw.position = .finished result) ∨
        ((draw.request? traffic.shared).isSome ∧
          ∀ result, (draw.answer result).rest < draw.rest) ∨
        (draw.step traffic.shared).1.rest < draw.rest) := by
  have settled := settled_run ran isOpen
  refine ⟨length_entries (accounted_run ran) isOpen, settled.distinct.nodup,
    handled_entries settled, ?_, ?_, ?_, ?_⟩
  · rintro earlier later before rfl reached
    exact listed_earlier (accounted_start shaders optimizes reports) ran reached
  · intro index state pass found
    exact explained_run ran index _ found
  · intro index state pass handle found
    exact entry_of_finished settled found
  · intro index draw _
    exact draw.rest_lowered traffic.shared

/-- An instance compiled ahead is adopted while a draw compiles for the same state, so the draw takes
its handle instead; another draw is rejected. -/
def contest (first second : PipelineHandle) : List Move :=
  [.build {} ⟨1, {}⟩, .optimize 0, .draw {} ⟨1, {}⟩, .step 1, .step 1, .step 0, .step 0,
    .answer 0 (.ok first), .answer 1 (.ok second), .step 0, .step 0, .step 0,
    .step 1, .step 1, .step 1,
    .draw { inputAssembly := { patchVertexCount := 3 } } ⟨1, {}⟩, .step 2, .step 2]

theorem one_instance_per_combination_contest : ∃ traffic,
    (Traffic.start {} false false).run? (contest ⟨1, by decide⟩ ⟨2, by decide⟩) = some traffic ∧
    traffic.shared.entries.length = 1 ∧
    (traffic.shared.entries.map Instance.combination).Nodup ∧
    traffic.calls[1]?.bind Call.handle? = some ⟨1, by decide⟩ ∧
    (Traffic.start {} false false).Missed (contest ⟨1, by decide⟩ ⟨2, by decide⟩) 2
      { inputAssembly := { patchVertexCount := 3 } } ⟨1, {}⟩ := by
  have ran : (Traffic.start {} false false).run? (contest ⟨1, by decide⟩ ⟨2, by decide⟩) =
      some (((Traffic.start {} false false).run?
        (contest ⟨1, by decide⟩ ⟨2, by decide⟩)).get (by decide)) :=
    (Option.some_get _).symm
  obtain ⟨_, distinct, _, _, missed, _⟩ := one_instance_per_combination ran (by decide)
  exact ⟨_, ran, by decide, distinct, by decide, (missed 2 _ _ (by decide)).1⟩

end Traffic

end PipelineCache

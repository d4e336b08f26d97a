import PipelineCache.Proofs.Traffic.Audit

/-! What one step of a call adds to the ledger. Where a draw stands says what it has left there: nothing at
first, then the instance that it has pushed, then the report and the submission of that same instance, in
this order; or the instance that it has found, and nothing else. An optimization leaves at most adoptions,
and all other actions leave nothing. -/

namespace PipelineCache

variable {shared : Shared} {shaders : ShaderSet} {index : Nat} {left : List (Deed × Dealing)}

/-- The instances that a step appends to the list. -/
def Call.joined (call : Call) (shared : Shared) : List InstanceId :=
  (call.step shared).2.1.pipeline.instances.drop shared.pipeline.instances.length

/-- What a step of a call does with instances. -/
def Call.deeds (call : Call) (shared : Shared) : List (Deed × InstanceId) :=
  let submitted := (call.step shared).2.2.filterMap Event.passed?
  match call with
  | .draw current =>
      current.found?.toList.map (.found, ·) ++ ((call.joined shared).map (.pushed, ·) ++ submitted)
  | .optimize _ => (call.joined shared).map (.adopted, ·) ++ submitted

def Call.dealings (call : Call) (shared : Shared) (index : Nat) : List (Deed × Dealing) :=
  (call.deeds shared).map fun (deed, entry) =>
    (deed, ⟨some index, entry, (call.step shared).2.1.key? entry⟩)

def Draw.dealing (draw : Draw) (shaders : ShaderSet) (index : Nat) (entry : InstanceId) : Dealing :=
  ⟨some index, entry, some ⟨shaders.keys, draw.state, draw.pass.format⟩⟩

/-- What a draw has left in the ledger: nothing until it has found or pushed an instance, and the
submissions of that instance only if it was pushed. -/
def Draw.HasLeft (draw : Draw) (shaders : ShaderSet) (index : Nat) (left : List (Deed × Dealing)) :
    Prop :=
  let dealing := draw.dealing shaders index
  match draw.position with
  | .counting _ entry => left = [(.pushed, dealing entry)]
  | .offering _ entry => left = [(.pushed, dealing entry)]
  | .reporting _ entry => left = [(.pushed, dealing entry)]
  | .queueing _ entry => left = [(.pushed, dealing entry), (.reported, dealing entry)]
  | .finished (some _) => ∃ entry, left = [(.found, dealing entry)] ∨
      left = [(.pushed, dealing entry), (.reported, dealing entry), (.queued, dealing entry)]
  | _ => left = []

def Call.HasLeft (call : Call) (shaders : ShaderSet) (index : Nat) (left : List (Deed × Dealing)) :
    Prop :=
  match call with
  | .draw current => current.HasLeft shaders index left
  | .optimize _ => ∀ deal ∈ left, deal.1 = .adopted

theorem Shared.Serving.key? {state : PipelineState} {format : RenderPassFormat} {entry : InstanceId}
    {item : Instance} (serving : shared.Serving state format entry item) :
    shared.key? entry = some ⟨shared.pipeline.keys, state, format⟩ := by
  obtain ⟨rfl, rfl⟩ := Prod.ext_iff.mp serving.combination
  rw [Shared.key?, serving.present]
  rfl

theorem Shared.key?_enlist (shared : Shared) (state : PipelineState) (pass : RenderPass)
    (handle : PipelineHandle) :
    (shared.enlist state pass handle).2.key? (shared.enlist state pass handle).1 =
      some ⟨shared.pipeline.keys, state, pass.format⟩ := by
  rw [key?, enlist, Store.get?_add, if_pos rfl]
  rfl

theorem Shared.drop_enlist (shared : Shared) (state : PipelineState) (pass : RenderPass)
    (handle : PipelineHandle) :
    (shared.enlist state pass handle).2.pipeline.instances.drop shared.pipeline.instances.length =
      [(shared.enlist state pass handle).1] :=
  List.drop_left

/-- A step adds to what a draw has left what the draw's new place asks for. -/
theorem Draw.hasLeft_step {draw : Draw} (founded : draw.Founded shared) (distinct : shared.Distinct)
    (outfit : shared.pipeline.outfit = (shaders, true, true))
    (before : draw.HasLeft shaders index left) :
    (draw.step shared).1.HasLeft shaders index (left ++ Call.dealings (.draw draw) shared index) := by
  have keys : shared.pipeline.keys = shaders.keys := congrArg (fun outfit => outfit.1.keys) outfit
  have optimizes : shared.pipeline.optimizes = true := congrArg (fun outfit => outfit.2.1) outfit
  have reports : shared.pipeline.reports = true := congrArg (fun outfit => outfit.2.2) outfit
  obtain ⟨state, pass, position⟩ := draw
  simp only [Call.dealings, Call.deeds, Call.joined, Call.step]
  cases position with
  | scanning =>
      obtain rfl : left = [] := before
      simp only [step]
      split <;> simp [HasLeft, moveTo, found?]
  | reading entry =>
      obtain rfl : left = [] := before
      obtain ⟨item, serving⟩ := founded
      have handled := distinct.handled entry serving.member item serving.present
      obtain ⟨handle, drawn⟩ := Option.isSome_iff_exists.mp handled
      simp only [step, serving.present, Option.bind_some, drawn]
      refine ⟨entry, Or.inl ?_⟩
      simp [found?, moveTo, dealing, serving.key?, keys]
  | preparing =>
      obtain rfl : left = [] := before
      simp only [step]
      split <;> simp [HasLeft, moveTo, found?, Event.passed?]
  | enlisting handle =>
      obtain rfl : left = [] := before
      simp only [step]
      split
      · simp [HasLeft, moveTo, found?]
      · simp [HasLeft, moveTo, found?, dealing, Shared.drop_enlist, Shared.key?_enlist, keys]
  | counting handle entry =>
      obtain rfl : left = [(.pushed, dealing _ shaders index entry)] := before
      simp [step, HasLeft, moveTo, found?, Shared.count, dealing]
  | offering handle entry =>
      obtain rfl : left = [(.pushed, dealing _ shaders index entry)] := before
      simp [step, HasLeft, moveTo, found?, Pipeline.offerParent, dealing]
  | reporting handle entry =>
      obtain ⟨item, serving, _⟩ := founded
      obtain rfl : left = [(.pushed, dealing _ shaders index entry)] := before
      simp [step, HasLeft, moveTo, found?, dealing, reports, Event.passed?, serving.key?, keys]
  | queueing handle entry =>
      obtain ⟨item, serving, _⟩ := founded
      obtain rfl : left = [(.pushed, dealing _ shaders index entry),
        (.reported, dealing _ shaders index entry)] := before
      refine ⟨entry, Or.inr ?_⟩
      simp [step, moveTo, found?, dealing, optimizes, Event.passed?, serving.key?, keys]
  | finished result => simpa [step, found?] using before
  | compiling parent =>
      obtain rfl : left = [] := before
      simp [step, HasLeft, found?]
  | failing error =>
      obtain rfl : left = [] := before
      simp [step, HasLeft, moveTo, found?, Shared.countFailure, Shared.count, Event.passed?]
  | discarding handle entry =>
      obtain rfl : left = [] := before
      simp [step, HasLeft, moveTo, found?, Event.passed?]

/-- An optimization passes nothing on. -/
theorem Optimization.passed_step (optimization : Optimization) (shared : Shared) :
    (optimization.step shared).2.2.filterMap Event.passed? = [] := by
  obtain ⟨entry, position⟩ := optimization
  cases present : shared.store.get? entry with
  | none => simp only [step, present, List.filterMap_nil]
  | some realized =>
      cases position with
      | preparing =>
          simp only [step, present]
          split <;> rfl
      | installing handle =>
          simp only [step, present]
          split <;> rfl
      | adopting handle =>
          simp only [step, present, adoption]
          split
          · rfl
          · split <;> rfl
      | _ =>
          simp only [step, present]
          rfl

theorem Call.hasLeft_step {call : Call} (founded : call.Founded shared) (distinct : shared.Distinct)
    (outfit : shared.pipeline.outfit = (shaders, true, true)) (before : call.HasLeft shaders index left) :
    (call.step shared).1.HasLeft shaders index (left ++ call.dealings shared index) := by
  cases call with
  | draw current => exact current.hasLeft_step founded distinct outfit before
  | optimize current =>
      intro deal member
      rcases List.mem_append.mp member with old | new
      · exact before deal old
      · obtain ⟨⟨deed, entry⟩, done, rfl⟩ := List.mem_map.mp new
        simp only [deeds, step, current.passed_step, List.append_nil] at done
        obtain ⟨_, _, same⟩ := List.mem_map.mp done
        cases same
        rfl

/-- The answer of the device leaves nothing in the ledger. -/
theorem Call.hasLeft_answer {call : Call} (waits : (call.request? shared).isSome)
    (result : Except CacheError PipelineHandle) (before : call.HasLeft shaders index left) :
    (call.answer result).HasLeft shaders index left := by
  rcases position_of_waits waits with ⟨state, pass, parent, rfl⟩ | ⟨entry, parent, rfl⟩
  · cases result <;> exact before
  · exact before

namespace Traffic

variable {before after traffic : Traffic} {action : Action} {call : Call}

/-- What a call that has perhaps not begun has left in the ledger. -/
def HasLeft (shaders : ShaderSet) (index : Nat) (call? : Option Call) (left : List (Deed × Dealing)) :
    Prop :=
  match call? with
  | none => left = []
  | some call => call.HasLeft shaders index left

/-- An action that is not a step changes nothing in the pipeline, makes no submission visible, and leaves
each call with what it had in the ledger. -/
structure Passive (before : Traffic) (action : Action) (after : Traffic) : Prop where
  nobody : action.caller? = none
  pipeline : after.shared.pipeline = before.shared.pipeline
  silent : before.deeds action after = []
  calls : ∀ {shaders index left}, HasLeft shaders index before.calls[index]? left →
    HasLeft shaders index after.calls[index]? left

theorem deeds_eq_nil (nobody : action.caller? = none)
    (pipeline : after.shared.pipeline = before.shared.pipeline) {seen : List Happening}
    (history : after.history = before.history ++ seen)
    (silent : seen.filterMap Happening.passed? = []) : before.deeds action after = [] := by
  simp [deeds, Action.draw?, nobody, pipeline, history, silent]

theorem hasLeft_append {shaders : ShaderSet} {index : Nat} {left : List (Deed × Dealing)}
    {calls : List Call} (fresh : call.HasLeft shaders calls.length [])
    (before : HasLeft shaders index calls[index]? left) :
    HasLeft shaders index (calls ++ [call])[index]? left := by
  rcases Nat.lt_trichotomy index calls.length with inside | same | beyond
  · rwa [List.getElem?_append_left inside]
  · subst same
    rw [List.getElem?_eq_none (Nat.le_refl _)] at before
    obtain rfl : left = [] := before
    rw [List.getElem?_concat_length]
    exact fresh
  · rw [List.getElem?_eq_none (Nat.le_of_lt beyond)] at before
    have outside : (calls ++ [call]).length ≤ index := by
      rw [List.length_append, List.length_singleton]
      exact beyond
    rw [List.getElem?_eq_none outside]
    exact before

theorem hasLeft_receive {shaders : ShaderSet} {index target : Nat} {left : List (Deed × Dealing)}
    (found : before.calls[target]? = some call) (waits : (call.request? before.shared).isSome)
    (result : Except CacheError PipelineHandle)
    (had : HasLeft shaders index before.calls[index]? left) :
    HasLeft shaders index (before.receive target call result).calls[index]? left := by
  change HasLeft shaders index (before.calls.set target (call.answer result))[index]? left
  by_cases same : target = index
  · subst same
    rw [found] at had
    rw [List.getElem?_set_self (List.getElem?_eq_some_iff.mp found).1]
    exact call.hasLeft_answer waits result had
  · rw [List.getElem?_set_ne same]
    exact had

/-- An action is a step of a call or does nothing that the ledger notes. -/
theorem passive_or_step (acted : Acted before action after) : Passive before action after ∨
    ∃ index call, action = .move (.step index) ∧ before.calls[index]? = some call ∧
      call.isFinished = false ∧ after = before.advance index call := by
  cases acted with
  | move move _ moved =>
      cases moved with
      | draw state pass isOpen =>
          refine Or.inl ⟨rfl, rfl, deeds_eq_nil rfl rfl (List.append_nil _).symm rfl, ?_⟩
          exact hasLeft_append rfl
      | optimize entry isOpen member =>
          refine Or.inl ⟨rfl, rfl, deeds_eq_nil rfl rfl (List.append_nil _).symm rfl, ?_⟩
          exact hasLeft_append fun _ member => nomatch member
      | step index call found running => exact Or.inr ⟨index, call, rfl, found, running, rfl⟩
      | answer index call result found waits _ =>
          refine Or.inl ⟨rfl, rfl, deeds_eq_nil rfl rfl rfl ?_, hasLeft_receive found waits result⟩
          cases result <;> rfl
      | drop entry member =>
          refine Or.inl ⟨rfl, rfl, deeds_eq_nil rfl rfl rfl ?_, id⟩
          simp [List.filterMap_map, Happening.passed?]
      | offer entry handle item present fresh =>
          unfold offer
          split
          · exact Or.inl ⟨rfl, rfl, deeds_eq_nil rfl rfl rfl rfl, id⟩
          · exact Or.inl ⟨rfl, rfl, deeds_eq_nil rfl rfl rfl rfl, id⟩
      | close isOpen quiet =>
          refine Or.inl ⟨rfl, rfl, deeds_eq_nil rfl rfl rfl ?_, id⟩
          simp [List.filterMap_map, Happening.passed?]
      | _ => exact Or.inl ⟨rfl, rfl, deeds_eq_nil rfl rfl (List.append_nil _).symm rfl, id⟩
  | reply index call result found waits =>
      refine Or.inl ⟨rfl, rfl, deeds_eq_nil rfl rfl rfl ?_, hasLeft_receive found waits result⟩
      cases result <;> rfl
  | bring item => exact Or.inl ⟨rfl, rfl, deeds_eq_nil rfl rfl (List.append_nil _).symm rfl, id⟩

theorem dealings_step {index : Nat} (found : traffic.calls[index]? = some call) :
    traffic.dealings (.move (.step index)) (traffic.advance index call) =
      call.dealings traffic.shared index := by
  have draw : Action.draw? (.move (.step index)) traffic =
      match call with
      | .draw draw => some draw
      | .optimize _ => none := by
    simp only [Action.draw?, Action.caller?, Option.bind_some, found]
    cases call <;> rfl
  have shown : ((call.step traffic.shared).2.2.map (Happening.shown call.mode)).filterMap
      Happening.passed? = (call.step traffic.shared).2.2.filterMap Event.passed? := by
    rw [List.filterMap_map]
    rfl
  rw [dealings, deeds, draw, history_advance, List.drop_left, shown]
  cases call <;> rfl

end Traffic

/-! ### What joins the list -/

namespace Call

/-- The dealings with what a step appends to the list. -/
def joining (call : Call) (shared : Shared) (index : Nat) : List Dealing :=
  (call.joined shared).map fun entry => ⟨some index, entry, (call.step shared).2.1.key? entry⟩

theorem filter_passed (events : List Event) {deed : Deed} (first : deed ≠ .reported)
    (second : deed ≠ .queued) : (events.filterMap Event.passed?).filter (·.1 = deed) = [] := by
  apply List.filter_eq_nil_iff.mpr
  intro deal member
  obtain ⟨event, _, same⟩ := List.mem_filterMap.mp member
  cases event with
  | reported entry =>
      cases same
      simpa using first.symm
  | queued entry =>
      cases same
      simpa using second.symm
  | _ => cases same

theorem filter_map_pair (deed other : Deed) (entries : List InstanceId) :
    (entries.map (other, ·)).filter (·.1 = deed) =
      if other = deed then entries.map (other, ·) else [] := by
  split
  · rename_i same
    simp [same]
  · rename_i different
    simp [different]

theorem done_dealings (call : Call) (shared : Shared) (index : Nat) (deed : Deed) :
    Ledger.done deed (call.dealings shared index) =
      ((call.deeds shared).filter (·.1 = deed)).map fun (_, entry) =>
        ⟨some index, entry, (call.step shared).2.1.key? entry⟩ := by
  rw [Ledger.done, dealings, List.filter_map, List.map_map]
  rfl

/-- What joins the list by a step of a draw was pushed. -/
theorem done_draw (current : Draw) (shared : Shared) (index : Nat) :
    Ledger.done .pushed (dealings (.draw current) shared index) = joining (.draw current) shared index ∧
      Ledger.done .adopted (dealings (.draw current) shared index) = [] := by
  simp [done_dealings, deeds, joining, filter_passed, filter_map_pair, Function.comp_def]

/-- What joins the list by a step of an optimization was adopted. -/
theorem done_optimize (current : Optimization) (shared : Shared) (index : Nat) :
    Ledger.done .pushed (dealings (.optimize current) shared index) = [] ∧
      Ledger.done .adopted (dealings (.optimize current) shared index) =
        joining (.optimize current) shared index := by
  simp [done_dealings, deeds, joining, filter_passed, filter_map_pair, Function.comp_def]

theorem map_entry_joining (call : Call) (shared : Shared) (index : Nat) :
    (call.joining shared index).map Dealing.entry = call.joined shared := by
  rw [joining, List.map_map]
  exact List.map_id _

/-- A step of a draw appends nothing, or one instance that serves what nothing in the list served. -/
theorem joining_draw (current : Draw) (shared : Shared) (index : Nat) :
    joining (.draw current) shared index = [] ∨ ∃ entry,
      shared.find? current.state current.pass.format = none ∧
      joining (.draw current) shared index =
        [⟨some index, entry, some ⟨shared.pipeline.keys, current.state, current.pass.format⟩⟩] := by
  obtain ⟨state, pass, position⟩ := current
  have nothing (same : (Draw.step ⟨state, pass, position⟩ shared).2.1.pipeline.instances =
      shared.pipeline.instances) : joining (.draw ⟨state, pass, position⟩) shared index = [] := by
    simp [joining, joined, step, same]
  cases position with
  | enlisting handle =>
      cases found : shared.find? state pass.format with
      | some entry =>
          refine Or.inl (nothing ?_)
          simp only [Draw.step, found]
      | none =>
          refine Or.inr ⟨(shared.enlist state pass handle).1, rfl, ?_⟩
          simp [joining, joined, step, Draw.step, found, Shared.drop_enlist, Shared.key?_enlist]
  | scanning =>
      refine Or.inl (nothing ?_)
      simp only [Draw.step]
      split <;> rfl
  | preparing =>
      refine Or.inl (nothing ?_)
      simp only [Draw.step]
      split <;> rfl
  | _ => exact Or.inl (nothing rfl)

end Call

end PipelineCache

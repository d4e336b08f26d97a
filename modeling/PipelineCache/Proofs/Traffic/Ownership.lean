import Mathlib.Data.List.Nodup
import PipelineCache.Proofs.Traffic.Holders

/-! Every handle has one owner. A handle that the device has issued is carried by one call, or stands in
one slot of one instance, or has been destroyed once; and it changes from one of these to the next. So
nothing is destroyed twice or while an instance holds it, and nothing is lost. -/

namespace PipelineCache.Traffic

variable {before after traffic : Traffic} {move : Move} {moves : List Move} {index : Nat} {call : Call}

/-! ### The history -/

theorem issued_shown (mode : CompileMode) (events : List Event) :
    (events.map (Happening.shown mode)).filterMap Happening.issued? = [] := by
  simp [List.filterMap_map, Happening.issued?]

theorem destroyed_shown (mode : CompileMode) (events : List Event) :
    (events.map (Happening.shown mode)).filterMap Happening.destroyed? =
      events.filterMap Event.destroyed? := by
  rw [List.filterMap_map]
  rfl

theorem issued_dropped (handles : List PipelineHandle) :
    (handles.map Happening.dropped).filterMap Happening.issued? = [] := by
  simp [List.filterMap_map, Happening.issued?]

theorem destroyed_dropped (handles : List PipelineHandle) :
    (handles.map Happening.dropped).filterMap Happening.destroyed? = handles := by
  rw [List.filterMap_map]
  exact List.filterMap_some

theorem issued_advance (traffic : Traffic) (index : Nat) (call : Call) :
    (traffic.advance index call).issued = traffic.issued := by
  rw [issued, history_advance, List.filterMap_append, issued_shown, List.append_nil]
  rfl

theorem destroyed_advance (traffic : Traffic) (index : Nat) (call : Call) :
    (traffic.advance index call).destroyed =
      traffic.destroyed ++ (call.step traffic.shared).2.2.filterMap Event.destroyed? := by
  rw [destroyed, history_advance, List.filterMap_append, destroyed_shown]
  rfl

theorem issued_receive (traffic : Traffic) (index : Nat) (call : Call)
    (result : Except CacheError PipelineHandle) :
    (traffic.receive index call result).issued = traffic.issued ++ result.toOption.toList := by
  cases result <;> simp [issued, receive, Happening.issued?, Except.toOption]

theorem destroyed_receive (traffic : Traffic) (index : Nat) (call : Call)
    (result : Except CacheError PipelineHandle) :
    (traffic.receive index call result).destroyed = traffic.destroyed := by
  cases result <;> simp [destroyed, receive, Happening.destroyed?]

/-! ### Conservation -/

/-- The device issues no handle twice, and each has exactly one owner. -/
structure Conserved (traffic : Traffic) : Prop where
  fresh : traffic.issued.Nodup
  owned : ∀ handle, traffic.carried.count handle + traffic.stored.count handle +
    traffic.destroyed.count handle = traffic.issued.count handle

theorem conserved_start (shaders : ShaderSet) (optimizes reports : Bool) :
    (start shaders optimizes reports).Conserved where
  fresh := List.nodup_nil
  owned _ := rfl

/-- A step moves the handle that its call carries, and leaves all other handles where they are. -/
theorem conserves_effect {shared changed : Shared} {next : Call} {destroyed : List PipelineHandle}
    (effect : call.Effect shared next changed destroyed) (handle : PipelineHandle) :
    next.carried.count handle + changed.store.handles.count handle + destroyed.count handle =
      call.carried.count handle + shared.store.handles.count handle := by
  cases effect with
  | quiet store _ carried spared => rw [store, carried, spared, List.count_nil, Nat.add_zero]
  | enlists state pass target position _ store _ carried spared =>
      rw [store, carried, spared, position, Store.handles_add, List.count_append]
      simp only [Call.carried, Draw.carried, Instance.handles, Option.toList_some,
        Option.toList_none, List.append_nil, List.count_nil]
      omega
  | installs entry target position set _ carried spared =>
      rw [carried, spared, position, Store.count_handles_install set]
      simp only [Call.carried, Optimization.carried, List.count_nil]
      omega
  | adopts entry target item position _ _ store _ carried spared =>
      rw [store, carried, spared, position, Store.count_handles_hold]
      rfl
  | discards target store _ had carried gone =>
      rw [store, carried, gone, had, List.count_nil]
      omega

/-- Every handle gains as many owners as it is issued times. -/
def Balances (before after : Traffic) : Prop := ∀ handle,
  after.carried.count handle + after.stored.count handle + after.destroyed.count handle +
      before.issued.count handle =
    before.carried.count handle + before.stored.count handle + before.destroyed.count handle +
      after.issued.count handle

theorem balances_advance (accounted : before.Accounted) (found : before.calls[index]? = some call)
    (running : call.isFinished = false) : before.Balances (before.advance index call) := by
  intro handle
  have effect := call.effect_step before.shared running (accounted.borrowed found)
  have moved := conserves_effect effect handle
  -- What the other calls carry stays, so all sums change by what this call moves.
  obtain ⟨inside, same⟩ := List.getElem?_eq_some_iff.mp found
  have exchanged := count_flatMap_set Call.carried before.calls
    (call.step before.shared).1 handle index inside
  rw [same] at exchanged
  rw [issued_advance, destroyed_advance, List.count_append]
  simp only [carried, stored, calls_advance, shared_advance]
  omega

theorem balances_receive (found : before.calls[index]? = some call)
    (waits : (call.request? before.shared).isSome) (result : Except CacheError PipelineHandle) :
    before.Balances (before.receive index call result) := by
  intro handle
  obtain ⟨inside, same⟩ := List.getElem?_eq_some_iff.mp found
  have exchanged := count_flatMap_set Call.carried before.calls (call.answer result) handle index
    inside
  obtain ⟨empty, got⟩ := Call.carried_answer waits result
  rw [same, empty, got, List.count_nil] at exchanged
  rw [issued_receive, destroyed_receive, List.count_append]
  simp only [carried, stored, receive]
  omega

theorem balances_offer (traffic : Traffic) (entry : InstanceId) (handle : PipelineHandle) :
    traffic.Balances (traffic.offer entry handle) := by
  intro target
  unfold offer
  split
  · rename_i store set
    have installed := Store.count_handles_install set target
    simp only [carried, stored, issued, destroyed, List.filterMap_append, List.count_append,
      List.filterMap_cons, List.filterMap_nil, Happening.issued?, Happening.destroyed?, List.count_nil]
      at installed ⊢
    omega
  · simp only [carried, stored, issued, destroyed, List.filterMap_append, List.count_append,
      List.filterMap_cons, List.filterMap_nil, Happening.issued?, Happening.destroyed?]
    omega

theorem balances_moved (accounted : before.Accounted) (moved : Moved before move after) :
    before.Balances after := by
  cases moved with
  | draw state pass isOpen =>
      intro handle
      rw [show (before.beginDraw state pass).carried = before.carried by
        simp [carried, beginDraw, Call.carried, Draw.carried]]
      rfl
  | optimize entry isOpen member =>
      intro handle
      rw [show (before.beginOptimization entry).carried = before.carried by
        simp [carried, beginOptimization, Call.carried, Optimization.carried]]
      rfl
  | step index call found running => exact balances_advance accounted found running
  | answer index call result found waits _ => exact balances_receive found waits result
  | build state pass =>
      intro handle
      rw [show (before.build state pass).stored = before.stored by
        simp [stored, build, Store.handles_add, Instance.handles]]
      rfl
  | share entry item _ =>
      intro handle
      rw [stored, share, Store.count_handles_hold]
      rfl
  -- What the last holder of an instance gives up counts as destroyed.
  | drop entry member =>
      intro handle
      have released := before.shared.store.count_handles_release entry handle
      simp only [carried, stored, issued, destroyed, drop, List.filterMap_append,
        issued_dropped, destroyed_dropped, List.count_append, List.count_nil] at released ⊢
      omega
  | offer entry handle _ _ _ => exact before.balances_offer entry handle
  | close isOpen quiet =>
      intro handle
      have released := before.shared.store.count_handles_releaseAll
        before.shared.pipeline.instances handle
      simp only [carried, stored, issued, destroyed, close, List.filterMap_append,
        issued_dropped, destroyed_dropped, List.count_append, List.count_nil] at released ⊢
      omega

/-- The device issues a new handle, or none. -/
theorem nodup_issued_moved (fresh : before.issued.Nodup) (moved : Moved before move after) :
    after.issued.Nodup := by
  cases moved with
  | step index call _ _ => rwa [issued_advance]
  | answer index call result _ _ new =>
      rw [issued_receive]
      cases result with
      | error _ => simpa [Except.toOption] using fresh
      | ok handle => simpa [Except.toOption] using fresh.concat (new handle rfl)
  | offer entry handle _ _ new =>
      have grown : (before.offer entry handle).issued = before.issued ++ [handle] := by
        unfold offer
        split <;> simp [issued, List.filterMap_cons, Happening.issued?]
      rw [grown]
      simpa using fresh.concat new
  | drop entry _ =>
      rw [issued, drop, List.filterMap_append, issued_dropped, List.append_nil]
      exact fresh
  | close _ _ =>
      rw [issued, close, List.filterMap_append, issued_dropped, List.append_nil]
      exact fresh
  | _ => exact fresh

theorem conserved_moved (accounted : before.Accounted) (conserved : before.Conserved)
    (moved : Moved before move after) : after.Conserved := by
  refine ⟨nodup_issued_moved conserved.fresh moved, fun handle => ?_⟩
  have owned := conserved.owned handle
  have balanced := balances_moved accounted moved handle
  omega

theorem conserved_run {shaders : ShaderSet} {optimizes reports : Bool}
    (ran : (start shaders optimizes reports).run? moves = some traffic) : traffic.Conserved := by
  have keeps (middle : Traffic) (move : Move) (next : Traffic) (accounted : middle.Accounted)
      (conserved : middle.Conserved) (moved : Moved middle move next) : next.Conserved :=
    conserved_moved accounted conserved moved
  exact (kept_run keeps (accounted_start shaders optimizes reports)
    (conserved_start shaders optimizes reports) ran).2

/-! ### The end -/

theorem carried_of_quiet (quiet : traffic.isQuiet) : traffic.carried = [] := by
  apply List.flatMap_eq_nil_iff.mpr
  intro call member
  have finished := List.all_eq_true.mp quiet call member
  cases call with
  | draw current =>
      obtain ⟨state, pass, position⟩ := current
      cases position <;> first | rfl | cases finished
  | optimize current =>
      obtain ⟨entry, position⟩ := current
      cases position <;> first | rfl | cases finished

theorem borrowed_of_quiet (quiet : traffic.isQuiet) : traffic.calls.flatMap Call.borrowed = [] := by
  apply List.flatMap_eq_nil_iff.mpr
  intro call member
  have finished := List.all_eq_true.mp quiet call member
  cases call with
  | draw current => rfl
  | optimize current => simp only [Call.borrowed, finished, if_true]

theorem stored_eq_nil (accounted : traffic.Accounted) (quiet : traffic.isQuiet)
    (closed : traffic.isOpen = false) (alone : traffic.references = []) : traffic.stored = [] := by
  have nobody : traffic.holdings = [] := by
    simp [holdings, alone, borrowed_of_quiet quiet, listed, closed]
  apply Store.handles_eq_nil
  intro id
  cases present : traffic.shared.store.get? id with
  | none => rfl
  | some item =>
      have held := Store.holders_pos_of_get? accounted.sound present
      rw [accounted.holders, nobody] at held
      cases held

/-- Every issued handle is owned in exactly one way: by a call in progress, by a slot of a live
instance, or by having been destroyed. What was destroyed is never destroyed again and stands in no
slot; and when all calls have returned and the pipeline and all references are gone, exactly the
issued handles have been destroyed, each once. -/
theorem handle_conservation {shaders : ShaderSet} {optimizes reports : Bool}
    (ran : (start shaders optimizes reports).run? moves = some traffic) :
    (∀ handle ∈ traffic.issued, traffic.carried.count handle + traffic.stored.count handle +
      traffic.destroyed.count handle = 1) ∧
    (∀ handle, handle ∉ traffic.issued → handle ∉ traffic.carried ∧ handle ∉ traffic.stored ∧
      handle ∉ traffic.destroyed) ∧
    traffic.destroyed.Nodup ∧
    (∀ handle ∈ traffic.destroyed, handle ∉ traffic.stored ∧ handle ∉ traffic.carried) ∧
    (traffic.isQuiet → traffic.isOpen = false → traffic.references = [] →
      traffic.destroyed.Perm traffic.issued) := by
  have conserved := conserved_run ran
  have single (handle : PipelineHandle) : traffic.carried.count handle +
      traffic.stored.count handle + traffic.destroyed.count handle ≤ 1 := by
    rw [conserved.owned]
    exact List.nodup_iff_count_le_one.mp conserved.fresh handle
  refine ⟨fun handle member => ?_, fun handle absent => ?_, ?_, fun handle gone => ?_, ?_⟩
  · rw [conserved.owned]
    exact List.count_eq_one_of_mem conserved.fresh member
  · have owned := conserved.owned handle
    rw [List.count_eq_zero.mpr absent] at owned
    refine ⟨?_, ?_, ?_⟩ <;> apply List.count_eq_zero.mp <;> omega
  · apply List.nodup_iff_count_le_one.mpr
    intro handle
    have bound := single handle
    omega
  · have destroyed := List.count_pos_iff.mpr gone
    have bound := single handle
    constructor <;> apply List.count_eq_zero.mp <;> omega
  · intro quiet closed alone
    apply List.perm_iff_count.mpr
    intro handle
    rw [← conserved.owned, carried_of_quiet quiet,
      stored_eq_nil (accounted_run ran) quiet closed alone]
    simp

/-- Two draws race for one state, the slower one destroys its handle, the instance of the other is
optimized, and then everything is dropped. -/
def race (first second third : PipelineHandle) : List Move :=
  [.draw {} ⟨1, {}⟩, .draw {} ⟨1, {}⟩, .step 0, .step 1, .step 0, .step 1,
    .answer 0 (.ok first), .answer 1 (.ok second),
    .step 0, .step 1, .step 1, .step 1, .step 0, .step 0, .step 0, .step 0,
    .share 0, .optimize 0, .step 2, .step 2, .answer 2 (.ok third),
    .step 2, .step 2, .step 2, .step 2, .drop 0, .close]

theorem handle_conservation_race : ∃ traffic,
    (start {} false false).run? (race ⟨1, by decide⟩ ⟨2, by decide⟩ ⟨3, by decide⟩) = some traffic ∧
    traffic.issued = [⟨1, by decide⟩, ⟨2, by decide⟩, ⟨3, by decide⟩] ∧
    traffic.destroyed.Perm traffic.issued := by
  have ran : (start {} false false).run? (race ⟨1, by decide⟩ ⟨2, by decide⟩ ⟨3, by decide⟩) =
      some (((start {} false false).run?
        (race ⟨1, by decide⟩ ⟨2, by decide⟩ ⟨3, by decide⟩)).get (by decide)) :=
    (Option.some_get _).symm
  exact ⟨_, ran, by decide,
    (handle_conservation ran).2.2.2.2 (by decide) (by decide) (by decide)⟩

end PipelineCache.Traffic

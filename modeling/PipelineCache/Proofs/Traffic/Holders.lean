import PipelineCache.Proofs.Traffic.Effect

/-! Who holds the instances of a pipeline. The number of holders that the store keeps for an instance is
at every moment the number of references outside, of optimizations in progress, and of places in the
pipeline's list. So nothing that a call or the pipeline still needs is ever given up. -/

namespace PipelineCache.Traffic

variable {before after traffic : Traffic} {move : Move} {moves : List Move} {index : Nat} {call : Call}
  {entry : InstanceId}

/-- The store counts exactly the places that hold an instance, and no call outlives the pipeline. -/
structure Accounted (traffic : Traffic) : Prop where
  sound : traffic.shared.store.Sound
  holders : ∀ entry, traffic.shared.store.holders entry = traffic.holdings.count entry
  quiet : traffic.isOpen = false → traffic.isQuiet

theorem Accounted.alive (accounted : traffic.Accounted) (member : entry ∈ traffic.holdings) :
    ∃ item, traffic.shared.store.get? entry = some item := by
  apply Store.exists_of_holders_pos
  rw [accounted.holders]
  exact List.count_pos_iff.mpr member

theorem Accounted.isOpen (accounted : traffic.Accounted) (found : traffic.calls[index]? = some call)
    (running : call.isFinished = false) : traffic.isOpen = true := by
  cases state : traffic.isOpen with
  | true => rfl
  | false =>
      have finished := List.all_eq_true.mp (accounted.quiet state) call (List.mem_of_getElem? found)
      rw [running] at finished
      cases finished

theorem Accounted.borrowed (accounted : traffic.Accounted)
    (found : traffic.calls[index]? = some call) :
    ∀ entry ∈ call.borrowed, ∃ item, traffic.shared.store.get? entry = some item := by
  intro entry member
  apply accounted.alive
  apply List.mem_append_right
  apply List.mem_append_left
  exact List.mem_flatMap.mpr ⟨call, List.mem_of_getElem? found, member⟩

theorem Accounted.listed (accounted : traffic.Accounted) (isOpen : traffic.isOpen = true)
    (member : entry ∈ traffic.shared.pipeline.instances) :
    ∃ item, traffic.shared.store.get? entry = some item := by
  apply accounted.alive
  apply List.mem_append_right
  apply List.mem_append_right
  simpa [Traffic.listed, isOpen] using member

theorem count_holdings (traffic : Traffic) (entry : InstanceId) :
    traffic.holdings.count entry = traffic.references.count entry +
      ((traffic.calls.flatMap Call.borrowed).count entry + traffic.listed.count entry) := by
  simp only [holdings, List.count_append]

theorem count_erase_of_mem {entries : List InstanceId} (member : entry ∈ entries)
    (other : InstanceId) :
    (entries.erase entry).count other + [entry].count other = entries.count other := by
  have permuted := (List.perm_cons_erase member).count_eq other
  simp only [List.count_cons, List.count_nil] at permuted ⊢
  omega

theorem accounted_start (shaders : ShaderSet) (optimizes reports : Bool) :
    (start shaders optimizes reports).Accounted where
  sound := by
    intro id held present
    simp [start, Store.held?] at present
  holders entry := rfl
  quiet closed := nomatch closed

/-- What a step does to the number of holders, it does to the pipeline's list. -/
theorem holders_effect {shared changed : Shared} {next : Call} {destroyed : List PipelineHandle}
    (effect : call.Effect shared next changed destroyed) (sound : shared.store.Sound)
    (entry : InstanceId) :
    changed.store.Sound ∧ changed.store.holders entry + shared.pipeline.instances.count entry =
      shared.store.holders entry + changed.pipeline.instances.count entry := by
  cases effect with
  | quiet store listed _ _ =>
      rw [store, listed]
      exact ⟨sound, rfl⟩
  | enlists state pass handle _ _ store listed _ _ =>
      rw [store, listed, Store.holders_add, List.count_append]
      exact ⟨Store.sound_add sound _, by omega⟩
  | installs target handle _ set listed _ _ =>
      obtain ⟨item, installed, present, _, put⟩ := Store.install_eq_some_iff.mp set
      rw [← put, listed, Store.holders_put]
      exact ⟨Store.sound_put sound _ _, rfl⟩
  | adopts target handle item _ present _ store listed _ _ =>
      rw [store, listed, Store.holders_hold present, List.count_append]
      exact ⟨Store.sound_hold sound _, by omega⟩
  | discards handle store listed _ _ _ =>
      rw [store, listed]
      exact ⟨sound, rfl⟩

theorem accounted_advance (accounted : before.Accounted)
    (found : before.calls[index]? = some call) (running : call.isFinished = false) :
    (before.advance index call).Accounted := by
  have isOpen := accounted.isOpen found running
  have effect := call.effect_step before.shared running (accounted.borrowed found)
  refine ⟨(holders_effect effect accounted.sound 0).1, fun entry => ?_, ?_⟩
  · have changed := (holders_effect effect accounted.sound entry).2
    have inside := (List.getElem?_eq_some_iff.mp found).1
    have exchanged := count_flatMap_set Call.borrowed before.calls
      (call.step before.shared).1 entry index inside
    rw [(List.getElem?_eq_some_iff.mp found).2, call.borrowed_step before.shared running]
      at exchanged
    have counted := accounted.holders entry
    rw [count_holdings] at counted ⊢
    simp only [listed, isOpen, isOpen_advance, shared_advance, calls_advance, references_advance,
      cond_true, List.count_append] at counted ⊢
    -- A call that returns gives its instance back, and the caller holds it again.
    cases finished : (call.step before.shared).1.isFinished with
    | true =>
        simp only [finished, if_true, List.count_nil] at exchanged ⊢
        omega
    | false =>
        simp only [finished, Bool.false_eq_true, if_false, List.count_nil] at exchanged ⊢
        omega
  · intro closed
    simp [advance, isOpen] at closed

theorem accounted_receive (accounted : before.Accounted)
    (found : before.calls[index]? = some call) (waits : (call.request? before.shared).isSome)
    (result : Except CacheError PipelineHandle) :
    (before.receive index call result).Accounted := by
  have running : call.isFinished = false := by
    rcases Call.position_of_waits waits with ⟨state, pass, parent, rfl⟩ | ⟨entry, parent, rfl⟩ <;>
      rfl
  have isOpen := accounted.isOpen found running
  refine ⟨accounted.sound, fun entry => ?_, ?_⟩
  · have inside := (List.getElem?_eq_some_iff.mp found).1
    have exchanged := count_flatMap_set Call.borrowed before.calls (call.answer result) entry index
      inside
    rw [(List.getElem?_eq_some_iff.mp found).2, Call.borrowed_answer waits] at exchanged
    have counted := accounted.holders entry
    rw [count_holdings] at counted ⊢
    simp only [receive, listed] at counted ⊢
    omega
  · intro closed
    simp [receive, isOpen] at closed

theorem accounted_offer (accounted : before.Accounted) (entry : InstanceId)
    (handle : PipelineHandle) : (before.offer entry handle).Accounted := by
  unfold offer
  split
  · rename_i store set
    obtain ⟨item, installed, _, _, rfl⟩ := Store.install_eq_some_iff.mp set
    exact ⟨Store.sound_put accounted.sound _ _,
      fun other => (Store.holders_put ..).trans (accounted.holders other), accounted.quiet⟩
  · exact ⟨accounted.sound, accounted.holders, accounted.quiet⟩

theorem accounted_moved (accounted : before.Accounted) (moved : Moved before move after) :
    after.Accounted := by
  cases moved with
  | draw state pass isOpen =>
      refine ⟨accounted.sound, fun entry => ?_, fun closed => ?_⟩
      · rw [show (before.beginDraw state pass).shared = before.shared from rfl, accounted.holders]
        simp [holdings, beginDraw, Call.borrowed, listed]
      · simp [beginDraw, isOpen] at closed
  | optimize entry isOpen member =>
      refine ⟨accounted.sound, fun other => ?_, fun closed => ?_⟩
      · have erased := count_erase_of_mem member other
        have counted := accounted.holders other
        rw [count_holdings] at counted ⊢
        simp only [beginOptimization, List.flatMap_append, List.count_append, List.flatMap_cons,
          List.flatMap_nil, List.append_nil, listed] at counted ⊢
        rw [show Call.borrowed (.optimize { entry := entry }) = [entry] from rfl]
        omega
      · simp [beginOptimization, isOpen] at closed
  | step index call found running => exact accounted_advance accounted found running
  | answer index call result found waits _ => exact accounted_receive accounted found waits result
  | build state pass =>
      refine ⟨Store.sound_add accounted.sound _, fun entry => ?_, accounted.quiet⟩
      have counted := accounted.holders entry
      have added := before.shared.store.holders_add { state := state, pass := pass } entry
      rw [count_holdings] at counted ⊢
      simp only [build, listed, List.count_append] at counted added ⊢
      omega
  | share entry item present =>
      refine ⟨Store.sound_hold accounted.sound _, fun other => ?_, accounted.quiet⟩
      have counted := accounted.holders other
      have held := Store.holders_hold present other
      rw [count_holdings] at counted ⊢
      simp only [share, listed, List.count_append] at counted held ⊢
      omega
  | drop entry member =>
      refine ⟨Store.sound_release accounted.sound _, fun other => ?_, accounted.quiet⟩
      have counted := accounted.holders other
      have released := before.shared.store.holders_release entry other
      have erased := count_erase_of_mem member other
      rw [count_holdings] at counted ⊢
      simp only [drop, listed] at counted released erased ⊢
      omega
  | offer entry handle _ _ _ => exact accounted_offer accounted entry handle
  | close isOpen quiet =>
      refine ⟨Store.sound_releaseAll accounted.sound _, fun entry => ?_, fun _ => quiet⟩
      have counted := accounted.holders entry
      have released := before.shared.store.holders_releaseAll before.shared.pipeline.instances entry
      rw [count_holdings] at counted ⊢
      simp only [close, listed, isOpen, cond_true, cond_false, List.count_nil]
        at counted released ⊢
      omega

/-- What every move keeps as long as the holders are accounted for, every run keeps. -/
theorem kept_run {motive : Traffic → Prop}
    (keeps : ∀ middle move next, middle.Accounted → motive middle → Moved middle move next →
      motive next)
    (accounted : before.Accounted) (holds : motive before) (ran : before.run? moves = some after) :
    after.Accounted ∧ motive after := by
  refine Run.kept (motive := fun traffic => traffic.Accounted ∧ motive traffic) ?_
    ⟨accounted, holds⟩ ran
  rintro middle move next ⟨accounted, holds⟩ possible
  have moved := moved_of_move? possible
  exact ⟨accounted_moved accounted moved, keeps middle move next accounted holds moved⟩

theorem Accounted.later (accounted : before.Accounted) (ran : before.run? moves = some after) :
    after.Accounted :=
  (kept_run (motive := fun _ => True) (fun _ _ _ _ holds _ => holds) accounted trivial ran).1

theorem accounted_run {shaders : ShaderSet} {optimizes reports : Bool}
    (ran : (start shaders optimizes reports).run? moves = some traffic) : traffic.Accounted :=
  (accounted_start shaders optimizes reports).later ran

end PipelineCache.Traffic

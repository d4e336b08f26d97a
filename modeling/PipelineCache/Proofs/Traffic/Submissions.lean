import Mathlib.Data.List.Nodup
import PipelineCache.Proofs.Traffic.Dealings

/-! Every instance that a draw pushes is reported once and queued once, whatever the order in which draws
and optimizations take their steps. The ledger and the list of the pipeline are kept in balance: what was
pushed or adopted is what stands in the list, and the combinations in the list are distinct; so the keys
of what is passed on are distinct too. -/

namespace PipelineCache

variable {shaders : ShaderSet}

namespace Audit

open Traffic

variable {audit next : Audit} {action : Action} {call : Call} {after : Traffic}

/-- The list of the pipeline is what the ledger says, all keys that were pushed are different, and each
call has left in the ledger what its place asks for. -/
structure Balanced (shaders : ShaderSet) (audit : Audit) : Prop where
  accounted : audit.traffic.Accounted
  settled : audit.traffic.isOpen = true → audit.traffic.Settled
  outfit : audit.traffic.shared.pipeline.outfit = (shaders, true, true)
  left : ∀ index, HasLeft shaders index audit.traffic.calls[index]? (Ledger.of (some index) audit.ledger)
  attributed : Ledger.of none audit.ledger = []
  listed : ((Ledger.done .pushed audit.ledger ++ Ledger.done .adopted audit.ledger).map
    Dealing.entry).Perm audit.traffic.shared.pipeline.instances
  nodup : audit.traffic.shared.pipeline.instances.Nodup
  named : audit.traffic.isOpen = true → ∀ dealing ∈ Ledger.done .pushed audit.ledger,
    dealing.key = audit.traffic.shared.key? dealing.entry
  apart : ((Ledger.done .pushed audit.ledger).map Dealing.key).Nodup

theorem balanced_start (shaders : ShaderSet) : (start shaders).Balanced shaders where
  accounted := accounted_start shaders true true
  settled _ := settled_start shaders true true
  outfit := rfl
  left _ := rfl
  attributed := rfl
  listed := .refl _
  nodup := List.nodup_nil
  named _ _ member := nomatch member
  apart := List.nodup_nil

theorem Balanced.mem_instances (balanced : audit.Balanced shaders) {dealing : Dealing}
    (pushed : dealing ∈ Ledger.done .pushed audit.ledger) :
    dealing.entry ∈ audit.traffic.shared.pipeline.instances := by
  apply balanced.listed.subset
  exact List.mem_map_of_mem (List.mem_append_left _ pushed)

/-- What was pushed keeps its key. -/
theorem Balanced.named_later (balanced : audit.Balanced shaders)
    (acted : Acted audit.traffic action after) (isOpen : after.isOpen = true)
    (outfit : after.shared.pipeline.outfit = (shaders, true, true)) :
    ∀ dealing ∈ Ledger.done .pushed audit.ledger, dealing.key = after.shared.key? dealing.entry := by
  intro dealing pushed
  have wasOpen := isOpen_of_acted acted isOpen
  have grows := grows_acted balanced.accounted acted
  have listed := balanced.mem_instances pushed
  have present := balanced.accounted.listed wasOpen listed
  have alive := (accounted_acted balanced.accounted acted).listed isOpen (grows.listed.subset listed)
  have same : after.shared.pipeline.shaders = audit.traffic.shared.pipeline.shaders :=
    congrArg Prod.fst (outfit.trans balanced.outfit.symm)
  rw [key?_later grows same present alive]
  exact balanced.named wasOpen dealing pushed

theorem Balanced.passive (balanced : audit.Balanced shaders)
    (acted : Acted audit.traffic action after) (passive : Passive audit.traffic action after) :
    (Audit.mk after audit.ledger).Balanced shaders := by
  have outfit : after.shared.pipeline.outfit = (shaders, true, true) := by
    rw [passive.pipeline]
    exact balanced.outfit
  exact {
    accounted := accounted_acted balanced.accounted acted
    settled := by
      intro isOpen
      have wasOpen := isOpen_of_acted acted isOpen
      exact settled_acted balanced.accounted (balanced.settled wasOpen) wasOpen isOpen acted
    outfit := outfit
    left := fun index => passive.calls (balanced.left index)
    attributed := balanced.attributed
    listed := by
      rw [passive.pipeline]
      exact balanced.listed
    nodup := by
      rw [passive.pipeline]
      exact balanced.nodup
    named := fun isOpen => balanced.named_later acted isOpen outfit
    apart := balanced.apart }

/-- A step adds to the ledger what it does to the list. -/
theorem Balanced.listed_step (balanced : audit.Balanced shaders)
    {index : Nat} (grows : audit.traffic.shared.Grows (call.step audit.traffic.shared).2.1) :
    ((Ledger.done .pushed (audit.ledger ++ call.dealings audit.traffic.shared index) ++
      Ledger.done .adopted (audit.ledger ++ call.dealings audit.traffic.shared index)).map
        Dealing.entry).Perm (call.step audit.traffic.shared).2.1.pipeline.instances := by
  have joined : (call.step audit.traffic.shared).2.1.pipeline.instances =
      audit.traffic.shared.pipeline.instances ++ call.joined audit.traffic.shared :=
    (List.prefix_iff_eq_append.mp grows.listed).symm
  rw [joined, Ledger.done_append, Ledger.done_append, ← call.map_entry_joining _ index]
  refine List.Perm.trans ?_
    (balanced.listed.append_right ((call.joining audit.traffic.shared index).map Dealing.entry))
  rw [← List.map_append]
  apply List.Perm.map
  cases call with
  | draw current =>
      obtain ⟨pushed, adopted⟩ := Call.done_draw current audit.traffic.shared index
      rw [pushed, adopted, List.append_nil, List.append_assoc, List.append_assoc]
      exact List.perm_append_comm.append_left _
  | optimize current =>
      obtain ⟨pushed, adopted⟩ := Call.done_optimize current audit.traffic.shared index
      rw [pushed, adopted, List.append_nil, List.append_assoc]

/-- The key of an instance that is pushed is new, because nothing in the list serves its combination. -/
theorem Balanced.apart_step (balanced : audit.Balanced shaders) (isOpen : audit.traffic.isOpen = true)
    (call : Call) (index : Nat) :
    ((Ledger.done .pushed (audit.ledger ++ call.dealings audit.traffic.shared index)).map
      Dealing.key).Nodup := by
  rw [Ledger.done_append]
  cases call with
  | optimize current =>
      rw [(Call.done_optimize current audit.traffic.shared index).1, List.append_nil]
      exact balanced.apart
  | draw current =>
      rw [(Call.done_draw current audit.traffic.shared index).1]
      rcases Call.joining_draw current audit.traffic.shared index with none | ⟨entry, absent, one⟩
      · rw [none, List.append_nil]
        exact balanced.apart
      · rw [one, List.map_append, List.map_singleton, ← List.concat_eq_append]
        apply balanced.apart.concat
        intro member
        obtain ⟨dealing, pushed, same⟩ := List.mem_map.mp member
        have listed := balanced.mem_instances pushed
        obtain ⟨item, present⟩ := balanced.accounted.listed isOpen listed
        have key := balanced.named isOpen dealing pushed
        rw [same, Shared.key?, present] at key
        have state := congrArg PipelineKey.state (Option.some.inj key)
        have format := congrArg PipelineKey.format (Option.some.inj key)
        have served : item.combination = (current.state, current.pass.format) :=
          Prod.ext state.symm format.symm
        exact Shared.combination_ne_of_find? absent listed present served

theorem of_dealings (call : Call) (shared : Shared) (index : Nat) :
    Ledger.of (some index) (call.dealings shared index) = call.dealings shared index := by
  apply List.filter_eq_self.mpr
  intro deal member
  obtain ⟨_, _, rfl⟩ := List.mem_map.mp member
  simp

theorem of_dealings_of_ne {other : Option Nat} {index : Nat} (different : some index ≠ other)
    (call : Call) (shared : Shared) : Ledger.of other (call.dealings shared index) = [] := by
  apply List.filter_eq_nil_iff.mpr
  intro deal member
  obtain ⟨_, _, rfl⟩ := List.mem_map.mp member
  simpa using different

theorem Balanced.step (balanced : audit.Balanced shaders) {index : Nat}
    (found : audit.traffic.calls[index]? = some call) (running : call.isFinished = false) :
    (Audit.mk (audit.traffic.advance index call)
      (audit.ledger ++ call.dealings audit.traffic.shared index)).Balanced shaders := by
  have acted : Acted audit.traffic (.move (.step index)) (audit.traffic.advance index call) :=
    .move _ _ (.step index call found running)
  have isOpen := balanced.accounted.isOpen found running
  have settled := balanced.settled isOpen
  have founded := settled.founded call (List.mem_of_getElem? found)
  have accounted := accounted_acted balanced.accounted acted
  have stillOpen : (audit.traffic.advance index call).isOpen = true := isOpen
  have later := settled_acted balanced.accounted settled isOpen stillOpen acted
  have outfit := (call.outfit_step audit.traffic.shared).trans balanced.outfit
  exact {
    accounted := accounted
    settled := fun _ => later
    outfit := outfit
    left := by
      intro other
      have inside := (List.getElem?_eq_some_iff.mp found).1
      have before := balanced.left other
      rw [Ledger.of_append, calls_advance]
      by_cases same : index = other
      · subst same
        rw [found] at before
        rw [of_dealings, List.getElem?_set_self inside]
        exact Call.hasLeft_step founded settled.distinct balanced.outfit before
      · rw [of_dealings_of_ne (fun equal => same (Option.some.inj equal)), List.append_nil,
          List.getElem?_set_ne same]
        exact before
    attributed := by
      rw [Ledger.of_append, balanced.attributed, of_dealings_of_ne (by simp), List.append_nil]
    listed := balanced.listed_step (grows_acted balanced.accounted acted)
    nodup := nodup_instances accounted later isOpen
    named := by
      intro _ dealing pushed
      rw [Ledger.done_append] at pushed
      rcases List.mem_append.mp pushed with old | new
      · exact balanced.named_later acted isOpen outfit dealing old
      · obtain ⟨⟨deed, entry⟩, _, same⟩ := List.mem_map.mp (Ledger.mem_done_iff.mp new)
        cases same
        rfl
    apart := balanced.apart_step isOpen call index }

theorem balanced_acted (balanced : audit.Balanced shaders) (acted : audit.act? action = some next) :
    next.Balanced shaders := by
  obtain ⟨after, happened, rfl⟩ := Option.map_eq_some_iff.mp acted
  have acted := acted_of_act? happened
  rcases passive_or_step acted with passive | ⟨index, call, rfl, found, running, rfl⟩
  · rw [dealings, passive.silent, List.map_nil, List.append_nil]
    exact balanced.passive acted passive
  · rw [dealings_step found]
    exact balanced.step found running

theorem balanced_run {actions : List Action} (ran : (start shaders).run? actions = some audit) :
    audit.Balanced shaders :=
  Run.kept (motive := Balanced shaders) (fun _ _ _ balanced acted => balanced_acted balanced acted)
    (balanced_start shaders) ran

/-! ### The end -/

/-- A call that has returned has passed on twice what it has pushed, and nothing else. -/
theorem done_of_finished {ledger : List (Deed × Dealing)} {index : Nat}
    (finished : call.isFinished = true) (left : call.HasLeft shaders index ledger) :
    Ledger.done .reported ledger = Ledger.done .pushed ledger ∧
      Ledger.done .queued ledger = Ledger.done .pushed ledger ∧
      ∀ dealing ∈ Ledger.done .pushed ledger, dealing.key.isSome := by
  cases call with
  | draw current =>
      obtain ⟨state, pass, position⟩ := current
      cases position with
      | finished result =>
          cases result with
          | none =>
              obtain rfl : ledger = [] := left
              exact ⟨rfl, rfl, fun _ member => nomatch member⟩
          | some handle =>
              obtain ⟨entry, rfl | rfl⟩ := left
              · exact ⟨rfl, rfl, fun _ member => nomatch member⟩
              · refine ⟨rfl, rfl, fun dealing member => ?_⟩
                rw [List.mem_singleton.mp member]
                rfl
      | _ => cases finished
  | optimize current =>
      have nothing {deed : Deed} (other : deed ≠ .adopted) : Ledger.done deed ledger = [] := by
        apply List.map_eq_nil_iff.mpr
        apply List.filter_eq_nil_iff.mpr
        intro deal member same
        exact other ((of_decide_eq_true same).symm.trans (left deal member))
      rw [nothing (by decide), nothing (by decide), nothing (by decide)]
      exact ⟨rfl, rfl, fun _ member => nomatch member⟩

theorem Balanced.done_of (balanced : audit.Balanced shaders) (quiet : audit.traffic.isQuiet)
    (call : Option Nat) :
    Ledger.done .reported (Ledger.of call audit.ledger) =
        Ledger.done .pushed (Ledger.of call audit.ledger) ∧
      Ledger.done .queued (Ledger.of call audit.ledger) =
        Ledger.done .pushed (Ledger.of call audit.ledger) ∧
      ∀ dealing ∈ Ledger.done .pushed (Ledger.of call audit.ledger), dealing.key.isSome := by
  cases call with
  | none =>
      rw [balanced.attributed]
      exact ⟨rfl, rfl, fun _ member => nomatch member⟩
  | some index =>
      have left := balanced.left index
      cases found : audit.traffic.calls[index]? with
      | none =>
          rw [found] at left
          have empty : Ledger.of (some index) audit.ledger = [] := left
          rw [empty]
          exact ⟨rfl, rfl, fun _ member => nomatch member⟩
      | some call =>
          rw [found] at left
          have finished := List.all_eq_true.mp quiet call (List.mem_of_getElem? found)
          exact done_of_finished finished left

/-- Around a pipeline that reports its instances and has them optimized, draws and optimizations come in
any number and order. Once all of them have returned, what was reported and what was queued is exactly
what draws have pushed, each instance once; together with the adopted instances, of which none was passed
on, this is the list of the pipeline. A draw that fails leaves nothing, one that finds an instance passes
nothing on, and any other draw passes on the one instance that it has pushed. So all keys that are
reported are different. -/
theorem one_submission_per_push {actions : List Action} (ran : (start shaders).run? actions = some audit)
    (quiet : audit.traffic.isQuiet) :
    (Ledger.done .reported audit.ledger).Perm (Ledger.done .pushed audit.ledger) ∧
    (Ledger.done .queued audit.ledger).Perm (Ledger.done .pushed audit.ledger) ∧
    ((Ledger.done .reported audit.ledger ++ Ledger.done .adopted audit.ledger).map Dealing.entry).Nodup ∧
    ((Ledger.done .pushed audit.ledger ++ Ledger.done .adopted audit.ledger).map Dealing.entry).Perm
      audit.traffic.shared.pipeline.instances ∧
    (∀ (index : Nat) draw, audit.traffic.calls[index]? = some (.draw draw) →
      (draw.position = .finished none ∧ Ledger.of (some index) audit.ledger = []) ∨
      ∃ handle entry, draw.position = .finished (some handle) ∧
        let dealing : Dealing :=
          ⟨some index, entry, some ⟨shaders.keys, draw.state, draw.pass.format⟩⟩
        Ledger.of (some index) audit.ledger = [(.found, dealing)] ∨
        Ledger.of (some index) audit.ledger =
          [(.pushed, dealing), (.reported, dealing), (.queued, dealing)]) ∧
    (∀ (index : Nat) optimization, audit.traffic.calls[index]? = some (.optimize optimization) →
      ∀ deal ∈ Ledger.of (some index) audit.ledger, deal.1 = .adopted) ∧
    ((Ledger.done .reported audit.ledger).map Dealing.key).Nodup ∧
    ∀ dealing ∈ Ledger.done .reported audit.ledger, dealing.key.isSome := by
  have balanced := balanced_run ran
  have reported : (Ledger.done .reported audit.ledger).Perm (Ledger.done .pushed audit.ledger) :=
    Ledger.perm_of_forall fun call => (balanced.done_of quiet call).1
  have queued : (Ledger.done .queued audit.ledger).Perm (Ledger.done .pushed audit.ledger) :=
    Ledger.perm_of_forall fun call => (balanced.done_of quiet call).2.1
  refine ⟨reported, queued, ?_, balanced.listed, ?_, ?_, ?_, ?_⟩
  · have listed := (reported.append_right (Ledger.done .adopted audit.ledger)).map Dealing.entry
    exact (listed.trans balanced.listed).nodup_iff.mpr balanced.nodup
  · intro index draw found
    have left := balanced.left index
    have finished := List.all_eq_true.mp quiet _ (List.mem_of_getElem? found)
    rw [found] at left
    obtain ⟨state, pass, position⟩ := draw
    cases position with
    | finished result =>
        cases result with
        | none => exact Or.inl ⟨rfl, left⟩
        | some handle =>
            obtain ⟨entry, done⟩ := left
            exact Or.inr ⟨handle, entry, rfl, done⟩
    | _ => cases finished
  · intro index optimization found
    have left := balanced.left index
    rw [found] at left
    exact left
  · exact (reported.map Dealing.key).nodup_iff.mpr balanced.apart
  · intro dealing member
    have pushed := Ledger.mem_done_iff.mp (reported.subset member)
    apply (balanced.done_of quiet dealing.call).2.2
    apply Ledger.mem_done_iff.mpr
    exact List.mem_filter.mpr ⟨pushed, decide_eq_true rfl⟩

/-- Two draws race for one state, and the device answers both with one handle. An instance that was made
ahead is adopted, and a third draw finds it. The device fails for a fourth draw. -/
def mixture (first second : PipelineHandle) : List Action :=
  [.move (.draw {} ⟨1, {}⟩), .move (.draw {} ⟨1, {}⟩), .move (.step 0), .move (.step 1),
    .move (.step 0), .move (.step 1), .reply 0 (.ok first), .reply 1 (.ok first),
    .move (.step 0), .move (.step 1), .move (.step 1), .move (.step 1), .move (.step 0),
    .move (.step 0), .move (.step 0), .move (.step 0),
    .bring { state := {}, pass := ⟨1, { sampleCount := 4 }⟩ }, .move (.optimize 1), .move (.step 2),
    .move (.step 2), .reply 2 (.ok second), .move (.step 2), .move (.step 2), .move (.step 2),
    .move (.step 2), .move (.draw {} ⟨1, { sampleCount := 4 }⟩), .move (.step 3), .move (.step 3),
    .move (.draw {} ⟨1, { sampleCount := 2 }⟩), .move (.step 4), .move (.step 4),
    .reply 4 (.error (.compile "lost")), .move (.step 4)]

theorem one_submission_per_push_mixture : ∃ audit,
    (start {}).run? (mixture ⟨1, by decide⟩ ⟨2, by decide⟩) = some audit ∧
    (Ledger.done .pushed audit.ledger).length = 1 ∧ (Ledger.done .adopted audit.ledger).length = 1 ∧
    (Ledger.done .found audit.ledger).map Dealing.call = [some 1, some 3] ∧
    (Ledger.done .reported audit.ledger).Perm (Ledger.done .pushed audit.ledger) ∧
    (Ledger.done .queued audit.ledger).Perm (Ledger.done .pushed audit.ledger) ∧
    audit.traffic.calls[4]? = some (.draw ⟨{}, ⟨1, { sampleCount := 2 }⟩, .finished none⟩) := by
  have ran : (start {}).run? (mixture ⟨1, by decide⟩ ⟨2, by decide⟩) =
      some (((start {}).run? (mixture ⟨1, by decide⟩ ⟨2, by decide⟩)).get (by decide)) :=
    (Option.some_get _).symm
  obtain ⟨reported, queued, _⟩ := one_submission_per_push ran (by decide)
  exact ⟨_, ran, by decide, by decide, by decide, reported, queued, by decide⟩

end Audit

end PipelineCache

import PipelineCache.Proofs.Traffic.Parents

/-! Several pipelines on one device, which issues no handle twice. Each pipeline goes its own way, and
what one of them destroys was its own; so a parent that a pipeline names is alive for the device too. -/

namespace PipelineCache

namespace Traffic

variable {before after : Traffic} {move : Move}

/-- The handle that a move gets from the device. -/
def Move.issued? : Move → Option PipelineHandle
  | .answer _ result => result.toOption
  | .offer _ handle => some handle
  | _ => none

theorem issued_moved (moved : Moved before move after) :
    after.issued = before.issued ++ move.issued?.toList := by
  cases moved with
  | step index call _ _ => exact (issued_advance ..).trans (List.append_nil _).symm
  | answer index call result _ _ _ => exact issued_receive ..
  | drop entry _ =>
      rw [issued, drop, List.filterMap_append, issued_dropped]
      rfl
  | close _ _ =>
      rw [issued, close, List.filterMap_append, issued_dropped]
      rfl
  | offer entry handle _ _ _ =>
      unfold offer
      split <;> simp [issued, Move.issued?, Happening.issued?, List.filterMap_cons]
  | _ => exact (List.append_nil _).symm

theorem issued_of_destroyed {handle : PipelineHandle} (conserved : before.Conserved)
    (gone : handle ∈ before.destroyed) : handle ∈ before.issued := by
  have owned := conserved.owned handle
  have counted := List.count_pos_iff.mpr gone
  exact List.count_pos_iff.mp (by omega)

theorem issued_of_present {entry : InstanceId} {item : Instance} {handle : PipelineHandle}
    (conserved : before.Conserved) (present : before.shared.store.get? entry = some item)
    (member : handle ∈ item.handles) : handle ∈ before.issued := by
  have owned := conserved.owned handle
  have stored : 0 < before.stored.count handle :=
    List.count_pos_iff.mpr ((Store.handles_sublist present).subset member)
  exact List.count_pos_iff.mp (by omega)

/-- A pipeline that was created at some time, and what has become of it. -/
def Reached (traffic : Traffic) : Prop :=
  ∃ shaders optimizes reports moves, (start shaders optimizes reports).run? moves = some traffic

end Traffic

/-- All pipelines that were ever created on a device, each with what goes on around it. -/
structure Fleet where
  pipelines : List Traffic := []

namespace Fleet

inductive Move
  | create (shaders : ShaderSet) (optimizes reports : Bool)
  /-- Something happens to one of the pipelines. -/
  | act (index : Nat) (move : Traffic.Move)

/-- What a move leads to, if it is possible: no handle comes from the device that any pipeline has got
before. -/
def move? (fleet : Fleet) : Move → Option Fleet
  | .create shaders optimizes reports =>
      some ⟨fleet.pipelines ++ [.start shaders optimizes reports]⟩
  | .act index move =>
      match fleet.pipelines[index]? with
      | none => none
      | some traffic =>
          if ∀ handle ∈ move.issued?, ∀ other ∈ fleet.pipelines, handle ∉ other.issued then
            (traffic.move? move).map fun next => ⟨fleet.pipelines.set index next⟩
          else none

abbrev run? (fleet : Fleet) (moves : List Move) : Option Fleet := Run.final? move? fleet moves

variable {before middle after fleet : Fleet} {move : Move} {moves earlier later : List Move}
  {index : Nat} {traffic : Traffic}

inductive Moved (before : Fleet) : Move → Fleet → Prop
  | create (shaders : ShaderSet) (optimizes reports : Bool) :
      Moved before (.create shaders optimizes reports)
        ⟨before.pipelines ++ [.start shaders optimizes reports]⟩
  | act (index : Nat) (move : Traffic.Move) (old next : Traffic)
      (found : before.pipelines[index]? = some old) (possible : old.move? move = some next)
      (fresh : ∀ handle, move.issued? = some handle → ∀ other ∈ before.pipelines,
        handle ∉ other.issued) :
      Moved before (.act index move) ⟨before.pipelines.set index next⟩

theorem moved_of_move? (moved : before.move? move = some after) : Moved before move after := by
  cases move with
  | create shaders optimizes reports =>
      cases moved
      exact .create shaders optimizes reports
  | act index move =>
      simp only [move?] at moved
      split at moved
      · cases moved
      · rename_i old found
        obtain ⟨fresh, acted⟩ := Option.ite_none_right_eq_some.mp moved
        obtain ⟨next, possible, rfl⟩ := Option.map_eq_some_iff.mp acted
        exact .act index move old next found possible fresh

/-- A pipeline keeps its place. -/
theorem continues_moved (moved : Moved before move after)
    (found : before.pipelines[index]? = some traffic) :
    ∃ next own, after.pipelines[index]? = some next ∧ traffic.run? own = some next := by
  cases moved with
  | create shaders optimizes reports =>
      refine ⟨traffic, [], ?_, rfl⟩
      obtain ⟨inside, _⟩ := List.getElem?_eq_some_iff.mp found
      rw [List.getElem?_append_left inside, found]
  | act target move old next there possible _ =>
      by_cases same : target = index
      · subst same
        obtain rfl : old = traffic := Option.some.inj (there.symm.trans found)
        obtain ⟨inside, _⟩ := List.getElem?_eq_some_iff.mp found
        refine ⟨next, [move], List.getElem?_set_self inside, ?_⟩
        exact Run.final?_cons_eq_some_iff.mpr ⟨next, possible, rfl⟩
      · exact ⟨traffic, [], (List.getElem?_set_ne same).trans found, rfl⟩

theorem continues_run (ran : before.run? moves = some after)
    (found : before.pipelines[index]? = some traffic) :
    ∃ next own, after.pipelines[index]? = some next ∧ traffic.run? own = some next := by
  refine Run.kept (motive := fun reached => ∃ next own,
    reached.pipelines[index]? = some next ∧ traffic.run? own = some next) ?_
    ⟨traffic, [], found, rfl⟩ ran
  rintro reached move further ⟨next, own, there, sofar⟩ possible
  obtain ⟨last, more, place, went⟩ := continues_moved (moved_of_move? possible) there
  exact ⟨last, own ++ more, place, Run.final?_append_eq_some_iff.mpr ⟨next, sofar, went⟩⟩

/-- Every pipeline was created once, and the device has issued each handle to one of them only. -/
structure Separate (fleet : Fleet) : Prop where
  reached : ∀ traffic ∈ fleet.pipelines, traffic.Reached
  apart : ∀ (first second : Nat) (one other : Traffic) (handle : PipelineHandle),
    fleet.pipelines[first]? = some one → fleet.pipelines[second]? = some other →
    handle ∈ one.issued → handle ∈ other.issued → first = second

theorem separate_create (separate : before.Separate) (shaders : ShaderSet) (optimizes reports : Bool) :
    Separate ⟨before.pipelines ++ [.start shaders optimizes reports]⟩ where
  reached traffic member := by
    rcases List.mem_append.mp member with old | newest
    · exact separate.reached traffic old
    · obtain rfl := List.mem_singleton.mp newest
      exact ⟨shaders, optimizes, reports, [], rfl⟩
  apart first second one other handle there here issued given := by
    -- The new pipeline has got no handle yet, so both of these were there before.
    have old (place : Nat) (traffic : Traffic) (had : handle ∈ traffic.issued)
        (found : (before.pipelines ++ [.start shaders optimizes reports])[place]? = some traffic) :
        before.pipelines[place]? = some traffic := by
      rw [List.getElem?_append] at found
      split at found
      · exact found
      · have newest := List.mem_singleton.mp (List.mem_of_getElem? found)
        subst newest
        cases had
    exact separate.apart first second one other handle (old first one issued there)
      (old second other given here) issued given

/-- Whoever has a handle after a pipeline has moved had it before, unless it came with this move. -/
theorem issued_set {target place : Nat} {move : Traffic.Move} {old next : Traffic}
    {handle : PipelineHandle} (found : before.pipelines[target]? = some old)
    (moved : Traffic.Moved old move next)
    (stands : (before.pipelines.set target next)[place]? = some traffic)
    (issued : handle ∈ traffic.issued) :
    (∃ earlier, before.pipelines[place]? = some earlier ∧ handle ∈ earlier.issued) ∨
      (place = target ∧ move.issued? = some handle) := by
  by_cases same : target = place
  · subst same
    obtain ⟨inside, _⟩ := List.getElem?_eq_some_iff.mp found
    rw [List.getElem?_set_self inside] at stands
    obtain rfl := Option.some.inj stands
    rw [Traffic.issued_moved moved] at issued
    rcases List.mem_append.mp issued with already | now
    · exact Or.inl ⟨old, found, already⟩
    · exact Or.inr ⟨rfl, Option.mem_toList.mp now⟩
  · rw [List.getElem?_set_ne same] at stands
    exact Or.inl ⟨traffic, stands, issued⟩

theorem separate_act {target : Nat} {move : Traffic.Move} {old next : Traffic}
    (separate : before.Separate) (found : before.pipelines[target]? = some old)
    (possible : old.move? move = some next)
    (fresh : ∀ handle, move.issued? = some handle → ∀ other ∈ before.pipelines,
      handle ∉ other.issued) : Separate ⟨before.pipelines.set target next⟩ where
  reached traffic member := by
    rcases List.mem_or_eq_of_mem_set member with kept | rfl
    · exact separate.reached traffic kept
    · obtain ⟨shaders, optimizes, reports, moves, ran⟩ :=
        separate.reached old (List.mem_of_getElem? found)
      refine ⟨shaders, optimizes, reports, moves ++ [move], ?_⟩
      exact Run.final?_append_eq_some_iff.mpr
        ⟨old, ran, Run.final?_cons_eq_some_iff.mpr ⟨traffic, possible, rfl⟩⟩
  apart first second one other handle there here issued given := by
    have moved := Traffic.moved_of_move? possible
    rcases issued_set found moved there issued with ⟨earlier, placed, had⟩ | ⟨rfl, got⟩ <;>
      rcases issued_set found moved here given with ⟨former, settled, owned⟩ | ⟨rfl, gained⟩
    · exact separate.apart first second earlier former handle placed settled had owned
    · exact absurd had (fresh handle gained earlier (List.mem_of_getElem? placed))
    · exact absurd owned (fresh handle got former (List.mem_of_getElem? settled))
    · rfl

theorem separate_run (ran : run? {} moves = some fleet) : fleet.Separate := by
  refine Run.kept (motive := Separate) (fun before move after separate moved => ?_) ?_ ran
  · cases moved_of_move? moved with
    | create shaders optimizes reports => exact separate_create separate shaders optimizes reports
    | act index move old next found possible fresh => exact separate_act separate found possible fresh
  · exact ⟨List.forall_mem_nil _, fun _ _ _ _ _ found => by cases found⟩

/-- No pipeline destroys what stands in an instance of another, or in a live one of its own. -/
theorem Separate.alive {entry : InstanceId} {item : Instance} {handle : PipelineHandle}
    (separate : fleet.Separate) (placed : fleet.pipelines[index]? = some traffic)
    (present : traffic.shared.store.get? entry = some item) (member : handle ∈ item.handles) :
    ∀ other ∈ fleet.pipelines, handle ∉ other.destroyed := by
  intro other among gone
  obtain ⟨_, _, _, _, ran⟩ := separate.reached traffic (List.mem_of_getElem? placed)
  obtain ⟨_, _, _, _, elsewhere⟩ := separate.reached other among
  obtain ⟨place, found⟩ := List.getElem?_of_mem among
  have conserved := Traffic.conserved_run ran
  have same := separate.apart index place traffic other handle placed found
    (Traffic.issued_of_present conserved present member)
    (Traffic.issued_of_destroyed (Traffic.conserved_run elsewhere) gone)
  subst same
  obtain rfl : traffic = other := Option.some.inj (placed.symm.trans found)
  exact Traffic.not_destroyed conserved present member gone

/-- The handle stands in an instance of the list of a pipeline that has not been dropped, as the one
compiled in that mode, and nobody has destroyed it. -/
structure Alive (fleet : Fleet) (traffic : Traffic) (mode : CompileMode) (handle : PipelineHandle) :
    Prop where
  isOpen : traffic.isOpen = true
  owned : ∃ entry ∈ traffic.shared.pipeline.instances, ∃ item,
    traffic.shared.store.get? entry = some item ∧ item.slot mode = some handle
  kept : ∀ other ∈ fleet.pipelines, handle ∉ other.destroyed

theorem alive_of_asked {call : Call} {request : CompileRequest} {handle : PipelineHandle}
    (separate : fleet.Separate) (member : traffic ∈ fleet.pipelines) (among : call ∈ traffic.calls)
    (asked : call.request? traffic.shared = some request) (derives : request.parent = some handle) :
    fleet.Alive traffic request.mode handle := by
  obtain ⟨place, placed⟩ := List.getElem?_of_mem member
  obtain ⟨position, found⟩ := List.getElem?_of_mem among
  obtain ⟨_, _, _, _, ran⟩ := separate.reached traffic member
  have isOpen : traffic.isOpen = true := by
    refine (Traffic.accounted_run ran).isOpen found ?_
    exact Call.running_of_waits (by rw [asked, Option.isSome_some])
  have owns := ((Traffic.anchored_run ran isOpen).calls call among).owns asked derives
  obtain ⟨entry, listed, item, present, had⟩ := owns
  exact ⟨isOpen, ⟨entry, listed, item, present, had⟩,
    separate.alive placed present (Instance.mem_handles_of_slot had)⟩

/-- Whoever asks the device for a pipeline derives it from nothing, or from a handle that is alive: the
base handle of a listed instance of the same pipeline, or for the optimized mode its fast handle. Once a
mode has a parent, this stays so, and all who read it from then on read the same handle. -/
theorem parents_are_alive (began : run? {} earlier = some middle)
    (went : middle.run? later = some fleet) :
    (∀ traffic ∈ fleet.pipelines, ∀ call ∈ traffic.calls, ∀ request : CompileRequest,
      call.request? traffic.shared = some request → ∀ handle, request.parent = some handle →
        fleet.Alive traffic request.mode handle) ∧
    (∀ (index : Nat) (before : Traffic), middle.pipelines[index]? = some before →
      ∃ after, fleet.pipelines[index]? = some after ∧
        ∀ mode handle, before.shared.pipeline.parent mode = some handle →
          before.KeepsParent after mode handle) := by
  have ran : run? {} (earlier ++ later) = some fleet :=
    Run.final?_append_eq_some_iff.mpr ⟨middle, began, went⟩
  refine ⟨fun traffic member call among request asked handle derives =>
    alive_of_asked (separate_run ran) member among asked derives, fun index before found => ?_⟩
  obtain ⟨after, own, place, continued⟩ := continues_run went found
  exact ⟨after, place, fun mode handle parent => Traffic.keepsParent_run parent continued⟩

/-- Two pipelines draw, and the second is dropped. The instance of the first is optimized. -/
def founding (base fast other : PipelineHandle) : List Move :=
  [.create {} false false, .create {} false false, .act 0 (.draw {} ⟨1, {}⟩), .act 1 (.draw {} ⟨1, {}⟩),
    .act 0 (.step 0), .act 1 (.step 0), .act 1 (.step 0), .act 0 (.step 0),
    .act 1 (.answer 0 (.ok other)), .act 0 (.answer 0 (.ok base))] ++
  List.replicate 5 (.act 1 (.step 0)) ++ [.act 1 .close] ++ List.replicate 5 (.act 0 (.step 0)) ++
  [.act 0 (.share 0), .act 0 (.optimize 0), .act 0 (.step 1), .act 0 (.step 1),
    .act 0 (.answer 1 (.ok fast))] ++ List.replicate 4 (.act 0 (.step 1))

/-- The first pipeline draws into another format and has that instance optimized, while it draws into a
third one: two calls wait for the device. -/
def derivation (second : PipelineHandle) : List Move :=
  [.act 0 (.draw {} ⟨2, { sampleCount := 4 }⟩), .act 0 (.step 2), .act 0 (.step 2),
    .act 0 (.answer 2 (.ok second))] ++ List.replicate 5 (.act 0 (.step 2)) ++
  [.act 0 (.share 1), .act 0 (.optimize 1), .act 0 (.step 3), .act 0 (.step 3),
    .act 0 (.draw {} ⟨3, { sampleCount := 8 }⟩), .act 0 (.step 4), .act 0 (.step 4)]

/-- A call of a pipeline waits for one that is derived from a certain handle. -/
def asks (traffic : Traffic) (mode : CompileMode) (handle : PipelineHandle) : Bool :=
  traffic.calls.any fun call => (call.request? traffic.shared).any fun request =>
    request.mode = mode ∧ request.parent = some handle

theorem parents_are_alive_derivation : ∃ middle fleet before traffic,
    run? {} (founding ⟨1, by decide⟩ ⟨2, by decide⟩ ⟨3, by decide⟩) = some middle ∧
    middle.run? (derivation ⟨4, by decide⟩) = some fleet ∧
    middle.pipelines[0]? = some before ∧ fleet.pipelines[0]? = some traffic ∧
    fleet.Alive traffic .fast ⟨1, by decide⟩ ∧ fleet.Alive traffic .optimized ⟨2, by decide⟩ ∧
    (∃ other ∈ fleet.pipelines, ⟨3, by decide⟩ ∈ other.destroyed) ∧
    before.KeepsParent traffic .fast ⟨1, by decide⟩ ∧
    before.KeepsParent traffic .optimized ⟨2, by decide⟩ := by
  have possible : (run? {} (founding ⟨1, by decide⟩ ⟨2, by decide⟩ ⟨3, by decide⟩)).any (fun middle =>
      (middle.run? (derivation ⟨4, by decide⟩)).any fun fleet =>
        middle.pipelines[0]?.any (fun before =>
          before.shared.pipeline.parent .fast = some ⟨1, by decide⟩ ∧
            before.shared.pipeline.parent .optimized = some ⟨2, by decide⟩) &&
        fleet.pipelines[0]?.any (fun traffic =>
          asks traffic .fast ⟨1, by decide⟩ && asks traffic .optimized ⟨2, by decide⟩) &&
        decide (∃ other ∈ fleet.pipelines, ⟨3, by decide⟩ ∈ other.destroyed)) = true := by
    decide +kernel
  obtain ⟨middle, began, possible⟩ := (Option.any_eq_true ..).mp possible
  obtain ⟨fleet, went, possible⟩ := (Option.any_eq_true ..).mp possible
  simp only [Bool.and_eq_true, Option.any_eq_true, decide_eq_true_eq] at possible
  obtain ⟨⟨⟨before, found, base, fast⟩, traffic, place, drawn, optimized⟩, gone⟩ := possible
  obtain ⟨alive, stays⟩ := parents_are_alive began went
  have waiting (mode : CompileMode) (handle : PipelineHandle) (asked : asks traffic mode handle = true) :
      fleet.Alive traffic mode handle := by
    obtain ⟨call, among, asked⟩ := List.any_eq_true.mp asked
    obtain ⟨request, sent, named⟩ := (Option.any_eq_true ..).mp asked
    obtain ⟨rfl, derives⟩ := of_decide_eq_true named
    exact alive traffic (List.mem_of_getElem? place) call among request sent handle derives
  obtain ⟨after, there, stays⟩ := stays 0 before found
  obtain rfl : traffic = after := Option.some.inj (place.symm.trans there)
  exact ⟨middle, fleet, before, traffic, began, went, found, place, waiting _ _ drawn,
    waiting _ _ optimized, gone, stays _ _ base, stays _ _ fast⟩

end Fleet

end PipelineCache

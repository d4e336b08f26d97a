import PipelineCache.Proofs.Worker.Moves

/-! What becomes of the jobs that workers take. What is noted of a job agrees at every moment with where
the worker stands that has it in its hands; and once a worker lets go of a job, the job is settled: it was
compiled once or, when the pool was stopped, dropped. -/

namespace PipelineCache

namespace Dispatch

variable {before after dispatch : Dispatch} {pool changed : Pool} {worker index : Nat} {call : PoolCall}
  {errand current : Errand} {job : Job} {host : Option Nat}

/-- A job that a worker has in its hands is the worker's last taking; every other taking is settled. -/
structure Recorded (dispatch : Dispatch) (pool : Pool) : Prop where
  underway : ∀ worker position job marks, pool.workers[worker]? = some position →
    position.underway? = some (job, marks) →
    dispatch.takings[dispatch.desk worker]? = some ⟨worker, job, marks⟩
  settled : ∀ number taking, dispatch.takings[number]? = some taking → taking.IsSettled ∨
    dispatch.desk taking.worker = number ∧ ∃ position,
      pool.workers[taking.worker]? = some position ∧
        position.underway? = some (taking.job, taking.marks)

theorem recorded_start (engine : Engine) (workers : Nat) :
    (start engine workers).Recorded (.ofSize workers) where
  underway worker position job marks stands has := by
    have waits := List.eq_of_mem_replicate (List.mem_of_getElem? stands)
    rw [waits] at has
    cases has
  settled number taking found := by simp [start] at found

theorem not_isSettled_of_underway {position : WorkerPosition} {marks : List Mark}
    (has : position.underway? = some (job, marks)) (worker : Nat) :
    ¬(Taking.mk worker job marks).IsSettled := by
  cases position with
  | starting job => cases has; simp [Taking.IsSettled]
  | compiling job optimization => cases has; simp [Taking.IsSettled]
  | _ => cases has

theorem Recorded.of_same (recorded : before.Recorded pool)
    (takings : after.takings = before.takings) (desk : after.desk = before.desk)
    (workers : changed.workers = pool.workers) : after.Recorded changed where
  underway := by rw [takings, desk, workers]; exact recorded.underway
  settled := by rw [takings, desk, workers]; exact recorded.settled

/-- When one worker has moved, it stands where it has come to, and the others where they were. -/
theorem position_of_set {position moved stood : WorkerPosition} {other : Nat}
    (stands : pool.workers[worker]? = some position)
    (workers : changed.workers = pool.workers.set worker moved)
    (there : changed.workers[other]? = some stood) :
    other = worker ∧ stood = moved ∨ other ≠ worker ∧ pool.workers[other]? = some stood := by
  rw [workers] at there
  by_cases same : other = worker
  · subst same
    rw [List.getElem?_set_self (List.getElem?_eq_some_iff.mp stands).1] at there
    exact .inl ⟨rfl, (Option.some.inj there).symm⟩
  · rw [List.getElem?_set_ne (Ne.symm same)] at there
    exact .inr ⟨same, there⟩

/-- A worker goes on without anything to note. -/
theorem Recorded.place (recorded : before.Recorded pool) {position : WorkerPosition}
    (moved : WorkerPosition) (stands : pool.workers[worker]? = some position)
    (same : moved.underway? = position.underway?)
    (workers : changed.workers = pool.workers.set worker moved) : before.Recorded changed := by
  refine ⟨fun other found job marks there has => ?_, fun number taking found => ?_⟩
  · rcases position_of_set stands workers there with ⟨rfl, rfl⟩ | ⟨_, stays⟩
    · exact recorded.underway other position job marks stands (same ▸ has)
    · exact recorded.underway other found job marks stays has
  · refine (recorded.settled number taking found).imp_right ?_
    rintro ⟨last, held, there, has⟩
    refine ⟨last, ?_⟩
    rw [workers, List.getElem?_set]
    split
    · rename_i equal
      rw [← equal, stands] at there
      cases there
      have inside := (List.getElem?_eq_some_iff.mp stands).1
      exact ⟨moved, by simp [inside], same.trans has⟩
    · exact ⟨held, there, has⟩

theorem Recorded.take (recorded : before.Recorded pool)
    (stands : pool.workers[worker]? = some .waiting) (job : Job)
    (workers : changed.workers = pool.workers.set worker (.starting job)) :
    (before.take worker job).Recorded changed := by
  have inside := (List.getElem?_eq_some_iff.mp stands).1
  refine ⟨fun other found job' marks there has => ?_, fun number taking found => ?_⟩
  · rcases position_of_set stands workers there with ⟨rfl, rfl⟩ | ⟨different, stays⟩
    · cases has
      simp [Dispatch.take]
    · have old := recorded.underway other found job' marks stays has
      simp only [Dispatch.take, Function.update_of_ne different]
      exact (List.getElem?_append_left (List.getElem?_eq_some_iff.mp old).1).trans old
  · simp only [Dispatch.take, List.getElem?_append] at found
    split at found
    · rename_i earlier
      refine (recorded.settled number taking found).imp_right ?_
      rintro ⟨last, held, there, has⟩
      -- Another worker's, as this one has only waited.
      have different : taking.worker ≠ worker := by
        intro same
        rw [same, stands] at there
        cases there
        cases has
      refine ⟨by simpa [Dispatch.take, different] using last, held, ?_, has⟩
      rw [workers, List.getElem?_set_ne (Ne.symm different), there]
    · rename_i beyond
      obtain ⟨here, rfl⟩ : number - before.takings.length = 0 ∧ ⟨worker, job, []⟩ = taking := by
        obtain ⟨inside, same⟩ := List.getElem?_eq_some_iff.mp found
        exact ⟨by simpa using inside, by simpa using same⟩
      refine .inr ⟨?_, .starting job, ?_, rfl⟩
      · simp only [Dispatch.take, Function.update_self]
        omega
      · rw [workers, List.getElem?_set_self inside]

/-- What is noted of a worker's last taking agrees with where the worker has come to. -/
theorem Recorded.mark (recorded : before.Recorded pool) {position moved : WorkerPosition}
    {marks : List Mark} {mark : Mark} (stands : pool.workers[worker]? = some position)
    (has : position.underway? = some (job, marks))
    (goes : moved.underway? = some (job, marks ++ [mark]) ∨
      moved.underway? = none ∧ (Taking.mk worker job (marks ++ [mark])).IsSettled)
    (workers : changed.workers = pool.workers.set worker moved) :
    (before.mark worker mark).Recorded changed := by
  have inside := (List.getElem?_eq_some_iff.mp stands).1
  have last := recorded.underway worker position job marks stands has
  have noted : (before.mark worker mark).takings[before.desk worker]? =
      some ⟨worker, job, marks ++ [mark]⟩ := by
    simp [Dispatch.mark, last]
  have others (number : Nat) (different : before.desk worker ≠ number) :
      (before.mark worker mark).takings[number]? = before.takings[number]? := by
    simp [Dispatch.mark, different]
  refine ⟨fun other found job' marks' there has' => ?_, fun number taking found => ?_⟩
  · rcases position_of_set stands workers there with ⟨rfl, rfl⟩ | ⟨different, stays⟩
    · rcases goes with underway | ⟨done, _⟩
      · rw [underway] at has'
        cases has'
        exact noted
      · rw [done] at has'
        cases has'
    · have theirs := recorded.underway other found job' marks' stays has'
      refine (others _ fun same => different ?_).trans theirs
      have equal : before.desk worker = before.desk other := same
      rw [← equal, last] at theirs
      exact (congrArg Taking.worker (Option.some.inj theirs)).symm
  · by_cases same : before.desk worker = number
    · rw [← same, noted] at found
      cases found
      refine goes.symm.imp And.right fun underway => ⟨same, moved, ?_, underway⟩
      rw [workers, List.getElem?_set_self inside]
    · rw [others number same] at found
      refine (recorded.settled number taking found).imp_right ?_
      rintro ⟨theirs, held, there, working⟩
      refine ⟨theirs, held, ?_, working⟩
      rw [workers, List.getElem?_set_ne, there]
      rintro rfl
      exact same theirs

theorem Recorded.works (recorded : before.Recorded pool)
    (worked : Worked before pool worker after changed) : after.Recorded changed := by
  cases worked with
  | rests => exact recorded
  | ends stands _ _ => exact recorded.place .ended stands rfl rfl
  | takes job jobs stands _ => exact recorded.take stands job rfl
  | marks job marks mark position moved stands has _ _ goes => exact recorded.mark stands has goes rfl
  | passes position moved stands _ _ same => exact recorded.place moved stands same rfl
  | counts stands =>
      have placed : before.Recorded (pool.finishOne.place worker .waiting) :=
        recorded.place .waiting stands rfl rfl
      exact placed.of_same (takings_notify _ _) (desk_notify _ _) rfl

theorem Recorded.moved (recorded : before.Recorded pool) (moved : Moved before pool after changed) :
    after.Recorded changed := by
  cases moved with
  | proceeds index host current errand changed found proceeded =>
      exact recorded.of_same (takings_proceed ..) (desk_proceed ..) proceeded.workers_eq
  | works worker engine after changed worked =>
      have same : Recorded { before with engine := engine } pool := recorded.of_same rfl rfl rfl
      exact same.works worked
  | _ => exact recorded.of_same rfl rfl rfl

/-- What is settled stays as it is. -/
theorem Recorded.settled_later (recorded : before.Recorded pool)
    (moved : Moved before pool after changed) {number : Nat} {taking : Taking}
    (found : before.takings[number]? = some taking) (settled : taking.IsSettled) :
    after.takings[number]? = some taking := by
  cases moved with
  | proceeds index host current errand changed _ _ => rw [takings_proceed, found]
  | works worker engine after changed worked =>
      cases worked with
      | takes job jobs _ _ =>
          exact (List.getElem?_append_left (List.getElem?_eq_some_iff.mp found).1).trans found
      | marks job marks mark position moved stands has _ _ _ =>
          have last := recorded.underway worker position job marks stands has
          have different : before.desk worker ≠ number := by
            rintro rfl
            rw [last] at found
            cases found
            exact not_isSettled_of_underway has worker settled
          simp [Dispatch.mark, different, found]
      | counts _ => rw [takings_notify, found]
      | _ => exact found
  | _ => exact found

end Dispatch

end PipelineCache

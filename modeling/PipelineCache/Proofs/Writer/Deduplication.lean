import PipelineCache.Proofs.Writer.Logging

/-! The writer is a log without repetitions. Of the keys that it was given, it has added those that were
not loaded, each at its first occurrence; it has passed these on and appended their records, in this
order, up to the first append that failed. -/

namespace PipelineCache

namespace Logging

/-- What the writer has done, and what it has left to do. -/
structure Account where
  handled : List PipelineKey
  waiting : List PipelineKey
  position : WriterPosition
  queued : List Job
  log : Option Handle
  written : Nat
  dropped : Nat
  disk : Disk

/-- The instances that wait to be recorded. -/
def Account.jobs (account : Account) : List Job := account.position.jobs ++ account.queued

/-- The writer has handled the first keys that were submitted as it should, and the others wait. -/
structure Logged (loaded : List PipelineKey) (start : Disk) (forwards : Bool) (logging : Logging)
    (account : Account) : Prop where
  side : logging.engine.writerSide? = some ⟨⟨account.log, loaded ++ added loaded account.handled,
    forwards⟩, account.position, account.queued, true, loaded.length,
    (added loaded account.handled).length, account.written, account.dropped, account.disk⟩
  lasting : account.position ≠ .ended
  persisted : Persisted start (added loaded account.handled) account.log account.written account.disk
  dropped : account.dropped + (added loaded account.handled).length = account.handled.length
  keys : account.jobs.map logging.engine.keyOf? = account.waiting.map some
  backed : ∀ entry, (account.jobs.map Job.entry).count entry ≤ logging.engine.store.holders entry
  submitted : logging.submitted = account.handled ++ account.waiting
  forwarded : logging.forwarded ++ account.position.held.map .key =
    if forwards then (added loaded account.handled).map .key else []

variable {loaded : List PipelineKey} {start : Disk} {forwards : Bool} {logging next : Logging}
  {account : Account} {job : Job} {key : PipelineKey} {move : Move} {moves : List Move}

theorem Logged.submit (logged : Logged loaded start forwards logging account)
    (named : logging.engine.keyOf? job = some key) :
    Logged loaded start forwards
      { logging with engine := logging.engine.report job, submitted := logging.submitted ++ [key] }
      { account with waiting := account.waiting ++ [key], queued := account.queued ++ [job] } := by
  obtain ⟨cache, found, writer, position, queued, accepts, count, added, written, duplicates, disk⟩ :=
    Engine.writerSide?_eq_some_iff.mp logged.side
  obtain ⟨_, item, _, present, _⟩ := Engine.keyOf?_eq_some_iff.mp named
  have reported : logging.engine.report job = { logging.engine with
      store := logging.engine.store.hold job.entry
      cache := some { cache with writerQueue := cache.writerQueue.push job } } := by
    simp [Engine.report, found, accepts, Engine.hold]
  have same (other : Job) : (logging.engine.report job).keyOf? other = logging.engine.keyOf? other := by
    rw [reported]
    exact Engine.keyOf?_congr rfl (Store.get?_hold ..)
  have kept : account.jobs.map (logging.engine.report job).keyOf? = account.waiting.map some :=
    (List.map_congr_left fun other _ => same other).trans logged.keys
  have joined : Account.jobs { account with
      waiting := account.waiting ++ [key], queued := account.queued ++ [job] } =
      account.jobs ++ [job] := (List.append_assoc ..).symm
  refine ⟨?_, logged.lasting, logged.persisted, logged.dropped, ?_, fun entry => ?_, ?_,
    logged.forwarded⟩
  · rw [reported]
    exact Engine.writerSide?_eq_some_iff.mpr ⟨_, rfl, writer, position,
      congrArg (· ++ [job]) queued, accepts, count, added, written, duplicates, disk⟩
  · rw [joined, List.map_append, kept, List.map_singleton, same, named, List.map_append,
      List.map_singleton]
  · have held := Store.holders_hold present entry
    have before := logged.backed entry
    rw [joined, reported, List.map_append, List.count_append]
    simp only [List.map_cons, List.map_nil]
    omega
  · rw [logged.submitted, List.append_assoc]

theorem Logged.elsewhere (logged : Logged loaded start forwards logging account) {engine : Engine}
    (spares : Spares logging.engine engine) :
    Logged loaded start forwards { logging with engine := engine } account := by
  obtain ⟨side, held⟩ := spares
  have jobs : logging.engine.writerJobs = account.jobs := Engine.writerJobs_of_side logged.side
  rw [jobs] at held
  refine ⟨side.trans logged.side, logged.lasting, logged.persisted, logged.dropped, ?_,
    fun entry => ?_, logged.submitted, logged.forwarded⟩
  · rw [← logged.keys]
    exact List.map_congr_left fun job member => (held job member).1
  · by_cases member : entry ∈ account.jobs.map Job.entry
    · obtain ⟨job, among, rfl⟩ := List.mem_map.mp member
      exact (held job among).2
    · rw [List.count_eq_zero.mpr member]
      exact Nat.zero_le _

/-- What a step of the writer makes of its account. -/
inductive Turned (account : Account) : Account → Prop
  | rests (position : account.position = .waiting) (queued : account.queued = []) :
      Turned account account
  | takes (job : Job) (jobs : List Job) (position : account.position = .waiting)
      (queued : account.queued = job :: jobs) :
      Turned account { account with position := .handling job, queued := jobs }
  | records (job : Job) (key : PipelineKey) (keys : List PipelineKey) (next : Account)
      (position : account.position = .handling job) (waiting : account.waiting = key :: keys)
      (handled : next.handled = account.handled ++ [key]) (left : next.waiting = keys)
      (reached : next.position = .waiting ∨ next.position = .forwarding key)
      (queued : next.queued = account.queued) : Turned account next
  | forwards (key : PipelineKey) (position : account.position = .forwarding key) :
      Turned account { account with position := .waiting }

/-- A key is dropped or added, and if it is added, its record is appended as far as that is possible. -/
theorem recorded_added {handled : List PipelineKey} {log : Option Handle} {written : Nat}
    {disk changed : Disk} {writer : Writer} {recording : Recording} (openable : start.IsOpenable)
    (persisted : Persisted start (added loaded handled) log written disk)
    (recorded : Writer.Recorded ⟨log, loaded ++ added loaded handled, forwards⟩ disk key writer
      recording changed) :
    (recording = .duplicate ∧ added loaded (handled ++ [key]) = added loaded handled ∧
      writer = ⟨log, loaded ++ added loaded handled, forwards⟩ ∧ changed = disk) ∨
    ∃ done last, recording = .added done ∧
      added loaded (handled ++ [key]) = added loaded handled ++ [key] ∧
      writer = ⟨last, loaded ++ (added loaded handled ++ [key]), forwards⟩ ∧
      Persisted start (added loaded handled ++ [key]) last (written + if done then 1 else 0)
        changed := by
  have grown := added_append_singleton loaded handled key
  rw [← List.append_assoc]
  cases recorded with
  | duplicate old => exact Or.inl ⟨rfl, grown.trans (if_pos old), rfl, rfl⟩
  | closed fresh closed =>
      obtain rfl : log = none := closed
      exact Or.inr ⟨false, none, rfl, grown.trans (if_neg fresh), rfl, persisted.remembered key⟩
  | written handle _ fresh isOpen appended =>
      obtain rfl : log = some handle := isOpen
      exact Or.inr ⟨true, some handle, rfl, grown.trans (if_neg fresh), rfl,
        persisted.written openable appended⟩
  | failed handle _ error fresh isOpen appended =>
      obtain rfl : log = some handle := isOpen
      exact Or.inr ⟨false, none, rfl, grown.trans (if_neg fresh), rfl,
        persisted.failed openable appended⟩

/-- What the queue still holds is there when the writer has given up the instance that it handles. -/
theorem Logged.released (logged : Logged loaded start forwards logging account)
    (position : account.position = .handling job) (named : logging.engine.keyOf? job = some key)
    {engine : Engine} (pipelines : engine.pipelines = logging.engine.pipelines)
    (store : engine.store = (logging.engine.store.release job.entry).2) :
    ∃ keys, account.waiting = key :: keys ∧ account.queued.map engine.keyOf? = keys.map some ∧
      ∀ entry, (account.queued.map Job.entry).count entry ≤ engine.store.holders entry := by
  have jobs : account.jobs = job :: account.queued := by
    rw [Account.jobs, position]
    rfl
  have keys := logged.keys
  have backed := logged.backed
  rw [jobs] at keys backed
  rw [List.map_cons, named] at keys
  cases waiting : account.waiting with
  | nil =>
      rw [waiting] at keys
      cases keys
  | cons first rest =>
      rw [waiting, List.map_cons] at keys
      obtain ⟨same, others⟩ := List.cons.inj keys
      obtain rfl : key = first := Option.some.inj same
      refine ⟨rest, rfl, ?_, fun entry => ?_⟩
      · rw [← others]
        refine List.map_congr_left fun other member => Engine.keyOf?_congr pipelines ?_
        rw [store]
        refine Store.get?_release_of_held fun again => ?_
        have held := backed job.entry
        have twice : 0 < (account.queued.map Job.entry).count job.entry :=
          List.count_pos_iff.mpr (again ▸ List.mem_map_of_mem member)
        rw [List.map_cons, List.count_cons_self] at held
        rw [again]
        omega
      · have held := backed entry
        rw [store, Store.holders_release]
        rw [List.map_cons, List.count_cons] at held
        rw [List.count_singleton]
        omega

theorem Logged.records (openable : start.IsOpenable)
    (logged : Logged loaded start forwards logging account) {cache : Cache} {writer : Writer}
    {recording : Recording} {changed : Disk} (found : logging.engine.cache = some cache)
    (position : cache.writerPosition = .handling job) (named : logging.engine.keyOf? job = some key)
    (recorded : cache.writer.Recorded logging.engine.disk key writer recording changed)
    {engine : Engine} (same : engine = { logging.engine with
      store := (logging.engine.store.release job.entry).2
      disk := changed
      cache := some { cache with
        writer := writer
        stats := recording.counted cache.stats
        writerPosition := recording.next writer.forwards key } }) :
    ∃ next, Turned account next ∧
      Logged loaded start forwards { logging with engine := engine } next := by
  obtain ⟨other, also, started, stands, queued, accepts, count, entries, written, duplicates, disk⟩ :=
    Engine.writerSide?_eq_some_iff.mp logged.side
  obtain rfl : other = cache := Option.some.inj (also.symm.trans found)
  rw [started, disk] at recorded
  have handling : account.position = .handling job := stands.symm.trans position
  have pipelines : engine.pipelines = logging.engine.pipelines := by rw [same]
  have store : engine.store = (logging.engine.store.release job.entry).2 := by rw [same]
  obtain ⟨keys, waiting, left, backed⟩ := logged.released handling named pipelines store
  have submitted : logging.submitted = account.handled ++ [key] ++ keys := by
    rw [logged.submitted, waiting, List.append_assoc, List.singleton_append]
  have forwarded := logged.forwarded
  have dropped := logged.dropped
  rw [handling] at forwarded
  rcases recorded_added openable logged.persisted recorded with
    ⟨rfl, grown, rfl, rfl⟩ | ⟨done, last, rfl, grown, rfl, persisted⟩
  · refine ⟨{ account with
      handled := account.handled ++ [key], waiting := keys, position := .waiting
      dropped := account.dropped + 1 },
      .records job key keys _ handling waiting rfl rfl (Or.inl rfl) rfl, ?_, ?_, ?_, ?_, left, backed,
      submitted, ?_⟩
    · rw [grown, same]
      exact Engine.writerSide?_eq_some_iff.mpr ⟨_, rfl, rfl, rfl, queued, accepts, count, entries,
        written, congrArg (· + 1) duplicates, rfl⟩
    · exact WriterPosition.noConfusion
    · rw [grown]
      exact logged.persisted
    · rw [grown, List.length_append, List.length_singleton]
      simp only
      omega
    · rw [grown]
      exact forwarded
  · refine ⟨{ account with
      handled := account.handled ++ [key], waiting := keys
      position := if forwards then .forwarding key else .waiting
      log := last, written := account.written + if done then 1 else 0, disk := changed },
      .records job key keys _ handling waiting rfl rfl ?_ rfl, ?_, ?_, ?_, ?_, ?_, ?_, submitted, ?_⟩
    · cases forwards
      · exact Or.inl rfl
      · exact Or.inr rfl
    · rw [grown, same]
      exact Engine.writerSide?_eq_some_iff.mpr ⟨_, rfl, rfl, rfl, queued, accepts, count,
        by simp [Recording.counted, entries], congrArg (· + _) written, duplicates, rfl⟩
    · cases forwards <;> exact WriterPosition.noConfusion
    · rw [grown]
      exact persisted
    · rw [grown, List.length_append, List.length_append, List.length_singleton]
      simp only
      omega
    · cases forwards <;> exact left
    · cases forwards <;> exact backed
    · rw [grown]
      cases forwards with
      | false => exact forwarded
      | true =>
          have passed : logging.forwarded ++ [] = (added loaded account.handled).map .key := forwarded
          rw [List.append_nil] at passed
          simp only [if_true, List.map_append, ← passed]
          rfl

/-- The writer takes the next instance from its queue. -/
theorem Logged.takes (logged : Logged loaded start forwards logging account) {jobs : List Job}
    {cache : Cache} (position : account.position = .waiting) (queued : account.queued = job :: jobs)
    (found : logging.engine.cache = some cache) :
    Logged loaded start forwards
      { logging with engine := { logging.engine with cache := some { cache with
          writerQueue := ⟨jobs, true⟩, writerPosition := .handling job } } }
      { account with position := .handling job, queued := jobs } := by
  obtain ⟨other, also, writer, _, _, accepts, count, entries, written, duplicates, disk⟩ :=
    Engine.writerSide?_eq_some_iff.mp logged.side
  obtain rfl : other = cache := Option.some.inj (also.symm.trans found)
  have same : Account.jobs { account with position := .handling job, queued := jobs } =
      account.jobs := by
    rw [Account.jobs, Account.jobs, position, queued]
    rfl
  refine ⟨Engine.writerSide?_eq_some_iff.mpr ⟨_, rfl, writer, rfl, rfl, accepts, count, entries,
    written, duplicates, disk⟩, WriterPosition.noConfusion, logged.persisted, logged.dropped,
    ?_, ?_, logged.submitted, ?_⟩
  · rw [same]
    exact logged.keys
  · rw [same]
    exact logged.backed
  · have forwarded := logged.forwarded
    rwa [position] at forwarded

/-- The writer passes a key on to the lookup. -/
theorem Logged.passesOn (logged : Logged loaded start forwards logging account) {cache : Cache}
    (position : account.position = .forwarding key) (found : logging.engine.cache = some cache) :
    Logged loaded start forwards
      { logging with
        engine := { logging.engine with cache := some { cache with
          lookupQueue := cache.lookupQueue.push (.key key), writerPosition := .waiting } }
        forwarded := logging.forwarded ++ [.key key] }
      { account with position := .waiting } := by
  obtain ⟨other, also, writer, _, queued, accepts, count, entries, written, duplicates, disk⟩ :=
    Engine.writerSide?_eq_some_iff.mp logged.side
  obtain rfl : other = cache := Option.some.inj (also.symm.trans found)
  have same : Account.jobs { account with position := .waiting } = account.jobs := by
    rw [Account.jobs, Account.jobs, position]
    rfl
  refine ⟨Engine.writerSide?_eq_some_iff.mpr ⟨_, rfl, writer, rfl, queued, accepts, count, entries,
    written, duplicates, disk⟩, WriterPosition.noConfusion, logged.persisted, logged.dropped,
    ?_, ?_, logged.submitted, ?_⟩
  · rw [same]
    exact logged.keys
  · rw [same]
    exact logged.backed
  · have passed := logged.forwarded
    rw [position] at passed
    simpa [WriterPosition.held] using passed

/-- A step of the writer does one of four things, and the writer goes on as it should. -/
theorem Logged.turn (openable : start.IsOpenable)
    (logged : Logged loaded start forwards logging account) :
    ∃ next, Turned account next ∧ Logged loaded start forwards logging.turn next := by
  obtain ⟨cache, found, writer, position, queued, accepts, count, entries, written, duplicates, disk⟩ :=
    Engine.writerSide?_eq_some_iff.mp logged.side
  have also {other : Cache} (there : logging.engine.cache = some other) : other = cache :=
    Option.some.inj (there.symm.trans found)
  -- Nothing goes to the lookup unless the queue of the lookup changes.
  have quiet (engine : Engine) (stepped : engine = logging.engine.stepWriter.engine)
      (same : engine.lookupEntries = cache.lookupQueue.items) :
      logging.turn = { logging with engine := engine } := by
    rw [Logging.turn, ← stepped, same, Engine.lookupEntries_of_cache found, List.drop_length,
      List.append_nil]
  have step := Engine.writerStep (Engine.running_of_accepts found accepts)
  generalize stepped : logging.engine.stepWriter.engine = engine at step
  cases step with
  | idle reason =>
      -- The writer has not ended, and the instance that it handles is there.
      rcases reason cache found with ended | ⟨job, handling, nameless⟩
      · exact absurd (position.symm.trans ended) logged.lasting
      · have keys := logged.keys
        rw [Account.jobs, ← position, handling] at keys
        simp only [WriterPosition.jobs, List.map_append, List.map_cons, nameless] at keys
        cases waiting : account.waiting <;> simp [waiting] at keys
  | rests _ there waits items =>
      obtain rfl := also there
      refine ⟨account, .rests (position.symm.trans waits) (queued.symm.trans items), ?_⟩
      rw [quiet _ stepped.symm rfl]
      exact ⟨Engine.writerSide?_eq_some_iff.mpr ⟨_, rfl, writer, position, items.symm.trans queued,
        accepts, count, entries, written, duplicates, disk⟩, logged.lasting, logged.persisted,
        logged.dropped, logged.keys, logged.backed, logged.submitted, logged.forwarded⟩
  | takes _ job jobs there waits items =>
      obtain rfl := also there
      have waiting := position.symm.trans waits
      have front := queued.symm.trans items
      refine ⟨_, .takes job jobs waiting front, ?_⟩
      rw [quiet _ stepped.symm rfl]
      exact logged.takes waiting front there
  | records _ job key writer recording changed there handling named recorded =>
      obtain rfl := also there
      rw [quiet _ stepped.symm rfl]
      exact logged.records openable found handling named recorded rfl
  | forwards _ key there forwarding =>
      obtain rfl := also there
      have stands := position.symm.trans forwarding
      refine ⟨_, .forwards key stands, ?_⟩
      rw [Logging.turn, stepped, Engine.lookupEntries_of_cache there,
        Engine.lookupEntries_of_cache rfl, WorkQueue.items_push, List.drop_left]
      exact logged.passesOn stands there

theorem Logged.moved (openable : start.IsOpenable)
    (logged : Logged loaded start forwards logging account) (moved : logging.move? move = some next) :
    ∃ later, Logged loaded start forwards next later := by
  cases move with
  | submit job =>
      obtain ⟨key, named, rfl⟩ := Option.map_eq_some_iff.mp moved
      exact ⟨_, logged.submit named⟩
  | turn =>
      cases moved
      obtain ⟨later, _, turned⟩ := logged.turn openable
      exact ⟨later, turned⟩
  | elsewhere engine =>
      obtain ⟨spares, same⟩ := Option.ite_none_right_eq_some.mp moved
      cases same
      exact ⟨account, logged.elsewhere spares⟩

theorem logged_run (openable : start.IsOpenable)
    (logged : Logged loaded start forwards logging account) (ran : logging.run? moves = some next) :
    ∃ later, Logged loaded start forwards next later := by
  refine Run.kept (motive := fun reached => ∃ later, Logged loaded start forwards reached later) ?_
    ⟨account, logged⟩ ran
  rintro before move after ⟨_, logged⟩ moved
  exact logged.moved openable moved

theorem writerRests_turn (logged : Logged loaded start forwards logging account)
    (position : account.position = .waiting) (queued : account.queued = []) :
    logging.turn.engine.writerRests = true := by
  obtain ⟨cache, found, _, stands, items, accepts, _⟩ :=
    Engine.writerSide?_eq_some_iff.mp logged.side
  have live := Engine.running_of_accepts found accepts cache found
  simp [Logging.turn, Engine.stepWriter, found, stands.trans position, WorkQueue.pop, live,
    items.trans queued, Engine.writerRests]

theorem waiting_of_writerRests (logged : Logged loaded start forwards logging account)
    (rests : logging.engine.writerRests = true) :
    account.position = .waiting ∧ account.queued = [] := by
  obtain ⟨cache, found, _, stands, items, _⟩ := Engine.writerSide?_eq_some_iff.mp logged.side
  have lasting := logged.lasting
  simp only [Engine.writerRests, found] at rests
  cases position : account.position <;>
    simp [stands.trans position, position, ← items] at rests lasting ⊢
  exact rests.1.1

theorem Turned.nearer {later : Account} (turned : Turned account later) :
    (account.position = .waiting ∧ account.queued = []) ∨
      3 * later.queued.length + later.position.rest <
        3 * account.queued.length + account.position.rest := by
  cases turned with
  | rests position queued => exact Or.inl ⟨position, queued⟩
  | takes job jobs position queued =>
      refine Or.inr ?_
      rw [position, queued, List.length_cons]
      simp only [WriterPosition.rest]
      omega
  | records job key keys later position _ _ _ reached queued =>
      refine Or.inr ?_
      rw [position, queued]
      rcases reached with reached | reached <;>
        simp [reached, WriterPosition.rest]
  | forwards key position =>
      refine Or.inr ?_
      rw [position]
      simp [WriterPosition.rest]

/-- Left to itself, the writer comes to rest. -/
theorem Logged.settles {logging : Logging} {account : Account} (openable : start.IsOpenable)
    (logged : Logged loaded start forwards logging account) : ∃ turns rested,
      logging.run? (List.replicate turns .turn) = some rested ∧
      rested.engine.writerRests = true ∧ rested.submitted = logging.submitted := by
  obtain ⟨next, turned, later⟩ := logged.turn openable
  by_cases done : account.position = .waiting ∧ account.queued = []
  · exact ⟨1, _, rfl, writerRests_turn logged done.1 done.2, rfl⟩
  · have nearer := turned.nearer.resolve_left done
    obtain ⟨turns, rested, ran, rests, same⟩ := later.settles openable
    exact ⟨turns + 1, rested, ran, rests, same⟩
termination_by 3 * account.queued.length + account.position.rest

end Logging

namespace Cache

theorem nodup_foldl_distinct (known keys : List PipelineKey) (nodup : known.Nodup) :
    (keys.foldl (fun known key => if key ∈ known then known else known ++ [key]) known).Nodup := by
  induction keys generalizing known with
  | nil => exact nodup
  | cons key keys ih =>
      rw [List.foldl_cons]
      split
      · exact ih known nodup
      · rename_i fresh
        exact ih _ (List.concat_eq_append ▸ nodup.concat fresh)

theorem nodup_distinct (keys : List PipelineKey) : (distinct keys).Nodup :=
  nodup_foldl_distinct [] keys List.nodup_nil

/-- A cache whose file is open has just loaded it. -/
theorem opened_start {config : CacheConfig} {disk : Disk} {handle : Handle}
    (opened : (start config disk).value.writer.log = some handle) :
    ∃ path, config.filePath = some path ∧ config.enableWriter = true ∧
      (disk.load path).disk.openForAppend = .ok handle := by
  cases named : config.filePath with
  | none => simp [start, named] at opened
  | some path =>
      cases writes : config.enableWriter with
      | false => simp [start, named, writes] at opened
      | true =>
          refine ⟨path, rfl, rfl, ?_⟩
          cases tried : (disk.load path).disk.openForAppend with
          | error error =>
              simp [start, named, writes, openLog, Disk.openLog, tried, mapError_error] at opened
          | ok other =>
              simp only [start, named, writes, openLog, Disk.openLog, tried, mapError_ok] at opened
              exact congrArg Except.ok (Option.some.inj opened)

end Cache

namespace Logging

variable {setup : Setup} {config : CacheConfig} {disk : Disk} {handle : Handle} {logging : Logging}
  {moves : List Move}

/-- A writer that has just started with an open file. -/
theorem logged_start (chosen : setup.cache = some config)
    (opened : (Cache.start config disk).value.writer.log = some handle) :
    (Cache.start config disk).disk.IsOpenable ∧
      Logged (Cache.start config disk).value.writer.known (Cache.start config disk).disk
        config.enablePrewarm { engine := (Engine.start setup disk).engine }
        ⟨[], [], .waiting, [], some handle, 0, 0, (Cache.start config disk).disk⟩ := by
  obtain ⟨path, named, writes, file⟩ := Cache.opened_start opened
  obtain ⟨left, log, known, count, _⟩ := Cache.start_eq named writes file
  obtain ⟨openable, rfl⟩ := Disk.openable_of_openForAppend file
  have cached : (Engine.start setup disk).engine.cache = some (Cache.start config disk).value := by
    simp only [Engine.start, chosen]
    rfl
  have placed : (Engine.start setup disk).engine.disk = (Cache.start config disk).disk := by
    simp only [Engine.start, chosen]
    rfl
  rw [← left] at openable
  refine ⟨openable, ?_, WriterPosition.noConfusion, ?_, rfl, rfl, fun _ => Nat.zero_le _, rfl, ?_⟩
  · refine Engine.writerSide?_eq_some_iff.mpr
      ⟨_, cached, ?_, if_pos writes, rfl, ?_, ?_, rfl, rfl, rfl, placed⟩
    · have same : (Cache.start config disk).value.writer =
          ⟨(Cache.start config disk).value.writer.log, (Cache.start config disk).value.writer.known,
            config.enablePrewarm⟩ := rfl
      rw [same, opened]
      simp [added]
    · show (config.enableWriter && !false) = true
      rw [writes]
      rfl
    · rw [count, known]
  · have nothing := Persisted.nothing openable
    rwa [left] at nothing ⊢
  · cases config.enablePrewarm <;> rfl

/-- The writer of a cache whose file is open always comes to rest. At rest it has added the keys of the
submitted instances that were not loaded, each at its first occurrence and whether or not they could be
written; it has passed exactly these on, in this order, if the lookup is there; it has counted them, and
every other submission as a duplicate; and behind what the file held before stand the records of those
before the first append that failed, and what that append left behind. -/
theorem writer_deduplicates (chosen : setup.cache = some config)
    (opened : (Cache.start config disk).value.writer.log = some handle)
    (ran : run? { engine := (Engine.start setup disk).engine } moves = some logging) :
    (∃ turns rested, logging.run? (List.replicate turns .turn) = some rested ∧
      rested.engine.writerRests = true ∧ rested.submitted = logging.submitted) ∧
    (logging.engine.writerRests = true → ∃ cache, logging.engine.cache = some cache ∧
      ∀ loaded new, loaded = (Cache.start config disk).value.writer.known →
        new = added loaded logging.submitted →
        cache.writer.known = loaded ++ new ∧ (loaded ++ new).Nodup ∧
        logging.forwarded = (if config.enablePrewarm then new.map .key else []) ∧
        cache.stats.entriesAdded = new.length ∧
        cache.stats.duplicatesDropped + new.length = logging.submitted.length ∧
        cache.stats.entriesLoaded + cache.stats.entriesAdded = cache.writer.known.length ∧
        (cache.stats.recordsWritten ≤ new.length ∧
          (∀ index < cache.stats.recordsWritten,
            (Cache.start config disk).disk.fate index = none) ∧
          (cache.stats.recordsWritten = new.length ∨
            ((Cache.start config disk).disk.fate cache.stats.recordsWritten).isSome)) ∧
        ∀ content, (Cache.start config disk).disk.content? = some content → ∃ torn,
          logging.engine.disk.content? = some (content ++
            ((new.take cache.stats.recordsWritten).flatMap Record.encode ++ torn)) ∧
          (cache.stats.recordsWritten = new.length → torn = []) ∧
          ∀ key, new[cache.stats.recordsWritten]? = some key → ∃ count error,
            (Cache.start config disk).disk.fate cache.stats.recordsWritten = some (count, error) ∧
            torn = (Record.encode key).take count) := by
  obtain ⟨openable, logged⟩ := logged_start chosen opened
  obtain ⟨account, logged⟩ := logged_run openable logged ran
  refine ⟨logged.settles openable, fun rests => ?_⟩
  obtain ⟨position, queued⟩ := waiting_of_writerRests logged rests
  obtain ⟨cache, found, writer, _, _, _, count, entries, written, duplicates, left⟩ :=
    Engine.writerSide?_eq_some_iff.mp logged.side
  -- Nothing waits any more, so all that was submitted has been handled.
  have nothing : account.waiting = [] := by
    have keys := logged.keys
    rw [Account.jobs, position, queued] at keys
    exact List.map_eq_nil_iff.mp keys.symm
  have handled : logging.submitted = account.handled := by
    rw [logged.submitted, nothing, List.append_nil]
  have forwarded := logged.forwarded
  rw [position] at forwarded
  refine ⟨cache, found, ?_⟩
  rintro loaded new rfl rfl
  rw [handled, written, left]
  refine ⟨?_, nodup_added ?_ _, (List.append_nil _).symm.trans forwarded, entries, ?_, ?_,
    logged.persisted.written_eq, fun content present => logged.persisted.content_eq present⟩
  · rw [writer]
  · obtain ⟨path, named, writes, file⟩ := Cache.opened_start opened
    rw [(Cache.start_eq named writes file).2.2.1]
    exact Cache.nodup_distinct _
  · rw [duplicates]
    exact logged.dropped
  · rw [count, entries, writer, List.length_append]

/-- The header and one record get through, and the next record breaks off. -/
def breaking : Disk :=
  { faults := { writing := [none, none, some (5, .system .noSpaceLeft)] } }

def setupAt (path : String) : Setup := { cache := some { filePath := some path } }

/-- A pipeline and two instances turn up in an engine. -/
def populated (engine : Engine) : Engine :=
  { engine with
    pipelines := [{ shaders := {} }]
    store := ⟨[some ⟨{ state := {}, pass := ⟨1, {}⟩ }, 1⟩,
      some ⟨{ state := { inputAssembly := { patchVertexCount := 1 } }, pass := ⟨1, {}⟩ }, 1⟩]⟩ }

/-- The first instance is submitted twice, and then the second one. -/
def submissions : List Move :=
  [.elsewhere (populated (Engine.start (setupAt "cache") breaking).engine), .submit ⟨0, 0⟩,
    .submit ⟨0, 0⟩, .submit ⟨0, 1⟩] ++ List.replicate 12 .turn

theorem writer_deduplicates_submissions : ∃ logging cache,
    run? { engine := (Engine.start (setupAt "cache") breaking).engine } submissions = some logging ∧
    logging.engine.cache = some cache ∧ logging.submitted.length = 3 ∧
    (added [] logging.submitted).length = 2 ∧
    logging.forwarded = (added [] logging.submitted).map .key ∧
    cache.stats.duplicatesDropped = 1 ∧ cache.stats.recordsWritten = 1 := by
  have opened : (Cache.start { filePath := some "cache" } breaking).value.writer.log = some ⟨0⟩ := by
    decide
  have ran : ∃ logging, run? { engine := (Engine.start (setupAt "cache") breaking).engine } submissions =
      some logging ∧ logging.engine.writerRests = true ∧ logging.submitted.length = 3 ∧
      (added [] logging.submitted).length = 2 :=
    ⟨_, rfl, by decide +kernel, by decide +kernel, by decide +kernel⟩
  obtain ⟨logging, ran, rests, submitted, distinct⟩ := ran
  obtain ⟨cache, found, deduplicated⟩ := (writer_deduplicates rfl opened ran).2 rests
  obtain ⟨_, _, forwarded, _, dropped, _, ⟨bound, spared, failed⟩, _⟩ := deduplicated [] _ rfl rfl
  rw [distinct] at dropped bound failed
  rw [submitted] at dropped
  refine ⟨logging, cache, ran, found, submitted, distinct, forwarded, by omega, ?_⟩
  -- The append of the second record fails, and that of the first one does not.
  have first : (Cache.start { filePath := some "cache" } breaking).disk.fate 0 = none := by decide
  have second : (Cache.start { filePath := some "cache" } breaking).disk.fate 1 ≠ none := by decide
  rcases Nat.lt_trichotomy cache.stats.recordsWritten 1 with none | one | more
  · obtain zero : cache.stats.recordsWritten = 0 := by omega
    rw [zero, first] at failed
    rcases failed with wrong | wrong <;> cases wrong
  · exact one
  · exact absurd (spared 1 more) second

end Logging

end PipelineCache

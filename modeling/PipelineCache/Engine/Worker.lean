import PipelineCache.Engine.Basic

/-! The steps of the threads that belong to an engine: the writer and the lookup of its state cache,
and the workers of its background compiler. -/

namespace PipelineCache.Engine

/-- Gives a key to the writer. -/
def recordKey (engine : Engine) (cache : Cache) (key : PipelineKey) : Turn :=
  let (writer, outcome) := cache.writer.record engine.disk key
  let stats := cache.stats
  let (counted, position) : CacheStats × WriterPosition :=
    match outcome.value with
    | .duplicate =>
        ({ stats with duplicatesDropped := stats.duplicatesDropped + 1 }, .waiting)
    | .added written =>
        ({ stats with
            entriesAdded := stats.entriesAdded + 1
            recordsWritten := stats.recordsWritten + (if written then 1 else 0) },
          if writer.forwards then .forwarding key else .waiting)
  (Turn.mk { engine with
      disk := outcome.disk
      cache := some { cache with
        writer := writer, stats := counted, writerPosition := position } } []).sayAll
    .writer outcome.messages

/-- One step of the writer. -/
def stepWriter (engine : Engine) : Turn :=
  match engine.cache with
  | none => engine.unchanged
  | some cache =>
      match cache.writerPosition with
      | .waiting =>
          let (popped, queue) := cache.writerQueue.pop cache.stopped
          match popped with
          | .item job =>
              ⟨{ engine with cache := some { cache with
                  writerQueue := queue, writerPosition := .handling job } }, []⟩
          | .waits => ⟨{ engine with cache := some { cache with writerQueue := queue } }, []⟩
          | .stopped jobs =>
              (Turn.mk { engine with cache := some { cache with
                writerQueue := queue, writerPosition := .ended } } []).releaseAll
                  (jobs.map Job.entry)
      | .handling job =>
          match engine.keyOf? job with
          | none => engine.unchanged
          | some key =>
              let released := engine.release job.entry
              let recorded := released.engine.recordKey cache key
              ⟨recorded.engine, released.notices ++ recorded.notices⟩
      | .forwarding key =>
          ⟨{ engine with cache := some { cache with
              lookupQueue := cache.lookupQueue.push (.key key), writerPosition := .waiting } }, []⟩
      | .ended => engine.unchanged

/-- The writer has nothing to do. -/
def writerRests (engine : Engine) : Bool :=
  match engine.cache with
  | none => true
  | some cache =>
      match cache.writerPosition with
      | .waiting => cache.writerQueue.items.isEmpty && !cache.writerQueue.busy && !cache.stopped
      | .ended => true
      | _ => false

def moveLookup (engine : Engine) (position : LookupPosition) : Engine :=
  engine.updateCache fun cache => { cache with lookupPosition := position }

def countInLookup (cache : Cache) : LookupResponse → Cache
  | .indexed | .ignored => cache
  | .duplicate _ =>
      cache.count fun stats => { stats with duplicateShaders := stats.duplicateShaders + 1 }
  | .registered _ =>
      cache.count fun stats => { stats with shadersRegistered := stats.shadersRegistered + 1 }

/-- The lookup handles an entry of its queue. -/
def handleEntry (engine : Engine) (cache : Cache) (entry : LookupEntry) : Turn :=
  let (lookup, response) := cache.lookup.handle entry
  let handled := countInLookup { cache with lookup := lookup } response
  let (position, notices) : LookupPosition × List Notice :=
    match response with
    | .indexed | .ignored => (.waiting, [])
    | .duplicate shader =>
        (.waiting, [.said .lookup (.debug
          ("state cache: shader " ++ shader.text ++ " already provided"))])
    | .registered ready => (.building ready, [])
  ⟨{ engine with cache := some { handled with lookupPosition := position } }, notices⟩

/-- Makes an instance of a remembered pipeline and hands it to the background compiler. -/
def submitRemembered (engine : Engine) (key : PipelineKey) (pipeline : PipelineId)
    (pass : RenderPass) : Turn :=
  let (entry, grown) := engine.addInstance { state := key.state, pass := pass }
  ((grown.offerJob ⟨pipeline, entry⟩).unchanged.say .lookup (.info
    ("state cache: compiling cached pipeline " ++ (key.shaderKey .vertex).text))).release entry

/-- One step of the lookup, except that it may have to wait for a render pass. -/
def stepLookup (engine : Engine) : Turn :=
  match engine.cache with
  | none => engine.unchanged
  | some cache =>
      match cache.lookupPosition with
      | .waiting =>
          let (popped, queue) := cache.lookupQueue.pop cache.stopped
          let position : LookupPosition :=
            match popped with
            | .item entry => .handling entry
            | .waits => .waiting
            | .stopped _ => .ended
          ⟨{ engine with cache := some { cache with
              lookupQueue := queue, lookupPosition := position } }, []⟩
      | .handling entry => engine.handleEntry cache entry
      | .building [] => ⟨engine.moveLookup .waiting, []⟩
      | .building (⟨key, shaders⟩ :: ready) =>
          let (pipeline, turn) := engine.obtainPipeline .lookup shaders
          { turn with engine := turn.engine.moveLookup (.passing key pipeline ready) }
      | .passing key pipeline ready =>
          match engine.passes.find? key.format with
          | none => engine.unchanged
          | some pass => ⟨engine.moveLookup (.submitting key pipeline pass ready), []⟩
      | .submitting key pipeline pass ready =>
          let turn := engine.submitRemembered key pipeline pass
          { turn with engine := turn.engine.moveLookup (.counting ready) }
      | .counting ready =>
          ⟨(engine.countInCache fun stats =>
              { stats with prewarmsSubmitted := stats.prewarmsSubmitted + 1 }).moveLookup
            (.building ready), []⟩
      | .ended => engine.unchanged

/-- The format of the render pass that the lookup needs from the device. -/
def wantedFormat? (engine : Engine) : Option RenderPassFormat :=
  match engine.cache with
  | none => none
  | some cache =>
      match cache.lookupPosition with
      | .passing key _ _ =>
          match engine.passes.find? key.format with
          | none => some key.format
          | some _ => none
      | _ => none

/-- The lookup goes on with the device's answer about a render pass. -/
def answerLookup (engine : Engine) (result : Except CacheError UInt64) : Turn :=
  match engine.cache with
  | none => engine.unchanged
  | some cache =>
      match cache.lookupPosition with
      | .passing key pipeline ready =>
          let (obtained, passes) := engine.passes.obtain key.format result
          let grown : Engine := { engine with passes := passes }
          match obtained with
          | .ok pass => ⟨grown.moveLookup (.submitting key pipeline pass ready), []⟩
          | .error error =>
              ⟨grown.moveLookup (.building ready), [.said .lookup (.warning
                ("state cache: cannot create render pass for cached pipeline: "
                  ++ error.message))]⟩
      | _ => engine.unchanged

/-- The lookup has nothing to do. -/
def lookupRests (engine : Engine) : Bool :=
  match engine.cache with
  | none => true
  | some cache =>
      match cache.lookupPosition with
      | .waiting => cache.lookupQueue.items.isEmpty && !cache.lookupQueue.busy && !cache.stopped
      | .ended => true
      | _ => false

def placeWorker (engine : Engine) (worker : Nat) (position : WorkerPosition) : Engine :=
  match engine.compiler with
  | .recording _ => engine
  | .pool pool => { engine with compiler := .pool (pool.place worker position) }

def workerAt? (engine : Engine) (worker : Nat) : Option WorkerPosition :=
  match engine.compiler with
  | .recording _ => none
  | .pool pool => pool.workers[worker]?

/-- One step of a worker of the background compiler, except that it may have to wait for the
device. -/
def stepWorker (engine : Engine) (worker : Nat) : Turn :=
  match engine.compiler, engine.workerAt? worker with
  | .pool pool, some position =>
      match position with
      | .waiting =>
          match pool.jobs with
          | job :: jobs =>
              let taken : Pool := { pool with jobs := jobs }
              ⟨{ engine with compiler := .pool (taken.place worker (.starting job)) }, []⟩
          | [] =>
              if pool.accepts then engine.unchanged
              else ⟨engine.placeWorker worker .ended, []⟩
      | .starting job =>
          ⟨engine.placeWorker worker
            (if pool.stopped then .releasing job else .compiling job ⟨job.entry, .checking⟩), []⟩
      | .compiling job optimization =>
          if (Call.optimize optimization).isFinished then
            ⟨engine.placeWorker worker (.releasing job), []⟩
          else
            let (next, turn) := engine.stepCall .compiler job.pipeline (.optimize optimization)
            match next with
            | .optimize moved =>
                { turn with engine := turn.engine.placeWorker worker (.compiling job moved) }
            | .draw _ => turn
      | .releasing job => (engine.placeWorker worker .counting).release job.entry
      | .counting =>
          ⟨{ engine with compiler := .pool (pool.finishOne.place worker .waiting) }, []⟩
      | .ended => engine.unchanged
  | _, _ => engine.unchanged

/-- What the device is asked by a worker that waits for it. -/
def workerRequest? (engine : Engine) (worker : Nat) : Option CompileRequest :=
  match engine.workerAt? worker with
  | some (.compiling job optimization) => engine.requestOf? job.pipeline (.optimize optimization)
  | _ => none

/-- A worker goes on with the answer of the device. -/
def answerWorker (engine : Engine) (worker : Nat) (result : Except CacheError PipelineHandle) :
    Engine :=
  match engine.workerAt? worker with
  | some (.compiling job optimization) =>
      engine.placeWorker worker (.compiling job (optimization.answer result))
  | _ => engine

/-- A worker has nothing to do. -/
def workerRests (engine : Engine) (worker : Nat) : Bool :=
  match engine.compiler, engine.workerAt? worker with
  | .pool pool, some .waiting => pool.jobs.isEmpty && pool.accepts
  | .pool _, some .ended => true
  | .pool _, some _ => false
  | _, _ => true

/-- The number of a worker that has something to do. -/
def nextWorker? (engine : Engine) : Option Nat :=
  match engine.compiler with
  | .recording _ => none
  | .pool pool => (List.range pool.workers.length).find? fun worker => !engine.workerRests worker

end PipelineCache.Engine

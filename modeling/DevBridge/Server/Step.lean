import DevBridge.Lib.Transition
import DevBridge.Server.World

/-!
# The steps of the print server

`push`, `subscribe_jobs`, `report_status`, `complete_job`, the delayed requeue, the reaper, and
the loop of a job stream, cut where they give up a lock.  Which handler goes on, and when, is
open: the events below come in any order.

Every call of storage may fail.  Where the handler then answers an error nothing has changed,
and there is no event; where it goes on regardless, the failure is an event of its own.
-/

namespace DevBridge

namespace Server

/-! ### What clients send -/

/-- The states on the wire. -/
inductive WireState where
  | unspecified
  | queued
  | downloading
  | printing
  | completed
  | failed
  | cancelled
  | rendering
  | sending
deriving DecidableEq, Repr

/-- `proto_state_to_core`. -/
def protoStateToCore : WireState → JobState
  | .unspecified => .queued
  | .queued => .queued
  | .downloading => .downloading
  | .printing => .printing
  | .completed => .completed
  | .failed => .failed
  | .cancelled => .cancelled
  | .rendering => .printing
  | .sending => .printing

/-- The stage of an audit event. -/
inductive PrintStage where
  | received
  | routed
  | downloading
  | downloaded
  | rendering
  | rendered
  | sending
  | sent
  | verified
  | acknowledged
  | completed
  | failed
  | retrying
  | unconfirmed
deriving DecidableEq, Repr

/-- `status_update_state`: an unconfirmed end travels as a failure, and its event tells. -/
def statusUpdateState (wire : JobState) (stage : Option PrintStage) : JobState :=
  if stage = some .unconfirmed then .unconfirmed else wire

/-- A message of a status stream; the stage is that of its event, if it can be read. -/
structure JobStatusUpdate where
  jobId : JobId
  state : WireState
  stage : Option PrintStage
deriving DecidableEq, Repr

/-- Who completes a job is only logged. -/
structure JobCompletion where
  jobId : JobId
  clientId : String
  success : Bool
  unconfirmed : Bool
  errorDetail : String
deriving DecidableEq, Repr

/-- The job of a print request or of a reprint. -/
structure NewJob where
  document : JobDocument
  targetPrinter : String
  targetClientId : Option String
deriving DecidableEq, Repr

/-- The `jobs` section of the configuration. -/
structure JobsConfig where
  maxRetries : ℕ
  retryDelaySecs : ℕ

/-- How long a job may be in progress without news, in nanoseconds. -/
def JobsConfig.staleTimeout (cfg : JobsConfig) : Time := cfg.retryDelaySecs * 10 * 10 ^ 9

/-- One step of the server or of its surroundings. -/
inductive ServerStep where
  | clock (now : Time)
  | setPrinters (printers : PrinterTable)
  | setPairing (machineId : String) (state : PairingState)
  | push (job : NewJob)
  | subscribe (machineId : String) (driver : Option String)
  /-- A message of a heartbeat stream. -/
  | ping (machineId : String)
  /-- The handler or background task at this place goes on. -/
  | task (place : ℕ)
  /-- The handler of this job stream goes on. -/
  | loop (c : ConnId)
  /-- The default queue notified the loop while it waited. -/
  | notified (c : ConnId)
  /-- The client is gone. -/
  | disconnect (c : ConnId)
  | status (update : JobStatusUpdate)
  | complete (completion : JobCompletion)
  | reap
  | clearJobs
  /-- The process ends and starts again. -/
  | restart
  /-- A job is pushed, and the lookup of its printer fails. -/
  | pushUnresolved (job : NewJob)
  /-- A client subscribes, and its row is not written. -/
  | subscribeUnwritten (machineId : String)
  /-- The storage call of the handler or background task at this place fails. -/
  | taskFails (place : ℕ)
  /-- The task at this place requeues its job, and reading the job back fails. -/
  | requeueUnread (place : ℕ)
  /-- The storage call of the handler of this job stream fails. -/
  | loopFails (c : ConnId)
deriving DecidableEq

/-- A job is pushed. -/
def ServerStep.pushes : ServerStep → Prop
  | .push _ | .pushUnresolved _ => True
  | _ => False

namespace ServerWorld

variable (cfg : JobsConfig) (w : ServerWorld)

/-! ### Jobs enter the queue -/

/-- Whose printer the job goes to. -/
def resolveTarget (job : NewJob) : Option String :=
  if job.targetPrinter = "" then job.targetClientId
  else ((w.printers.byIppName job.targetPrinter).bind VirtualPrinter.pairedClientId)
    <|> job.targetClientId

def newRow (job : NewJob) : JobRow :=
  { document := job.document
    targetPrinter := job.targetPrinter
    targetClientId := w.resolveTarget job
    state := .known .queued
    retryCount := 0
    errorDetail := ""
    createdAt := w.now
    updatedAt := w.now }

def insertAndRoute (row : JobRow) : ServerWorld :=
  { w with
    jobs := w.jobs.insertJob w.nextJob row
    nextJob := w.nextJob + 1
    tasks := .route w.nextJob row.targetClientId [] :: w.tasks
    trace := .queued w.nextJob false :: w.trace }

/-- `push` up to the end of the storage lock. -/
def push (job : NewJob) : ServerWorld := w.insertAndRoute (w.newRow job)

/-- `push` when the lookup of the printer fails: the job is not paired through it. -/
def pushUnresolved (job : NewJob) : ServerWorld :=
  w.insertAndRoute { w.newRow job with targetClientId := job.targetClientId }

/-- The reaper goes on with the rest of the jobs it selected. -/
def goOn (rest : List (JobId × ℕ)) : ServerWorld :=
  if rest = [] then w else w.addTask (.reap rest)

/-- `requeue_job` up to the end of the storage lock, which it keeps for reading the target
back.  A job that is not requeued is not routed. -/
def requeue (id : JobId) (errorDetail : String) (rest : List (JobId × ℕ)) : ServerWorld :=
  match w.jobs.requeueJob w.now id errorDetail with
  | some (true, jobs) =>
    { w with
      jobs := jobs
      tasks := .route id ((jobs.get? id).bind JobRow.targetClientId) rest :: w.tasks
      trace := .queued id false :: w.trace }
  | _ => w.goOn rest

/-- `requeue_job` when reading the job back fails: the job is routed as one without a client. -/
def requeueUnread (id : JobId) (errorDetail : String) (rest : List (JobId × ℕ)) :
    Option ServerWorld :=
  match w.jobs.requeueJob w.now id errorDetail with
  | some (true, jobs) =>
    some { w with
      jobs := jobs
      tasks := .route id none rest :: w.tasks
      trace := .queued id false :: w.trace }
  | _ => none

/-- The routing of `push` and `requeue_job`: to the paired client or into the default queue. -/
def route (id : JobId) (target : Option String) : ServerWorld :=
  match target with
  | some client => w.deliverTo client [id]
  | none => { w with
      defaultPending := w.defaultPending ++ [id]
      tasks := .notifyDefault :: w.tasks }

/-! ### Clients report -/

def setJobs (jobs : JobTable) : ServerWorld := { w with jobs := jobs }

/-- `apply_status_update`. -/
def applyStatusUpdate (update : JobStatusUpdate) : ServerWorld :=
  let state := statusUpdateState (protoStateToCore update.state) update.stage
  match w.jobs.updateUnlessTerminal w.now update.jobId state with
  | some (true, jobs) =>
    if state = .queued ∧ ¬ w.jobs.updates update.jobId JobRow.isQueued then
      (w.setJobs jobs).remember (.queued update.jobId true)
    else w.setJobs jobs
  | _ => w

/-- `update_state` of `complete_job`. -/
def finish (id : JobId) (state : JobState) : ServerWorld :=
  match w.jobs.updateJobState w.now id state with
  | some jobs => w.setJobs jobs
  | none => w

/-- `complete_job` up to the first lock it gives up. -/
def completeJob (completion : JobCompletion) : ServerWorld :=
  if completion.success then w.finish completion.jobId .completed
  else if completion.unconfirmed then w.finish completion.jobId .unconfirmed
  else match w.jobs.updateUnlessTerminal w.now completion.jobId .failed with
    | some (true, jobs) =>
      ((w.setJobs jobs).remember (.leftFailed completion.jobId)).addTask
        (.marked completion.jobId completion.errorDetail)
    | some (false, _) => w.addTask (.unmarked completion.jobId)
    | none => w

/-- The lookup of `complete_job` after the mark: a requeue is scheduled below the limit. -/
def scheduleRetry (id : JobId) (errorDetail : String) : ServerWorld :=
  match w.jobs.get? id with
  | some row =>
    if row.retryCount < cfg.maxRetries then w.addTask (.delayed id row.retryCount errorDetail)
    else w
  | none => w

/-- The reaper at the next of its stale jobs. -/
def reapNext : List (JobId × ℕ) → ServerWorld
  | [] => w
  | (id, retryCount) :: rest =>
    if retryCount < cfg.maxRetries then w.requeue id "stale: stuck in progress" rest
    else w.goOn rest

/-! ### Handlers and background tasks -/

/-- A client that is not rejected may subscribe. -/
def checkPairing (machineId : String) : ServerWorld :=
  if (w.clients machineId).any (·.pairingState = .rejected) then w
  else w.addTask (.register machineId)

def runTask : Task → ServerWorld
  | .checkPairing machineId => w.checkPairing machineId
  | .register machineId => w.registerClient machineId
  | .route id target rest => (w.route id target).goOn rest
  | .notifyDefault => { w with defaultNotified := w.defaultNotified + 1 }
  | .notifyPairing => { w with pairingNotified := w.pairingNotified + 1 }
  | .marked id errorDetail => w.scheduleRetry cfg id errorDetail
  | .unmarked id => w.setJobs (w.jobs.unconfirmCompleted w.now id).2
  | .delayed id _ errorDetail => w.requeue id errorDetail []
  | .reap rest => w.reapNext cfg rest

/-- The storage call of a task fails, if it has one: a client whose state cannot be read is let
through to its registration, and a job is neither retried nor requeued. -/
def failTask : Task → Option ServerWorld
  | .checkPairing machineId => some (w.addTask (.register machineId))
  | .marked _ _ | .unmarked _ | .delayed _ _ _ => some w
  | .reap ((_, retryCount) :: rest) =>
    if retryCount < cfg.maxRetries then some (w.goOn rest) else none
  | _ => none

/-- A task requeues its job, and reading the job back fails. -/
def failReadBack : Task → Option ServerWorld
  | .delayed id _ errorDetail => w.requeueUnread id errorDetail []
  | .reap ((id, retryCount) :: rest) =>
    if retryCount < cfg.maxRetries then w.requeueUnread id "stale: stuck in progress" rest
    else none
  | _ => none

/-! ### Job streams -/

/-- Whether the loop is let through, and whether it may take from the default queue. -/
def gate (machineId : String) : Phase :=
  match w.clients machineId with
  | some row =>
    if row.pairingState = .approved then .approved row.takesDefaultQueue else .unapproved
  | none => .unapproved

/-- The lookup of `send_job`: only a queued job is sent. -/
def lookUp (id : JobId) : Phase :=
  match w.jobs.get? id with
  | some row => if row.state.read = .queued then .sending id row.retryCount else .gate
  | none => .gate

/-- The loop takes the next id of its channel. -/
def takeRouted (c : ConnId) (k : Connection) : Option ServerWorld :=
  match k.channel with
  | id :: rest => some (w.setConn c { k with channel := rest, phase := .holding id })
  | [] => none

/-- The loop takes the next id of the default queue. -/
def takeDefault (c : ConnId) (k : Connection) (takesDefaultQueue : Bool) (seen : ℕ) :
    ServerWorld :=
  match w.defaultPending, takesDefaultQueue with
  | id :: rest, true => { w with defaultPending := rest }.setPhase c k (.holding id)
  | _, _ => w.setPhase c k (.waiting takesDefaultQueue seen)

/-- The stored state of a job. -/
def stateOf (id : JobId) : Option JobState := (w.jobs.get? id).map fun row => row.state.read

/-- The end of `send_job`: it fails when the client is gone. -/
def sendJob (c : ConnId) (k : Connection) (id : JobId) : ServerWorld :=
  if k.connected then (w.setPhase c k .gate).remember (.sent c id (w.stateOf id))
  else w.setPhase c k .leaving

/-- `StreamPeers::disconnected`. -/
def forgetPeer (machineId : String) (c : ConnId) : ServerWorld :=
  if w.streamPeers machineId = some c then
    { w with streamPeers := Function.update w.streamPeers machineId none }
  else w

/-- The next step of the handler of a job stream, unless it waits. -/
def runLoop (c : ConnId) (k : Connection) : Option ServerWorld :=
  match k.phase with
  | .registered =>
    some ({ w with streamPeers := Function.update w.streamPeers k.machineId (some c) }.setPhase
      c k .peerRecorded)
  | .peerRecorded => some ((w.setClientOnline k.machineId true).setPhase c k .setOnline)
  | .setOnline =>
    some ({ w with connectedClients := w.connectedClients + 1 }.setPhase c k .counted)
  | .counted => some (w.setPhase c k (.draining (w.jobs.queuedFor k.machineId)))
  | .draining ids => some ((w.setPhase c k .gate).deliverTo k.machineId ids)
  | .gate => some (w.setPhase c k (w.gate k.machineId))
  | .unapproved => some (w.setPhase c k (.waitPairing w.pairingNotified))
  | .approved takesDefaultQueue =>
    some (w.setPhase c k (.polling takesDefaultQueue w.defaultNotified))
  | .waitPairing seen =>
    if seen < w.pairingNotified then some (w.setPhase c k .gate) else none
  | .polling takesDefaultQueue seen =>
    some ((w.takeRouted c k).getD (w.setPhase c k (.tryDefault takesDefaultQueue seen)))
  | .tryDefault takesDefaultQueue seen => some (w.takeDefault c k takesDefaultQueue seen)
  | .waiting _ _ => w.takeRouted c k
  | .holding id => some (w.setPhase c k (w.lookUp id))
  | .sending id _ => some (w.sendJob c k id)
  | .leaving => some ({ w with connectedClients := w.connectedClients - 1 }.setPhase c k .uncounted)
  | .uncounted => some ((w.forgetPeer k.machineId c).setPhase c k .peerForgotten)
  | .peerForgotten =>
    some (w.setPhase c k (if w.isActiveConnection k.machineId c then .active else .closed))
  | .active => some ((w.unregisterClient k.machineId c).setPhase c k .unregistered)
  | .unregistered => some ((w.setClientOnline k.machineId false).setPhase c k .closed)
  | .closed => none

/-- The storage call of the handler of a job stream fails, if it has one: nothing is drained, the
client is not let through, the job in hand is dropped, and the client keeps its online flag. -/
def failLoop (c : ConnId) (k : Connection) : Option ServerWorld :=
  match k.phase with
  | .peerRecorded => some (w.setPhase c k .setOnline)
  | .counted => some (w.setPhase c k .gate)
  | .gate => some (w.setPhase c k .unapproved)
  | .holding _ => some (w.setPhase c k .gate)
  | .unregistered => some (w.setPhase c k .closed)
  | _ => none

/-- A waiting loop hears of the default queue. -/
def wakeUp (c : ConnId) (k : Connection) : Option ServerWorld :=
  match k.phase with
  | .waiting _ seen => if seen < w.defaultNotified then some (w.setPhase c k .gate) else none
  | _ => none

/-! ### The whole server -/

/-- The process ends; the next one loads the queued jobs that are not paired. -/
def restarted : ServerWorld :=
  { w with
    clients := fun machineId => (w.clients machineId).map fun row => { row with isOnline := false }
    registry := fun _ => none
    conns := fun _ => none
    defaultPending := w.jobs.queuedUnpaired
    defaultNotified := 0
    pairingNotified := 0
    connectedClients := 0
    streamPeers := fun _ => none
    tasks := [] }

/-- One step; `none` when it cannot happen now. -/
def step : ServerStep → Option ServerWorld
  | .clock now => some { w with now := now }
  | .setPrinters printers => some { w with printers := printers }
  | .setPairing machineId state =>
    (w.clients machineId).map fun _ =>
      (w.updatePairingState machineId state).addTask .notifyPairing
  | .push job => some (w.push job)
  | .subscribe machineId driver =>
    some ((w.upsertClient machineId driver).addTask (.checkPairing machineId))
  | .ping machineId => some (w.touchClient machineId)
  | .task place =>
    w.tasks[place]?.map fun task => { w with tasks := w.tasks.eraseIdx place }.runTask cfg task
  | .loop c => (w.conns c).bind (w.runLoop c)
  | .notified c => (w.conns c).bind (w.wakeUp c)
  | .disconnect c => (w.conns c).map fun k => w.setConn c { k with connected := false }
  | .status update => some (w.applyStatusUpdate update)
  | .complete completion => some (w.completeJob completion)
  | .reap => some (w.goOn (w.jobs.stale (w.now - cfg.staleTimeout)))
  | .clearJobs => some (w.setJobs Table.empty)
  | .restart => some w.restarted
  | .pushUnresolved job => some (w.pushUnresolved job)
  | .subscribeUnwritten machineId => some (w.addTask (.checkPairing machineId))
  | .taskFails place =>
    w.tasks[place]?.bind fun task => { w with tasks := w.tasks.eraseIdx place }.failTask cfg task
  | .requeueUnread place =>
    w.tasks[place]?.bind fun task =>
      { w with tasks := w.tasks.eraseIdx place }.failReadBack cfg task
  | .loopFails c => (w.conns c).bind (w.failLoop c)

end ServerWorld

/-! ### Runs -/

/-- What a database holds when the server first starts. -/
structure StoredData where
  now : Time
  jobs : JobTable
  nextJob : JobId
  printers : PrinterTable
  clients : String → Option ClientRow
  /-- The ids of new jobs are not in use. -/
  fresh : ∀ id row, jobs.get? id = some row → id < nextJob

/-- The server before its first step. -/
def StoredData.start (d : StoredData) : ServerWorld :=
  ServerWorld.restarted
    { now := d.now
      jobs := d.jobs
      nextJob := d.nextJob
      printers := d.printers
      clients := d.clients
      registry := fun _ => none
      conns := fun _ => none
      nextConn := 0
      defaultPending := []
      defaultNotified := 0
      pairingNotified := 0
      connectedClients := 0
      streamPeers := fun _ => none
      tasks := []
      trace := [] }

/-- The database of a new installation. -/
def StoredData.empty : StoredData where
  now := 0
  jobs := Table.empty
  nextJob := 0
  printers := []
  clients := fun _ => none
  fresh id row h := by simp at h

/-- The print server over a database. -/
def printServer (cfg : JobsConfig) (d : StoredData) : Transition ServerWorld ServerStep where
  init := d.start
  step w e := w.step cfg e

end Server

end DevBridge

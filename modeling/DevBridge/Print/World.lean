import DevBridge.Print.Task

/-!
# Clients that print what the server sends

The receivers of the clients beside the server: each takes the jobs of its stream one after
another, downloads the document, runs a print task under the outer timeout, and reports how the
job ended.  A task that was given up runs on beside its receiver.  What the tasks send on the
status stream may be dropped or come late, so a status update is a step of the server at any
time and with any content; a completion reaches the server once, or is lost.
-/

namespace DevBridge

namespace Print

open Server

/-! ### Receivers -/

/-- Where the job loop of `run_inner` stands. -/
inductive ReceiverStage where
  /-- It waits for the next job of the stream. -/
  | listening
  | downloading (id : JobId)
  | downloaded (id : JobId)
  /-- `run_print_task_with_timeout` waits for the task. -/
  | printing (id : JobId) (task : ℕ)
  /-- The timeout fired, and the task is cancelled; its flag is read next. -/
  | timedOut (id : JobId) (task : ℕ)
  /-- `complete_job` is called next. -/
  | reporting (id : JobId) (report : PrintReport)
  | ended
deriving DecidableEq, Repr

/-- The client end of a job stream. -/
structure Receiver where
  machineId : String
  /-- The jobs of the stream that the loop has not taken. -/
  inbox : List JobId
  stage : ReceiverStage
deriving DecidableEq, Repr

/-- A job arrives on the stream. -/
def Receiver.hear (r : Receiver) (id : JobId) : Receiver :=
  if r.stage = .ended then r else { r with inbox := r.inbox ++ [id] }

/-- What is sent to `complete_job`. -/
def Receiver.completion (r : Receiver) (id : JobId) (report : PrintReport) : JobCompletion where
  jobId := id
  clientId := r.machineId
  success := report.success
  unconfirmed := report.unconfirmed
  errorDetail := report.errorDetail

/-- The error of `PrintDispatch::DuplicateSuppressed`. -/
def duplicateSuppressed : PrintResult :=
  .failed "duplicate print suppressed — prior task for this job_id still in flight"

/-! ### The world -/

/-- The server, the receivers of its streams and their print tasks. -/
structure PrintWorld where
  server : ServerWorld
  receivers : ConnId → Option Receiver
  /-- Tasks are numbered in the order of their start. -/
  tasks : List PrintTask
  /-- The latest event first. -/
  history : List PrintEvent

/-- The steps of a receiver. -/
inductive ReceiverStep where
  /-- It takes the next job. -/
  | receive
  /-- `download_payload` ends, with an error or with none. -/
  | download (error : Option String)
  | start
  /-- The task ended in time. -/
  | finish
  /-- The outer timeout fires. -/
  | timeout
  | decide
  /-- The completion reaches the server, or is lost. -/
  | report (arrives : Bool)
  /-- The stream ends, or fails. -/
  | hangUp
deriving DecidableEq, Repr

/-- One step of the server, of a receiver or of a print task. -/
inductive PrintStep where
  | server (e : ServerStep)
  | receiver (c : ConnId) (step : ReceiverStep)
  | task (n : ℕ) (outcome : TaskOutcome)

/-- The job that a step of the server put on a stream. -/
def newlySent (before after : List ServerEvent) : Option (ConnId × JobId) :=
  match after with
  | .sent c id _ :: rest => if rest.length = before.length then some (c, id) else none
  | _ => none

namespace PrintWorld

variable (cfg : JobsConfig) (timeoutSecs : ℕ) (w : PrintWorld)

def setReceiver (c : ConnId) (r : Receiver) : PrintWorld :=
  { w with receivers := Function.update w.receivers c (some r) }

def setStage (c : ConnId) (r : Receiver) (stage : ReceiverStage) : PrintWorld :=
  w.setReceiver c { r with stage := stage }

def setTask (n : ℕ) (t : PrintTask) : PrintWorld := { w with tasks := w.tasks.set n t }

def addTask (t : PrintTask) : PrintWorld := { w with tasks := w.tasks ++ [t] }

def remember (event : TaskEvent) (n : ℕ) (id : JobId) : PrintWorld :=
  { w with history := ⟨event, n, id⟩ :: w.history }

/-- The receivers after a step of the server: a new stream has one, and a job that was put on
a stream arrives. -/
def heard (s : ServerWorld) (c : ConnId) : Option Receiver :=
  if w.server.nextConn ≤ c ∧ c < s.nextConn then
    (s.conns c).map fun k => { machineId := k.machineId, inbox := [], stage := .listening }
  else match newlySent w.server.trace s.trace with
    | some (c', id) =>
      if c = c' then (w.receivers c).map (Receiver.hear · id) else w.receivers c
    | none => w.receivers c

def follow (s : ServerWorld) : PrintWorld := { w with server := s, receivers := w.heard s }

/-- `InFlightJobs::contains`: the client has a live print task of the job. -/
def inFlight (machineId : String) (id : JobId) : Bool :=
  w.tasks.any fun t => t.live && t.machineId == machineId && t.jobId == id

/-- `run_print_task_with_timeout` up to the spawned task. -/
def startTask (c : ConnId) (r : Receiver) (id : JobId) : PrintWorld :=
  if w.inFlight r.machineId id then
    w.setStage c r (.reporting id (PrintReport.of duplicateSuppressed))
  else
    ((w.setStage c r (.printing id w.tasks.length)).addTask
      { machineId := r.machineId, jobId := id, pages := 0, stage := .rendering,
        cancelled := false, accepted := false }).remember .started w.tasks.length id

/-- The task of the receiver ended. -/
def finish (c : ConnId) (r : Receiver) (id : JobId) (t : PrintTask) : Option PrintWorld :=
  match t.stage with
  | .ended result => some (w.setStage c r (.reporting id (PrintReport.of result)))
  | _ => none

/-- The timeout fires while the task is live, and cancels it. -/
def timeout (c : ConnId) (r : Receiver) (id : JobId) (n : ℕ) (t : PrintTask) :
    Option PrintWorld :=
  if t.live then some ((w.setStage c r (.timedOut id n)).setTask n { t with cancelled := true })
  else none

/-- The call of `complete_job`; whether it fails is only logged. -/
def reportTo (c : ConnId) (r : Receiver) (id : JobId) (report : PrintReport) (arrives : Bool) :
    PrintWorld :=
  let server := if arrives then w.server.completeJob (r.completion id report) else w.server
  ({ w with server := server } : PrintWorld).setStage c r .listening

/-- The next step of a receiver, unless it waits. -/
def runReceiver (c : ConnId) (r : Receiver) (step : ReceiverStep) : Option PrintWorld :=
  match r.stage, step with
  | .listening, .receive =>
    match r.inbox with
    | id :: rest => some (w.setReceiver c { r with inbox := rest, stage := .downloading id })
    | [] => none
  | .listening, .hangUp => some (w.setReceiver c { r with inbox := [], stage := .ended })
  | .downloading id, .download none => some (w.setStage c r (.downloaded id))
  | .downloading id, .download (some detail) =>
    some (w.setStage c r (.reporting id (PrintReport.of (.failed detail))))
  | .downloaded id, .start => some (w.startTask c r id)
  | .printing id n, .finish => (w.tasks[n]?).bind fun t => w.finish c r id t
  | .printing id n, .timeout => (w.tasks[n]?).bind fun t => w.timeout c r id n t
  | .timedOut id n, .decide => (w.tasks[n]?).map fun t =>
    w.setStage c r (.reporting id (PrintReport.of (printTimeoutError timeoutSecs t.accepted)))
  | .reporting id report, .report arrives => some (w.reportTo c r id report arrives)
  | _, _ => none

/-- A print task goes on. -/
def runTask (n : ℕ) (t : PrintTask) (outcome : TaskOutcome) : Option PrintWorld :=
  (t.step outcome).map fun t' =>
    match t.event outcome with
    | some event => (w.setTask n t').remember event n t.jobId
    | none => w.setTask n t'

/-- One step; `none` when it cannot happen now.  Completions come from the receivers alone. -/
def step : PrintStep → Option PrintWorld
  | .server (.complete _) => none
  | .server e => (w.server.step cfg e).map w.follow
  | .task n outcome => (w.tasks[n]?).bind fun t => w.runTask n t outcome
  | .receiver c step => (w.receivers c).bind fun r => w.runReceiver timeoutSecs c r step

end PrintWorld

/-- The server over a database, before any client has subscribed. -/
def StoredData.withoutClients (d : StoredData) : PrintWorld where
  server := d.start
  receivers := fun _ => none
  tasks := []
  history := []

/-- The server with the clients that print for it. -/
def printing (cfg : JobsConfig) (timeoutSecs : ℕ) (d : StoredData) :
    Transition PrintWorld PrintStep where
  init := StoredData.withoutClients d
  step w e := w.step cfg timeoutSecs e

end Print

end DevBridge

import DevBridge.Source.Executor

/-!
# The state of the device-job source

The bridge is a set of tasks that run beside each other: the control loop, the LAN calls,
one worker for each device queue, the executor calls that workers wait for, the reconciler,
the ack sender and the reporter.  They share the journal and some memory.  The state below
is that of all of them together with what they talk to: the devices and Odoo.

A step of a task is what it does between two points where another task can interfere: one
transaction of the journal, one message, one queue operation, with the local work around it.
A crash wipes out everything but the journal, the devices and Odoo.

The log is a ghost: it records what happened and no step reads it.
-/

namespace DevBridge

/-- An answer of Odoo as the transport hands it over. -/
abbrev Reply := Except RpcError Json

/-! ### Time limits -/

/-- The delays that decide something (seconds). -/
structure Timing where
  pendingRetry : ℕ
  executeGuard : ℕ
  maxQueueWait : ℕ
deriving DecidableEq, Repr

/-- The production set. -/
def Timing.default : Timing where
  pendingRetry := 15
  executeGuard := 240
  maxQueueWait := 120

/-- A job that waited longer than `max` is not run any more. -/
def queueWaitExceeded (queuedAt now max : ℕ) : Bool := decide (max < now - queuedAt)

/-- When the next `pending` round is due after a successful one. -/
def pendingDueAfter (retryLater : Bool) (now : ℕ) (timing : Timing) : Option ℕ :=
  if retryLater then some (now + timing.pendingRetry) else none

/-- Whether a `pending` round is due (due exactly at its instant). -/
def pendingRoundDue (pendingDue : Option ℕ) (now : ℕ) : Bool :=
  pendingDue.any fun due => decide (due ≤ now)

/-! ### The tasks -/

/-- Work for a device's serial queue. -/
inductive WorkItem where
  /-- Run a `received` job. -/
  | execute (jobId : ℤ) (queuedAt : ℕ)
  /-- Ask the device what happened to an `indeterminate` job. -/
  | reconcile (jobId : ℤ)
deriving DecidableEq, Repr

/-- The control loop: `pending` and `next`, never both at once.  While a call is under way
the state holds Odoo's answer once Odoo has computed it. -/
inductive ControlPc where
  /-- At the head of the loop, perhaps asleep. -/
  | ready
  /-- Waiting for the answer to `pending`. -/
  | pending (answer : Option Reply)
  /-- Going through the entries of `pending`. -/
  | entries (rest : List PendingJob) (retryLater : Bool)
  /-- The journal has no row of an entry: it is acked `not_received`. -/
  | missing (p : PendingJob) (rest : List PendingJob) (retryLater : Bool)
  /-- Waiting for the answer to a `not_received` ack. -/
  | notReceived (p : PendingJob) (rest : List PendingJob) (retryLater : Bool)
      (answer : Option Reply)
  /-- After a successful `pending` round: `next` is called. -/
  | callNext
  /-- Waiting for the answer to `next`. -/
  | next (answer : Option Reply)
  /-- A job was handed out again: its ack is reopened. -/
  | reopen (jobId : ℤ)
  /-- A job was journaled: it is queued on its device. -/
  | enqueue (job : OdooJob) (kind : DeviceKind)
deriving DecidableEq

/-- One job as the till sends it. -/
structure LanRequest where
  kasaId : ℤ
  clientUuid : String
  jobType : String
  payload : Json
  /-- The sale, when the till knows it. -/
  posOrderId : Option ℤ
deriving DecidableEq, Repr

/-- What the LAN API answers a submitted job. -/
inductive LanAnswer where
  /-- The job's row: new, or the stored one of a replay. -/
  | job (job : LanJob) (replay : Bool)
  /-- Refused before it was journaled: nothing ran. -/
  | refused (code text : String)
  /-- The `client_uuid` names another operation on this till. -/
  | conflict (job : LanJob)
  /-- The job could not be journaled: this call started nothing. -/
  | bridgeError
  /-- Journaled, but its state could not be read. -/
  | stateUnknown
deriving DecidableEq, Repr

/-- A call of the LAN API. -/
inductive LanPc where
  | idle
  /-- Checked: to be journaled. -/
  | insert (request : LanRequest)
  /-- Journaled: to be queued on its device. -/
  | enqueue (request : LanRequest) (job : DeviceJob)
  /-- Waiting until the job is settled. -/
  | wait (request : LanRequest) (jobId : ℤ) (replay : Bool)
deriving DecidableEq

/-- A device worker. -/
inductive WorkerPc where
  | idle
  /-- A job's row was read: the job is about to start. -/
  | starting (entry : JournalEntry) (queuedAt : ℕ)
  /-- Waiting for the executor's call; `guarded` once the guard has fired. -/
  | running (job : DeviceJob) (task : ℕ) (startedAt : ℕ) (guarded : Bool)
  /-- Waiting for the executor's reconcile call. -/
  | reconciling (entry : JournalEntry) (task : ℕ)
deriving DecidableEq

/-- The reconciler: the rows it read and has not scheduled yet. -/
inductive ReconcilerPc where
  | idle
  /-- The rows of Odoo's jobs are read, those of the LAN jobs are not. -/
  | lan (rows : List JournalEntry)
  | schedule (rows : List JournalEntry)
deriving DecidableEq

/-- The ack sender: the acks of the round that are not sent yet. -/
inductive AckerPc where
  | idle
  /-- The `authorized` acks are read, the others are not. -/
  | second (acks : List AckRequest)
  | flush (acks : List AckRequest)
  /-- Waiting for the answer to an ack. -/
  | waiting (ack : AckRequest) (rest : List AckRequest)
  /-- Odoo's acceptance or refusal is to be journaled. -/
  | mark (ack : AckRequest) (note : String) (rest : List AckRequest)
deriving DecidableEq

/-- The reporter of LAN jobs. -/
inductive ReporterPc where
  | idle
  | flush (jobs : List LanJob)
  | waiting (job : LanJob) (rest : List LanJob)
  | mark (job : LanJob) (odooJobId : Option ℤ) (note : String) (rest : List LanJob)
deriving DecidableEq

/-! ### The whole -/

/-- The memory of the process. -/
structure Proc (E : Executor) where
  control : ControlPc
  /-- When a `pending` round is due. -/
  pendingDue : Option ℕ
  /-- The LAN calls, by number. -/
  lan : ℕ → LanPc
  /-- The queues, oldest item first. -/
  queues : DeviceQueue → List WorkItem
  workers : DeviceQueue → WorkerPc
  /-- The running executor calls, by number. -/
  tasks : ℕ → Option E.Task
  /-- No call with this number or a larger one was started. -/
  nextTask : ℕ
  /-- Jobs with a reconcile queued or running. -/
  reconciling : List ℤ
  reconciler : ReconcilerPc
  acker : AckerPc
  reporter : ReporterPc
  vol : E.Vol

/-- The memory of a process that just started. -/
def Proc.init (E : Executor) : Proc E where
  control := .ready
  pendingDue := some 0
  lan _ := .idle
  queues _ := []
  workers _ := .idle
  tasks i := E.background[i]?
  nextTask := E.background.length
  reconciling := []
  reconciler := .idle
  acker := .idle
  reporter := .idle
  vol := E.vol₀

/-- The memory of no process: nothing runs. -/
def Proc.down (E : Executor) : Proc E :=
  { Proc.init E with tasks := fun _ => none }

/-- Odoo's side of the `not_received` acks. -/
structure Odoo where
  /-- The ids whose `not_received` Odoo accepted. -/
  accepted : List ℤ
  /-- Of these, the ones accepted while the bridge waited for the answer. -/
  acceptedInTime : List ℤ
  /-- The `not_received` acks that the bridge gave up on and Odoo may still receive. -/
  late : List ℤ
deriving DecidableEq

/-- What happened, newest first. -/
structure Log where
  /-- The jobs that got a row. -/
  journaled : List ℤ
  /-- The jobs whose `execute` was called. -/
  executed : List ℤ
  /-- The acks sent. -/
  acks : List AckRequest
  /-- The acks that were answered: accepted, or refused for good. -/
  answered : List AckRequest
  /-- The tills and `client_uuid`s of the LAN jobs that were queued. -/
  queued : List (ℤ × String)
  /-- The answers to LAN calls. -/
  answers : List (LanRequest × LanAnswer)
  /-- The LAN jobs whose report was answered: accepted, or refused for good. -/
  reported : List ℤ
deriving DecidableEq

/-- The bridge and what it talks to. -/
structure World (E : Executor) where
  journal : Journal
  /-- The UTC clock, which may be set. -/
  clock : Time
  /-- The monotone clock of the time limits. -/
  instant : ℕ
  dev : E.Dev
  odoo : Odoo
  log : Log
  /-- Whether the process runs. -/
  up : Bool
  proc : Proc E

/-- A new journal, no process yet. -/
def World.init (E : Executor) : World E where
  journal := Journal.empty E.readFloat
  clock := 0
  instant := 0
  dev := E.dev₀
  odoo := ⟨[], [], []⟩
  log := ⟨[], [], [], [], [], [], []⟩
  up := false
  proc := Proc.down E

namespace World

variable {E : Executor} (w : World E)

/-- Change the control loop. -/
def withControl (pc : ControlPc) : World E := { w with proc := { w.proc with control := pc } }

/-- Put an item at the end of a queue. -/
def push (q : DeviceQueue) (item : WorkItem) : World E :=
  { w with
    proc := { w.proc with
      queues := Function.update w.proc.queues q (w.proc.queues q ++ [item]) } }

def withWorker (q : DeviceQueue) (pc : WorkerPc) : World E :=
  { w with proc := { w.proc with workers := Function.update w.proc.workers q pc } }

/-- Start an executor call; its number is `nextTask`. -/
def spawn (t : E.Task) : World E :=
  { w with
    proc := { w.proc with
      tasks := Function.update w.proc.tasks w.proc.nextTask (some t)
      nextTask := w.proc.nextTask + 1 } }

/-- An executor call is over and was waited for. -/
def joined (i : ℕ) : World E :=
  { w with proc := { w.proc with tasks := Function.update w.proc.tasks i none } }

def withJournal (j : Journal) : World E := { w with journal := j }

/-- Note in the log that a job got a row. -/
def noteJournaled (id : ℤ) : World E :=
  { w with log := { w.log with journaled := id :: w.log.journaled } }

/-- The journal after a write that succeeded or failed. -/
def write (ok : Bool) (j : Journal) : World E :=
  { w with journal := if ok then j else w.journal }

end World

end DevBridge

import DevBridge.Source.World

/-!
# The background tasks

One serial worker for each device queue, the reconciler, the ack sender and the reporter of
LAN jobs.
-/

namespace DevBridge

variable {E : Executor}

/-! ### The device workers -/

/-- A step of a device worker. -/
inductive WorkerEvent where
  /-- The next item is taken from the queue and its row is read; `ok`: the journal works. -/
  | take (ok : Bool)
  /-- The job is started, unless it waited too long or is not `received`. -/
  | start (ok : Bool)
  /-- The executor's call runs longer than the guard. -/
  | guardFires (ok : Bool)
  /-- The executor's call returned: its answer is journaled. -/
  | join (ok : Bool)
deriving DecidableEq

namespace World

variable (w : World E)

/-- The queue without its first item. -/
def pop (q : DeviceQueue) : World E :=
  { w with
    proc := { w.proc with
      queues := Function.update w.proc.queues q (w.proc.queues q).tail } }

/-- `start_reconcile` and `reconcile_done`: the set of jobs with a reconcile queued. -/
def startReconcile (jobId : ℤ) : World E :=
  { w with proc := { w.proc with reconciling := jobId :: w.proc.reconciling } }

def reconcileDone (jobId : ℤ) : World E :=
  { w with
    proc := { w.proc with
      reconciling := w.proc.reconciling.filter fun id => id != jobId } }

/-- The row that a reconcile is about: only while its outcome is unknown. -/
def toReconcile (jobId : ℤ) : Option JournalEntry :=
  (w.journal.get jobId).filter fun e => e.state == .indeterminate

def expiredText (q : DeviceQueue) (waited max : ℕ) : String :=
  s!"the job waited {waited * 1000} ms in the devbridge queue of {q.toText} (max {max * 1000} ms) - the device was not contacted, nothing ran"

def guardText (q : DeviceQueue) (guard : ℕ) : String :=
  s!"no answer from the {q.kind.asStr} device within {guard} s - outcome unknown, reconciled with the device"

/-- Journal what a reconcile call answered. -/
def recordAnswer (jobId : ℤ) (answer : Reconciliation) : Journal :=
  match answer with
  | .done result => (w.journal.recordOutcome w.clock jobId (.done result)).2
  | .failed code text => (w.journal.recordOutcome w.clock jobId (.failed code text)).2
  | .stillUnknown reason => (w.journal.recordStillUnknown w.clock jobId reason).2

/-- Call the executor with a job that is `executing` now. -/
def callExecute (q : DeviceQueue) (job : DeviceJob) : World E :=
  { (w.spawn (E.execute job)).withWorker q
      (.running job w.proc.nextTask w.instant false) with
    log := { w.log with executed := job.id :: w.log.executed } }

/-- One step of the worker of a queue. -/
def workerStep (timing : Timing) (q : DeviceQueue) (e : WorkerEvent) : Option (World E) :=
  match w.proc.workers q, e with
  | .idle, .take ok =>
    match w.proc.queues q with
    | [] => none
    | .execute jobId queuedAt :: _ =>
      match w.journal.get jobId with
      | some entry =>
        if ok then some ((w.pop q).withWorker q (.starting entry queuedAt)) else some (w.pop q)
      | none => some (w.pop q)
    | .reconcile jobId :: _ =>
      match w.toReconcile jobId with
      | some entry =>
        if ok then
          some (((w.pop q).spawn (E.reconcile entry)).withWorker q
            (.reconciling entry w.proc.nextTask))
        else some ((w.pop q).reconcileDone jobId)
      | none => some ((w.pop q).reconcileDone jobId)
  | .starting entry queuedAt, .start ok =>
    let idle := w.withWorker q .idle
    if !ok then some idle
    else if queueWaitExceeded queuedAt w.instant timing.maxQueueWait then
      some (idle.withJournal (w.journal.failUnstarted w.clock entry.job.id CODE_EXPIRED_LOCAL
        (expiredText q (w.instant - queuedAt) timing.maxQueueWait)).2)
    else
      match w.journal.startExecution w.clock entry.job.id with
      | (false, _) => some idle
      | (true, j) => some ((w.withJournal j).callExecute q entry.job)
  | .running job task startedAt false, .guardFires ok =>
    if E.mayOutlastGuard job ∧ startedAt + timing.executeGuard ≤ w.instant then
      if ok then
        some ((w.withJournal (w.journal.recordOutcome w.clock job.id
          (.indeterminate (guardText q timing.executeGuard))).2).withWorker q
            (.running job task startedAt true))
      -- the journal error ends the worker's wait; the call goes on by itself
      else some (w.withWorker q .idle)
    else none
  | .running job task _ _, .join ok =>
    match (w.proc.tasks task).bind E.outcome with
    | some outcome =>
      some (((w.joined task).write ok
        (w.journal.recordOutcome w.clock job.id outcome).2).withWorker q .idle)
    | none => none
  | .reconciling entry task, .join ok =>
    match (w.proc.tasks task).bind E.answer with
    | some answer =>
      some ((((w.joined task).write ok (w.recordAnswer entry.job.id answer)).withWorker q
        .idle).reconcileDone entry.job.id)
    | none => none
  | _, _ => none

end World

/-! ### The reconciler -/

/-- A step of the reconciler. -/
inductive ReconcilerEvent where
  | begin
  | readLan
  /-- The next row is scheduled; `sent`: its worker is there, `ok`: the journal works. -/
  | schedule (sent ok : Bool)
  /-- The journal failed: the round is over. -/
  | abort
deriving DecidableEq

/-- Whether a job that no executor can reconcile still needs its one note. -/
def unreconcilableNoticeDue (e : JournalEntry) : Bool :=
  if isLanJob e.job.id then e.reconcileAttempts == 0 else e.report == .none

def NO_EXECUTOR_TEXT : String :=
  "no executor for this device is configured - reconcile it on the device by hand"

namespace World

variable (w : World E)

def withReconciler (pc : ReconcilerPc) : World E :=
  { w with proc := { w.proc with reconciler := pc } }

/-- One step of the reconciler. -/
def reconcilerStep (e : ReconcilerEvent) : Option (World E) :=
  match w.proc.reconciler, e with
  | .idle, .begin => some (w.withReconciler (.lan w.journal.odooIndeterminate))
  | .lan rows, .readLan =>
    some (w.withReconciler (.schedule (rows ++ w.journal.lanIndeterminate)))
  | .schedule [], .schedule _ _ => some (w.withReconciler .idle)
  | .schedule (entry :: rest), .schedule sent ok =>
    let w' := w.withReconciler (.schedule rest)
    match E.queueOf entry.job with
    | some q =>
      if entry.job.id ∈ w.proc.reconciling then some w'
      else if sent then some ((w'.startReconcile entry.job.id).push q (.reconcile entry.job.id))
      else some (w'.startReconcile entry.job.id)
    | none =>
      if unreconcilableNoticeDue entry then
        if ok then
          some (w'.withJournal
            (w.journal.recordStillUnknown w.clock entry.job.id NO_EXECUTOR_TEXT).2)
        else some (w.withReconciler .idle)
      else some w'
  | _, .abort => some (w.withReconciler .idle)
  | _, _ => none

end World

/-! ### The ack sender -/

/-- A step of the ack sender. -/
inductive AckerEvent where
  /-- The `authorized` acks owed are read. -/
  | begin
  /-- The other acks owed are read. -/
  | readJobs
  | send
  /-- Odoo's answer arrives, or the call fails. -/
  | reply (answer : Reply)
  /-- The answer is journaled; `ok`: the journal works. -/
  | mark (ok : Bool)
  /-- The journal failed: the round is over. -/
  | abort
deriving DecidableEq

/-- The note of an accepted ack. -/
def acceptedNote (reply : AckReply) : String := if reply.duplicate then "duplicate" else "ok"

namespace World

variable (w : World E)

def withAcker (pc : AckerPc) : World E := { w with proc := { w.proc with acker := pc } }

/-- Journal Odoo's answer to an ack. -/
def markAccepted (ack : AckRequest) (note : String) : Journal :=
  match ack with
  | .indeterminate jobId _ => (w.journal.markReported w.clock jobId).2
  | .authorized jobId _ => (w.journal.markCardAuthAcked jobId note).2
  | .done jobId _ | .failed jobId _ _ | .notReceived jobId =>
    (w.journal.markAcked w.clock jobId note).2

/-- One step of the ack sender. -/
def ackerStep (e : AckerEvent) : Option (World E) :=
  match w.proc.acker, e with
  | .idle, .begin => some (w.withAcker (.second w.journal.owedCardAuthAcks))
  | .second acks, .readJobs => some (w.withAcker (.flush (acks ++ w.journal.owedJobAcks)))
  | .flush [], .send => some (w.withAcker .idle)
  | .flush (ack :: rest), .send =>
    some { w.withAcker (.waiting ack rest) with
      log := { w.log with acks := ack :: w.log.acks } }
  | .waiting ack rest, .reply answer =>
    let answered (note : String) : World E :=
      { w.withAcker (.mark ack note rest) with
        log := { w.log with answered := ack :: w.log.answered } }
    match answer.bind parseAckReply with
    | .ok reply => some (answered (acceptedNote reply))
    | .error e =>
      if !e.isRetryable then some (answered ("refused: " ++ e.toText))
      -- Odoo is unreachable: the round stops
      else if e.isTransport then some (w.withAcker .idle)
      else some (w.withAcker (.flush rest))
  | .mark ack note rest, .mark ok =>
    if ok then some ((w.withJournal (w.markAccepted ack note)).withAcker (.flush rest))
    else some (w.withAcker .idle)
  | .second _, .abort | .idle, .abort => some (w.withAcker .idle)
  | _, _ => none

end World

/-! ### The reporter of LAN jobs -/

/-- A step of the reporter. -/
inductive ReporterEvent where
  | begin
  | send
  /-- Odoo accepted the report, and perhaps named its own id of the job. -/
  | accepted (odooJobId : Option ℤ) (created : Bool)
  | failed (error : RpcError)
  | mark (ok : Bool)
deriving DecidableEq

/-- The note of an accepted report. -/
def reportNote (created : Bool) : String := if created then "created" else "existing"

namespace World

variable (w : World E)

def withReporter (pc : ReporterPc) : World E := { w with proc := { w.proc with reporter := pc } }

/-- Note in the log that Odoo answered the report of a LAN job. -/
def noteReported (jobId : ℤ) : World E :=
  { w with log := { w.log with reported := jobId :: w.log.reported } }

/-- One step of the reporter. -/
def reporterStep (e : ReporterEvent) : Option (World E) :=
  match w.proc.reporter, e with
  | .idle, .begin => some (w.withReporter (.flush w.journal.owedLanReports))
  | .flush [], .send => some (w.withReporter .idle)
  | .flush (job :: rest), .send =>
    -- only a final job has something to report
    if job.state.isFinal then some (w.withReporter (.waiting job rest))
    else some (w.withReporter (.flush rest))
  | .waiting job rest, .accepted odooJobId created =>
    some ((w.noteReported job.jobId).withReporter (.mark job odooJobId (reportNote created) rest))
  | .waiting job rest, .failed e =>
    if !e.isRetryable then
      some ((w.noteReported job.jobId).withReporter (.mark job none ("refused: " ++ e.toText) rest))
    else if e.isTransport then some (w.withReporter .idle)
    else some (w.withReporter (.flush rest))
  | .mark job odooJobId note rest, .mark ok =>
    if ok then
      some ((w.withJournal (w.journal.markLanReported w.clock job.jobId odooJobId note).2
        ).withReporter (.flush rest))
    else some (w.withReporter .idle)
  | _, _ => none

end World

end DevBridge

import DevBridge.Source.World

/-!
# The control loop

The one loop that talks `pending` and `next`, and Odoo's side of these calls.  Odoo computes
an answer at some moment, and it reaches the bridge later or not at all; a call that fails
leaves the bridge without the answer, whether or not Odoo computed one.
-/

namespace DevBridge

variable {E : Executor}

/-- A step of the control loop. -/
inductive ControlEvent where
  /-- The loop goes on: the next call is made. -/
  | poll
  /-- Odoo's answer arrives; `ok`: the journal write it leads to succeeds. -/
  | arrive (ok : Bool)
  /-- The call fails without an answer. -/
  | fail (error : RpcError)
  /-- The next entry of `pending` is looked up; `ok`: the journal works. -/
  | entry (ok : Bool)
  /-- The `not_received` ack of a missing entry is sent. -/
  | sendNotReceived
  /-- The ack of a job that was handed out again is reopened. -/
  | reopen (ok : Bool)
  /-- A journaled job is queued; `sent`: its worker is there. -/
  | enqueue (sent ok : Bool)
deriving DecidableEq

namespace World

variable (w : World E)

/-- A failed step of the loop: `pending` runs before the next `next`. -/
def controlFailed : World E :=
  { w with proc := { w.proc with control := .ready, pendingDue := some w.instant } }

/-- A round of `pending` ended. -/
def pendingDone (timing : Timing) (retryLater : Bool) : World E :=
  { w with
    proc := { w.proc with
      control := .callNext
      pendingDue := pendingDueAfter retryLater w.instant timing } }

/-- `accept_job`, up to the insert: a job `next` handed out is journaled before any device
contact, and refused without device contact when invalid. -/
def acceptJob (job : OdooJob) (ok : Bool) : World E :=
  if !ok then w.controlFailed
  else
    match validate E job.job with
    | .ok kind =>
      match w.journal.insertReceived w.clock job with
      | (.known _, _) => w.withControl (.reopen job.job.id)
      | (.new, j) =>
        ((w.noteJournaled job.job.id).withJournal j).withControl (.enqueue job kind)
    | .error rejection =>
      match w.journal.insertRefused w.clock job rejection.code rejection.text with
      | (.known _, _) => w.withControl (.reopen job.job.id)
      | (.new, j) => ((w.noteJournaled job.job.id).withJournal j).withControl .ready

/-- The answer to `next`. -/
def nextArrived (reply : Reply) (ok : Bool) : World E :=
  match reply.bind parseNext with
  | .error _ => w.controlFailed
  | .ok ⟨none, _⟩ => w.withControl .ready
  | .ok ⟨some job, _⟩ => w.acceptJob job ok

/-- The answer to `pending`; a failed round is repeated. -/
def pendingArrived (reply : Reply) : World E :=
  match reply.bind parsePending with
  | .error _ => w.withControl .ready
  | .ok jobs => w.withControl (.entries jobs false)

/-- The result of a `not_received` ack: go on, ask again later, or give the round up. -/
def notReceivedArrived (rest : List PendingJob) (retryLater : Bool)
    (result : Except RpcError AckReply) : World E :=
  match result with
  | .ok _ => w.withControl (.entries rest retryLater)
  | .error e =>
    if e.refusalCode = some REFUSED_TOO_EARLY then w.withControl (.entries rest true)
    else if !e.isRetryable then w.withControl (.entries rest retryLater)
    else if e.isTransport then w.withControl .ready
    else w.withControl (.entries rest true)

/-- The result of an ack changes only where the loop stands. -/
lemma notReceivedArrived_eq (rest : List PendingJob) (retryLater : Bool)
    (result : Except RpcError AckReply) :
    w.notReceivedArrived rest retryLater result = w.withControl .ready ∨
      ∃ r, w.notReceivedArrived rest retryLater result = w.withControl (.entries rest r) := by
  unfold notReceivedArrived
  split
  · exact Or.inr ⟨_, rfl⟩
  · split
    · exact Or.inr ⟨_, rfl⟩
    · split
      · exact Or.inr ⟨_, rfl⟩
      · split
        · exact Or.inl rfl
        · exact Or.inr ⟨_, rfl⟩

/-- One step of the control loop. -/
def controlStep (timing : Timing) (e : ControlEvent) : Option (World E) :=
  match w.proc.control, e with
  | .ready, .poll =>
    if pendingRoundDue w.proc.pendingDue w.instant then
      some (w.withControl (.pending none))
    else some (w.withControl (.next none))
  | .callNext, .poll => some (w.withControl (.next none))
  | .pending (some reply), .arrive _ => some (w.pendingArrived reply)
  | .pending _, .fail _ => some (w.withControl .ready)
  | .entries [] retryLater, .entry _ => some (w.pendingDone timing retryLater)
  | .entries (p :: rest) retryLater, .entry ok =>
    if !ok then some (w.withControl .ready)
    else
      match w.journal.get p.id with
      -- Odoo has no final ack of it: the stored outcome is owed again
      | some _ =>
        some ((w.withJournal (w.journal.reopenAck w.clock p.id).2).withControl
          (.entries rest retryLater))
      | none => some (w.withControl (.missing p rest retryLater))
  | .missing p rest retryLater, .sendNotReceived =>
    some { w.withControl (.notReceived p rest retryLater none) with
      log := { w.log with acks := .notReceived p.id :: w.log.acks } }
  | .notReceived _ rest retryLater (some reply), .arrive _ =>
    some (w.notReceivedArrived rest retryLater (reply.bind parseAckReply))
  | .notReceived p rest retryLater answer, .fail e =>
    -- the request itself may still reach Odoo
    let late := if answer.isNone then p.id :: w.odoo.late else w.odoo.late
    some ({ w with odoo := { w.odoo with late } }.notReceivedArrived rest retryLater (.error e))
  | .next (some reply), .arrive ok => some (w.nextArrived reply ok)
  | .next _, .fail _ => some w.controlFailed
  | .reopen jobId, .reopen ok =>
    if ok then some ((w.withJournal (w.journal.reopenAck w.clock jobId).2).withControl .ready)
    else some w.controlFailed
  | .enqueue job kind, .enqueue sent ok =>
    match E.queueOf job.job, sent with
    | some q, true =>
      some ((w.push q (.execute job.job.id w.instant)).withControl .ready)
    | _, _ =>
      -- its worker is gone; it never reached the device
      if ok then
        some ((w.withJournal (w.journal.recordOutcome w.clock job.job.id
          (.failed "bridge_error"
            s!"the devbridge {kind.asStr} worker is not running - nothing ran")).2).withControl
          .ready)
      else some w.controlFailed
  | _, _ => none

end World

/-- A step of Odoo. -/
inductive OdooEvent where
  /-- The answer to the waiting `pending` is computed. -/
  | answerPending (reply : Reply)
  /-- The answer to the waiting `next` is computed: here a job is handed out. -/
  | answerNext (reply : Reply)
  /-- The waiting `not_received` ack is answered: accepted, or not. -/
  | answerNotReceived (reply : Reply)
  /-- A `not_received` ack that the bridge gave up on is accepted after all. -/
  | acceptLate (jobId : ℤ)
deriving DecidableEq

/-- Whether an answer accepts an ack. -/
def acceptsAck (reply : Reply) : Bool :=
  match reply.bind parseAckReply with
  | .ok _ => true
  | .error _ => false

namespace World

variable (w : World E)

/-- One step of Odoo. -/
def odooStep (e : OdooEvent) : Option (World E) :=
  match w.proc.control, e with
  | .pending none, .answerPending reply => some (w.withControl (.pending (some reply)))
  | .next none, .answerNext reply => some (w.withControl (.next (some reply)))
  | .notReceived p rest retryLater none, .answerNotReceived reply =>
    let w' := w.withControl (.notReceived p rest retryLater (some reply))
    if acceptsAck reply then
      some { w' with
        odoo := { w.odoo with
          accepted := p.id :: w.odoo.accepted
          acceptedInTime := p.id :: w.odoo.acceptedInTime } }
    else some w'
  | _, .acceptLate jobId =>
    if jobId ∈ w.odoo.late then
      some { w with
        odoo := { w.odoo with
          accepted := jobId :: w.odoo.accepted
          late := w.odoo.late.erase jobId } }
    else none
  | _, _ => none

/-- The job Odoo hands out in a step, if it does. -/
def handedOut (reply : Reply) : Option ℤ :=
  match reply.bind parseNext with
  | .ok ⟨some job, _⟩ => some job.job.id
  | _ => none

end World

end DevBridge

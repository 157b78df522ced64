import DevBridge.Journal.Row
import DevBridge.Lib.Table
import DevBridge.Text

/-!
# The storage of the print server

The tables `jobs`, `virtual_printers` and `clients`.  A job waits (`queued`), is with a client
(`downloading`, `printing`), waits for a retry (`failed`), or is finished.  A finished job must
stay finished, and several writers race on its state, so the conditions of the transitions are
in the `UPDATE` statements themselves.  Each definition below is one statement.
-/

namespace DevBridge

namespace Server

/-! ### Jobs -/

inductive JobState where
  | queued
  | downloading
  | printing
  | completed
  | failed
  | cancelled
  /-- The printer accepted the job, but its end was never confirmed. -/
  | unconfirmed
deriving DecidableEq, Repr

/-- The text of the column `state`. -/
inductive StateText where
  | known (state : JobState)
  /-- A text that this version cannot read. -/
  | unknown
deriving DecidableEq, Repr

/-- `str_to_state`: what cannot be read counts as unconfirmed. -/
def StateText.read : StateText → JobState
  | known state => state
  | unknown => .unconfirmed

/-- What a document is, as far as the server passes it on. -/
structure JobDocument where
  documentName : String
  copies : ℕ
  paperSize : String
  duplex : Bool
  color : Bool
  payloadSize : ℕ
  payloadSha256 : String
deriving DecidableEq, Repr

/-- A row of `jobs`, without its key. -/
structure JobRow where
  document : JobDocument
  targetPrinter : String
  targetClientId : Option String
  state : StateText
  retryCount : ℕ
  errorDetail : String
  createdAt : Time
  updatedAt : Time
deriving DecidableEq, Repr

/-- Jobs have random ids that never repeat; here they are numbered. -/
abbrev JobId := ℕ

abbrev JobTable := Table JobId JobRow

namespace JobRow

/-- Whether the state is one of some texts. -/
def isIn (r : JobRow) (states : List JobState) : Bool :=
  states.any fun s => r.state == .known s

def isQueued (r : JobRow) : Bool := r.isIn [.queued]

/-- The states that a late update or failure may change. -/
def inProgress (r : JobRow) : Bool := r.isIn [.queued, .downloading, .printing, .failed]

/-- Completed, cancelled, unconfirmed, or in a state that this version cannot read. -/
def finished (r : JobRow) : Bool := !r.inProgress

/-- The printer may have printed the job. -/
def maybePrinted (r : JobRow) : Bool := r.isIn [.completed, .unconfirmed]

/-- The states that may be requeued. -/
def requeueable (r : JobRow) : Bool := r.isIn [.failed, .downloading, .printing]

def withState (now : Time) (state : JobState) (r : JobRow) : JobRow :=
  { r with state := .known state, updatedAt := now }

def requeued (now : Time) (errorDetail : String) (r : JobRow) : JobRow :=
  { r with
    state := .known .queued
    retryCount := r.retryCount + 1
    errorDetail := errorDetail
    updatedAt := now }

end JobRow

namespace JobTable

/-- `insert_job` of a new job. -/
def insertJob (jobs : JobTable) (id : JobId) (row : JobRow) : JobTable := jobs.insert id row

/-- `update_job_state`; an unknown job is an error. -/
def updateJobState (jobs : JobTable) (now : Time) (id : JobId) (state : JobState) :
    Option JobTable :=
  if jobs.updates id fun _ => true then
    some (jobs.update id (fun _ => true) (JobRow.withState now state))
  else none

/-- `update_job_state_unless_terminal`: whether it changed; an unknown job is an error. -/
def updateUnlessTerminal (jobs : JobTable) (now : Time) (id : JobId) (state : JobState) :
    Option (Bool × JobTable) :=
  match jobs.get? id with
  | none => none
  | some row =>
    if row.inProgress then some (true, jobs.update id (fun _ => true) (JobRow.withState now state))
    else some (false, jobs)

/-- `unconfirm_completed_job`. -/
def unconfirmCompleted (jobs : JobTable) (now : Time) (id : JobId) : Bool × JobTable :=
  (jobs.updates id (JobRow.isIn · [.completed]),
    jobs.update id (JobRow.isIn · [.completed]) (JobRow.withState now .unconfirmed))

/-- `requeue_job`: whether it requeued; an unknown job is an error. -/
def requeueJob (jobs : JobTable) (now : Time) (id : JobId) (errorDetail : String) :
    Option (Bool × JobTable) :=
  match jobs.get? id with
  | none => none
  | some row =>
    if row.requeueable then
      some (true, jobs.update id (fun _ => true) (JobRow.requeued now errorDetail))
    else some (false, jobs)

/-- `ORDER BY created_at`, as ids. -/
def idsByAge (rows : List (JobId × JobRow)) : List JobId :=
  (rows.insertionSort fun a b => a.2.createdAt ≤ b.2.createdAt).map Prod.fst

/-- `get_queued_jobs_for_client`. -/
def queuedFor (jobs : JobTable) (client : String) : List JobId :=
  idsByAge (jobs.select fun _ r => r.isQueued && r.targetClientId == some client)

/-- The unpaired ones of `get_pending_jobs`. -/
def queuedUnpaired (jobs : JobTable) : List JobId :=
  idsByAge (jobs.select fun _ r => r.isQueued && r.targetClientId == none)

/-- `get_stale_jobs`, with the retry counts. -/
def stale (jobs : JobTable) (olderThan : Time) : List (JobId × ℕ) :=
  ((jobs.select fun _ r => r.isIn [.downloading, .printing] &&
      decide (r.updatedAt < olderThan)).insertionSort
    fun a b => a.2.updatedAt ≤ b.2.updatedAt).map fun x => (x.1, x.2.retryCount)

end JobTable

/-! ### Virtual printers and clients -/

/-- A row of `virtual_printers`; its names are unique. -/
structure VirtualPrinter where
  id : ℕ
  displayName : String
  ippName : String
  pairedClientId : Option String
deriving DecidableEq, Repr

abbrev PrinterTable := List VirtualPrinter

/-- `get_virtual_printer_by_ipp_name`. -/
def PrinterTable.byIppName (printers : PrinterTable) (ippName : String) :
    Option VirtualPrinter :=
  printers.find? fun vp => vp.ippName == ippName

inductive PairingState where
  | pending
  | approved
  | rejected
deriving DecidableEq, Repr

/-- A row of `clients`, as far as the dispatch looks at it. -/
structure ClientRow where
  pairingState : PairingState
  isOnline : Bool
  virtualPrinterDriver : Option String
deriving DecidableEq, Repr

/-- Whether the client may be handed jobs of the default queue. -/
def ClientRow.takesDefaultQueue (c : ClientRow) : Bool :=
  c.virtualPrinterDriver.all isBlank

end Server

end DevBridge

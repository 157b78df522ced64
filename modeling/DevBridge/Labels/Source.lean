import DevBridge.Api
import DevBridge.Labels.Ledger
import DevBridge.Lib.Scripted
import DevBridge.Lib.Transition

/-!
# The label source

The client polls Odoo for label lines.  A poll sends the owed acks, fetches a batch, decides
every line of it (known, rejected, printable), prints the printable lines as one document,
and sends the owed acks again.  One task does all of this, so it is a single program; what
interleaves with it is the end of the process, which may come between any two operations, and
a print task that goes on after its time-out.

An operation takes its answer from a script: a statement of the ledger may fail, Odoo may
answer anything, a print may end in every way.  A step of the whole system is a start or a
poll under a script, and a script that is too short is a crash.
-/

namespace DevBridge

namespace Labels

/-! ### What Odoo sends -/

/-- Longest error text that Odoo stores on a line. -/
def maxAckErrorChars : ℕ := 200

/-- `truncate_ack_error`. -/
def truncateAckError (text : String) : String :=
  String.ofList (text.toList.take maxAckErrorChars)

/-- What the encoding of labels consists of: the roll of a batch, and a label on it.  The
errors are the texts of the acks. -/
structure Encoder where
  /-- The size of a label as Odoo names it. -/
  Size : Type
  Geometry : Type
  Label : Type
  geometryFor : Size → Except String Geometry
  decodeLabel : String → Geometry → Except String Label

variable (enc : Encoder)

/-- A line of `/food/print/next`; the fields that are only logged are left out. -/
structure NextLine where
  lineId : ℤ
  sequence : ℤ
  printQty : ℤ
  labelPngBase64 : String
deriving DecidableEq, Repr

/-- A line that does not match the contract. -/
structure InvalidLine where
  lineId : Option ℤ
  reason : String
deriving DecidableEq, Repr

structure NextBatch where
  batchId : Option ℤ
  lines : List NextLine
  invalid : List InvalidLine
  labelSize : enc.Size

/-- In print order; equal sequences keep Odoo's order. -/
def NextBatch.linesInOrder {enc : Encoder} (batch : NextBatch enc) : List NextLine :=
  batch.lines.insertionSort fun a b => a.sequence ≤ b.sequence

/-- An accepted ack. -/
structure AckAccepted where
  /-- Odoo already had this state. -/
  duplicate : Bool
deriving DecidableEq, Repr

abbrev AckAnswer := Except RpcError AckAccepted

/-! ### What is printed -/

structure PrintableLine where
  lineId : ℤ
  qty : ℤ
  label : enc.Label

/-- The labels of one batch, from which the bytes of its document are built. -/
structure Document where
  batchId : ℤ
  lines : List (PrintableLine enc)
  geometry : enc.Geometry

def Document.ids {enc : Encoder} (doc : Document enc) : List ℤ :=
  doc.lines.map PrintableLine.lineId

/-- How a print was dispatched. -/
inductive PrintDispatch where
  /-- The task ended, with the error text of the backend if there is one. -/
  | completed (failure : Option String)
  /-- The task was abandoned; it may still hand its document to the backend. -/
  | timedOut
  /-- No task was started. -/
  | duplicateSuppressed
deriving DecidableEq, Repr

def timedOutAckText (secs : ℕ) : String :=
  s!"outcome unknown: print not confirmed within {secs}s - check the printer before reprinting"

def duplicateText : String :=
  "duplicate print suppressed — batch document still in flight"

/-! ### The state and the operations -/

/-- What is remembered of a run, for statements about it. -/
inductive LabelEvent where
  /-- `spool_document` was called. -/
  | spool (doc : Document enc)
  /-- A print task was started with the document: it hands it to the backend once, at the
  latest after its time-out. -/
  | print (doc : Document enc)
  /-- The print task ended in time, with the error text of the backend if there is one. -/
  | answered (doc : Document enc) (failure : Option String)
  /-- `spool_document` returned. -/
  | spooled
  | ack (lineId printedQty : ℤ) (error : Option String) (answer : AckAnswer)
  | forget (lineId : ℤ)
  | prune (lineId : ℤ)
  /-- The process ended. -/
  | ended

structure LabelWorld where
  ledger : Ledger
  /-- The latest event first. -/
  trace : List (LabelEvent enc)
  /-- The process runs. -/
  alive : Bool

/-- An event is remembered. -/
def LabelWorld.remember {enc : Encoder} (w : LabelWorld enc) (event : LabelEvent enc) :
    LabelWorld enc :=
  { w with trace := event :: w.trace }

/-- The process ends. -/
def LabelWorld.ended {enc : Encoder} (w : LabelWorld enc) : LabelWorld enc :=
  { w.remember .ended with alive := false }

/-- What the surroundings choose for one operation. -/
structure Turn where
  /-- The statement of the ledger fails. -/
  fails : Bool := false
  now : Time := 0
  next : Except RpcError (NextBatch enc) := .error (.transport "")
  ack : AckAnswer := .error (.transport "")
  /-- The spool file cannot be written. -/
  spoolError : Option String := none
  /-- The job id is still in flight. -/
  inFlight : Bool := false
  /-- The print task ends in time, with the error text of the backend if there is one. -/
  printed : Option (Option String) := none

/-- What ends a poll. -/
inductive PollError where
  | ledger
  | rpc (e : RpcError)
deriving DecidableEq, Repr

/-- A part of the poll task. -/
abbrev LabelIo (α : Type) := Scripted (Turn enc) (LabelWorld enc) PollError α

namespace LabelIo

variable {enc}

/-- A statement of the ledger: it fails and changes nothing, or it has an answer and says what
is remembered of it. -/
def statement {α : Type} (f : Time → Ledger → Option (α × Ledger))
    (events : Time → Ledger → List (LabelEvent enc)) : LabelIo enc α :=
  Scripted.ask fun turn w =>
    if turn.fails then (.error .ledger, w)
    else
      match f turn.now w.ledger with
      | none => (.error .ledger, w)
      | some (a, ledger) =>
        (.ok a, { w with ledger := ledger, trace := events turn.now w.ledger ++ w.trace })

def get (lineId : ℤ) : LabelIo enc (Option LedgerEntry) :=
  statement (fun _ l => some (l.get lineId, l)) fun _ _ => []

def markSending (batchId : ℤ) (ids : List ℤ) : LabelIo enc Unit :=
  statement (fun now l => (l.markSending now batchId ids).map ((), ·)) fun _ _ => []

def recordResult (batchId lineId printedQty : ℤ) (error : Option String) : LabelIo enc Unit :=
  statement (fun now l => some ((), l.recordResult now batchId lineId printedQty error))
    fun _ _ => []

def markAcked (lineId : ℤ) (note : String) : LabelIo enc Unit :=
  statement (fun now l => some ((), l.markAcked now lineId note)) fun _ _ => []

def reopenAck (lineId : ℤ) : LabelIo enc Unit :=
  statement (fun _ l => some ((), l.reopenAck lineId)) fun _ _ => []

def forget (lineId : ℤ) : LabelIo enc Unit :=
  statement (fun _ l => some ((), l.forget lineId)) fun _ _ => [.forget lineId]

def pendingAcks : LabelIo enc (List LedgerEntry) :=
  statement (fun _ l => some (l.pendingAcks, l)) fun _ _ => []

def recoverInterrupted : LabelIo enc (List ℤ) :=
  statement (fun now l => some (l.recoverInterrupted now)) fun _ _ => []

def prune : LabelIo enc Unit :=
  statement (fun now l => some ((), l.prune now)) fun now l => (l.pruned now).map .prune

/-- `/food/print/next`. -/
def next : LabelIo enc (NextBatch enc) :=
  Scripted.ask fun turn w => (turn.next.mapError .rpc, w)

/-- `/food/print/ack`: the error text is cut once more. -/
def ack (lineId printedQty : ℤ) (error : Option String) : LabelIo enc AckAnswer :=
  Scripted.ask fun turn w =>
    (.ok turn.ack, w.remember (.ack lineId printedQty (error.map truncateAckError) turn.ack))

/-- Something that is remembered and has no answer. -/
def note (event : LabelEvent enc) : LabelIo enc Unit :=
  Scripted.ask fun _ w => (.ok (), w.remember event)

/-- The end of a print task, unless its time-out comes first. -/
def awaitPrint (doc : Document enc) : LabelIo enc (Option (Option String)) :=
  Scripted.ask fun turn w => (.ok turn.printed, match turn.printed with
    | some failure => w.remember (.answered doc failure)
    | none => w)

/-- A choice that changes nothing. -/
def choice {α : Type} (f : Turn enc → α) : LabelIo enc α :=
  Scripted.ask fun turn w => (.ok (f turn), w)

end LabelIo

open LabelIo

/-! ### One batch -/

variable {enc}

/-- Whether a line must not be printed now; `false` when it is new. -/
def handleKnownLine (lineId : ℤ) : LabelIo enc Bool := do
  match ← get lineId with
  | none => pure false
  | some known =>
    match known.state, known.sent, known.ack with
    | .sending, _, _ =>
      recordResult known.batchId lineId 0 (some interruptedReason)
      pure true
    -- never printed, and Odoo has the verdict: the line is looked at again
    | .done, false, .accepted | .done, false, .refused =>
      forget lineId
      pure false
    | .done, _, .owed => pure true
    | .done, true, .accepted | .done, true, .refused =>
      reopenAck lineId
      pure true

/-- What a batch has come to so far. -/
structure Progress (enc : Encoder) where
  /-- The lines that were looked at. -/
  seen : List ℤ
  printable : List (PrintableLine enc)
  rejected : ℕ
  reacked : ℕ
  /-- Lines without a line id. -/
  unackable : ℕ

namespace Progress

def start : Progress enc := ⟨[], [], 0, 0, 0⟩

def see (p : Progress enc) (lineId : ℤ) : Progress enc := { p with seen := lineId :: p.seen }

def reject (p : Progress enc) : Progress enc := { p with rejected := p.rejected + 1 }

def reack (p : Progress enc) : Progress enc := { p with reacked := p.reacked + 1 }

def push (p : Progress enc) (line : PrintableLine enc) : Progress enc :=
  { p with printable := p.printable ++ [line] }

end Progress

/-- The loop over `batch.invalid`. -/
def rejectInvalid (batchId : ℤ) :
    List InvalidLine → Progress enc → LabelIo enc (Progress enc)
  | [], p => pure p
  | bad :: rest, p =>
    match bad.lineId with
    | none => rejectInvalid batchId rest { p with unackable := p.unackable + 1 }
    | some lineId =>
      if lineId ∈ p.seen then rejectInvalid batchId rest p
      else do
        if ← handleKnownLine lineId then
          rejectInvalid batchId rest (p.see lineId).reack
        else
          recordResult batchId lineId 0 (some (truncateAckError bad.reason))
          rejectInvalid batchId rest (p.see lineId).reject

/-- `encode_line`: the error is the text of the ack. -/
def encodeLine (geometry : Except String enc.Geometry) (png : String) :
    Except String enc.Label :=
  match geometry with
  | .ok geometry => enc.decodeLabel png geometry
  | .error size => .error size

/-- What a new line is: one to print, or one with a verdict. -/
inductive LineVerdict (enc : Encoder) where
  | printable (label : enc.Label)
  | rejected (error : Option String)

/-- The checks of a new line, in their order. -/
def lineVerdict (geometry : Except String enc.Geometry) (line : NextLine) : LineVerdict enc :=
  if line.printQty < 0 then .rejected (some s!"invalid print_qty {line.printQty}")
  else if line.printQty = 0 then .rejected none
  else
    match encodeLine geometry line.labelPngBase64 with
    | .ok label => .printable label
    | .error reason => .rejected (some reason)

/-- The loop over `batch.lines_in_order()`. -/
def takeLines (batchId : ℤ) (geometry : Except String enc.Geometry) :
    List NextLine → Progress enc → LabelIo enc (Progress enc)
  | [], p => pure p
  | line :: rest, p =>
    if line.lineId ∈ p.seen then takeLines batchId geometry rest p
    else do
      if ← handleKnownLine line.lineId then
        takeLines batchId geometry rest (p.see line.lineId).reack
      else
        match lineVerdict geometry line with
        | .rejected error =>
          recordResult batchId line.lineId 0 error
          takeLines batchId geometry rest (p.see line.lineId).reject
        | .printable label =>
          takeLines batchId geometry rest
            ((p.see line.lineId).push ⟨line.lineId, line.printQty, label⟩)

/-- `run_print_task_with_timeout`. -/
def runPrintTask (doc : Document enc) : LabelIo enc PrintDispatch := do
  if ← choice Turn.inFlight then pure .duplicateSuppressed
  else
    note (.print doc)
    match ← awaitPrint doc with
    | some failure => pure (.completed failure)
    | none => pure .timedOut

/-- The body of `spool_document`: it fails with the reason. -/
def dispatchDocument (printTimeoutSecs : ℕ) (doc : Document enc) :
    LabelIo enc (Option String) := do
  match ← choice Turn.spoolError with
  | some reason => pure (some reason)
  | none =>
    match ← runPrintTask doc with
    | .completed failure => pure failure
    | .timedOut => pure (some (timedOutAckText printTimeoutSecs))
    | .duplicateSuppressed => pure (some duplicateText)

/-- `spool_document`, from its call to its return. -/
def spoolDocument (printTimeoutSecs : ℕ) (doc : Document enc) :
    LabelIo enc (Option String) := do
  note (.spool doc)
  let failure ← dispatchDocument printTimeoutSecs doc
  note .spooled
  pure failure

/-- The verdict of every line of a document. -/
def recordLines (batchId : ℤ) (failure : Option String) :
    List (PrintableLine enc) → LabelIo enc Unit
  | [] => pure ()
  | line :: rest => do
    match failure with
    | none => recordResult batchId line.lineId line.qty none
    | some reason => recordResult batchId line.lineId 0 (some (truncateAckError reason))
    recordLines batchId failure rest

def printBatch (printTimeoutSecs : ℕ) (doc : Document enc) : LabelIo enc Unit := do
  -- durable before the spooler sees a byte
  markSending doc.batchId doc.ids
  let failure ← spoolDocument printTimeoutSecs doc
  recordLines doc.batchId failure doc.lines

/-- What one poll achieved. -/
inductive PollOutcome where
  | idle
  | batch (batchId : ℤ) (printed rejected reacked : ℕ)
  | onlyKnownLines (batchId : ℤ) (reacked : ℕ)
  | acksOwed (owed : ℕ)
deriving DecidableEq, Repr

def handleBatch (printTimeoutSecs : ℕ) (batchId : ℤ) (batch : NextBatch enc) :
    LabelIo enc PollOutcome := do
  let geometry := enc.geometryFor batch.labelSize
  let p ← rejectInvalid batchId batch.invalid Progress.start
  let p ← takeLines batchId geometry batch.linesInOrder p
  match geometry, p.printable with
  | .ok geometry, line :: lines => do
    printBatch printTimeoutSecs ⟨batchId, line :: lines, geometry⟩
    pure (.batch batchId p.printable.length p.rejected p.reacked)
  | _, _ =>
    if p.rejected = 0 then pure (.onlyKnownLines batchId p.reacked)
    else pure (.batch batchId p.printable.length p.rejected p.reacked)

/-! ### The acks -/

/-- The loop of `flush_acks`; the answer counts what is still owed. -/
def sendAcks : List LedgerEntry → LabelIo enc ℕ
  | [] => pure 0
  | entry :: rest => do
    match ← ack entry.lineId entry.printedQty entry.error with
    | .ok accepted =>
      markAcked entry.lineId (if accepted.duplicate then ackNoteDuplicate else ackNoteOk)
      sendAcks rest
    | .error (.business text) =>
      markAcked entry.lineId (ackNoteRefusedPrefix ++ text)
      sendAcks rest
    | .error (.transport text) => Scripted.fail (.rpc (.transport text))
    | .error _ =>
      let owed ← sendAcks rest
      pure (owed + 1)

def flushAcks : LabelIo enc ℕ := do
  sendAcks (← pendingAcks)

/-! ### Runs -/

/-- What Odoo answered: a batch with lines is handled. -/
def handleNext (printTimeoutSecs : ℕ) (batch : NextBatch enc) : LabelIo enc PollOutcome :=
  match batch.batchId with
  | some batchId =>
    if batch.lines.isEmpty && batch.invalid.isEmpty then pure .idle
    else handleBatch printTimeoutSecs batchId batch
  | none => pure .idle

/-- The outcome of a poll, after the acks of what it decided. -/
def PollOutcome.withOwed (owed : ℕ) : PollOutcome → PollOutcome
  | idle => if 0 < owed then acksOwed owed else idle
  | outcome => outcome

/-- One poll. -/
def pollOnce (printTimeoutSecs : ℕ) : LabelIo enc PollOutcome := do
  let _ ← flushAcks
  let batch ← next
  let outcome ← handleNext printTimeoutSecs batch
  let owed ← flushAcks
  pure (outcome.withOwed owed)

/-- The start of the source: an error of the recovery ends it, one of the pruning does not. -/
def startUp : LabelIo enc Unit := do
  let _ ← recoverInterrupted
  let _ ← Scripted.attempt prune

/-- One step of the source, with what its surroundings choose. -/
inductive LabelStep (enc : Encoder) where
  | start (script : List (Turn enc))
  | poll (script : List (Turn enc))
  /-- The process ends between two polls. -/
  | stop

namespace LabelWorld

/-- The state after a part of the task ran under a script.  A death ends the process; an error
ends only the part. -/
def after {α : Type} (w : LabelWorld enc) (p : LabelIo enc α) (script : List (Turn enc)) :
    LabelWorld enc :=
  match p.exec script w with
  | (.error .died, w') => w'.ended
  | (_, w') => w'

/-- A part of the task after which the source polls, if it has an answer. -/
def afterStart (w : LabelWorld enc) (script : List (Turn enc)) : LabelWorld enc :=
  match (startUp : LabelIo enc Unit).exec script w with
  | (.ok _, w') => { w' with alive := true }
  | (.error _, w') => w'.ended

def step (printTimeoutSecs : ℕ) (w : LabelWorld enc) : LabelStep enc → Option (LabelWorld enc)
  | .start script => if w.alive then none else some (w.afterStart script)
  | .poll script => if w.alive then some (w.after (pollOnce printTimeoutSecs) script) else none
  | .stop => if w.alive then some w.ended else none

end LabelWorld

/-- The runs of the source, from an empty ledger. -/
def labelSource (printTimeoutSecs : ℕ) : Transition (LabelWorld enc) (LabelStep enc) where
  init := ⟨Table.empty, [], false⟩
  step := LabelWorld.step printTimeoutSecs

end Labels

end DevBridge

import DevBridge.Tim.World

/-!
# The jobs of one session

A session connects, logs in, reads the terminal id, does its errand and always logs out and
disconnects.  It holds the terminal's session lock from its first instruction to its last.
Two reads or writes of the journal are two steps: another call may come between them.
-/

namespace DevBridge.Tim

/-! ### Errands -/

/-- What a reversal needs. -/
structure ReversalRun where
  jobId : ℤ
  transSeq : ℤ
  amountMinor : ℤ
  payloadTid : Option String
  storedMaxSeq : Option ℤ
deriving DecidableEq, Repr

/-- How a reversal ended inside its session. -/
inductive ReversalEnd where
  | done (facts : TxFacts) (tid : Option String)
  | refused (code text : String)
  | unknown (why : String)
deriving DecidableEq, Repr

/-- How a safety balance's session ended. -/
inductive SafetyEnd where
  /-- A balance of the day ran meanwhile, or the day is over: nothing sent. -/
  | alreadyRan
  /-- Nothing ran: no row kept. -/
  | notSent (outcome : Outcome)
  /-- Sent, with its row. -/
  | sent (id : ℤ) (outcome : Outcome)
deriving DecidableEq, Repr

/-- What a session does once it is logged in. -/
inductive Errand where
  /-- `read_last`. -/
  | readLast
  | reversal (run : ReversalRun)
  /-- A shift or balance job, with the local date of its start. -/
  | op (op : TerminalOp) (jobId : ℤ) (date : String)
  /-- A shift job whose outcome is unknown runs again. -/
  | rerun (op : TerminalOp)
  | copy (jobId transSeq : ℤ)
  /-- The safety balance of a day that ends at a moment. -/
  | safety (date : String) (midnight : ℕ)
deriving DecidableEq, Repr

/-- What an errand gave. -/
inductive ErrandEnd where
  | last (tid : Option String) (r : Except TimError LastTransaction)
  | reversal (e : ReversalEnd)
  /-- With the row of the balance. -/
  | op (balance : Option ℤ) (outcome : Outcome)
  | rerun (r : Except TimError Json)
  | copy (r : Except Outcome Receipts)
  | safety (e : SafetyEnd)
deriving DecidableEq

/-- Where an errand is. -/
inductive ErrandPc where
  | begin
  /-- Waiting for the terminal's last transaction. -/
  | reading
  /-- Waiting for the answer to the errand's own call. -/
  | calling
  /-- A reversal: looking for another one of its `trans_seq`. -/
  | others (base : Option ℤ)
  /-- The contact is to be journaled. -/
  | contact (base : Option ℤ)
  /-- The row of a balance is to be journaled. -/
  | balanceRow
  /-- Waiting for the answer to a balance with this row. -/
  | balancing (row : Option ℤ)
  /-- The terminal refused a reversal: has its period been closed? -/
  | closed (e : TimError)
  /-- The terminal refused a safety balance: its row is to be dropped. -/
  | forget (row : ℤ) (outcome : Outcome)
deriving DecidableEq, Repr

/-- Where a session is. -/
inductive SessionPc where
  /-- For the terminal's session lock. -/
  | waiting
  | creating
  | connecting
  | loggingIn
  | readingId
  | working (tid : Option String) (pc : ErrandPc)
  | loggingOut (r : Except SessionFail ErrandEnd)
  | disconnecting (r : Except SessionFail ErrandEnd)
  | ended (r : Except SessionFail ErrandEnd)
deriving DecidableEq

/-- A session of one errand. -/
structure Session where
  spec : TerminalSpec
  errand : Errand
  pc : SessionPc
deriving DecidableEq

/-! ### Texts -/

def otherTerminalText (wanted : String) (tid : Option String) : String :=
  let id := tid.getD "(unknown)"
  s!"the payment was charged on terminal {wanted}, this till's terminal is {id} - nothing reversed"

def alreadyReversedText (transSeq other : ℤ) : String :=
  s!"trans_seq {transSeq} was already reversed by job {other} - nothing sent"

def unresolvedReversalText (transSeq other : ℤ) (state : JobState) : String :=
  s!"an earlier reversal of trans_seq {transSeq} (job {other}) is {state.asStr} - nothing sent, a person decides"

def ALREADY_ASKED_REVERSAL_TEXT : String :=
  "the terminal was already asked for this reversal - no second one, reconciled with the terminal"

def ALREADY_ASKED_OP_TEXT : String :=
  "the terminal was already asked for this job - not asked again, reconciled"

def noReversalContactText (e : String) : String :=
  s!"the journal did not record the terminal contact ({e}) - the reversal was not sent, nothing reversed"

/-! ### The errands -/

/-- The end of a reversal that was refused. -/
def refusedReversal (code text : String) : ErrandEnd := .reversal (.refused code text)

/-- What a failed reversal means. -/
def failedReversal (e : TimError) (periodClosedProven : Bool) : ReversalEnd :=
  match classifyReversalError e.code periodClosedProven with
  | .nothingCharged code =>
    .refused code s!"the terminal refused the reversal: {e.toText} - nothing reversed"
  | .unknown =>
    .unknown
      s!"the reversal failed with an unknown outcome: {e.toText} - reconciled with the terminal"

/-- A refusal of the copy that needs no terminal receipt. -/
def copyFailed (code text : String) : ErrandEnd := .copy (.error (.failed code text))

/-- The receipt copy looks at the latest transaction. -/
def notLastText (last : Option ℤ) (transSeq : ℤ) : String :=
  s!"the terminal reprints only its latest receipt (trans_seq {debugOption last}), not trans_seq {transSeq} - nothing printed"

/-- What the answer to a safety balance means. -/
def safetyAnswer (row : ℤ) : Except TimError Json → ErrandPc ⊕ ErrandEnd
  | .ok result => .inr (.safety (.sent row (.done result)))
  | .error e =>
    match TerminalOp.error .balance e with
    | .failed code text => .inl (.forget row (.failed code text))
    | unknown => .inr (.safety (.sent row unknown))

/-- The safety balance could not use the journal. -/
def safetyJournalFail (e : String) : ErrandEnd :=
  .safety (.notSent (.failed CODE_BRIDGE_ERROR s!"journal: {e} - nothing ran"))

/-- What a step of an errand gives. -/
structure ErrandStep where
  /-- It goes on, or it is over. -/
  next : ErrandPc ⊕ ErrandEnd
  state : TimState
  /-- The call it sends. -/
  call : Option TerminalCall

namespace ErrandStep

/-- It goes on with the terminal. -/
def ask (pc : ErrandPc) (call : TerminalCall) (s : TimState) : Option ErrandStep :=
  some ⟨.inl pc, s, some call⟩

def goOn (pc : ErrandPc) (s : TimState) : Option ErrandStep := some ⟨.inl pc, s, none⟩

def finish (e : ErrandEnd) (s : TimState) : Option ErrandStep := some ⟨.inr e, s, none⟩

end ErrandStep

/-- An errand's own call. -/
def Errand.call : Errand → TerminalCall
  | readLast => .lastTransaction
  | reversal run => .reversal run.transSeq
  | op o _ _ | rerun o => o.call
  | copy _ _ => .reprint
  | safety _ _ => .balance

/-- The call whose answer an errand waits for. -/
def Errand.callOf (x : Errand) : ErrandPc → Option TerminalCall
  | .reading => some .lastTransaction
  | .calling | .balancing _ => some x.call
  | _ => none

open ErrandStep in
/-- `ReversalRun::run`. -/
def reversalStep (run : ReversalRun) (now : Time) (ip : String) (tid : Option String)
    (s : TimState) : ErrandPc → TimEvent → Option ErrandStep
  | .begin, .go =>
    match run.payloadTid with
    | some wanted =>
      if tid = some wanted then ask .reading .lastTransaction s
      else finish (refusedReversal CODE_WRONG_TERMINAL (otherTerminalText wanted tid)) s
    | none => ask .reading .lastTransaction s
  | .reading, .answer (.failed _) =>
    goOn (.others (baseline none run.storedMaxSeq)) s
  | .reading, .answer (.last last) =>
    goOn (.others (baseline (some last) run.storedMaxSeq)) s
  | .others base, .go =>
    match s.journal.cardOtherReversal ip run.transSeq run.jobId with
    | none => goOn (.contact base) s
    | some (other, .done) =>
      finish (refusedReversal CODE_ALREADY_REVERSED (alreadyReversedText run.transSeq other)) s
    | some (other, state) =>
      finish (refusedReversal CODE_REVERSAL_UNRESOLVED
        (unresolvedReversalText run.transSeq other state)) s
  | .others _, .fails e =>
    finish (refusedReversal CODE_BRIDGE_ERROR
      s!"journal: {e} - the reversal was not sent, nothing reversed") s
  | .contact base, .go =>
    match s.journal.cardContactOf now run.jobId ip run.amountMinor base
        TRANSACTION_TYPE_REVERSAL (some run.transSeq) with
    | some (true, j) => ask .calling (.reversal run.transSeq) (s.withJournal j)
    | some (false, _) => finish (.reversal (.unknown ALREADY_ASKED_REVERSAL_TEXT)) s
    | none => finish (refusedReversal CODE_BRIDGE_ERROR (noReversalContactText "constraint")) s
  | .contact _, .fails e => finish (refusedReversal CODE_BRIDGE_ERROR (noReversalContactText e)) s
  | .calling, .answer (.facts facts) => finish (.reversal (.done facts tid)) s
  | .calling, .answer (.failed e) => goOn (.closed e) s
  | .closed e, .go =>
    finish (.reversal (failedReversal e (s.journal.cardBalanceSincePayment ip run.transSeq))) s
  -- an unreadable journal proves nothing
  | .closed e, .fails _ => finish (.reversal (failedReversal e false)) s
  | _, _ => none

open ErrandStep in
/-- The session of a shift or balance job. -/
def opStep (cfg : TimConfig) (op : TerminalOp) (jobId : ℤ) (date : String) (now : Time)
    (ip : String) (tid : Option String) (s : TimState) :
    ErrandPc → TimEvent → Option ErrandStep
  | .begin, .go =>
    match s.journal.markDeviceContact now jobId with
    | (true, j) =>
      match op with
      | .balance => goOn .balanceRow (s.withJournal j)
      | _ => ask .calling op.call (s.withJournal j)
    | (false, _) => finish (.op none (.indeterminate ALREADY_ASKED_OP_TEXT)) s
  | .begin, .fails e =>
    finish (.op none (.failed CODE_BRIDGE_ERROR
      s!"the journal did not record the terminal contact ({e}) - nothing ran")) s
  | .balanceRow, .go =>
    let (row, j) := s.journal.cardBalanceContact now ip date .job (some jobId)
    ask (.balancing row) .balance (s.withJournal j)
  | .balanceRow, .fails e =>
    finish (.op none (.failed CODE_BRIDGE_ERROR
      s!"the journal did not record the balance ({e}) - nothing ran")) s
  | .balancing row, .answer a =>
    (op.result cfg.floatText tid a).bind fun r =>
      finish (.op row (match r with
        | .ok result => .done result
        | .error e => op.error e)) s
  | .calling, .answer a =>
    (op.result cfg.floatText tid a).bind fun r =>
      finish (.op none (match r with
        | .ok result => .done result
        | .error e => op.error e)) s
  | _, _ => none

open ErrandStep in
/-- `copy_session`. -/
def copyStep (jobId transSeq : ℤ) (now : Time) (s : TimState) :
    ErrandPc → TimEvent → Option ErrandStep
  | .begin, .go =>
    ask .reading .lastTransaction
      (s.withJournal (s.journal.markDeviceContact now jobId).2)
  | .begin, .fails e =>
    finish (copyFailed CODE_BRIDGE_ERROR
      s!"the journal did not record the terminal contact ({e}) - nothing printed") s
  | .reading, .answer (.failed e) =>
    finish (copyFailed CODE_TERMINAL_ERROR
      s!"the terminal's last transaction is not readable: {e.toText} - nothing printed") s
  | .reading, .answer (.last last) =>
    let lastSeq := last.facts.bind TxFacts.transSeq
    if lastSeq = some transSeq then ask .calling .reprint s
    else finish (copyFailed CODE_NOT_LAST_TRANSACTION (notLastText lastSeq transSeq)) s
  | .calling, .answer (.failed e) =>
    finish (copyFailed CODE_TERMINAL_ERROR
      s!"the terminal gave no receipt copy: {e.toText} - nothing printed") s
  | .calling, .answer (.receipts r) => finish (.copy (.ok r)) s
  | _, _ => none

open ErrandStep in
/-- `safety_session`: the day is checked again, the row journaled, then the balance sent. -/
def safetyStep (cfg : TimConfig) (date : String) (midnight : ℕ) (now : Time) (ip : String)
    (tid : Option String) (s : TimState) : ErrandPc → TimEvent → Option ErrandStep
  | .begin, .go =>
    if midnight ≤ s.vol.instant then finish (.safety .alreadyRan) s
    else if s.journal.cardBalanceRan ip date then finish (.safety .alreadyRan) s
    else goOn .balanceRow s
  | .begin, .fails e =>
    if midnight ≤ s.vol.instant then none else finish (safetyJournalFail e) s
  | .balanceRow, .go =>
    match s.journal.cardBalanceContact now ip date .safety none with
    | (some row, j) => ask (.balancing (some row)) .balance (s.withJournal j)
    | (none, _) => finish (.safety .alreadyRan) s
  | .balanceRow, .fails e => finish (safetyJournalFail e) s
  | .balancing (some row), .answer a =>
    (TerminalOp.balance.result cfg.floatText tid a).map fun r => ⟨safetyAnswer row r, s, none⟩
  | .forget row outcome, .go =>
    finish (.safety (.notSent outcome)) (s.withJournal (s.journal.cardBalanceForget row).2)
  | .forget _ outcome, .fails _ => finish (.safety (.notSent outcome)) s
  | _, _ => none

open ErrandStep in
/-- One step of an errand. -/
def Errand.step (cfg : TimConfig) (now : Time) (ip : String) (tid : Option String)
    (s : TimState) (pc : ErrandPc) (ev : TimEvent) : Errand → Option ErrandStep
  | readLast =>
    match pc, ev with
    | .begin, .go => ask .reading .lastTransaction s
    | .reading, .answer (.failed e) => finish (.last tid (.error e)) s
    | .reading, .answer (.last last) => finish (.last tid (.ok last)) s
    | _, _ => none
  | reversal run => reversalStep run now ip tid s pc ev
  | op o jobId date => opStep cfg o jobId date now ip tid s pc ev
  | rerun o =>
    match pc, ev with
    | .begin, .go => ask .calling o.call s
    | .calling, .answer a =>
      (o.result cfg.floatText tid a).bind fun r => finish (.rerun r) s
    | _, _ => none
  | copy jobId transSeq => copyStep jobId transSeq now s pc ev
  | safety date midnight => safetyStep cfg date midnight now ip tid s pc ev

/-! ### The session -/

namespace Session

/-- The call whose answer a session waits for. -/
def callOf (x : Session) : Option TerminalCall :=
  match x.pc with
  | .creating => some .create
  | .connecting => some .connect
  | .loggingIn => some .login
  | .readingId => some .terminalId
  | .working _ pc => x.errand.callOf pc
  | .loggingOut _ => some .logout
  | .disconnecting _ => some .disconnect
  | .waiting | .ended _ => none

/-- After an answer of the terminal it is in the log. -/
def listen (x : Session) (jobId : Option ℤ) (ev : TimEvent) (s : TimState) : TimState :=
  match x.callOf, ev with
  | some call, .answer a => s.heard x.spec.ip jobId call a
  | _, _ => s

/-- The state of a session, and of everything it shares, after a step that sends a call. -/
def ask (x : Session) (jobId : Option ℤ) (pc : SessionPc) (call : TerminalCall)
    (s : TimState) : Session × TimState :=
  ({ x with pc }, s.send x.spec.ip jobId call none)

/-- A session that never connected is over at once. -/
def abort (x : Session) (e : SessionFail) (s : TimState) : Session × TimState :=
  ({ x with pc := .ended (.error e) }, s.lock x.spec.ip none)

/-- What was read of the terminal id. -/
def identified (x : Session) (jobId : Option ℤ) (tid : Option String) (s : TimState) :
    Session × TimState :=
  match x.spec.expectedTid with
  | some expected =>
    if tid = some expected then ({ x with pc := .working tid .begin }, s)
    else x.ask jobId (.loggingOut (.error (.refused (.wrongTerminal expected tid)))) .logout s
  | none => ({ x with pc := .working tid .begin }, s)

/-- A step of the errand. -/
def worked (x : Session) (jobId : Option ℤ) (tid : Option String) (r : ErrandStep) :
    Session × TimState :=
  match r.next, r.call with
  | .inl pc, some call => x.ask jobId (.working tid pc) call r.state
  | .inl pc, none => ({ x with pc := .working tid pc }, r.state)
  | .inr e, _ => x.ask jobId (.loggingOut (.ok e)) .logout r.state

/-- One step of a session that the call `i` runs for a job. -/
def step (cfg : TimConfig) (now : Time) (i : ℕ) (jobId : Option ℤ) (x : Session)
    (ev : TimEvent) (s : TimState) : Option (Session × TimState) :=
  let heard := x.listen jobId ev s
  match x.pc, ev with
  | .waiting, .go =>
    if s.vol.sessions x.spec.ip = none then
      some (x.ask jobId .creating .create (s.lock x.spec.ip (some i)))
    else none
  | .creating, .answer (.failed e) => some (x.abort (.refused (.tim e)) heard)
  | .creating, .answer .done => some (x.ask jobId .connecting .connect heard)
  | .connecting, .answer (.failed e) => some (x.abort (.unreachable e) heard)
  | .connecting, .answer .done => some (x.ask jobId .loggingIn .login heard)
  | .loggingIn, .answer (.failed e) =>
    some (x.ask jobId (.disconnecting (.error (.refused (.tim e)))) .disconnect heard)
  | .loggingIn, .answer .done => some (x.ask jobId .readingId .terminalId heard)
  | .readingId, .answer (.failed e) =>
    some (x.ask jobId (.loggingOut (.error (.refused (.tim e)))) .logout heard)
  | .readingId, .answer (.tid tid) => some (x.identified jobId tid heard)
  | .working tid pc, ev =>
    (x.errand.step cfg now x.spec.ip tid heard pc ev).map (x.worked jobId tid)
  -- a failed logout or disconnect is only logged
  | .loggingOut r, .answer .done | .loggingOut r, .answer (.failed _) =>
    some (x.ask jobId (.disconnecting r) .disconnect heard)
  | .disconnecting r, .answer .done | .disconnecting r, .answer (.failed _) =>
    some ({ x with pc := .ended r }, heard.lock x.spec.ip none)
  | _, _ => none

end Session

end DevBridge.Tim

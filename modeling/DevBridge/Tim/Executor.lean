import DevBridge.Tim.Calls

/-!
# The card executor

The calls of the card jobs, their reconciles, which ask the terminal for its last
transaction, and the background call that sends the safety balance.
-/

namespace DevBridge.Tim

/-! ### Texts -/

def NEVER_CHARGED_TEXT : String :=
  "the terminal was never asked (no device contact journaled) - nothing charged"

def NEVER_RAN_TEXT : String :=
  "the terminal was never asked (no device contact journaled) - nothing ran"

def COPY_INTERRUPTED_TEXT : String :=
  "the copy was interrupted - whether it printed is unknown, no money is involved; ask for a new copy"

def BALANCE_INTERRUPTED_TEXT : String :=
  "left for a person: the terminal does not tell whether the interrupted balance ran - the next balance (or the 23:50 safety balance) closes the period anyway"

def LATER_SHIFT_TEXT : String :=
  "left for a person: a later card.activate / card.deactivate of this till governs the terminal's shift"

def NOT_CHARGED_TEXT : String :=
  "the terminal reports this payment failed (rolled back / reversed) - no money taken"

def NOT_REVERSED_TEXT : String :=
  "the terminal reports this reversal failed - the payment is NOT reversed, no money moved"

/-! ### Reconciles -/

/-- Where the call of a reconcile is. -/
inductive ReconcilePc where
  | start
  /-- A transaction: its card row is to be read. -/
  | card
  /-- The clock is to be looked at. -/
  | asking (card : CardPayment)
  /-- The terminal is asked for its last transaction. -/
  | reading (card : CardPayment) (x : Session)
  /-- The terminal has answered: was there a later payment? -/
  | judging (card : CardPayment) (tid : Option String) (last : LastTransaction)
  /-- The transaction was carried out: its `trans_seq` is to be journaled. -/
  | charged (card : CardPayment) (tid : Option String) (facts : TxFacts)
  /-- A person decides: this is to be journaled. -/
  | person (why : String)
  /-- A settle job: the row of its payment is to be read, then the card row. -/
  | settleRow (op : SettleOp) (target : ℤ)
  | settleCard (op : SettleOp) (target : ℤ) (entry : JournalEntry)
  /-- A shift job: was there a later one? -/
  | shift (op : TerminalOp)
  /-- A shift job runs again. -/
  | running (x : Session)
  | answered (answer : Reconciliation)
deriving DecidableEq

/-- `TIM_DEFAULT_COMMIT_TIMEOUT_S`. -/
def TIM_DEFAULT_COMMIT_TIMEOUT_S : ℕ := 60

/-- `reconcile_card`, up to its first question. -/
def beginReconcile (entry : JournalEntry) : ReconcilePc :=
  let job := entry.job
  if (TwoPhase.ofJob job.jobType).isSome ∨ job.jobType = JOB_REVERSAL then
    if entry.deviceContactAt.isNone then .answered (.failed CODE_NOT_EXECUTED NEVER_CHARGED_TEXT)
    else .card
  else if (TerminalOp.ofJob job.jobType).isSome ∨ job.jobType = JOB_PRINT_COPY then
    if entry.deviceContactAt.isNone then .answered (.failed CODE_NOT_EXECUTED NEVER_RAN_TEXT)
    else
      match TerminalOp.ofJob job.jobType with
      | none => .answered (.failed CODE_PRINT_UNKNOWN COPY_INTERRUPTED_TEXT)
      | some .balance => .answered (.stillUnknown BALANCE_INTERRUPTED_TEXT)
      | some op => .shift op
  else if isSettle job.jobType then
    match settleTarget job with
    | none => .answered (.stillUnknown "no card_job_id")
    | some target =>
      .settleRow (if job.jobType = JOB_COMMIT then .commit else .rollback) target
  else
    .answered (.stillUnknown
      s!"the TIM executor does not run '{job.jobType}' - a person must reconcile it")

/-- Whether the terminal may be asked about a transaction. -/
def mayAsk (cfg : TimConfig) (now started : Time) (job : DeviceJob) (card : CardPayment) :
    ReconcilePc :=
  let spec := jobSpec cfg job
  let timeout := (spec.map TerminalSpec.commitTimeoutS).getD TIM_DEFAULT_COMMIT_TIMEOUT_S
  let after := settleAfter (settleMoments card started) timeout
  if settlePending now after then
    let moment := timeText (after.getD 0)
    .answered (.stillUnknown
      s!"waiting until the terminal's commit timeout has passed ({moment})")
  else
    match spec with
    | none =>
      .answered (.stillUnknown "the till has no terminal any more - a person must reconcile it")
    | some spec =>
      if cfg.libraryLoaded then .reading card ⟨spec, .readLast, .waiting⟩
      else .answered (.stillUnknown "the TIM library is not loaded")

/-- After the session that reads the last transaction. -/
def afterReading (card : CardPayment) : Except SessionFail ErrandEnd → ReconcilePc
  | .ok (.last tid (.ok last)) => .judging card tid last
  | .ok (.last _ (.error e)) =>
    .answered (.stillUnknown s!"the terminal could not be asked: {e.toText}")
  | .error e =>
    let text := e.error.toText
    .answered (.stillUnknown s!"the terminal could not be asked: {text}")
  | .ok _ => .answered (.stillUnknown "the session did another errand")

/-- What is known of a transaction that is reconciled. -/
def oursOf (card : CardPayment) (laterPayment : Bool) : Ours where
  baseline := card.baselineSeq
  amountMinor := card.amountMinor
  transSeq := card.transSeq
  txType := card.txType
  laterPayment

/-- What the last transaction says of ours. -/
def judge (card : CardPayment) (tid : Option String) (last : LastTransaction)
    (laterPayment : Bool) : ReconcilePc :=
  match correlate (oursOf card laterPayment) last with
  | .charged facts => .charged card tid facts
  | .notCharged =>
    if card.txType = TRANSACTION_TYPE_REVERSAL then
      .answered (.failed CODE_NOT_REVERSED NOT_REVERSED_TEXT)
    else .answered (.failed CODE_ROLLED_BACK NOT_CHARGED_TEXT)
  | .undecidable why => .person why

/-- The result of a transaction that was carried out. -/
def chargedAnswer (cfg : TimConfig) (card : CardPayment) (tid : Option String)
    (facts : TxFacts) : ReconcilePc :=
  let state := if card.txType = TRANSACTION_TYPE_REVERSAL then "reversed" else "successful"
  .answered (.done (reconciled (cardResult cfg.floatText state tid facts)))

/-- After the session of a shift job that ran again. -/
def afterRerun : Except SessionFail ErrandEnd → ReconcilePc
  | .ok (.rerun (.ok result)) => .answered (.done (reconciled result))
  | .ok (.rerun (.error e)) => .answered (.stillUnknown s!"the terminal answered {e.toText}")
  | .error _ => .answered (.stillUnknown "the terminal could not be asked: failed")
  | .ok _ => .answered (.stillUnknown "the session did another errand")

/-- Whether a shift job runs again. -/
def shiftAgain (cfg : TimConfig) (job : DeviceJob) (op : TerminalOp) (later : Bool) :
    ReconcilePc :=
  if later then .answered (.stillUnknown LATER_SHIFT_TEXT)
  else
    match jobSpec cfg job with
    | none => .answered (.stillUnknown "the till has no terminal any more")
    | some spec =>
      if cfg.libraryLoaded then .running ⟨spec, .rerun op, .waiting⟩
      else .answered (.stillUnknown "the terminal could not be asked: failed")

def personText (why : String) : String := s!"left for a person: {why}"

/-- One step of `reconcile_card`. -/
def reconcileStep (cfg : TimConfig) (now : Time) (i : ℕ) (entry : JournalEntry) (s : TimState) :
    ReconcilePc → TimEvent → Option (ReconcilePc × TimState)
  | .start, .go => some (beginReconcile entry, s)
  | .card, .go =>
    match s.journal.cardPayment entry.job.id with
    | none =>
      some (.answered (.stillUnknown "no card row - a person must reconcile it"), s)
    | some card =>
      match card.personReason with
      | some reason => some (.answered (.stillUnknown (personText reason)), s)
      | none => some (.asking card, s)
  | .card, .fails e => some (.answered (.stillUnknown s!"journal: {e}"), s)
  | .asking card, .asks started => some (mayAsk cfg now started entry.job card, s)
  | .reading card ⟨_, _, .ended r⟩, .go => some (afterReading card r, s)
  | .reading card x, ev =>
    (x.step cfg now i (some entry.job.id) ev s).map fun (x', s') => (.reading card x', s')
  | .judging card tid last, .go =>
    some (judge card tid last (s.journal.cardLaterOnTerminal entry.job.id), s)
  -- an unreadable journal counts as a later payment
  | .judging card tid last, .fails _ => some (judge card tid last true, s)
  | .charged card tid facts, .go =>
    let j := match facts.transSeq with
      | some seq => (s.journal.cardTransacted entry.job.id seq).2
      | none => s.journal
    some (chargedAnswer cfg card tid facts, s.withJournal j)
  | .charged card tid facts, .fails _ => some (chargedAnswer cfg card tid facts, s)
  | .person why, .go =>
    some (.answered (.stillUnknown (personText why)),
      s.withJournal (s.journal.cardForPerson entry.job.id why).2)
  | .person why, .fails _ => some (.answered (.stillUnknown (personText why)), s)
  | .settleRow op target, .go =>
    match settleRow entry.job target (s.journal.get target) with
    | .ok purchase => some (.settleCard op target purchase, s)
    | .error refusal => some (.answered (asReconciliation refusal), s)
  | .settleRow _ _, .fails e =>
    some (.answered (asReconciliation (.indeterminate s!"journal: {e}")), s)
  | .settleCard op target purchase, .go =>
    some (.answered (asReconciliation
      ((settleCard cfg entry.job (s.journal.cardPayment target)).getD
        (settleOutcome op target (purchaseState purchase)))), s)
  | .settleCard op target purchase, .fails _ =>
    some (.answered (asReconciliation
      ((settleCard cfg entry.job none).getD
        (settleOutcome op target (purchaseState purchase)))), s)
  | .shift op, .go =>
    some (shiftAgain cfg entry.job op
      (s.journal.cardLaterShiftJob entry.job.id entry.job.kasaId), s)
  | .shift op, .fails _ => some (shiftAgain cfg entry.job op true, s)
  | .running ⟨_, _, .ended r⟩, .go => some (afterRerun r, s)
  | .running x, ev =>
    (x.step cfg now i (some entry.job.id) ev s).map fun (x', s') => (.running x', s')
  | _, _ => none

/-! ### The safety balance -/

/-- Where the background call is. -/
inductive SafetyPc where
  /-- Asleep until the next tick. -/
  | idle
  /-- The terminals of a tick that are left. -/
  | day (rest : List TerminalSpec) (date : String) (midnight : ℕ)
  | session (x : Session) (rest : List TerminalSpec) (date : String) (midnight : ℕ)
  /-- The outcome of the balance is to be journaled. -/
  | recording (row : ℤ) (outcome : Outcome) (rest : List TerminalSpec) (date : String)
    (midnight : ℕ)
deriving DecidableEq

/-- Whether the safety balance of the day is due: from 23:50 on. -/
def safetyDue (minuteOfDay : ℕ) : Bool := decide (23 * 60 + 50 ≤ minuteOfDay)

/-- After the session of a safety balance. -/
def afterSafety (rest : List TerminalSpec) (date : String) (midnight : ℕ) :
    Except SessionFail ErrandEnd → SafetyPc
  | .ok (.safety (.sent row outcome)) => .recording row outcome rest date midnight
  | _ => .day rest date midnight

/-- One step of `safety_loop`. -/
def safetyLoopStep (cfg : TimConfig) (now : Time) (i : ℕ) (s : TimState) :
    SafetyPc → TimEvent → Option (SafetyPc × TimState)
  | .idle, .go =>
    let t := cfg.localTime now
    if safetyDue t.minuteOfDay ∧ cfg.libraryLoaded then
      some (.day cfg.terminals t.date (s.vol.instant + t.untilMidnight), s)
    else some (.idle, s)
  | .day [] _ _, .go => some (.idle, s)
  | .day (spec :: rest) date midnight, .go =>
    if s.journal.cardBalanceRan spec.ip date then some (.day rest date midnight, s)
    else some (.session ⟨spec, .safety date midnight, .waiting⟩ rest date midnight, s)
  | .day (_ :: rest) date midnight, .fails _ => some (.day rest date midnight, s)
  | .session ⟨_, _, .ended r⟩ rest date midnight, .go =>
    some (afterSafety rest date midnight r, s)
  | .session x rest date midnight, ev =>
    (x.step cfg now i none ev s).map fun (x', s') => (.session x' rest date midnight, s')
  | .recording row outcome rest date midnight, .go =>
    some (.day rest date midnight, s.withJournal (journalBalance s.journal (some row) outcome))
  | .recording _ _ rest date midnight, .fails _ => some (.day rest date midnight, s)
  | _, _ => none

/-! ### The executor -/

/-- A running card call. -/
inductive TimTask where
  | twoPhase (job : DeviceJob) (kind : TwoPhase) (pc : TwoPhasePc)
  | settle (job : DeviceJob) (op : SettleOp) (pc : SettlePc)
  | op (job : DeviceJob) (pc : OpPc)
  | reconcile (entry : JournalEntry) (pc : ReconcilePc)
  | safety (pc : SafetyPc)
deriving DecidableEq

/-- `execute_card`, at its first instruction. -/
def executeCard (job : DeviceJob) : TimTask :=
  match TwoPhase.ofJob job.jobType with
  | some kind => .twoPhase job kind .start
  | none =>
    if job.jobType = JOB_COMMIT then .settle job .commit .start
    else if job.jobType = JOB_ROLLBACK then .settle job .rollback .start
    else .op job .start

/-- One step of a call. -/
def timStep (cfg : TimConfig) (now : Time) (i : ℕ) (ev : TimEvent) (t : TimTask)
    (s : TimState) : Option (TimTask × TimState) :=
  if !ev.fits then none
  else
    match ev, t with
    | .elapse ms, t => some (t, s.elapse ms)
    | ev, .twoPhase job kind pc =>
      (twoPhaseStep cfg now i job kind s pc ev).map fun r => (.twoPhase job kind r.1, r.2)
    | ev, .settle job op pc =>
      (settleStep cfg i job op s pc ev).map fun r => (.settle job op r.1, r.2)
    | ev, .op job pc => (opTaskStep cfg now i job s pc ev).map fun r => (.op job r.1, r.2)
    | ev, .reconcile entry pc =>
      (reconcileStep cfg now i entry s pc ev).map fun r => (.reconcile entry r.1, r.2)
    | ev, .safety pc => (safetyLoopStep cfg now i s pc ev).map fun r => (.safety r.1, r.2)

/-- `check_card`: refused before the job is journaled. -/
def checkCard (cfg : TimConfig) (job : DeviceJob) : Except Rejection Unit :=
  let kind := job.jobType
  let twoPhase := (TwoPhase.ofJob kind).isSome
  let known := twoPhase || kind == JOB_REVERSAL || (TerminalOp.ofJob kind).isSome ||
    kind == JOB_PRINT_COPY
  let nothing := if twoPhase || kind == JOB_REVERSAL then "nothing charged" else "nothing ran"
  if (isSettle kind || kind == JOB_PRINT_COPY) && (settleTarget job).isNone then
    .error ⟨CODE_BAD_PAYLOAD, s!"{kind} needs card_job_id (a positive integer) - nothing ran"⟩
  else if isSettle kind then .ok ()
  else if !known then .error ⟨CODE_UNSUPPORTED, unsupportedText kind⟩
  else if !cfg.libraryLoaded then
    .error ⟨CODE_TIM_UNAVAILABLE,
      s!"the TIM library is not loaded - the terminal was not contacted, {nothing}"⟩
  else if (jobSpec cfg job).isNone then
    let till := debugOption job.kasaId
    .error ⟨CODE_NO_TERMINAL, s!"till {till} has no card terminal (terminal_ip) - {nothing}"⟩
  else if twoPhase && (amountMinor job).isNone then
    .error ⟨CODE_BAD_AMOUNT, s!"{kind} amount must be a whole number of cents > 0 - nothing charged"⟩
  else if twoPhase && !currencyOk job then
    .error ⟨CODE_BAD_CURRENCY, "the terminal takes EUR only - nothing charged"⟩
  else if kind == JOB_REVERSAL && (reversalTarget job).isNone then
    .error ⟨CODE_BAD_PAYLOAD,
      "card.reversal needs trans_seq (an integer 0 ..= 2^31 - 1) and amount (whole cents > 0) - nothing charged"⟩
  else .ok ()

/-- The settle queue of a terminal. -/
def settleEndpoint (ip : String) : String := ip ++ "#settle"

/-- A terminal's own queue, or its settle queue. -/
def endpoint (cfg : TimConfig) (job : DeviceJob) : String :=
  let ip := ((jobSpec cfg job).map TerminalSpec.ip).getD ""
  if isSettle job.jobType ∧ ip ≠ "" then settleEndpoint ip else ip

/-- What `execute` returned. -/
def TimTask.outcome : TimTask → Option Outcome
  | twoPhase _ _ (.returned o) | settle _ _ (.returned o) | op _ (.returned o) => some o
  | _ => none

/-- What `reconcile` returned. -/
def TimTask.answer : TimTask → Option Reconciliation
  | reconcile _ (.answered a) => some a
  | _ => none

end DevBridge.Tim

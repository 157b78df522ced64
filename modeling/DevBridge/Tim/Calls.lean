import DevBridge.Tim.Ops

/-!
# The calls of a card job

A purchase or credit is one held session: its call waits for the terminal, runs
`run_purchase` and journals what it must.  A settle job hands its request to the call that
holds the payment, or is answered from the payment's row.  Every other job is one session.
-/

namespace DevBridge.Tim

/-! ### Texts -/

def unsupportedText (jobType : String) : String :=
  s!"the TIM card terminal does not run '{jobType}' - the terminal was not contacted, nothing ran"

def ROW_PRESENT_TEXT : String := "UNIQUE constraint failed: card_payments.job_id"

/-! ### Purchase and credit -/

/-- Where the call of a purchase or credit is. -/
inductive TwoPhasePc where
  | start
  /-- For the terminal's session lock. -/
  | waiting (spec : TerminalSpec) (req : PurchaseRequest)
  | running (spec : TerminalSpec) (req : PurchaseRequest) (pc : PurchasePc)
  /-- The end without an outcome is to be journaled. -/
  | ended (why : String)
  | returned (outcome : Outcome)
deriving DecidableEq

/-- What `run_purchase` gets in a state; with the settle job whose request it is. -/
def purchaseInput (cfg : TimConfig) (now : Time) (i : ℕ) (job : DeviceJob)
    (spec : TerminalSpec) (req : PurchaseRequest) (s : TimState) (pc : PurchasePc)
    (ev : TimEvent) : Option (PurchaseInput × TimState × Option DeviceJob) :=
  let queue := (s.vol.channels i).getD []
  match pc, ev with
  | .journaling _ base, .go =>
    match s.journal.cardContactOf now job.id spec.ip req.amountMinor base req.kind.txType none with
    | some (true, j) => some (.contacted (.ok ()), s.withJournal j, none)
    | some (false, _) => some (.contacted (.error .alreadyAsked), s, none)
    | none => some (.contacted (.error (.journal ROW_PRESENT_TEXT)), s, none)
  | .journaling _ _, .fails e => some (.contacted (.error (.journal e)), s, none)
  | .storing held, .go =>
    match s.journal.cardAuthorized now job.id (held.facts.transSeq.getD 0)
        (cardResult cfg.floatText "authorized" held.tid held.facts) with
    | (true, j) => some (.stored (.ok ()), s.withJournal j, none)
    | (false, _) => some (.stored (.error "no card row for the job"), s, none)
  | .storing _, .fails e => some (.stored (.error e), s, none)
  | .waiting _ _, .go =>
    match queue with
    | q :: rest => some (.received q.request, s.withChannel i (some rest), some q.job)
    | [] => if s.vol.holders job.id = some i then none else some (.disconnected, s, none)
  | .waiting _ _, .timedOut =>
    if queue = [] then
      some (.timedOut ((s.journal.cardPayment job.id).any CardPayment.authRefused), s, none)
    else none
  -- an unreadable refusal is none
  | .waiting _ _, .fails _ => if queue = [] then some (.timedOut false, s, none) else none
  | .draining _, .go =>
    match queue with
    | q :: rest => some (.received q.request, s.withChannel i (some rest), some q.job)
    | [] => some (.nothing, s, none)
  | .start, .go | .holding _, .go | .pausing _ _ _, .go | .leaving _, .go | .returning _, .go =>
    some (.go, s, none)
  | pc, .answer a =>
    (req.callOf pc).map fun call => (.answer a, s.heard spec.ip (some job.id) call a, none)
  | _, _ => none

/-- What `run_purchase` does. -/
def applyAct (ip : String) (jobId : ℤ) (settles : Option DeviceJob) (s : TimState) :
    PurchaseAct → TimState
  | .call c => s.send ip (some jobId) c settles
  | .decide _ => s
  | .reply waiter r => s.withReply waiter (some r)
  | .release => s.withHolder jobId none

/-- After `run_purchase`. -/
def afterPurchase (cfg : TimConfig) : PurchaseEnd → TwoPhasePc
  | .refused code text => .returned (.failed code text)
  | .committed facts tid => .returned (.done (cardResult cfg.floatText "committed" tid facts))
  | .rolledBack why => .returned (.failed CODE_ROLLED_BACK why)
  | .unknown why => .ended why

/-- One step of `run_purchase` in its call. -/
def runPurchase (cfg : TimConfig) (now : Time) (i : ℕ) (job : DeviceJob) (spec : TerminalSpec)
    (req : PurchaseRequest) (s : TimState) (pc : PurchasePc) (ev : TimEvent) :
    Option (TwoPhasePc × TimState) :=
  (purchaseInput cfg now i job spec req s pc ev).bind fun (input, s', settles) =>
    (req.step spec s.vol.instant pc input).map fun (pc', acts) =>
      let s'' := acts.foldl (applyAct spec.ip job.id settles) s'
      match pc' with
      -- the receiver of the channel and the session lock are dropped
      | .ended e => (afterPurchase cfg e, (s''.closeChannel i).lock spec.ip none)
      | pc' => (.running spec req pc', s'')

/-- What a purchase needs to know. -/
def purchaseRequest (cfg : TimConfig) (job : DeviceJob) (kind : TwoPhase) (amountMinor : ℤ)
    (spec : TerminalSpec) (storedMaxSeq : Option ℤ) : PurchaseRequest where
  jobId := job.id
  kind
  amountMinor
  deadline := cfg.deadline
  storedMaxSeq
  releaseWithin := spec.commitTimeoutS * 1000

/-- The first step of `two_phase`: the payment is held from here on. -/
def beginTwoPhase (cfg : TimConfig) (i : ℕ) (job : DeviceJob) (kind : TwoPhase)
    (storedMaxSeq : String → Option ℤ) (s : TimState) : TwoPhasePc × TimState :=
  match jobSpec cfg job, amountMinor job with
  | some spec, some amount =>
    let req := purchaseRequest cfg job kind amount spec (storedMaxSeq spec.ip)
    let s' := (s.withHolder job.id (some i)).withChannel i (some [])
    if cfg.libraryLoaded then (.waiting spec req, s')
    else
      (.returned (.failed CODE_TIM_UNAVAILABLE
        "the TIM library is not loaded - nothing charged"), s'.closeChannel i)
  | _, _ =>
    (.returned (.failed CODE_TIM_UNAVAILABLE
      "the purchase cannot reach a terminal - nothing charged"), s)

/-- One step of `two_phase`. -/
def twoPhaseStep (cfg : TimConfig) (now : Time) (i : ℕ) (job : DeviceJob) (kind : TwoPhase)
    (s : TimState) : TwoPhasePc → TimEvent → Option (TwoPhasePc × TimState)
  | .start, .go => some (beginTwoPhase cfg i job kind s.journal.cardLastSeq s)
  | .start, .fails _ => some (beginTwoPhase cfg i job kind (fun _ => none) s)
  | .waiting spec req, .go =>
    if s.vol.sessions spec.ip = none then
      some (.running spec req .start, s.lock spec.ip (some i))
    else none
  | .running spec req pc, ev => runPurchase cfg now i job spec req s pc ev
  | .ended why, .go =>
    some (.returned (.indeterminate why), s.withJournal (s.journal.cardEnded now job.id).2)
  | .ended why, .fails _ => some (.returned (.indeterminate why), s)
  | _, _ => none

/-! ### Commit and rollback -/

/-- Where the call of a settle job is. -/
inductive SettlePc where
  | start
  /-- The row of the payment is to be read; `again`: no session holds it. -/
  | row (target : ℤ) (again : Bool)
  /-- Its card row is to be read and compared. -/
  | card (target : ℤ) (again : Bool) (entry : JournalEntry)
  /-- The call that holds the payment is to be found. -/
  | holder (target : ℤ)
  | sending (target : ℤ) (channel : ℕ)
  | waiting (target : ℤ)
  | returned (outcome : Outcome)
deriving DecidableEq

def unknownPurchase (target : ℤ) (why : String) : Outcome :=
  .failed CODE_UNKNOWN_PURCHASE s!"card_job_id {target}: {why} - nothing ran"

/-- `settle_purchase`, the row of the payment: a `card.purchase` or `card.credit` of the
same till. -/
def settleRow (job : DeviceJob) (target : ℤ) : Option JournalEntry → Except Outcome JournalEntry
  | none => .error (unknownPurchase target "this bridge never received that card.purchase")
  | some entry =>
    if (TwoPhase.ofJob entry.job.jobType).isNone ∨ entry.job.kasaId ≠ job.kasaId then
      .error (unknownPurchase target "not a card.purchase / card.credit of this till")
    else .ok entry

/-- `settle_purchase`, its card row: the refusal of a job that contradicts the journaled
authorisation. -/
def settleCard (cfg : TimConfig) (job : DeviceJob) (card : Option CardPayment) :
    Option Outcome :=
  ((card.bind CardPayment.authResult).bind (settleMismatch cfg.jsonText job)).map fun problem =>
    .failed CODE_SETTLE_MISMATCH s!"{problem} - nothing ran"

/-- After both rows were read. -/
def settleChecked (op : SettleOp) (target : ℤ) (entry : JournalEntry) (again : Bool) :
    Option Outcome → SettlePc
  | some refusal => .returned refusal
  | none =>
    if again then .returned (settleOutcome op target (purchaseState entry)) else .holder target

/-- One step of `settle`. -/
def settleStep (cfg : TimConfig) (i : ℕ) (job : DeviceJob) (op : SettleOp) (s : TimState) :
    SettlePc → TimEvent → Option (SettlePc × TimState)
  | .start, .go =>
    match settleTarget job with
    | some target => some (.row target false, s)
    | none => some (.returned (.failed CODE_BAD_PAYLOAD "no card_job_id - nothing ran"), s)
  | .row target again, .go =>
    match settleRow job target (s.journal.get target) with
    | .ok entry => some (.card target again entry, s)
    | .error refusal => some (.returned refusal, s)
  | .row _ _, .fails e => some (.returned (.indeterminate s!"journal: {e}"), s)
  | .card target again entry, .go =>
    some (settleChecked op target entry again (settleCard cfg job (s.journal.cardPayment target)),
      s)
  -- an unreadable card row is none
  | .card target again entry, .fails _ =>
    some (settleChecked op target entry again (settleCard cfg job none), s)
  | .holder target, .go =>
    match s.vol.holders target with
    | some n => some (.sending target n, s)
    | none => some (.row target true, s)
  | .sending target n, .go =>
    match s.vol.channels n with
    | some queue => some (.waiting target, s.withChannel n (some (queue ++ [⟨⟨op, i⟩, job⟩])))
    | none => some (.row target true, s)
  | .waiting target, .go =>
    match s.vol.replies i with
    | some (some reply) => some (.returned (settleOutcome op target reply), s)
    | some none => some (.row target true, s)
    | none => none
  | _, _ => none

/-! ### The other jobs -/

/-- Where the call of another card job is. -/
inductive OpPc where
  | start
  /-- A receipt copy: the row of its payment is to be read, then the card row. -/
  | copyRow (spec : TerminalSpec) (target : ℤ)
  | copyCard (spec : TerminalSpec) (target : ℤ) (entry : JournalEntry)
  | session (x : Session)
  /-- A reversal is done: its `trans_seq` is to be journaled. -/
  | transacted (facts : TxFacts) (tid : Option String)
  /-- The end of a reversal without an outcome is to be journaled. -/
  | ended (why : String)
  /-- The outcome of a balance is to be journaled. -/
  | recording (row : Option ℤ) (outcome : Outcome)
  | printing (target transSeq : ℤ) (receipts : Receipts)
  | returned (outcome : Outcome)
deriving DecidableEq

/-- What did not happen, for the texts of a job. -/
def nothingText (jobType : String) : String :=
  if jobType = JOB_REVERSAL then "nothing reversed"
  else if jobType = JOB_PRINT_COPY then "nothing printed"
  else "nothing ran"

/-- `one_session`. -/
def oneSession (cfg : TimConfig) (job : DeviceJob) (spec : TerminalSpec) (errand : Errand) :
    OpPc :=
  if cfg.libraryLoaded then .session ⟨spec, errand, .waiting⟩
  else
    let nothing := nothingText job.jobType
    .returned (.failed CODE_TIM_UNAVAILABLE s!"the TIM library is not loaded - {nothing}")

/-- The first step of `reversal`, `terminal_op` or `print_copy`. -/
def beginOp (cfg : TimConfig) (now : Time) (job : DeviceJob)
    (storedMaxSeq : String → Option ℤ) : OpPc :=
  if job.jobType = JOB_REVERSAL then
    match jobSpec cfg job, reversalTarget job with
    | some spec, some (transSeq, amountMinor) =>
      oneSession cfg job spec (.reversal
        ⟨job.id, transSeq, amountMinor, payloadTid job, storedMaxSeq spec.ip⟩)
    | _, _ =>
      .returned (.failed CODE_TIM_UNAVAILABLE
        "the reversal cannot reach a terminal - nothing reversed")
  else if job.jobType = JOB_PRINT_COPY then
    match jobSpec cfg job, settleTarget job with
    | some spec, some target => .copyRow spec target
    | _, _ => .returned (.failed CODE_TIM_UNAVAILABLE "no terminal - nothing printed")
  else
    match TerminalOp.ofJob job.jobType with
    | some op =>
      match jobSpec cfg job with
      | some spec => oneSession cfg job spec (.op op job.id (cfg.localTime now).date)
      | none => .returned (.failed CODE_TIM_UNAVAILABLE "no terminal - nothing ran")
    | none => .returned (.failed CODE_UNSUPPORTED (unsupportedText job.jobType))

def copyRefused (target : ℤ) (why : String) : Outcome :=
  .failed CODE_UNKNOWN_PURCHASE s!"card_job_id {target}: {why} - nothing printed"

/-- `copy_target`, the row of the payment. -/
def copyRow (job : DeviceJob) (target : ℤ) : Option JournalEntry → Except Outcome JournalEntry
  | none => .error (copyRefused target "this bridge never received that card job")
  | some entry =>
    if ((TwoPhase.ofJob entry.job.jobType).isSome ∨ entry.job.jobType = JOB_REVERSAL) ∧
        entry.job.kasaId = job.kasaId then .ok entry
    else .error (copyRefused target "not a card payment / reversal of this till")

/-- `copy_target`, its card row, and the printer. -/
def copyCard (cfg : TimConfig) (job : DeviceJob) (spec : TerminalSpec) (target : ℤ)
    (entry : JournalEntry) (card : Option CardPayment) : OpPc :=
  match card.bind CardPayment.transSeq with
  | some seq =>
    if entry.state = .failed then
      .returned (copyRefused target s!"no terminal receipt for it (state {entry.state.asStr})")
    else if !cfg.hasPrinter then
      .returned (.failed CODE_NO_PRINTER
        "the till has no receipt printer configured - nothing printed")
    else oneSession cfg job spec (.copy job.id seq)
  | none =>
    .returned (copyRefused target s!"no terminal receipt for it (state {entry.state.asStr})")

/-- After the session of a job. -/
def afterSession (job : DeviceJob) (errand : Errand) : Except SessionFail ErrandEnd → OpPc
  | .error e => .returned (e.outcome (nothingText job.jobType))
  | .ok (.reversal (.done facts tid)) => .transacted facts tid
  | .ok (.reversal (.refused code text)) => .returned (.failed code text)
  | .ok (.reversal (.unknown why)) => .ended why
  | .ok (.op row outcome) => .recording row outcome
  | .ok (.copy (.error outcome)) => .returned outcome
  | .ok (.copy (.ok receipts)) =>
    match receipts.cardholder, errand with
    | some _, .copy _ transSeq => .printing ((settleTarget job).getD 0) transSeq receipts
    | _, _ =>
      .returned (.failed CODE_PRINT_FAILED
        "the terminal's copy carries no cardholder slip - nothing printed")
  | .ok _ => .returned (.indeterminate "the session did another errand")

/-- `journal_balance`. -/
def journalBalance (j : Journal) (row : Option ℤ) (outcome : Outcome) : Journal :=
  match row, outcome with
  | some id, .done result => (j.cardBalanceOutcome id "done" result).2
  | some id, .failed code text =>
    (j.cardBalanceOutcome id "failed" (.obj [("code", .str code), ("text", .str text)])).2
  | _, _ => j

/-- One step of `reversal`, `terminal_op` or `print_copy`. -/
def opTaskStep (cfg : TimConfig) (now : Time) (i : ℕ) (job : DeviceJob) (s : TimState) :
    OpPc → TimEvent → Option (OpPc × TimState)
  | .start, .go => some (beginOp cfg now job s.journal.cardLastSeq, s)
  | .start, .fails _ => some (beginOp cfg now job fun _ => none, s)
  | .copyRow spec target, .go =>
    match copyRow job target (s.journal.get target) with
    | .ok entry => some (.copyCard spec target entry, s)
    | .error refusal => some (.returned refusal, s)
  | .copyRow _ _, .fails e =>
    some (.returned (.failed CODE_BRIDGE_ERROR s!"journal: {e} - nothing printed"), s)
  | .copyCard spec target entry, .go =>
    some (copyCard cfg job spec target entry (s.journal.cardPayment target), s)
  | .copyCard spec target entry, .fails _ =>
    some (copyCard cfg job spec target entry none, s)
  | .session ⟨_, errand, .ended r⟩, .go => some (afterSession job errand r, s)
  | .session x, ev =>
    (x.step cfg now i (some job.id) ev s).map fun (x', s') => (.session x', s')
  | .transacted facts tid, .go =>
    let j := match facts.transSeq with
      | some seq => (s.journal.cardTransacted job.id seq).2
      | none => s.journal
    some (.returned (.done (cardResult cfg.floatText "reversed" tid facts)), s.withJournal j)
  | .transacted facts tid, .fails _ =>
    some (.returned (.done (cardResult cfg.floatText "reversed" tid facts)), s)
  | .ended why, .go =>
    some (.returned (.indeterminate why), s.withJournal (s.journal.cardEnded now job.id).2)
  | .ended why, .fails _ => some (.returned (.indeterminate why), s)
  | .recording row outcome, .go =>
    some (.returned outcome, s.withJournal (journalBalance s.journal row outcome))
  | .recording _ outcome, .fails _ => some (.returned outcome, s)
  | .printing target transSeq receipts, .printed (.ok _) =>
    some (.returned (.done (copyResult target transSeq receipts)), s)
  | .printing _ _ _, .printed (.error e) =>
    some (.returned (.failed CODE_PRINT_FAILED s!"the receipt printer refused the copy: {e}"), s)
  | _, _ => none

end DevBridge.Tim

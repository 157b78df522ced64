import DevBridge.Tim.Purchase

/-!
# The answers to the jobs of one session

The results of the shift, the day closing and the receipt copy, what a failed session means
for its job, and when a reconcile may ask the terminal.
-/

namespace DevBridge.Tim

/-! ### Results -/

def receiptsJson (receipts : Receipts) : Json :=
  .obj [("cardholder", orNull .str receipts.cardholder),
    ("merchant", orNull .str receipts.merchant)]

/-- The EUR sum over every brand: how many, and the amount in cents. -/
def eurTotal (counters : Counters) : ℤ × ℤ :=
  let totals := (counters.brands.flatMap BrandCounter.totals).filter fun t =>
    t.currencyEur == some true
  ((totals.map fun t => t.count.getD 0).sum, (totals.map fun t => t.amountMinor.getD 0).sum)

section Printed

variable (floatText : ℚ → String)

def detailJson (d : TrxDetail) : Json :=
  .obj [("amount", orNull (euros floatText) d.amountMinor), ("count", orNull .ofInt d.count),
    ("transaction_type", orNull (fun t => .str (transactionTypeName t)) d.transactionType)]

def totalJson (t : Total) : Json :=
  .obj [("amount", orNull (euros floatText) t.amountMinor), ("count", orNull .ofInt t.count),
    ("currency", if t.currencyEur = some true then .str "EUR" else .null),
    ("details", .arr (t.details.map (detailJson floatText)))]

/-- The brands as Odoo stores them. -/
def brandsJson (counters : Counters) : Json :=
  .arr (counters.brands.map fun b =>
    .obj [("acq_id", orNull .ofInt b.acqId), ("brand_name", orNull .str b.brandName),
      ("count", orNull .ofInt b.count), ("totals", .arr (b.totals.map (totalJson floatText)))])

/-- The sequence, the brands and the EUR total. -/
def countersFields : Option Counters → Json × Json × Json
  | some c =>
    let total := eurTotal c
    (orNull .ofInt c.seqCounter, brandsJson floatText c,
      .obj [("amount", euros floatText total.2), ("count", .ofInt total.1),
        ("currency", .str "EUR")])
  | none => (.null, .arr [], .null)

/-- The result of a day closing. -/
def balanceResult (tid : Option String) (report : BalanceReport) : Json :=
  let (period, brands, total) := countersFields floatText report.counters
  .obj [("brands", brands), ("period", period), ("receipts", receiptsJson report.receipts),
    ("state", .str "closed"), ("terminal", .obj [("tid", orNull .str tid)]), ("total", total)]

/-- The result of an opened or closed shift. -/
def shiftResult (state : String) (tid : Option String) (report : ShiftReport) : Json :=
  let (shift, brands, total) := countersFields floatText report.counters
  .obj [("act_seq_counter", orNull .ofInt report.actSeqCounter), ("brands", brands),
    ("receipts", receiptsJson report.receipts), ("shift", shift), ("state", .str state),
    ("terminal", .obj [("tid", orNull .str tid)]), ("total", total)]

end Printed

/-- The result of a printed receipt copy. -/
def copyResult (cardJobId transSeq : ℤ) (receipts : Receipts) : Json :=
  .obj [("card_job_id", .ofInt cardJobId), ("receipts", receiptsJson receipts),
    ("state", .str "printed"), ("trans_seq", .ofInt transSeq)]

/-- `value[field] = v` of an object, whose keys are sorted. -/
def withField (field : String) (v : Json) : Json → Json
  | .obj fields =>
    .obj (fields.filter (fun f => decide (f.1 < field)) ++ (field, v) ::
      fields.filter fun f => decide (field < f.1))
  | other => other

/-- A result that the terminal's records gave. -/
def reconciled (result : Json) : Json := withField "reconciled" (.bool true) result

/-! ### Failed sessions -/

/-- Why a session failed. -/
inductive SessionError where
  | tim (e : TimError)
  /-- The terminal at this address is not the till's. -/
  | wrongTerminal (expected : String) (reported : Option String)
deriving DecidableEq, Repr

def SessionError.toText : SessionError → String
  | tim e => e.toText
  | wrongTerminal expected reported =>
    let id := reported.getD "(none)"
    s!"terminal reported id {id} but the till expects {expected}"

/-- Why a session did not reach its call: nothing was sent. -/
inductive SessionFail where
  | unreachable (e : TimError)
  /-- Login, terminal id, the terminal object or the wrong terminal. -/
  | refused (e : SessionError)
deriving DecidableEq, Repr

namespace SessionFail

/-- The job's failure. -/
def outcome (nothing : String) : SessionFail → Outcome
  | unreachable e =>
    .failed CODE_TERMINAL_UNREACHABLE s!"the terminal could not be reached: {e.toText} - {nothing}"
  | refused (.wrongTerminal expected reported) =>
    let text := (SessionError.wrongTerminal expected reported).toText
    .failed CODE_WRONG_TERMINAL s!"{text} - {nothing}"
  | refused (.tim e) => .failed CODE_TERMINAL_ERROR s!"{e.toText} - {nothing}"

/-- The same as an error of `read_last`. -/
def error : SessionFail → SessionError
  | unreachable e => .tim e
  | refused e => e

end SessionFail

/-! ### Shift and balance -/

/-- The terminal operation of a shift or balance job. -/
inductive TerminalOp where
  | activate
  | deactivate
  | balance
deriving DecidableEq, Repr

namespace TerminalOp

def ofJob (jobType : String) : Option TerminalOp :=
  if jobType = JOB_ACTIVATE then some activate
  else if jobType = JOB_DEACTIVATE then some deactivate
  else if jobType = JOB_BALANCE then some balance
  else none

/-- `{:?}`. -/
def toText : TerminalOp → String
  | activate => "Activate"
  | deactivate => "Deactivate"
  | balance => "Balance"

def call : TerminalOp → TerminalCall
  | activate => .activate
  | deactivate => .deactivate
  | balance => .balance

/-- The job result of an answer; `none`: not an answer to this call. -/
def result (floatText : ℚ → String) (tid : Option String) :
    TerminalOp → CallAnswer → Option (Except TimError Json)
  | _, .failed e => some (.error e)
  | activate, .shift r => some (.ok (shiftResult floatText "activated" tid r))
  | deactivate, .shift r => some (.ok (shiftResult floatText "deactivated" tid r))
  | balance, .balance r => some (.ok (balanceResult floatText tid r))
  | _, _ => none

/-- `op_error`: a code in which the terminal says that it did not run it is `failed`. -/
def error (op : TerminalOp) (e : TimError) : Outcome :=
  match classifyTransactionError e.code with
  | .nothingCharged code =>
    .failed code s!"the terminal refused the {op.toText}: {e.toText} - nothing ran"
  | .unknown =>
    .indeterminate s!"{op.toText} failed after the terminal was asked: {e.toText} - reconciled"

end TerminalOp

/-! ### Settle jobs -/

/-- Whether a job runs on the settle queue. -/
def isSettle (jobType : String) : Bool := jobType == JOB_COMMIT || jobType == JOB_ROLLBACK

/-- The answer of a settle job, given the purchase's state. -/
def settleOutcome (op : SettleOp) (cardJobId : ℤ) (reply : SettleReply) : Outcome :=
  match op, reply with
  | .commit, .committed =>
    .done (.obj [("card_job_id", .ofInt cardJobId), ("state", .str "committed")])
  | .commit, .rolledBack why =>
    .failed CODE_ALREADY_ROLLED_BACK
      s!"card.purchase {cardJobId} is not charged ({why}) - nothing committed"
  | .rollback, .rolledBack why =>
    .done (.obj [("card_job_id", .ofInt cardJobId), ("detail", .str why),
      ("state", .str "rolled_back")])
  | .rollback, .committed =>
    .failed CODE_ALREADY_COMMITTED
      s!"card.purchase {cardJobId} is already committed - nothing rolled back (a storno is card.reversal)"
  | _, .unknown why =>
    .indeterminate s!"the outcome of card.purchase {cardJobId} is not known yet: {why}"

/-- What the journal says about a purchase when no session holds it. -/
def purchaseState (entry : JournalEntry) : SettleReply :=
  match entry.state with
  | .done => .committed
  | .failed =>
    let code := entry.errorCode.getD "failed"
    let text := entry.errorText.getD ""
    .rolledBack s!"{code}: {text}"
  | other => .unknown s!"card.purchase is {other.asStr}"

/-- The answer of a reconcile that is an outcome. -/
def asReconciliation : Outcome → Reconciliation
  | .done result => .done result
  | .failed code text => .failed code text
  | .indeterminate why => .stillUnknown why

/-! ### When a reconcile may ask -/

/-- Added to the terminal's commit timeout (seconds). -/
def SETTLE_MARGIN_S : ℕ := 10

/-- The moments after which a held payment can no longer be undecided on the terminal. -/
def settleMoments (card : CardPayment) (started : Time) : List Time :=
  card.contactAt :: (card.authorizedAt.toList ++ card.endedAt.toList) ++ [started]

/-- The latest of the moments, the commit timeout and the margin. -/
def settleAfter (moments : List Time) (commitTimeoutS : ℕ) : Option Time :=
  moments.max?.map fun latest => latest + (commitTimeoutS + SETTLE_MARGIN_S) * 10 ^ 9

/-- Whether a reconcile must still wait. -/
def settlePending (now : Time) (after : Option Time) : Bool :=
  after.any fun after => decide (now < after)

end DevBridge.Tim

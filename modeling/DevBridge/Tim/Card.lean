import DevBridge.Journal.Ops

/-!
# The decisions about card transactions

What the result code of a transaction means, what the terminal's last transaction says about
one of ours, which settle job fits an authorisation, and the job results.  Nothing here talks
to a terminal.

Amounts are cents; a JSON amount is a double in euros.  How the JSON library prints a value
and a double is a parameter: only texts depend on it.
-/

namespace DevBridge.Tim

/-! ### Job types and codes -/

def JOB_PURCHASE : String := "card.purchase"
def JOB_COMMIT : String := "card.commit"
def JOB_ROLLBACK : String := "card.rollback"
def JOB_CREDIT : String := "card.credit"
def JOB_REVERSAL : String := "card.reversal"
def JOB_ACTIVATE : String := "card.activate"
def JOB_DEACTIVATE : String := "card.deactivate"
def JOB_BALANCE : String := "card.balance"
def JOB_PRINT_COPY : String := "card.print_copy"

def CODE_TERMINAL_UNREACHABLE : String := "terminal_unreachable"
def CODE_TERMINAL_ERROR : String := "terminal_error"
def CODE_WRONG_TERMINAL : String := "wrong_terminal"
def CODE_DECLINED : String := "declined"
def CODE_CANCELLED : String := "cancelled"
def CODE_CARD_ERROR : String := "card_error"
def CODE_TERMINAL_BUSY : String := "terminal_busy"
def CODE_ROLLED_BACK : String := "rolled_back"
def CODE_NOT_EXECUTED : String := "not_executed"
def CODE_NO_TERMINAL : String := "no_terminal"
def CODE_BAD_CURRENCY : String := "bad_currency"
def CODE_BAD_PAYLOAD : String := "bad_payload"
def CODE_TIM_UNAVAILABLE : String := "tim_unavailable"
def CODE_BRIDGE_ERROR : String := "bridge_error"
def CODE_ALREADY_ROLLED_BACK : String := "already_rolled_back"
def CODE_ALREADY_COMMITTED : String := "already_committed"
def CODE_UNKNOWN_PURCHASE : String := "unknown_purchase"
def CODE_SETTLE_MISMATCH : String := "settle_mismatch"
def CODE_PERIOD_CLOSED : String := "period_closed"
def CODE_NOT_LAST_TRANSACTION : String := "not_last_transaction"
def CODE_NO_PRINTER : String := "no_printer"
def CODE_PRINT_FAILED : String := "print_failed"
def CODE_PRINT_UNKNOWN : String := "print_unknown"
def CODE_UNKNOWN_REFERENCE : String := "unknown_reference"
def CODE_ALREADY_REVERSED : String := "already_reversed"
def CODE_REVERSAL_UNRESOLVED : String := "reversal_unresolved"
def CODE_NOT_REVERSED : String := "not_reversed"

/-- The terminal cannot reverse this `trans_seq`. -/
def RC_UNKNOWN_REFERENCE : ℤ := 67
/-- The commit came after the terminal's own commit timeout: it reversed the authorisation. -/
def RC_COMMIT_TIMEOUT : ℤ := 89
/-- A rollback with nothing pending: the terminal does not wait for a commit. -/
def RC_NOTHING_PENDING : ℤ := 68

def TRANSACTION_TYPE_PURCHASE : ℤ := 1
def TRANSACTION_TYPE_CREDIT : ℤ := 2
def TRANSACTION_TYPE_REVERSAL : ℤ := 3

def OUTCOME_SUCCESSFUL : ℤ := 1
def OUTCOME_FAILED : ℤ := 2

/-! ### Transactions -/

/-- A card transaction that is authorised first and then committed or rolled back. -/
inductive TwoPhase where
  | purchase
  | credit
deriving DecidableEq, Repr

namespace TwoPhase

/-- The job type that runs it. -/
def ofJob (jobType : String) : Option TwoPhase :=
  if jobType = JOB_PURCHASE then some purchase
  else if jobType = JOB_CREDIT then some credit
  else none

def txType : TwoPhase → ℤ
  | purchase => TRANSACTION_TYPE_PURCHASE
  | credit => TRANSACTION_TYPE_CREDIT

/-- `{:?}`. -/
def toText : TwoPhase → String
  | purchase => "Purchase"
  | credit => "Credit"

end TwoPhase

def transactionTypeName (txType : ℤ) : String :=
  if txType = TRANSACTION_TYPE_PURCHASE then "purchase"
  else if txType = TRANSACTION_TYPE_CREDIT then "credit"
  else if txType = TRANSACTION_TYPE_REVERSAL then "reversal"
  else s!"type_{txType}"

/-- A failed TIM call: its function and its result code. -/
structure TimError where
  call : String
  code : ℤ
deriving DecidableEq, Repr

namespace TimError

/-- Name of the result code. -/
def codeName (e : TimError) : String :=
  if e.code = 0 then "undefined"
  else if e.code = 1 then "ok"
  else if e.code = 2 then "api_cancel_ecr"
  else if e.code = 3 then "api_invalid_answer"
  else if e.code = 5 then "api_function_disallowed"
  else if e.code = 7 then "api_connect_fail_server"
  else if e.code = 8 then "api_connect_fail_terminal"
  else if e.code = 9 then "api_connection_lost_server"
  else if e.code = 10 then "api_connection_lost_terminal"
  else if e.code = 11 then "ethernet_disconnected"
  else if e.code = 13 then "api_timeout_server"
  else if e.code = 14 then "api_timeout_terminal"
  else if e.code = 139 then "invalid_argument"
  else if e.code = 140 then "out_of_memory"
  else "other"

def toText (e : TimError) : String := s!"{e.call} failed: rc {e.code} ({e.codeName})"

end TimError

/-- What a transaction response says: the fields the bridge keeps. -/
structure TxFacts where
  transactionType : Option ℤ
  amountMinor : Option ℤ
  /-- `some true`: the amount is in EUR. -/
  currencyEur : Option Bool
  transSeq : Option ℤ
  transRef : Option ℤ
  trmTransRef : Option String
  authCode : Option String
  posEntryMode : Option ℤ
  cvm : Option ℤ
  brandName : Option String
  cardNumberPrintable : Option String
  merchantReceipt : Option String
  cardholderReceipt : Option String
deriving DecidableEq, Repr

/-- The terminal's latest transaction. -/
structure LastTransaction where
  /-- 0: none yet. -/
  transactionType : ℤ
  outcome : ℤ
  facts : Option TxFacts
deriving DecidableEq, Repr

/-- What a failed transaction means for the money. -/
inductive TxFailure where
  /-- The terminal answered that the payment did not happen. -/
  | nothingCharged (code : String)
  /-- Anything else: reconciled, never retried. -/
  | unknown
deriving DecidableEq, Repr

/-- `lo..=hi` of a pattern. -/
def within (lo hi rc : ℤ) : Bool := decide (lo ≤ rc ∧ rc ≤ hi)

/-- Classify the result code of a failed transaction: only codes in which the terminal says
that the payment failed are "nothing charged". -/
def classifyTransactionError (rc : ℤ) : TxFailure :=
  if rc = 2 || within 53 55 rc then .nothingCharged CODE_CANCELLED
  else if within 32 48 rc || rc = 74 || rc = 76 then .nothingCharged CODE_CARD_ERROR
  else if rc = 75 || within 77 88 rc || within 91 93 rc || within 97 118 rc ||
      within 123 138 rc || rc = 152 || within 154 156 rc || within 158 161 rc then
    .nothingCharged CODE_DECLINED
  else if rc = 69 || rc = 70 || rc = 162 then .nothingCharged CODE_TERMINAL_BUSY
  else .unknown

/-- The result codes with which the terminal says that a payment did not happen, as ranges: 89,
the timeout of a commit, is between two of them and in none. -/
def nothingChargedCodes : List (ℤ × ℤ) :=
  [(2, 2), (32, 48), (53, 55), (69, 70), (74, 88), (91, 93), (97, 118), (123, 138), (152, 152),
    (154, 156), (158, 162)]

lemma classifyTransactionError_iff (rc : ℤ) :
    (∃ code, classifyTransactionError rc = .nothingCharged code) ↔
      ∃ r ∈ nothingChargedCodes, r.1 ≤ rc ∧ rc ≤ r.2 := by
  have hcodes : (∃ r ∈ nothingChargedCodes, r.1 ≤ rc ∧ rc ≤ r.2) ↔
      rc = 2 ∨ (32 ≤ rc ∧ rc ≤ 48) ∨ (53 ≤ rc ∧ rc ≤ 55) ∨ (69 ≤ rc ∧ rc ≤ 70) ∨
        (74 ≤ rc ∧ rc ≤ 88) ∨ (91 ≤ rc ∧ rc ≤ 93) ∨ (97 ≤ rc ∧ rc ≤ 118) ∨
        (123 ≤ rc ∧ rc ≤ 138) ∨ rc = 152 ∨ (154 ≤ rc ∧ rc ≤ 156) ∨ (158 ≤ rc ∧ rc ≤ 162) := by
    simp only [nothingChargedCodes, List.mem_cons, List.not_mem_nil, or_false, exists_eq_or_imp,
      exists_eq_left]
    omega
  rw [hcodes]
  unfold classifyTransactionError
  simp only [within, Bool.or_eq_true, decide_eq_true_eq]
  split
  · rename_i h
    exact iff_of_true ⟨_, rfl⟩ (by omega)
  split
  · rename_i h
    exact iff_of_true ⟨_, rfl⟩ (by omega)
  split
  · rename_i h
    exact iff_of_true ⟨_, rfl⟩ (by omega)
  split
  · rename_i h
    exact iff_of_true ⟨_, rfl⟩ (by omega)
  · refine iff_of_false (by simp) ?_
    omega

/-- A failed reversal: only a balance that is journaled after the payment proves that the
period is closed. -/
def classifyReversalError (rc : ℤ) (periodClosedProven : Bool) : TxFailure :=
  if rc = RC_UNKNOWN_REFERENCE then
    if periodClosedProven then .nothingCharged CODE_PERIOD_CLOSED
    else .nothingCharged CODE_UNKNOWN_REFERENCE
  else classifyTransactionError rc

/-! ### Payloads -/

/-- `as i64` of a double: the integers beyond 64 bits saturate. -/
def saturate (n : ℤ) : ℤ := max (-2 ^ 63) (min (2 ^ 63 - 1) n)

/-- `(amount * 100.0).round()`. -/
def roundedCents (amount : ℚ) : ℤ := F64.roundAway (F64.mul amount 100)

/-- The amount of a `card.purchase` in cents: a whole number of cents > 0. -/
def amountMinor (job : DeviceJob) : Option ℤ :=
  ((job.payload.get "amount").bind Json.asF64).bind fun amount =>
    let cents := roundedCents amount
    if F64.div cents 100 = amount ∧ 1 ≤ cents ∧ cents < 10 ^ 13 then some cents else none

/-- `trans_seq` and the amount in cents of a `card.reversal`. -/
def reversalTarget (job : DeviceJob) : Option (ℤ × ℤ) :=
  (((job.payload.get "trans_seq").bind Json.asI64).filter fun s =>
    decide (0 ≤ s ∧ s < 2 ^ 31)).bind fun seq => (amountMinor job).map fun amount => (seq, amount)

/-- The terminal id a reversal names. -/
def payloadTid (job : DeviceJob) : Option String := (job.payload.get "tid").bind Json.asStr

/-- A purchase's currency: absent or EUR. -/
def currencyOk (job : DeviceJob) : Bool :=
  match job.payload.get "currency" with
  | none | some .null => true
  | some (.str c) => c == "EUR"
  | some _ => false

/-- `card_job_id` of a `card.commit` / `card.rollback` (a positive integer). -/
def settleTarget (job : DeviceJob) : Option ℤ :=
  ((job.payload.get "card_job_id").bind Json.asI64).filter fun id => decide (0 < id)

/-- A field of a payload, unless it is absent or null. -/
def named (payload : Json) (field : String) : Option Json :=
  (payload.get field).filter fun v => !v.isNull

/-- The cents of a JSON amount. -/
def centsOf (v : Json) : Option ℤ := v.asF64.map fun a => saturate (roundedCents a)

/-- A `trans_seq` or amount a settle job names that contradicts the stored authorisation. -/
def settleMismatch (jsonText : Json → String) (job : DeviceJob) (authorised : Json) :
    Option String :=
  (authorised.get "transaction").bind fun tx =>
    let seqProblem : Option String := (named job.payload "trans_seq").bind fun seq =>
      if seq.asI64 = (tx.get "trans_seq").bind Json.asI64 then none
      else
        let stored := (tx.get "trans_seq").getD .null
        some s!"trans_seq {jsonText seq} is not the authorised {jsonText stored}"
    let amountProblem : Option String := (named job.payload "amount").bind fun amount =>
      if centsOf amount = (tx.get "amount").bind centsOf then none
      else
        let stored := (tx.get "amount").getD .null
        some s!"amount {jsonText amount} is not the authorised {jsonText stored}"
    seqProblem <|> amountProblem

/-! ### Results -/

/-- A printable card number with only its last four digits. -/
def maskCardNumber (printable : String) : String :=
  let digits := (printable.toList.filter Char.isDigit).length
  let step (acc : ℕ × List Char) (c : Char) : ℕ × List Char :=
    if c.isDigit then
      (acc.1 + 1, (if acc.1 + 1 + 4 > digits then c else 'X') :: acc.2)
    else (acc.1, c :: acc.2)
  String.ofList (printable.toList.foldl step (0, [])).2.reverse

/-- The last four digits of a printable card number. -/
def last4 (printable : String) : Option String :=
  let digits := printable.toList.filter Char.isDigit
  if 4 ≤ digits.length then some (String.ofList (digits.drop (digits.length - 4))) else none

def cvmName (cvm : Option ℤ) : String :=
  if cvm = some 1 then "pin"
  else if cvm = some 2 then "pin_signature"
  else if cvm = some 3 then "signature"
  else if cvm = some 4 then "on_device"
  else if cvm = some 5 then "no_cvm"
  else if cvm = some 6 then "other"
  else "undefined"

/-- An optional value, `null` if it is absent. -/
def orNull {α : Type} (json : α → Json) : Option α → Json
  | some v => json v
  | none => .null

/-- `{:?}` of an optional integer. -/
def debugOption : Option ℤ → String
  | some n => s!"Some({n})"
  | none => "None"

/-- `m as f64 / 100.0`. -/
def euros (floatText : ℚ → String) (minor : ℤ) : Json :=
  let value := F64.div (F64.ofInt minor) 100
  .num (.float value (floatText value))

/-- The job result of an authorised, committed or reversed payment. -/
def cardResult (floatText : ℚ → String) (state : String) (tid : Option String)
    (facts : TxFacts) : Json :=
  .obj [
    ("card", .obj [
      ("brand_name", orNull .str facts.brandName),
      ("card_number_printable", orNull .str (facts.cardNumberPrintable.map maskCardNumber)),
      ("last4", orNull .str (facts.cardNumberPrintable.bind last4))]),
    ("receipts", .obj [
      ("cardholder", orNull .str facts.cardholderReceipt),
      ("merchant", orNull .str facts.merchantReceipt)]),
    ("state", .str state),
    ("terminal", .obj [("tid", orNull .str tid)]),
    ("transaction", .obj [
      ("amount", orNull (euros floatText) facts.amountMinor),
      ("auth_code", orNull .str facts.authCode),
      ("currency", if facts.currencyEur = some true then .str "EUR" else .null),
      ("cvm", .str (cvmName facts.cvm)),
      ("pos_entry_mode", orNull (fun m => .str (toString m)) facts.posEntryMode),
      ("trans_ref", orNull (fun r => .str (toString r)) facts.transRef),
      ("trans_seq", orNull .ofInt facts.transSeq),
      ("trm_trans_ref", orNull .str facts.trmTransRef),
      ("type", orNull (fun t => .str (transactionTypeName t)) facts.transactionType)])]

/-- Why an authorisation cannot be kept: it must be rolled back at once. -/
def authorisationProblem (facts : TxFacts) (amountMinor : ℤ) : Option String :=
  if facts.transSeq.isNone then some "the terminal answered without a trans_seq"
  else if facts.amountMinor ≠ some amountMinor then
    some s!"the terminal authorised {debugOption facts.amountMinor} cents, the job asked {amountMinor}"
  else if facts.currencyEur ≠ some true then
    some "the terminal authorised another currency than EUR"
  else none

/-! ### The correlation with the terminal's last transaction -/

/-- The baseline of a purchase: the terminal's last `trans_seq` before it, else the highest
one stored for this terminal. -/
def baseline (last : Option LastTransaction) (storedMax : Option ℤ) : Option ℤ :=
  match last with
  | some l =>
    if l.transactionType = 0 ∧ l.facts.isNone then some (storedMax.getD 0)
    else (l.facts.bind TxFacts.transSeq) <|> storedMax
  | none => storedMax

/-- What the terminal's last transaction says about our payment. -/
inductive Correlation where
  /-- Ours, and the money was taken. -/
  | charged (facts : TxFacts)
  /-- Ours, and it failed: no money. -/
  | notCharged
  /-- Cannot be proven either way: left for a person. -/
  | undecidable (why : String)
deriving DecidableEq, Repr

/-- What the journal knows about the payment that is reconciled. -/
structure Ours where
  baseline : Option ℤ
  amountMinor : ℤ
  /-- Its own `trans_seq`, when the authorisation was journaled. -/
  transSeq : Option ℤ
  txType : ℤ
  /-- Another payment was sent to the same terminal after it. -/
  laterPayment : Bool
deriving DecidableEq, Repr

/-- Ours is a transaction of its type and amount with a `trans_seq` above the baseline
(exactly the journaled one when the authorisation was stored), and no later payment on that
terminal.  Anything else is never guessed. -/
def correlate (ours : Ours) (last : LastTransaction) : Correlation :=
  if ours.laterPayment then
    .undecidable "another payment ran on this terminal after it - its last transaction cannot be proven to be this one"
  else
    match ours.baseline, last.facts with
    | none, _ => .undecidable "the terminal's trans_seq before this payment is unknown"
    | some _, none =>
      .undecidable
        s!"the terminal's last transaction (type {last.transactionType}, outcome {last.outcome}) carries no trans_seq"
    | some baseline, some facts =>
      let seqOk : Bool := match ours.transSeq with
        | some expected => decide (facts.transSeq = some expected)
        | none => facts.transSeq.any fun s => decide (baseline < s)
      if last.transactionType = ours.txType ∧ seqOk ∧
          facts.amountMinor = some ours.amountMinor then
        if last.outcome = OUTCOME_SUCCESSFUL then .charged facts
        else if last.outcome = OUTCOME_FAILED then .notCharged
        else .undecidable s!"the terminal reports outcome {last.outcome} for this payment"
      else
        .undecidable
          s!"the terminal's last transaction (type {last.transactionType}, trans_seq {debugOption facts.transSeq}, {debugOption facts.amountMinor} cents) is not this payment (after trans_seq {baseline}, authorised as {debugOption ours.transSeq}, {ours.amountMinor} cents)"

end DevBridge.Tim

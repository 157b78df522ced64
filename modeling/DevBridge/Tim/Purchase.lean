import DevBridge.Tim.Card
import DevBridge.Lib.Transition

/-!
# The held session of a purchase

`run_purchase` as a machine: between two calls of the terminal, two calls of its hooks or two
looks at its settle channel it only computes, so a state says what it waits for and an input
is what it gets.  A step gives the state after it and what it does meanwhile.

The machine knows nothing of the journal, the holders or the channel: its inputs are their
answers.  Time is a monotone clock in milliseconds.
-/

namespace DevBridge.Tim

/-- How often a held authorisation checks whether Odoo refused it. -/
def REFUSAL_POLL : ℕ := 500
/-- Between two release rollbacks of a session whose outcome is unknown. -/
def RELEASE_RETRY : ℕ := 2000

/-- One till's terminal. -/
structure TerminalSpec where
  kasaId : ℤ
  ip : String
  /-- The terminal id the till expects. -/
  expectedTid : Option String
  commitTimeoutS : ℕ
deriving DecidableEq, Repr

/-- What the purchase needs to know. -/
structure PurchaseRequest where
  jobId : ℤ
  kind : TwoPhase
  amountMinor : ℤ
  /-- Rollback this long after the authorisation without a decision. -/
  deadline : ℕ
  /-- The highest `trans_seq` stored for this terminal. -/
  storedMaxSeq : Option ℤ
  /-- After an unknown end the session is released with rollbacks for at most this long. -/
  releaseWithin : ℕ
deriving DecidableEq, Repr

/-! ### The terminal -/

/-- Sums of one currency and transaction type in a counter of the terminal. -/
structure TrxDetail where
  transactionType : Option ℤ
  count : Option ℤ
  amountMinor : Option ℤ
deriving DecidableEq, Repr

/-- One currency total of a brand. -/
structure Total where
  currencyEur : Option Bool
  count : Option ℤ
  amountMinor : Option ℤ
  details : List TrxDetail
deriving DecidableEq, Repr

/-- The counters of one brand. -/
structure BrandCounter where
  brandName : Option String
  acqId : Option ℤ
  count : Option ℤ
  totals : List Total
deriving DecidableEq, Repr

/-- The period or shift sequence and the brands. -/
structure Counters where
  seqCounter : Option ℤ
  brands : List BrandCounter
deriving DecidableEq, Repr

/-- The two slips of a terminal answer. -/
structure Receipts where
  merchant : Option String
  cardholder : Option String
deriving DecidableEq, Repr

/-- What opening or closing the shift answers. -/
structure ShiftReport where
  actSeqCounter : Option ℤ
  counters : Option Counters
  receipts : Receipts
deriving DecidableEq, Repr

/-- What the day closing answers. -/
structure BalanceReport where
  counters : Option Counters
  receipts : Receipts
deriving DecidableEq, Repr

/-- A call of the terminal. -/
inductive TerminalCall where
  /-- The terminal object: no contact yet. -/
  | create
  | connect
  | login
  | terminalId
  | lastTransaction
  /-- The authorisation of an amount in cents. -/
  | transaction (kind : TwoPhase) (amountMinor : ℤ)
  | commit
  | rollback
  | reversal (transSeq : ℤ)
  | activate
  | deactivate
  | balance
  | reprint
  | logout
  | disconnect
deriving DecidableEq, Repr

/-- What a call of the terminal gave. -/
inductive CallAnswer where
  | done
  | failed (e : TimError)
  | tid (tid : Option String)
  | last (last : LastTransaction)
  | facts (facts : TxFacts)
  | shift (report : ShiftReport)
  | balance (report : BalanceReport)
  | receipts (receipts : Receipts)
deriving DecidableEq, Repr

/-! ### The hooks, the settle requests and the end -/

/-- Why the contact could not be journaled: the transaction is not sent. -/
inductive ContactRefusal where
  /-- The terminal was already asked for this job. -/
  | alreadyAsked
  | journal (why : String)
deriving DecidableEq, Repr

/-- A decision for a held payment. -/
inductive SettleOp where
  | commit
  | rollback
deriving DecidableEq, Repr

/-- The payment's state after a settle request. -/
inductive SettleReply where
  | committed
  | rolledBack (why : String)
  | unknown (why : String)
deriving DecidableEq, Repr

/-- A settle request, with the call that waits for its reply. -/
structure SettleRequest where
  op : SettleOp
  waiter : ℕ
deriving DecidableEq, Repr

/-- How a purchase ended. -/
inductive PurchaseEnd where
  /-- No money was taken; nothing was authorised. -/
  | refused (code text : String)
  | committed (facts : TxFacts) (tid : Option String)
  | rolledBack (why : String)
  /-- Unknown whether money was taken. -/
  | unknown (why : String)
deriving DecidableEq, Repr

/-- The answer to a settle request. -/
def PurchaseEnd.settleReply : PurchaseEnd → SettleReply
  | committed _ _ => .committed
  | rolledBack why => .rolledBack why
  | refused code text => .rolledBack s!"{code}: {text}"
  | unknown why => .unknown why

/-- Only a commit is answered as one. -/
lemma settleReply_eq_committed_iff {e : PurchaseEnd} :
    e.settleReply = .committed ↔ ∃ facts tid, e = .committed facts tid := by
  cases e <;> simp [PurchaseEnd.settleReply]

/-- A payment that was refused is answered like one that was rolled back. -/
lemma settleReply_eq_rolledBack_iff {e : PurchaseEnd} {text : String} :
    e.settleReply = .rolledBack text ↔ e = .rolledBack text ∨
      ∃ code why, e = .refused code why ∧ text = s!"{code}: {why}" := by
  cases e <;> simp [PurchaseEnd.settleReply, eq_comm]

/-- An authorisation that waits for its decision. -/
structure Held where
  facts : TxFacts
  tid : Option String
  authorisedAt : ℕ
deriving DecidableEq, Repr

/-! ### The machine -/

/-- What `run_purchase` waits for. -/
inductive PurchasePc where
  | start
  | creating
  | connecting
  | loggingIn
  | readingId
  | readingLast (tid : Option String)
  /-- The contact is journaled. -/
  | journaling (tid : Option String) (base : Option ℤ)
  | transacting (tid : Option String)
  /-- The authorisation is journaled. -/
  | storing (held : Held)
  /-- At the head of the loop of `hold`. -/
  | holding (held : Held)
  /-- Looking at the settle channel, until a moment. -/
  | waiting (held : Held) (wake : ℕ)
  | committing (held : Held) (waiter : ℕ)
  | rollingBack (why : String) (waiter : Option ℕ)
  /-- Waiting for the answer to a release rollback. -/
  | releasing (why : String) (deadline : ℕ)
  /-- Asleep between two release rollbacks. -/
  | pausing (why : String) (deadline wake : ℕ)
  | loggingOut (e : PurchaseEnd)
  | disconnecting (e : PurchaseEnd)
  /-- About to leave the holders. -/
  | leaving (e : PurchaseEnd)
  /-- Answering the requests that came after the decision. -/
  | draining (e : PurchaseEnd)
  /-- About to return: the channel is still there. -/
  | returning (e : PurchaseEnd)
  | ended (e : PurchaseEnd)
deriving DecidableEq, Repr

/-- What the machine gets. -/
inductive PurchaseInput where
  /-- It goes on by itself. -/
  | go
  /-- A call of the terminal returned. -/
  | answer (a : CallAnswer)
  /-- `hooks.contact` returned. -/
  | contacted (r : Except ContactRefusal Unit)
  /-- `hooks.authorized` returned. -/
  | stored (r : Except String Unit)
  | received (request : SettleRequest)
  /-- No request came in time; `refused`: Odoo refused the authorisation. -/
  | timedOut (refused : Bool)
  /-- Nothing can reach the channel any more. -/
  | disconnected
  /-- The channel is empty. -/
  | nothing
deriving DecidableEq

/-- What the machine does. -/
inductive PurchaseAct where
  | call (c : TerminalCall)
  /-- The outcome of the payment is decided. -/
  | decide (e : PurchaseEnd)
  | reply (waiter : ℕ) (reply : SettleReply)
  /-- `hooks.released`: the job leaves the holders. -/
  | release
deriving DecidableEq, Repr

/-- `refused`. -/
def refused (code what : String) (e : TimError) : PurchaseEnd :=
  .refused code s!"{what}: {e.toText} - the transaction was not sent, nothing charged"

/-- A transaction that did not authorise. -/
def failedTransaction (e : TimError) : PurchaseEnd :=
  match classifyTransactionError e.code with
  | .nothingCharged code =>
    .refused code s!"the terminal refused the payment: {e.toText} - nothing charged"
  | .unknown =>
    .unknown
      s!"the transaction failed with an unknown outcome: {e.toText} - reconciled with the terminal"

def wrongTerminalText (spec : TerminalSpec) (expected : String) (tid : Option String) : String :=
  let reported := tid.getD "(none)"
  s!"the terminal at {spec.ip} reported id {reported} but the till expects {expected} - nothing charged"

def ALREADY_ASKED_TEXT : String :=
  "the terminal was already asked for this job - no second transaction, reconciled with the terminal"

def noContactText (why : String) : String :=
  s!"the journal did not record the terminal contact ({why}) - the transaction was not sent, nothing charged"

/-- What a rollback that answered makes of the payment. -/
def rollbackEnd (why : String) : Option TimError → PurchaseEnd
  | none => .rolledBack s!"{why} - the authorisation was rolled back, no money taken"
  | some e => .unknown s!"{why}, but the rollback failed: {e.toText}"

/-- What a commit that answered makes of the payment. -/
def commitEnd (held : Held) : Option TimError → PurchaseEnd
  | none => .committed held.facts held.tid
  | some e =>
    if e.code = RC_COMMIT_TIMEOUT then
      .rolledBack
        s!"the commit came after the terminal's commit timeout ({e.toText}) - the terminal reversed the authorisation, no money taken"
    else .unknown s!"the commit failed: {e.toText}"

namespace PurchaseRequest

variable (req : PurchaseRequest)

/-- After `logged_in`: an unknown end releases the terminal before the logout. -/
def finish (instant : ℕ) (e : PurchaseEnd) : PurchasePc × List PurchaseAct :=
  match e with
  | .unknown why =>
    (.releasing why (instant + req.releaseWithin), [.decide (.unknown why), .call .rollback])
  | e => (.loggingOut e, [.decide e, .call .logout])

/-- A payment that is decided by a settle request answers it first. -/
def settled (instant : ℕ) (e : PurchaseEnd) (waiter : Option ℕ) :
    PurchasePc × List PurchaseAct :=
  let next := req.finish instant e
  match waiter, next.2 with
  | some i, decide :: rest => (next.1, decide :: .reply i e.settleReply :: rest)
  | _, _ => next

/-- `roll_back`. -/
def rollBack (why : String) (waiter : Option ℕ) : PurchasePc × List PurchaseAct :=
  (.rollingBack why waiter, [.call .rollback])

/-- `no card.commit within …`. -/
def deadlineText : String :=
  s!"no card.commit within {req.deadline / 1000} s of the authorisation (devbridge deadline)"

/-- One step of `run_purchase` at a moment. -/
def step (spec : TerminalSpec) (instant : ℕ) :
    PurchasePc → PurchaseInput → Option (PurchasePc × List PurchaseAct)
  | .start, .go => some (.creating, [.call .create])
  | .creating, .answer (.failed e) =>
    let e := refused CODE_TERMINAL_ERROR "TIM terminal object" e
    some (.returning e, [.decide e])
  | .creating, .answer .done => some (.connecting, [.call .connect])
  | .connecting, .answer (.failed e) =>
    let e := refused CODE_TERMINAL_UNREACHABLE "the terminal could not be reached" e
    some (.returning e, [.decide e])
  | .connecting, .answer .done => some (.loggingIn, [.call .login])
  | .loggingIn, .answer (.failed e) =>
    let e := refused CODE_TERMINAL_ERROR "TIM login" e
    some (.disconnecting e, [.decide e, .call .disconnect])
  | .loggingIn, .answer .done => some (.readingId, [.call .terminalId])
  | .readingId, .answer (.failed e) =>
    some (req.finish instant (refused CODE_TERMINAL_ERROR "TIM terminal id" e))
  | .readingId, .answer (.tid tid) =>
    match spec.expectedTid with
    | some expected =>
      if tid = some expected then some (.readingLast tid, [.call .lastTransaction])
      else
        some (req.finish instant
          (.refused CODE_WRONG_TERMINAL (wrongTerminalText spec expected tid)))
    | none => some (.readingLast tid, [.call .lastTransaction])
  -- an unreadable last transaction leaves the baseline to the journal
  | .readingLast tid, .answer (.failed _) =>
    some (.journaling tid (baseline none req.storedMaxSeq), [])
  | .readingLast tid, .answer (.last last) =>
    some (.journaling tid (baseline (some last) req.storedMaxSeq), [])
  | .journaling tid _, .contacted (.ok _) =>
    some (.transacting tid, [.call (.transaction req.kind req.amountMinor)])
  | .journaling _ _, .contacted (.error .alreadyAsked) =>
    some (req.finish instant (.unknown ALREADY_ASKED_TEXT))
  | .journaling _ _, .contacted (.error (.journal why)) =>
    some (req.finish instant (.refused CODE_BRIDGE_ERROR (noContactText why)))
  | .transacting _, .answer (.failed e) => some (req.finish instant (failedTransaction e))
  | .transacting tid, .answer (.facts facts) =>
    match authorisationProblem facts req.amountMinor with
    | some problem => some (rollBack s!"rolled back at once: {problem}" none)
    | none => some (.storing ⟨facts, tid, instant⟩, [])
  | .storing held, .stored (.ok _) => some (.holding held, [])
  | .storing _, .stored (.error why) =>
    some (rollBack s!"rolled back at once: the journal failed ({why})" none)
  | .holding held, .go =>
    let remaining := held.authorisedAt + req.deadline - instant
    if remaining = 0 then some (rollBack req.deadlineText none)
    else some (.waiting held (instant + min remaining REFUSAL_POLL), [])
  | .waiting held _, .received request =>
    match request.op with
    | .commit => some (.committing held request.waiter, [.call .commit])
    | .rollback => some (rollBack "card.rollback" (some request.waiter))
  | .waiting _ _, .disconnected =>
    some (rollBack "no settle channel for the held payment" none)
  | .waiting held wake, .timedOut refused =>
    if instant < wake then none
    else if refused then some (rollBack "Odoo refused the authorisation (too late)" none)
    else some (.holding held, [])
  | .committing held waiter, .answer .done =>
    some (req.settled instant (commitEnd held none) (some waiter))
  | .committing held waiter, .answer (.failed e) =>
    some (req.settled instant (commitEnd held (some e)) (some waiter))
  | .rollingBack why waiter, .answer .done =>
    some (req.settled instant (rollbackEnd why none) waiter)
  | .rollingBack why waiter, .answer (.failed e) =>
    some (req.settled instant (rollbackEnd why (some e)) waiter)
  | .releasing why _, .answer .done => some (.loggingOut (.unknown why), [.call .logout])
  | .releasing why deadline, .answer (.failed e) =>
    let left := deadline - instant
    if e.code = RC_NOTHING_PENDING ∨ left = 0 then
      some (.loggingOut (.unknown why), [.call .logout])
    else some (.pausing why deadline (instant + min left RELEASE_RETRY), [])
  | .pausing why deadline wake, .go =>
    if instant < wake then none else some (.releasing why deadline, [.call .rollback])
  -- a failed logout or disconnect is only logged
  | .loggingOut e, .answer .done | .loggingOut e, .answer (.failed _) =>
    some (.disconnecting e, [.call .disconnect])
  | .disconnecting e, .answer .done | .disconnecting e, .answer (.failed _) =>
    some (.leaving e, [])
  | .leaving e, .go => some (.draining e, [.release])
  | .draining e, .received request =>
    some (.draining e, [.reply request.waiter e.settleReply])
  | .draining e, .nothing => some (.returning e, [])
  | .returning e, .go => some (.ended e, [])
  | _, _ => none

end PurchaseRequest

end DevBridge.Tim

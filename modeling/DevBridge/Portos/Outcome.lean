import DevBridge.Journal.Row
import DevBridge.Portos.Payload

/-!
# What an answer of Portos means for a job

A job may be `failed` only when Portos proves that nothing was registered: the connection was
never opened, or the request was refused before anything is stored.  Everything else after
the request may have reached Portos is `indeterminate`.
-/

namespace DevBridge

/-- What a call to Portos came back with. -/
inductive PortosReply where
  /-- The connection could not be opened: nothing was sent. -/
  | unreachable (error : String)
  /-- Sent, or possibly sent, and no complete answer. -/
  | lost (error : String)
  | answer (status : ℕ) (body : Json)
deriving DecidableEq

/-- `device` of every Portos result. -/
def PORTOS_DEVICE : String := "portos"

def CODE_UNREACHABLE : String := "portos_unreachable"
def CODE_VALIDATION : String := "portos_validation"
def CODE_UNAUTHENTICATED : String := "portos_unauthenticated"
def CODE_ENDPOINT_MISSING : String := "portos_endpoint_missing"
def CODE_LOOKUP_FAILED : String := "portos_lookup_failed"
def CODE_RECEIPT_NOT_FOUND : String := "receipt_not_found"
def CODE_REFUSED : String := "portos_refused"
def CODE_NOT_EXECUTED : String := "not_executed"
def CODE_RETRY_SAFE : String := "outcome_unknown_retry_safe"

/-- Portos' code for a receipt that is not there. -/
def PORTOS_RECEIPT_NOT_FOUND : ℤ := -104
/-- Portos' code for a refused request. -/
def PORTOS_VALIDATION_ERROR : ℤ := -900
def MAX_PROBLEM_CHARS : ℕ := 600

/-! ### Receipts -/

/-- Where a receipt result came from. -/
inductive Via where
  | register
  | lookup
  | reconcile
deriving DecidableEq, Repr

def Via.asStr : Via → String
  | register => "register"
  | lookup => "lookup"
  | reconcile => "reconcile"

/-- `online`, `rejected` by eKasa, or `offline`: stored and sent to eKasa later. -/
def receiptState (result : Json) : String :=
  match result.get "isSuccessful" with
  | some (.bool true) => "online"
  | some (.bool false) => "rejected"
  | _ => "offline"

/-- Whether a receipt belongs to a key: one that was looked up must name it, the answer to the
bridge's own register request may leave it out. -/
def externalIdMatches (theirs : Option Json) (externalId : String) (via : Via) : Bool :=
  match theirs.bind Json.asStr with
  | some theirs => theirs == externalId
  | none => via == .register

/-- The `okp` and the number of a receipt, which tell it from every other one. -/
def receiptIdentity (result : Json) : Option (String × Json) :=
  match (result.pointer ["request", "data", "okp"]).bind Json.asStr,
      (result.pointer ["request", "data", "receiptNumber"]).filter Json.isNumber with
  | some okp, some number => some (okp, number)
  | _, _ => none

/-- The job result of a registered receipt; `none` when the answer is not a receipt or belongs
to another key. -/
def receiptResult (result : Json) (externalId : String) (via : Via) : Option Json :=
  match receiptIdentity result with
  | none => none
  | some (okp, receiptNumber) =>
    if externalIdMatches (result.pointer ["request", "externalId"]) externalId via then
      let state := receiptState result
      let field (path : List String) : Json := (result.pointer path).getD .null
      let paragon := match (result.pointer ["request", "data", "paragonNumber"]).filter
          Json.isNumber with
        | some number => [("paragon_number", number)]
        | none => []
      some (.obj ([
        ("amount", field ["request", "data", "amount"]),
        ("cash_register_code", field ["request", "data", "cashRegisterCode"]),
        ("device", .str PORTOS_DEVICE),
        ("ekasa_error", field ["error"]),
        ("external_id", .str externalId),
        ("is_offline", .bool (state == "offline")),
        ("issue_date", field ["request", "data", "issueDate"]),
        ("okp", .str okp)] ++ paragon ++ [
        ("portos_request_id", field ["request", "id"]),
        ("process_date", field ["response", "processDate"]),
        ("receipt_number", receiptNumber),
        ("receipt_type", field ["request", "data", "receiptType"]),
        ("rounding_amount", field ["request", "data", "roundingAmount"]),
        ("state", .str state),
        ("uid", field ["response", "data", "id"]),
        ("via", .str via.asStr)]))
    else none

/-! ### Refusals -/

def problemCode (body : Json) : Option ℤ := (body.get "code").bind Json.asI64

/-- A short text of a problem answer: the code, the title, the detail and the field errors. -/
def problemText (status : ℕ) (body : Json) : String :=
  let code := match problemCode body with
    | some code => [s!"code {code}"]
    | none => []
  let texts := ["title", "detail"].filterMap fun key =>
    ((body.get key).bind Json.asStr).filter fun t => t != ""
  let errors := match body.get "errors" with
    | some (.obj fields) => fields.map fun (field, messages) =>
      field ++ ": " ++
        String.intercalate " " ((messages.asArray.getD []).filterMap Json.asStr)
    | _ => []
  let text := String.intercalate " | " (s!"HTTP {status}" :: (code ++ texts ++ errors))
  String.ofList (text.toList.take MAX_PROBLEM_CHARS)

/-- A validation refusal: Portos checks a request before it stores anything. -/
def isValidation (status : ℕ) (body : Json) : Bool :=
  (status == 400 || status == 422) &&
    (problemCode body).all fun code => code == PORTOS_VALIDATION_ERROR

/-- This Portos has no such endpoint: 404 or 405 without a Portos code. -/
def isMissingEndpoint (status : ℕ) (body : Json) : Bool :=
  (status == 404 || status == 405) && (problemCode body).isNone

/-- A problem answer, not the bare 404 of a route that is not there. -/
def isProblem (body : Json) : Bool := (body.get "status").isSome || (body.get "title").isSome

def isSuccess (status : ℕ) : Bool := decide (200 ≤ status ∧ status < 300)

def isClientError (status : ℕ) : Bool := decide (400 ≤ status ∧ status < 500)

/-! ### The lookup -/

/-- The answer of the receipt lookup. -/
inductive Lookup where
  /-- A receipt with this key exists. -/
  | found (result : Json)
  | notFound
  /-- Nothing was asked. -/
  | unreachable (error : String)
  /-- Portos answered something else, or not in time. -/
  | failed (error : String)
deriving DecidableEq

/-- A bare 404 is not `notFound`: the receipt is then never sent. -/
def classifyLookup : PortosReply → Lookup
  | .unreachable e => .unreachable e
  | .lost e => .failed s!"no answer: {e}"
  | .answer status body =>
    if status = 200 ∧ body.isObject then .found body
    else if status = 204 then .notFound
    else if status = 404 ∧ (problemCode body).isNone ∧ isProblem body then .notFound
    else if isClientError status ∧ problemCode body = some PORTOS_RECEIPT_NOT_FOUND then
      .notFound
    else .failed (problemText status body)

/-! ### The register request -/

/-- The answers to a register request that prove that nothing was registered. -/
def PortosReply.refuses : PortosReply → Bool
  | unreachable _ => true
  | lost _ => false
  | answer status body =>
    isValidation status body || status == 401 || isMissingEndpoint status body

/-- The outcome of a register request. -/
def registerOutcome (reply : PortosReply) (kind : ReceiptKind) (externalId : String) : Outcome :=
  let reconciled := s!"reconciled by externalId {externalId}, never registered again"
  match reply with
  | .unreachable e =>
    .failed CODE_UNREACHABLE
      s!"devbridge could not connect to Portos ({e}) - the receipt was not sent, nothing ran"
  | .lost e =>
    .indeterminate
      s!"no answer from Portos after the receipt was sent ({e}) - it may be registered; {reconciled}"
  | .answer status body =>
    if isSuccess status then
      match receiptResult body externalId .register with
      | some result => .done result
      | none =>
        .indeterminate
          s!"Portos answered HTTP {status} but not with the receipt of externalId {externalId} - {reconciled}"
    else if isValidation status body then
      .failed CODE_VALIDATION
        s!"Portos refused the {kind.receiptType} receipt as invalid ({problemText status body}) - nothing was registered"
    else if status = 401 then
      .failed CODE_UNAUTHENTICATED
        s!"Portos requires authentication ({problemText 401 body}) - nothing was registered"
    else if isMissingEndpoint status body then
      .failed CODE_ENDPOINT_MISSING
        s!"this Portos has no {kind.path} ({problemText status body}) - it cannot register {kind.receiptType} receipts; nothing was registered"
    else
      .indeterminate
        s!"Portos answered {problemText status body} - the receipt may be registered (a print error comes after registration); {reconciled}"

/-! ### Requests that leave no fiscal record -/

/-- What a control request does, and the field of its answer that says so. -/
def controlWords : FiscalOp → String × String
  | .openDrawer => ("open the drawer", "opened")
  | .printText => ("print the text", "printed")
  | .printCopy | .register _ => ("print the receipt copy", "printed")

/-- The outcome of a drawer, copy or text request. -/
def controlOutcome (reply : PortosReply) (op : FiscalOp) : Outcome :=
  let what := (controlWords op).1
  let flag := (controlWords op).2
  match reply with
  | .unreachable e =>
    .failed CODE_UNREACHABLE s!"devbridge could not connect to Portos ({e}) - nothing ran"
  | .lost e => .indeterminate s!"no answer from Portos after asking it to {what} ({e})"
  | .answer status body =>
    -- a text that Portos did not report printed ends here, nothing is sent again
    if op = .printText ∧ isSuccess status ∧ body.get flag ≠ some (.bool true) then
      .failed CODE_RETRY_SAFE
        s!"Portos accepted the text but did not report it printed (HTTP {status}; 202 = the printer was not ready, some models print later); no fiscal record, the till may simply retry"
    else if op = .printText ∧ 500 ≤ status then
      .failed CODE_RETRY_SAFE
        s!"Portos answered {problemText status body} when asked to print the text; no fiscal record, the till may simply retry"
    else if isSuccess status then
      .done (.obj [("device", .str PORTOS_DEVICE), (flag, (body.get flag).getD .null),
        ("printer_ready", .bool (status == 200))])
    else if problemCode body = some PORTOS_RECEIPT_NOT_FOUND then
      .failed CODE_RECEIPT_NOT_FOUND
        s!"Portos has no such receipt ({problemText status body}) - nothing was printed"
    else if isValidation status body then
      .failed CODE_VALIDATION
        s!"Portos refused the request as invalid ({problemText status body}) - nothing ran"
    else if status = 401 then
      .failed CODE_UNAUTHENTICATED
        s!"Portos requires authentication ({problemText 401 body}) - nothing ran"
    else if isMissingEndpoint status body then
      .failed CODE_ENDPOINT_MISSING
        s!"this Portos cannot {what} ({problemText status body}) - nothing ran"
    else if isClientError status then
      .failed CODE_REFUSED
        s!"Portos refused to {what} ({problemText status body}) - nothing ran"
    else .indeterminate s!"Portos answered {problemText status body} when asked to {what}"

/-- A drawer, copy or text request may simply be repeated. -/
def retrySafeText (op : FiscalOp) : String :=
  let what := match op with
    | .openDrawer => "the drawer opened"
    | .printText => "the text was printed"
    | .printCopy | .register _ => "the receipt copy was printed"
  s!"devbridge cannot tell whether {what} (Portos never answered); it leaves no fiscal record, so the till may simply retry"

/-! ### The unprocessed requests -/

/-- The answer of the list of unprocessed requests. -/
inductive Unprocessed where
  | listed
  | notListed
  | failed (error : String)
deriving DecidableEq

def classifyUnprocessed (reply : PortosReply) (externalId : String) : Unprocessed :=
  match reply with
  | .unreachable e | .lost e => .failed e
  | .answer status body =>
    if status = 204 then .notListed
    else
      match status, body with
      | 200, .arr list =>
        if list.any fun r =>
            (r.pointer ["request", "externalId"]).bind Json.asStr == some externalId then
          .listed
        else .notListed
      | _, _ => .failed (problemText status body)

/-- Why a receipt that was sent stays unknown when Portos has none with its key. -/
def sentButNotFoundText (unprocessed : Unprocessed) (externalId : String) : String :=
  match unprocessed with
  | .listed =>
    s!"Portos lists the request with externalId {externalId} as not processed yet - waiting for Portos"
  | .notListed =>
    s!"devbridge sent the receipt but Portos has neither a receipt nor an unprocessed request with externalId {externalId}; Portos' documentation does not prove that a request whose answer was lost was never stored (it may still be inside Portos, or its index table may be incomplete) - a person must check Portos WebAdmin for externalId {externalId}; never register this sale again under another id"
  | .failed e =>
    s!"Portos has no receipt with externalId {externalId}; its unprocessed list could not be read ({e}) - asked again later"

/-! ### What the tables guarantee -/

lemma isSuccess_refuses {status : ℕ} {body : Json} (h : isSuccess status = true) :
    (PortosReply.answer status body).refuses = false := by
  simp only [isSuccess, decide_eq_true_eq] at h
  simp only [PortosReply.refuses, isValidation, isMissingEndpoint, Bool.or_eq_false_iff,
    Bool.and_eq_false_iff, beq_eq_false_iff_ne]
  omega

/-- A register request fails the job exactly when its answer proves that nothing was
registered. -/
lemma registerOutcome_failed_iff (reply : PortosReply) (kind : ReceiptKind) (ext : String) :
    (∃ code text, registerOutcome reply kind ext = .failed code text) ↔
      reply.refuses = true := by
  unfold registerOutcome
  cases reply with
  | unreachable e => simp [PortosReply.refuses]
  | lost e => simp [PortosReply.refuses]
  | answer status body =>
    simp only
    by_cases hs : isSuccess status = true
    · rw [if_pos hs, isSuccess_refuses hs]
      split <;> simp
    · rw [if_neg hs]
      by_cases hv : isValidation status body = true
      · simp [hv, PortosReply.refuses]
      · by_cases h401 : status = 401
        · subst h401
          simp [hv, PortosReply.refuses]
        · by_cases hm : isMissingEndpoint status body = true
          · simp [hv, h401, hm, PortosReply.refuses]
          · simp [hv, h401, hm, PortosReply.refuses]

/-- A done register request has answered with a receipt. -/
lemma registerOutcome_done {reply : PortosReply} {kind : ReceiptKind} {ext : String}
    {result : Json} (h : registerOutcome reply kind ext = .done result) :
    ∃ status body, reply = .answer status body ∧ isSuccess status = true ∧
      receiptResult body ext .register = some result := by
  unfold registerOutcome at h
  cases reply with
  | unreachable e => cases h
  | lost e => cases h
  | answer status body =>
    simp only at h
    split at h
    · rename_i hs
      split at h
      · rename_i r hr
        cases h
        exact ⟨status, body, rfl, hs, hr⟩
      · cases h
    · repeat' split at h
      all_goals cases h

/-- A receipt result names its key and the receipt it is about. -/
lemma receiptResult_some {body : Json} {ext : String} {via : Via} {result : Json}
    (h : receiptResult body ext via = some result) :
    ∃ okp number, receiptIdentity body = some (okp, number) ∧
      externalIdMatches (body.pointer ["request", "externalId"]) ext via = true ∧
      result.get "external_id" = some (.str ext) ∧ result.get "okp" = some (.str okp) ∧
      result.get "receipt_number" = some number := by
  unfold receiptResult at h
  split at h
  · cases h
  · rename_i okp number hid
    split at h
    · rename_i hm
      refine ⟨okp, number, hid, hm, ?_⟩
      simp only at h
      split at h <;> (cases h; exact ⟨rfl, rfl, rfl⟩)
    · cases h

end DevBridge

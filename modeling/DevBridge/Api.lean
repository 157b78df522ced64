import DevBridge.Json
import DevBridge.Text

/-!
# The calls to Odoo

The four routes of the bridge answer in one envelope: `ok: true` with the data of the route,
or `ok: false` with a refusal.  Only the parts that decide something are read here: the job a
`next` hands out, the jobs a `pending` lists, whether an ack was accepted.  An id is a
positive integer wherever Odoo names one.
-/

namespace DevBridge

/-! ### Errors of a call -/

/-- What went wrong talking to Odoo. -/
inductive RpcError where
  /-- Network or HTTP level: connect, time-out, a status other than success. -/
  | transport (message : String)
  /-- A JSON-RPC error object. -/
  | rpc (message : String)
  /-- `result.error` as a text. -/
  | business (message : String)
  /-- `result.ok` is false: Odoo understood the call and refused it. -/
  | refused (code message : String)
  /-- The body is not the agreed envelope. -/
  | protocol (message : String)
deriving DecidableEq, Repr

namespace RpcError

/-- Refusals are Odoo's final answer; everything else may clear up. -/
def isRetryable : RpcError → Bool
  | business _ | refused _ _ => false
  | _ => true

/-- The machine code of a refusal. -/
def refusalCode : RpcError → Option String
  | refused code _ => some code
  | _ => none

/-- Whether the call failed on the way. -/
def isTransport : RpcError → Bool
  | transport _ => true
  | _ => false

def toText : RpcError → String
  | transport m => s!"transport error: {m}"
  | rpc m => s!"JSON-RPC error: {m}"
  | business m => s!"Odoo refused: {m}"
  | refused code message => s!"Odoo refused ({code}): {message}"
  | protocol m => s!"unexpected response: {m}"

end RpcError

/-- `false`, `null` and blank texts are absent, any other scalar is a text. -/
def odooText : Json → Option String
  | .str s => if isBlank s then none else some s
  | .num n => some n.toText
  | _ => none

/-- `ok: true` is success, `ok: false` a refusal, anything else is not the agreed shape. -/
def requireOk (result : Json) : Except RpcError Json :=
  match (result.get "ok").bind Json.asBool with
  | some true => .ok result
  | some false =>
    let field (name : String) : String :=
      (((result.get "error").bind fun e => e.get name).bind odooText).getD ""
    let code := field "code"
    .error (.refused (if code = "" then "unknown" else code) (field "message"))
  | none => .error (.protocol ("result without a boolean \"ok\": " ++ result.shape))

/-! ### Jobs -/

/-- A device job as Odoo hands it out, or as a till submits it. -/
structure DeviceJob where
  id : ℤ
  /-- `fiscal.cash_register`, `card.purchase`, … -/
  jobType : String
  clientUuid : String
  /-- The till the job belongs to. -/
  kasaId : Option ℤ
  kasaName : String
  /-- The sale, or `null`. -/
  posOrder : Json
  /-- The operation's own data, handed to the executor unchanged. -/
  payload : Json
  createdAt : String
  claimedAt : String
deriving DecidableEq, Repr

/-- The job as its row gives it back: the sale and the payload are stored as texts. -/
def DeviceJob.reread (read : Number → Number) (job : DeviceJob) : DeviceJob :=
  { job with posOrder := job.posOrder.reread read, payload := job.payload.reread read }

/-- A job of Odoo: its id is positive. -/
structure OdooJob where
  job : DeviceJob
  pos : 0 < job.id
deriving DecidableEq

/-- A positive integer id, never a string, a Boolean or a double. -/
def positiveId (v : Option Json) : Option {id : ℤ // 0 < id} :=
  (v.bind Json.asI64).bind fun id => if h : 0 < id then some ⟨id, h⟩ else none

/-- The text of a field: a number counts as its text, anything else as nothing. -/
def textOf : Option Json → String
  | some (.str s) => s
  | some (.num n) => n.toText
  | _ => ""

/-- One job object of `next`.  Only a missing or invalid id is fatal. -/
def parseJob (v : Json) : Except RpcError OdooJob :=
  if !v.isObject then
    .error (.protocol s!"next: job is not an object ({v.shape})")
  else
    match positiveId (v.get "id") with
    | none => .error (.protocol s!"next: job without a positive id ({v.shape})")
    | some id =>
      let kasa := (v.get "kasa").filter Json.isObject
      .ok ⟨{
        id := id.val
        jobType := textOf (v.get "type")
        clientUuid := textOf (v.get "client_uuid")
        kasaId := (positiveId (kasa.bind fun k => k.get "id")).map Subtype.val
        kasaName := textOf (kasa.bind fun k => k.get "name")
        posOrder := ((v.get "pos_order").filter Json.isObject).getD .null
        payload := (v.get "payload").getD (.obj [])
        createdAt := textOf (v.get "created_at")
        claimedAt := textOf (v.get "claimed_at") }, id.property⟩

/-- The result of `next`. -/
structure NextReply where
  job : Option OdooJob
  /-- How long the call was allowed to wait. -/
  waitS : ℕ
deriving DecidableEq

/-- The job of the result of `next`. -/
def parseNext (result : Json) : Except RpcError NextReply :=
  match requireOk result with
  | .error e => .error e
  | .ok result =>
    let waitS := ((result.get "wait_s").bind Json.asU64).getD 0
    match result.get "job" with
    | none | some .null => .ok ⟨none, waitS⟩
    | some j =>
      match parseJob j with
      | .error e => .error e
      | .ok job => .ok ⟨some job, waitS⟩

/-- One entry of `pending`: no payload, never run. -/
structure PendingJob where
  id : ℤ
  jobType : String
  state : String
  clientUuid : String
  claimedAt : String
  pos : 0 < id
deriving DecidableEq

/-- One entry of `pending`; an entry without a positive id cannot be answered. -/
def parsePendingJob (j : Json) : Option PendingJob :=
  (positiveId (j.get "id")).map fun id =>
    { id := id.val
      jobType := textOf (j.get "type")
      state := textOf (j.get "state")
      clientUuid := textOf (j.get "client_uuid")
      claimedAt := textOf (j.get "claimed_at")
      pos := id.property }

/-- The entries of the result of `pending` that can be answered. -/
def parsePending (result : Json) : Except RpcError (List PendingJob) :=
  match requireOk result with
  | .error e => .error e
  | .ok result =>
    match (result.get "jobs").bind Json.asArray with
    | none => .error (.protocol ("pending: no \"jobs\" list (" ++ result.shape ++ ")"))
    | some list => .ok (list.filterMap parsePendingJob)

/-! ### Acks -/

/-- An accepted ack: `duplicate` when the job already had a final ack. -/
structure AckReply where
  duplicate : Bool
  state : String
deriving DecidableEq, Repr

def parseAckReply (result : Json) : Except RpcError AckReply :=
  match requireOk result with
  | .error e => .error e
  | .ok result =>
    .ok {
      duplicate := (result.get "duplicate").bind Json.asBool == some true
      state := textOf ((result.get "job").bind fun j => j.get "state") }

/-- Refusal: `not_received` inside the window of the `next` answer, to be asked again
later. -/
def REFUSED_TOO_EARLY : String := "too_early"

/-- What one ack reports. -/
inductive AckRequest where
  /-- The device ran the job. -/
  | done (jobId : ℤ) (result : Json)
  /-- Nothing ran. -/
  | failed (jobId : ℤ) (code text : String)
  /-- The bridge cannot tell (yet). -/
  | indeterminate (jobId : ℤ) (reason : String)
  /-- A pending job that the journal has no row for. -/
  | notReceived (jobId : ℤ)
  /-- A card payment waits for its commit or rollback. -/
  | authorized (jobId : ℤ) (result : Json)
deriving DecidableEq, Repr

namespace AckRequest

def jobId : AckRequest → ℤ
  | done id _ | failed id _ _ | indeterminate id _ | notReceived id | authorized id _ => id

/-- The acks that settle a job at Odoo. -/
def isFinal : AckRequest → Bool
  | done _ _ | failed _ _ _ => true
  | _ => false

end AckRequest

end DevBridge

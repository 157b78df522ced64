import DevBridge.LanApi.Keys
import DevBridge.Portos.Payload
import DevBridge.Source.Step

/-!
# The routes of the LAN API

Every route authenticates by itself, reads its own input and compares the till it names with
the till of the key.  A job that is sent goes on as a LAN call of the device-job source; a job
that is asked for is one query, a card job three, and the other tasks run between them.

The body of a request is the JSON value it holds, if it holds one.
-/

namespace DevBridge

namespace LanApi

/-! ### Requests -/

inductive Route where
  /-- `POST /v1/jobs`. -/
  | postJob (body : Option Json)
  /-- `GET /v1/jobs/{kasa_id}/{client_uuid}`. -/
  | getJob (kasa clientUuid : String)
  /-- `GET /v1/card-jobs/{kasa_id}/{client_uuid}`. -/
  | getCardJob (kasa clientUuid : String)
  /-- `GET /v1/health`. -/
  | health
deriving DecidableEq

structure Request where
  /-- The `Authorization` header, if there is one and it is a text. -/
  authorization : Option String
  route : Route
deriving DecidableEq

def Request.token (r : Request) : Option String := bearerToken r.authorization

/-- A positive integer, never a text, a double or a Boolean. -/
def positiveInt (v : Option Json) : Option ℤ := (v.bind Json.asI64).filter (0 < ·)

/-- `parse_request`. -/
def parseRequest (body : Option Json) : Except String LanRequest :=
  match body with
  | none => .error "the body is not JSON"
  | some v =>
    if !v.isObject then .error "the body must be a JSON object"
    else
      match ((v.get "client_uuid").bind Json.asStr).filter clientUuidOk with
      | none => .error "client_uuid must be a string of [A-Za-z0-9_-]\x7b1,64\x7d"
      | some clientUuid =>
        match positiveInt (v.get "kasa_id") with
        | none => .error "kasa_id must be a positive integer (the till's pos.config id)"
        | some kasaId =>
          match ((v.get "job_type").bind Json.asStr).filter fun t => !isBlank t with
          | none => .error "job_type must be a non-empty string"
          | some jobType =>
            match (v.get "payload").filter Json.isObject with
            | none => .error "payload must be a JSON object"
            | some payload =>
              match v.get "pos_order_id" with
              | none | some .null => .ok ⟨kasaId, clientUuid, jobType, payload, none⟩
              | some id =>
                match positiveInt (some id) with
                | none => .error "pos_order_id must be a positive integer or null"
                | some id => .ok ⟨kasaId, clientUuid, jobType, payload, some id⟩

/-- `parse_path`. -/
def parsePath (kasaId clientUuid : String) : Option ℤ :=
  ((parseI64 kasaId.toList).filter (0 < ·)).filter fun _ => clientUuidOk clientUuid

/-! ### Answers -/

/-- What a request is answered with. -/
inductive Answer where
  | error (status : ℕ) (code text : String)
  | job (job : LanJob) (replay : Bool)
  | conflict (job : LanJob)
  | card (entry : JournalEntry) (card : Option CardPayment)
  | health (portos : String) (unreported : ℕ)
deriving DecidableEq

/-- The journal's jobs that an answer tells of. -/
def Answer.jobs : Answer → List DeviceJob
  | .job row _ | .conflict row => [row.entry.job]
  | .card entry _ => [entry.job]
  | .error _ _ _ | .health _ _ => []

/-- 200 once a job is final, 202 while it runs or its outcome is unknown. -/
def jobStatus (state : JobState) : ℕ := if state.isFinal then 200 else 202

def optional {α : Type} (f : α → Json) : Option α → Json
  | some a => f a
  | none => .null

/-- The error of a job that failed or whose outcome is unknown. -/
def jobError (e : JournalEntry) : Json :=
  match e.state with
  | .failed => .obj [("code", .str (e.errorCode.getD "bridge_error")),
      ("text", .str (e.errorText.getD ""))]
  | .indeterminate => .obj [("code", .str "indeterminate"), ("text", .str (e.errorText.getD ""))]
  | _ => .null

def jobJson (job : LanJob) (replay : Bool) : Json :=
  let e := job.entry
  .obj [("client_uuid", .str e.job.clientUuid), ("error", jobError e),
    ("job_type", .str e.job.jobType), ("kasa_id", optional Json.ofInt e.job.kasaId),
    ("odoo_job_id", optional Json.ofInt job.odooJobId),
    ("received_at", .str (timeText e.receivedAt)), ("replay", .bool replay),
    ("reported", .bool job.reported),
    ("result", match e.state with
      | .done => e.result.getD .null
      | _ => .null),
    ("state", .str e.state.asStr), ("updated_at", .str (timeText e.updatedAt))]

/-- A card job; while it is held after its authorisation, that is its result. -/
def cardJobJson (entry : JournalEntry) (card : Option CardPayment) : Json :=
  let authorized := card.bind (·.authResult)
  let held := entry.state == .executing && authorized.isSome
  .obj [("client_uuid", .str entry.job.clientUuid), ("error", jobError entry),
    ("job_id", .ofInt entry.job.id), ("job_type", .str entry.job.jobType),
    ("kasa_id", optional Json.ofInt entry.job.kasaId),
    ("phase", if held then .str "authorized" else .null),
    ("received_at", .str (timeText entry.receivedAt)),
    ("result", match entry.state with
      | .done => entry.result.getD .null
      | _ => if held then authorized.getD .null else .null),
    ("state", .str entry.state.asStr), ("updated_at", .str (timeText entry.updatedAt))]

def errorJson (code text : String) : Json :=
  .obj [("code", .str code), ("text", .str text)]

/-- The status and the body of an answer. -/
def Answer.reply (version : String) : Answer → ℕ × Json
  | .error status code text => (status, .obj [("error", errorJson code text)])
  | .job row replay => (jobStatus row.state, jobJson row replay)
  | .conflict row =>
    (409, .obj [("error", errorJson "client_uuid_conflict"
      s!"this client_uuid already names another operation on this till ({row.entry.job.jobType}) - nothing ran"),
      ("job", jobJson row true)])
  | .card entry payment => (jobStatus entry.state, cardJobJson entry payment)
  | .health portos unreported =>
    (200, .obj [("portos", .str portos), ("status", .str "ok"),
      ("unreported", .ofInt unreported), ("version", .str version)])

def unauthorized : Answer := .error 401 "unauthorized" "missing or unknown LAN key of a till"

def wrongKasa : Answer := .error 403 "wrong_kasa" "this LAN key belongs to another till"

def badRequest (text : String) : Answer := .error 400 "bad_request" text

def notFound (text : String) : Answer := .error 404 "not_found" text

/-- The journal could not be read: the job may exist and run. -/
def stateUnknown (text : String) : Answer := .error 503 "state_unknown" text

/-- `answer_reply`; `text` is the error of the journal. -/
def answerReply (text : String) : LanAnswer → Answer
  | .job job replay => .job job replay
  | .refused code why => .error 422 code why
  | .conflict job => .conflict job
  | .bridgeError => .error 503 CODE_BRIDGE_ERROR text
  | .stateUnknown => stateUnknown text

/-! ### Checks -/

variable (sha256 : List UInt8 → KeyDigest) (keys : KeyTable)

/-- `post_job` up to the job: who asks, for what, and whether it is the till of the key. -/
def checkPost (token : Option String) (body : Option Json) : Except Answer LanRequest :=
  match keys.tillOf sha256 token with
  | none => .error unauthorized
  | some till =>
    match parseRequest body with
    | .error text => .error (badRequest text)
    | .ok request => if request.kasaId ≠ till then .error wrongKasa else .ok request

/-- `get_job` and `get_card_job` up to the query. -/
def checkPath (token : Option String) (kasa clientUuid : String) : Except Answer ℤ :=
  match keys.tillOf sha256 token with
  | none => .error unauthorized
  | some till =>
    match parsePath kasa clientUuid with
    | none => .error (badRequest
        "kasa_id must be a positive integer and client_uuid [A-Za-z0-9_-]\x7b1,64\x7d")
    | some kasaId => if kasaId ≠ till then .error wrongKasa else .ok kasaId

def checkHealth (token : Option String) : Except Answer Unit :=
  if (keys.tillOf sha256 token).isNone then .error unauthorized else .ok ()

/-! ### The queries -/

/-- `LIKE 'card.%'` and `NOT IN`: the card jobs that a till submits. -/
def isTillCardJob (jobType : String) : Bool :=
  "card.".toList.isPrefixOf (jobType.toList.map Char.toLower) &&
    decide (jobType ∉ ["card.commit", "card.rollback", "card.activate", "card.deactivate"])

/-- The newest card job of a till with a `client_uuid`. -/
def cardJobId (j : Journal) (kasaId : ℤ) (clientUuid : String) : Option ℤ :=
  ((j.deviceJobs.select fun _ e =>
    e.job.kasaId == some kasaId && e.job.clientUuid == clientUuid &&
      isTillCardJob e.job.jobType).getLast?).map Prod.fst

/-- `unreported_lan_jobs`. -/
def unreportedLanJobs (j : Journal) : ℕ := j.owedLanReports.length

/-! ### Calls -/

/-- What a call of the API is doing. -/
inductive CallPc where
  | idle
  /-- Its job is a LAN call of the source. -/
  | post (request : Request)
  /-- The row of a card job is read. -/
  | cardEntry (request : Request) (jobId : ℤ)
  /-- Its payment is read. -/
  | cardPayment (request : Request) (jobId : ℤ) (entry : JournalEntry)

structure ApiWorld (E : Executor) where
  source : World E
  /-- The calls, by number. -/
  calls : ℕ → CallPc
  /-- The requests that were answered. -/
  answered : List (Request × Answer)

inductive ApiEvent (E : Executor) where
  /-- A request arrives; `fault`: the error of the journal, if the first query fails. -/
  | request (call : ℕ) (r : Request) (fault : Option String) (portos : String)
  /-- The LAN call of a sent job goes on; `text`: the error of the journal, if it fails. -/
  | post (call : ℕ) (e : LanEvent) (text : String)
  /-- The next query for a card job. -/
  | card (call : ℕ) (fault : Option String)
  /-- A step of the source that is not one of a LAN call. -/
  | other (e : Event E)

namespace ApiWorld

variable {E : Executor} (w : ApiWorld E)

def withCall (i : ℕ) (pc : CallPc) : ApiWorld E :=
  { w with calls := Function.update w.calls i pc }

def answer (i : ℕ) (r : Request) (a : Answer) : ApiWorld E :=
  { w.withCall i .idle with answered := (r, a) :: w.answered }

/-- The LAN call of a sent job made a step: it may have got its answer. -/
def settle (i : ℕ) (r : Request) (text : String) (s : World E) : ApiWorld E :=
  match s.proc.lan i, s.log.answers with
  | .idle, (_, a) :: _ => { w with source := s }.answer i r (answerReply text a)
  | _, _ => { w with source := s }.withCall i (.post r)

/-- `get_job` after the query. -/
def jobAnswer (fault : Option String) (found : Option LanJob) : Answer :=
  match fault, found with
  | some text, _ => stateUnknown text
  | none, some job => .job job false
  | none, none => notFound "no job with this client_uuid on this till"

def noCardJob : Answer := notFound "no card job with this client_uuid on this till"

def healthAnswer (fault : Option String) (portos : String) (unreported : ℕ) : Answer :=
  match fault with
  | some text => .error 503 CODE_BRIDGE_ERROR text
  | none => .health portos unreported

/-- A request up to its first query, or until its job is a LAN call. -/
def begin (timing : Timing) (i : ℕ) (r : Request) (fault : Option String) (portos : String) :
    Option (ApiWorld E) :=
  match r.route with
  | .postJob body =>
    match checkPost sha256 keys r.token body with
    | .error a => some (w.answer i r a)
    | .ok request =>
      (w.source.step timing (.lan i (.submit request fault.isNone))).map
        (w.settle i r (fault.getD ""))
  | .getJob kasa clientUuid =>
    match checkPath sha256 keys r.token kasa clientUuid with
    | .error a => some (w.answer i r a)
    | .ok kasaId =>
      some (w.answer i r (jobAnswer fault (w.source.journal.lanJob kasaId clientUuid)))
  | .getCardJob kasa clientUuid =>
    match checkPath sha256 keys r.token kasa clientUuid with
    | .error a => some (w.answer i r a)
    | .ok kasaId =>
      match fault, cardJobId w.source.journal kasaId clientUuid with
      | some text, _ => some (w.answer i r (stateUnknown text))
      | none, none => some (w.answer i r noCardJob)
      | none, some jobId => some (w.withCall i (.cardEntry r jobId))
  | .health =>
    match checkHealth sha256 keys r.token with
    | .error a => some (w.answer i r a)
    | .ok () =>
      some (w.answer i r (healthAnswer fault portos (unreportedLanJobs w.source.journal)))

/-- The second and the third query for a card job. -/
def readCard (i : ℕ) (fault : Option String) : Option (ApiWorld E) :=
  match w.calls i with
  | .cardEntry r jobId =>
    match fault, w.source.journal.get jobId with
    | some text, _ => some (w.answer i r (stateUnknown text))
    | none, none => some (w.answer i r noCardJob)
    | none, some entry => some (w.withCall i (.cardPayment r jobId entry))
  | .cardPayment r jobId entry =>
    match fault with
    | some text => some (w.answer i r (stateUnknown text))
    | none => some (w.answer i r (.card entry (w.source.journal.cardPayments.get? jobId)))
  | _ => none

/-- One step; a crash ends the calls. -/
def step (timing : Timing) : ApiEvent E → Option (ApiWorld E)
  | .request i r fault portos =>
    match w.calls i with
    | .idle => if w.source.up then w.begin sha256 keys timing i r fault portos else none
    | _ => none
  | .post i e text =>
    match w.calls i with
    | .post r => (w.source.step timing (.lan i e)).map (w.settle i r text)
    | _ => none
  | .card i fault => w.readCard i fault
  | .other (.lan _ _) => none
  | .other .crash =>
    (w.source.step timing .crash).map fun s => { w with source := s, calls := fun _ => .idle }
  | .other e => (w.source.step timing e).map fun s => { w with source := s }

end ApiWorld

/-- The LAN API over the device-job source. -/
def lanApi (config : ClientConfig) (E : Executor) (timing : Timing) :
    Transition (ApiWorld E) (ApiEvent E) where
  init := ⟨World.init E, fun _ => .idle, []⟩
  step w e := w.step sha256 (config.keyTable sha256) timing e

end LanApi

end DevBridge

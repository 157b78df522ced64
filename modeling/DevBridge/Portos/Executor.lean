import DevBridge.Portos.Outcome
import DevBridge.Source.Executor

/-!
# The Portos executor

A receipt is registered exactly once: Portos is asked for the receipt's key first, then the
device contact is journaled, and only then the receipt is sent.  A reconcile only asks.

The state of the devices is the list of all register requests that were sent, with what came
back and what Portos made of them; a request on its way is carried out at any later moment or
never, also when the process that sent it is gone.
-/

namespace DevBridge

/-- Which Portos serves which till, and the code from elsewhere: the digest, the check of the
payloads and the reading of a double's text. -/
structure PortosConfig where
  /-- The Portos of a till that names none. -/
  defaultUrl : String
  kasy : List (ℤ × String)
  sha256Hex : String → String
  checkPayload : FiscalOp → Json → Except String Unit
  readFloat : Number → Number

/-- Where a receipt is registered and looked up. -/
structure ReceiptKey where
  base : String
  ext : String
  code : String
deriving DecidableEq, Repr

namespace PortosConfig

variable (cfg : PortosConfig)

/-- The Portos of a till. -/
def urlFor (kasaId : Option ℤ) : String :=
  (kasaId.bind fun id => cfg.kasy.lookup id).getD cfg.defaultUrl

def receiptKey (job : DeviceJob) (op : FiscalOp) : Option ReceiptKey :=
  match job.kasaId, cashRegisterCode op job.payload with
  | some kasaId, some code =>
    some ⟨cfg.urlFor (some kasaId), externalId cfg.sha256Hex kasaId job.clientUuid, code⟩
  | _, _ => none

end PortosConfig

def CODE_BAD_PAYLOAD : String := "bad_payload"
def CODE_NO_KASA : String := "no_kasa"
def CODE_BAD_CLIENT_UUID : String := "bad_client_uuid"
def CODE_JOURNAL : String := "bridge_error"

/-! ### The devices -/

/-- A register request that was sent. -/
structure ReceiptPost where
  number : ℕ
  jobId : ℤ
  base : String
  path : String
  ext : String
  body : Json
  /-- What came back, if the bridge waited for it. -/
  reply : Option PortosReply
  /-- The receipt that Portos registered for it. -/
  receipt : Option (String × Json)
  /-- A later lookup of its key was answered: there is no such receipt. -/
  overtaken : Bool
deriving DecidableEq

/-- Every Portos of the bridge: the register requests, newest first. -/
structure Portos where
  posts : List ReceiptPost
deriving DecidableEq

namespace Portos

variable (p : Portos)

/-- A register request leaves the bridge. -/
def send (jobId : ℤ) (key : ReceiptKey) (path : String) (body : Json) : Portos :=
  { posts := ⟨p.posts.length, jobId, key.base, path, key.ext, body, none, none, false⟩ :: p.posts }

/-- The answer to a register request arrives. -/
def answer (number : ℕ) (reply : PortosReply) : Portos :=
  { posts := p.posts.map fun post =>
      if post.number = number then { post with reply := some reply } else post }

/-- Portos says that there is no receipt with a key. -/
def overtake (key : ReceiptKey) : Portos :=
  { posts := p.posts.map fun post =>
      if post.base = key.base ∧ post.ext = key.ext then { post with overtaken := true }
      else post }

/-- Portos registers the receipt of a request. -/
def carryOut (number : ℕ) (receipt : String × Json) : Portos :=
  { posts := p.posts.map fun post =>
      if post.number = number then { post with receipt := some receipt } else post }

end Portos

/-- What a Portos does by itself. -/
inductive PortosDevEvent where
  /-- The receipt of a request that waits is registered. -/
  | carryOut (number : ℕ) (receipt : String × Json)
deriving DecidableEq

def Portos.devStep (e : PortosDevEvent) (p : Portos) : Option Portos :=
  match e with
  | .carryOut number receipt =>
    if p.posts.any fun post => post.number == number && post.receipt.isNone then
      some (p.carryOut number receipt)
    else none

/-! ### The calls -/

/-- A call of `execute`. -/
inductive PortosPc where
  | start
  /-- Waiting for the answer of the lookup. -/
  | lookup (kind : ReceiptKind) (key : ReceiptKey)
  /-- There is no receipt: the device contact is to be journaled. -/
  | contact (kind : ReceiptKind) (key : ReceiptKey)
  /-- The device contact is journaled: the receipt is to be sent. -/
  | send (kind : ReceiptKind) (key : ReceiptKey)
  /-- Waiting for the answer to the register request. -/
  | posting (kind : ReceiptKind) (key : ReceiptKey) (number : ℕ)
  /-- Waiting for the answer to a request that leaves no fiscal record. -/
  | control (op : FiscalOp)
  | returned (outcome : Outcome)
deriving DecidableEq

/-- A call of `reconcile`. -/
inductive PortosReconcilePc where
  | start
  | lookup (key : ReceiptKey)
  /-- Waiting for the list of unprocessed requests. -/
  | unprocessed (key : ReceiptKey)
  | answered (answer : Reconciliation)
deriving DecidableEq

/-- A running call. -/
inductive PortosTask where
  | execute (job : DeviceJob) (pc : PortosPc)
  | reconcile (entry : JournalEntry) (pc : PortosReconcilePc)
deriving DecidableEq

/-- What happens to a call. -/
inductive PortosEvent where
  /-- It goes on by itself. -/
  | go
  | journalFails (error : String)
  | reply (reply : PortosReply)
deriving DecidableEq

/-- The memory of the process is not used by the calls. -/
abbrev PortosState := ExecState Portos Unit

/-- What the lookup before the register request means, unless there is no receipt. -/
def lookupOutcome (key : ReceiptKey) : Lookup → Option Outcome
  | .found body =>
    some (match receiptResult body key.ext .lookup with
      | some result => .done result
      | none => .indeterminate
          s!"Portos found a receipt for externalId {key.ext} but its answer is unreadable - reconciled, never registered again")
  | .notFound => none
  | .unreachable e =>
    some (.failed CODE_UNREACHABLE
      s!"devbridge could not connect to Portos ({e}) - the receipt was not sent, nothing ran")
  | .failed e =>
    some (.failed CODE_LOOKUP_FAILED
      s!"Portos could not be asked whether externalId {key.ext} is registered ({e}) - the receipt was not sent, nothing ran")

/-- What the lookup of a reconcile means, unless there is no receipt. -/
def lookupAnswer (key : ReceiptKey) : Lookup → Option Reconciliation
  | .found body =>
    some (match receiptResult body key.ext .reconcile with
      | some result => .done result
      | none => .stillUnknown
          s!"Portos found a receipt for externalId {key.ext} but its answer is unreadable - a person must check it in Portos")
  | .notFound => none
  | .unreachable e | .failed e =>
    some (.stillUnknown
      s!"Portos could not be asked about externalId {key.ext} ({e}) - asked again later")

namespace PortosConfig

variable (cfg : PortosConfig)

/-- The first step of `execute`. -/
def plan (job : DeviceJob) : PortosPc :=
  match FiscalOp.forJobType job.jobType with
  | some (.register kind) =>
    match cfg.receiptKey job (.register kind) with
    | none =>
      .returned (.failed CODE_BAD_PAYLOAD
        "the receipt names no till or cash register code - nothing ran")
    | some key => .lookup kind key
  | some op => .control op
  | none =>
    .returned (.failed CODE_UNSUPPORTED
      s!"the Portos executor has no operation for job type '{job.jobType}' - nothing ran")

/-- The first step of `reconcile`. -/
def planReconcile (job : DeviceJob) : PortosReconcilePc :=
  match FiscalOp.forJobType job.jobType with
  | some (.register kind) =>
    match cfg.receiptKey job (.register kind) with
    | none =>
      .answered (.stillUnknown
        "the receipt names no till or cash register code - a person must check it in Portos")
    | some key => .lookup key
  | some op => .answered (.failed CODE_RETRY_SAFE (retrySafeText op))
  | none =>
    .answered (.stillUnknown
      s!"the Portos executor has no operation for job type '{job.jobType}' - a person must check it")

/-- `reconcile_not_found`: a receipt that provably was never sent is `failed`. -/
def reconcileNotFound (key : ReceiptKey) (contacted : Bool) : PortosReconcilePc :=
  if contacted then .unprocessed key
  else
    .answered (.failed CODE_NOT_EXECUTED
      s!"devbridge never sent this receipt to Portos (the journal has no device contact) and Portos has no receipt with externalId {key.ext} - nothing ran")

/-- One step of a call of `execute`. -/
def executeStep (now : Time) (job : DeviceJob) (s : PortosState) :
    PortosPc → PortosEvent → Option (PortosPc × PortosState)
  | .start, .go => some (cfg.plan job, s)
  | .lookup kind key, .reply reply =>
    match lookupOutcome key (classifyLookup reply) with
    | some outcome => some (.returned outcome, s)
    | none => some (.contact kind key, { s with dev := s.dev.overtake key })
  | .contact kind key, .go =>
    some (.send kind key, { s with journal := (s.journal.markDeviceContact now job.id).2 })
  | .contact _ _, .journalFails e =>
    some (.returned (.failed CODE_JOURNAL
      s!"the device contact could not be journaled ({e}) - the receipt was not sent, nothing ran"), s)
  | .send kind key, .go =>
    some (.posting kind key s.dev.posts.length,
      { s with dev := s.dev.send job.id key kind.path (registerBody job.payload key.ext) })
  | .posting kind key number, .reply reply =>
    some (.returned (registerOutcome reply kind key.ext),
      { s with dev := s.dev.answer number reply })
  | .control op, .reply reply => some (.returned (controlOutcome reply op), s)
  | _, _ => none

/-- One step of a call of `reconcile`. -/
def reconcileStep (entry : JournalEntry) (s : PortosState) :
    PortosReconcilePc → PortosEvent → Option (PortosReconcilePc × PortosState)
  | .start, .go => some (cfg.planReconcile entry.job, s)
  | .lookup key, .reply reply =>
    match lookupAnswer key (classifyLookup reply) with
    | some answer => some (.answered answer, s)
    | none =>
      some (reconcileNotFound key entry.deviceContactAt.isSome,
        { s with dev := s.dev.overtake key })
  | .unprocessed key, .reply reply =>
    some (.answered (.stillUnknown
      (sentButNotFoundText (classifyUnprocessed reply key.ext) key.ext)), s)
  | _, _ => none

def step (now : Time) (ev : PortosEvent) (t : PortosTask) (s : PortosState) :
    Option (PortosTask × PortosState) :=
  match t with
  | .execute job pc => (cfg.executeStep now job s pc ev).map fun r => (.execute job r.1, r.2)
  | .reconcile entry pc =>
    (cfg.reconcileStep entry s pc ev).map fun r => (.reconcile entry r.1, r.2)

/-- `check`: refused before the job is journaled. -/
def check (job : DeviceJob) : Except Rejection Unit :=
  match FiscalOp.forJobType job.jobType with
  | none =>
    .error ⟨CODE_UNSUPPORTED,
      s!"the Portos executor has no operation for job type '{job.jobType}' - Portos was not contacted, nothing ran"⟩
  | some op =>
    if job.kasaId.isNone then
      .error ⟨CODE_NO_KASA,
        "the job names no till (kasa) - devbridge cannot choose its Portos, nothing ran"⟩
    else if (match op with | .register _ => !clientUuidOk job.clientUuid | _ => false) then
      .error ⟨CODE_BAD_CLIENT_UUID,
        "client_uuid must match [A-Za-z0-9_-]\x7b1,64\x7d (it is part of the receipt's externalId) - Portos was not contacted, nothing ran"⟩
    else
      match cfg.checkPayload op job.payload with
      | .ok _ => .ok ()
      | .error problems =>
        .error ⟨CODE_BAD_PAYLOAD, s!"{problems} - Portos was not contacted, nothing ran"⟩

end PortosConfig

/-- What one step of a call can do. -/
inductive PortosMove (cfg : PortosConfig) (now : Time) (s : PortosState) :
    PortosTask → PortosEvent → PortosTask → PortosState → Prop
  | plan (job : DeviceJob) :
    PortosMove cfg now s (.execute job .start) .go (.execute job (cfg.plan job)) s
  /-- The lookup decides the job: nothing is sent. -/
  | decided (job : DeviceJob) (kind : ReceiptKind) (key : ReceiptKey) (reply : PortosReply)
      (outcome : Outcome) (h : lookupOutcome key (classifyLookup reply) = some outcome) :
    PortosMove cfg now s (.execute job (.lookup kind key)) (.reply reply)
      (.execute job (.returned outcome)) s
  | notFound (job : DeviceJob) (kind : ReceiptKind) (key : ReceiptKey) (reply : PortosReply)
      (h : classifyLookup reply = .notFound) :
    PortosMove cfg now s (.execute job (.lookup kind key)) (.reply reply)
      (.execute job (.contact kind key)) { s with dev := s.dev.overtake key }
  | contacted (job : DeviceJob) (kind : ReceiptKind) (key : ReceiptKey) :
    PortosMove cfg now s (.execute job (.contact kind key)) .go (.execute job (.send kind key))
      { s with journal := (s.journal.markDeviceContact now job.id).2 }
  | notContacted (job : DeviceJob) (kind : ReceiptKind) (key : ReceiptKey)
      (error code text : String) :
    PortosMove cfg now s (.execute job (.contact kind key)) (.journalFails error)
      (.execute job (.returned (.failed code text))) s
  | sent (job : DeviceJob) (kind : ReceiptKind) (key : ReceiptKey) (body : Json) :
    PortosMove cfg now s (.execute job (.send kind key)) .go
      (.execute job (.posting kind key s.dev.posts.length))
      { s with dev := s.dev.send job.id key kind.path body }
  | answered (job : DeviceJob) (kind : ReceiptKind) (key : ReceiptKey) (number : ℕ)
      (reply : PortosReply) :
    PortosMove cfg now s (.execute job (.posting kind key number)) (.reply reply)
      (.execute job (.returned (registerOutcome reply kind key.ext)))
      { s with dev := s.dev.answer number reply }
  | controlled (job : DeviceJob) (op : FiscalOp) (reply : PortosReply) :
    PortosMove cfg now s (.execute job (.control op)) (.reply reply)
      (.execute job (.returned (controlOutcome reply op))) s
  | planReconcile (entry : JournalEntry) :
    PortosMove cfg now s (.reconcile entry .start) .go
      (.reconcile entry (cfg.planReconcile entry.job)) s
  | reconciled (entry : JournalEntry) (key : ReceiptKey) (reply : PortosReply)
      (answer : Reconciliation) (h : lookupAnswer key (classifyLookup reply) = some answer) :
    PortosMove cfg now s (.reconcile entry (.lookup key)) (.reply reply)
      (.reconcile entry (.answered answer)) s
  | absent (entry : JournalEntry) (key : ReceiptKey) (reply : PortosReply)
      (h : classifyLookup reply = .notFound) :
    PortosMove cfg now s (.reconcile entry (.lookup key)) (.reply reply)
      (.reconcile entry (PortosConfig.reconcileNotFound key entry.deviceContactAt.isSome))
      { s with dev := s.dev.overtake key }
  | listed (entry : JournalEntry) (key : ReceiptKey) (reply : PortosReply) (text : String) :
    PortosMove cfg now s (.reconcile entry (.unprocessed key)) (.reply reply)
      (.reconcile entry (.answered (.stillUnknown text))) s

lemma lookupOutcome_none {key : ReceiptKey} {l : Lookup} (h : lookupOutcome key l = none) :
    l = .notFound := by
  cases l <;> simp_all [lookupOutcome]

lemma lookupAnswer_none {key : ReceiptKey} {l : Lookup} (h : lookupAnswer key l = none) :
    l = .notFound := by
  cases l <;> simp_all [lookupAnswer]

lemma PortosMove.of_step {cfg : PortosConfig} {now : Time} {ev : PortosEvent}
    {t t' : PortosTask} {s s' : PortosState} (h : cfg.step now ev t s = some (t', s')) :
    PortosMove cfg now s t ev t' s' := by
  unfold PortosConfig.step at h
  cases t with
  | execute job pc =>
    simp only [Option.map_eq_some_iff, Prod.mk.injEq] at h
    obtain ⟨⟨pc', s₁⟩, h, rfl, rfl⟩ := h
    unfold PortosConfig.executeStep at h
    split at h
    · cases h
      exact .plan job
    · split at h
      · rename_i outcome hout
        cases h
        exact .decided job _ _ _ outcome hout
      · rename_i hnone
        cases h
        exact .notFound job _ _ _ (lookupOutcome_none hnone)
    · cases h
      exact .contacted job _ _
    · cases h
      exact .notContacted job _ _ _ _ _
    · cases h
      exact .sent job _ _ _
    · cases h
      exact .answered job _ _ _ _
    · cases h
      exact .controlled job _ _
    · cases h
  | reconcile entry pc =>
    simp only [Option.map_eq_some_iff, Prod.mk.injEq] at h
    obtain ⟨⟨pc', s₁⟩, h, rfl, rfl⟩ := h
    unfold PortosConfig.reconcileStep at h
    split at h
    · cases h
      exact .planReconcile entry
    · split at h
      · rename_i answer hanswer
        cases h
        exact .reconciled entry _ _ answer hanswer
      · rename_i hnone
        cases h
        exact .absent entry _ _ (lookupAnswer_none hnone)
    · cases h
      exact .listed entry _ _ _
    · cases h

lemma PortosMove.marks {cfg : PortosConfig} {now : Time} {ev : PortosEvent}
    {t t' : PortosTask} {s s' : PortosState} (h : PortosMove cfg now s t ev t' s') :
    ExecutorMarks s.journal s'.journal := by
  cases h with
  | contacted job kind key => exact ExecutorMarks.markDeviceContact _ _ _
  | plan | decided | notFound | notContacted | sent | answered | controlled | planReconcile
  | reconciled | absent | listed => exact ExecutorMarks.refl _

/-- The Portos executor.  Its own time limits (15 s for a lookup, 60 s for a register request)
end every call before the source's guard. -/
@[reducible] def portos (cfg : PortosConfig) : Executor where
  Task := PortosTask
  Dev := Portos
  Vol := Unit
  Event := PortosEvent
  DevEvent := PortosDevEvent
  dev₀ := ⟨[]⟩
  vol₀ := ()
  readFloat := cfg.readFloat
  drives kind := kind == .fiscal
  check := cfg.check
  endpoint job := cfg.urlFor job.kasaId
  execute job := .execute job .start
  reconcile entry := .reconcile entry .start
  background := []
  step now _ := cfg.step now
  devStep := Portos.devStep
  outcome
    | .execute _ (.returned outcome) => some outcome
    | _ => none
  answer
    | .reconcile _ (.answered answer) => some answer
    | _ => none
  mayOutlastGuard _ := false
  endpoint_till _ _ _ hkasa := by rw [hkasa]
  step_marks h := (PortosMove.of_step h).marks

end DevBridge

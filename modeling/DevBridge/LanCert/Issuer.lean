import DevBridge.Lib.Transition
import DevBridge.Server.Storage

/-!
# The issuer of the LAN certificates

A store asks the server for the certificate of its own name.  The server checks who asks and
what for, reserves the slot of the name, and a task of its own orders the certificate: a guard
goes with the task and settles the slot when the task ends, however it ends.

The requests, the tasks, the pairing of the clients and their streams take their steps in any
order.  What happens between two looks at shared state is one step.  A run is one life of the
server.
-/

namespace DevBridge

namespace Certificates

/-! ### Names -/

/-- The longest DNS label. -/
def MAX_DNS_LABEL : ℕ := 63

/-- One DNS label: 1–63 of `[a-z0-9-]`, no hyphen at either end. -/
def validDnsLabel (label : String) : Bool :=
  !label.toList.isEmpty && label.utf8ByteSize ≤ MAX_DNS_LABEL &&
    label.toList.head? != some '-' && label.toList.getLast? != some '-' &&
    label.toList.all fun c => c.isLower || c.isDigit || c == '-'

def toAsciiLowercase (s : String) : String := String.ofList (s.toList.map Char.toLower)

/-- The one name that a client may get: `<client_id>.<zone>`, lower-case. -/
def nameFor (zone clientId : String) : Option String :=
  let label := toAsciiLowercase clientId
  if validDnsLabel label then some (label ++ "." ++ zone) else none

/-! ### Certificate signing requests -/

/-- One name of a subjectAltName. -/
inductive GeneralName where
  | dnsName (dns : String)
  /-- Of another kind, as it is shown. -/
  | other (shown : String)
deriving DecidableEq, Repr

/-- A requested extension. -/
inductive ParsedExtension where
  | subjectAlternativeName (names : List GeneralName)
  | other
deriving DecidableEq, Repr

/-- The reader of X.509: the requested extensions of a CSR, if it has any. -/
abbrev X509 := List UInt8 → Except String (Option (List ParsedExtension))

/-- What is wrong with a CSR. -/
inductive CsrProblem where
  | unreadable (text : String)
  | nonDnsName (shown : String)
  | otherNames (ownName : String) (names : List String)
deriving DecidableEq, Repr

/-- One name behind the DNS names so far. -/
def addName (names : List String) : GeneralName → Except CsrProblem (List String)
  | .dnsName dns => .ok (names ++ [dns])
  | .other shown => .error (.nonDnsName shown)

/-- The names of one extension behind the DNS names so far. -/
def addNames (names : List String) : ParsedExtension → Except CsrProblem (List String)
  | .subjectAlternativeName san => san.foldlM addName names
  | .other => .ok names

/-- The DNS names a CSR asks for. -/
def csrDnsNames (x509 : X509) (csrDer : List UInt8) : Except CsrProblem (List String) :=
  match x509 csrDer with
  | .error e => .error (.unreadable e)
  | .ok extensions => (extensions.getD []).foldlM addNames []

/-! ### Requests and replies -/

/-- The address of a peer. -/
inductive IpAddr where
  | v4 (bits : BitVec 32)
  | v6 (bits : BitVec 128)
deriving DecidableEq, Repr

/-- Both addresses are known and equal. -/
def samePeer (stream request : Option IpAddr) : Bool :=
  match stream, request with
  | some s, some r => s = r
  | _, _ => false

structure CertificateRequest where
  clientId : String
  hostname : String
  csrDer : List UInt8
deriving DecidableEq, Repr

/-- Who asks, as the service sees it. -/
structure Caller where
  approved : Bool
  onItsStream : Bool
deriving DecidableEq, Repr

/-- Why a certificate is refused. -/
inductive Refusal where
  | acmeDisabled
  | notApproved (clientId : String)
  | notConnected (clientId : String)
  | badName (clientId zone hostname : String)
  | badCsr (problem : CsrProblem)
  | busy (ownName : String) (minInterval : ℕ)
  | rateLimited (ownName : String) (minInterval : ℕ)
  | acmeFailed (error : String)
  | taskFailed (error : String)
  | stillRunning (hostname : String) (answerTimeout : ℕ)
deriving DecidableEq, Repr

/-- Whole seconds of a duration (nanoseconds). -/
def asSecs (duration : ℕ) : ℕ := duration / 10 ^ 9

namespace Refusal

def code : Refusal → String
  | acmeDisabled => "acme_disabled"
  | notApproved _ => "not_approved"
  | notConnected _ => "not_connected"
  | badName _ _ _ => "bad_name"
  | badCsr _ => "bad_csr"
  | busy _ _ | stillRunning _ _ => "busy"
  | rateLimited _ _ => "rate_limited"
  | acmeFailed _ | taskFailed _ => "acme_failed"

/-- The text of a CSR's problem; how a list of names is shown is given. -/
def csrText (showNames : List String → String) : CsrProblem → String
  | .unreadable text => s!"unreadable CSR ({text})"
  | .nonDnsName shown => s!"the CSR asks for a non-DNS name ({shown})"
  | .otherNames ownName names =>
    s!"the CSR must name exactly {ownName} (it names {showNames names})"

def text (showNames : List String → String) : Refusal → String
  | acmeDisabled =>
    "this pz-server issues no LAN API certificates ([server.acme] is not enabled)"
  | notApproved clientId => s!"client '{clientId}' is not approved on this pz-server"
  | notConnected clientId => s!"client '{clientId}' has no job stream from this address - " ++
    "a certificate is issued only to the connected client"
  | badName clientId zone hostname =>
    s!"client '{clientId}' may get only '<client_id>.{zone}', not '{hostname}'"
  | badCsr problem => csrText showNames problem
  | busy ownName minInterval | rateLimited ownName minInterval =>
    s!"a certificate for {ownName} is being issued or was issued less than " ++
      s!"{asSecs minInterval} s ago"
  | acmeFailed error => error
  | taskFailed error => s!"the certificate order failed: {error}"
  | stillRunning hostname answerTimeout => s!"the certificate order for {hostname} is still " ++
    s!"running after {asSecs answerTimeout} s - ask again later"

end Refusal

structure CertificateReply where
  ok : Bool
  chainPem : String
  errorCode : String
  error : String
deriving DecidableEq, Repr

/-- What a request is answered. -/
inductive Answer where
  | issued (chainPem : String)
  | refused (refusal : Refusal)
deriving DecidableEq, Repr

def Answer.reply (showNames : List String → String) : Answer → CertificateReply
  | issued chainPem => ⟨true, chainPem, "", ""⟩
  | refused refusal => ⟨false, "", refusal.code, refusal.text showNames⟩

/-! ### The issuer -/

structure CertificateIssuer where
  zone : String
  x509 : X509
  minInterval : ℕ
  answerTimeout : ℕ
  orderLimit : ℕ

/-- The checks of a request that look at nothing shared: the name that it may get. -/
def CertificateIssuer.check (issuer : CertificateIssuer) (request : CertificateRequest)
    (caller : Caller) : Except Refusal String :=
  if !caller.approved then .error (.notApproved request.clientId)
  else if !caller.onItsStream then .error (.notConnected request.clientId)
  else
    match (nameFor issuer.zone request.clientId).filter (· == request.hostname) with
    | none => .error (.badName request.clientId issuer.zone request.hostname)
    | some ownName =>
      match csrDnsNames issuer.x509 request.csrDer with
      | .ok names =>
        if names = [ownName] then .ok ownName
        else .error (.badCsr (.otherNames ownName names))
      | .error problem => .error (.badCsr problem)

/-- Where an issuance of one name stands. -/
inductive Slot where
  /-- An order is running. -/
  | busy
  /-- The last certificate was issued then. -/
  | issued (time : ℕ)
deriving DecidableEq, Repr

/-- Whether a new order may start for a name in this slot. -/
def slotFree (slot : Option Slot) (now minInterval : ℕ) (ownName : String) :
    Except Refusal Unit :=
  match slot with
  | none => .ok ()
  | some .busy => .error (.busy ownName minInterval)
  | some (.issued time) =>
    if now - time < minInterval then .error (.rateLimited ownName minInterval) else .ok ()

/-- How an order ends. -/
inductive OrderResult where
  | issued (chainPem : String)
  | failed (error : String)
  /-- The task panicked; with the text of the join error. -/
  | panicked (error : String)
deriving DecidableEq, Repr

def OrderResult.isIssued : OrderResult → Bool
  | issued _ => true
  | _ => false

def OrderResult.answer : OrderResult → Answer
  | issued chainPem => .issued chainPem
  | failed error => .refused (.acmeFailed error)
  | panicked error => .refused (.taskFailed error)

/-! ### The server -/

abbrev RequestId := ℕ

/-- Where an order stands; its guard lives until it is settled. -/
inductive OrderPhase where
  /-- The slot is taken, the task is not spawned yet. -/
  | reserved
  | spawned
  /-- The certificate authority is asked. -/
  | issuing (since : ℕ)
  /-- The order is over, the guard is dropped next. -/
  | ended (result : OrderResult)
  | settled (result : OrderResult) (time : ℕ)
deriving DecidableEq, Repr

/-- One order; it is kept after its end. -/
structure Order where
  request : RequestId
  client : String
  name : String
  csrDer : List UInt8
  reservedAt : ℕ
  phase : OrderPhase
deriving DecidableEq, Repr

/-- Where a request stands. -/
inductive RequestPhase where
  | arrived
  /-- The address of the client's stream was compared with the request's. -/
  | peerRead (onItsStream : Bool)
  | checked (ownName : String)
  | reserved (order : ℕ)
  | waiting (order since : ℕ)
  | answered (answer : Answer)
  /-- The caller hung up. -/
  | dropped
deriving DecidableEq, Repr

structure Request where
  request : CertificateRequest
  peer : Option IpAddr
  phase : RequestPhase
deriving DecidableEq, Repr

/-- What the requests and the tasks share. -/
structure World where
  now : ℕ
  clients : String → Option Server.PairingState
  /-- The connection and the address of a client's current stream. -/
  streamPeers : String → Option (String × Option IpAddr)
  slots : String → Option Slot
  requests : RequestId → Option Request
  /-- In the order of their reservations. -/
  orders : List Order

namespace World

def peerOf (w : World) (machineId : String) : Option IpAddr :=
  (w.streamPeers machineId).bind Prod.snd

def setRequest (w : World) (r : RequestId) (q : Request) (phase : RequestPhase) : World :=
  { w with requests := Function.update w.requests r (some { q with phase }) }

def setOrder (w : World) (i : ℕ) (o : Order) (phase : OrderPhase) : World :=
  { w with orders := w.orders.set i { o with phase } }

def setSlot (w : World) (name : String) (slot : Option Slot) : World :=
  { w with slots := Function.update w.slots name slot }

end World

/-- One step. -/
inductive Event where
  | tick (d : ℕ)
  /-- The row of a client: paired, approved, rejected, gone. -/
  | setClient (machineId : String) (state : Option Server.PairingState)
  | connected (machineId connectionId : String) (peer : Option IpAddr)
  | disconnected (machineId connectionId : String)
  | request (r : RequestId) (request : CertificateRequest) (peer : Option IpAddr)
  | readPeer (r : RequestId)
  /-- The client's row is read, if the store lets it, and the request checked. -/
  | check (r : RequestId) (readable : Bool)
  | reserve (r : RequestId)
  | spawn (r : RequestId)
  | answer (r : RequestId)
  | answerTimeout (r : RequestId)
  | drop (r : RequestId)
  | ask (i : ℕ)
  | finish (i : ℕ) (result : OrderResult)
  | cutOff (i : ℕ)
  | settle (i : ℕ)
deriving DecidableEq, Repr

namespace World

variable (issuer : CertificateIssuer) (w : World)

/-! ### The steps of a request -/

/-- A request comes in; a server without an issuer answers it at once. -/
def arrive (certificates : Option CertificateIssuer) (r : RequestId)
    (request : CertificateRequest) (peer : Option IpAddr) : Option World :=
  if (w.requests r).isSome then none
  else
    let phase := match certificates with
      | some _ => .arrived
      | none => .answered (.refused .acmeDisabled)
    some { w with requests := Function.update w.requests r (some ⟨request, peer, phase⟩) }

def readPeer (r : RequestId) : Option World := do
  let q ← w.requests r
  match q.phase with
  | .arrived =>
    some (w.setRequest r q (.peerRead (samePeer (w.peerOf q.request.clientId) q.peer)))
  | _ => none

def check (r : RequestId) (readable : Bool) : Option World := do
  let q ← w.requests r
  match q.phase with
  | .peerRead onItsStream =>
    let approved := readable && w.clients q.request.clientId == some .approved
    match issuer.check q.request ⟨approved, onItsStream⟩ with
    | .ok ownName => some (w.setRequest r q (.checked ownName))
    | .error refusal => some (w.setRequest r q (.answered (.refused refusal)))
  | _ => none

/-- Check and take the slot of the name, under its lock; the guard is there at once. -/
def reserve (r : RequestId) : Option World := do
  let q ← w.requests r
  match q.phase with
  | .checked ownName =>
    match slotFree (w.slots ownName) w.now issuer.minInterval ownName with
    | .error refusal => some (w.setRequest r q (.answered (.refused refusal)))
    | .ok () =>
      let order : Order :=
        ⟨r, q.request.clientId, ownName, q.request.csrDer, w.now, .reserved⟩
      let taken := (w.setSlot ownName (some .busy)).setRequest r q (.reserved w.orders.length)
      some { taken with orders := w.orders ++ [order] }
  | _ => none

/-- The guard goes into the task; the request waits for it. -/
def spawn (r : RequestId) : Option World := do
  let q ← w.requests r
  match q.phase with
  | .reserved i =>
    let o ← w.orders[i]?
    match o.phase with
    | .reserved => some ((w.setOrder i o .spawned).setRequest r q (.waiting i w.now))
    | _ => none
  | _ => none

/-- The task that the request waits for is over. -/
def answer (r : RequestId) : Option World := do
  let q ← w.requests r
  match q.phase with
  | .waiting i _ =>
    let o ← w.orders[i]?
    match o.phase with
    | .settled result _ => some (w.setRequest r q (.answered result.answer))
    | _ => none
  | _ => none

def answerTimeout (r : RequestId) : Option World := do
  let q ← w.requests r
  match q.phase with
  | .waiting _ since =>
    if since + issuer.answerTimeout ≤ w.now then
      some (w.setRequest r q
        (.answered (.refused (.stillRunning q.request.hostname issuer.answerTimeout))))
    else none
  | _ => none

/-- A request can be dropped before it begins, and while it waits. -/
def drop (r : RequestId) : Option World := do
  let q ← w.requests r
  match q.phase with
  | .arrived | .waiting _ _ => some (w.setRequest r q .dropped)
  | _ => none

/-! ### The steps of an order -/

/-- The task asks the certificate authority. -/
def ask (i : ℕ) : Option World := do
  let o ← w.orders[i]?
  match o.phase with
  | .spawned => some (w.setOrder i o (.issuing w.now))
  | _ => none

/-- The authority issues or fails, or the task panics. -/
def finish (i : ℕ) (result : OrderResult) : Option World := do
  let o ← w.orders[i]?
  match o.phase with
  | .issuing _ => some (w.setOrder i o (.ended result))
  | _ => none

/-- The limit of the order has passed. -/
def cutOff (i : ℕ) : Option World := do
  let o ← w.orders[i]?
  match o.phase with
  | .issuing since =>
    if since + issuer.orderLimit ≤ w.now then
      let secs := asSecs issuer.orderLimit
      some (w.setOrder i o
        (.ended (.failed s!"the certificate order took longer than {secs} s")))
    else none
  | _ => none

/-- The guard is dropped. -/
def settle (i : ℕ) : Option World := do
  let o ← w.orders[i]?
  match o.phase with
  | .ended result =>
    let slot := if result.isIssued then some (.issued w.now) else none
    some ((w.setSlot o.name slot).setOrder i o (.settled result w.now))
  | _ => none

/-! ### The surroundings -/

def setClient (machineId : String) (state : Option Server.PairingState) : World :=
  { w with clients := Function.update w.clients machineId state }

def connect (machineId connectionId : String) (peer : Option IpAddr) : World :=
  { w with
    streamPeers := Function.update w.streamPeers machineId (some (connectionId, peer)) }

/-- Forgotten unless a newer stream replaced it. -/
def disconnect (machineId connectionId : String) : World :=
  if (w.streamPeers machineId).any fun live => live.1 == connectionId then
    { w with streamPeers := Function.update w.streamPeers machineId none }
  else w

end World

def step (certificates : Option CertificateIssuer) (w : World) : Event → Option World
  | .tick d => some { w with now := w.now + d }
  | .setClient machineId state => some (w.setClient machineId state)
  | .connected machineId connectionId peer => some (w.connect machineId connectionId peer)
  | .disconnected machineId connectionId => some (w.disconnect machineId connectionId)
  | .request r request peer => w.arrive certificates r request peer
  | .readPeer r => w.readPeer r
  | .check r readable => certificates.bind fun issuer => w.check issuer r readable
  | .reserve r => certificates.bind fun issuer => w.reserve issuer r
  | .spawn r => w.spawn r
  | .answer r => w.answer r
  | .answerTimeout r => certificates.bind fun issuer => w.answerTimeout issuer r
  | .drop r => w.drop r
  | .ask i => w.ask i
  | .finish i result => w.finish i result
  | .cutOff i => certificates.bind fun issuer => w.cutOff issuer i
  | .settle i => w.settle i

/-- The server with its issuer, if it has one, after its start. -/
def server (certificates : Option CertificateIssuer) : Transition World Event where
  init := ⟨0, fun _ => none, fun _ => none, fun _ => none, fun _ => none, []⟩
  step := step certificates

end Certificates

end DevBridge

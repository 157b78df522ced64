import DevBridge.Lib.Transition
import DevBridge.Server.IppServer

/-!
# The approval of clients

A client that subscribes is registered, and an administrator approves or rejects it.  A call of
the API is several statements, and other calls, subscriptions and the end of the process come
between any two of them.  An approval stores its decision first and creates the printer that the
client asked for afterwards.
-/

namespace DevBridge

namespace Server

/-! ### The driver of a printer -/

/-- Why a driver name is refused. -/
inductive DriverRefusal where
  | tooLong
  | forbidden (c : Char)
deriving DecidableEq, Repr

/-- `normalize_driver_name`, with the reason. -/
def checkDriverName (raw : Option String) : Except DriverRefusal (Option String) :=
  match (raw.map trim).filter (· ≠ "") with
  | none => .ok none
  | some name =>
    if maxDriverNameLen < name.length then .error .tooLong
    else
      match name.toList.find? fun c => c == '"' || c == '\\' || isControl c with
      | some c => .error (.forbidden c)
      | none => .ok (some name)

lemma toOption_checkDriverName (raw : Option String) :
    (checkDriverName raw).toOption = normalizeDriverName raw := by
  unfold checkDriverName normalizeDriverName
  rcases (raw.map trim).filter (· ≠ "") with _ | name
  · rfl
  · simp only
    split
    · rfl
    · rcases hfind : name.toList.find? fun c => c == '"' || c == '\\' || isControl c with _ | c
      · have hany : name.toList.any (fun c => c == '"' || c == '\\' || isControl c) = false := by
          rw [List.any_eq_false]
          exact fun c hc => by simpa using List.find?_eq_none.mp hfind c hc
        simp [hany, Except.toOption]
      · have hbad : (c == '"' || c == '\\' || isControl c) = true :=
          List.find?_some (p := fun c => c == '"' || c == '\\' || isControl c) hfind
        have hany : name.toList.any (fun c => c == '"' || c == '\\' || isControl c) = true :=
          List.any_eq_true.mpr ⟨c, List.mem_of_find?_eq_some hfind, hbad⟩
        simp [hany, Except.toOption]

/-! ### The table of clients -/

/-- What a client says of itself when it subscribes. -/
structure ClientIdentity where
  machineId : String
  hostname : String
  printerNames : List String
  clientVersion : String
  virtualPrinterName : String
  virtualPrinterDriver : String
deriving DecidableEq, Repr

/-- A row of `clients`. -/
structure ClientRegistration where
  machineId : String
  hostname : String
  printerNames : List String
  clientVersion : String
  lastSeen : Time
  isOnline : Bool
  pairingState : PairingState
  virtualPrinterName : Option String
  virtualPrinterDriver : Option String
deriving DecidableEq, Repr

/-- The registration of a subscription. -/
def ClientIdentity.registration (now : Time) (identity : ClientIdentity) : ClientRegistration where
  machineId := identity.machineId
  hostname := identity.hostname
  printerNames := identity.printerNames
  clientVersion := identity.clientVersion
  lastSeen := now
  isOnline := true
  pairingState := .pending
  virtualPrinterName :=
    if identity.virtualPrinterName = "" then none else some identity.virtualPrinterName
  virtualPrinterDriver :=
    if identity.virtualPrinterDriver = "" then none else some identity.virtualPrinterDriver

/-- The client asked for a virtual printer, under a driver name that can be used. -/
def ClientRegistration.asks (row : ClientRegistration) : Bool :=
  row.virtualPrinterName.isSome && (normalizeDriverName row.virtualPrinterDriver).isSome

abbrev ClientTable := String → Option ClientRegistration

namespace ClientTable

variable (clients : ClientTable)

def change (machineId : String) (f : ClientRegistration → ClientRegistration) : ClientTable :=
  Function.update clients machineId ((clients machineId).map f)

/-- `upsert_client`: the pairing state of a row stays, and so do a printer and a driver that are
not named again. -/
def upsertClient (reg : ClientRegistration) : ClientTable :=
  Function.update clients reg.machineId (some
    (match clients reg.machineId with
    | none => reg
    | some row =>
      { row with
        hostname := reg.hostname
        printerNames := reg.printerNames
        clientVersion := reg.clientVersion
        lastSeen := reg.lastSeen
        isOnline := reg.isOnline
        virtualPrinterName := reg.virtualPrinterName <|> row.virtualPrinterName
        virtualPrinterDriver := reg.virtualPrinterDriver <|> row.virtualPrinterDriver }))

/-- `set_client_online`. -/
def setClientOnline (now : Time) (machineId : String) (online : Bool) : ClientTable :=
  clients.change machineId fun row => { row with isOnline := online, lastSeen := now }

/-- `touch_client`. -/
def touchClient (now : Time) (machineId : String) : ClientTable :=
  clients.change machineId fun row => { row with lastSeen := now, isOnline := true }

/-- `set_all_clients_offline`. -/
def setAllClientsOffline : ClientTable := fun machineId =>
  (clients machineId).map fun row => { row with isOnline := false }

/-- `update_pairing_state`; a client that is not there is an error. -/
def updatePairingState (machineId : String) (state : PairingState) : Option ClientTable :=
  (clients machineId).map fun row =>
    Function.update clients machineId (some { row with pairingState := state })

end ClientTable

/-! ### Calls -/

/-- What the API answers. -/
inductive PairingAnswer where
  | notFound
  | databaseError
  | notUpdated
  | alreadyApproved
  /-- The virtual printer that was created, with its driver, and why none was. -/
  | approved (printer : Option (VirtualPrinter × Option String)) (error : Option DriverRefusal)
  | rejected
deriving DecidableEq, Repr

/-- A call of `approve_client` or `reject_client` between two of its steps. -/
inductive PairingCall where
  /-- Looks the client up next. -/
  | approve (machineId : String)
  /-- Stores the approval next; this is the row that was found. -/
  | approving (machineId : String) (client : ClientRegistration)
  /-- Inserts the virtual printer next. -/
  | creating (machineId name : String) (driver : Option String)
  /-- Registers the printer with the IPP server next. -/
  | adding (machineId : String) (vp : VirtualPrinter) (driver : Option String)
  | reject (machineId : String)
  | rejecting (machineId : String)
  | answering (answer : PairingAnswer)
deriving DecidableEq, Repr

structure ApprovalWorld where
  clients : ClientTable
  printers : PrinterTable
  nextPrinter : ℕ
  calls : ℕ → Option PairingCall
  nextCall : ℕ
  /-- The decisions that were stored, the last one first. -/
  decisions : List (String × PairingState)
  /-- The call that stored a client as approved last, and the row that it approved. -/
  approval : String → Option (ℕ × ClientRegistration)
  /-- The printers that were created by an approval. -/
  created : List VirtualPrinter
  answers : List (ℕ × PairingAnswer)

inductive ApprovalStep where
  /-- A client subscribes; the storage may fail. -/
  | subscribe (now : Time) (identity : ClientIdentity) (ok : Bool)
  | setOnline (now : Time) (machineId : String) (online : Bool)
  | heartbeat (now : Time) (machineId : String)
  /-- The process ends, at any time, and starts again. -/
  | restart
  /-- A printer is created, changed or deleted in the dashboard. -/
  | createPrinter (displayName : String) (pairedClientId : Option String)
  | updatePrinter (vp : VirtualPrinter)
  | deletePrinter (id : ℕ)
  | approve (machineId : String)
  | reject (machineId : String)
  /-- A call goes on; the storage may fail. -/
  | call (n : ℕ) (ok : Bool)

namespace ApprovalWorld

variable (ipp : IppConfig) (w : ApprovalWorld)

def init : ApprovalWorld where
  clients := fun _ => none
  printers := []
  nextPrinter := 0
  calls := fun _ => none
  nextCall := 0
  decisions := []
  approval := fun _ => none
  created := []
  answers := []

def setCall (n : ℕ) (call : Option PairingCall) : ApprovalWorld :=
  { w with calls := Function.update w.calls n call }

def startCall (call : PairingCall) : ApprovalWorld :=
  { w.setCall w.nextCall (some call) with nextCall := w.nextCall + 1 }

/-- The virtual printer that a display name gives. -/
def printer (displayName : String) (pairedClientId : Option String) : VirtualPrinter :=
  { id := w.nextPrinter
    displayName := displayName
    ippName := slugify ipp.tables displayName
    pairedClientId := pairedClientId }

/-- `approve_client` up to its first write: the row of the client, or an answer. -/
def lookUp (machineId : String) (ok : Bool) : PairingAnswer ⊕ ClientRegistration :=
  if ok then
    match w.clients machineId with
    | none => .inl .notFound
    | some row => if row.pairingState = .approved then .inl .alreadyApproved else .inr row
  else .inl .databaseError

/-- What `approve_client` does when the approval is stored. -/
def afterApproval (machineId : String) (client : ClientRegistration) : PairingCall :=
  match client.virtualPrinterName with
  | none => .answering (.approved none none)
  | some name =>
    match checkDriverName client.virtualPrinterDriver with
    | .error reason => .answering (.approved none (some reason))
    | .ok driver => .creating machineId name driver

/-- The next step of a call. -/
def runCall (n : ℕ) (ok : Bool) : PairingCall → ApprovalWorld
  | .approve machineId =>
    match w.lookUp machineId ok with
    | .inl answer => w.setCall n (some (.answering answer))
    | .inr client => w.setCall n (some (.approving machineId client))
  | .approving machineId client =>
    match w.clients machineId, w.clients.updatePairingState machineId .approved, ok with
    | some row, some clients, true =>
      { w.setCall n (some (afterApproval machineId client)) with
        clients := clients
        decisions := (machineId, .approved) :: w.decisions
        approval := Function.update w.approval machineId (some (n, row)) }
    | _, _, _ => w.setCall n (some (.answering .notUpdated))
  | .creating machineId name driver =>
    let vp := w.printer ipp name (some machineId)
    match w.printers.insertRow vp, ok with
    | some printers, true =>
      { w.setCall n (some (.adding machineId vp driver)) with
        printers := printers
        nextPrinter := w.nextPrinter + 1
        created := vp :: w.created }
    | _, _ => w.setCall n (some (.answering (.approved none none)))
  | .adding _ vp driver => w.setCall n (some (.answering (.approved (some (vp, driver)) none)))
  | .reject machineId =>
    if ok then
      match w.clients machineId with
      | none => w.setCall n (some (.answering .notFound))
      | some _ => w.setCall n (some (.rejecting machineId))
    else w.setCall n (some (.answering .databaseError))
  | .rejecting machineId =>
    match w.clients.updatePairingState machineId .rejected, ok with
    | some clients, true =>
      { w.setCall n (some (.answering .rejected)) with
        clients := clients
        decisions := (machineId, .rejected) :: w.decisions }
    | _, _ => w.setCall n (some (.answering .notUpdated))
  | .answering answer => { w.setCall n none with answers := (n, answer) :: w.answers }

/-- One step; `none` when it cannot happen now. -/
def step : ApprovalStep → Option ApprovalWorld
  | .subscribe now identity ok =>
    some { w with clients :=
      if ok then w.clients.upsertClient (identity.registration now) else w.clients }
  | .setOnline now machineId online =>
    some { w with clients := w.clients.setClientOnline now machineId online }
  | .heartbeat now machineId => some { w with clients := w.clients.touchClient now machineId }
  | .restart => some { w with clients := w.clients.setAllClientsOffline, calls := fun _ => none }
  | .createPrinter displayName pairedClientId =>
    (w.printers.insertRow (w.printer ipp displayName pairedClientId)).map fun printers =>
      { w with printers := printers, nextPrinter := w.nextPrinter + 1 }
  | .updatePrinter vp =>
    (w.printers.updateRow vp).map fun printers => { w with printers := printers }
  | .deletePrinter id =>
    (w.printers.deleteRow id).map fun printers => { w with printers := printers }
  | .approve machineId => some (w.startCall (.approve machineId))
  | .reject machineId => some (w.startCall (.reject machineId))
  | .call n ok => (w.calls n).map fun call => w.runCall ipp n ok call

end ApprovalWorld

/-- The approvals of a server from its first start on. -/
def approvalServer (ipp : IppConfig) : Transition ApprovalWorld ApprovalStep where
  init := .init
  step w e := w.step ipp e

end Server

end DevBridge

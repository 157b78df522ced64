import DevBridge.Server.Step

/-!
# Virtual printers and their routes

The database holds the virtual printers; the IPP server holds a map from their names to the
handlers of their documents, and the handler it took as the default when it began to listen.
The API changes a printer in the database and then in the map, as separate steps; a request is
routed by the map alone, and its document is queued some time later.  A storage call that fails
ends its handler, except for the lookup of the printer whose document is queued.
-/

namespace DevBridge

namespace Server

/-! ### Names -/

/-- What Unicode says of letters and digits. -/
structure UnicodeTables where
  toLowercase : String → String
  isAlphanumeric : Char → Bool

/-- `slugify`. -/
def slugify (tables : UnicodeTables) (name : String) : String :=
  String.intercalate "-" (((((tables.toLowercase name).toList.map fun c =>
    if tables.isAlphanumeric c then c else '-').splitOn '-').filter (· ≠ [])).map String.ofList)

def maxDriverNameLen : ℕ := 200

/-- `normalize_driver_name`: `none` when the name is refused. -/
def normalizeDriverName (raw : Option String) : Option (Option String) :=
  match (raw.map trim).filter (· ≠ "") with
  | none => some none
  | some name =>
    if maxDriverNameLen < name.length then none
    else if name.toList.any fun c => c == '"' || c == '\\' || isControl c then none
    else some (some name)

/-- The printer that a path asks for. -/
def requestedName (path : String) : Option String :=
  (stripPrefix "/printers/" path).map fun name =>
    String.ofList (name.toList.rdropWhile (· == '/'))

/-! ### Percent-decoding

The server never decodes a path.  This is what a client means by it. -/

def hexValue (c : Char) : Option ℕ :=
  if '0' ≤ c ∧ c ≤ '9' then some (c.toNat - '0'.toNat)
  else if 'a' ≤ c ∧ c ≤ 'f' then some (c.toNat - 'a'.toNat + 10)
  else if 'A' ≤ c ∧ c ≤ 'F' then some (c.toNat - 'A'.toNat + 10)
  else none

def percentBytes : List Char → List UInt8
  | '%' :: a :: b :: rest =>
    match hexValue a, hexValue b with
    | some x, some y => UInt8.ofNat (16 * x + y) :: percentBytes rest
    | _, _ => String.utf8EncodeChar '%' ++ percentBytes (a :: b :: rest)
  | c :: rest => String.utf8EncodeChar c ++ percentBytes rest
  | [] => []

/-- The name that a part of a path stands for, if it is text. -/
def percentDecode (s : String) : Option String :=
  String.fromUTF8? (percentBytes s.toList).toByteArray

/-! ### The table of virtual printers -/

namespace PrinterTable

/-- `get_virtual_printer`. -/
def byId (printers : PrinterTable) (id : ℕ) : Option VirtualPrinter :=
  printers.find? fun vp => vp.id == id

/-- `insert_virtual_printer`; the id and the name must be new. -/
def insertRow (printers : PrinterTable) (vp : VirtualPrinter) : Option PrinterTable :=
  if printers.any fun row => row.id == vp.id || row.ippName == vp.ippName then none
  else some (printers ++ [vp])

/-- `update_virtual_printer`; the printer must exist, and no other may have its name. -/
def updateRow (printers : PrinterTable) (vp : VirtualPrinter) : Option PrinterTable :=
  if printers.any fun row => row.id != vp.id && row.ippName == vp.ippName then none
  else if printers.any fun row => row.id == vp.id then
    some (printers.map fun row => if row.id = vp.id then vp else row)
  else none

/-- `delete_virtual_printer`. -/
def deleteRow (printers : PrinterTable) (id : ℕ) : Option PrinterTable :=
  if printers.any fun row => row.id == id then some (printers.filter fun row => row.id != id)
  else none

/-- The constraints of the table. -/
structure Unique (printers : PrinterTable) : Prop where
  id : ∀ a ∈ printers, ∀ b ∈ printers, a.id = b.id → a = b
  ippName : ∀ a ∈ printers, ∀ b ∈ printers, a.ippName = b.ippName → a = b

end PrinterTable

/-! ### The IPP server -/

/-- The handler of a virtual printer's documents. -/
structure JobHandler where
  ippName : String
deriving DecidableEq, Repr

/-- The job that `handle_document` queues; push finds its client. -/
def JobHandler.job (handler : JobHandler) (document : JobDocument) : NewJob :=
  { document := document, targetPrinter := handler.ippName, targetClientId := none }

/-- A handler of the API between two of its steps. -/
inductive PrinterTask where
  /-- A new printer is inserted next. -/
  | create (vp : VirtualPrinter)
  /-- The row of a printer is written next; its old name, if the display name changes. -/
  | update (vp : VirtualPrinter) (renamedFrom : Option String)
  /-- The old name is removed from the map next. -/
  | rename (oldIppName : String) (vp : VirtualPrinter)
  | add (vp : VirtualPrinter)
  | delete (id : ℕ) (ippName : String)
  | remove (ippName : String)
  /-- A client is approved next, and its printer, if it asked for one, is created then. -/
  | approve (machineId : String) (vp : Option VirtualPrinter)
deriving DecidableEq, Repr

/-- Whether the handler calls storage next. -/
def PrinterTask.stores : PrinterTask → Bool
  | .create _ | .update _ _ | .delete _ _ | .approve _ _ => true
  | .rename _ _ | .add _ | .remove _ => false

/-- What the server is configured with. -/
structure IppConfig where
  tables : UnicodeTables
  printerName : String

structure IppWorld where
  server : ServerWorld
  nextPrinter : ℕ
  /-- `printers`: the handlers by name. -/
  routes : String → Option JobHandler
  /-- `default_service`, once the server listens. -/
  defaultService : Option JobHandler
  tasks : List PrinterTask
  /-- The documents that are being received, with the handlers they go to. -/
  documents : List (ℕ × JobHandler)
  nextRequest : ℕ

/-- One step of the server's virtual printers or of its surroundings. -/
inductive IppStep where
  /-- The rest of the print server. -/
  | server (e : ServerStep)
  | create (displayName : String) (pairedClientId driver : Option String)
  /-- `none` leaves a field as it is. -/
  | update (id : ℕ) (displayName : Option String) (pairedClientId driver : Option (Option String))
  | delete (id : ℕ)
  /-- The client asked for this printer when it registered. -/
  | approve (machineId : String) (virtualPrinterName virtualPrinterDriver : Option String)
  /-- The handler at this place goes on; whether a service can be built, if it needs one. -/
  | task (place : ℕ) (built : Bool)
  /-- The server begins to listen, with this printer as the default. -/
  | listen (ippName : String)
  | request (path : String)
  /-- A document has arrived. -/
  | document (place : ℕ) (document : JobDocument)
  /-- A document cannot be read or stored. -/
  | abandon (place : ℕ)
  | restart
  /-- A document has arrived, and the lookup of its printer fails. -/
  | documentUnresolved (place : ℕ) (document : JobDocument)
  /-- The storage call of the handler at this place fails, and the handler answers an error. -/
  | taskFails (place : ℕ)

namespace IppWorld

variable (cfg : JobsConfig) (ipp : IppConfig) (w : IppWorld)

def printers : PrinterTable := w.server.printers

def setPrinters (printers : PrinterTable) : IppWorld :=
  { w with server := { w.server with printers := printers } }

def addTask (task : PrinterTask) : IppWorld := { w with tasks := task :: w.tasks }

/-! ### The API -/

def newPrinter (displayName : String) (pairedClientId : Option String) : VirtualPrinter :=
  { id := w.nextPrinter
    displayName := displayName
    ippName := slugify ipp.tables displayName
    pairedClientId := pairedClientId }

def takeId : IppWorld := { w with nextPrinter := w.nextPrinter + 1 }

/-- `create_virtual_printer`. -/
def create (displayName : String) (pairedClientId driver : Option String) : IppWorld :=
  if isBlank displayName then w
  else match normalizeDriverName driver with
    | none => w
    | some _ => w.takeId.addTask (.create (w.newPrinter ipp (trim displayName) pairedClientId))

/-- The row that `update_virtual_printer` writes. -/
def changed (vp : VirtualPrinter) (displayName : Option String)
    (pairedClientId : Option (Option String)) : VirtualPrinter :=
  { vp with
    displayName := displayName.getD vp.displayName
    ippName := (displayName.map (slugify ipp.tables)).getD vp.ippName
    pairedClientId := pairedClientId.getD vp.pairedClientId }

/-- `update_virtual_printer` up to its first write. -/
def update (id : ℕ) (displayName : Option String)
    (pairedClientId driver : Option (Option String)) : IppWorld :=
  match w.printers.byId id with
  | none => w
  | some vp =>
    let newName := displayName.filter (· ≠ vp.displayName)
    if driver.all fun driver => (normalizeDriverName driver).isSome then
      w.addTask (.update (changed ipp vp newName pairedClientId) (newName.map fun _ => vp.ippName))
    else w

/-- `delete_virtual_printer` up to its first write. -/
def delete (id : ℕ) : IppWorld :=
  match w.printers.byId id with
  | none => w
  | some vp => w.addTask (.delete id vp.ippName)

/-- `approve_client` up to its first write. -/
def approve (machineId : String) (virtualPrinterName virtualPrinterDriver : Option String) :
    IppWorld :=
  match w.server.clients machineId with
  | none => w
  | some row =>
    if row.pairingState = .approved then w
    else w.takeId.addTask (.approve machineId (virtualPrinterName.bind fun name =>
      (normalizeDriverName virtualPrinterDriver).map fun _ =>
        w.newPrinter ipp name (some machineId)))

/-! ### Handlers -/

/-- `add_printer`; an error is ignored by the API. -/
def addPrinter (vp : VirtualPrinter) (built : Bool) : IppWorld :=
  if built then { w with routes := Function.update w.routes vp.ippName (some ⟨vp.ippName⟩) } else w

/-- `remove_printer`. -/
def removePrinter (ippName : String) : IppWorld :=
  { w with routes := Function.update w.routes ippName none }

def runTask (built : Bool) : PrinterTask → IppWorld
  | .create vp =>
    match w.printers.insertRow vp with
    | some printers => (w.setPrinters printers).addTask (.add vp)
    | none => w
  | .update vp renamedFrom =>
    match w.printers.updateRow vp with
    | some printers =>
      match renamedFrom with
      | some oldIppName => (w.setPrinters printers).addTask (.rename oldIppName vp)
      | none => w.setPrinters printers
    | none => w
  | .rename oldIppName vp => (w.removePrinter oldIppName).addTask (.add vp)
  | .add vp => w.addPrinter vp built
  | .delete id ippName =>
    match w.printers.deleteRow id with
    | some printers => (w.setPrinters printers).addTask (.remove ippName)
    | none => w
  | .remove ippName => w.removePrinter ippName
  | .approve machineId vp =>
    let approved : IppWorld := { w with
      server := (w.server.updatePairingState machineId .approved).addTask .notifyPairing }
    match vp with
    | some vp => approved.addTask (.create vp)
    | none => approved

/-! ### Requests -/

/-- The handler of a request: that of the printer in its path, or the default one. -/
def service (path : String) : Option JobHandler :=
  w.defaultService.map fun fallback =>
    match requestedName path with
    | some name => (w.routes name).getD fallback
    | none => fallback

/-! ### Start -/

/-- Every printer of the database is added. -/
def loadRoutes (printers : PrinterTable) : String → Option JobHandler :=
  printers.foldl (fun routes vp => Function.update routes vp.ippName (some ⟨vp.ippName⟩))
    fun _ => none

/-- The printers that a start finds; the one of the configuration, if there are none. -/
def seeded : PrinterTable :=
  if w.printers = [] then [w.newPrinter ipp ipp.printerName none] else w.printers

/-- The process ends and starts again; it does not listen yet. -/
def restarted : IppWorld :=
  { server := { w.server.restarted with printers := w.seeded ipp }
    nextPrinter := w.nextPrinter + 1
    routes := loadRoutes (w.seeded ipp)
    defaultService := none
    tasks := []
    documents := []
    nextRequest := w.nextRequest }

/-! ### Steps -/

/-- One step; `none` when it cannot happen now. -/
def step : IppStep → Option IppWorld
  | .server (.setPrinters _) => none
  | .server .restart => none
  | .server e => (w.server.step cfg e).map fun server => { w with server := server }
  | .create displayName pairedClientId driver =>
    some (w.create ipp displayName pairedClientId driver)
  | .update id displayName pairedClientId driver =>
    some (w.update ipp id displayName pairedClientId driver)
  | .delete id => some (w.delete id)
  | .approve machineId virtualPrinterName virtualPrinterDriver =>
    some (w.approve ipp machineId virtualPrinterName virtualPrinterDriver)
  | .task place built =>
    w.tasks[place]?.map fun task =>
      { w with tasks := w.tasks.eraseIdx place }.runTask built task
  | .listen ippName =>
    match w.defaultService, w.routes ippName with
    | none, some handler => some { w with defaultService := some handler }
    | _, _ => none
  | .request path =>
    (w.service path).map fun handler =>
      { w with
        documents := (w.nextRequest, handler) :: w.documents
        nextRequest := w.nextRequest + 1 }
  | .document place document =>
    w.documents[place]?.map fun received =>
      { w with
        documents := w.documents.eraseIdx place
        server := w.server.push (received.2.job document) }
  | .abandon place =>
    w.documents[place]?.map fun _ => { w with documents := w.documents.eraseIdx place }
  | .restart => some (w.restarted ipp)
  | .documentUnresolved place document =>
    w.documents[place]?.map fun received =>
      { w with
        documents := w.documents.eraseIdx place
        server := w.server.pushUnresolved (received.2.job document) }
  | .taskFails place =>
    (w.tasks[place]?.filter PrinterTask.stores).map fun _ =>
      { w with tasks := w.tasks.eraseIdx place }

end IppWorld

/-- The virtual printers over a database. -/
structure StoredPrinters extends StoredData where
  nextPrinter : ℕ
  unique : printers.Unique

/-- The state before the first start. -/
def StoredPrinters.stopped (d : StoredPrinters) : IppWorld :=
  { server := d.toStoredData.start
    nextPrinter := d.nextPrinter
    routes := fun _ => none
    defaultService := none
    tasks := []
    documents := []
    nextRequest := 0 }

/-- The IPP server over a database, from its first start on. -/
def ippServer (cfg : JobsConfig) (ipp : IppConfig) (d : StoredPrinters) :
    Transition IppWorld IppStep where
  init := d.stopped.restarted ipp
  step w e := w.step cfg ipp e

end Server

end DevBridge

import DevBridge.Server.Storage
import Mathlib.Logic.Function.Basic

/-!
# The state of the print server

Storage, the registry of the clients' channels, the default queue and the job streams are
separate: each is changed under its own lock, and what a handler does between two locks can be
interleaved with everything else.  A handler that is between two locks is a *task*; a job
stream is a *connection*, from its registration to the end of its cleanup, and its loop stands
at one of the phases below.

The trace remembers what the statements about runs speak of, and nothing reads it: when a job
became queued, when it was put on a stream and in which state it was then.
-/

namespace DevBridge

namespace Server

/-- Connections have random ids that never repeat; here they are numbered. -/
abbrev ConnId := ℕ

/-- Where the handler of a job stream stands. -/
inductive Phase where
  /-- Registered; its peer address is recorded next. -/
  | registered
  | peerRecorded
  | setOnline
  | counted
  /-- The held jobs of the client were selected. -/
  | draining (ids : List JobId)
  /-- The top of the loop: the registration is read next. -/
  | gate
  | unapproved
  | approved (takesDefaultQueue : Bool)
  /-- Waits for a change of a pairing state, since the count `seen`. -/
  | waitPairing (seen : ℕ)
  /-- Looks at the own channel next. -/
  | polling (takesDefaultQueue : Bool) (seen : ℕ)
  /-- Looks at the default queue next. -/
  | tryDefault (takesDefaultQueue : Bool) (seen : ℕ)
  /-- Waits for a routed job, or for the default queue since the count `seen`. -/
  | waiting (takesDefaultQueue : Bool) (seen : ℕ)
  /-- `send_job`: the job is looked up next. -/
  | holding (id : JobId)
  /-- `send_job`: the job is put on the stream next. -/
  | sending (id : JobId) (retryCount : ℕ)
  /-- The loop ended; the steps of the cleanup follow. -/
  | leaving
  | uncounted
  | peerForgotten
  | active
  | unregistered
  | closed
deriving DecidableEq, Repr

/-- A job stream of a client. -/
structure Connection where
  machineId : String
  /-- The routed job ids that the loop has not taken. -/
  channel : List JobId
  phase : Phase
  /-- The client still listens. -/
  connected : Bool
deriving DecidableEq, Repr

/-- A handler or background task between two locks. -/
inductive Task where
  /-- `subscribe_jobs`: the client has a row, and its pairing state is read next. -/
  | checkPairing (machineId : String)
  /-- `subscribe_jobs` of a client that is not rejected, before the registration. -/
  | register (machineId : String)
  /-- A job that was inserted or requeued is routed next; the reaper goes on with the rest. -/
  | route (id : JobId) (target : Option String) (rest : List (JobId × ℕ))
  /-- A job was put into the default queue. -/
  | notifyDefault
  | notifyPairing
  /-- `complete_job`: the job was marked failed, and is looked up next. -/
  | marked (id : JobId) (errorDetail : String)
  /-- `complete_job`: the job was finished; it is unconfirmed next if it was completed. -/
  | unmarked (id : JobId)
  /-- A delayed requeue sleeps; `attempt` is the retry count that was read. -/
  | delayed (id : JobId) (attempt : ℕ) (errorDetail : String)
  /-- The reaper goes through the stale jobs it selected. -/
  | reap (rest : List (JobId × ℕ))
deriving DecidableEq, Repr

/-- What is remembered of a run. -/
inductive ServerEvent where
  /-- The job became `queued`: by a push or a requeue, or by a status update. -/
  | queued (id : JobId) (byStatus : Bool)
  /-- The job was put on a stream, in the state that was stored at that moment. -/
  | sent (conn : ConnId) (id : JobId) (state : Option JobState)
  /-- A failure of `complete_job` left the job failed. -/
  | leftFailed (id : JobId)
deriving DecidableEq, Repr

/-- The state of the server. -/
structure ServerWorld where
  /-- What the clock shows; it may be set back. -/
  now : Time
  jobs : JobTable
  nextJob : JobId
  printers : PrinterTable
  clients : String → Option ClientRow
  /-- `client_channels`: the current connection of a client. -/
  registry : String → Option ConnId
  conns : ConnId → Option Connection
  nextConn : ConnId
  defaultPending : List JobId
  /-- How often the waiters of the default queue were notified. -/
  defaultNotified : ℕ
  pairingNotified : ℕ
  connectedClients : ℕ
  streamPeers : String → Option ConnId
  tasks : List Task
  /-- The latest event first. -/
  trace : List ServerEvent

namespace ServerWorld

variable (w : ServerWorld)

def setConn (c : ConnId) (k : Connection) : ServerWorld :=
  { w with conns := Function.update w.conns c (some k) }

def setPhase (c : ConnId) (k : Connection) (phase : Phase) : ServerWorld :=
  w.setConn c { k with phase := phase }

def remember (event : ServerEvent) : ServerWorld := { w with trace := event :: w.trace }

def addTask (task : Task) : ServerWorld := { w with tasks := task :: w.tasks }

/-- `tx.send` into a channel; a closed one drops the ids. -/
def deliver (c : ConnId) (ids : List JobId) : ServerWorld :=
  match w.conns c with
  | some k =>
    if k.phase = .closed then w else w.setConn c { k with channel := k.channel ++ ids }
  | none => w

/-- Deliver to the current connection of a client, if there is one. -/
def deliverTo (machineId : String) (ids : List JobId) : ServerWorld :=
  match w.registry machineId with
  | some c => w.deliver c ids
  | none => w

/-- `is_active_connection`. -/
def isActiveConnection (machineId : String) (c : ConnId) : Bool :=
  w.registry machineId == some c

/-- `register_client`. -/
def registerClient (machineId : String) : ServerWorld :=
  { w with
    registry := Function.update w.registry machineId (some w.nextConn)
    conns := Function.update w.conns w.nextConn
      (some { machineId := machineId, channel := [], phase := .registered, connected := true })
    nextConn := w.nextConn + 1 }

/-- `unregister_client`. -/
def unregisterClient (machineId : String) (c : ConnId) : ServerWorld :=
  if w.registry machineId = some c then
    { w with registry := Function.update w.registry machineId none }
  else w

/-- An `UPDATE` of the row of a client. -/
def updateClient (machineId : String) (f : ClientRow → ClientRow) : ServerWorld :=
  { w with clients := Function.update w.clients machineId ((w.clients machineId).map f) }

/-- `set_client_online`. -/
def setClientOnline (machineId : String) (online : Bool) : ServerWorld :=
  w.updateClient machineId fun row => { row with isOnline := online }

/-- `touch_client`: a client that answers is online. -/
def touchClient (machineId : String) : ServerWorld := w.setClientOnline machineId true

/-- `update_pairing_state`, of a client that has a row. -/
def updatePairingState (machineId : String) (state : PairingState) : ServerWorld :=
  w.updateClient machineId fun row => { row with pairingState := state }

/-- `upsert_client`: a known client keeps its pairing state, and its driver unless it sends
one. -/
def upsertClient (machineId : String) (driver : Option String) : ServerWorld :=
  let row : ClientRow := match w.clients machineId with
    | some row =>
      { row with isOnline := true, virtualPrinterDriver := driver <|> row.virtualPrinterDriver }
    | none => { pairingState := .pending, isOnline := true, virtualPrinterDriver := driver }
  { w with clients := Function.update w.clients machineId (some row) }

end ServerWorld

end Server

end DevBridge

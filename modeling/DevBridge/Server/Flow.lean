import DevBridge.Server.Step
import Mathlib.Data.Multiset.Filter
import Mathlib.Tactic.Simps.Basic

/-!
# Where the job ids are

What becomes of a job is decided by where copies of its id are: under way to their routing, in
the default queue, in the channel of a connection, selected for a drain, in the hands of a
loop.  The flow of a server keeps just these places, the registry and the jobs.  Most steps of
the server leave the flow alone; the others are the moves below, and every invariant of the
flow is proved once for each of them.
-/

namespace DevBridge

namespace Server

/-! ### The flow -/

/-- How far the handler of a job stream is, as far as job ids are concerned. -/
inductive Stage where
  | opening
  /-- These ids were selected, and are delivered next. -/
  | draining (ids : List JobId)
  /-- The loop runs, with a job in its hands or with none. -/
  | running (hand : Option JobId)
  | ended
  | closed
deriving DecidableEq

def Phase.stage : Phase → Stage
  | .registered | .peerRecorded | .setOnline | .counted => .opening
  | .draining ids => .draining ids
  | .gate | .unapproved | .approved _ | .waitPairing _ | .polling _ _ | .tryDefault _ _
  | .waiting _ _ => .running none
  | .holding id | .sending id _ => .running (some id)
  | .leaving | .uncounted | .peerForgotten | .active | .unregistered => .ended
  | .closed => .closed

/-- A connection in the flow. -/
structure Line where
  machineId : String
  channel : List JobId
  stage : Stage
  connected : Bool
deriving DecidableEq

def Connection.line (k : Connection) : Line :=
  { machineId := k.machineId, channel := k.channel, stage := k.phase.stage,
    connected := k.connected }

/-- The job a task routes, and whereto. -/
def Task.routing : Task → Option (JobId × Option String)
  | .route id target _ => some (id, target)
  | _ => none

/-- A task that is on the way to a delayed requeue. -/
def Task.isRetry : Task → Bool
  | .marked _ _ | .delayed _ _ _ => true
  | _ => false

/-- The jobs, the places of their ids, and the retries to come. -/
structure Flow where
  jobs : JobTable
  nextJob : JobId
  registry : String → Option ConnId
  nextConn : ConnId
  lines : ConnId → Option Line
  pending : List JobId
  routes : Multiset (JobId × Option String)
  retries : Multiset Task
  trace : List ServerEvent

def routesOf (tasks : List Task) : Multiset (JobId × Option String) :=
  (tasks.filterMap Task.routing : List _)

def retriesOf (tasks : List Task) : Multiset Task := (tasks.filter Task.isRetry : List Task)

def ServerWorld.flow (w : ServerWorld) : Flow :=
  { jobs := w.jobs
    nextJob := w.nextJob
    registry := w.registry
    nextConn := w.nextConn
    lines := fun c => (w.conns c).map Connection.line
    pending := w.defaultPending
    routes := routesOf w.tasks
    retries := retriesOf w.tasks
    trace := w.trace }

namespace Flow

variable (f : Flow)

@[simps] def setLine (c : ConnId) (l : Line) : Flow :=
  { f with lines := Function.update f.lines c (some l) }

def deliver (c : ConnId) (ids : List JobId) : Flow :=
  match f.lines c with
  | some l => if l.stage = .closed then f else f.setLine c { l with channel := l.channel ++ ids }
  | none => f

def deliverTo (machineId : String) (ids : List JobId) : Flow :=
  match f.registry machineId with
  | some c => f.deliver c ids
  | none => f

@[simps] def remember (event : ServerEvent) : Flow := { f with trace := event :: f.trace }

@[simps] def opened (machineId : String) : Flow :=
  { f with
    registry := Function.update f.registry machineId (some f.nextConn)
    lines := Function.update f.lines f.nextConn
      (some { machineId := machineId, channel := [], stage := .opening, connected := true })
    nextConn := f.nextConn + 1 }

@[simps] def unregistered (machineId : String) : Flow :=
  { f with registry := Function.update f.registry machineId none }

@[simps] def pushed (row : JobRow) : Flow :=
  { f with
    jobs := f.jobs.insertJob f.nextJob row
    nextJob := f.nextJob + 1
    routes := (f.nextJob, row.targetClientId) ::ₘ f.routes
    trace := .queued f.nextJob false :: f.trace }

/-- The job is written as queued again, and is routed next. -/
@[simps] def requeued (id : JobId) (now : Time) (errorDetail : String)
    (target : Option String) : Flow :=
  { f with
    jobs := f.jobs.update id (fun _ => true) (JobRow.requeued now errorDetail)
    routes := (id, target) ::ₘ f.routes
    trace := .queued id false :: f.trace }

def routed (id : JobId) : Option String → Flow
  | some client => f.deliverTo client [id]
  | none => { f with pending := f.pending ++ [id] }

@[simps] def withRoutes (routes : Multiset (JobId × Option String)) : Flow :=
  { f with routes := routes }

@[simps] def withRetries (retries : Multiset Task) : Flow := { f with retries := retries }

@[simps] def withPending (pending : List JobId) : Flow := { f with pending := pending }

@[simps] def withJobs (jobs : JobTable) : Flow := { f with jobs := jobs }

@[simps] def restarted : Flow :=
  { f with
    registry := fun _ => none
    lines := fun _ => none
    pending := f.jobs.queuedUnpaired
    routes := 0
    retries := 0 }

/-! ### Deliveries -/

section Deliveries

variable {f : Flow} {machineId : String} {ids : List JobId} {c : ConnId} {l : Line}

lemma deliverTo_of (hr : f.registry machineId = some c) (hl : f.lines c = some l)
    (h : l.stage ≠ .closed) :
    f.deliverTo machineId ids = f.setLine c { l with channel := l.channel ++ ids } := by
  simp [deliverTo, deliver, hr, hl, h]

/-- A delivery is dropped, or lengthens the channel of the current connection. -/
lemma deliverTo_cases (f : Flow) (machineId : String) (ids : List JobId) :
    f.deliverTo machineId ids = f ∨ ∃ c l, f.registry machineId = some c ∧
      f.lines c = some l ∧ l.stage ≠ .closed ∧
        f.deliverTo machineId ids = f.setLine c { l with channel := l.channel ++ ids } := by
  cases hr : f.registry machineId with
  | none => exact Or.inl (by simp [deliverTo, hr])
  | some c =>
    cases hl : f.lines c with
    | none => exact Or.inl (by simp [deliverTo, deliver, hr, hl])
    | some l =>
      by_cases h : l.stage = .closed
      · exact Or.inl (by simp [deliverTo, deliver, hr, hl, h])
      · exact Or.inr ⟨c, l, rfl, hl, h, deliverTo_of hr hl h⟩

@[simp] lemma deliverTo_jobs : (f.deliverTo machineId ids).jobs = f.jobs := by
  rcases f.deliverTo_cases machineId ids with h | ⟨c, l, -, -, -, h⟩ <;> rw [h]
  rfl

@[simp] lemma deliverTo_nextJob : (f.deliverTo machineId ids).nextJob = f.nextJob := by
  rcases f.deliverTo_cases machineId ids with h | ⟨c, l, -, -, -, h⟩ <;> rw [h]
  rfl

@[simp] lemma deliverTo_registry : (f.deliverTo machineId ids).registry = f.registry := by
  rcases f.deliverTo_cases machineId ids with h | ⟨c, l, -, -, -, h⟩ <;> rw [h]
  rfl

@[simp] lemma deliverTo_nextConn : (f.deliverTo machineId ids).nextConn = f.nextConn := by
  rcases f.deliverTo_cases machineId ids with h | ⟨c, l, -, -, -, h⟩ <;> rw [h]
  rfl

@[simp] lemma deliverTo_pending : (f.deliverTo machineId ids).pending = f.pending := by
  rcases f.deliverTo_cases machineId ids with h | ⟨c, l, -, -, -, h⟩ <;> rw [h]
  rfl

@[simp] lemma deliverTo_routes : (f.deliverTo machineId ids).routes = f.routes := by
  rcases f.deliverTo_cases machineId ids with h | ⟨c, l, -, -, -, h⟩ <;> rw [h]
  rfl

@[simp] lemma deliverTo_retries : (f.deliverTo machineId ids).retries = f.retries := by
  rcases f.deliverTo_cases machineId ids with h | ⟨c, l, -, -, -, h⟩ <;> rw [h]
  rfl

@[simp] lemma deliverTo_trace : (f.deliverTo machineId ids).trace = f.trace := by
  rcases f.deliverTo_cases machineId ids with h | ⟨c, l, -, -, -, h⟩ <;> rw [h]
  rfl

@[simp] lemma routed_jobs (id : JobId) (target : Option String) :
    (f.routed id target).jobs = f.jobs := by
  cases target <;> simp [routed]

@[simp] lemma routed_nextJob (id : JobId) (target : Option String) :
    (f.routed id target).nextJob = f.nextJob := by
  cases target <;> simp [routed]

@[simp] lemma routed_registry (id : JobId) (target : Option String) :
    (f.routed id target).registry = f.registry := by
  cases target <;> simp [routed]

@[simp] lemma routed_nextConn (id : JobId) (target : Option String) :
    (f.routed id target).nextConn = f.nextConn := by
  cases target <;> simp [routed]

@[simp] lemma routed_routes (id : JobId) (target : Option String) :
    (f.routed id target).routes = f.routes := by
  cases target <;> simp [routed]

@[simp] lemma routed_retries (id : JobId) (target : Option String) :
    (f.routed id target).retries = f.retries := by
  cases target <;> simp [routed]

@[simp] lemma routed_trace (id : JobId) (target : Option String) :
    (f.routed id target).trace = f.trace := by
  cases target <;> simp [routed]

end Deliveries

end Flow

/-- What a write that queues no job does to a row: a finished job stays finished, and one that
ended with a print stays so. -/
structure RowWrite (row row' : JobRow) : Prop where
  target : row'.targetClientId = row.targetClientId
  count : row'.retryCount = row.retryCount
  queued : row'.isQueued → row.isQueued
  finished : row.finished → row'.finished
  printed : row.maybePrinted → row'.maybePrinted

/-- A write that queues no job and adds no row. -/
def Wrote (jobs jobs' : JobTable) : Prop :=
  ∀ id row', jobs'.get? id = some row' → ∃ row, jobs.get? id = some row ∧ RowWrite row row'

/-- A report that ends the job, as far as the server believes it. -/
def ServerStep.ends (id : JobId) : ServerStep → Prop
  | .status update => update.jobId = id ∧
      statusUpdateState (protoStateToCore update.state) update.stage ∈
        [.completed, .cancelled, .unconfirmed]
  | .complete completion => completion.jobId = id ∧
      (completion.success = true ∨ completion.unconfirmed = true)
  | _ => False

/-- The row of the job, if there still is one, is in progress. -/
def InProgress (jobs : JobTable) (id : JobId) : Prop :=
  ∀ row, jobs.get? id = some row → row.inProgress

/-- What becomes of a retry, short of a requeue. -/
inductive Flow.Retry (cfg : JobsConfig) (f : Flow) : Multiset Task → Prop where
  /-- A delayed requeue finds no job to requeue. -/
  | lapsed (id : JobId) (attempt : ℕ) (errorDetail : String) (retries : Multiset Task)
      (hretry : f.retries = .delayed id attempt errorDetail ::ₘ retries)
      (h : ∀ row, f.jobs.get? id = some row → row.requeueable = false) : Retry cfg f retries
  | scheduled (id : JobId) (errorDetail : String) (row : JobRow) (retries : Multiset Task)
      (hretry : f.retries = .marked id errorDetail ::ₘ retries)
      (hrow : f.jobs.get? id = some row) (h : row.retryCount < cfg.maxRetries) :
      Retry cfg f (.delayed id row.retryCount errorDetail ::ₘ retries)
  /-- The job was deleted, or the limit is reached. -/
  | givenUp (id : JobId) (errorDetail : String) (retries : Multiset Task)
      (hretry : f.retries = .marked id errorDetail ::ₘ retries)
      (h : ∀ row, f.jobs.get? id = some row → cfg.maxRetries ≤ row.retryCount) :
      Retry cfg f retries

/-- Where a task that requeues the job routes it: to the client of its row, or to none when the
row cannot be read back. -/
inductive Flow.Routes (f : Flow) (id : JobId) : ServerStep → Option String → Prop where
  | readBack (place : ℕ) (row : JobRow) (hrow : f.jobs.get? id = some row) :
      Routes f id (.task place) row.targetClientId
  | unread (place : ℕ) : Routes f id (.requeueUnread place) none

/-- What a step does to the flow. -/
inductive Flow.Move (cfg : JobsConfig) (f : Flow) : ServerStep → Flow → Prop where
  | quiet (e : ServerStep) : Move cfg f e f
  | pushed (e : ServerStep) (row : JobRow) (hqueued : row.state = .known .queued)
      (hcount : row.retryCount = 0) (he : e.pushes) : Move cfg f e (f.pushed row)
  | requeued (e : ServerStep) (id : JobId) (row : JobRow) (target : Option String) (now : Time)
      (errorDetail : String) (retries : Multiset Task) (hrow : f.jobs.get? id = some row)
      (h : row.requeueable)
      (hretries : f.retries = retries ∨
        ∃ attempt, f.retries = .delayed id attempt errorDetail ::ₘ retries)
      (he : f.Routes id e target) :
      Move cfg f e ((f.withRetries retries).requeued id now errorDetail target)
  | retry (place : ℕ) (retries : Multiset Task) (h : f.Retry cfg retries) :
      Move cfg f (.task place) (f.withRetries retries)
  /-- A retry ends at a failing call. -/
  | retryFailed (place : ℕ) (task : Task) (retries : Multiset Task)
      (hretry : f.retries = task ::ₘ retries) :
      Move cfg f (.taskFails place) (f.withRetries retries)
  | routed (place : ℕ) (id : JobId) (target : Option String)
      (routes : Multiset (JobId × Option String)) (h : f.routes = (id, target) ::ₘ routes) :
      Move cfg f (.task place) ((f.withRoutes routes).routed id target)
  | opened (place : ℕ) (machineId : String) : Move cfg f (.task place) (f.opened machineId)
  | selected (c : ConnId) (l : Line) (hl : f.lines c = some l) (h : l.stage = .opening) :
      Move cfg f (.loop c)
        (f.setLine c { l with stage := .draining (f.jobs.queuedFor l.machineId) })
  /-- The held jobs cannot be read, and are not drained. -/
  | undrained (c : ConnId) (l : Line) (hl : f.lines c = some l) (h : l.stage = .opening) :
      Move cfg f (.loopFails c) (f.setLine c { l with stage := .running none })
  | drained (c : ConnId) (l : Line) (hl : f.lines c = some l) (ids : List JobId)
      (h : l.stage = .draining ids) :
      Move cfg f (.loop c)
        ((f.setLine c { l with stage := .running none }).deliverTo l.machineId ids)
  | taken (c : ConnId) (l : Line) (hl : f.lines c = some l) (h : l.stage = .running none)
      (id : JobId) (rest : List JobId) (hid : l.channel = id :: rest) :
      Move cfg f (.loop c) (f.setLine c { l with channel := rest, stage := .running (some id) })
  | popped (c : ConnId) (l : Line) (hl : f.lines c = some l) (h : l.stage = .running none)
      (id : JobId) (rest : List JobId) (hid : f.pending = id :: rest) :
      Move cfg f (.loop c) ((f.withPending rest).setLine c { l with stage := .running (some id) })
  | dropped (c : ConnId) (l : Line) (hl : f.lines c = some l) (id : JobId)
      (h : l.stage = .running (some id))
      (hid : ∀ row, f.jobs.get? id = some row → row.isQueued = false) :
      Move cfg f (.loop c) (f.setLine c { l with stage := .running none })
  /-- The job cannot be read, and its id is dropped. -/
  | unseen (c : ConnId) (l : Line) (hl : f.lines c = some l) (id : JobId)
      (h : l.stage = .running (some id)) :
      Move cfg f (.loopFails c) (f.setLine c { l with stage := .running none })
  | sent (c : ConnId) (l : Line) (hl : f.lines c = some l) (id : JobId)
      (h : l.stage = .running (some id)) (hc : l.connected = true) :
      Move cfg f (.loop c) ((f.setLine c { l with stage := .running none }).remember
        (.sent c id ((f.jobs.get? id).map fun row => row.state.read)))
  | failed (c : ConnId) (l : Line) (hl : f.lines c = some l) (id : JobId)
      (h : l.stage = .running (some id)) (hc : l.connected = false) :
      Move cfg f (.loop c) (f.setLine c { l with stage := .ended })
  | unregistered (c : ConnId) (l : Line) (hl : f.lines c = some l) (h : l.stage = .ended)
      (hc : f.registry l.machineId = some c) :
      Move cfg f (.loop c) (f.unregistered l.machineId)
  | closed (e : ServerStep) (c : ConnId) (l : Line) (hl : f.lines c = some l)
      (h : l.stage = .ended) (he : e = .loop c ∨ e = .loopFails c) :
      Move cfg f e (f.setLine c { l with stage := .closed })
  | disconnected (c : ConnId) (l : Line) (hl : f.lines c = some l) :
      Move cfg f (.disconnect c) (f.setLine c { l with connected := false })
  | reopened (update : JobStatusUpdate) (row : JobRow) (now : Time)
      (hrow : f.jobs.get? update.jobId = some row) (h : row.inProgress)
      (hnot : row.isQueued = false)
      (hstate : statusUpdateState (protoStateToCore update.state) update.stage = .queued) :
      Move cfg f (.status update)
        ((f.withJobs (f.jobs.update update.jobId (fun _ => true)
          (JobRow.withState now .queued))).remember (.queued update.jobId true))
  | wrote (e : ServerStep) (jobs : JobTable) (h : Wrote f.jobs jobs)
      (hends : ∀ id, InProgress f.jobs id → ¬ e.ends id → InProgress jobs id) :
      Move cfg f e (f.withJobs jobs)
  | leftFailed (completion : JobCompletion) (row : JobRow) (now : Time)
      (hsuccess : completion.success = false) (hunconfirmed : completion.unconfirmed = false)
      (hrow : f.jobs.get? completion.jobId = some row) (h : row.inProgress) :
      Move cfg f (.complete completion)
        (((f.withJobs (f.jobs.update completion.jobId (fun _ => true)
          (JobRow.withState now .failed))).remember (.leftFailed completion.jobId)).withRetries
            (.marked completion.jobId completion.errorDetail ::ₘ f.retries))
  | restarted : Move cfg f .restart f.restarted

end Server

end DevBridge

import DevBridge.Lib.Transition
import DevBridge.Lib.UrlQuery
import DevBridge.Server.Step

/-!
# The tray of one session

The tray shows the print jobs of its user: a short list, an icon and notifications.  It hears of
a job in three ways: it fetches the stored jobs once, and the service pushes an event when a job
is created or changes its state, and one for each stage of a print.  On a server all sessions
get the events of all users, so until the tray knows the mode of the service and its own user it
drops everything, and the stored jobs are asked for by the name of the user.

The library that opens a URL and the one that reads its query are not part of the bridge: what
the dashboard reads of a URL is a parameter.
-/

namespace DevBridge

namespace Tray

open Server (PrintStage)

/-! ### The tracker -/

inductive IconState where
  /-- Idle. -/
  | green
  /-- A job is printing. -/
  | yellow
  /-- The last job failed. -/
  | red
  /-- The service is offline. -/
  | gray
deriving DecidableEq, Repr

inductive JobDisplayStatus where
  | inProgress
  | completed
  | failed
  /-- The printer accepted the job but never confirmed its end. -/
  | unconfirmed
deriving DecidableEq, Repr

structure RecentJob where
  jobId : String
  targetPrinter : String
  status : JobDisplayStatus
  timestamp : Time
deriving DecidableEq, Repr

/-- Whose events pass. -/
inductive FilterState where
  /-- Not known yet: drop all events. -/
  | pending
  /-- A client: pass all events. -/
  | disabled
  /-- A server: pass the events of this user. -/
  | user (name : String)
deriving DecidableEq, Repr

structure JobTracker where
  recentJobs : List RecentJob
  iconState : IconState
  filter : FilterState
deriving DecidableEq, Repr

def maxRecentJobs : ℕ := 5

namespace JobTracker

def new : JobTracker where
  recentJobs := []
  iconState := .gray
  filter := .pending

/-- `set_filter_state`. -/
def setFilterState (t : JobTracker) (state : FilterState) : JobTracker := { t with filter := state }

/-- `should_process`. -/
def shouldProcess (t : JobTracker) (requestingUser : Option String) : Bool :=
  match t.filter with
  | .pending => false
  | .disabled => true
  | .user name => requestingUser.any fun user => eqIgnoreAsciiCase user name

/-- `add_job`: to the front, and the oldest one goes. -/
def addJob (t : JobTracker) (job : RecentJob) : JobTracker :=
  { t with recentJobs := (job :: t.recentJobs).take maxRecentJobs }

/-- `on_job_created`. -/
def onJobCreated (t : JobTracker) (now : Time) (jobId targetPrinter : String) : JobTracker :=
  { t.addJob ⟨jobId, targetPrinter, .inProgress, now⟩ with iconState := .yellow }

def knows (t : JobTracker) (jobId : String) : Bool := t.recentJobs.any (·.jobId = jobId)

/-- The status of the first job with an id. -/
def setStatus (jobId : String) (status : JobDisplayStatus) : List RecentJob → List RecentJob
  | [] => []
  | job :: jobs =>
    if job.jobId = jobId then { job with status := status } :: jobs
    else job :: setStatus jobId status jobs

/-- A job that is known gets a status, and the icon follows. -/
def display (t : JobTracker) (jobId : String) (status : JobDisplayStatus) (icon : IconState) :
    JobTracker :=
  { t with recentJobs := setStatus jobId status t.recentJobs, iconState := icon }

/-- What a stage shows. -/
def ofStage (stage : PrintStage) (success : Bool) : Option (JobDisplayStatus × IconState) :=
  if stage = .completed ∧ success then some (.completed, .green)
  else if stage = .unconfirmed then some (.unconfirmed, .green)
  else if stage = .failed ∨ ¬ success then some (.failed, .red)
  else none

/-- What a state shows: the other states are still in progress. -/
def ofState : Server.JobState → Option (JobDisplayStatus × IconState)
  | .completed => some (.completed, .green)
  | .failed | .cancelled => some (.failed, .red)
  | .unconfirmed => some (.unconfirmed, .green)
  | .queued | .downloading | .printing => none

/-- `on_print_event`. -/
def onPrintEvent (t : JobTracker) (jobId : String) (stage : PrintStage) (success : Bool) :
    JobTracker :=
  if t.knows jobId then
    match ofStage stage success with
    | some (status, icon) => t.display jobId status icon
    | none => t
  else t

/-- `on_state_changed`, with the status that is worth a notification. -/
def onStateChanged (t : JobTracker) (jobId : String) (state : Server.JobState) :
    JobTracker × Option JobDisplayStatus :=
  if t.knows jobId then
    match ofState state with
    | some (status, icon) => (t.display jobId status icon, some status)
    | none => (t, none)
  else (t, none)

/-- `set_online`: only the offline icon gives way. -/
def setOnline (t : JobTracker) (online : Bool) : JobTracker :=
  if online then
    if t.iconState = .gray then { t with iconState := .green } else t
  else { t with iconState := .gray }

end JobTracker

/-! ### The stored jobs -/

/-- A stored job, as far as the tray is told of it. -/
structure StoredJob where
  jobId : String
  targetPrinter : String
  state : Server.JobState
  requestingUser : Option String
  createdAt : Time
deriving DecidableEq, Repr

/-- A job in an answer of the API; a field may be missing or no text. -/
structure ApiJob where
  id : Option String
  printer : Option String
  status : Option String
  createdAt : Option Time
deriving DecidableEq, Repr

/-- The name of the variant, in lower case. -/
def stateText : Server.JobState → String
  | .queued => "queued"
  | .downloading => "downloading"
  | .printing => "printing"
  | .completed => "completed"
  | .failed => "failed"
  | .cancelled => "cancelled"
  | .unconfirmed => "unconfirmed"

def StoredJob.toApi (job : StoredJob) : ApiJob where
  id := some job.jobId
  printer := some job.targetPrinter
  status := some (stateText job.state)
  createdAt := some job.createdAt

/-- `usize::from_str`. -/
def parseUsize (text : List Char) : Option ℕ :=
  (parseDigits (match text with
    | '+' :: digits => digits
    | digits => digits)).filter (· < 2 ^ 64)

/-- The value of a field in a map of the fields: of two fields of one name the last one counts. -/
def param (params : List (String × String)) (name : String) : Option String :=
  ((params.filter fun f => f.1 = name).getLast?).map (·.2)

/-- `get_jobs`: the newest jobs first. -/
def getJobs (params : List (String × String)) (jobs : List StoredJob) : List ApiJob :=
  let limit := ((param params "limit").bind fun text => parseUsize text.toList).getD 100
  let kept :=
    match param params "requesting_user" with
    | none => jobs
    | some user => jobs.filter fun job => job.requestingUser = some user
  (kept.take limit).map StoredJob.toApi

/-- The address of the dashboard, as `setup_tray` has it. -/
def dashboardUrl (port : ℕ) : String := s!"http://127.0.0.1:{port}"

/-- The URL of `fetch_initial_jobs`; none while the filter is not known. -/
def jobsUrl (port : ℕ) : FilterState → Option String
  | .pending => none
  | .disabled => some (dashboardUrl port ++ "/api/jobs?limit=5")
  | .user name => some (dashboardUrl port ++ "/api/jobs?limit=5&requesting_user=" ++ name)

def displayStatus (status : String) : JobDisplayStatus :=
  if status = "completed" then .completed
  else if status = "failed" ∨ status = "cancelled" then .failed
  else if status = "unconfirmed" then .unconfirmed
  else .inProgress

/-- A job of the answer; without an id it is left out. -/
def ApiJob.toRecent (now : Time) (job : ApiJob) : Option RecentJob :=
  let jobId := job.id.getD ""
  if jobId = "" then none
  else some {
    jobId := jobId
    targetPrinter := job.printer.getD "unknown printer"
    status := displayStatus (job.status.getD "queued")
    timestamp := job.createdAt.getD now }

/-- The loop of `fetch_initial_jobs`: the answer begins with the newest job, so it is added from
its end. -/
def JobTracker.addAll (t : JobTracker) (now : Time) (jobs : List ApiJob) : JobTracker :=
  (jobs.reverse.filterMap (ApiJob.toRecent now)).foldl JobTracker.addJob t

/-! ### The session -/

/-- What can go wrong with a request for the status. -/
inductive FetchError where
  | http
  | invalidJson
  | missingMode
deriving DecidableEq, Repr

inductive WsEvent where
  | created (jobId : String) (requestingUser : Option String) (targetPrinter : String)
  | stateChanged (jobId : String) (newState : Server.JobState) (requestingUser : Option String)
  | print (jobId : String) (stage : PrintStage) (success : Bool)
deriving DecidableEq, Repr

def WsEvent.jobId : WsEvent → String
  | created jobId _ _ | stateChanged jobId _ _ | print jobId _ _ => jobId

structure Notification where
  /-- The job that it is about; it is not shown. -/
  jobId : String
  title : String
  body : String
deriving DecidableEq, Repr

/-- How far `run_event_loop` has come. -/
inductive Phase where
  | fetching
  | opening
  | running
deriving DecidableEq, Repr

structure World where
  tracker : JobTracker
  phase : Phase
  /-- The jobs that have set the icon. -/
  iconJobs : List String
  notifications : List Notification
deriving DecidableEq, Repr

/-- What a session is started with. -/
structure Session where
  port : ℕ
  /-- The variable `USERNAME`, or else `USER`. -/
  username : Option String
  /-- The fields that the dashboard reads of a URL that the tray opens. -/
  params : String → List (String × String)

inductive Input where
  /-- `detect_filter_loop` has asked for the mode. -/
  | status (reply : Except FetchError String)
  /-- The stored jobs from which the API answers; `none`: no answer. -/
  | fetched (now : Time) (jobs : Option (List StoredJob))
  /-- The event loop begins. -/
  | opened
  /-- `poll_status_loop`. -/
  | polled (online : Bool)
  | event (now : Time) (event : WsEvent)

def title : JobDisplayStatus → Option String
  | .completed => some "Printed ✓"
  | .failed => some "Print Failed"
  | .unconfirmed => some "Možno vytlačené"
  | .inProgress => none

def body (targetPrinter : String) : String := "→ " ++ targetPrinter

namespace World

def init : World where
  tracker := .new
  phase := .fetching
  iconJobs := []
  notifications := []

/-- One round of `detect_filter_loop`. -/
def detect (w : World) (username : Option String) (reply : Except FetchError String) : World :=
  match reply with
  | .ok mode =>
    if mode = "client" then { w with tracker := w.tracker.setFilterState .disabled }
    else if mode = "server" then
      match username with
      | some user => { w with tracker := w.tracker.setFilterState (.user user) }
      | none => w
    else w
  | .error _ => w

/-- One round of the loop in `run_event_loop`. -/
def handle (w : World) (now : Time) : WsEvent → World
  | .created jobId requestingUser targetPrinter =>
    if w.tracker.shouldProcess requestingUser then
      { w with
        tracker := w.tracker.onJobCreated now jobId targetPrinter
        iconJobs := w.iconJobs ++ [jobId]
        notifications := w.notifications ++
          [⟨jobId, "Print Job Received", body targetPrinter⟩] }
    else w
  | .stateChanged jobId newState requestingUser =>
    if w.tracker.shouldProcess requestingUser then
      let printer := ((w.tracker.recentJobs.find? (·.jobId = jobId)).map (·.targetPrinter)).getD ""
      match w.tracker.onStateChanged jobId newState with
      | (tracker, none) => { w with tracker := tracker }
      | (tracker, some status) =>
        { w with
          tracker := tracker
          iconJobs := w.iconJobs ++ [jobId]
          notifications := w.notifications ++
            ((title status).map fun title => ⟨jobId, title, body printer⟩).toList }
    else w
  | .print jobId stage success =>
    if w.tracker.knows jobId then
      { w with
        tracker := w.tracker.onPrintEvent jobId stage success
        iconJobs := w.iconJobs ++
          ((JobTracker.ofStage stage success).map fun _ => jobId).toList }
    else w

end World

variable (s : Session)

/-- One step of a task of the tray. -/
def Session.step (w : World) : Input → Option World
  | .status reply =>
    if w.tracker.filter = .pending then some (w.detect s.username reply) else none
  | .fetched now jobs =>
    match w.phase, jobsUrl s.port w.tracker.filter with
    | .fetching, some url =>
      some { w with
        tracker := jobs.elim w.tracker fun jobs =>
          w.tracker.addAll now (getJobs (s.params url) jobs)
        phase := .opening }
    | _, _ => none
  | .opened =>
    if w.phase = .opening then
      some { w with tracker := w.tracker.setOnline true, phase := .running }
    else none
  | .polled online => some { w with tracker := w.tracker.setOnline online }
  | .event now event => if w.phase = .running then some (w.handle now event) else none

/-- The tray as a transition system. -/
def tray : Transition World Input := ⟨.init, s.step⟩

end Tray

end DevBridge

import DevBridge.Server.Step

/-!
# The print task of the client

What `direct_ipp` does with one job: it renders the document, sends each page file as a
Print-Job of its own and polls the printer until it gives the final state of that page.  The
outer timeout cancels the task, which looks at that before each page and while it polls.  Once
the printer accepted a page, a lost end is `unconfirmed`, not a failure.
-/

namespace DevBridge

namespace Print

open Server (JobId)

/-! ### Results -/

/-- The `Result` of a print: `Unconfirmed` is an error of its own kind. -/
inductive PrintResult where
  | ok
  | unconfirmed (detail : String)
  | failed (detail : String)
deriving DecidableEq, Repr

/-- `Unconfirmed::after_acceptance`. -/
def afterAcceptance (printerJobId : ℕ) (why : String) : String :=
  s!"printer accepted job-id={printerJobId}, completion not confirmed ({why}) — not resent"

/-- `Unconfirmed::after_accepted_pages`. -/
def afterAcceptedPages (failedIndex pages : ℕ) (cause : String) : String :=
  let printed := if failedIndex = 1 then "page 1" else s!"pages 1-{failedIndex}"
  s!"page {failedIndex + 1} of {pages} failed after {printed} printed: {cause}"

/-- `Unconfirmed::after_outer_timeout`. -/
def afterOuterTimeout (timeoutSecs : ℕ) : String :=
  "printer accepted the job, completion not confirmed (print task timed out after " ++
    s!"{timeoutSecs}s) — not resent"

/-- `print_timeout_error`. -/
def printTimeoutError (timeoutSecs : ℕ) (printerAccepted : Bool) : PrintResult :=
  if printerAccepted then .unconfirmed (afterOuterTimeout timeoutSecs)
  else .failed s!"print task timed out after {timeoutSecs}s — backend or spooler hung"

/-- What is reported of a result. -/
structure PrintReport where
  success : Bool
  unconfirmed : Bool
  errorDetail : String
deriving DecidableEq, Repr

/-- `PrintReport::of`. -/
def PrintReport.of : PrintResult → PrintReport
  | .ok => { success := true, unconfirmed := false, errorDetail := "" }
  | .unconfirmed detail => { success := false, unconfirmed := true, errorDetail := detail }
  | .failed detail => { success := false, unconfirmed := false, errorDetail := detail }

/-- The report keeps the job from being resent. -/
def PrintReport.final (r : PrintReport) : Bool := r.success || r.unconfirmed

/-- A page of a job that sends a Print-Job for each page. -/
structure PageOfJob where
  /-- Counted from 0. -/
  index : ℕ
  pages : ℕ
deriving DecidableEq, Repr

namespace PageOfJob

/-- Nothing reached the printer before this page. -/
def failureIsTheJobs (p : PageOfJob) : Bool := p.index == 0

/-- Where the cancel is checked before this page. -/
def cancelPoint (p : PageOfJob) : String :=
  if p.failureIsTheJobs then "before the first IPP page send" else "between IPP page sends"

/-- How `send_pages` ends when a page does not print. -/
def failure (p : PageOfJob) (result : PrintResult) : PrintResult :=
  if p.failureIsTheJobs then result
  else match result with
    | .ok => .ok
    | .unconfirmed detail | .failed detail =>
      .unconfirmed (afterAcceptedPages p.index p.pages detail)

end PageOfJob

/-- The error of a cancel check. -/
def cancelledAt (place : String) : String :=
  s!"print cancelled by outer timeout (at: {place})"

/-! ### The task -/

/-- Where a print task stands; its page files are counted from 0. -/
inductive TaskStage where
  /-- It waits for the print lock, or renders. -/
  | rendering
  /-- The cancel is checked next. -/
  | page (i : ℕ)
  /-- The Print-Job of the page is built next. -/
  | sending (i : ℕ)
  | posting (i : ℕ)
  /-- The printer accepted the page, which is recorded next. -/
  | answered (i printerJobId : ℕ)
  /-- The HTTP client of the poll is built next. -/
  | acknowledged (i printerJobId : ℕ)
  | polling (i printerJobId : ℕ)
  | ended (result : PrintResult)
deriving DecidableEq, Repr

/-- A print task: the blocking closure that the receiver runs for a job. -/
structure PrintTask where
  machineId : String
  jobId : JobId
  pages : ℕ
  stage : TaskStage
  /-- The cancellation token. -/
  cancelled : Bool
  /-- The flag `printer_accepted` of the job's emitter. -/
  accepted : Bool
deriving DecidableEq, Repr

/-- What comes of the next thing a print task does. -/
inductive TaskOutcome where
  | rendered (pages : ℕ)
  /-- Nothing can go wrong here, or nothing did. -/
  | goesOn
  | fails (detail : String)
  /-- The Print-Job is answered with a success status. -/
  | accepts (printerJobId : ℕ)
  /-- The poll answers job-state 9. -/
  | printed
  /-- The poll answers job-state 7 or 8. -/
  | canceled (evidence : String)
  /-- A poll fails or cannot be read, the printer does not know the job any more, the deadline
  of the poll is over, or it finds the task cancelled. -/
  | loses (why : String)
deriving DecidableEq, Repr

namespace PrintTask

variable (t : PrintTask)

/-- The task holds the in-flight slot of its job. -/
def live : Bool :=
  match t.stage with
  | .ended _ => false
  | _ => true

def endWith (result : PrintResult) : PrintTask := { t with stage := .ended result }

def failPage (i : ℕ) (result : PrintResult) : PrintTask :=
  t.endWith (PageOfJob.failure ⟨i, t.pages⟩ result)

/-- The loop of `send_pages` at page `i`. -/
def atPage (i : ℕ) : PrintTask :=
  if i < t.pages then { t with stage := .page i } else t.endWith .ok

/-- The cancel check before page `i`. -/
def checkCancel (i : ℕ) : PrintTask :=
  if t.cancelled then t.failPage i (.failed (cancelledAt (PageOfJob.cancelPoint ⟨i, t.pages⟩)))
  else { t with stage := .sending i }

/-- The next step of the task: `render`, `send_pages`, `send_ipp_job` and
`poll_job_completion`. -/
def step (outcome : TaskOutcome) : Option PrintTask :=
  match t.stage, outcome with
  | .rendering, .rendered pages => some ({ t with pages := pages }.atPage 0)
  | .rendering, .fails detail => some (t.endWith (.failed detail))
  | .page i, .goesOn => some (t.checkCancel i)
  | .sending i, .goesOn => some { t with stage := .posting i }
  | .sending i, .fails detail => some (t.failPage i (.failed detail))
  | .posting i, .accepts printerJobId => some { t with stage := .answered i printerJobId }
  | .posting i, .fails detail => some (t.failPage i (.failed detail))
  | .answered i printerJobId, .goesOn =>
    some { t with stage := .acknowledged i printerJobId, accepted := true }
  | .acknowledged i printerJobId, .goesOn => some { t with stage := .polling i printerJobId }
  | .acknowledged i _, .fails detail => some (t.failPage i (.failed detail))
  | .polling i _, .printed => some (t.atPage (i + 1))
  | .polling i _, .canceled evidence => some (t.failPage i (.failed evidence))
  | .polling i printerJobId, .loses why =>
    some (t.failPage i (.unconfirmed (afterAcceptance printerJobId why)))
  | _, _ => none

end PrintTask

/-! ### What is remembered of print tasks -/

inductive TaskEvent where
  | started
  /-- A Print-Job is sent. -/
  | posted
  /-- A Print-Job is answered with a success status. -/
  | accepted
  /-- The printer calls the first page canceled or aborted. -/
  | verdict
deriving DecidableEq, Repr

/-- Something that a print task did for its job. -/
structure PrintEvent where
  event : TaskEvent
  task : ℕ
  jobId : JobId
deriving DecidableEq, Repr

/-- What a step of a print task is remembered as. -/
def PrintTask.event (t : PrintTask) (outcome : TaskOutcome) : Option TaskEvent :=
  match t.stage, outcome with
  | .sending _, .goesOn => some .posted
  | .posting _, .accepts _ => some .accepted
  | .polling 0 _, .canceled _ => some .verdict
  | _, _ => none

/-! ### What a step can do -/

section Steps

variable {t t' : PrintTask} {outcome : TaskOutcome}

lemma report_final_iff {result : PrintResult} :
    (PrintReport.of result).final = false ↔ ∃ detail, result = .failed detail := by
  cases result <;> simp [PrintReport.of, PrintReport.final]

/-- Only the failure of the first page is a plain one. -/
lemma failure_eq_failed {i pages : ℕ} {result : PrintResult} {detail : String}
    (h : PageOfJob.failure ⟨i, pages⟩ result = .failed detail) :
    i = 0 ∧ result = .failed detail := by
  unfold PageOfJob.failure PageOfJob.failureIsTheJobs at h
  split at h
  · rename_i hi
    exact ⟨by simpa using hi, h⟩
  · cases result <;> simp at h

/-- The steps of a print task one by one, with what is remembered of each. -/
inductive PrintTask.Steps (t : PrintTask) : TaskOutcome → Option TaskEvent → PrintTask → Prop
    where
  | rendered (pages : ℕ) (h : t.stage = .rendering) :
      Steps t (.rendered pages) none ({ t with pages := pages }.atPage 0)
  | notRendered (detail : String) (h : t.stage = .rendering) :
      Steps t (.fails detail) none (t.endWith (.failed detail))
  | checked (i : ℕ) (h : t.stage = .page i) : Steps t .goesOn none (t.checkCancel i)
  | posted (i : ℕ) (h : t.stage = .sending i) :
      Steps t .goesOn (some .posted) { t with stage := .posting i }
  | notSent (i : ℕ) (detail : String) (h : t.stage = .sending i ∨ t.stage = .posting i) :
      Steps t (.fails detail) none (t.failPage i (.failed detail))
  | accepted (i printerJobId : ℕ) (h : t.stage = .posting i) :
      Steps t (.accepts printerJobId) (some .accepted)
        { t with stage := .answered i printerJobId }
  | recorded (i printerJobId : ℕ) (h : t.stage = .answered i printerJobId) :
      Steps t .goesOn none { t with stage := .acknowledged i printerJobId, accepted := true }
  | polls (i printerJobId : ℕ) (h : t.stage = .acknowledged i printerJobId) :
      Steps t .goesOn none { t with stage := .polling i printerJobId }
  | noClient (i printerJobId : ℕ) (detail : String) (h : t.stage = .acknowledged i printerJobId) :
      Steps t (.fails detail) none (t.failPage i (.failed detail))
  | printed (i printerJobId : ℕ) (h : t.stage = .polling i printerJobId) :
      Steps t .printed none (t.atPage (i + 1))
  | canceled (i printerJobId : ℕ) (evidence : String) (h : t.stage = .polling i printerJobId) :
      Steps t (.canceled evidence) (if i = 0 then some .verdict else none)
        (t.failPage i (.failed evidence))
  | lost (i printerJobId : ℕ) (why : String) (h : t.stage = .polling i printerJobId) :
      Steps t (.loses why) none
        (t.failPage i (.unconfirmed (afterAcceptance printerJobId why)))

lemma PrintTask.steps_of_step (h : t.step outcome = some t') :
    t.Steps outcome (t.event outcome) t' := by
  unfold PrintTask.event
  unfold PrintTask.step at h
  split at h
  all_goals rename_i hs
  all_goals simp only [Option.some.injEq, reduceCtorEq] at h
  all_goals subst h
  all_goals simp only [hs]
  · exact .rendered _ hs
  · exact .notRendered _ hs
  · exact .checked _ hs
  · exact .posted _ hs
  · exact .notSent _ _ (Or.inl hs)
  · exact .accepted _ _ hs
  · exact .notSent _ _ (Or.inr hs)
  · exact .recorded _ _ hs
  · exact .polls _ _ hs
  · exact .noClient _ _ _ hs
  · exact .printed _ _ hs
  · rename_i i printerJobId evidence
    rcases Nat.eq_zero_or_pos i with rfl | hi
    · exact .canceled _ _ _ hs
    · have hevent := PrintTask.Steps.canceled i printerJobId evidence hs
      rw [if_neg hi.ne'] at hevent
      obtain ⟨j, rfl⟩ := Nat.exists_eq_succ_of_ne_zero hi.ne'
      exact hevent
  · exact .lost _ _ _ hs

/-- The two tasks are of one job, and cancelled or not alike. -/
structure PrintTask.Same (t t' : PrintTask) : Prop where
  machineId : t'.machineId = t.machineId
  jobId : t'.jobId = t.jobId
  cancelled : t'.cancelled = t.cancelled

lemma PrintTask.same_atPage (t : PrintTask) (i : ℕ) : t.Same (t.atPage i) := by
  unfold PrintTask.atPage
  split <;> exact ⟨rfl, rfl, rfl⟩

lemma PrintTask.same_checkCancel (t : PrintTask) (i : ℕ) : t.Same (t.checkCancel i) := by
  unfold PrintTask.checkCancel
  split <;> exact ⟨rfl, rfl, rfl⟩

/-- A step of the task changes its stage, its page count and its flag alone. -/
lemma PrintTask.Steps.same {event : Option TaskEvent} (h : t.Steps outcome event t') :
    t.Same t' := by
  cases h with
  | rendered pages =>
    obtain ⟨hm, hj, hc⟩ := PrintTask.same_atPage { t with pages := pages } 0
    exact ⟨hm, hj, hc⟩
  | checked i => exact t.same_checkCancel i
  | printed i => exact t.same_atPage (i + 1)
  | _ => exact ⟨rfl, rfl, rfl⟩

end Steps

end Print

end DevBridge

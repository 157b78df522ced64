import DevBridge.Print.Task

/-!
# Sending the pages of a job

`send_pages` of `direct_ipp`: each page file goes to the printer as a Print-Job of its own, and
the printer is polled until it names the final state of that page.  What the printer, the file
system and the outer timeout do while a page is sent comes with its page file, so that a run is
a function of the list of the page files.  The deadline of a poll is passed after some number of
ticks, and no poll goes on after it.
-/

namespace DevBridge

namespace Print

/-! ### The answers of the printer -/

structure IppAttribute where
  name : String
  value : List UInt8
deriving DecidableEq

/-- `as_str`. -/
def IppAttribute.asStr (a : IppAttribute) : Option String :=
  String.fromUTF8? ⟨a.value.toArray⟩

/-- `as_i32`: big-endian, and exactly four bytes. -/
def IppAttribute.asI32 (a : IppAttribute) : Option ℤ :=
  match a.value with
  | [b₀, b₁, b₂, b₃] =>
    some (b₀.toBitVec ++ b₁.toBitVec ++ b₂.toBitVec ++ b₃.toBitVec).toInt
  | _ => none

structure IppResponse where
  statusCode : UInt16
  attributes : List IppAttribute
deriving DecidableEq

/-- `CLIENT_ERROR_NOT_FOUND`. -/
def clientErrorNotFound : UInt16 := 0x0406

namespace IppResponse

variable (r : IppResponse)

def get (name : String) : Option IppAttribute := r.attributes.find? (·.name == name)

def isSuccess : Bool := r.statusCode ≤ 0x00FF

/-- The `job-id`, as a `u32`. -/
def jobId : ℕ := (((r.get "job-id").bind (·.asI32)).getD 0 % 2 ^ 32).toNat

def jobState : ℤ := ((r.get "job-state").bind (·.asI32)).getD 0

def jobStateReasons : String := ((r.get "job-state-reasons").bind (·.asStr)).getD "none"

end IppResponse

/-- What comes of an IPP request; the texts are those of the errors, with their causes. -/
inductive PrinterAnswer where
  | noAnswer (e : String)
  | unreadable (e : String)
  | answered (r : IppResponse)

/-- A tick of the poll: whether it finds the job cancelled, and the answer to its request. -/
structure PollTick where
  cancelled : Bool
  answer : PrinterAnswer

/-- A page file, with all that happens around it. -/
structure PageFile where
  /-- The cancellation token before the page. -/
  cancelled : Bool
  /-- The read of the file. -/
  read : Except String Unit
  /-- The HTTP client of the Print-Job. -/
  client : Except String Unit
  /-- The answer to the Print-Job. -/
  answer : PrinterAnswer
  /-- The HTTP client of the poll. -/
  pollClient : Except String Unit
  /-- The ticks before the deadline of the poll. -/
  ticks : List PollTick
  /-- The tick after which the deadline is over. -/
  lastTick : PollTick

/-- The page reaches the printer, which answers its Print-Job with a success status. -/
def PageFile.Accepts (f : PageFile) : Prop :=
  f.cancelled = false ∧ f.read = .ok () ∧ f.client = .ok () ∧
    ∃ r, f.answer = .answered r ∧ r.isSuccess = true

/-- One of the ticks sees the job in this state. -/
def Sees (ticks : List PollTick) (jobState : ℤ) : Prop :=
  ∃ t ∈ ticks, t.cancelled = false ∧ ∃ r, t.answer = .answered r ∧ r.jobState = jobState

/-- The poll of the page sees the job in this state. -/
def PageFile.Polls (f : PageFile) (jobState : ℤ) : Prop :=
  Sees (f.ticks ++ [f.lastTick]) jobState

/-! ### Events -/

/-- The stages of an event that `direct_ipp` gives it. -/
inductive PrintStage where
  | sending
  | acknowledged
  | verified
  | sent
  | completed
  | failed
  | unconfirmed
deriving DecidableEq

structure PrintJobEvent where
  jobId : Server.JobId
  stage : PrintStage
  success : Bool
  detail : String
  verificationMethod : String
  verificationEvidence : String
deriving DecidableEq

namespace PrintJobEvent

def ok (jobId : Server.JobId) (stage : PrintStage) (detail : String) : PrintJobEvent :=
  { jobId, stage, success := true, detail, verificationMethod := "", verificationEvidence := "" }

def fail (jobId : Server.JobId) (stage : PrintStage) (detail : String) : PrintJobEvent :=
  { jobId, stage, success := false, detail, verificationMethod := "", verificationEvidence := "" }

def verified (jobId : Server.JobId) (method evidence : String) : PrintJobEvent :=
  { jobId, stage := .verified, success := true, detail := evidence, verificationMethod := method,
    verificationEvidence := evidence }

/-- The failure that the printer itself reports. -/
def failedVerdict (jobId : Server.JobId) (evidence : String) : PrintJobEvent :=
  { fail jobId .failed evidence with
    verificationMethod := "ipp_job_state", verificationEvidence := evidence }

/-- `unconfirmed_event`. -/
def unconfirmed (jobId : Server.JobId) (detail : String) : PrintJobEvent :=
  { fail jobId .unconfirmed detail with
    verificationMethod := "ipp_job_state", verificationEvidence := detail }

/-- The event ends the job. -/
def ends (e : PrintJobEvent) : Bool :=
  e.stage == .completed || e.stage == .failed || e.stage == .unconfirmed

end PrintJobEvent

/-- What `send_pages` does, in this order. -/
inductive SendEvent where
  /-- The Print-Job of a page is sent. -/
  | posted (i : ℕ)
  /-- It is answered with a success status. -/
  | accepted (i : ℕ)
  /-- The poll answers job-state 9. -/
  | printed (i : ℕ)
  /-- The poll answers job-state 7 or 8. -/
  | verdict (i : ℕ)
  | emitted (e : PrintJobEvent)
deriving DecidableEq

/-- What was done for a page or for the job, and the result. -/
structure PageRun where
  trace : List SendEvent
  result : PrintResult

/-- The same, after other events. -/
def PageRun.after (events : List SendEvent) (r : PageRun) : PageRun :=
  { r with trace := events ++ r.trace }

namespace PageOfJob

variable (p : PageOfJob)

def isLast : Bool := p.index + 1 == p.pages

def printedStage : PrintStage := if p.isLast then .completed else .sent

def printedDetail (display : String) : String :=
  if p.isLast then s!"{display} confirmed printed"
  else s!"{display} confirmed page {p.index + 1} of {p.pages} printed"

/-- `PageEvents::failure`: a failure event of the page is sent on for the first page only. -/
def failureEvents (e : PrintJobEvent) : List SendEvent :=
  if p.failureIsTheJobs then [.emitted e] else []

end PageOfJob

/-! ### One page -/

/-- The backend. -/
structure DirectIpp where
  address : String
  /-- The poll timeout, in seconds. -/
  pollTimeout : ℕ

/-- The status code as four hexadecimal digits. -/
def hexStatus (code : UInt16) : String :=
  let digits := String.ofList (Nat.toDigits 16 code.toNat)
  String.ofList (List.replicate (4 - digits.length) '0') ++ digits

namespace DirectIpp

variable (d : DirectIpp) (jobId : Server.JobId) (display : String) (page : PageOfJob)

/-- `fail_with_cause`. -/
def failWithCause (what cause : String) : PageRun :=
  let detail := s!"{what} ({d.address}): {cause}"
  { trace := page.failureEvents (.fail jobId .failed detail), result := .failed detail }

/-- `unconfirmed`. -/
def lost (printerJobId : ℕ) (why : String) : PageRun :=
  let detail := afterAcceptance printerJobId why
  { trace := page.failureEvents (.unconfirmed jobId detail), result := .unconfirmed detail }

/-- The poll answers job-state 9. -/
def completed (printerJobId : ℕ) : PageRun :=
  let evidence := s!"IPP job-state=9 (completed), job-id={printerJobId}"
  { trace :=
      [.printed page.index, .emitted (.verified jobId "ipp_job_state" evidence),
        .emitted (.ok jobId page.printedStage (page.printedDetail display))]
    result := .ok }

/-- The poll answers job-state 7 or 8. -/
def canceled (printerJobId : ℕ) (jobState : ℤ) (reasons : String) : PageRun :=
  let stateName := if jobState = 7 then "canceled" else "aborted"
  let evidence :=
    s!"IPP job-state={jobState} ({stateName}), job-id={printerJobId}, reasons={reasons}"
  { trace := .verdict page.index :: page.failureEvents (.failedVerdict jobId evidence)
    result := .failed evidence }

/-- A tick of the poll: its end, or the job-state it has seen. -/
def pollTick (printerJobId : ℕ) (lastState : ℤ) (t : PollTick) : PageRun ⊕ ℤ :=
  if t.cancelled then
    .inl (lost jobId page printerJobId
      s!"print cancelled by the outer timeout while polling, last state={lastState}")
  else match t.answer with
    | .noAnswer e => .inl (lost jobId page printerJobId s!"Get-Job-Attributes poll failed: {e}")
    | .unreadable e =>
      .inl (lost jobId page printerJobId s!"Get-Job-Attributes response unreadable: {e}")
    | .answered r =>
      if r.statusCode = clientErrorNotFound then
        .inl (lost jobId page printerJobId s!"the printer no longer knows job-id {printerJobId}")
      else if r.jobState = 9 then .inl (completed jobId display page printerJobId)
      else if r.jobState = 7 ∨ r.jobState = 8 then
        .inl (canceled jobId page printerJobId r.jobState r.jobStateReasons)
      else .inr r.jobState

/-- The loop of `poll_job_completion`, with the ticks before the deadline and the one after
which it is over. -/
def pollLoop (printerJobId : ℕ) (lastTick : PollTick) (lastState : ℤ) :
    List PollTick → PageRun
  | [] =>
    match pollTick jobId display page printerJobId lastState lastTick with
    | .inl run => run
    | .inr state =>
      lost jobId page printerJobId
        s!"no final job-state within {d.pollTimeout}s, last state={state}"
  | t :: ticks =>
    match pollTick jobId display page printerJobId lastState t with
    | .inl run => run
    | .inr state => pollLoop printerJobId lastTick state ticks

/-- `poll_job_completion`. -/
def pollJobCompletion (f : PageFile) (printerJobId : ℕ) (acceptedState : ℤ) : PageRun :=
  match f.pollClient with
  | .error e => { trace := [], result := .failed e }
  | .ok () => d.pollLoop jobId display page printerJobId f.lastTick acceptedState f.ticks

/-- The answer to the Print-Job. -/
def printJobAnswered (f : PageFile) : PageRun :=
  match f.answer with
  | .noAnswer e => d.failWithCause jobId page "IPP Print-Job send failed" e
  | .unreadable e => d.failWithCause jobId page "IPP Print-Job response unreadable" e
  | .answered r =>
    if r.isSuccess then
      (d.pollJobCompletion jobId display page f r.jobId r.jobState).after
        [.accepted page.index,
          .emitted (.ok jobId .acknowledged
            s!"{display} accepted job-id={r.jobId}, processing")]
    else
      let detail := s!"IPP error status: 0x{hexStatus r.statusCode}"
      { trace := page.failureEvents (.fail jobId .failed detail), result := .failed detail }

/-- `send_ipp_job`. -/
def sendIppJob (f : PageFile) : PageRun :=
  match f.read with
  | .error e => { trace := [], result := .failed e }
  | .ok () =>
    PageRun.after [.emitted (.ok jobId .sending s!"IPP Print-Job → {display} ({d.address})")]
      (match f.client with
      | .error e => { trace := [], result := .failed e }
      | .ok () => (d.printJobAnswered jobId display page f).after [.posted page.index])

/-- A page of the loop of `send_pages`: the cancel check before it, which is `bail_if_cancelled`
for the first page, and the page. -/
def sendPage (f : PageFile) : PageRun :=
  if f.cancelled then
    let detail := cancelledAt page.cancelPoint
    { trace := page.failureEvents (.fail jobId .failed detail), result := .failed detail }
  else d.sendIppJob jobId display page f

/-! ### The job -/

/-- The event of a job that ends after a page was accepted. -/
def lostEvents (result : PrintResult) : List SendEvent :=
  if page.failureIsTheJobs then []
  else match page.failure result with
    | .unconfirmed detail => [.emitted (.unconfirmed jobId detail)]
    | _ => []

/-- The loop of `send_pages` from page `i` on. -/
def sendFrom (pages i : ℕ) : List PageFile → PageRun
  | [] => { trace := [], result := .ok }
  | f :: files =>
    let sent := d.sendPage jobId display ⟨i, pages⟩ f
    match sent.result with
    | .ok => (sendFrom pages (i + 1) files).after sent.trace
    | result =>
      { trace := sent.trace ++ lostEvents jobId ⟨i, pages⟩ result
        result := PageOfJob.failure ⟨i, pages⟩ result }

/-- `send_pages`. -/
def sendPages (files : List PageFile) : PageRun := d.sendFrom jobId display files.length 0 files

end DirectIpp

/-! ### How a page ends -/

variable {d : DirectIpp} {jobId : Server.JobId} {display : String} {page : PageOfJob}
  {f : PageFile} {run : PageRun}

/-- The pages of the Print-Jobs that are sent. -/
def posts (trace : List SendEvent) : List ℕ :=
  trace.filterMap fun
    | .posted i => some i
    | _ => none

/-- The events that end the job. -/
def endings (trace : List SendEvent) : List PrintJobEvent :=
  trace.filterMap fun
    | .emitted e => if e.ends then some e else none
    | _ => none

@[simp] lemma posts_nil : posts [] = [] := rfl

@[simp] lemma endings_nil : endings [] = [] := rfl

@[simp] lemma posts_cons (x : SendEvent) (trace : List SendEvent) :
    posts (x :: trace) = (match x with | .posted i => [i] | _ => []) ++ posts trace := by
  cases x <;> rfl

@[simp] lemma endings_cons (x : SendEvent) (trace : List SendEvent) :
    endings (x :: trace) =
      (match x with | .emitted e => if e.ends then [e] else [] | _ => []) ++ endings trace := by
  rcases x with _ | _ | _ | _ | e
  case emitted =>
    cases he : e.ends <;> simp [endings, he]
  all_goals rfl

@[simp] lemma posts_append (trace trace' : List SendEvent) :
    posts (trace ++ trace') = posts trace ++ posts trace' :=
  List.filterMap_append

@[simp] lemma endings_append (trace trace' : List SendEvent) :
    endings (trace ++ trace') = endings trace ++ endings trace' :=
  List.filterMap_append

/-- The poll of an accepted page ends in one of three ways, the last two for a state that one of
its ticks sees. -/
inductive PollEnds (jobId : Server.JobId) (display : String) (page : PageOfJob)
    (ticks : List PollTick) : PageRun → Prop where
  | lost (printerJobId : ℕ) (why : String) :
      PollEnds jobId display page ticks (DirectIpp.lost jobId page printerJobId why)
  | completed (printerJobId : ℕ) (h : Sees ticks 9) :
      PollEnds jobId display page ticks (DirectIpp.completed jobId display page printerJobId)
  | canceled (printerJobId : ℕ) (jobState : ℤ) (reasons : String) (h : Sees ticks jobState)
      (hfinal : jobState = 7 ∨ jobState = 8) :
      PollEnds jobId display page ticks
        (DirectIpp.canceled jobId page printerJobId jobState reasons)

lemma Sees.mono {ticks ticks' : List PollTick} {jobState : ℤ} (h : Sees ticks jobState)
    (hsub : ticks ⊆ ticks') : Sees ticks' jobState := by
  obtain ⟨t, ht, hsees⟩ := h
  exact ⟨t, hsub ht, hsees⟩

lemma PollEnds.mono {ticks ticks' : List PollTick} (h : PollEnds jobId display page ticks run)
    (hsub : ticks ⊆ ticks') : PollEnds jobId display page ticks' run := by
  rcases h with ⟨printerJobId, why⟩ | ⟨printerJobId, h⟩ |
    ⟨printerJobId, jobState, reasons, h, hfinal⟩
  · exact .lost printerJobId why
  · exact .completed printerJobId (h.mono hsub)
  · exact .canceled printerJobId jobState reasons (h.mono hsub) hfinal

lemma pollEnds_of_pollTick {printerJobId : ℕ} {lastState : ℤ} {t : PollTick}
    (h : DirectIpp.pollTick jobId display page printerJobId lastState t = .inl run) :
    PollEnds jobId display page [t] run := by
  unfold DirectIpp.pollTick at h
  split at h
  · obtain rfl := Sum.inl.inj h
    exact .lost _ _
  · rename_i hgoes
    have hsees : ∀ r, t.answer = .answered r → Sees [t] r.jobState := fun r hr =>
      ⟨t, List.mem_singleton_self t, Bool.not_eq_true _ ▸ hgoes, r, hr, rfl⟩
    split at h
    · obtain rfl := Sum.inl.inj h
      exact .lost _ _
    · obtain rfl := Sum.inl.inj h
      exact .lost _ _
    · rename_i r hr
      split at h
      · obtain rfl := Sum.inl.inj h
        exact .lost _ _
      · split at h
        · rename_i hdone
          obtain rfl := Sum.inl.inj h
          exact .completed _ (hdone ▸ hsees r hr)
        · split at h
          · rename_i hfinal
            obtain rfl := Sum.inl.inj h
            exact .canceled _ _ _ (hsees r hr) hfinal
          · cases h

lemma pollEnds_pollLoop {printerJobId : ℕ} {lastTick : PollTick} (ticks : List PollTick) :
    ∀ lastState : ℤ, PollEnds jobId display page (ticks ++ [lastTick])
      (d.pollLoop jobId display page printerJobId lastTick lastState ticks) := by
  induction ticks with
  | nil =>
    intro lastState
    unfold DirectIpp.pollLoop
    split
    · rename_i run hrun
      exact pollEnds_of_pollTick hrun
    · exact .lost _ _
  | cons t ticks ih =>
    intro lastState
    unfold DirectIpp.pollLoop
    split
    · rename_i run hrun
      exact (pollEnds_of_pollTick hrun).mono (by simp)
    · exact (ih _).mono (List.subset_cons_self t _)

/-- The ways in which a page ends, with all that was done for it and the answers it was done for;
`s`, `a` and `v` are events that end nothing. -/
inductive PageEnds (jobId : Server.JobId) (display : String) (page : PageOfJob) (f : PageFile) :
    PageRun → Prop where
  | cancelled (h : f.cancelled = true) :
      PageEnds jobId display page f
        { trace := page.failureEvents (.fail jobId .failed (cancelledAt page.cancelPoint))
          result := .failed (cancelledAt page.cancelPoint) }
  | unread (detail : String) (h : f.read = .error detail) :
      PageEnds jobId display page f { trace := [], result := .failed detail }
  | unsent (s : PrintJobEvent) (detail : String) (hs : s.ends = false)
      (h : f.client = .error detail) :
      PageEnds jobId display page f { trace := [.emitted s], result := .failed detail }
  | refused (s : PrintJobEvent) (detail : String) (hs : s.ends = false)
      (h : ∀ r, f.answer = .answered r → r.isSuccess = false) :
      PageEnds jobId display page f
        { trace :=
            [.emitted s, .posted page.index] ++
              page.failureEvents (.fail jobId .failed detail)
          result := .failed detail }
  | unpolled (s a : PrintJobEvent) (detail : String) (hs : s.ends = false) (ha : a.ends = false)
      (haccepts : f.Accepts) (h : f.pollClient = .error detail) :
      PageEnds jobId display page f
        { trace := [.emitted s, .posted page.index, .accepted page.index, .emitted a]
          result := .failed detail }
  | canceled (s a : PrintJobEvent) (detail : String) (hs : s.ends = false) (ha : a.ends = false)
      (haccepts : f.Accepts) (h : f.Polls 7 ∨ f.Polls 8) :
      PageEnds jobId display page f
        { trace :=
            [.emitted s, .posted page.index, .accepted page.index, .emitted a,
              .verdict page.index] ++ page.failureEvents (.failedVerdict jobId detail)
          result := .failed detail }
  | lost (s a : PrintJobEvent) (printerJobId : ℕ) (why : String) (hs : s.ends = false)
      (ha : a.ends = false) (haccepts : f.Accepts) :
      PageEnds jobId display page f
        { trace :=
            [.emitted s, .posted page.index, .accepted page.index, .emitted a] ++
              page.failureEvents (.unconfirmed jobId (afterAcceptance printerJobId why))
          result := .unconfirmed (afterAcceptance printerJobId why) }
  | printed (s a v : PrintJobEvent) (hs : s.ends = false) (ha : a.ends = false)
      (hv : v.ends = false) (haccepts : f.Accepts) (h : f.Polls 9) :
      PageEnds jobId display page f
        { trace :=
            [.emitted s, .posted page.index, .accepted page.index, .emitted a,
              .printed page.index, .emitted v,
              .emitted (.ok jobId page.printedStage (page.printedDetail display))]
          result := .ok }

lemma pageEnds_printJobAnswered (s : PrintJobEvent) (hs : s.ends = false)
    (hcancelled : f.cancelled = false) (hread : f.read = .ok ()) (hclient : f.client = .ok ()) :
    PageEnds jobId display page f (PageRun.after [.emitted s]
      ((d.printJobAnswered jobId display page f).after [.posted page.index])) := by
  unfold DirectIpp.printJobAnswered
  split
  · rename_i e hanswer
    exact .refused s _ hs (by simp [hanswer])
  · rename_i e hanswer
    exact .refused s _ hs (by simp [hanswer])
  · rename_i r hanswer
    split
    · rename_i hsuccess
      have haccepts : f.Accepts := ⟨hcancelled, hread, hclient, r, hanswer, hsuccess⟩
      unfold DirectIpp.pollJobCompletion
      split
      · rename_i e he
        exact .unpolled s _ e hs rfl haccepts he
      · generalize hpoll : d.pollLoop jobId display page r.jobId f.lastTick r.jobState f.ticks
          = polled
        have hends : PollEnds jobId display page (f.ticks ++ [f.lastTick]) polled :=
          hpoll ▸ pollEnds_pollLoop _ _
        rcases hends with ⟨printerJobId, why⟩ | ⟨printerJobId, hdone⟩ |
          ⟨printerJobId, jobState, reasons, hsees, rfl | rfl⟩
        · exact .lost s _ printerJobId why hs rfl haccepts
        · exact .printed s _ _ hs rfl rfl haccepts hdone
        · exact .canceled s _ _ hs rfl haccepts (Or.inl hsees)
        · exact .canceled s _ _ hs rfl haccepts (Or.inr hsees)
    · rename_i hrefused
      exact .refused s _ hs (by simp [hanswer, hrefused])

/-- Every page ends in one of these ways. -/
lemma pageEnds_sendPage : PageEnds jobId display page f (d.sendPage jobId display page f) := by
  unfold DirectIpp.sendPage
  split
  · rename_i hcancelled
    exact .cancelled hcancelled
  · rename_i hgoes
    unfold DirectIpp.sendIppJob
    split
    · rename_i e hread
      exact .unread e hread
    · rename_i hread
      split
      · rename_i e hclient
        exact .unsent _ e rfl hclient
      · rename_i hclient
        exact pageEnds_printJobAnswered _ rfl (Bool.not_eq_true _ ▸ hgoes) hread hclient

/-! ### What the end of a page says -/

@[simp] lemma posts_failureEvents (e : PrintJobEvent) : posts (page.failureEvents e) = [] := by
  unfold PageOfJob.failureEvents
  split <;> rfl

lemma endings_failureEvents {e : PrintJobEvent} (he : e.ends = true) :
    endings (page.failureEvents e) = if page.failureIsTheJobs then [e] else [] := by
  unfold PageOfJob.failureEvents
  split <;> simp [endings, he]

lemma emitted_of_mem_failureEvents {e : PrintJobEvent} {x : SendEvent}
    (h : x ∈ page.failureEvents e) : x = .emitted e := by
  unfold PageOfJob.failureEvents at h
  split at h
  · exact List.mem_singleton.mp h
  · cases h

namespace PageEnds

/-- A page is sent once at most, and once if it printed. -/
lemma posts_eq (h : PageEnds jobId display page f run) :
    posts run.trace = [page.index] ∨ (posts run.trace = [] ∧ run.result ≠ .ok) := by
  rcases h with _ | _ | _ | _ | _ | _ | _ | _ <;> simp

/-- What is said of a page is said of this one. -/
lemma index_eq (h : PageEnds jobId display page f run) {i : ℕ}
    (hi : .accepted i ∈ run.trace ∨ .printed i ∈ run.trace ∨ .verdict i ∈ run.trace) :
    i = page.index := by
  have hfail : ∀ e, .accepted i ∉ page.failureEvents e ∧ .printed i ∉ page.failureEvents e ∧
      .verdict i ∉ page.failureEvents e := fun e =>
    ⟨fun hm => (nomatch emitted_of_mem_failureEvents hm),
      fun hm => (nomatch emitted_of_mem_failureEvents hm),
      fun hm => (nomatch emitted_of_mem_failureEvents hm)⟩
  rcases h with _ | _ | _ | _ | _ | _ | _ | _ <;> simp [hfail] at hi <;> exact hi

/-- A page is said to be accepted exactly when its Print-Job is answered with a success status. -/
lemma accepted_iff (h : PageEnds jobId display page f run) :
    .accepted page.index ∈ run.trace ↔ f.Accepts := by
  have hfail : ∀ e, .accepted page.index ∉ page.failureEvents e :=
    fun e hm => (nomatch emitted_of_mem_failureEvents hm)
  rcases h with hcancelled | ⟨_, hread⟩ | ⟨_, _, _, hclient⟩ | ⟨_, _, _, hanswer⟩ |
    ⟨_, _, _, _, _, haccepts⟩ | ⟨_, _, _, _, _, haccepts⟩ | ⟨_, _, _, _, _, _, haccepts⟩ |
    ⟨_, _, _, _, _, _, haccepts⟩
  case refused =>
    have hnot : ¬ f.Accepts := by
      rintro ⟨-, -, -, r, hr, hsuccess⟩
      exact Bool.false_ne_true ((hanswer r hr).symm.trans hsuccess)
    simp [hfail, hnot]
  case cancelled => simp [hfail, PageFile.Accepts, hcancelled]
  case unread => simp [PageFile.Accepts, hread]
  case unsent => simp [PageFile.Accepts, hclient]
  all_goals exact iff_of_true (by simp) haccepts

/-- It is said to be printed only when its poll sees job-state 9. -/
lemma polls_of_printed (h : PageEnds jobId display page f run)
    (hprinted : .printed page.index ∈ run.trace) : f.Polls 9 := by
  have hfail : ∀ e, .printed page.index ∉ page.failureEvents e :=
    fun e hm => (nomatch emitted_of_mem_failureEvents hm)
  rcases h with _ | _ | _ | _ | _ | _ | _ | ⟨_, _, _, _, _, _, _, hdone⟩
  case printed => exact hdone
  all_goals simp [hfail] at hprinted

/-- The printer's own verdict on it is job-state 7 or 8. -/
lemma polls_of_verdict (h : PageEnds jobId display page f run)
    (hverdict : .verdict page.index ∈ run.trace) : f.Polls 7 ∨ f.Polls 8 := by
  have hfail : ∀ e, .verdict page.index ∉ page.failureEvents e :=
    fun e hm => (nomatch emitted_of_mem_failureEvents hm)
  rcases h with _ | _ | _ | _ | _ | ⟨_, _, _, _, _, _, hfinal⟩ | _ | _
  case canceled => exact hfinal
  all_goals simp [hfail] at hverdict

/-- A page is printed if and only if it ends well, and then it was accepted. -/
lemma printed_iff (h : PageEnds jobId display page f run) :
    .printed page.index ∈ run.trace ↔ run.result = .ok := by
  have hfail : ∀ e, .printed page.index ∉ page.failureEvents e :=
    fun e hm => (nomatch emitted_of_mem_failureEvents hm)
  rcases h with _ | _ | _ | _ | _ | _ | _ | _ <;> simp [hfail]

lemma accepted_of_ok (h : PageEnds jobId display page f run) (hok : run.result = .ok) :
    .accepted page.index ∈ run.trace := by
  rcases h with _ | _ | _ | _ | _ | _ | _ | _ <;> simp at hok ⊢

lemma accepted_of_unconfirmed (h : PageEnds jobId display page f run) {detail : String}
    (hlost : run.result = .unconfirmed detail) : .accepted page.index ∈ run.trace := by
  rcases h with _ | _ | _ | _ | _ | _ | _ | _ <;> simp at hlost ⊢

/-- A page that fails was not accepted, or the printer itself ended it, or it was never
polled. -/
lemma of_failed (h : PageEnds jobId display page f run) {detail : String}
    (hfailed : run.result = .failed detail) :
    .accepted page.index ∉ run.trace ∨ .verdict page.index ∈ run.trace ∨
      f.pollClient = .error detail := by
  have hfail : ∀ e, .accepted page.index ∉ page.failureEvents e :=
    fun e hm => (nomatch emitted_of_mem_failureEvents hm)
  rcases h with _ | _ | _ | _ | ⟨s, a, e, hs, ha, -, hpoll⟩ | _ | _ | _
  case unpolled =>
    obtain rfl := PrintResult.failed.inj hfailed
    exact Or.inr (Or.inr hpoll)
  all_goals simp [hfail] at hfailed ⊢

/-- The last event of a printed page tells so, and none before it ends the job. -/
lemma of_ok (h : PageEnds jobId display page f run) (hok : run.result = .ok) :
    ∃ before, endings before = [] ∧ .printed page.index ∈ before ∧ run.trace = before ++
      [.emitted (.ok jobId page.printedStage (page.printedDetail display))] := by
  rcases h with _ | _ | _ | _ | _ | _ | _ | ⟨s, a, v, hs, ha, hv⟩
  case printed =>
    exact ⟨[.emitted s, .posted page.index, .accepted page.index, .emitted a,
      .printed page.index, .emitted v], by simp [hs, ha, hv], by simp, rfl⟩
  all_goals cases hok

/-- The events that end the job, for the first page. -/
lemma endings_first (h : PageEnds jobId display page f run)
    (hfirst : page.failureIsTheJobs = true) :
    (∀ detail, run.result = .failed detail → endings run.trace = [] ∨
      ∃ e, endings run.trace = [e] ∧ e.stage = .failed ∧ e.detail = detail) ∧
    ∀ detail, run.result = .unconfirmed detail →
      endings run.trace = [.unconfirmed jobId detail] := by
  have hfail : ∀ detail, endings (page.failureEvents (.fail jobId .failed detail)) =
      [.fail jobId .failed detail] := fun detail => by
    rw [endings_failureEvents rfl, if_pos hfirst]
  have hverdict : ∀ detail, endings (page.failureEvents (.failedVerdict jobId detail)) =
      [.failedVerdict jobId detail] := fun detail => by
    rw [endings_failureEvents rfl, if_pos hfirst]
  have hlost : ∀ detail, endings (page.failureEvents (.unconfirmed jobId detail)) =
      [.unconfirmed jobId detail] := fun detail => by
    rw [endings_failureEvents rfl, if_pos hfirst]
  rcases h with _ | _ | _ | _ | _ | _ | _ | _ <;>
    simp [PrintJobEvent.fail, PrintJobEvent.failedVerdict, *] at *

/-- A later page that does not print ends nothing itself. -/
lemma endings_later (h : PageEnds jobId display page f run)
    (hlater : page.failureIsTheJobs = false) (hresult : run.result ≠ .ok) :
    endings run.trace = [] := by
  have hfail : ∀ e, page.failureEvents e = [] := fun e => by
    simp [PageOfJob.failureEvents, hlater]
  rcases h with _ | _ | _ | _ | _ | _ | _ | _ <;> simp [*] at *

end PageEnds

/-! ### The job as a whole -/

variable {pages i : ℕ} {files : List PageFile}

/-- The loop goes on after a printed page, and ends with any other one. -/
lemma sendFrom_cons (d : DirectIpp) (jobId : Server.JobId) (display : String) (pages i : ℕ)
    (f : PageFile) (files : List PageFile) :
    ∃ sent, PageEnds jobId display ⟨i, pages⟩ f sent ∧
      ((sent.result = .ok ∧ d.sendFrom jobId display pages i (f :: files) =
          (d.sendFrom jobId display pages (i + 1) files).after sent.trace) ∨
        (sent.result ≠ .ok ∧ d.sendFrom jobId display pages i (f :: files) =
          { trace := sent.trace ++ DirectIpp.lostEvents jobId ⟨i, pages⟩ sent.result
            result := PageOfJob.failure ⟨i, pages⟩ sent.result })) := by
  refine ⟨d.sendPage jobId display ⟨i, pages⟩ f, pageEnds_sendPage, ?_⟩
  rw [DirectIpp.sendFrom]
  split
  · rename_i hok
    exact Or.inl ⟨hok, rfl⟩
  · rename_i hne
    exact Or.inr ⟨hne, rfl⟩

@[simp] lemma posts_lostEvents (result : PrintResult) :
    posts (DirectIpp.lostEvents jobId page result) = [] := by
  unfold DirectIpp.lostEvents
  split
  · rfl
  · split <;> rfl

lemma emitted_of_mem_lostEvents {result : PrintResult} {x : SendEvent}
    (h : x ∈ DirectIpp.lostEvents jobId page result) : ∃ e, x = .emitted e := by
  unfold DirectIpp.lostEvents at h
  split at h
  · cases h
  · split at h
    · exact ⟨_, List.mem_singleton.mp h⟩
    · cases h

/-- What is said of a page is what the printer answered for it. -/
def SendEvent.Answered (files : List PageFile) : SendEvent → Prop
  | .accepted i => ∃ f ∈ files[i]?, f.Accepts
  | .printed i => ∃ f ∈ files[i]?, f.Polls 9
  | .verdict i => ∃ f ∈ files[i]?, f.Polls 7 ∨ f.Polls 8
  | _ => True

lemma PageEnds.answered (h : PageEnds jobId display page f run)
    (hf : files[page.index]? = some f) : ∀ x ∈ run.trace, x.Answered files := by
  rintro (_ | i | i | i | _) hx
  case accepted =>
    obtain rfl := h.index_eq (Or.inl hx)
    exact ⟨f, hf, h.accepted_iff.mp hx⟩
  case printed =>
    obtain rfl := h.index_eq (Or.inr (Or.inl hx))
    exact ⟨f, hf, h.polls_of_printed hx⟩
  case verdict =>
    obtain rfl := h.index_eq (Or.inr (Or.inr hx))
    exact ⟨f, hf, h.polls_of_verdict hx⟩
  all_goals trivial

/-- The success statuses and the final states that a job tells of are the printer's answers for
the pages it names. -/
lemma answered_sendPages (d : DirectIpp) (jobId : Server.JobId) (display : String)
    (files : List PageFile) : ∀ x ∈ (d.sendPages jobId display files).trace, x.Answered files := by
  suffices hfrom : ∀ (rest : List PageFile) (i : ℕ), files.drop i = rest →
      ∀ x ∈ (d.sendFrom jobId display files.length i rest).trace, x.Answered files from
    hfrom files 0 rfl
  intro rest
  induction rest with
  | nil => simp [DirectIpp.sendFrom]
  | cons f rest ih =>
    intro i hdrop x hx
    have hf : files[i]? = some f := by
      rw [← Nat.add_zero i, ← List.getElem?_drop, hdrop]
      rfl
    have hrest : files.drop (i + 1) = rest := by
      rw [← List.drop_drop, hdrop]
      rfl
    obtain ⟨sent, hends, ⟨-, heq⟩ | ⟨-, heq⟩⟩ :=
      sendFrom_cons d jobId display files.length i f rest
    · -- The page printed, and the rest is sent.
      rw [heq, PageRun.after, List.mem_append] at hx
      rcases hx with hsent | hlater
      · exact hends.answered hf x hsent
      · exact ih (i + 1) hrest x hlater
    · -- The page ends the job.
      rw [heq, List.mem_append] at hx
      rcases hx with hsent | hlost
      · exact hends.answered hf x hsent
      · obtain ⟨e, rfl⟩ := emitted_of_mem_lostEvents hlost
        trivial

/-- The pages are sent in their order, each once at most. -/
lemma posts_sendFrom (d : DirectIpp) (jobId : Server.JobId) (display : String) (pages : ℕ)
    (files : List PageFile) : ∀ i, ∃ k ≤ files.length,
      posts (d.sendFrom jobId display pages i files).trace = List.range' i k := by
  induction files with
  | nil => exact fun i => ⟨0, Nat.le_refl 0, rfl⟩
  | cons f files ih =>
    intro i
    obtain ⟨sent, hends, ⟨hok, heq⟩ | ⟨hne, heq⟩⟩ :=
      sendFrom_cons d jobId display pages i f files
    · obtain ⟨k, hk, hposts⟩ := ih (i + 1)
      -- a page that printed was posted
      have hsent : posts sent.trace = [i] := by
        rcases hends.posts_eq with h | ⟨-, h⟩
        · exact h
        · exact absurd hok h
      refine ⟨k + 1, Nat.succ_le_succ hk, ?_⟩
      rw [heq, PageRun.after, posts_append, hsent, hposts, List.range'_succ]
      rfl
    · rw [heq, posts_append, posts_lostEvents, List.append_nil]
      rcases hends.posts_eq with h | ⟨h, -⟩
      · exact ⟨1, by simp, by rw [h]; rfl⟩
      · exact ⟨0, by simp, h⟩

/-- The job ends well exactly when every page printed. -/
lemma sendFrom_eq_ok_iff (d : DirectIpp) (jobId : Server.JobId) (display : String) (pages : ℕ)
    (files : List PageFile) : ∀ i, (d.sendFrom jobId display pages i files).result = .ok ↔
      ∀ j < files.length, .printed (i + j) ∈ (d.sendFrom jobId display pages i files).trace := by
  induction files with
  | nil => exact fun i => ⟨fun _ j hj => absurd hj (Nat.not_lt_zero j), fun _ => rfl⟩
  | cons f files ih =>
    intro i
    obtain ⟨sent, hends, ⟨hok, heq⟩ | ⟨hne, heq⟩⟩ :=
      sendFrom_cons d jobId display pages i f files
    · have hfirst : .printed i ∈ sent.trace := hends.printed_iff.mpr hok
      rw [heq]
      change (d.sendFrom jobId display pages (i + 1) files).result = .ok ↔ _
      rw [ih (i + 1)]
      simp only [PageRun.after, List.mem_append]
      constructor
      · rintro hall (_ | j) hj
        · exact Or.inl hfirst
        · have hrest := hall j (by simpa using hj)
          rw [show i + 1 + j = i + (j + 1) by omega] at hrest
          exact Or.inr hrest
      · intro hall j hj
        rcases hall (j + 1) (by simpa using hj) with hsent | hrest
        · -- The page itself says nothing of a later one.
          have hindex := hends.index_eq (Or.inr (Or.inl hsent))
          simp at hindex
        · rw [show i + (j + 1) = i + 1 + j by omega] at hrest
          exact hrest
    · rw [heq]
      constructor
      · intro hok
        have hresult : sent.result = .ok := by
          unfold PageOfJob.failure at hok
          split at hok
          · exact hok
          · cases hs : sent.result <;> rw [hs] at hok <;> cases hok
        exact absurd hresult hne
      · intro hall
        rcases List.mem_append.mp (hall 0 (by simp)) with hsent | hlost
        · exact absurd (hends.printed_iff.mp hsent) hne
        · obtain ⟨e, he⟩ := emitted_of_mem_lostEvents hlost
          cases he

/-- After the first page the job does not fail. -/
lemma sendFrom_ne_failed (d : DirectIpp) (jobId : Server.JobId) (display : String) (pages : ℕ)
    (files : List PageFile) (detail : String) : ∀ i, i ≠ 0 →
      (d.sendFrom jobId display pages i files).result ≠ .failed detail := by
  induction files with
  | nil => exact fun i _ h => (nomatch h)
  | cons f files ih =>
    intro i hi
    obtain ⟨sent, -, ⟨-, heq⟩ | ⟨-, heq⟩⟩ := sendFrom_cons d jobId display pages i f files
    · rw [heq]
      exact ih (i + 1) (Nat.succ_ne_zero i)
    · rw [heq]
      exact fun hfailed => hi (failure_eq_failed hfailed).1

/-- The event of a job that every page of printed. -/
def completedEvent (jobId : Server.JobId) (display : String) : PrintJobEvent :=
  .ok jobId .completed s!"{display} confirmed printed"

lemma printed_last (h : page.index + 1 = page.pages) :
    PrintJobEvent.ok jobId page.printedStage (page.printedDetail display) =
      completedEvent jobId display := by
  simp [completedEvent, PageOfJob.printedStage, PageOfJob.printedDetail, PageOfJob.isLast, h]

/-- A page that is not the last one ends nothing when it prints. -/
lemma PageEnds.endings_printed (h : PageEnds jobId display page f run) (hok : run.result = .ok)
    (hlast : page.index + 1 ≠ page.pages) : endings run.trace = [] := by
  obtain ⟨before, hbefore, -, htrace⟩ := h.of_ok hok
  have hstage : page.printedStage = .sent := by
    simp [PageOfJob.printedStage, PageOfJob.isLast, hlast]
  rw [htrace, endings_append, hbefore, hstage]
  rfl

/-- When all pages printed, the last thing done is to say so. -/
lemma completed_of_ok (d : DirectIpp) (jobId : Server.JobId) (display : String) (pages : ℕ)
    (files : List PageFile) : ∀ i, i + files.length = pages → files ≠ [] →
      (d.sendFrom jobId display pages i files).result = .ok →
        ∃ before, endings before = [] ∧ (∀ j < files.length, .printed (i + j) ∈ before) ∧
          (d.sendFrom jobId display pages i files).trace =
            before ++ [.emitted (completedEvent jobId display)] := by
  induction files with
  | nil => exact fun i _ hne => absurd rfl hne
  | cons f files ih =>
    intro i hi _ hresult
    have hall := (sendFrom_eq_ok_iff d jobId display pages (f :: files) i).mp hresult
    obtain ⟨sent, hends, ⟨hok, heq⟩ | ⟨hne, heq⟩⟩ :=
      sendFrom_cons d jobId display pages i f files
    · obtain ⟨before, hbefore, hprinted, htrace⟩ := hends.of_ok hok
      by_cases hfiles : files = []
      · subst hfiles
        refine ⟨before, hbefore, fun j hj => ?_, ?_⟩
        · obtain rfl : j = 0 := by simpa using hj
          exact hprinted
        · rw [heq, PageRun.after, htrace, printed_last (by simpa using hi)]
          simp [DirectIpp.sendFrom]
      · have hlen : 0 < files.length := List.length_pos_iff.mpr hfiles
        have hi' : i + 1 + files.length = pages := by
          rw [List.length_cons] at hi
          omega
        rw [heq] at hresult
        obtain ⟨rest, hrest, hall', htrace'⟩ := ih (i + 1) hi' hfiles hresult
        have hquiet : endings sent.trace = [] := hends.endings_printed hok (by
          change i + 1 ≠ pages
          omega)
        refine ⟨sent.trace ++ rest, by rw [endings_append, hquiet, hrest]; rfl, ?_, ?_⟩
        · rintro (_ | j) hj
          · exact List.mem_append_left _ (hends.printed_iff.mpr hok)
          · have hj' := hall' j (by simpa using hj)
            rw [show i + 1 + j = i + (j + 1) by omega] at hj'
            exact List.mem_append_right _ hj'
        · rw [heq, PageRun.after, htrace', List.append_assoc]
    · rw [heq] at hresult
      have hprinted : .printed i ∈ sent.trace := by
        have hzero := hall 0 (by simp)
        rw [heq] at hzero
        rcases List.mem_append.mp hzero with hsent | hlost
        · exact hsent
        · obtain ⟨e, he⟩ := emitted_of_mem_lostEvents hlost
          cases he
      exact absurd (hends.printed_iff.mp hprinted) hne

/-- After the first page, the end of a job that is lost is told once. -/
lemma endings_of_unconfirmed (d : DirectIpp) (jobId : Server.JobId) (display : String)
    (pages : ℕ) (files : List PageFile) (detail : String) : ∀ i, i + files.length = pages →
      i ≠ 0 → (d.sendFrom jobId display pages i files).result = .unconfirmed detail →
        endings (d.sendFrom jobId display pages i files).trace = [.unconfirmed jobId detail] := by
  induction files with
  | nil => exact fun i _ _ h => (nomatch h)
  | cons f files ih =>
    intro i hi hne hresult
    obtain ⟨sent, hends, ⟨hok, heq⟩ | ⟨hnot, heq⟩⟩ :=
      sendFrom_cons d jobId display pages i f files
    · rw [List.length_cons] at hi
      rw [heq] at hresult ⊢
      have hlast : i + 1 ≠ pages := by
        rintro rfl
        have hnil : files = [] := List.eq_nil_iff_length_eq_zero.mpr (by omega)
        subst hnil
        cases hresult
      rw [PageRun.after, endings_append, hends.endings_printed hok hlast]
      exact ih (i + 1) (by omega) (Nat.succ_ne_zero i) hresult
    · have hlater : (PageOfJob.mk i pages).failureIsTheJobs = false := by
        simp [PageOfJob.failureIsTheJobs, hne]
      rw [heq] at hresult ⊢
      have hfailure : PageOfJob.failure ⟨i, pages⟩ sent.result = .unconfirmed detail := hresult
      rw [endings_append, hends.endings_later hlater hnot, DirectIpp.lostEvents, hlater, hfailure]
      simp [PrintJobEvent.unconfirmed, PrintJobEvent.fail, PrintJobEvent.ends]

/-- The events that end the job agree with its result: a printed job ends with `completed`, and
every other one has one event of its kind, which a plain failure may also lack. -/
def PageRun.Agrees (jobId : Server.JobId) (display : String) (run : PageRun) : Prop :=
  match run.result with
  | .ok => ∃ before, endings before = [] ∧
      run.trace = before ++ [.emitted (completedEvent jobId display)]
  | .failed detail => endings run.trace = [] ∨
      ∃ e, endings run.trace = [e] ∧ e.stage = .failed ∧ e.detail = detail
  | .unconfirmed detail => endings run.trace = [.unconfirmed jobId detail]

lemma agrees_sendPages (d : DirectIpp) (jobId : Server.JobId) (display : String)
    (hfiles : files ≠ []) : (d.sendPages jobId display files).Agrees jobId display := by
  obtain ⟨f, rest, rfl⟩ := List.exists_cons_of_ne_nil hfiles
  unfold PageRun.Agrees
  split
  · rename_i hok
    obtain ⟨before, hbefore, -, htrace⟩ :=
      completed_of_ok d jobId display _ (f :: rest) 0 (Nat.zero_add _) hfiles hok
    exact ⟨before, hbefore, htrace⟩
  all_goals rename_i detail hresult
  all_goals unfold DirectIpp.sendPages at hresult ⊢
  all_goals obtain ⟨sent, hends, ⟨hok, heq⟩ | ⟨hnot, heq⟩⟩ :=
      sendFrom_cons d jobId display (f :: rest).length 0 f rest
  all_goals rw [heq] at hresult ⊢
  · exact absurd hresult (sendFrom_ne_failed d jobId display _ rest detail 1 (by simp))
  · rw [endings_append, show endings (DirectIpp.lostEvents _ _ _) = [] from rfl, List.append_nil]
    exact (hends.endings_first rfl).1 detail hresult
  · have hrest : rest ≠ [] := by
      rintro rfl
      cases hresult
    have hlast : 0 + 1 ≠ (f :: rest).length := by
      simpa [eq_comm] using hrest
    rw [PageRun.after, endings_append, hends.endings_printed hok hlast]
    exact endings_of_unconfirmed d jobId display _ rest detail 1
      (by rw [List.length_cons]; omega) (by simp) hresult
  · rw [endings_append, show endings (DirectIpp.lostEvents _ _ _) = [] from rfl, List.append_nil]
    exact (hends.endings_first rfl).2 detail hresult

/-- A job that fails has no accepted page, or the printer itself ended its first one, or that
one was never polled. -/
lemma of_failed_sendPages {detail : String}
    (h : (d.sendPages jobId display files).result = .failed detail) :
    (∀ i, .accepted i ∉ (d.sendPages jobId display files).trace) ∨
      .verdict 0 ∈ (d.sendPages jobId display files).trace ∨
      ∃ f ∈ files.head?, f.pollClient = .error detail := by
  unfold DirectIpp.sendPages at h ⊢
  rcases files with _ | ⟨f, rest⟩
  · cases h
  · obtain ⟨sent, hends, ⟨hok, heq⟩ | ⟨hnot, heq⟩⟩ :=
      sendFrom_cons d jobId display (f :: rest).length 0 f rest
    · rw [heq] at h
      exact absurd h (sendFrom_ne_failed d jobId display _ rest detail 1 (by simp))
    · rw [heq] at h ⊢
      have htrace : sent.trace ++ DirectIpp.lostEvents jobId ⟨0, (f :: rest).length⟩ sent.result =
          sent.trace := List.append_nil _
      rw [htrace]
      rcases hends.of_failed h with hno | hverdict | hpoll
      · refine Or.inl fun i hi => ?_
        obtain rfl : i = 0 := hends.index_eq (Or.inl hi)
        exact hno hi
      · exact Or.inr (Or.inl hverdict)
      · exact Or.inr (Or.inr ⟨f, rfl, hpoll⟩)

/-- The end of a job is lost only after its first page was accepted. -/
lemma accepted_of_unconfirmed {detail : String}
    (h : (d.sendPages jobId display files).result = .unconfirmed detail) :
    .accepted 0 ∈ (d.sendPages jobId display files).trace := by
  unfold DirectIpp.sendPages at h ⊢
  rcases files with _ | ⟨f, rest⟩
  · cases h
  · obtain ⟨sent, hends, ⟨hok, heq⟩ | ⟨hnot, heq⟩⟩ :=
      sendFrom_cons d jobId display (f :: rest).length 0 f rest
    · rw [heq]
      exact List.mem_append_left _ (hends.accepted_of_ok hok)
    · rw [heq] at h ⊢
      exact List.mem_append_left _ (hends.accepted_of_unconfirmed h)

/-- The outcome of a job, for all that the printer, the files and the outer timeout do: the
pages are sent in order and each once at most; the job ends well exactly when every page
printed, fails only when no page was accepted, or the first page has the printer's own verdict
or could not be polled, and is unconfirmed in every other case; and of the events that end a
job there is one at most, which agrees with the result and, for a printed job, comes last. -/
theorem direct_ipp_outcome (d : DirectIpp) (jobId : Server.JobId) (display : String)
    (files : List PageFile) :
    (∃ k ≤ files.length, posts (d.sendPages jobId display files).trace = List.range k) ∧
    ((d.sendPages jobId display files).result = .ok ↔
      ∀ i < files.length, .printed i ∈ (d.sendPages jobId display files).trace) ∧
    (match (d.sendPages jobId display files).result with
      | .ok => True
      | .failed _ => (∀ i, .accepted i ∉ (d.sendPages jobId display files).trace) ∨
          .verdict 0 ∈ (d.sendPages jobId display files).trace ∨
          ∃ f ∈ files.head?, ∃ e, f.pollClient = .error e
      | .unconfirmed _ => ∃ i, .accepted i ∈ (d.sendPages jobId display files).trace) ∧
    (files = [] ∨ (d.sendPages jobId display files).Agrees jobId display) := by
  refine ⟨?_, ?_, ?_, ?_⟩
  · obtain ⟨k, hk, hposts⟩ := posts_sendFrom d jobId display files.length files 0
    exact ⟨k, hk, hposts.trans List.range_eq_range'.symm⟩
  · simpa [DirectIpp.sendPages] using sendFrom_eq_ok_iff d jobId display files.length files 0
  · split
    · trivial
    · rename_i detail hfailed
      rcases of_failed_sendPages hfailed with hno | hverdict | ⟨f, hf, hpoll⟩
      · exact Or.inl hno
      · exact Or.inr (Or.inl hverdict)
      · exact Or.inr (Or.inr ⟨f, hf, detail, hpoll⟩)
    · rename_i detail hlost
      exact ⟨0, accepted_of_unconfirmed hlost⟩
  · rcases eq_or_ne files [] with hnil | hfiles
    · exact Or.inl hnil
    · exact Or.inr (agrees_sendPages d jobId display hfiles)

/-- A job without a page file ends well. -/
theorem no_page_succeeds : ¬ ∀ (d : DirectIpp) (jobId : Server.JobId) (display : String)
    (files : List PageFile), (d.sendPages jobId display files).result = .ok →
      0 < files.length ∧
        ∀ i < files.length, .printed i ∈ (d.sendPages jobId display files).trace := by
  intro h
  have hnone := h ⟨"10.0.0.5", 60⟩ 1 "Epson L3260" [] rfl
  exact absurd hnone.1 (by decide)

/-! ### The pages as steps of the print task -/

/-- What a print task does by itself, with the outer timeout anywhere between. -/
inductive PrintTask.Runs : PrintTask → PrintTask → Prop where
  | refl (t : PrintTask) : Runs t t
  | step {t t' t'' : PrintTask} (outcome : TaskOutcome) (h : t.step outcome = some t')
      (hruns : Runs t' t'') : Runs t t''
  | cancel {t t' : PrintTask} (hruns : Runs { t with cancelled := true } t') : Runs t t'

lemma PrintTask.Runs.trans {t t' t'' : PrintTask} (h : t.Runs t') (h' : t'.Runs t'') :
    t.Runs t'' := by
  induction h with
  | refl => exact h'
  | step outcome hstep _ ih => exact .step outcome hstep (ih h')
  | cancel _ ih => exact .cancel (ih h')

/-- A page that prints takes the task to the next one, and any other end is the end of the
task. -/
lemma PageEnds.runs {i : ℕ} {t : PrintTask} (h : PageEnds jobId display ⟨i, t.pages⟩ f run)
    (hstage : t.stage = .page i) (hcancelled : t.cancelled = false) :
    (run.result = .ok ∧ t.Runs ({ t with accepted := true }.atPage (i + 1))) ∨
      (run.result ≠ .ok ∧
        ∃ t', t.Runs t' ∧ t'.stage = .ended (PageOfJob.failure ⟨i, t.pages⟩ run.result)) := by
  have hsend : t.Runs { t with stage := .sending i } :=
    .step .goesOn
      (by simp [PrintTask.step, hstage, PrintTask.checkCancel, hcancelled]) (.refl _)
  have hpost : t.Runs { t with stage := .posting i } :=
    hsend.trans (.step .goesOn rfl (.refl _))
  have haccepted : ∀ printerJobId : ℕ,
      t.Runs { t with stage := .acknowledged i printerJobId, accepted := true } :=
    fun printerJobId => hpost.trans (.step (.accepts printerJobId) rfl
      (.step .goesOn rfl (.refl _)))
  have hpoll : ∀ printerJobId : ℕ,
      t.Runs { t with stage := .polling i printerJobId, accepted := true } :=
    fun printerJobId => (haccepted printerJobId).trans
      (.step .goesOn rfl (.refl _))
  rcases h with h | ⟨detail⟩ | ⟨s, detail⟩ | ⟨s, detail⟩ | ⟨s, a, detail⟩ | ⟨s, a, detail⟩ |
    ⟨s, a, printerJobId, why⟩ | ⟨s, a, v⟩
  · refine Or.inr ⟨by simp, { t with cancelled := true }.failPage i
      (.failed (cancelledAt (PageOfJob.cancelPoint ⟨i, t.pages⟩))),
      .cancel (.step .goesOn ?_ (.refl _)), rfl⟩
    simp only [PrintTask.step, hstage, PrintTask.checkCancel, if_true]
  · exact Or.inr ⟨by simp, _, hsend.trans (.step (.fails detail) rfl (.refl _)), rfl⟩
  · exact Or.inr ⟨by simp, _, hsend.trans (.step (.fails detail) rfl (.refl _)), rfl⟩
  · exact Or.inr ⟨by simp, _, hpost.trans (.step (.fails detail) rfl (.refl _)), rfl⟩
  · exact Or.inr ⟨by simp, _,
      (haccepted 0).trans (.step (.fails detail) rfl (.refl _)), rfl⟩
  · exact Or.inr ⟨by simp, _,
      (hpoll 0).trans (.step (.canceled detail) rfl (.refl _)), rfl⟩
  · exact Or.inr ⟨by simp, _,
      (hpoll printerJobId).trans (.step (.loses why) rfl (.refl _)), rfl⟩
  · exact Or.inl ⟨rfl, (hpoll 0).trans (.step .printed rfl (.refl _))⟩

/-- The print task of a rendered job can do what `send_pages` does, and has its result. -/
theorem sendPages_runs (d : DirectIpp) (t : PrintTask) (display : String)
    (files : List PageFile) (hpages : t.pages = files.length) (hcancelled : t.cancelled = false) :
    ∃ t', (t.atPage 0).Runs t' ∧
      t'.stage = .ended (d.sendPages t.jobId display files).result := by
  suffices hfrom : ∀ (files : List PageFile) (i : ℕ) (t : PrintTask),
      t.pages = i + files.length → t.cancelled = false → ∃ t', (t.atPage i).Runs t' ∧
        t'.stage = .ended (d.sendFrom t.jobId display t.pages i files).result by
    rw [DirectIpp.sendPages, ← hpages]
    exact hfrom files 0 t (by omega) hcancelled
  intro files
  induction files with
  | nil =>
    intro i t hpages _
    refine ⟨_, .refl _, ?_⟩
    rw [PrintTask.atPage, if_neg (by simp at hpages; omega)]
    rfl
  | cons f files ih =>
    intro i t hpages hcancelled
    rw [List.length_cons] at hpages
    have hat : t.atPage i = { t with stage := .page i } := if_pos (by omega)
    obtain ⟨sent, hends, hsent⟩ := sendFrom_cons d t.jobId display t.pages i f files
    rw [hat]
    rcases hends.runs (t := { t with stage := .page i }) rfl hcancelled with
      ⟨hok, hruns⟩ | ⟨hnot, t', hruns, hended⟩
    · obtain ⟨-, heq⟩ : _ ∧ _ := hsent.resolve_right fun h => h.1 hok
      obtain ⟨t', hrest, hended⟩ :=
        ih (i + 1) { t with stage := .page i, accepted := true } (by simp; omega) hcancelled
      refine ⟨t', hruns.trans hrest, ?_⟩
      rw [hended, heq]
      rfl
    · obtain ⟨-, heq⟩ : _ ∧ _ := hsent.resolve_left fun h => hnot h.1
      exact ⟨t', hruns, by rw [hended, heq]⟩

end Print

end DevBridge

import DevBridge.Source.World

/-!
# The LAN API

The tills' second entry: a `fiscal.*` job is checked, journaled in `lan_jobs` and queued on
the same device workers.  A request whose till and `client_uuid` are journaled already never
runs anything: the same operation is answered from the stored row, another one is a conflict.
The calls run beside each other.
-/

namespace DevBridge

variable {E : Executor}

/-- The till and the `client_uuid`, by which a request is looked up. -/
def LanRequest.key (r : LanRequest) : ℤ × String := (r.kasaId, r.clientUuid)

/-- The job as the executors see it (its id is 0 until it is journaled). -/
def LanRequest.toJob (r : LanRequest) : DeviceJob where
  id := 0
  jobType := r.jobType
  clientUuid := r.clientUuid
  kasaId := some r.kasaId
  kasaName := ""
  posOrder := match r.posOrderId with
    | some id => .obj [("id", Json.ofInt id)]
    | none => .null
  payload := r.payload
  createdAt := ""
  claimedAt := ""

/-- The one `fiscal.*` type the LAN API refuses. -/
def PRINT_TEXT_JOB_TYPE : String := "fiscal.print_text"

/-- Error code: a job type the LAN API does not run. -/
def CODE_LAN_UNSUPPORTED : String := "unsupported"

/-- Error code: the job could not be run by this process. -/
def CODE_BRIDGE_ERROR : String := "bridge_error"

/-- Whether a replayed request is the stored operation: the same type and payload. -/
def sameOperation (stored : DeviceJob) (request : LanRequest) : Bool :=
  stored.jobType == request.jobType && stored.payload == request.payload

/-- Whether a call is answered now: the job is final or its outcome is unknown, or the call
waited long enough. -/
def answerNow (state : JobState) (late : Bool) : Bool :=
  state.isFinal || state == .indeterminate || late

/-- Why a job is refused before it is journaled, if it is: it is not a `fiscal.*` job, or a
printed text, or its executor refuses it. -/
def lanRefusal (E : Executor) (job : DeviceJob) : Option (String × String) :=
  if DeviceKind.forJobType job.jobType ≠ some .fiscal then
    some (CODE_LAN_UNSUPPORTED, s!"the LAN API runs fiscal.* jobs only ('{job.jobType}' is not one; card payments need the bank online) - nothing ran")
  else if job.jobType = PRINT_TEXT_JOB_TYPE then
    some (CODE_LAN_UNSUPPORTED, s!"the LAN API does not run {PRINT_TEXT_JOB_TYPE} (Odoo composes that text and sends it over the Odoo channel) - nothing ran")
  else
    match validate E job with
    | .ok _ => none
    | .error rejection => some (rejection.code, rejection.text)

/-- A step of a LAN call. -/
inductive LanEvent where
  /-- The request arrives and is looked up; `ok`: the journal works. -/
  | submit (request : LanRequest) (ok : Bool)
  /-- It is journaled; `ok`: the journal works. -/
  | insert (ok : Bool)
  /-- It is queued; `sent`: the worker is there, `ok`: the journal works. -/
  | enqueue (sent ok : Bool)
  /-- The row of the job is read; `late`: the call waited long enough. -/
  | look (ok late : Bool)
deriving DecidableEq

namespace World

variable (w : World E)

def withLan (i : ℕ) (pc : LanPc) : World E :=
  { w with proc := { w.proc with lan := Function.update w.proc.lan i pc } }

/-- Note in the log that a LAN job was queued. -/
def noteQueued (request : LanRequest) : World E :=
  { w with log := { w.log with queued := request.key :: w.log.queued } }

/-- A LAN call is answered. -/
def answerLan (i : ℕ) (request : LanRequest) (answer : LanAnswer) : World E :=
  { w.withLan i .idle with
    log := { w.log with answers := (request, answer) :: w.log.answers } }

/-- A `client_uuid` that is journaled on its till: never run again. -/
def replayed (i : ℕ) (request : LanRequest) (stored : LanJob) : World E :=
  if sameOperation stored.entry.job request then w.withLan i (.wait request stored.jobId true)
  else w.answerLan i request (.conflict stored)

/-- One step of a LAN call. -/
def lanStep (i : ℕ) (e : LanEvent) : Option (World E) :=
  match w.proc.lan i, e with
  | .idle, .submit request ok =>
    if !ok then some (w.answerLan i request .bridgeError)
    else
      match w.journal.lanJob request.kasaId request.clientUuid with
      | some stored => some (w.replayed i request stored)
      | none =>
        match lanRefusal E request.toJob with
        | some (code, text) => some (w.answerLan i request (.refused code text))
        | none => some (w.withLan i (.insert request))
  | .insert request, .insert ok =>
    if !ok then some (w.answerLan i request .bridgeError)
    else
      match w.journal.insertLanReceived w.clock request.toJob with
      | some (.new jobId, j) =>
        some (((w.noteJournaled jobId).withJournal j).withLan i
          (.enqueue request { request.toJob with id := jobId }))
      -- the same `client_uuid` raced in through another call
      | some (.known stored, _) => some (w.replayed i request stored)
      | none => some (w.answerLan i request .bridgeError)
  | .enqueue request job, .enqueue sent ok =>
    match E.queueOf job, sent with
    | some q, true =>
      some (((w.push q (.execute job.id w.instant)).noteQueued request).withLan i
        (.wait request job.id false))
    | _, _ =>
      some ((w.write ok (w.journal.recordOutcome w.clock job.id
        (.failed CODE_BRIDGE_ERROR
          "the devbridge fiscal worker is not running - nothing ran")).2).withLan i
            (.wait request job.id false))
  | .wait request jobId replay, .look ok late =>
    if !ok then some (w.answerLan i request .stateUnknown)
    else
      match w.journal.lanJobById jobId with
      | none => some (w.answerLan i request .stateUnknown)
      | some job =>
        if answerNow job.state late then some (w.answerLan i request (.job job replay))
        else some w
  | _, _ => none

end World

/-- What one step of a LAN call does. -/
inductive LanMove (w : World E) (i : ℕ) : LanEvent → World E → Prop
  | unread (request : LanRequest) (hpc : w.proc.lan i = .idle) :
      LanMove w i (.submit request false) (w.answerLan i request .bridgeError)
  | known (request : LanRequest) (stored : LanJob) (hpc : w.proc.lan i = .idle)
      (hrow : w.journal.lanJob request.kasaId request.clientUuid = some stored) :
      LanMove w i (.submit request true) (w.replayed i request stored)
  | refused (request : LanRequest) (code text : String) (hpc : w.proc.lan i = .idle)
      (hrow : w.journal.lanJob request.kasaId request.clientUuid = none)
      (hwhy : lanRefusal E request.toJob = some (code, text)) :
      LanMove w i (.submit request true) (w.answerLan i request (.refused code text))
  | admitted (request : LanRequest) (hpc : w.proc.lan i = .idle)
      (hrow : w.journal.lanJob request.kasaId request.clientUuid = none)
      (hwhy : lanRefusal E request.toJob = none) :
      LanMove w i (.submit request true) (w.withLan i (.insert request))
  | unwritten (request : LanRequest) (hpc : w.proc.lan i = .insert request) :
      LanMove w i (.insert false) (w.answerLan i request .bridgeError)
  | inserted (request : LanRequest) (jobId : ℤ) (j : Journal)
      (hpc : w.proc.lan i = .insert request)
      (hj : w.journal.insertLanReceived w.clock request.toJob = some (.new jobId, j)) :
      LanMove w i (.insert true) (((w.noteJournaled jobId).withJournal j).withLan i
        (.enqueue request { request.toJob with id := jobId }))
  | raced (request : LanRequest) (stored : LanJob) (j : Journal)
      (hpc : w.proc.lan i = .insert request)
      (hj : w.journal.insertLanReceived w.clock request.toJob = some (.known stored, j)) :
      LanMove w i (.insert true) (w.replayed i request stored)
  | neither (request : LanRequest) (hpc : w.proc.lan i = .insert request)
      (hj : w.journal.insertLanReceived w.clock request.toJob = none) :
      LanMove w i (.insert true) (w.answerLan i request .bridgeError)
  | queued (request : LanRequest) (job : DeviceJob) (q : DeviceQueue) (ok : Bool)
      (hpc : w.proc.lan i = .enqueue request job) (hq : E.queueOf job = some q) :
      LanMove w i (.enqueue true ok) (((w.push q (.execute job.id w.instant)).noteQueued
        request).withLan i (.wait request job.id false))
  | noWorker (request : LanRequest) (job : DeviceJob) (sent ok : Bool)
      (hpc : w.proc.lan i = .enqueue request job) :
      LanMove w i (.enqueue sent ok) ((w.write ok (w.journal.recordOutcome w.clock job.id
        (.failed CODE_BRIDGE_ERROR
          "the devbridge fiscal worker is not running - nothing ran")).2).withLan i
            (.wait request job.id false))
  | unreadable (request : LanRequest) (jobId : ℤ) (replay late : Bool)
      (hpc : w.proc.lan i = .wait request jobId replay) :
      LanMove w i (.look false late) (w.answerLan i request .stateUnknown)
  | vanished (request : LanRequest) (jobId : ℤ) (replay late : Bool)
      (hpc : w.proc.lan i = .wait request jobId replay)
      (hrow : w.journal.lanJobById jobId = none) :
      LanMove w i (.look true late) (w.answerLan i request .stateUnknown)
  | settled (request : LanRequest) (jobId : ℤ) (replay late : Bool) (job : LanJob)
      (hpc : w.proc.lan i = .wait request jobId replay)
      (hrow : w.journal.lanJobById jobId = some job) (hnow : answerNow job.state late = true) :
      LanMove w i (.look true late) (w.answerLan i request (.job job replay))
  | waiting (request : LanRequest) (jobId : ℤ) (replay late : Bool) (job : LanJob)
      (hpc : w.proc.lan i = .wait request jobId replay)
      (hrow : w.journal.lanJobById jobId = some job) (hnow : ¬ answerNow job.state late = true) :
      LanMove w i (.look true late) w

lemma lanMove_of_step {w w' : World E} {i : ℕ} {e : LanEvent} (h : w.lanStep i e = some w') :
    LanMove w i e w' := by
  unfold World.lanStep at h
  split at h
  · rename_i request ok hpc
    rcases ok with _ | _
    · cases h
      exact .unread request hpc
    · simp only [Bool.not_true, Bool.false_eq_true, if_false] at h
      split at h
      · rename_i stored hrow
        cases h
        exact .known request stored hpc hrow
      · rename_i hrow
        split at h
        · rename_i code text hwhy
          cases h
          exact .refused request code text hpc hrow hwhy
        · rename_i hwhy
          cases h
          exact .admitted request hpc hrow hwhy
  · rename_i request ok hpc
    rcases ok with _ | _
    · cases h
      exact .unwritten request hpc
    · simp only [Bool.not_true, Bool.false_eq_true, if_false] at h
      split at h
      · rename_i jobId j hj
        cases h
        exact .inserted request jobId j hpc hj
      · rename_i stored j hj
        cases h
        exact .raced request stored j hpc hj
      · rename_i hj
        cases h
        exact .neither request hpc hj
  · rename_i request job sent ok hpc
    split at h
    · rename_i q hq
      cases h
      exact .queued request job q ok hpc hq
    · cases h
      exact .noWorker request job _ ok hpc
  · rename_i request jobId replay ok late hpc
    rcases ok with _ | _
    · cases h
      exact .unreadable request jobId replay late hpc
    · simp only [Bool.not_true, Bool.false_eq_true, if_false] at h
      split at h
      · rename_i hrow
        cases h
        exact .vanished request jobId replay late hpc hrow
      · rename_i job hrow
        split at h
        · rename_i hnow
          cases h
          exact .settled request jobId replay late job hpc hrow hnow
        · rename_i hnow
          cases h
          exact .waiting request jobId replay late job hpc hrow hnow
  · cases h

/-- A stored job is waited for, or is a conflict that is answered. -/
lemma World.replayed_eq (w : World E) (i : ℕ) (request : LanRequest) (stored : LanJob) :
    w.replayed i request stored = w.withLan i (.wait request stored.jobId true) ∨
      w.replayed i request stored = w.answerLan i request (.conflict stored) := by
  unfold World.replayed
  split
  · exact Or.inl rfl
  · exact Or.inr rfl

end DevBridge

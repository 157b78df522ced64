import DevBridge.Source.Work

/-!
# What one step of the source can do

A step changes the journal in one of a dozen ways, starts a call of the executor, lets one
run or waits for one.  The inductive `Shape` lists these with all that a proof about the
jobs, the calls or the devices needs; every invariant below is proved by its cases.  Steps
that only move messages or work items are `quiet`.
-/

namespace DevBridge

variable {E : Executor}

/-- The executor call a worker waits for: its number and what it was called with. -/
def WorkerPc.call : WorkerPc → Option (ℕ × (DeviceJob ⊕ JournalEntry))
  | running job task _ _ => some (task, .inl job)
  | reconciling entry task => some (task, .inr entry)
  | _ => none

namespace ControlPc

/-- The job in an answer to `next` that has not reached the bridge yet. -/
def handing : ControlPc → Option ℤ
  | next (some reply) => World.handedOut reply
  | _ => none

/-- The job that the loop found no row of and acks `not_received`. -/
def absent : ControlPc → Option ℤ
  | missing p _ _ | notReceived p _ _ _ => some p.id
  | _ => none

end ControlPc

namespace World

/-- The executor call the worker of a queue waits for. -/
def call (w : World E) (q : DeviceQueue) : Option (ℕ × (DeviceJob ⊕ JournalEntry)) :=
  (w.proc.workers q).call

end World

/-- Neither the executor's calls nor the devices changed. -/
structure Frame (w w' : World E) : Prop where
  clock : w'.clock = w.clock
  dev : w'.dev = w.dev
  vol : w'.proc.vol = w.proc.vol
  tasks : w'.proc.tasks = w.proc.tasks
  nextTask : w'.proc.nextTask = w.proc.nextTask
  calls : ∀ q, w'.call q = w.call q
  journaled : w'.log.journaled = w.log.journaled
  executed : w'.log.executed = w.log.executed
  up : w'.up = w.up

namespace Frame

lemma refl (w : World E) : Frame w w := ⟨rfl, rfl, rfl, rfl, rfl, fun _ => rfl, rfl, rfl, rfl⟩

/-- All that a frame speaks of. -/
def core (w : World E) :=
  (w.clock, w.dev, w.proc.vol, w.proc.tasks, w.proc.nextTask, w.proc.workers,
    w.log.journaled, w.log.executed, w.up)

lemma of_core {w w' : World E} (h : core w' = core w) : Frame w w' := by
  simp only [core, Prod.mk.injEq] at h
  obtain ⟨h1, h2, h3, h4, h5, h6, h7, h8, h9⟩ := h
  exact ⟨h1, h2, h3, h4, h5, fun q => by rw [World.call, World.call, h6], h7, h8, h9⟩

end Frame

/-- What one step can do. -/
inductive Shape (timing : Timing) (w : World E) (event : Event E) (w' : World E) : Prop
  /-- No job, call or device is touched. -/
  | quiet (f : Frame w w') (hj : w'.journal = w.journal)
  | clock (t : Time) (h : w' = { w with clock := t })
  | dev (e : E.DevEvent) (dev : E.Dev) (hev : event = .dev e)
      (he : E.devStep e w.dev = some dev) (h : w' = { w with dev })
  /-- A job of Odoo is journaled; it is queued next, unless it was refused. -/
  | inserted (job : OdooJob) (refused : Option (String × String))
      (f : Frame (w.noteJournaled job.job.id) w')
      (hnew : (w.journal.insert w.clock job refused).1 = .new)
      (hj : w'.journal = (w.journal.insert w.clock job refused).2)
      (hcheck : refused = none → ∃ kind, validate E job.job = .ok kind)
      (hnext : w.proc.control.handing = some job.job.id)
  /-- A LAN job is journaled. -/
  | lanInserted (job : DeviceJob) (jobId : ℤ) (f : Frame (w.noteJournaled jobId) w')
      (hj : w.journal.insertLanReceived w.clock job = some (.new jobId, w'.journal))
      (hlan : ∃ i request job', w.proc.lan i = .insert request ∧
        w'.proc.lan i = .enqueue request job')
  /-- A job waited too long in its queue. -/
  | expired (f : Frame w w') (jobId : ℤ) (text : String)
      (hpc : ∃ q entry, w.Has (.starting q entry) ∧ entry.job.id = jobId)
      (hj : w'.journal = (w.journal.failUnstarted w.clock jobId CODE_EXPIRED_LOCAL text).2)
  /-- A job could not be queued. -/
  | noWorker (f : Frame w w') (jobId : ℤ) (code text : String)
      (henq : ∃ call job, w.Has (.enqueue call job) ∧ job.id = jobId ∧
        ∀ job', ¬ w'.Has (.enqueue call job'))
      (hj : w'.journal = (w.journal.recordOutcome w.clock jobId (.failed code text)).2)
  /-- The guard of a running call fired. -/
  | guarded (f : Frame w w') (q : DeviceQueue) (task : ℕ) (job : DeviceJob)
      (hcall : w.call q = some (task, .inl job)) (hguard : E.mayOutlastGuard job = true)
      (reason : String)
      (hj : w'.journal = (w.journal.recordOutcome w.clock job.id (.indeterminate reason)).2)
  /-- No executor can reconcile a job. -/
  | noted (f : Frame w w') (jobId : ℤ) (reason : String)
      (hj : w'.journal = (w.journal.recordStillUnknown w.clock jobId reason).2)
  /-- Bookkeeping of an ack: it is accepted only when the ack sender has its answer. -/
  | acked (f : Frame w w') (jobId : ℤ) (op : RowOp)
      (hop : op = .reopenAck ∨ op = .markReported ∨ ∃ ack note rest,
        op = .markAcked note ∧ w.proc.acker = .mark ack note rest ∧ ack.jobId = jobId ∧
        (ack.isFinal = true ∨ ack = .notReceived jobId))
      (hj : w'.journal = (w.journal.updateOdoo w.clock jobId op).2)
  /-- Bookkeeping of an `authorized` ack. -/
  | authAcked (f : Frame w w') (jobId : ℤ) (note : String)
      (hj : w'.journal = (w.journal.markCardAuthAcked jobId note).2)
  /-- Bookkeeping of a report. -/
  | reported (f : Frame w w') (jobId : ℤ) (odooJobId : Option ℤ) (note : String)
      (hj : w'.journal = (w.journal.markLanReported w.clock jobId odooJobId note).2)
      (hpc : ∃ job rest, w.proc.reporter = .mark job odooJobId note rest ∧ job.jobId = jobId)
  /-- A worker calls `execute`. -/
  | execute (q : DeviceQueue) (entry : JournalEntry) (queuedAt : ℕ)
      (hpc : w.proc.workers q = .starting entry queuedAt)
      (hrow : (w.journal.startExecution w.clock entry.job.id).1 = true)
      (h : w' = (w.withJournal (w.journal.startExecution w.clock entry.job.id).2).callExecute
        q entry.job)
  /-- A worker calls `reconcile`. -/
  | reconcile (q : DeviceQueue) (jobId : ℤ) (rest : List WorkItem) (entry : JournalEntry)
      (hpc : w.proc.workers q = .idle) (hq : w.proc.queues q = .reconcile jobId :: rest)
      (hrow : w.journal.get jobId = some entry) (hstate : entry.state = .indeterminate)
      (h : w' = ((w.pop q).spawn (E.reconcile entry)).withWorker q
        (.reconciling entry w.proc.nextTask))
  /-- The journal error at the guard ends the worker's wait for a call that goes on. -/
  | detached (q : DeviceQueue) (job : DeviceJob) (task startedAt : ℕ)
      (hpc : w.proc.workers q = .running job task startedAt false)
      (hguard : E.mayOutlastGuard job = true)
      (h : w' = w.withWorker q .idle)
  /-- A call of `execute` returned. -/
  | joined (q : DeviceQueue) (job : DeviceJob) (task startedAt : ℕ) (guarded : Bool)
      (t : E.Task) (outcome : Outcome) (ok : Bool)
      (hpc : w.proc.workers q = .running job task startedAt guarded)
      (htask : w.proc.tasks task = some t) (hout : E.outcome t = some outcome)
      (h : w' = ((w.joined task).write ok
        (w.journal.recordOutcome w.clock job.id outcome).2).withWorker q .idle)
  /-- A call of `reconcile` returned. -/
  | answered (q : DeviceQueue) (entry : JournalEntry) (task : ℕ)
      (t : E.Task) (answer : Reconciliation) (ok : Bool)
      (hpc : w.proc.workers q = .reconciling entry task)
      (htask : w.proc.tasks task = some t) (hout : E.answer t = some answer)
      (h : w' = (((w.joined task).write ok (w.recordAnswer entry.job.id answer)).withWorker q
        .idle).reconcileDone entry.job.id)
  /-- A call of the executor takes a step. -/
  | task (i : ℕ) (e : E.Event) (t t' : E.Task) (s : ExecState E.Dev E.Vol)
      (hev : event = .task i e)
      (htask : w.proc.tasks i = some t)
      (hstep : E.step w.clock i e t ⟨w.journal, w.dev, w.proc.vol⟩ = some (t', s))
      (h : w' = { w with
        journal := s.journal
        dev := s.dev
        proc := { w.proc with
          tasks := Function.update w.proc.tasks i (some t')
          vol := s.vol } })
  | crash (h : w' = w.crash)
  | start (n : ℕ) (hup : w.up = false) (h : w' = w.start n) (hev : event = .start n)

/-! ### Every step has a shape -/

namespace Shape

variable {timing : Timing} {w w' : World E} {event : Event E}

/-- A step that changes the control loop and the journal only. -/
lemma frame_of_control {pc : ControlPc} {j : Journal} :
    Frame w ((w.withJournal j).withControl pc) :=
  Frame.of_core rfl

lemma of_withControl (w : World E) (pc : ControlPc) : Shape timing w event (w.withControl pc) :=
  .quiet (Frame.of_core rfl) rfl

lemma of_controlFailed (w : World E) : Shape timing w event w.controlFailed :=
  .quiet (Frame.of_core rfl) rfl

lemma of_reopened (w : World E) (jobId : ℤ) (pc : ControlPc) :
    Shape timing w event ((w.withJournal (w.journal.reopenAck w.clock jobId).2).withControl pc) :=
  .acked frame_of_control jobId .reopenAck (Or.inl rfl) rfl

lemma of_acceptJob (w : World E) (job : OdooJob) (ok : Bool)
    (hnext : w.proc.control.handing = some job.job.id) :
    Shape timing w event (w.acceptJob job ok) := by
  unfold World.acceptJob
  split
  · exact of_controlFailed w
  · split
    · rename_i kind hvalid
      split
      · exact of_withControl w _
      · rename_i j hj
        refine .inserted job none frame_of_control ?_ ?_ (fun _ => ⟨kind, hvalid⟩) hnext
        · rw [← Journal.insertReceived, hj]
        · change j = _
          rw [← Journal.insertReceived, hj]
    · rename_i rejection hvalid
      split
      · exact of_withControl w _
      · rename_i j hj
        refine .inserted job (some (rejection.code, rejection.text)) frame_of_control ?_ ?_
          (fun h => by cases h) hnext
        · rw [← Journal.insertRefused, hj]
        · change j = _
          rw [← Journal.insertRefused, hj]

lemma of_nextArrived (w : World E) (reply : Reply) (ok : Bool)
    (hpc : w.proc.control = .next (some reply)) :
    Shape timing w event (w.nextArrived reply ok) := by
  unfold World.nextArrived
  split
  · exact of_controlFailed w
  · exact of_withControl w _
  · rename_i job waitS hjob
    refine of_acceptJob w job ok ?_
    rw [hpc, ControlPc.handing, World.handedOut, hjob]

lemma of_notReceivedArrived {w₀ w : World E} (hf : Frame w₀ w) (hj : w.journal = w₀.journal)
    (rest : List PendingJob) (retryLater : Bool) (result : Except RpcError AckReply) :
    Shape timing w₀ event (w.notReceivedArrived rest retryLater result) := by
  have hpc : ∀ pc, Shape timing w₀ event (w.withControl pc) := fun pc =>
    .quiet ⟨hf.clock, hf.dev, hf.vol, hf.tasks, hf.nextTask, hf.calls, hf.journaled,
      hf.executed, hf.up⟩ hj
  rcases w.notReceivedArrived_eq rest retryLater result with h | ⟨r, h⟩ <;> rw [h]
  · exact hpc _
  · exact hpc _

lemma of_controlStep {e : ControlEvent} (h : w.controlStep timing e = some w') :
    Shape timing w event w' := by
  unfold World.controlStep at h
  split at h
  · split at h <;> (cases h; exact of_withControl w _)
  · cases h
    exact of_withControl w _
  · cases h
    unfold World.pendingArrived
    split <;> exact of_withControl w _
  · cases h
    exact of_withControl w _
  · cases h
    exact .quiet (Frame.of_core rfl) rfl
  · split at h
    · cases h
      exact of_withControl w _
    · split at h
      · cases h
        exact of_reopened w _ _
      · cases h
        exact of_withControl w _
  · cases h
    exact .quiet (Frame.of_core rfl) rfl
  · cases h
    exact of_notReceivedArrived (Frame.refl w) rfl _ _ _
  · rename_i p rest retryLater answer e hpc
    simp only [Option.some.injEq] at h
    subst h
    let late := if answer.isNone then p.id :: w.odoo.late else w.odoo.late
    let w₁ : World E := { w with odoo := { w.odoo with late } }
    have hf : Frame w w₁ := Frame.of_core rfl
    exact of_notReceivedArrived hf rfl _ _ _
  · rename_i hpc
    cases h
    exact of_nextArrived w _ _ hpc
  · cases h
    exact of_controlFailed w
  · split at h
    · cases h
      exact of_reopened w _ _
    · cases h
      exact of_controlFailed w
  · rename_i job kind sent ok hpc
    split at h
    · cases h
      exact .quiet (Frame.of_core rfl) rfl
    · split at h
      · cases h
        refine .noWorker frame_of_control job.job.id _ _
          ⟨none, job.job, ?_, rfl, fun job' hjob' => nomatch hjob'⟩ rfl
        simp [World.Has, World.work, hpc, ControlPc.enqueued]
      · cases h
        exact of_controlFailed w
  · cases h

lemma of_odooStep {e : OdooEvent} (h : w.odooStep e = some w') : Shape timing w event w' := by
  unfold World.odooStep at h
  split at h
  · cases h
    exact of_withControl w _
  · cases h
    exact of_withControl w _
  · simp only at h
    split at h <;>
      (cases h; exact .quiet (Frame.of_core rfl) rfl)
  · split at h
    · cases h
      exact .quiet (Frame.of_core rfl) rfl
    · cases h
  · cases h

lemma of_lanStep {i : ℕ} {e : LanEvent} (h : w.lanStep i e = some w') :
    Shape timing w (.lan i e) w' := by
  have hquiet : ∀ pc, Shape timing w (.lan i e) (w.withLan i pc) := fun pc =>
    .quiet (Frame.of_core rfl) rfl
  have hanswer : ∀ request answer, Shape timing w (.lan i e) (w.answerLan i request answer) :=
    fun _ _ => .quiet (Frame.of_core rfl) rfl
  have hreplayed : ∀ request stored, Shape timing w (.lan i e) (w.replayed i request stored) := by
    intro request stored
    rcases w.replayed_eq i request stored with heq | heq
    · rw [heq]
      exact hquiet _
    · rw [heq]
      exact hanswer _ _
  cases lanMove_of_step h with
  | known request stored hpc hrow => exact hreplayed request stored
  | raced request stored j hpc hj => exact hreplayed request stored
  | admitted request hpc hrow hwhy => exact hquiet _
  | inserted request jobId j hpc hj =>
    exact .lanInserted _ jobId (Frame.of_core rfl) hj
      ⟨i, request, { request.toJob with id := jobId }, hpc, Function.update_self _ _ _⟩
  | queued request job q ok hpc hq => exact .quiet (Frame.of_core rfl) rfl
  | noWorker request job sent ok hpc =>
    cases ok with
    | false => exact hquiet _
    | true =>
      refine .noWorker (Frame.of_core rfl) job.id _ _
        ⟨some i, job, ?_, rfl, fun job' hjob' => ?_⟩ rfl
      · simp [World.Has, World.work, hpc, LanPc.enqueued]
      · simp [World.Has, World.work, World.withLan, LanPc.enqueued] at hjob'
  | waiting request jobId replay late job hpc hrow hnow => exact .quiet (Frame.refl w) rfl
  | _ => exact hanswer _ _

/-- A worker that moves between states in which it waits for no call keeps the frame. -/
lemma frame_of_worker {q : DeviceQueue} {pc : WorkerPc} (hpc : pc.call = w.call q)
    (hf : Frame w w') (hw : w'.proc.workers = w.proc.workers) :
    Frame w (w'.withWorker q pc) := by
  refine ⟨hf.clock, hf.dev, hf.vol, hf.tasks, hf.nextTask, fun q' => ?_, hf.journaled,
    hf.executed, hf.up⟩
  by_cases hq : q' = q
  · subst hq
    simpa [World.call, World.withWorker] using hpc
  · simp [World.call, World.withWorker, hq, hw]

lemma of_workerStep {q : DeviceQueue} {e : WorkerEvent}
    (h : w.workerStep timing q e = some w') : Shape timing w event w' := by
  unfold World.workerStep at h
  split at h
  · rename_i ok hpc
    have hcall : w.call q = none := by simp [World.call, hpc, WorkerPc.call]
    have hpop : Frame w (w.pop q) := Frame.of_core rfl
    split at h
    · cases h
    · split at h
      · split at h
        · cases h
          exact .quiet (frame_of_worker (by rw [hcall]; rfl) hpop rfl) rfl
        · cases h
          exact .quiet hpop rfl
      · cases h
        exact .quiet hpop rfl
    · rename_i jobId rest hq
      have hdone : Shape timing w event ((w.pop q).reconcileDone jobId) :=
        .quiet (Frame.of_core rfl) rfl
      split at h
      · rename_i entry hrow
        split at h
        · cases h
          rw [World.toReconcile, Option.filter_eq_some_iff] at hrow
          exact .reconcile q jobId rest entry hpc hq hrow.1 (by simpa using hrow.2) rfl
        · cases h
          exact hdone
      · cases h
        exact hdone
  · rename_i entry queuedAt ok hpc
    have hidle : Frame w (w.withWorker q .idle) :=
      frame_of_worker (by simp [World.call, hpc, WorkerPc.call]) (Frame.refl w) rfl
    simp only at h
    split at h
    · cases h
      exact .quiet hidle rfl
    · split at h
      · cases h
        exact .expired ⟨hidle.clock, hidle.dev, hidle.vol, hidle.tasks, hidle.nextTask,
          hidle.calls, hidle.journaled, hidle.executed, hidle.up⟩ entry.job.id _
          ⟨q, entry, by simp [World.Has, World.work, hpc, WorkerPc.started], rfl⟩ rfl
      · split at h
        · cases h
          exact .quiet hidle rfl
        · rename_i j hj
          cases h
          refine .execute q entry queuedAt hpc (by rw [hj]) ?_
          rw [hj]
  · rename_i job task startedAt ok hpc
    split at h
    · rename_i hguard
      split at h
      · cases h
        refine .guarded (frame_of_worker ?_ (Frame.of_core rfl)
          rfl) q task job ?_ hguard.1 _ rfl
        · simp [World.call, hpc, WorkerPc.call]
        · simp [World.call, hpc, WorkerPc.call]
      · cases h
        exact .detached q job task startedAt hpc hguard.1 rfl
    · cases h
  · rename_i job task startedAt guarded ok hpc
    split at h
    · rename_i outcome hout
      cases h
      rw [Option.bind_eq_some_iff] at hout
      obtain ⟨t, ht, hout⟩ := hout
      exact .joined q job task startedAt guarded t outcome ok hpc ht hout rfl
    · cases h
  · rename_i entry task ok hpc
    split at h
    · rename_i answer hout
      cases h
      rw [Option.bind_eq_some_iff] at hout
      obtain ⟨t, ht, hout⟩ := hout
      exact .answered q entry task t answer ok hpc ht hout rfl
    · cases h
  · cases h

lemma of_reconcilerStep {e : ReconcilerEvent} (h : w.reconcilerStep e = some w') :
    Shape timing w event w' := by
  have hframe : Frame w w := Frame.refl w
  unfold World.reconcilerStep at h
  split at h
  · cases h
    exact .quiet (Frame.of_core rfl) rfl
  · cases h
    exact .quiet (Frame.of_core rfl) rfl
  · cases h
    exact .quiet (Frame.of_core rfl) rfl
  · simp only at h
    split at h
    · split at h
      · cases h
        exact .quiet (Frame.of_core rfl) rfl
      · split at h <;>
          (cases h; exact .quiet (Frame.of_core rfl) rfl)
    · split at h
      · split at h
        · cases h
          exact .noted (Frame.of_core rfl) _ _ rfl
        · cases h
          exact .quiet (Frame.of_core rfl) rfl
      · cases h
        exact .quiet (Frame.of_core rfl) rfl
  · cases h
    exact .quiet (Frame.of_core rfl) rfl
  · cases h

lemma of_ackerStep {e : AckerEvent} (h : w.ackerStep e = some w') : Shape timing w event w' := by
  unfold World.ackerStep at h
  split at h
  · cases h
    exact .quiet (Frame.of_core rfl) rfl
  · cases h
    exact .quiet (Frame.of_core rfl) rfl
  · cases h
    exact .quiet (Frame.of_core rfl) rfl
  · cases h
    exact .quiet (Frame.of_core rfl) rfl
  · simp only at h
    split at h
    · cases h
      exact .quiet (Frame.of_core rfl) rfl
    · split at h
      · cases h
        exact .quiet (Frame.of_core rfl) rfl
      · split at h <;>
          (cases h; exact .quiet (Frame.of_core rfl) rfl)
  · rename_i ack note rest ok hpc
    split at h
    · cases h
      have hf : ∀ j, Frame w ((w.withJournal j).withAcker (.flush rest)) := fun j =>
        Frame.of_core rfl
      cases ack with
      | indeterminate jobId reason =>
        exact .acked (hf _) jobId .markReported (Or.inr (Or.inl rfl)) rfl
      | authorized jobId result => exact .authAcked (hf _) jobId note rfl
      | done jobId _ | failed jobId _ _ =>
        exact .acked (hf _) jobId (.markAcked note)
          (Or.inr (Or.inr ⟨_, note, rest, rfl, hpc, rfl, Or.inl rfl⟩)) rfl
      | notReceived jobId =>
        exact .acked (hf _) jobId (.markAcked note)
          (Or.inr (Or.inr ⟨_, note, rest, rfl, hpc, rfl, Or.inr rfl⟩)) rfl
    · cases h
      exact .quiet (Frame.of_core rfl) rfl
  · cases h
    exact .quiet (Frame.of_core rfl) rfl
  · cases h
    exact .quiet (Frame.of_core rfl) rfl
  · cases h

lemma of_reporterStep {e : ReporterEvent} (h : w.reporterStep e = some w') :
    Shape timing w event w' := by
  have hquiet : ∀ pc, Shape timing w event (w.withReporter pc) := fun pc =>
    .quiet (Frame.of_core rfl) rfl
  unfold World.reporterStep at h
  split at h
  · cases h
    exact hquiet _
  · cases h
    exact hquiet _
  · split at h <;> (cases h; exact hquiet _)
  · cases h
    exact .quiet (Frame.of_core rfl) rfl
  · split at h
    · cases h
      exact .quiet (Frame.of_core rfl) rfl
    · split at h <;> (cases h; exact hquiet _)
  · rename_i job odooJobId note rest ok hpc
    split at h
    · cases h
      exact .reported (Frame.of_core rfl) _ _ _ rfl ⟨job, rest, hpc, rfl⟩
    · cases h
      exact hquiet _
  · cases h

/-- Every step of the source has a shape. -/
theorem of_step {e : Event E} (h : w.step timing e = some w') : Shape timing w e w' := by
  cases e with
  | clock t =>
    cases h
    exact .clock t rfl
  | elapse seconds =>
    cases h
    exact .quiet (Frame.of_core rfl) rfl
  | dev e =>
    simp only [World.step, Option.map_eq_some_iff] at h
    obtain ⟨dev, hdev, rfl⟩ := h
    exact .dev e dev rfl hdev rfl
  | odoo e => exact of_odooStep h
  | crash =>
    simp only [World.step] at h
    split at h <;> cases h
    exact .crash rfl
  | start n =>
    simp only [World.step] at h
    split at h <;> cases h
    rename_i hup
    exact .start n (by simpa using hup) rfl rfl
  | control e =>
    simp only [World.step] at h
    split at h
    · exact of_controlStep h
    · cases h
  | lan i e =>
    simp only [World.step] at h
    split at h
    · exact of_lanStep h
    · cases h
  | worker q e =>
    simp only [World.step] at h
    split at h
    · exact of_workerStep h
    · cases h
  | reconciler e =>
    simp only [World.step] at h
    split at h
    · exact of_reconcilerStep h
    · cases h
  | acker e =>
    simp only [World.step] at h
    split at h
    · exact of_ackerStep h
    · cases h
  | reporter e =>
    simp only [World.step] at h
    split at h
    · exact of_reporterStep h
    · cases h
  | task i e =>
    simp only [World.step] at h
    split at h
    · unfold World.taskStep at h
      split at h
      · rename_i t ht
        simp only [Option.map_eq_some_iff] at h
        obtain ⟨⟨t', s⟩, hs, rfl⟩ := h
        exact .task i e t t' s rfl ht hs rfl
      · cases h
    · cases h

end Shape

end DevBridge

import DevBridge.Source.Step

/-!
# Where the work is

A journaled job waits to be queued, then it is in a queue, then a worker has read its row and
is about to start it; a row whose outcome is unknown is in the reconciler's hand and then in
a queue.  These pieces of work are all in the memory of the process.  A step moves a piece on
or drops it, and takes up a new piece only for a row.
-/

namespace DevBridge

variable {E : Executor} {timing : Timing}

/-- The job that the control loop is about to queue. -/
def ControlPc.enqueued : ControlPc → Option DeviceJob
  | enqueue job _ => some job.job
  | _ => none

/-- The job that a LAN call is about to queue. -/
def LanPc.enqueued : LanPc → Option DeviceJob
  | enqueue _ job => some job
  | _ => none

/-- The row that a worker read and is about to start. -/
def WorkerPc.started : WorkerPc → Option JournalEntry
  | starting entry _ => some entry
  | _ => none

/-- The rows that the reconciler read and has not scheduled yet. -/
def ReconcilerPc.rows : ReconcilerPc → List JournalEntry
  | idle => []
  | lan rows | schedule rows => rows

/-- A piece of work. -/
inductive Piece where
  /-- A job to be queued, by the control loop or by a LAN call. -/
  | enqueue (call : Option ℕ) (job : DeviceJob)
  | execute (q : DeviceQueue) (jobId : ℤ)
  | reconcile (q : DeviceQueue) (jobId : ℤ)
  | starting (q : DeviceQueue) (entry : JournalEntry)
  | unscheduled (entry : JournalEntry)

namespace World

/-- The places of the pieces of work. -/
def work (w : World E) :=
  (w.proc.control.enqueued, fun i => (w.proc.lan i).enqueued, w.proc.queues,
    fun q => (w.proc.workers q).started, w.proc.reconciler.rows)

/-- A piece of work is there. -/
def Has (w : World E) : Piece → Prop
  | .enqueue none job => w.work.1 = some job
  | .enqueue (some i) job => w.work.2.1 i = some job
  | .execute q id => ∃ queuedAt, WorkItem.execute id queuedAt ∈ w.work.2.2.1 q
  | .reconcile q id => WorkItem.reconcile id ∈ w.work.2.2.1 q
  | .starting q entry => w.work.2.2.2.1 q = some entry
  | .unscheduled entry => entry ∈ w.work.2.2.2.2

end World

lemma World.mem_push {w : World E} {q q' : DeviceQueue} {item item' : WorkItem} :
    item' ∈ (w.push q item).proc.queues q' ↔
      item' ∈ w.proc.queues q' ∨ q' = q ∧ item' = item := by
  by_cases hq : q' = q
  · subst hq
    simp [World.push]
  · simp [World.push, hq]

lemma World.mem_of_mem_pop {w : World E} {q q' : DeviceQueue} {item : WorkItem}
    (h : item ∈ (w.pop q).proc.queues q') : item ∈ w.proc.queues q' := by
  by_cases hq : q' = q
  · subst hq
    exact List.mem_of_mem_tail (by simpa [World.pop] using h)
  · simpa [World.pop, hq] using h

lemma Journal.get_of_odooIndeterminate {j : Journal} {entry : JournalEntry}
    (h : entry ∈ j.odooIndeterminate) : j.get entry.job.id = some entry := by
  simp only [Journal.odooIndeterminate, List.mem_map, Prod.exists, Table.mem_select] at h
  obtain ⟨id, e, ⟨he, -⟩, rfl⟩ := h
  obtain ⟨hpos, hid⟩ := j.odooIds id e he
  rw [hid, Journal.get_of_odoo j hpos.le, he]

lemma Journal.get_of_lanIndeterminate {j : Journal} {entry : JournalEntry}
    (h : entry ∈ j.lanIndeterminate) : j.get entry.job.id = some entry := by
  simp only [Journal.lanIndeterminate, List.mem_map, Prod.exists, Table.mem_select] at h
  obtain ⟨k, r, ⟨hr, -⟩, rfl⟩ := h
  have hid := j.lanIds k r hr
  have hpos := (j.lanJobs.bounded k r hr).1
  rw [hid, lanJobId, Journal.get_of_lan j (by omega), neg_neg, AutoTable.get?, hr]
  rfl

/-- Two descriptions of one job: the journal keeps its own times in a LAN job. -/
def DeviceJob.SameAs (a b : DeviceJob) : Prop :=
  a.id = b.id ∧ a.jobType = b.jobType ∧ a.kasaId = b.kasaId

/-- Where a piece of work comes from. -/
def Origin (w w' : World E) : Piece → Prop
  -- the job got its row in this step, and no other call took up a job
  | .enqueue call job => w.journal.get job.id = none ∧
      (∃ e, w'.journal.get job.id = some e ∧ e.job.SameAs job ∧ e.state = .received) ∧
      ∀ call' job', call' ≠ call → w'.Has (.enqueue call' job') → w.Has (.enqueue call' job')
  | .execute q id => ∃ call job, w.Has (.enqueue call job) ∧ job.id = id ∧
      E.queueOf job = some q ∧ ∀ job', ¬ w'.Has (.enqueue call job')
  | .reconcile q id => ∃ entry, w.Has (.unscheduled entry) ∧ entry.job.id = id ∧
      E.queueOf entry.job = some q
  | .starting q entry => w.Has (.execute q entry.job.id) ∧
      w.journal.get entry.job.id = some entry
  | .unscheduled entry => w.journal.get entry.job.id = some entry

/-- Every piece of work was there before the step or comes from where it should. -/
def WorkMove (w w' : World E) : Prop :=
  ∀ p, w'.Has p → w.Has p ∨ Origin w w' p

namespace WorkMove

variable {w w' : World E}

lemma of_work (h : w'.work = w.work) : WorkMove w w' := by
  intro p hp
  left
  cases p with
  | enqueue call job => cases call <;> simpa only [World.Has, h] using hp
  | execute | reconcile | starting | unscheduled => simpa only [World.Has, h] using hp

/-- The control loop does not go on to queue a job. -/
lemma of_control (hc : w'.work.1 = none) (h : w'.work.2 = w.work.2) : WorkMove w w' := by
  intro p hp
  left
  cases p with
  | enqueue call job =>
    cases call with
    | none => rw [World.Has, hc] at hp; cases hp
    | some i => simpa only [World.Has, h] using hp
  | execute | reconcile | starting | unscheduled => simpa only [World.Has, h] using hp

/-- A job of Odoo is journaled, and then it waits to be queued unless it was refused. -/
lemma of_acceptJob (w : World E) (job : OdooJob) (ok : Bool) :
    WorkMove w (w.acceptJob job ok) := by
  unfold World.acceptJob
  split
  · exact of_control rfl rfl
  · split
    · split
      · exact of_control rfl rfl
      · rename_i kind _ j hj
        have hnew : (w.journal.insert w.clock job none).1 = .new := by
          rw [← Journal.insertReceived, hj]
        have hadd := RowAdded.insert hnew
        rw [← Journal.insertReceived, hj] at hadd
        intro p hp
        cases p with
        | enqueue call job' =>
          cases call with
          | none =>
            cases hp
            refine Or.inr ⟨hadd.1, ⟨_, (hadd.2 _).trans (if_pos rfl), ⟨rfl, rfl, rfl⟩, rfl⟩, ?_⟩
            intro call' job' hne hjob'
            cases call' with
            | none => exact absurd rfl hne
            | some i => exact hjob'
          | some i => exact Or.inl hp
        | execute | reconcile | starting | unscheduled => exact Or.inl hp
    · split <;> exact of_control rfl rfl

lemma of_controlStep {e : ControlEvent} (h : w.controlStep timing e = some w') :
    WorkMove w w' := by
  have hpc : ∀ pc : ControlPc, pc.enqueued = none → WorkMove w (w.withControl pc) :=
    fun _ h => of_control h rfl
  unfold World.controlStep at h
  split at h
  · split at h <;> (cases h; exact hpc _ rfl)
  · cases h
    exact hpc _ rfl
  · cases h
    unfold World.pendingArrived
    split <;> exact hpc _ rfl
  · cases h
    exact hpc _ rfl
  · cases h
    exact of_control rfl rfl
  · split at h
    · cases h
      exact hpc _ rfl
    · split at h
      · cases h
        exact of_control rfl rfl
      · cases h
        exact hpc _ rfl
  · cases h
    exact of_control rfl rfl
  · cases h
    rename_i rest retryLater reply ok hwait
    rcases w.notReceivedArrived_eq rest retryLater (reply.bind parseAckReply) with
      heq | ⟨r, heq⟩ <;> rw [heq] <;> exact hpc _ rfl
  · rename_i p rest retryLater answer error hwait
    simp only [Option.some.injEq] at h
    subst h
    let late := if answer.isNone then p.id :: w.odoo.late else w.odoo.late
    let v : World E := { w with odoo := { w.odoo with late } }
    rcases v.notReceivedArrived_eq rest retryLater (.error error) with heq | ⟨r, heq⟩
    · exact of_control (by rw [heq]; rfl) (by rw [heq]; rfl)
    · exact of_control (by rw [heq]; rfl) (by rw [heq]; rfl)
  · cases h
    unfold World.nextArrived
    split
    · exact of_control rfl rfl
    · exact hpc _ rfl
    · exact of_acceptJob w _ _
  · cases h
    exact of_control rfl rfl
  · split at h <;> (cases h; exact of_control rfl rfl)
  · rename_i job kind sent ok hpc
    split at h
    · -- the job is queued
      rename_i q hq
      cases h
      intro p hp
      cases p with
      | enqueue call job' =>
        cases call with
        | none => cases hp
        | some i => exact Or.inl hp
      | execute q' id =>
        obtain ⟨queuedAt, hmem⟩ := hp
        rcases World.mem_push.mp hmem with hmem | ⟨rfl, hitem⟩
        · exact Or.inl ⟨queuedAt, hmem⟩
        · cases hitem
          refine Or.inr ⟨none, job.job, ?_, rfl, hq, fun job' hjob' => nomatch hjob'⟩
          simp [World.Has, World.work, hpc, ControlPc.enqueued]
      | reconcile q' id =>
        rcases World.mem_push.mp hp with hmem | ⟨-, hitem⟩
        · exact Or.inl hmem
        · cases hitem
      | starting | unscheduled => exact Or.inl hp
    · split at h <;> (cases h; exact of_control rfl rfl)
  · cases h

lemma of_lanStep {i : ℕ} {e : LanEvent} (h : w.lanStep i e = some w') : WorkMove w w' := by
  -- the call does not go on to queue a job
  have hdrop : ∀ (v : World E) (pc : LanPc), pc.enqueued = none → v.work = w.work →
      WorkMove w (v.withLan i pc) := by
    intro v pc hpc hv p hp
    left
    cases p with
    | enqueue call job =>
      cases call with
      | none => rw [World.Has, ← hv]; exact hp
      | some k =>
        by_cases hk : k = i
        · subst hk
          simp [World.Has, World.work, World.withLan, hpc] at hp
        · rw [World.Has, ← hv]
          simpa [World.Has, World.work, World.withLan, hk] using hp
    | execute | reconcile | starting | unscheduled => rw [World.Has, ← hv]; exact hp
  have hanswer : ∀ request answer, WorkMove w (w.answerLan i request answer) := by
    intro request answer
    have hwork : (w.answerLan i request answer).work = (w.withLan i .idle).work := rfl
    intro p hp
    refine (hdrop w .idle rfl rfl p ?_).imp_right fun horigin => ?_
    · cases p with
      | enqueue call job => cases call <;> simpa only [World.Has, hwork] using hp
      | execute | reconcile | starting | unscheduled => simpa only [World.Has, hwork] using hp
    · exact horigin
  have hreplayed : ∀ request stored, WorkMove w (w.replayed i request stored) := by
    intro request stored
    rcases w.replayed_eq i request stored with heq | heq
    · rw [heq]
      exact hdrop w _ rfl rfl
    · rw [heq]
      exact hanswer _ _
  cases lanMove_of_step h with
  | known request stored hpc hrow => exact hreplayed request stored
  | raced request stored j hpc hj => exact hreplayed request stored
  | admitted request hpc hrow hwhy => exact hdrop w _ rfl rfl
  | waiting request jobId replay late job hpc hrow hnow => exact of_work rfl
  | inserted request jobId j hpc hj =>
    rcases Journal.get_insertLanReceived hj with
      ⟨id, hid, hneg, -, hnone, hget⟩ | ⟨⟨k, hk⟩, -⟩
    · cases hid
      have hrow : (w.journal.lanRow w.clock request.toJob
          (w.journal.lanJobs.seq + 1)).entry.job.id = jobId := hneg.symm
      intro p hp
      cases p with
      | enqueue call job' =>
        cases call with
        | none => exact Or.inl hp
        | some k =>
          by_cases hk : k = i
          · subst hk
            simp only [World.Has, World.work, World.withLan, Function.update_self,
              LanPc.enqueued, Option.some.injEq] at hp
            subst hp
            refine Or.inr ⟨hnone,
              ⟨_, (hget _).trans (if_pos rfl), ⟨hrow, rfl, rfl⟩, rfl⟩, ?_⟩
            intro call' job' hne hjob'
            cases call' with
            | none => exact hjob'
            | some m =>
              have hm : m ≠ k := fun h => hne (by rw [h])
              simpa [World.Has, World.work, World.withLan, World.withJournal,
                World.noteJournaled, hm] using hjob'
          · left
            simpa [World.Has, World.work, World.withLan, World.withJournal,
              World.noteJournaled, hk] using hp
      | execute | reconcile | starting | unscheduled => exact Or.inl hp
    · cases hk
  | queued request job q ok hpc hq =>
    intro p hp
    cases p with
    | enqueue call job' =>
      left
      cases call with
      | none => exact hp
      | some k =>
        by_cases hk : k = i
        · subst hk
          simp [World.Has, World.work, World.withLan, LanPc.enqueued] at hp
        · simpa [World.Has, World.work, World.withLan, World.noteQueued, World.push, hk] using hp
    | execute q' id =>
      obtain ⟨queuedAt, hmem⟩ := hp
      rcases World.mem_push.mp hmem with hmem | ⟨rfl, hitem⟩
      · exact Or.inl ⟨queuedAt, hmem⟩
      · cases hitem
        refine Or.inr ⟨some i, job, ?_, rfl, hq, fun job' hjob' => ?_⟩
        · simp [World.Has, World.work, hpc, LanPc.enqueued]
        · simp [World.Has, World.work, World.withLan, LanPc.enqueued] at hjob'
    | reconcile q' id =>
      rcases World.mem_push.mp hp with hmem | ⟨-, hitem⟩
      · exact Or.inl hmem
      · cases hitem
    | starting | unscheduled => exact Or.inl hp
  | noWorker request job sent ok hpc => exact hdrop (w.write ok _) _ rfl rfl
  | _ => exact hanswer _ _

/-- A worker that is not about to start a job; what is in the queues was there. -/
lemma of_worker {q : DeviceQueue} {pc : WorkerPc} (hpc : pc.started = none)
    (hcontrol : w'.proc.control = w.proc.control) (hlan : w'.proc.lan = w.proc.lan)
    (hqueues : ∀ q' item, item ∈ w'.proc.queues q' → item ∈ w.proc.queues q')
    (hworkers : w'.proc.workers = Function.update w.proc.workers q pc)
    (hrows : w'.proc.reconciler = w.proc.reconciler) : WorkMove w w' := by
  intro p hp
  left
  cases p with
  | enqueue call job =>
    cases call with
    | none => simpa only [World.Has, World.work, hcontrol] using hp
    | some i => simpa only [World.Has, World.work, hlan] using hp
  | execute q' id =>
    obtain ⟨queuedAt, hmem⟩ := hp
    exact ⟨queuedAt, hqueues q' _ hmem⟩
  | reconcile q' id => exact hqueues q' _ hp
  | starting q' entry =>
    by_cases hq : q' = q
    · subst hq
      simp [World.Has, World.work, hworkers, hpc] at hp
    · simpa [World.Has, World.work, hworkers, hq] using hp
  | unscheduled entry => simpa only [World.Has, World.work, hrows] using hp

lemma of_workerStep {q : DeviceQueue} {e : WorkerEvent}
    (h : w.workerStep timing q e = some w') : WorkMove w w' := by
  have hpop : ∀ q' item, item ∈ (w.pop q).proc.queues q' → item ∈ w.proc.queues q' :=
    fun _ _ => World.mem_of_mem_pop
  have hid : ∀ q' item, item ∈ w.proc.queues q' → item ∈ w.proc.queues q' := fun _ _ h => h
  unfold World.workerStep at h
  split at h
  · rename_i ok hpc
    have hsame : w.proc.workers = Function.update w.proc.workers q .idle := by
      rw [← hpc, Function.update_eq_self]
    split at h
    · cases h
    · rename_i jobId queuedAt rest hqueue
      split at h
      · rename_i entry hentry
        split at h
        · -- the row of the first item was read
          cases h
          intro p hp
          cases p with
          | enqueue call job => cases call <;> exact Or.inl hp
          | execute q' id =>
            obtain ⟨queuedAt', hmem⟩ := hp
            exact Or.inl ⟨queuedAt', hpop q' _ hmem⟩
          | reconcile q' id => exact Or.inl (hpop q' _ hp)
          | starting q' entry' =>
            by_cases hq : q' = q
            · subst hq
              simp only [World.Has, World.work, World.withWorker, Function.update_self,
                WorkerPc.started, Option.some.injEq] at hp
              subst hp
              have hjob := Journal.id_of_get hentry
              refine Or.inr ⟨⟨queuedAt, ?_⟩, by rw [hjob]; exact hentry⟩
              change _ ∈ w.proc.queues q'
              rw [hqueue, hjob]
              exact List.mem_cons_self
            · left
              simpa [World.Has, World.work, World.withWorker, World.pop, hq] using hp
          | unscheduled entry => exact Or.inl hp
        · cases h
          exact of_worker rfl rfl rfl hpop hsame rfl
      · cases h
        exact of_worker rfl rfl rfl hpop hsame rfl
    · split at h
      · split at h
        · cases h
          exact of_worker rfl rfl rfl hpop rfl rfl
        · cases h
          exact of_worker rfl rfl rfl hpop hsame rfl
      · cases h
        exact of_worker rfl rfl rfl hpop hsame rfl
  · simp only at h
    split at h
    · cases h
      exact of_worker rfl rfl rfl hid rfl rfl
    · split at h
      · cases h
        exact of_worker rfl rfl rfl hid rfl rfl
      · split at h
        · cases h
          exact of_worker rfl rfl rfl hid rfl rfl
        · cases h
          exact of_worker rfl rfl rfl hid rfl rfl
  · split at h
    · split at h
      · cases h
        exact of_worker rfl rfl rfl hid rfl rfl
      · cases h
        exact of_worker rfl rfl rfl hid rfl rfl
    · cases h
  · split at h
    · cases h
      exact of_worker rfl rfl rfl hid rfl rfl
    · cases h
  · split at h
    · cases h
      exact of_worker rfl rfl rfl hid rfl rfl
    · cases h
  · cases h

lemma of_reconcilerStep {e : ReconcilerEvent} (h : w.reconcilerStep e = some w') :
    WorkMove w w' := by
  -- the reconciler goes on with rows it had, or with rows of the journal
  have hrows : ∀ (v : World E) (pc : ReconcilerPc), v.work = w.work →
      (∀ entry ∈ pc.rows, entry ∈ w.proc.reconciler.rows ∨
        w.journal.get entry.job.id = some entry) → WorkMove w (v.withReconciler pc) := by
    intro v pc hv hpc p hp
    cases p with
    | enqueue call job =>
      cases call <;> exact Or.inl (by rw [World.Has, ← hv]; exact hp)
    | execute | reconcile | starting => exact Or.inl (by rw [World.Has, ← hv]; exact hp)
    | unscheduled entry => exact hpc entry hp
  unfold World.reconcilerStep at h
  split at h
  · cases h
    exact hrows w _ rfl fun entry hentry =>
      Or.inr (Journal.get_of_odooIndeterminate hentry)
  · rename_i rows hpc
    cases h
    refine hrows w _ rfl fun entry hentry => ?_
    rcases List.mem_append.mp hentry with hmem | hmem
    · exact Or.inl (by rw [hpc]; exact hmem)
    · exact Or.inr (Journal.get_of_lanIndeterminate hmem)
  · cases h
    exact hrows w _ rfl fun entry hentry => nomatch hentry
  · rename_i entry rest sent ok hpc
    have hrest : ∀ e ∈ rest, e ∈ w.proc.reconciler.rows ∨
        w.journal.get e.job.id = some e := fun e he =>
      Or.inl (by rw [hpc]; exact List.mem_cons_of_mem _ he)
    simp only at h
    split at h
    · rename_i q hq
      split at h
      · cases h
        exact hrows w _ rfl hrest
      · split at h
        · -- the row is scheduled
          cases h
          intro p hp
          cases p with
          | enqueue call job => cases call <;> exact Or.inl hp
          | execute q' id =>
            obtain ⟨queuedAt, hmem⟩ := hp
            rcases World.mem_push.mp hmem with hmem | ⟨-, hitem⟩
            · exact Or.inl ⟨queuedAt, hmem⟩
            · cases hitem
          | reconcile q' id =>
            rcases World.mem_push.mp hp with hmem | ⟨rfl, hitem⟩
            · exact Or.inl hmem
            · cases hitem
              refine Or.inr ⟨entry, ?_, rfl, hq⟩
              simp [World.Has, World.work, hpc, ReconcilerPc.rows]
          | starting q' entry => exact Or.inl hp
          | unscheduled e =>
            left
            simp only [World.Has, World.work, hpc]
            exact List.mem_cons_of_mem _ hp
        · cases h
          exact hrows w _ rfl hrest
    · split at h
      · split at h
        · cases h
          exact hrows (w.withJournal _) _ rfl hrest
        · cases h
          exact hrows w _ rfl fun entry hentry => nomatch hentry
      · cases h
        exact hrows w _ rfl hrest
  · cases h
    exact hrows w _ rfl fun entry hentry => nomatch hentry
  · cases h

lemma of_step {e : Event E} (h : w.step timing e = some w') : WorkMove w w' := by
  cases e with
  | clock t =>
    cases h
    exact of_work rfl
  | elapse n =>
    cases h
    exact of_work rfl
  | dev e =>
    simp only [World.step, Option.map_eq_some_iff] at h
    obtain ⟨d, -, rfl⟩ := h
    exact of_work rfl
  | crash | start n =>
    -- nothing of a process that ended is left
    simp only [World.step] at h
    split at h <;> cases h
    all_goals
      intro p hp
      cases p with
      | enqueue call job => cases call <;> cases hp
      | execute q id =>
        obtain ⟨queuedAt, hmem⟩ := hp
        cases hmem
      | reconcile | starting | unscheduled => cases hp
  | odoo e =>
    simp only [World.step] at h
    unfold World.odooStep at h
    split at h
    · cases h
      exact of_control rfl rfl
    · cases h
      exact of_control rfl rfl
    · simp only at h
      split at h <;> (cases h; exact of_control rfl rfl)
    · split at h
      · cases h
        exact of_work rfl
      · cases h
    · cases h
  | control e =>
    simp only [World.step] at h
    split at h
    · exact of_controlStep h
    · cases h
  | lan i e =>
    simp only [World.step] at h
    split at h
    · exact of_lanStep h
    · cases h
  | worker q e =>
    simp only [World.step] at h
    split at h
    · exact of_workerStep h
    · cases h
  | reconciler e =>
    simp only [World.step] at h
    split at h
    · exact of_reconcilerStep h
    · cases h
  | acker e =>
    simp only [World.step] at h
    split at h
    · unfold World.ackerStep at h
      split at h
      · cases h; exact of_work rfl
      · cases h; exact of_work rfl
      · cases h; exact of_work rfl
      · cases h; exact of_work rfl
      · simp only at h
        split at h
        · cases h; exact of_work rfl
        · split at h
          · cases h; exact of_work rfl
          · split at h <;> (cases h; exact of_work rfl)
      · split at h <;> (cases h; exact of_work rfl)
      · cases h; exact of_work rfl
      · cases h; exact of_work rfl
      · cases h
    · cases h
  | reporter e =>
    simp only [World.step] at h
    split at h
    · unfold World.reporterStep at h
      split at h
      · cases h; exact of_work rfl
      · cases h; exact of_work rfl
      · split at h <;> (cases h; exact of_work rfl)
      · cases h; exact of_work rfl
      · split at h
        · cases h; exact of_work rfl
        · split at h <;> (cases h; exact of_work rfl)
      · split at h <;> (cases h; exact of_work rfl)
      · cases h
    · cases h
  | task i e =>
    simp only [World.step] at h
    split at h
    · unfold World.taskStep at h
      split at h
      · simp only [Option.map_eq_some_iff] at h
        obtain ⟨r, -, rfl⟩ := h
        exact of_work rfl
      · cases h
    · cases h

end WorkMove

end DevBridge

import DevBridge.Source.Jobs

/-!
# Who changes the state of a job

A job's state changes in few places: when it starts or is refused unstarted, when its call
of the executor is over or guarded, and at a restart.  Each of them belongs to a piece of
work or a call of that very job.  The invariant of this file says what row stands behind each
piece of work and each call, and that the calls of one queue are serial.
-/

namespace DevBridge

variable {E : Executor} {timing : Timing}

/-- The outcome of a reconcile, unless it is still unknown. -/
def Reconciliation.outcome : Reconciliation → Option Outcome
  | done result => some (.done result)
  | failed code text => some (.failed code text)
  | stillUnknown _ => none

/-- The state that an outcome leads to. -/
def Outcome.state : Outcome → JobState
  | done _ => .done
  | failed _ _ => .failed
  | indeterminate _ => .indeterminate

/-- Why a step changes the state of a job. -/
inductive StateCause (w w' : World E) (id : ℤ) (e e' : JournalEntry) : Prop
  | executing (q : DeviceQueue) (entry : JournalEntry) (h : w.Has (.starting q entry))
      (hid : entry.job.id = id) (hs : e.state = .received) (hs' : e'.state = .executing)
  | expired (q : DeviceQueue) (entry : JournalEntry) (h : w.Has (.starting q entry))
      (hid : entry.job.id = id) (hs : e.state = .received) (hs' : e'.state = .failed)
  | noWorker (call : Option ℕ) (job : DeviceJob) (h : w.Has (.enqueue call job))
      (hid : job.id = id) (hgone : ∀ job', ¬ w'.Has (.enqueue call job'))
  | guarded (q : DeviceQueue) (task : ℕ) (job : DeviceJob)
      (hcall : w.call q = some (task, .inl job)) (hid : job.id = id)
      (hguard : E.mayOutlastGuard job = true) (hs' : e'.state = .indeterminate)
  | joined (q : DeviceQueue) (task : ℕ) (job : DeviceJob) (t : E.Task) (outcome : Outcome)
      (hcall : w.call q = some (task, .inl job)) (hid : job.id = id)
      (htask : w.proc.tasks task = some t) (hout : E.outcome t = some outcome)
      (hgone : w'.call q = none)
      (he' : e' = (RowOp.recordOutcome (outcome.reread w.journal.readFloat)).apply
        (Journal.tableOf id) w.clock e)
  | answered (q : DeviceQueue) (task : ℕ) (entry : JournalEntry) (t : E.Task)
      (answer : Reconciliation) (outcome : Outcome)
      (hcall : w.call q = some (task, .inr entry)) (hid : entry.job.id = id)
      (htask : w.proc.tasks task = some t) (hout : E.answer t = some answer)
      (hanswer : answer.outcome = some outcome) (hgone : w'.call q = none)
      (he' : e' = (RowOp.recordOutcome (outcome.reread w.journal.readFloat)).apply
        (Journal.tableOf id) w.clock e)
  | restarted (n : ℕ) (h : w' = w.start n) (hs' : e'.state = .indeterminate)

/-- The state of a row changes only by an outcome, or when the job was `received`. -/
lemma RowOp.state_apply (op : RowOp) (t : JobTable) (now : Time) (e : JournalEntry) :
    (op.apply t now e).state = e.state ∨ (∃ o, op = .recordOutcome o) ∨
      e.state = .received ∧ ((op = .startExecution ∧ (op.apply t now e).state = .executing) ∨
        (∃ code text, op = .failUnstarted code text) ∧ (op.apply t now e).state = .failed) := by
  unfold RowOp.apply
  split
  · rename_i hg
    cases op with
    | recordOutcome o => exact Or.inr (Or.inl ⟨o, rfl⟩)
    | startExecution =>
      exact Or.inr (Or.inr ⟨by simpa [RowOp.guard] using hg, Or.inl ⟨rfl, rfl⟩⟩)
    | failUnstarted code text =>
      exact Or.inr (Or.inr ⟨by simpa [RowOp.guard] using hg, Or.inr ⟨⟨code, text, rfl⟩, rfl⟩⟩)
    | recordStillUnknown reason => left; cases t <;> rfl
    | markDeviceContact | markAcked _ | markReported | reopenAck | cardContact
    | markLanReported _ => exact Or.inl rfl
  · exact Or.inl rfl

/-- A row that an outcome brings to a state is in the outcome's own. -/
lemma RowOp.state_recordOutcome {o : Outcome} {read : Number → Number} {t : JobTable}
    {now : Time} {e : JournalEntry}
    (hne : ((RowOp.recordOutcome (o.reread read)).apply t now e).state ≠ e.state) :
    ((RowOp.recordOutcome (o.reread read)).apply t now e).state = o.state := by
  unfold RowOp.apply at hne ⊢
  split
  · cases o <;> cases t <;> rfl
  · rename_i hg
    simp [hg] at hne

namespace Journal

variable {j : Journal} {now : Time} {jobId id : ℤ} {op : RowOp} {e e' : JournalEntry}

/-- What a statement makes of a row, when it changes the row's state. -/
lemma apply_of_updateRow (he : j.get id = some e)
    (he' : (j.updateRow now jobId op).2.get id = some e') (hne : e'.state ≠ e.state) :
    id = jobId ∧ e' = op.apply (tableOf id) now e := by
  rw [get_updateRow, he] at he'
  simp only [Option.map_some, Option.some.injEq] at he'
  by_cases hid : id = jobId
  · subst hid
    rw [if_pos rfl] at he'
    exact ⟨rfl, he'.symm⟩
  · rw [if_neg hid] at he'
    exact absurd (by rw [he']) hne

end Journal

/-- Every change of a job's state has one of the causes. -/
lemma Shape.state {w w' : World E} {event : Event E}
    (h : Shape timing w event w') {id : ℤ} {e e' : JournalEntry}
    (he : w.journal.get id = some e) (he' : w'.journal.get id = some e')
    (hne : e'.state ≠ e.state) : StateCause w w' id e e' := by
  have hsame : w'.journal = w.journal → StateCause w w' id e e' := fun hj => by
    rw [hj, he] at he'
    cases he'
    exact absurd rfl hne
  have hfunction : ∀ (f : JournalEntry → JournalEntry), (∀ e, (f e).state = e.state) →
      w'.journal.get id = (w.journal.get id).map f → StateCause w w' id e e' := by
    intro f hf hget
    rw [hget, he] at he'
    cases he'
    exact absurd (hf e) hne
  cases h with
  | quiet f hj => exact hsame hj
  | clock t h | dev _ _ _ _ h | crash h | reconcile _ _ _ _ _ _ _ _ h
  | detached _ _ _ _ _ _ h => subst h; exact hsame rfl
  | inserted job refused f hnew hj hcheck hnext =>
    have hadd := RowAdded.insert hnew
    rw [← hj] at hadd
    rw [hadd.2] at he'
    split at he'
    · rename_i hid
      rw [hid, hadd.1] at he
      cases he
    · rw [he] at he'
      cases he'
      exact absurd rfl hne
  | lanInserted job jobId f hj =>
    rcases Journal.get_insertLanReceived hj with ⟨k, -, -, -, hnone, hget⟩ | ⟨⟨k, hk⟩, -⟩
    · rw [hget] at he'
      split at he'
      · rename_i hid
        rw [hid, hnone] at he
        cases he
      · rw [he] at he'
        cases he'
        exact absurd rfl hne
    · cases hk
  | expired f jobId text hpc hj =>
    rw [hj] at he'
    obtain ⟨rfl, happ⟩ := Journal.apply_of_updateRow he he' hne
    obtain ⟨q, entry, hpiece, hid⟩ := hpc
    rcases RowOp.state_apply (.failUnstarted CODE_EXPIRED_LOCAL text) (Journal.tableOf id)
      w.clock e with hs | ⟨_, ho⟩ | ⟨hs, ⟨ho, -⟩ | ⟨-, hs'⟩⟩
    · exact absurd (happ ▸ hs) hne
    · cases ho
    · cases ho
    · exact .expired q entry hpiece hid hs (happ ▸ hs')
  | noWorker f jobId code text henq hj =>
    rw [hj] at he'
    obtain ⟨rfl, -⟩ := Journal.apply_of_updateRow he he' hne
    obtain ⟨call, job, hpiece, hid, hgone⟩ := henq
    exact .noWorker call job hpiece hid hgone
  | guarded f q task job hcall hguard reason hj =>
    rw [hj] at he'
    obtain ⟨rfl, happ⟩ := Journal.apply_of_updateRow he he' hne
    refine .guarded q task job hcall rfl hguard ?_
    rw [happ] at hne ⊢
    unfold RowOp.apply at hne ⊢
    split
    · rfl
    · rename_i hg
      simp [hg] at hne
  | noted f jobId reason hj =>
    rw [hj] at he'
    obtain ⟨rfl, happ⟩ := Journal.apply_of_updateRow he he' hne
    rcases RowOp.state_apply (.recordStillUnknown reason) (Journal.tableOf id) w.clock e with
      hs | ⟨_, ho⟩ | ⟨-, ⟨ho, -⟩ | ⟨⟨_, _, ho⟩, -⟩⟩
    · exact absurd (happ ▸ hs) hne
    all_goals cases ho
  | acked f jobId op hop hj =>
    refine hfunction (fun e => if id = jobId ∧ 0 < id then op.apply .odoo w.clock e else e)
      (fun e => ?_) (by rw [hj, Journal.get_updateOdoo])
    split
    · rcases RowOp.state_apply op .odoo w.clock e with hs | ⟨o, ho⟩ | ⟨-, hbad⟩
      · exact hs
      · subst ho
        rcases hop with h | h | ⟨_, _, _, h, -⟩ <;> cases h
      · rcases hop with rfl | rfl | ⟨_, _, _, rfl, -⟩ <;>
          rcases hbad with ⟨h, -⟩ | ⟨⟨_, _, h⟩, -⟩ <;> cases h
    · rfl
  | authAcked f jobId note hj =>
    have hget : w'.journal.get id = w.journal.get id := by rw [hj]; rfl
    rw [hget, he] at he'
    cases he'
    exact absurd rfl hne
  | reported f jobId odooJobId note hj =>
    refine hfunction (fun e => if id = jobId ∧ id < 0 then
      (RowOp.markLanReported note).apply .lan w.clock e else e) (fun e => ?_)
      (by rw [hj, Journal.get_markLanReported])
    split
    · rcases RowOp.state_apply (.markLanReported note) .lan w.clock e with
        hs | ⟨_, ho⟩ | ⟨-, ⟨ho, -⟩ | ⟨⟨_, _, ho⟩, -⟩⟩
      · exact hs
      all_goals cases ho
    · rfl
  | execute q entry queuedAt hpc hrow h =>
    subst h
    obtain ⟨rfl, happ⟩ := Journal.apply_of_updateRow he he' hne
    rcases RowOp.state_apply .startExecution (Journal.tableOf entry.job.id) w.clock e with
      hs | ⟨_, ho⟩ | ⟨hs, ⟨-, hs'⟩ | ⟨⟨_, _, ho⟩, -⟩⟩
    · exact absurd (happ ▸ hs) hne
    · cases ho
    · refine .executing q entry ?_ rfl hs (happ ▸ hs')
      simp [World.Has, World.work, hpc, WorkerPc.started]
    · cases ho
  | joined q job task startedAt guarded t outcome ok hpc htask hout h =>
    subst h
    cases ok with
    | false => exact hsame rfl
    | true =>
      obtain ⟨rfl, happ⟩ := Journal.apply_of_updateRow he he' hne
      refine .joined q task job t outcome ?_ rfl htask hout ?_ happ
      · simp [World.call, hpc, WorkerPc.call]
      · simp [World.call, World.withWorker, WorkerPc.call]
  | answered q entry task t answer ok hpc htask hout h =>
    subst h
    have hcall : w.call q = some (task, .inr entry) := by simp [World.call, hpc, WorkerPc.call]
    have hgone : ((((w.joined task).write ok (w.recordAnswer entry.job.id answer)).withWorker q
        .idle).reconcileDone entry.job.id).call q = none := by
      simp [World.call, World.withWorker, World.reconcileDone, WorkerPc.call]
    cases ok with
    | false => exact hsame rfl
    | true =>
      cases answer with
      | done result =>
        obtain ⟨rfl, happ⟩ := Journal.apply_of_updateRow he he' hne
        exact .answered q task entry t _ _ hcall rfl htask hout rfl hgone happ
      | failed code text =>
        obtain ⟨rfl, happ⟩ := Journal.apply_of_updateRow he he' hne
        exact .answered q task entry t _ _ hcall rfl htask hout rfl hgone happ
      | stillUnknown reason =>
        obtain ⟨rfl, happ⟩ := Journal.apply_of_updateRow he he' hne
        rcases RowOp.state_apply (.recordStillUnknown reason) (Journal.tableOf entry.job.id)
          w.clock e with hs | ⟨_, ho⟩ | ⟨-, ⟨ho, -⟩ | ⟨⟨_, _, ho⟩, -⟩⟩
        · exact absurd (happ ▸ hs) hne
        all_goals cases ho
  | task i ev t t' s hev htask hstep h =>
    subst h
    exact absurd ((E.step_marks hstep).same he he').2.1 hne
  | start n hup h =>
    subst h
    refine .restarted n rfl ?_
    rcases Journal.prune_pruned (w.journal.recoverAfterRestart w.clock) w.clock n id with
      hk | ⟨hk, -⟩
    · have hrec : (w.journal.recoverAfterRestart w.clock).get id = some e' := hk ▸ he'
      rw [Journal.get_recoverAfterRestart, he] at hrec
      cases hrec
      unfold recoverRow at hne ⊢
      split
      · rfl
      · rename_i hs
        simp [hs] at hne
    · exact absurd (hk.symm.trans he') (by simp)

/-- Only the outcome `done` makes a row `done`. -/
lemma RowOp.done_of_apply {op : RowOp} {t : JobTable} {now : Time} {e : JournalEntry}
    (hdone : (op.apply t now e).state = .done) (hne : e.state ≠ .done) :
    ∃ result, op = .recordOutcome (.done result) ∧ (op.apply t now e).result = some result := by
  rcases op.state_apply t now e with hs | ⟨o, rfl⟩ | ⟨-, ⟨-, hs⟩ | ⟨-, hs⟩⟩
  · exact absurd (hs ▸ hdone) hne
  · unfold RowOp.apply at hdone ⊢
    split at hdone
    · rename_i hg
      rw [if_pos hg]
      cases o with
      | done result => exact ⟨result, rfl, rfl⟩
      | failed _ _ | indeterminate _ => cases t <;> cases hdone
    · exact absurd hdone hne
  · rw [hs] at hdone
    cases hdone
  · rw [hs] at hdone
    cases hdone

/-- The call whose outcome made a row `done`: the row has the result as its text reads back. -/
inductive DoneCause (w : World E) (id : ℤ) (e' : JournalEntry) : Prop
  | joined (q : DeviceQueue) (task : ℕ) (job : DeviceJob) (t : E.Task) (result : Json)
      (hcall : w.call q = some (task, .inl job)) (hid : job.id = id)
      (htask : w.proc.tasks task = some t) (hout : E.outcome t = some (.done result))
      (hresult : e'.result = some (result.reread w.journal.readFloat))
  | answered (q : DeviceQueue) (task : ℕ) (entry : JournalEntry) (t : E.Task) (result : Json)
      (hcall : w.call q = some (task, .inr entry)) (hid : entry.job.id = id)
      (htask : w.proc.tasks task = some t) (hout : E.answer t = some (.done result))
      (hresult : e'.result = some (result.reread w.journal.readFloat))

/-- A job becomes `done` only by the outcome of a call of its own. -/
lemma Shape.done_cause {w w' : World E} {event : Event E} (h : Shape timing w event w') {id : ℤ}
    {e e' : JournalEntry} (he : w.journal.get id = some e) (he' : w'.journal.get id = some e')
    (hne : e.state ≠ .done) (hdone : e'.state = .done) : DoneCause w id e' := by
  have hchanged : e'.state ≠ e.state := fun heq => hne (heq ▸ hdone)
  have hsame : w'.journal.get id = w.journal.get id → DoneCause w id e' := fun hget => by
    rw [hget, he] at he'
    exact absurd (Option.some.inj he') fun heq => hchanged (by rw [heq])
  -- no statement but an outcome makes the row `done`
  have hop : ∀ {jobId op}, (∀ result, op ≠ RowOp.recordOutcome (.done result)) →
      w'.journal = (w.journal.updateRow w.clock jobId op).2 → DoneCause w id e' := by
    intro jobId op hnot hj
    rw [hj] at he'
    obtain ⟨rfl, happ⟩ := Journal.apply_of_updateRow he he' hchanged
    obtain ⟨result, hrec, -⟩ := RowOp.done_of_apply (happ ▸ hdone) hne
    exact absurd hrec (hnot result)
  have hmap : ∀ (op : RowOp) (t : JobTable) {c : Prop} [Decidable c],
      (∀ result, op ≠ RowOp.recordOutcome (.done result)) →
      w'.journal.get id = (w.journal.get id).map (fun e =>
        if c then op.apply t w.clock e else e) → DoneCause w id e' := by
    intro op t c _ hnot hget
    rw [hget, he] at he'
    have happ := Option.some.inj he'
    split at happ
    · obtain ⟨result, hrec, -⟩ := RowOp.done_of_apply (happ ▸ hdone) hne
      exact absurd hrec (hnot result)
    · exact absurd (congrArg JournalEntry.state happ).symm hchanged
  cases h with
  | quiet f hj => exact hsame (by rw [hj])
  | clock t h | dev _ _ _ _ h | crash h | reconcile _ _ _ _ _ _ _ _ h
  | detached _ _ _ _ _ _ h => subst h; exact hsame rfl
  | inserted job refused f hnew hj =>
    have hadd := RowAdded.insert hnew
    rw [← hj] at hadd
    refine hsame ((hadd.2 id).trans (if_neg ?_))
    rintro rfl
    rw [hadd.1] at he
    cases he
  | lanInserted job jobId f hj =>
    rcases Journal.get_insertLanReceived hj with ⟨k, -, -, -, hnone, hget⟩ | ⟨⟨k, ⟨⟩⟩, -⟩
    refine hsame ((hget id).trans (if_neg ?_))
    rintro rfl
    rw [hnone] at he
    cases he
  | expired f jobId text hpc hj => exact hop (by rintro _ ⟨⟩) hj
  | noWorker f jobId code text henq hj => exact hop (by rintro _ ⟨⟩) hj
  | guarded f q task job hcall hguard reason hj => exact hop (by rintro _ ⟨⟩) hj
  | noted f jobId reason hj => exact hop (by rintro _ ⟨⟩) hj
  | execute q entry queuedAt hpc hrow h =>
    have hj : w'.journal = (w.journal.updateRow w.clock entry.job.id .startExecution).2 := by
      subst h
      rfl
    exact hop (by rintro _ ⟨⟩) hj
  | acked f jobId op hopKind hj =>
    refine hmap op .odoo ?_ (by rw [hj, Journal.get_updateOdoo])
    rintro result rfl
    rcases hopKind with h | h | ⟨_, _, _, h, -⟩ <;> cases h
  | authAcked f jobId note hj => exact hsame (by rw [hj]; rfl)
  | reported f jobId odooJobId note hj =>
    exact hmap (.markLanReported note) .lan (by rintro _ ⟨⟩)
      (by rw [hj, Journal.get_markLanReported])
  | joined q job task startedAt guarded t outcome ok hpc htask hout h =>
    subst h
    cases ok with
    | false => exact hsame rfl
    | true =>
      obtain ⟨rfl, happ⟩ := Journal.apply_of_updateRow he he' hchanged
      obtain ⟨result, hrec, hresult⟩ := RowOp.done_of_apply (happ ▸ hdone) hne
      cases outcome with
      | done result₀ =>
        obtain rfl := Outcome.done.inj (RowOp.recordOutcome.inj hrec)
        refine .joined q task job t result₀ ?_ rfl htask hout (happ ▸ hresult)
        simp [World.call, hpc, WorkerPc.call]
      | failed _ _ | indeterminate _ => cases hrec
  | answered q entry task t answer ok hpc htask hout h =>
    subst h
    have hcall : w.call q = some (task, .inr entry) := by simp [World.call, hpc, WorkerPc.call]
    cases ok with
    | false => exact hsame rfl
    | true =>
      cases answer with
      | done result =>
        obtain ⟨rfl, happ⟩ := Journal.apply_of_updateRow he he' hchanged
        obtain ⟨result', hrec, hresult⟩ := RowOp.done_of_apply (happ ▸ hdone) hne
        obtain rfl := Outcome.done.inj (RowOp.recordOutcome.inj hrec)
        exact .answered q task entry t result hcall rfl htask hout (happ ▸ hresult)
      | failed code text => exact hop (by rintro _ ⟨⟩) rfl
      | stillUnknown reason => exact hop (by rintro _ ⟨⟩) rfl
  | task i ev t t' s hev htask hstep h =>
    subst h
    exact absurd ((E.step_marks hstep).same he he').2.1 hchanged
  | start n hup h =>
    subst h
    rcases Journal.prune_pruned (w.journal.recoverAfterRestart w.clock) w.clock n id with
      hk | ⟨hk, -⟩
    · have hrec : (w.journal.recoverAfterRestart w.clock).get id = some e' := hk ▸ he'
      rw [Journal.get_recoverAfterRestart, he] at hrec
      cases hrec
      unfold recoverRow at hdone hchanged
      split at hdone
      · cases hdone
      · exact absurd hdone hne
    · exact absurd (hk.symm.trans he') (by simp)

/-- A job that gets its row in a step is not `done`. -/
lemma Shape.new_row {w w' : World E} {event : Event E}
    (h : Shape timing w event w') {id : ℤ} {e' : JournalEntry} (hnone : w.journal.get id = none)
    (he' : w'.journal.get id = some e') : e'.state ≠ .done := by
  have hjobs := h.jobs
  -- a row is added only when the job is noted as journaled
  have hkept : w'.log.journaled = w.log.journaled → False := by
    intro hlog
    have hlater : RowsLater w.journal w'.journal → False := fun hl => by
      rcases hl id with ⟨-, h'⟩ | ⟨e, -, h', -⟩
      · rw [h'] at he'
        cases he'
      · rw [hnone] at h'
        cases h'
    cases hjobs with
    | later hl | executed _ _ _ hl => exact hlater hl
    | added id₀ e₀ hadd hj => exact List.cons_ne_self _ _ (hj.symm.trans hlog)
    | restarted hrows =>
      obtain ⟨e, he, -⟩ := hrows id e' he'
      rw [hnone] at he
      cases he
  cases h with
  | inserted job refused f hnew hj =>
    have hadd := (RowAdded.insert hnew).2 id
    rw [← hj, he'] at hadd
    split at hadd
    · rw [Option.some.inj hadd]
      cases refused <;> simp [newEntry]
    · rw [hnone] at hadd
      cases hadd
  | lanInserted job jobId f hj =>
    rcases Journal.get_insertLanReceived hj with ⟨id₀, -, -, -, -, hget⟩ | ⟨⟨k, ⟨⟩⟩, -⟩
    have hadd := hget id
    rw [he'] at hadd
    split at hadd
    · rw [Option.some.inj hadd]
      simp [Journal.lanRow, newEntry]
    · rw [hnone] at hadd
      cases hadd
  | quiet f | expired f | noWorker f | guarded f | noted f | acked f | authAcked f
  | reported f => exact (hkept f.journaled).elim
  | clock t h | dev _ _ _ _ h | execute _ _ _ _ _ h | reconcile _ _ _ _ _ _ _ _ h
  | detached _ _ _ _ _ _ h | task _ _ _ _ _ _ _ _ h | crash h | start _ _ h =>
    subst h
    exact (hkept rfl).elim
  | joined _ _ _ _ _ _ _ ok _ _ _ h | answered _ _ _ _ _ ok _ _ _ h =>
    subst h
    exact (hkept (by cases ok <;> rfl)).elim

/-- While the process runs no row is dropped. -/
lemma Shape.row_kept {w w' : World E} {event : Event E}
    (h : Shape timing w event w') {id : ℤ} {e : JournalEntry}
    (he : w.journal.get id = some e) :
    (∃ e', w'.journal.get id = some e' ∧ RowLater e e') ∨ ∃ n, w' = w.start n := by
  have hlater : RowsLater w.journal w'.journal →
      ∃ e', w'.journal.get id = some e' ∧ RowLater e e' := fun hr => by
    rcases hr id with ⟨h1, -⟩ | ⟨e₁, e', h1, h2, hle⟩
    · rw [h1] at he
      cases he
    · rw [h1] at he
      cases he
      exact ⟨e', h2, hle⟩
  cases h.jobs with
  | later hr => exact Or.inl (hlater hr)
  | executed _ _ _ hr => exact Or.inl (hlater hr)
  | added id' e' hadd =>
    have hne : id ≠ id' := by
      rintro rfl
      rw [hadd.1] at he
      cases he
    exact Or.inl ⟨e, by rw [hadd.2, if_neg hne, he], RowLater.refl e⟩
  | restarted _ _ _ hstart => exact Or.inr hstart

/-- A call is an old one, or it was started in this step. -/
lemma Shape.calls {w w' : World E} {event : Event E}
    (h : Shape timing w event w') {q : DeviceQueue} {i : ℕ}
    {c : DeviceJob ⊕ JournalEntry} (hc : w'.call q = some (i, c)) :
    w.call q = some (i, c) ∨
      (∃ entry e e', c = .inl entry.job ∧ i = w.proc.nextTask ∧ w.Has (.starting q entry) ∧
        w.journal.get entry.job.id = some e ∧ e.state = .received ∧
        w'.journal.get entry.job.id = some e' ∧ e'.state = .executing) ∨
      ∃ entry, c = .inr entry ∧ i = w.proc.nextTask ∧ w.Has (.reconcile q entry.job.id) ∧
        w.journal.get entry.job.id = some entry ∧ entry.state = .indeterminate := by
  -- a worker that does not wait for a call any more
  have hidle : ∀ (v : World E) (q₀ : DeviceQueue), (∀ q, v.call q = w.call q) →
      (v.withWorker q₀ .idle).call q = some (i, c) → w.call q = some (i, c) := by
    intro v q₀ hv hcall
    by_cases hq : q = q₀
    · subst hq
      simp [World.call, World.withWorker, WorkerPc.call] at hcall
    · rw [← hv]
      simpa [World.call, World.withWorker, hq] using hcall
  cases h with
  | quiet f | expired f | noWorker f | guarded f | noted f | acked f | authAcked f
  | reported f => exact Or.inl (f.calls q ▸ hc)
  | inserted _ _ f => exact Or.inl ((f.calls q).symm.trans hc)
  | lanInserted _ _ f => exact Or.inl ((f.calls q).symm.trans hc)
  | clock _ h | dev _ _ _ _ h | task _ _ _ _ _ _ _ _ h =>
    subst h
    exact Or.inl hc
  | execute q₀ entry queuedAt hpc hrow h =>
    obtain ⟨e, he, hs, he'⟩ := Journal.startExecution_true hrow
    subst h
    by_cases hq : q = q₀
    · subst hq
      simp only [World.call, World.callExecute, World.withWorker, Function.update_self,
        WorkerPc.call, Option.some.injEq, Prod.mk.injEq] at hc
      obtain ⟨rfl, rfl⟩ := hc
      refine Or.inr (Or.inl ⟨entry, e, _, rfl, rfl, ?_, he, hs, he', rfl⟩)
      simp [World.Has, World.work, hpc, WorkerPc.started]
    · left
      simpa [World.call, World.callExecute, World.withWorker, World.spawn,
        World.withJournal, hq] using hc
  | reconcile q₀ jobId rest entry hpc hqueue hrow hstate h =>
    subst h
    by_cases hq : q = q₀
    · subst hq
      simp only [World.call, World.withWorker, Function.update_self, WorkerPc.call,
        Option.some.injEq, Prod.mk.injEq] at hc
      obtain ⟨rfl, rfl⟩ := hc
      have hid := Journal.id_of_get hrow
      refine Or.inr (Or.inr ⟨entry, rfl, rfl, ?_, hid ▸ hrow, hstate⟩)
      change _ ∈ w.proc.queues q
      rw [hqueue, hid]
      exact List.mem_cons_self
    · left
      simpa [World.call, World.withWorker, World.spawn, World.pop, hq] using hc
  | detached q₀ job task startedAt hpc hguard h =>
    subst h
    exact Or.inl (hidle w q₀ (fun _ => rfl) hc)
  | joined q₀ job task startedAt guarded t outcome ok hpc htask hout h =>
    subst h
    exact Or.inl (hidle _ q₀ (fun _ => rfl) hc)
  | answered q₀ entry task t answer ok hpc htask hout h =>
    subst h
    exact Or.inl (hidle _ q₀ (fun _ => rfl) hc)
  | crash h | start n hup h =>
    subst h
    simp [World.call, World.crash, World.start, Proc.down, Proc.init, WorkerPc.call] at hc

/-- What stands behind the pieces of work and the calls. -/
structure CallInv (w : World E) : Prop where
  enqueue : ∀ call job, w.Has (.enqueue call job) →
    ∃ e, w.journal.get job.id = some e ∧ e.job.SameAs job ∧ e.state = .received
  /-- A job that is about to be queued is nowhere else. -/
  unqueued : ∀ call job, w.Has (.enqueue call job) →
    (∀ q, ¬ w.Has (.execute q job.id)) ∧
    (∀ q entry, w.Has (.starting q entry) → entry.job.id ≠ job.id) ∧
    ∀ call' job', w.Has (.enqueue call' job') → job'.id = job.id → call' = call
  execute : ∀ q id, w.Has (.execute q id) →
    ∃ e, w.journal.get id = some e ∧ E.queueOf e.job = some q
  reconcile : ∀ q id, w.Has (.reconcile q id) →
    ∃ e, w.journal.get id = some e ∧ E.queueOf e.job = some q
  starting : ∀ q entry, w.Has (.starting q entry) →
    ∃ e, w.journal.get entry.job.id = some e ∧ RowLater entry e ∧
      E.queueOf entry.job = some q
  unscheduled : ∀ entry, w.Has (.unscheduled entry) →
    ∃ e, w.journal.get entry.job.id = some e ∧ RowLater entry e
  /-- An execution under way was started, and unless its guard may fire its job is
  `executing`. -/
  executing : ∀ q i job, w.call q = some (i, .inl job) →
    E.queueOf job = some q ∧ ∃ e, w.journal.get job.id = some e ∧ e.job = job ∧
      e.state ≠ .received ∧ (E.mayOutlastGuard job = false → e.state = .executing)
  reconciling : ∀ q i entry, w.call q = some (i, .inr entry) →
    entry.state = .indeterminate ∧ E.queueOf entry.job = some q ∧
      ∃ e, w.journal.get entry.job.id = some e ∧ RowLater entry e

namespace CallInv

variable {w w' : World E}

lemma of_nothing (hp : ∀ p, ¬ w.Has p) (hc : ∀ q, w.call q = none) : CallInv w where
  enqueue _ _ h := absurd h (hp _)
  unqueued _ _ h := absurd h (hp _)
  execute _ _ h := absurd h (hp _)
  reconcile _ _ h := absurd h (hp _)
  starting _ _ h := absurd h (hp _)
  unscheduled _ h := absurd h (hp _)
  executing q _ _ h := by rw [hc] at h; cases h
  reconciling q _ _ h := by rw [hc] at h; cases h

lemma of_start (w : World E) (n : ℕ) : CallInv (w.start n) := by
  refine of_nothing (fun p hp => ?_) fun q => rfl
  cases p with
  | enqueue call job => cases call <;> cases hp
  | execute q id =>
    obtain ⟨queuedAt, hmem⟩ := hp
    cases hmem
  | reconcile | starting | unscheduled => cases hp

/-- No other execution of the job is under way. -/
lemma call_unique (h : CallInv w) {q q' : DeviceQueue} {i i' : ℕ} {job job' : DeviceJob}
    (hcall : w.call q = some (i, .inl job)) (hcall' : w.call q' = some (i', .inl job'))
    (hid : job'.id = job.id) : q' = q := by
  obtain ⟨hq, e, he, hjob, -⟩ := h.executing q i job hcall
  obtain ⟨hq', e', he', hjob', -⟩ := h.executing q' i' job' hcall'
  rw [hid, he] at he'
  cases he'
  rw [← hjob', hjob, hq] at hq'
  exact (Option.some.inj hq').symm

/-- One step keeps the invariant. -/
lemma step {event : Event E} (ih : CallInv w) (h : Shape timing w event w')
    (hmove : WorkMove w w') : CallInv w' := by
  by_cases hstart : ∃ n, w' = w.start n
  · obtain ⟨n, rfl⟩ := hstart
    exact of_start w n
  have hrow : ∀ {id e}, w.journal.get id = some e →
      ∃ e', w'.journal.get id = some e' ∧ RowLater e e' := fun he =>
    (h.row_kept he).resolve_right hstart
  -- a reconciled row is past `executing`
  have hrank : ∀ {entry e : JournalEntry}, entry.state = .indeterminate → RowLater entry e →
      2 ≤ e.state.rank := fun {entry e} hs hle => by
    have := hle.rank
    rw [hs] at this
    exact this
  constructor
  case enqueue =>
    intro call job hp
    rcases hmove _ hp with hold | ⟨-, hnew, -⟩
    · obtain ⟨e, he, hsame, hs⟩ := ih.enqueue call job hold
      obtain ⟨e', he', hle⟩ := hrow he
      refine ⟨e', he', by rw [hle.job]; exact hsame, ?_⟩
      by_contra hs'
      cases h.state he he' (by rw [hs]; exact hs') with
      | executing q entry hpiece hid | expired q entry hpiece hid =>
        exact (ih.unqueued call job hold).2.1 q entry hpiece hid
      | noWorker call' job' hpiece hid hgone =>
        obtain rfl := (ih.unqueued call job hold).2.2 call' job' hpiece hid
        exact hgone job hp
      | guarded q task job' hcall hid | joined q task job' _ _ hcall hid =>
        obtain ⟨-, e₁, he₁, -, hne, -⟩ := ih.executing q task job' hcall
        rw [hid, he] at he₁
        cases he₁
        exact hne hs
      | answered q task entry _ _ _ hcall hid =>
        obtain ⟨hind, -, e₁, he₁, hle₁⟩ := ih.reconciling q task entry hcall
        rw [hid, he] at he₁
        cases he₁
        have := hrank hind hle₁
        rw [hs] at this
        simp [JobState.rank] at this
      | restarted n hst => exact hstart ⟨n, hst⟩
    · exact hnew
  case unqueued =>
    intro call job hp
    -- what has a row is not this job when the job is new
    have hold_of_row : ∀ e, w.journal.get job.id = some e → w.Has (.enqueue call job) := by
      intro e he
      rcases hmove _ hp with hold | ⟨hnone, -⟩
      · exact hold
      · rw [hnone] at he
        cases he
    have hexec : ∀ q, ¬ w.Has (.execute q job.id) := fun q hq => by
      obtain ⟨e, he, -⟩ := ih.execute q job.id hq
      exact (ih.unqueued call job (hold_of_row e he)).1 q hq
    refine ⟨fun q hq => ?_, fun q entry hq hid => ?_, fun call' job' hp' hid => ?_⟩
    · rcases hmove _ hq with hold | ⟨call', job', hpiece, hid, -, hgone⟩
      · exact hexec q hold
      · obtain ⟨e, he, -⟩ := ih.enqueue call' job' hpiece
        rw [hid] at he
        obtain rfl := (ih.unqueued call job (hold_of_row e he)).2.2 call' job' hpiece hid
        exact hgone job hp
    · rcases hmove _ hq with hold | ⟨hpiece, -⟩
      · obtain ⟨e, he, -⟩ := ih.starting q entry hold
        rw [hid] at he
        exact (ih.unqueued call job (hold_of_row e he)).2.1 q entry hold hid
      · rw [hid] at hpiece
        exact hexec q hpiece
    · by_contra hne
      -- at most one of the two was taken up in this step
      have hold' : w.Has (.enqueue call' job') ∨ w.Has (.enqueue call job) := by
        rcases hmove _ hp with hold | ⟨-, -, hothers⟩
        · exact Or.inr hold
        · exact Or.inl (hothers call' job' hne hp')
      rcases hold' with hold' | hold
      · obtain ⟨e, he, -⟩ := ih.enqueue call' job' hold'
        rw [hid] at he
        exact hne ((ih.unqueued call job (hold_of_row e he)).2.2 call' job' hold' hid)
      · rcases hmove _ hp' with hold' | ⟨hnone, -⟩
        · exact hne ((ih.unqueued call job hold).2.2 call' job' hold' hid)
        · obtain ⟨e, he, -⟩ := ih.enqueue call job hold
          rw [hid, he] at hnone
          cases hnone
  case execute =>
    intro q id hp
    rcases hmove _ hp with hold | ⟨call, job, hpiece, rfl, hq, -⟩
    · obtain ⟨e, he, hq⟩ := ih.execute q id hold
      obtain ⟨e', he', hle⟩ := hrow he
      exact ⟨e', he', by rw [hle.job, hq]⟩
    · obtain ⟨e, he, hsame, -⟩ := ih.enqueue call job hpiece
      obtain ⟨e', he', hle⟩ := hrow he
      exact ⟨e', he', by rw [hle.job, E.queueOf_till hsame.2.1 hsame.2.2, hq]⟩
  case reconcile =>
    intro q id hp
    rcases hmove _ hp with hold | ⟨entry, hpiece, rfl, hq⟩
    · obtain ⟨e, he, hq⟩ := ih.reconcile q id hold
      obtain ⟨e', he', hle⟩ := hrow he
      exact ⟨e', he', by rw [hle.job, hq]⟩
    · obtain ⟨e, he, hle⟩ := ih.unscheduled entry hpiece
      obtain ⟨e', he', hle'⟩ := hrow he
      exact ⟨e', he', by rw [hle'.job, hle.job, hq]⟩
  case starting =>
    intro q entry hp
    rcases hmove _ hp with hold | ⟨hpiece, hget⟩
    · obtain ⟨e, he, hle, hq⟩ := ih.starting q entry hold
      obtain ⟨e', he', hle'⟩ := hrow he
      exact ⟨e', he', hle.trans hle', hq⟩
    · obtain ⟨e, he, hq⟩ := ih.execute q _ hpiece
      rw [hget] at he
      cases he
      obtain ⟨e', he', hle'⟩ := hrow hget
      exact ⟨e', he', hle', hq⟩
  case unscheduled =>
    intro entry hp
    rcases hmove _ hp with hold | hget
    · obtain ⟨e, he, hle⟩ := ih.unscheduled entry hold
      obtain ⟨e', he', hle'⟩ := hrow he
      exact ⟨e', he', hle.trans hle'⟩
    · obtain ⟨e', he', hle'⟩ := hrow hget
      exact ⟨e', he', hle'⟩
  case executing =>
    intro q i job hc
    rcases h.calls hc with hold | ⟨entry, e, e', hjob, -, hpiece, he, -, he', hs'⟩ | hnew
    · obtain ⟨hq, e, he, hjob, hne, hex⟩ := ih.executing q i job hold
      obtain ⟨e', he', hle⟩ := hrow he
      refine ⟨hq, e', he', by rw [hle.job, hjob], hle.ne_received hne, fun hguard => ?_⟩
      have hs := hex hguard
      by_contra hs'
      cases h.state he he' (by rw [hs]; exact hs') with
      | executing _ _ _ _ hr | expired _ _ _ _ hr => exact hne hr
      | noWorker call job' hpiece hid =>
        obtain ⟨e₁, he₁, -, hr⟩ := ih.enqueue call job' hpiece
        rw [hid, he] at he₁
        cases he₁
        exact hne hr
      | guarded q' task job' hcall hid hg =>
        obtain rfl := ih.call_unique hold hcall hid
        rw [hold] at hcall
        cases hcall
        rw [hguard] at hg
        cases hg
      | joined q' task job' _ _ hcall hid _ _ hgone =>
        obtain rfl := ih.call_unique hold hcall hid
        rw [hgone] at hc
        cases hc
      | answered q' task entry _ _ _ hcall hid =>
        obtain ⟨hind, -, e₁, he₁, hle₁⟩ := ih.reconciling q' task entry hcall
        rw [hid, he] at he₁
        cases he₁
        have := hrank hind hle₁
        rw [hs] at this
        simp [JobState.rank] at this
      | restarted n hst => exact hstart ⟨n, hst⟩
    · cases hjob
      obtain ⟨e₁, he₁, hle₁, hq⟩ := ih.starting q entry hpiece
      obtain ⟨e₂, he₂, hle₂⟩ := hrow he₁
      rw [he'] at he₂
      cases he₂
      exact ⟨hq, e', he', by rw [hle₂.job, hle₁.job], by rw [hs']; simp, fun _ => hs'⟩
    · obtain ⟨_, hjob, -⟩ := hnew
      cases hjob
  case reconciling =>
    intro q i entry hc
    rcases h.calls hc with hold | ⟨_, _, _, hjob, -⟩ | ⟨entry', hentry, -, hpiece, hget, hs⟩
    · obtain ⟨hs, hq, e, he, hle⟩ := ih.reconciling q i entry hold
      obtain ⟨e', he', hle'⟩ := hrow he
      exact ⟨hs, hq, e', he', hle.trans hle'⟩
    · cases hjob
    · cases hentry
      obtain ⟨e, he, hq⟩ := ih.reconcile q _ hpiece
      rw [hget] at he
      cases he
      obtain ⟨e', he', hle'⟩ := hrow hget
      exact ⟨hs, hq, e', he', hle'⟩

end CallInv

lemma callInv_of_reach {law : Transition.Law (World E) (Event E)} {w : World E}
    (h : (source E timing).Reach law w) : CallInv w := by
  refine h.invariant (P := CallInv) ?_ ?_
  · refine CallInv.of_nothing (fun p hp => ?_) fun q => rfl
    cases p with
    | enqueue call job => cases call <;> cases hp
    | execute q id =>
      obtain ⟨queuedAt, hmem⟩ := hp
      cases hmem
    | reconcile | starting | unscheduled => cases hp
  · intro a ev b _ ih hstep _
    exact ih.step (Shape.of_step hstep) (WorkMove.of_step hstep)

/-! ### The running calls -/

/-- What is known of the states of an executor's calls: `Of` relates a call's argument to the
states it goes through, `Bg` holds of the calls that run in the background. -/
structure CallStates (E : Executor) (Of : DeviceJob ⊕ JournalEntry → E.Task → Prop)
    (Bg : E.Task → Prop) : Prop where
  execute : ∀ job, Of (.inl job) (E.execute job)
  reconcile : ∀ entry, Of (.inr entry) (E.reconcile entry)
  background : ∀ t ∈ E.background, Bg t
  step : ∀ {now i ev t s t' s'}, E.step now i ev t s = some (t', s') →
    (∀ c, Of c t → Of c t') ∧ (Bg t → Bg t')

/-- Every running call belongs to a worker that waits for it, runs in the background, or
outlasted its guard. -/
structure TaskInv (Of : DeviceJob ⊕ JournalEntry → E.Task → Prop) (Bg : E.Task → Prop)
    (w : World E) : Prop where
  fresh : ∀ i, w.proc.nextTask ≤ i → w.proc.tasks i = none
  called : ∀ q i c, w.call q = some (i, c) → ∃ t, w.proc.tasks i = some t ∧ Of c t
  injective : ∀ q q' i c c', w.call q = some (i, c) → w.call q' = some (i, c') → q' = q
  owned : ∀ i t, w.proc.tasks i = some t →
    Bg t ∨ (∃ q c, w.call q = some (i, c)) ∨
      ∃ job, E.mayOutlastGuard job = true ∧ Of (.inl job) t

namespace TaskInv

variable {Of : DeviceJob ⊕ JournalEntry → E.Task → Prop} {Bg : E.Task → Prop} {w w' : World E}

lemma lt_of_call (h : TaskInv Of Bg w) {q : DeviceQueue} {i : ℕ}
    {c : DeviceJob ⊕ JournalEntry} (hc : w.call q = some (i, c)) : i < w.proc.nextTask := by
  obtain ⟨t, ht, -⟩ := h.called q i c hc
  by_contra hlt
  rw [h.fresh i (not_lt.mp hlt)] at ht
  cases ht

lemma of_frame (ih : TaskInv Of Bg w) (htasks : w'.proc.tasks = w.proc.tasks)
    (hnext : w'.proc.nextTask = w.proc.nextTask) (hcalls : ∀ q, w'.call q = w.call q) :
    TaskInv Of Bg w' where
  fresh i hi := by rw [htasks]; exact ih.fresh i (hnext ▸ hi)
  called q i c hc := by rw [htasks]; exact ih.called q i c (hcalls q ▸ hc)
  injective q q' i c c' hc hc' := ih.injective q q' i c c' (hcalls q ▸ hc) (hcalls q' ▸ hc')
  owned i t ht := by
    rw [htasks] at ht
    rcases ih.owned i t ht with h | ⟨q, c, h⟩ | h
    · exact Or.inl h
    · exact Or.inr (Or.inl ⟨q, c, (hcalls q).trans h⟩)
    · exact Or.inr (Or.inr h)

/-- A worker starts a call. -/
lemma of_spawn (ih : TaskInv Of Bg w) {q : DeviceQueue} {t : E.Task}
    {c : DeviceJob ⊕ JournalEntry} (hidle : w.call q = none) (ht : Of c t)
    (htasks : w'.proc.tasks = Function.update w.proc.tasks w.proc.nextTask (some t))
    (hnext : w'.proc.nextTask = w.proc.nextTask + 1)
    (hcall : w'.call q = some (w.proc.nextTask, c))
    (hcalls : ∀ q', q' ≠ q → w'.call q' = w.call q') : TaskInv Of Bg w' := by
  have hold : ∀ q' i c', w'.call q' = some (i, c') →
      (q' = q ∧ i = w.proc.nextTask ∧ c' = c) ∨ (q' ≠ q ∧ w.call q' = some (i, c')) := by
    intro q' i c' h
    by_cases hq : q' = q
    · subst hq
      rw [hcall] at h
      cases h
      exact Or.inl ⟨rfl, rfl, rfl⟩
    · exact Or.inr ⟨hq, hcalls q' hq ▸ h⟩
  constructor
  case fresh =>
    intro i hi
    rw [hnext] at hi
    rw [htasks, Function.update_of_ne (by omega)]
    exact ih.fresh i (by omega)
  case called =>
    intro q' i c' h
    rcases hold q' i c' h with ⟨rfl, rfl, rfl⟩ | ⟨-, h⟩
    · exact ⟨t, by rw [htasks, Function.update_self], ht⟩
    · rw [htasks, Function.update_of_ne (ih.lt_of_call h).ne]
      exact ih.called q' i c' h
  case injective =>
    intro q₁ q₂ i c₁ c₂ h₁ h₂
    rcases hold q₁ i c₁ h₁ with ⟨rfl, rfl, rfl⟩ | ⟨-, h₁⟩ <;>
      rcases hold q₂ _ c₂ h₂ with ⟨rfl, hi, rfl⟩ | ⟨-, h₂⟩
    · rfl
    · exact absurd (ih.lt_of_call h₂) (lt_irrefl _)
    · exact absurd (hi ▸ ih.lt_of_call h₁) (lt_irrefl _)
    · exact ih.injective q₁ q₂ i c₁ c₂ h₁ h₂
  case owned =>
    intro i t' ht'
    by_cases hi : i = w.proc.nextTask
    · exact Or.inr (Or.inl ⟨q, c, hi ▸ hcall⟩)
    · rw [htasks, Function.update_of_ne hi] at ht'
      rcases ih.owned i t' ht' with h | ⟨q', c', h⟩ | h
      · exact Or.inl h
      · have hne : q' ≠ q := by
          rintro rfl
          rw [hidle] at h
          cases h
        exact Or.inr (Or.inl ⟨q', c', (hcalls q' hne).trans h⟩)
      · exact Or.inr (Or.inr h)

/-- A worker has its answer, and the call is over. -/
lemma of_join (ih : TaskInv Of Bg w) {q : DeviceQueue} {task : ℕ}
    {c : DeviceJob ⊕ JournalEntry} (hcall : w.call q = some (task, c))
    (htasks : w'.proc.tasks = Function.update w.proc.tasks task none)
    (hnext : w'.proc.nextTask = w.proc.nextTask) (hidle : w'.call q = none)
    (hcalls : ∀ q', q' ≠ q → w'.call q' = w.call q') : TaskInv Of Bg w' := by
  have hold : ∀ q' i c', w'.call q' = some (i, c') → i ≠ task ∧ w.call q' = some (i, c') := by
    intro q' i c' h
    have hq : q' ≠ q := by
      rintro rfl
      rw [hidle] at h
      cases h
    rw [hcalls q' hq] at h
    refine ⟨?_, h⟩
    rintro rfl
    exact hq (ih.injective q q' i c c' hcall h)
  constructor
  case fresh =>
    intro i hi
    rw [hnext] at hi
    by_cases hi' : i = task
    · rw [htasks, hi', Function.update_self]
    · rw [htasks, Function.update_of_ne hi']
      exact ih.fresh i hi
  case called =>
    intro q' i c' h
    obtain ⟨hne, h⟩ := hold q' i c' h
    rw [htasks, Function.update_of_ne hne]
    exact ih.called q' i c' h
  case injective =>
    intro q₁ q₂ i c₁ c₂ h₁ h₂
    exact ih.injective q₁ q₂ i c₁ c₂ (hold _ _ _ h₁).2 (hold _ _ _ h₂).2
  case owned =>
    intro i t ht
    have hne : i ≠ task := by
      rintro rfl
      rw [htasks, Function.update_self] at ht
      cases ht
    rw [htasks, Function.update_of_ne hne] at ht
    rcases ih.owned i t ht with h | ⟨q', c', h⟩ | h
    · exact Or.inl h
    · have hq : q' ≠ q := by
        rintro rfl
        rw [hcall] at h
        cases h
        exact hne rfl
      exact Or.inr (Or.inl ⟨q', c', (hcalls q' hq).trans h⟩)
    · exact Or.inr (Or.inr h)

lemma step {event : Event E} (hk : CallStates E Of Bg) (ih : TaskInv Of Bg w)
    (h : Shape timing w event w') :
    TaskInv Of Bg w' := by
  have hother : ∀ (v : World E) (q₀ : DeviceQueue) (pc : WorkerPc) q, q ≠ q₀ →
      (v.withWorker q₀ pc).call q = v.call q := fun v q₀ pc q hq => by
    simp [World.call, World.withWorker, hq]
  have hself : ∀ (v : World E) (q₀ : DeviceQueue) (pc : WorkerPc),
      (v.withWorker q₀ pc).call q₀ = pc.call := fun v q₀ pc => by
    simp [World.call, World.withWorker]
  cases h with
  | quiet f | expired f | noWorker f | guarded f | noted f | acked f | authAcked f
  | reported f => exact ih.of_frame f.tasks f.nextTask f.calls
  | inserted _ _ f => exact ih.of_frame f.tasks f.nextTask f.calls
  | lanInserted _ _ f => exact ih.of_frame f.tasks f.nextTask f.calls
  | clock _ h | dev _ _ _ _ h =>
    subst h
    exact ih.of_frame rfl rfl fun _ => rfl
  | execute q entry queuedAt hpc hrow h =>
    subst h
    exact ih.of_spawn (by simp [World.call, hpc, WorkerPc.call]) (hk.execute entry.job) rfl rfl
      (hself _ q _) (fun q' hq => hother _ q _ q' hq)
  | reconcile q jobId rest entry hpc hqueue hrow hstate h =>
    subst h
    exact ih.of_spawn (by simp [World.call, hpc, WorkerPc.call]) (hk.reconcile entry) rfl rfl
      (hself _ q _) (fun q' hq => hother _ q _ q' hq)
  | detached q job task startedAt hpc hguard h =>
    subst h
    have hcall : w.call q = some (task, .inl job) := by simp [World.call, hpc, WorkerPc.call]
    have hold : ∀ q' c, (w.withWorker q .idle).call q' = some c → w.call q' = some c := by
      intro q' c hc
      by_cases hq : q' = q
      · subst hq
        rw [hself] at hc
        cases hc
      · rw [← hother w q .idle q' hq]
        exact hc
    refine ⟨ih.fresh, fun q' i c hc => ih.called q' i c (hold q' _ hc),
      fun q₁ q₂ i c₁ c₂ h₁ h₂ => ih.injective q₁ q₂ i c₁ c₂ (hold _ _ h₁) (hold _ _ h₂),
      fun i t ht => ?_⟩
    rcases ih.owned i t ht with h | ⟨q', c, h⟩ | h
    · exact Or.inl h
    · by_cases hq : q' = q
      · subst hq
        rw [hcall] at h
        cases h
        obtain ⟨t', ht', hof⟩ := ih.called q' _ _ hcall
        have heq : t' = t := Option.some.inj (ht'.symm.trans ht)
        exact Or.inr (Or.inr ⟨job, hguard, heq ▸ hof⟩)
      · exact Or.inr (Or.inl ⟨q', c, (hother w q .idle q' hq).trans h⟩)
    · exact Or.inr (Or.inr h)
  | joined q job task startedAt guarded t outcome ok hpc htask hout h =>
    subst h
    have hcall : w.call q = some (task, .inl job) := by simp [World.call, hpc, WorkerPc.call]
    exact ih.of_join hcall rfl rfl (hself _ q _) (fun q' hq => hother _ q _ q' hq)
  | answered q entry task t answer ok hpc htask hout h =>
    subst h
    have hcall : w.call q = some (task, .inr entry) := by simp [World.call, hpc, WorkerPc.call]
    exact ih.of_join hcall rfl rfl (hself _ q .idle) (fun q' hq => hother _ q .idle q' hq)
  | task i ev t t' s hev htask hstep h =>
    subst h
    obtain ⟨hof, hbg⟩ := hk.step hstep
    constructor
    case fresh =>
      intro k hk
      have hne : k ≠ i := by
        rintro rfl
        rw [ih.fresh k hk] at htask
        cases htask
      change Function.update w.proc.tasks i (some t') k = none
      rw [Function.update_of_ne hne]
      exact ih.fresh k hk
    case called =>
      intro q k c hc
      obtain ⟨t₁, ht₁, hof₁⟩ := ih.called q k c hc
      by_cases hki : k = i
      · subst hki
        rw [htask] at ht₁
        cases ht₁
        exact ⟨t', Function.update_self .., hof c hof₁⟩
      · exact ⟨t₁, (Function.update_of_ne hki ..).trans ht₁, hof₁⟩
    case injective => exact ih.injective
    case owned =>
      intro k t₁ ht₁
      by_cases hki : k = i
      · subst hki
        change Function.update w.proc.tasks k (some t') k = some t₁ at ht₁
        rw [Function.update_self] at ht₁
        cases ht₁
        rcases ih.owned k t htask with h | h | ⟨job, hj, h⟩
        · exact Or.inl (hbg h)
        · exact Or.inr (Or.inl h)
        · exact Or.inr (Or.inr ⟨job, hj, hof _ h⟩)
      · change Function.update w.proc.tasks i (some t') k = some t₁ at ht₁
        rw [Function.update_of_ne hki] at ht₁
        exact ih.owned k t₁ ht₁
  | crash h =>
    subst h
    exact ⟨fun _ _ => rfl, by rintro _ _ _ ⟨⟩, by rintro _ _ _ _ _ ⟨⟩, by rintro _ _ ⟨⟩⟩
  | start n hup h =>
    subst h
    refine ⟨fun i hi => ?_, by rintro _ _ _ ⟨⟩, by rintro _ _ _ _ _ ⟨⟩,
      fun i t ht => Or.inl (hk.background t (List.mem_of_getElem? ht))⟩
    exact List.getElem?_eq_none hi

end TaskInv

lemma taskInv_of_reach {Of : DeviceJob ⊕ JournalEntry → E.Task → Prop} {Bg : E.Task → Prop}
    (hk : CallStates E Of Bg) {law : Transition.Law (World E) (Event E)} {w : World E}
    (h : (source E timing).Reach law w) : TaskInv Of Bg w := by
  refine h.invariant (P := TaskInv Of Bg) ?_ ?_
  · exact ⟨fun _ _ => rfl, fun _ _ _ h => (nomatch h), fun _ _ _ _ _ h => (nomatch h),
      fun _ _ h => (nomatch h)⟩
  · intro a ev b _ ih hstep _
    exact ih.step hk (Shape.of_step hstep)

end DevBridge

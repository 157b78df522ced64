import DevBridge.Source.Shape

/-!
# The jobs over a run

The life of one job id: its row, whether it was journaled and whether its execution was
called.  A job's row is dropped only when the process starts, and an id whose row was dropped
may be handed out again; the two laws below say what is assumed about that.
-/

namespace DevBridge

variable {E : Executor} {timing : Timing}

/-- What a step does to the jobs. -/
inductive JobsEffect (w w' : World E) : Prop
  | later (h : RowsLater w.journal w'.journal)
      (hj : w'.log.journaled = w.log.journaled) (hx : w'.log.executed = w.log.executed)
  | executed (id : ℤ) (e e' : JournalEntry) (h : RowsLater w.journal w'.journal)
      (hj : w'.log.journaled = w.log.journaled)
      (hx : w'.log.executed = id :: w.log.executed)
      (he : w.journal.get id = some e) (hs : e.state = .received)
      (he' : w'.journal.get id = some e') (hs' : e'.state = .executing)
  | added (id : ℤ) (e : JournalEntry) (h : RowAdded w.journal w'.journal id e)
      (hj : w'.log.journaled = id :: w.log.journaled)
      (hx : w'.log.executed = w.log.executed)
      (hnext : id < 0 ∨ w.proc.control.handing = some id)
      (hlan : id < 0 → ∃ i request job, w.proc.lan i = .insert request ∧
        w'.proc.lan i = .enqueue request job)
  | restarted (h : ∀ id e', w'.journal.get id = some e' →
        ∃ e, w.journal.get id = some e ∧ e' = recoverRow w.clock e)
      (hj : w'.log.journaled = w.log.journaled) (hx : w'.log.executed = w.log.executed)
      (hstart : ∃ n, w' = w.start n) (hdown : w.up = false)

/-- A successful `start_execution` found the row `received` and left it `executing`. -/
lemma Journal.startExecution_true {j : Journal} {now : Time} {id : ℤ}
    (h : (j.startExecution now id).1 = true) :
    ∃ e, j.get id = some e ∧ e.state = .received ∧
      (j.startExecution now id).2.get id =
        some { e with state := .executing, updatedAt := now } := by
  rw [Journal.startExecution, Journal.updateRow_changed] at h
  rw [Journal.startExecution, Journal.get_updateRow]
  cases he : j.get id with
  | none => simp [he] at h
  | some e =>
    simp only [he, Option.any_some, RowOp.guard, beq_iff_eq] at h
    refine ⟨e, rfl, h, ?_⟩
    simp [RowOp.apply, RowOp.guard, RowOp.set, h]

lemma JobsEffect.of_frame {w w' : World E} (f : Frame w w')
    (h : RowsLater w.journal w'.journal) : JobsEffect w w' :=
  .later h f.journaled f.executed

lemma World.rowsLater_write (w : World E) (ok : Bool) {j : Journal}
    (h : RowsLater w.journal j) : RowsLater w.journal (w.write ok j).journal := by
  cases ok
  · exact RowsLater.refl _
  · exact h

lemma World.rowsLater_recordAnswer (w : World E) (jobId : ℤ) (answer : Reconciliation) :
    RowsLater w.journal (w.recordAnswer jobId answer) := by
  cases answer <;> exact RowsLater.updateRow _ _ _ _

/-- Every step has one of the four effects on the jobs. -/
lemma Shape.jobs {w w' : World E} {event : Event E}
    (h : Shape timing w event w') : JobsEffect w w' := by
  cases h with
  | quiet f hj => exact .of_frame f (by rw [hj]; exact RowsLater.refl _)
  | clock t h =>
    subst h
    exact .later (RowsLater.refl _) rfl rfl
  | dev e dev hev he h =>
    subst h
    exact .later (RowsLater.refl _) rfl rfl
  | inserted job refused f hnew hj hcheck hnext =>
    have hadd := RowAdded.insert hnew
    rw [← hj] at hadd
    refine .added job.job.id _ hadd f.journaled f.executed (Or.inr hnext) fun hneg => ?_
    have hpos := job.pos
    omega
  | lanInserted job jobId f hj hlan =>
    rcases Journal.get_insertLanReceived hj with
      ⟨id, hid, hneg, -, hnone, hget⟩ | ⟨⟨k, hk⟩, -⟩
    · cases hid
      have hseq := w.journal.lanJobs.seq_nonneg
      exact .added jobId _ ⟨hnone, hget⟩ f.journaled f.executed (Or.inl (by omega)) fun _ => hlan
    · cases hk
  | expired f jobId text hpc hj =>
    exact .of_frame f (by rw [hj]; exact RowsLater.updateRow _ _ _ _)
  | noWorker f jobId code text henq hj =>
    exact .of_frame f (by rw [hj]; exact RowsLater.updateRow _ _ _ _)
  | guarded f q task job hcall hguard reason hj =>
    exact .of_frame f (by rw [hj]; exact RowsLater.updateRow _ _ _ _)
  | noted f jobId reason hj =>
    exact .of_frame f (by rw [hj]; exact RowsLater.updateRow _ _ _ _)
  | acked f jobId op hop hj =>
    exact .of_frame f (by rw [hj]; exact RowsLater.updateOdoo _ _ _ _)
  | authAcked f jobId note hj =>
    exact .of_frame f (by rw [hj]; exact RowsLater.of_get_eq fun _ => rfl)
  | reported f jobId odooJobId note hj =>
    exact .of_frame f (by rw [hj]; exact RowsLater.markLanReported _ _ _ _ _)
  | execute q entry queuedAt hpc hrow h =>
    obtain ⟨e, he, hs, he'⟩ := Journal.startExecution_true hrow
    subst h
    exact .executed entry.job.id e _ (RowsLater.updateRow _ _ _ _) rfl rfl he hs he' rfl
  | reconcile q jobId rest entry hpc hq hrow hstate h =>
    subst h
    exact .later (RowsLater.refl _) rfl rfl
  | detached q job task startedAt hpc hguard h =>
    subst h
    exact .later (RowsLater.refl _) rfl rfl
  | joined q job task startedAt guarded t outcome ok hpc htask hout h =>
    subst h
    refine .later (World.rowsLater_write (w.joined task) ok ?_) ?_ ?_
    · exact RowsLater.updateRow _ _ _ _
    · cases ok <;> rfl
    · cases ok <;> rfl
  | answered q entry task t answer ok hpc htask hout h =>
    subst h
    refine .later (World.rowsLater_write (w.joined task) ok ?_) ?_ ?_
    · exact World.rowsLater_recordAnswer w _ answer
    · cases ok <;> rfl
    · cases ok <;> rfl
  | task i e t t' s hev htask hstep h =>
    subst h
    exact .later (E.step_marks hstep).rowsLater rfl rfl
  | crash h =>
    subst h
    exact .later (RowsLater.refl _) rfl rfl
  | start n hup h =>
    subst h
    refine .restarted (fun id e' he' => ?_) rfl rfl ⟨n, rfl⟩ hup
    have hkept := Journal.prune_pruned (w.journal.recoverAfterRestart w.clock) w.clock n id
    rcases hkept with hk | ⟨hk, -⟩
    · have he'' : (w.journal.recoverAfterRestart w.clock).get id = some e' := hk ▸ he'
      rw [Journal.get_recoverAfterRestart, Option.map_eq_some_iff] at he''
      obtain ⟨e, he, heq⟩ := he''
      exact ⟨e, he, heq.symm⟩
    · exact absurd (hk.symm.trans he') (by simp)

/-- No step changes how doubles read back. -/
lemma Shape.readFloat {w w' : World E} {event : Event E} (h : Shape timing w event w') :
    w'.journal.readFloat = w.journal.readFloat := by
  have hrow : ∀ id op, (w.journal.updateRow w.clock id op).2.readFloat = w.journal.readFloat :=
    Journal.readFloat_updateRow w.journal w.clock
  cases h with
  | quiet f hj => rw [hj]
  | authAcked f _ _ hj | reported f _ _ _ hj | acked f _ _ _ hj =>
    rw [hj]
    rfl
  | clock t h | dev _ _ _ _ h | reconcile _ _ _ _ _ _ _ _ h | detached _ _ _ _ _ _ h
  | crash h =>
    subst h
    rfl
  | inserted job refused f hnew hj =>
    rw [hj]
    exact Journal.readFloat_insert _ _ _ _
  | lanInserted job jobId f hj => exact Journal.readFloat_insertLanReceived hj
  | expired f jobId text hpc hj | noWorker f jobId code text henq hj
  | guarded f q task job hcall hguard reason hj | noted f jobId reason hj =>
    rw [hj]
    exact hrow _ _
  | execute q entry queuedAt hpc hstart h =>
    subst h
    exact hrow _ _
  | joined q job task startedAt guarded t outcome ok hpc htask hout h =>
    subst h
    cases ok with
    | false => rfl
    | true => exact hrow _ _
  | answered q entry task t answer ok hpc htask hout h =>
    subst h
    cases ok with
    | false => rfl
    | true => cases answer <;> exact hrow _ _
  | task i e t t' s hev htask hstep h =>
    subst h
    exact (E.step_marks hstep).readFloat
  | start n hup h =>
    subst h
    exact Journal.readFloat_prune _ _ n

lemma readFloat_of_reach {law : Transition.Law (World E) (Event E)} {w : World E}
    (h : (source E timing).Reach law w) : w.journal.readFloat = E.readFloat :=
  h.invariant (P := fun w => w.journal.readFloat = E.readFloat) rfl
    fun _ _ _ _ ih hstep _ => (Shape.of_step hstep).readFloat.trans ih

/-- A row after a step that had a row before it is a later row. -/
lemma JobsEffect.rowLater {w w' : World E} (h : JobsEffect w w') {id : ℤ}
    {e e' : JournalEntry} (he : w.journal.get id = some e)
    (he' : w'.journal.get id = some e') : RowLater e e' := by
  cases h with
  | later h => exact h.later he he'
  | executed _ _ _ h => exact h.later he he'
  | added id' e₀ h =>
    have hne : id ≠ id' := by
      rintro rfl
      rw [h.1] at he
      cases he
    rw [h.2, if_neg hne, he] at he'
    cases he'
    exact RowLater.refl e
  | restarted h =>
    obtain ⟨a, ha, rfl⟩ := h id e' he'
    rw [he] at ha
    cases ha
    exact recoverRow_later _ e

lemma RowLater.ne_received {e e' : JournalEntry} (h : RowLater e e')
    (he : e.state ≠ .received) : e'.state ≠ .received := by
  intro he'
  have hrank := h.rank
  rw [he'] at hrank
  cases hs : e.state <;> simp_all [JobState.rank]

/-! ### Journaled jobs -/

/-- The row of a job is not dropped. -/
def RowKept (id : ℤ) : Transition.Law (World E) (Event E) := fun w _ w' =>
  w.journal.get id ≠ none → w'.journal.get id ≠ none

/-- A job whose row was dropped is not handed out again. -/
def NotReissued (id : ℤ) : Transition.Law (World E) (Event E) := fun w _ w' =>
  w.journal.get id = none → w'.journal.get id ≠ none → id ∉ w.log.journaled

/-- Every row was journaled. -/
lemma journaled_of_row {law : Transition.Law (World E) (Event E)} {w : World E}
    (h : (source E timing).Reach law w) {id : ℤ} {e : JournalEntry}
    (he : w.journal.get id = some e) : id ∈ w.log.journaled := by
  have hinv : ∀ id e, w.journal.get id = some e → id ∈ w.log.journaled := by
    refine h.invariant (P := fun w => ∀ id e, w.journal.get id = some e →
      id ∈ w.log.journaled) ?_ ?_
    · intro id e he
      rw [show (source E timing).init.journal = Journal.empty E.readFloat from rfl,
        Journal.get_empty] at he
      cases he
    · intro a ev b _ ih hstep _ id e he
      cases (Shape.of_step hstep).jobs with
      | later hr hj hx =>
        rw [hj]
        rcases hr id with ⟨-, h2⟩ | ⟨e₀, e₁, h1, -, -⟩
        · rw [h2] at he
          cases he
        · exact ih id e₀ h1
      | executed id' _ _ hr hj hx _ _ _ _ =>
        rw [hj]
        rcases hr id with ⟨-, h2⟩ | ⟨e₀, e₁, h1, -, -⟩
        · rw [h2] at he
          cases he
        · exact ih id e₀ h1
      | added id' e' hadd hj hx =>
        rw [hj]
        rw [hadd.2] at he
        split at he
        · rename_i hid
          exact hid ▸ List.mem_cons_self
        · exact List.mem_cons_of_mem _ (ih id e he)
      | restarted hr hj hx =>
        rw [hj]
        obtain ⟨e₀, he₀, -⟩ := hr id e he
        exact ih id e₀ he₀
  exact hinv id e he

/-- A journaled job whose row is kept has its row. -/
lemma row_of_journaled {id : ℤ} {w : World E} (h : (source E timing).Reach (RowKept id) w)
    (hid : id ∈ w.log.journaled) : w.journal.get id ≠ none := by
  refine h.invariant (P := fun w => id ∈ w.log.journaled → w.journal.get id ≠ none) ?_ ?_ hid
  · intro hid
    simp [source, World.init] at hid
  · intro a ev b _ ih hstep hkept hid
    cases (Shape.of_step hstep).jobs with
    | later hr hj hx => exact hkept (ih (hj ▸ hid))
    | executed id' _ _ hr hj hx _ _ _ _ => exact hkept (ih (hj ▸ hid))
    | added id' e' hadd hj hx =>
      rw [hj] at hid
      rcases List.mem_cons.mp hid with rfl | hid
      · rw [hadd.2, if_pos rfl]
        simp
      · exact hkept (ih hid)
    | restarted hr hj hx => exact hkept (ih (hj ▸ hid))

/-- A run that keeps the row of a job never hands it out twice. -/
lemma reach_notReissued {id : ℤ} {w : World E} (h : (source E timing).Reach (RowKept id) w) :
    (source E timing).Reach (NotReissued id) w := by
  refine h.invariant (P := (source E timing).Reach (NotReissued id)) Transition.Reach.init ?_
  intro a ev b ha ih hstep _
  exact ih.move ⟨ev, hstep, fun hnone _ hmem => row_of_journaled ha hmem hnone⟩

end DevBridge

import DevBridge.Source.AtMostOnce
import DevBridge.Source.Talk

/-!
# The order of the acks

The ack sender reads the acks that are owed in two queries and sends them one after the
other, while other tasks change the rows.  What makes this safe is that a row only moves
forward: an ack that was read says something about the row that stays true, so the acks that
were sent, followed by the acks that are read and not sent yet, form one line whose ranks
never go down, and a new reading is put at its end.
-/

namespace DevBridge

variable {E : Executor} {timing : Timing}

namespace AckRequest

/-- How far the job is that an ack speaks of, in the ranks of the job states. -/
def rank : AckRequest → ℕ
  | authorized _ _ => 1
  | indeterminate _ _ => 2
  | done _ _ | failed _ _ _ => 3
  | notReceived _ => 0

/-- The acks that report a journaled job: all but `not_received`. -/
def reports (a : AckRequest) (id : ℤ) : Bool :=
  a.jobId == id && a.rank != 0

lemma rank_of_isFinal {a : AckRequest} (h : a.isFinal = true) : a.rank = 3 := by
  cases a <;> simp_all [isFinal, rank]

lemma isFinal_of_rank {a : AckRequest} (h : a.rank = 3) : a.isFinal = true := by
  cases a <;> simp_all [isFinal, rank]

end AckRequest

/-- The final ack of a final row. -/
def JournalEntry.finalAck (e : JournalEntry) : AckRequest :=
  match e.state with
  | .done => .done e.job.id (e.result.getD .null)
  | _ => .failed e.job.id (e.errorCode.getD "") (e.errorText.getD "")

lemma RowLater.finalAck {e e' : JournalEntry} (h : RowLater e e')
    (hf : e.state.isFinal = true) : e'.finalAck = e.finalAck := by
  have hv := h.verdict hf
  simp only [JournalEntry.verdict, Prod.mk.injEq] at hv
  obtain ⟨h1, h2, h3, h4⟩ := hv
  simp only [JournalEntry.finalAck, h.job, h1, h2, h3, h4]

lemma JobState.isFinal_of_rank {s : JobState} (h : 3 ≤ s.rank) : s.isFinal = true := by
  cases s <;> simp_all [JobState.rank]

/-! ### What is read -/

/-- An ack says of a row what the row is, and reports it. -/
def Speaks (j : Journal) (a : AckRequest) : Prop :=
  a.rank ≠ 0 ∧ ∃ e, j.get a.jobId = some e ∧ a.rank = e.state.rank ∧
    (a.isFinal = true → e.finalAck = a)

lemma speaks_of_owedAck {j : Journal} {id : ℤ} {e : JournalEntry} {a : AckRequest}
    (he : j.get id = some e) (ha : e.owedAck = some a) : Speaks j a ∧ a.jobId = id := by
  have hid := Journal.id_of_get he
  unfold JournalEntry.owedAck at ha
  cases hs : e.state with
  | done | failed =>
    simp only [hs] at ha
    split at ha
    · cases ha
    · cases ha
      refine ⟨⟨by simp [AckRequest.rank], e, by rw [AckRequest.jobId, hid, he],
        by simp [hs, AckRequest.rank, JobState.rank], fun _ => ?_⟩, hid⟩
      simp [JournalEntry.finalAck, hs]
  | indeterminate =>
    simp only [hs] at ha
    split at ha
    · cases ha
      exact ⟨⟨by simp [AckRequest.rank], e, by rw [AckRequest.jobId, hid, he],
        by simp [hs, AckRequest.rank, JobState.rank], fun h => by cases h⟩, hid⟩
    · cases ha
  | received | executing =>
    simp only [hs] at ha
    cases ha

lemma Journal.get_of_deviceJobs {j : Journal} {id : ℤ} {e : JournalEntry}
    (h : j.deviceJobs.get? id = some e) : j.get id = some e := by
  rw [Journal.get_of_odoo j (j.odooIds id e h).1.le, h]

lemma speaks_of_owedJobAcks {j : Journal} {a : AckRequest} (ha : a ∈ j.owedJobAcks) :
    Speaks j a := by
  simp only [Journal.owedJobAcks, List.mem_filterMap, Prod.exists, Table.mem_select] at ha
  obtain ⟨id, e, ⟨he, -⟩, hack⟩ := ha
  exact (speaks_of_owedAck (Journal.get_of_deviceJobs he) hack).1

lemma speaks_of_owedCardAuthAcks {j : Journal} {a : AckRequest}
    (ha : a ∈ j.owedCardAuthAcks) : Speaks j a := by
  simp only [Journal.owedCardAuthAcks, List.mem_filterMap] at ha
  obtain ⟨x, -, hx⟩ := ha
  split at hx
  · rename_i d result hd hr
    split at hx
    · rename_i hc
      cases hx
      exact ⟨by simp [AckRequest.rank], d, Journal.get_of_deviceJobs hd,
        by simp [AckRequest.rank, JobState.rank, hc.2], fun h => by cases h⟩
    · cases hx
  · cases hx

/-- A final row whose ack is not accepted is among the acks owed. -/
lemma finalAck_owed {j : Journal} {id : ℤ} {e : JournalEntry}
    (he : j.deviceJobs.get? id = some e) (hf : e.state.isFinal = true)
    (hacked : e.acked = false) : e.finalAck ∈ j.owedJobAcks := by
  simp only [Journal.owedJobAcks, List.mem_filterMap, Prod.exists, Table.mem_select]
  refine ⟨id, e, ⟨he, by simp [hf, hacked]⟩, ?_⟩
  rw [JobState.isFinal_iff] at hf
  rcases hf with hs | hs <;> simp [JournalEntry.owedAck, JournalEntry.finalAck, hs, hacked]

/-! ### The line of acks -/

/-- The acks that are read and not sent yet. -/
def AckerPc.unsent : AckerPc → List AckRequest
  | idle => []
  | second acks | flush acks => acks
  | waiting _ rest | mark _ _ rest => rest

namespace World

/-- The acks sent and then those read and not sent yet, in the order of sending. -/
def line (w : World E) : List AckRequest := w.log.acks.reverse ++ w.proc.acker.unsent

/-- The acks of a job that were sent, in the order of sending. -/
def acksOf (w : World E) (id : ℤ) : List AckRequest :=
  w.log.acks.reverse.filter fun a => a.reports id

end World

/-- What a step does to the line. -/
inductive LineMove (w w' : World E) : Prop
  /-- Acks are dropped that were not sent, or a `not_received` is sent by the control
  loop. -/
  | kept (h : ∀ id, (w'.line.filter fun a => a.reports id).Sublist
        (w.line.filter fun a => a.reports id))
  /-- The ack sender reads what is owed. -/
  | read (new : List AckRequest) (h : w'.line = w.line ++ new)
      (hnew : ∀ a ∈ new, Speaks w.journal a) (hj : w'.journal = w.journal)
      (hlog : w'.log.journaled = w.log.journaled)

namespace LineMove

variable {w w' : World E}

lemma of_sublist (h : w'.line.Sublist w.line) : LineMove w w' := .kept fun _ => h.filter _

lemma of_acker (h₁ : w'.proc.acker = w.proc.acker) (h₂ : w'.log.acks = w.log.acks) :
    LineMove w w' := of_sublist (by rw [World.line, World.line, h₁, h₂])

lemma of_reset (h₁ : w'.proc.acker = .idle) (h₂ : w'.log.acks = w.log.acks) :
    LineMove w w' :=
  of_sublist (by simp [World.line, h₁, h₂, AckerPc.unsent])

lemma of_ackerStep {e : AckerEvent} (h : w.ackerStep e = some w') : LineMove w w' := by
  unfold World.ackerStep at h
  split at h
  · rename_i hpc
    cases h
    refine .read w.journal.owedCardAuthAcks ?_ (fun a => speaks_of_owedCardAuthAcks) rfl rfl
    simp [World.line, World.withAcker, hpc, AckerPc.unsent]
  · rename_i acks hpc
    cases h
    refine .read w.journal.owedJobAcks ?_ (fun a => speaks_of_owedJobAcks) rfl rfl
    simp [World.line, World.withAcker, hpc, AckerPc.unsent]
  · cases h
    exact of_reset rfl rfl
  · rename_i ack rest hpc
    cases h
    exact of_sublist (by simp [World.line, World.withAcker, hpc, AckerPc.unsent])
  · rename_i ack rest answer hpc
    simp only at h
    split at h
    · cases h
      exact of_sublist (by simp [World.line, World.withAcker, hpc, AckerPc.unsent])
    · split at h
      · cases h
        exact of_sublist (by simp [World.line, World.withAcker, hpc, AckerPc.unsent])
      · split at h
        · cases h
          exact of_reset rfl rfl
        · cases h
          exact of_sublist (by simp [World.line, World.withAcker, hpc, AckerPc.unsent])
  · rename_i ack note rest ok hpc
    split at h
    · cases h
      exact of_sublist (by
        simp [World.line, World.withAcker, World.withJournal, hpc, AckerPc.unsent])
    · cases h
      exact of_reset rfl rfl
  · cases h
    exact of_reset rfl rfl
  · cases h
    exact of_reset rfl rfl
  · cases h

/-- Every step moves the line in one of the two ways. -/
lemma of_step {e : Event E} (h : w.step timing e = some w') : LineMove w w' := by
  cases ht : World.talks e with
  | false =>
    have htalk := World.talk_of_step ht h
    simp only [World.talk, Prod.mk.injEq] at htalk
    exact of_acker htalk.2.1 htalk.2.2.2.1
  | true =>
    cases e with
    | clock _ | elapse _ | dev _ | lan _ _ | worker _ _ | reconciler _ | reporter _
    | task _ _ => cases ht
    | crash =>
      simp only [World.step] at h
      split at h <;> cases h
      exact of_reset rfl rfl
    | start n =>
      simp only [World.step] at h
      split at h <;> cases h
      exact of_reset rfl rfl
    | odoo e =>
      have ho := World.acker_of_odooStep h
      exact of_acker ho.1 ho.2.1
    | acker e =>
      simp only [World.step] at h
      split at h
      · exact of_ackerStep h
      · cases h
    | control e =>
      simp only [World.step] at h
      split at h
      · obtain ⟨hpc, -, hacks | ⟨p, rest, retryLater, -, -, hacks⟩⟩ :=
          World.acker_of_controlStep h
        · exact of_acker hpc hacks
        · -- a `not_received` ack reports no journaled job
          refine .kept fun id => ?_
          simp [World.line, hpc, hacks, List.filter_append, AckRequest.reports,
            AckRequest.rank]
      · cases h

end LineMove

/-! ### The invariant of the line -/

/-- What holds of the acks of a job. -/
structure AckInv (id : ℤ) (w : World E) : Prop where
  /-- Only a journaled job is reported. -/
  journaled : ∀ a ∈ w.line.filter (fun a => a.reports id), id ∈ w.log.journaled
  /-- The row is as far as any ack says. -/
  reached : ∀ a ∈ w.line.filter (fun a => a.reports id), ∀ e, w.journal.get id = some e →
    a.rank ≤ e.state.rank
  sorted : (w.line.filter fun a => a.reports id).Pairwise fun a b => a.rank ≤ b.rank
  /-- A final ack is that of the row. -/
  said : ∀ a ∈ w.line.filter (fun a => a.reports id), a.isFinal = true →
    ∀ e, w.journal.get id = some e → e.finalAck = a
  same : ∀ a ∈ w.line.filter (fun a => a.reports id),
    ∀ b ∈ w.line.filter (fun a => a.reports id),
      a.isFinal = true → b.isFinal = true → a = b

/-- New rows under an unchanged line. -/
lemma AckInv.rows {id : ℤ} {w w' : World E} (h : AckInv id w) (heff : JobsEffect w w')
    (hfresh : w.journal.get id = none → w'.journal.get id ≠ none → id ∉ w.log.journaled)
    (hline : (w'.line.filter fun a => a.reports id).Sublist
      (w.line.filter fun a => a.reports id)) : AckInv id w' := by
  have hsub : ∀ a ∈ w'.line.filter (fun a => a.reports id),
      a ∈ w.line.filter (fun a => a.reports id) := fun a ha => hline.subset ha
  -- a row under an ack is a later row: it was not added in this step
  have hrow : ∀ a ∈ w.line.filter (fun a => a.reports id), ∀ e', w'.journal.get id = some e' →
      ∃ e, w.journal.get id = some e ∧ RowLater e e' := by
    intro a ha e' he'
    cases he : w.journal.get id with
    | none => exact absurd (h.journaled a ha) (hfresh he (by rw [he']; simp))
    | some e => exact ⟨e, rfl, heff.rowLater he he'⟩
  have hjournaled : id ∈ w.log.journaled → id ∈ w'.log.journaled := by
    intro hmem
    cases heff with
    | later _ hj | executed _ _ _ _ hj | restarted _ hj => exact hj ▸ hmem
    | added _ _ _ hj => exact hj ▸ List.mem_cons_of_mem _ hmem
  refine ⟨fun a ha => hjournaled (h.journaled a (hsub a ha)), fun a ha e' he' => ?_,
    h.sorted.sublist hline, fun a ha hf e' he' => ?_,
    fun a ha b hb => h.same a (hsub a ha) b (hsub b hb)⟩
  · obtain ⟨e, he, hl⟩ := hrow a (hsub a ha) e' he'
    exact (h.reached a (hsub a ha) e he).trans hl.rank
  · obtain ⟨e, he, hl⟩ := hrow a (hsub a ha) e' he'
    have hreached := h.reached a (hsub a ha) e he
    rw [AckRequest.rank_of_isFinal hf] at hreached
    rw [hl.finalAck (JobState.isFinal_of_rank hreached)]
    exact h.said a (hsub a ha) hf e he

/-- New acks at the end of the line. -/
lemma AckInv.extend {id : ℤ} {w w' : World E} {law : Transition.Law (World E) (Event E)}
    (hreach : (source E timing).Reach law w) (h : AckInv id w) {new : List AckRequest}
    (hline : w'.line = w.line ++ new) (hnew : ∀ a ∈ new, Speaks w.journal a)
    (hj : w'.journal = w.journal) (hlog : w'.log.journaled = w.log.journaled) :
    AckInv id w' := by
  have hfilter : (w'.line.filter fun a => a.reports id) =
      (w.line.filter fun a => a.reports id) ++ new.filter fun a => a.reports id := by
    rw [hline, List.filter_append]
  -- a new ack of the job speaks of its row
  have hspeaks : ∀ b ∈ new.filter (fun a => a.reports id), ∃ e, w.journal.get id = some e ∧
      b.rank = e.state.rank ∧ (b.isFinal = true → e.finalAck = b) := by
    intro b hb
    rw [List.mem_filter] at hb
    have hid : b.jobId = id := by
      have := hb.2
      simp only [AckRequest.reports, Bool.and_eq_true, beq_iff_eq] at this
      exact this.1
    rw [← hid]
    exact (hnew b hb.1).2
  constructor
  · intro a ha
    rw [hlog]
    rw [hfilter, List.mem_append] at ha
    rcases ha with ha | ha
    · exact h.journaled a ha
    · obtain ⟨e, he, -⟩ := hspeaks a ha
      exact journaled_of_row hreach he
  · intro a ha e he
    rw [hj] at he
    rw [hfilter, List.mem_append] at ha
    rcases ha with ha | ha
    · exact h.reached a ha e he
    · obtain ⟨e₁, he₁, hr, -⟩ := hspeaks a ha
      rw [he] at he₁
      cases he₁
      exact hr.le
  · rw [hfilter, List.pairwise_append]
    refine ⟨h.sorted, ?_, ?_⟩
    · refine List.pairwise_of_forall_mem_list fun a ha b hb => ?_
      obtain ⟨e, he, hr, -⟩ := hspeaks a ha
      obtain ⟨e₁, he₁, hr₁, -⟩ := hspeaks b hb
      rw [he] at he₁
      cases he₁
      exact (hr.trans hr₁.symm).le
    · intro a ha b hb
      obtain ⟨e, he, hr, -⟩ := hspeaks b hb
      exact (h.reached a ha e he).trans hr.symm.le
  · intro a ha hf e he
    rw [hj] at he
    rw [hfilter, List.mem_append] at ha
    rcases ha with ha | ha
    · exact h.said a ha hf e he
    · obtain ⟨e₁, he₁, -, hfin⟩ := hspeaks a ha
      rw [he] at he₁
      cases he₁
      exact hfin hf
  · -- an old final ack is that of the row, and so is a new one
    have hold : ∀ a ∈ w.line.filter (fun a => a.reports id),
        ∀ b ∈ new.filter (fun a => a.reports id), a.isFinal = true → b.isFinal = true →
          a = b := by
      intro a ha b hb hfa hfb
      obtain ⟨e, he, -, hfin⟩ := hspeaks b hb
      exact (h.said a ha hfa e he).symm.trans (hfin hfb)
    intro a ha b hb hfa hfb
    rw [hfilter, List.mem_append] at ha hb
    rcases ha with ha | ha <;> rcases hb with hb | hb
    · exact h.same a ha b hb hfa hfb
    · exact hold a ha b hb hfa hfb
    · exact (hold b hb a ha hfb hfa).symm
    · obtain ⟨e, he, -, hfin⟩ := hspeaks a ha
      obtain ⟨e₁, he₁, -, hfin₁⟩ := hspeaks b hb
      rw [he] at he₁
      cases he₁
      exact (hfin hfa).symm.trans (hfin₁ hfb)

lemma ackInv_of_reach {id : ℤ} {w : World E}
    (h : (source E timing).Reach (NotReissued id) w) : AckInv id w := by
  refine h.invariant (P := AckInv id) ?_ ?_
  · have hnil : ((source E timing).init.line.filter fun a => a.reports id) = [] := rfl
    constructor <;> simp [hnil]
  · intro a ev b ha ih hstep hlaw
    cases LineMove.of_step hstep with
    | kept hline => exact ih.rows (Shape.of_step hstep).jobs hlaw (hline id)
    | read new hline hnew hj hlog => exact ih.extend ha hline hnew hj hlog

/-! ### A final job stays owed -/

/-- The ack sender's ack in hand and those it read. -/
def AckerPc.held : AckerPc → List AckRequest
  | idle => []
  | second acks | flush acks => acks
  | waiting ack rest | mark ack _ rest => ack :: rest

/-- The jobs whose final ack or report counts as answered were so before. -/
def AckedBefore (j j' : Journal) : Prop :=
  ∀ id e', j'.get id = some e' → e'.state.isFinal = true → e'.acked = true →
    ∃ e, j.get id = some e ∧ e.state.isFinal = true ∧ e.acked = true

namespace AckedBefore

variable {j j' : Journal} {now : Time}

lemma of_get_eq (h : ∀ id, j'.get id = j.get id) : AckedBefore j j' :=
  fun id e' he' hf ha => ⟨e', h id ▸ he', hf, ha⟩

lemma of_map {f : ℤ → JournalEntry → JournalEntry}
    (hf : ∀ id e, (f id e).state.isFinal = true → (f id e).acked = true →
      e.state.isFinal = true ∧ e.acked = true)
    (h : ∀ id, j'.get id = (j.get id).map (f id)) : AckedBefore j j' := by
  intro id e' he' hfin hack
  rw [h, Option.map_eq_some_iff] at he'
  obtain ⟨e, he, rfl⟩ := he'
  exact ⟨e, he, hf id e hfin hack⟩

/-- No statement but the acceptance of an ack makes a final row count as accepted. -/
lemma of_apply {t : JobTable} {op : RowOp} {e : JournalEntry}
    (hop : ∀ note, op ≠ .markAcked note ∧ op ≠ .markLanReported note)
    (hf : (op.apply t now e).state.isFinal = true) (ha : (op.apply t now e).acked = true) :
    e.state.isFinal = true ∧ e.acked = true := by
  unfold RowOp.apply at hf ha
  split at hf
  · rename_i hg
    simp only [hg, if_true] at ha
    cases op with
    | recordOutcome o =>
      exfalso
      cases o <;> cases t <;>
        simp [RowOp.set, JobTable.oweOutcome, JobTable.oweUnknown] at ha hf
    | startExecution => simp [RowOp.set] at hf
    | failUnstarted code text =>
      exfalso
      cases t <;> simp [RowOp.set, JobTable.oweOutcome] at ha
    | recordStillUnknown reason =>
      cases t <;> exact ⟨hf, ha⟩
    | markDeviceContact | markReported | cardContact => exact ⟨hf, ha⟩
    | reopenAck => simp [RowOp.set] at ha
    | markAcked note => exact absurd rfl (hop note).1
    | markLanReported note => exact absurd rfl (hop note).2
  · rename_i hg
    simp only [hg] at ha
    exact ⟨hf, ha⟩

lemma updateRow (jobId : ℤ) {op : RowOp}
    (hop : ∀ note, op ≠ .markAcked note ∧ op ≠ .markLanReported note) :
    AckedBefore j (j.updateRow now jobId op).2 :=
  of_map (fun id e hf ha => by
    split at hf
    · rename_i hid
      simp only [hid, if_true] at ha
      exact of_apply hop hf ha
    · rename_i hid
      simp only [hid, if_false] at ha
      exact ⟨hf, ha⟩) (Journal.get_updateRow j now jobId op)

lemma updateOdoo (row : ℤ) {op : RowOp}
    (hop : ∀ note, op ≠ .markAcked note ∧ op ≠ .markLanReported note) :
    AckedBefore j (j.updateOdoo now row op).2 :=
  of_map (fun id e hf ha => by
    split at hf
    · rename_i hid
      rw [if_pos hid] at ha
      exact of_apply hop hf ha
    · rename_i hid
      simp only [hid, if_false] at ha
      exact ⟨hf, ha⟩) (Journal.get_updateOdoo j now row op)

lemma of_marks (h : ExecutorMarks j j') : AckedBefore j j' := by
  intro id e' he' hf ha
  rcases h.rows id with ⟨-, h2⟩ | ⟨e, c, u, h1, h2, -⟩
  · rw [h2] at he'
    cases he'
  · rw [h2] at he'
    cases he'
    exact ⟨e, h1, hf, ha⟩

lemma of_added {id₀ : ℤ} {e₀ : JournalEntry} (h : RowAdded j j' id₀ e₀)
    (h₀ : e₀.acked = false) : AckedBefore j j' := by
  intro id e' he' hf ha
  rw [h.2] at he'
  split at he'
  · cases he'
    rw [h₀] at ha
    cases ha
  · exact ⟨e', he', hf, ha⟩

end AckedBefore

/-- A step leaves the answered acks and reports as they are, unless the ack sender journals an
answer to a final ack, or the reporter one to a report. -/
lemma Shape.ackedBefore {w w' : World E} {event : Event E}
    (h : Shape timing w event w') :
    AckedBefore w.journal w'.journal ∨
      (∃ ack note rest, w.proc.acker = .mark ack note rest ∧
        (ack.isFinal = true ∨ ack = .notReceived ack.jobId) ∧
        w'.journal = (w.journal.updateOdoo w.clock ack.jobId (.markAcked note)).2) ∨
      ∃ job odooJobId note rest, w.proc.reporter = .mark job odooJobId note rest ∧
        w'.journal = (w.journal.markLanReported w.clock job.jobId odooJobId note).2 := by
  have hne : ∀ op : RowOp, (∀ note, op ≠ .markAcked note) → (∀ note, op ≠ .markLanReported note) →
      ∀ note, op ≠ .markAcked note ∧ op ≠ .markLanReported note :=
    fun op h1 h2 note => ⟨h1 note, h2 note⟩
  have hrecord : ∀ (jobId : ℤ) (o : Outcome),
      AckedBefore w.journal (w.journal.recordOutcome w.clock jobId o).2 :=
    fun jobId o => AckedBefore.updateRow jobId (hne _ (by simp) (by simp))
  have hwrite : ∀ (v : World E) (ok : Bool) (j : Journal), v.journal = w.journal →
      AckedBefore w.journal j → AckedBefore w.journal (v.write ok j).journal := by
    intro v ok j hv hj
    cases ok
    · exact AckedBefore.of_get_eq fun _ => by rw [← hv]; rfl
    · exact hj
  cases h with
  | quiet f hj => exact Or.inl (AckedBefore.of_get_eq fun _ => by rw [hj])
  | clock t h | dev e dev hev he h | crash h =>
    subst h
    exact Or.inl (AckedBefore.of_get_eq fun _ => rfl)
  | reconcile q jobId rest entry hpc hq hrow hstate h =>
    subst h
    exact Or.inl (AckedBefore.of_get_eq fun _ => rfl)
  | detached q job task startedAt hpc hguard h =>
    subst h
    exact Or.inl (AckedBefore.of_get_eq fun _ => rfl)
  | inserted job refused f hnew hj hcheck hnext =>
    have hadd := RowAdded.insert hnew
    rw [← hj] at hadd
    exact Or.inl (AckedBefore.of_added hadd rfl)
  | lanInserted job jobId f hj =>
    rcases Journal.get_insertLanReceived hj with ⟨id, hid, -, -, hnone, hget⟩ | ⟨⟨k, hk⟩, -⟩
    · exact Or.inl (AckedBefore.of_added ⟨hnone, hget⟩ rfl)
    · cases hk
  | expired f jobId text hpc hj =>
    rw [hj]
    exact Or.inl (AckedBefore.updateRow jobId (hne _ (by simp) (by simp)))
  | noWorker f jobId code text henq hj =>
    rw [hj]
    exact Or.inl (hrecord _ _)
  | guarded f q task job hcall hguard reason hj =>
    rw [hj]
    exact Or.inl (hrecord _ _)
  | noted f jobId reason hj =>
    rw [hj]
    exact Or.inl (AckedBefore.updateRow jobId (hne _ (by simp) (by simp)))
  | acked f jobId op hop hj =>
    rcases hop with rfl | rfl | ⟨ack, note, rest, rfl, hpc, rfl, hack⟩
    · rw [hj]
      exact Or.inl (AckedBefore.updateOdoo jobId (hne _ (by simp) (by simp)))
    · rw [hj]
      exact Or.inl (AckedBefore.updateOdoo jobId (hne _ (by simp) (by simp)))
    · exact Or.inr (Or.inl ⟨ack, note, rest, hpc, hack, hj⟩)
  | authAcked f jobId note hj =>
    rw [hj]
    exact Or.inl (AckedBefore.of_get_eq fun _ => rfl)
  | reported f jobId odooJobId note hj hpc =>
    obtain ⟨job, rest, hmark, rfl⟩ := hpc
    exact Or.inr (Or.inr ⟨job, odooJobId, note, rest, hmark, hj⟩)
  | execute q entry queuedAt hpc hrow h =>
    subst h
    exact Or.inl (AckedBefore.updateRow _ (hne _ (by simp) (by simp)))
  | joined q job task startedAt guarded t outcome ok hpc htask hout h =>
    subst h
    exact Or.inl (hwrite (w.joined task) ok _ rfl (hrecord _ _))
  | answered q entry task t answer ok hpc htask hout h =>
    subst h
    refine Or.inl (hwrite (w.joined task) ok _ rfl ?_)
    cases answer with
    | done _ | failed _ _ => exact hrecord _ _
    | stillUnknown _ => exact AckedBefore.updateRow _ (hne _ (by simp) (by simp))
  | task i e t t' s hev htask hstep h =>
    subst h
    exact Or.inl (AckedBefore.of_marks (E.step_marks hstep))
  | start n hup h =>
    subst h
    refine Or.inl fun id e' he' hf ha => ?_
    rcases Journal.prune_pruned (w.journal.recoverAfterRestart w.clock) w.clock n id with
      hk | ⟨hk, -⟩
    · have he : (w.journal.recoverAfterRestart w.clock).get id = some e' := hk ▸ he'
      rw [Journal.get_recoverAfterRestart, Option.map_eq_some_iff] at he
      obtain ⟨e, he, rfl⟩ := he
      unfold recoverRow at hf ha
      split at hf
      · simp at hf
      · rename_i hs
        simp only [hs, if_false] at ha
        exact ⟨e, he, hf, ha⟩
    · exact absurd (hk.symm.trans he') (by simp)

/-- What holds of the acks in the ack sender's hand. -/
structure AnsweredInv (w : World E) : Prop where
  /-- The ack whose answer is journaled next was answered. -/
  marked : ∀ ack note rest, w.proc.acker = .mark ack note rest → ack ∈ w.log.answered
  reports : ∀ a ∈ w.proc.acker.held, a.rank ≠ 0
  /-- A final ack that counts as accepted was answered. -/
  acked : ∀ id e, 0 < id → w.journal.get id = some e → e.state.isFinal = true →
    e.acked = true → ∃ a ∈ w.log.answered, a.isFinal = true ∧ a.jobId = id

/-- What a step does to the acks in hand and the answers. -/
structure HeldMove (w w' : World E) : Prop where
  answered : ∀ a ∈ w.log.answered, a ∈ w'.log.answered
  marked : ∀ ack note rest, w'.proc.acker = .mark ack note rest →
    w.proc.acker = .mark ack note rest ∨ ack ∈ w'.log.answered
  held : ∀ a ∈ w'.proc.acker.held, a ∈ w.proc.acker.held ∨ Speaks w.journal a

namespace HeldMove

variable {w w' : World E}

lemma of_acker (h₁ : w'.proc.acker = w.proc.acker) (h₂ : w'.log.answered = w.log.answered) :
    HeldMove w w' :=
  ⟨fun _ ha => h₂ ▸ ha, fun _ _ _ h => Or.inl (h₁ ▸ h), fun _ ha => Or.inl (h₁ ▸ ha)⟩

lemma of_idle (h₁ : w'.proc.acker = .idle) (h₂ : w'.log.answered = w.log.answered) :
    HeldMove w w' where
  answered a ha := h₂ ▸ ha
  marked ack note rest h := by
    rw [h₁] at h
    cases h
  held a ha := by
    rw [h₁] at ha
    cases ha

/-- A step that marks nothing. -/
lemma of_flush {pc : AckerPc} (h₁ : w'.proc.acker = pc)
    (hpc : ∀ ack note rest, pc ≠ .mark ack note rest)
    (h₂ : w'.log.answered = w.log.answered)
    (hheld : ∀ a ∈ pc.held, a ∈ w.proc.acker.held ∨ Speaks w.journal a) : HeldMove w w' where
  answered _ ha := h₂ ▸ ha
  marked ack note rest h := absurd (h₁ ▸ h) (hpc ack note rest)
  held _ ha := hheld _ (h₁ ▸ ha)

/-- An ack was answered. -/
lemma of_mark {ack : AckRequest} {note : String} {rest : List AckRequest}
    (h₁ : w'.proc.acker = .mark ack note rest)
    (h₂ : w'.log.answered = ack :: w.log.answered)
    (hheld : ∀ a ∈ ack :: rest, a ∈ w.proc.acker.held) : HeldMove w w' where
  answered a ha := h₂ ▸ List.mem_cons_of_mem _ ha
  marked ack' note' rest' h := by
    rw [h₁] at h
    cases h
    exact Or.inr (h₂ ▸ List.mem_cons_self)
  held a ha := by
    rw [h₁] at ha
    exact Or.inl (hheld a ha)

lemma of_ackerStep {e : AckerEvent} (h : w.ackerStep e = some w') : HeldMove w w' := by
  unfold World.ackerStep at h
  split at h
  · cases h
    exact of_flush rfl (fun _ _ _ h => nomatch h) rfl fun a ha =>
      Or.inr (speaks_of_owedCardAuthAcks ha)
  · rename_i acks hpc
    cases h
    refine of_flush rfl (fun _ _ _ h => nomatch h) rfl fun a ha => ?_
    rcases List.mem_append.mp ha with ha | ha
    · exact Or.inl (by rw [hpc]; exact ha)
    · exact Or.inr (speaks_of_owedJobAcks ha)
  · cases h
    exact of_idle rfl rfl
  · rename_i ack rest hpc
    cases h
    exact of_flush rfl (fun _ _ _ h => nomatch h) rfl fun a ha => Or.inl (by rw [hpc]; exact ha)
  · rename_i ack rest answer hpc
    have hheld : ∀ a ∈ ack :: rest, a ∈ w.proc.acker.held := fun a ha => by
      rw [hpc]; exact ha
    simp only at h
    split at h
    · cases h
      exact of_mark rfl rfl hheld
    · split at h
      · cases h
        exact of_mark rfl rfl hheld
      · split at h
        · cases h
          exact of_idle rfl rfl
        · cases h
          exact of_flush rfl (fun _ _ _ h => nomatch h) rfl fun a ha =>
            Or.inl (hheld a (List.mem_cons_of_mem _ ha))
  · rename_i ack note rest ok hpc
    split at h
    · cases h
      exact of_flush rfl (fun _ _ _ h => nomatch h) rfl fun a ha =>
        Or.inl (by rw [hpc]; exact List.mem_cons_of_mem _ ha)
    · cases h
      exact of_idle rfl rfl
  · cases h
    exact of_idle rfl rfl
  · cases h
    exact of_idle rfl rfl
  · cases h

lemma of_step {e : Event E} (h : w.step timing e = some w') : HeldMove w w' := by
  cases ht : World.talks e with
  | false =>
    have htalk := World.talk_of_step ht h
    simp only [World.talk, Prod.mk.injEq] at htalk
    exact of_acker htalk.2.1 htalk.2.2.2.2
  | true =>
    cases e with
    | clock _ | elapse _ | dev _ | lan _ _ | worker _ _ | reconciler _ | reporter _
    | task _ _ => cases ht
    | crash =>
      simp only [World.step] at h
      split at h <;> cases h
      exact of_idle rfl rfl
    | start n =>
      simp only [World.step] at h
      split at h <;> cases h
      exact of_idle rfl rfl
    | odoo e =>
      have ho := World.acker_of_odooStep h
      exact of_acker ho.1 ho.2.2.1
    | acker e =>
      simp only [World.step] at h
      split at h
      · exact of_ackerStep h
      · cases h
    | control e =>
      simp only [World.step] at h
      split at h
      · have hc := World.acker_of_controlStep h
        exact of_acker hc.1 hc.2.1
      · cases h

end HeldMove

lemma answeredInv_of_reach {law : Transition.Law (World E) (Event E)} {w : World E}
    (h : (source E timing).Reach law w) : AnsweredInv w := by
  refine h.invariant (P := AnsweredInv) ?_ ?_
  · refine ⟨fun _ _ _ h => (nomatch h), fun _ h => (nomatch h), fun id e _ he => ?_⟩
    rw [show (source E timing).init.journal = Journal.empty E.readFloat from rfl,
      Journal.get_empty] at he
    cases he
  · intro a ev b _ ih hstep _
    have hmove := HeldMove.of_step hstep
    refine ⟨fun ack note rest hpc => ?_, fun x hx => ?_, fun id e hid he hf hacked => ?_⟩
    · rcases hmove.marked ack note rest hpc with hold | hnew
      · exact hmove.answered _ (ih.marked ack note rest hold)
      · exact hnew
    · rcases hmove.held x hx with hold | hnew
      · exact ih.reports x hold
      · exact hnew.1
    · have hbefore : ∀ e₀, a.journal.get id = some e₀ → e₀.state.isFinal = true →
          e₀.acked = true → ∃ x ∈ b.log.answered, x.isFinal = true ∧ x.jobId = id := by
        intro e₀ he₀ hf₀ ha₀
        obtain ⟨x, hx, hxf, hxid⟩ := ih.acked id e₀ hid he₀ hf₀ ha₀
        exact ⟨x, hmove.answered x hx, hxf, hxid⟩
      rcases (Shape.of_step hstep).ackedBefore with hb | ⟨ack, note, rest, hpc, hack, hj⟩ |
        ⟨job, odooJobId, note, rest, -, hj⟩
      · obtain ⟨e₀, he₀, hf₀, ha₀⟩ := hb id e he hf hacked
        exact hbefore e₀ he₀ hf₀ ha₀
      · -- the answer that is journaled is one to a final ack of this job, or the row is
        -- another job's
        rw [hj, Journal.get_updateOdoo, Option.map_eq_some_iff] at he
        obtain ⟨e₀, he₀, heq⟩ := he
        by_cases hrow : id = ack.jobId
        · have hfinal : ack.isFinal = true := by
            rcases hack with hack | hack
            · exact hack
            · have hspeaks := ih.reports ack (by rw [hpc]; exact List.mem_cons_self)
              exact absurd (by rw [hack]; rfl) hspeaks
          exact ⟨ack, hmove.answered _ (ih.marked ack note rest hpc), hfinal, hrow.symm⟩
        · rw [if_neg (by tauto)] at heq
          subst heq
          exact hbefore e₀ he₀ hf hacked
      · -- a report is about a LAN job
        rw [hj, Journal.get_markLanReported, Option.map_eq_some_iff] at he
        obtain ⟨e₀, he₀, heq⟩ := he
        rw [if_neg (by omega)] at heq
        subst heq
        exact hbefore e₀ he₀ hf hacked

/-- The ack sender sends what it holds. -/
lemma acks_of_ackerStep {w w' : World E} {e : AckerEvent} (h : w.ackerStep e = some w') :
    w'.log.acks = w.log.acks ∨ ∃ a ∈ w.proc.acker.held, w'.log.acks = a :: w.log.acks := by
  unfold World.ackerStep at h
  split at h
  · cases h; exact Or.inl rfl
  · cases h; exact Or.inl rfl
  · cases h; exact Or.inl rfl
  · rename_i ack rest hpc
    cases h
    exact Or.inr ⟨ack, by rw [hpc]; exact List.mem_cons_self, rfl⟩
  · simp only at h
    split at h
    · cases h; exact Or.inl rfl
    · split at h
      · cases h; exact Or.inl rfl
      · split at h <;> (cases h; exact Or.inl rfl)
  · split at h <;> (cases h; exact Or.inl rfl)
  · cases h; exact Or.inl rfl
  · cases h; exact Or.inl rfl
  · cases h

/-! ### The acks of a job -/

/-- However the tasks are ordered, as long as every further hand-over of a job finds its row:
the acks of the job go `authorized`, `indeterminate`, final; the final ones are all the same;
and a final job is owed its ack until a final ack of it was answered. -/
theorem acks_ordered (E : Executor) (timing : Timing) (id : ℤ) {w : World E}
    (h : (source E timing).Reach (NotReissued id) w) :
    (w.acksOf id).Pairwise (fun a b => a.rank ≤ b.rank) ∧
    (∀ a ∈ w.acksOf id, ∀ b ∈ w.acksOf id, a.isFinal = true → b.isFinal = true → a = b) ∧
    (0 < id → ∀ e, w.journal.get id = some e → e.state.isFinal = true →
      e.finalAck ∈ w.journal.owedJobAcks ∨
        ∃ a ∈ w.log.answered, a.isFinal = true ∧ a.jobId = id) := by
  have hinv := ackInv_of_reach h
  have hsub : (w.acksOf id).Sublist (w.line.filter fun a => a.reports id) := by
    rw [World.acksOf, World.line, List.filter_append]
    exact List.sublist_append_left _ _
  refine ⟨hinv.sorted.sublist hsub, fun a ha b hb => hinv.same a (hsub.subset ha) b
    (hsub.subset hb), fun hid e he hf => ?_⟩
  cases hacked : e.acked with
  | false =>
    rw [Journal.get_of_odoo w.journal hid.le] at he
    exact Or.inl (finalAck_owed he hf hacked)
  | true => exact Or.inr ((answeredInv_of_reach h).acked id e hid he hf hacked)

/-- No dropped row is handed out again, as a test. -/
def notReissuedTest (id : ℤ) (w : World E) (_ : Event E) (w' : World E) : Bool :=
  (w.journal.get id).isSome || (w'.journal.get id).isNone || !decide (id ∈ w.log.journaled)

lemma notReissued_of_test {id : ℤ} {w w' : World E} {e : Event E}
    (h : notReissuedTest id w e w' = true) : NotReissued id w e w' := by
  intro hnone hsome
  cases hw' : w'.journal.get id with
  | none => exact absurd hw' hsome
  | some e' => simpa [notReissuedTest, hnone, hw'] using h

/-- A crashed job is reconciled and its ack accepted; then Odoo hands the job out again, and
its ack is sent again. -/
def runWithTwoAcks (id : ℤ) : List (Event Executor.prompt) :=
  let q : DeviceQueue := ⟨.fiscal, ""⟩
  let accepted : Reply := .ok (.obj [("ok", .bool true)])
  let round : List (Event Executor.prompt) :=
    [.acker .begin, .acker .readJobs, .acker .send, .acker (.reply accepted),
      .acker (.mark true), .acker .send]
  runUntilCrash id ++ [.start 4, .reconciler .begin, .reconciler .readLan,
    .reconciler (.schedule true true), .worker q (.take true), .worker q (.join true)] ++ round ++
    [.control .poll, .odoo (.answerPending (replyWithPending [])), .control (.arrive true),
      .control (.entry true), .control .poll,
      .odoo (.answerNext (replyWithJob id "fiscal.open_drawer")), .control (.arrive true),
      .control (.reopen true)] ++ round

/-- Job 7 was acked twice, with one and the same final ack. -/
theorem acks_ordered_again :
    ∃ w, (source Executor.prompt Timing.default).Reach (NotReissued 7) w ∧
      (w.acksOf 7).map AckRequest.rank = [3, 3] ∧
      (w.acksOf 7).Pairwise (fun a b => a.rank ≤ b.rank) ∧
      ∃ a ∈ w.log.answered, a.isFinal = true ∧ a.jobId = 7 := by
  obtain ⟨w, hreach, hw⟩ := Transition.reach_of_tests
    (source Executor.prompt Timing.default) (NotReissued 7) (runWithTwoAcks 7)
    (fun w => (w.acksOf 7).map AckRequest.rank = [3, 3] &&
      (w.journal.get 7).any fun e => e.state.isFinal && e.finalAck ∉ w.journal.owedJobAcks)
    (fun _ _ _ => notReissued_of_test) (by decide +kernel) (by decide +kernel)
  simp only [Bool.and_eq_true, decide_eq_true_eq, Option.any_eq_true] at hw
  obtain ⟨hranks, e, he, hf, hnot⟩ := hw
  have hmain := acks_ordered Executor.prompt Timing.default 7 hreach
  refine ⟨w, hreach, hranks, hmain.1, ?_⟩
  rcases hmain.2.2 (by decide) e he hf with howed | hans
  · exact absurd howed hnot
  · exact hans

end DevBridge

import DevBridge.Journal.Runs

/-!
# Pruning and what Odoo is owed

Odoo lists a job, or hands it out again, until it has accepted its final answer.  A book kept
beside the journal says for each id whether such an answer is still open, by what the
operations report: a new row opens it, an accepted ack or report settles it, a refusal or a
reopened ack opens it again.  While an answer is open, no `prune` takes the row of its job, at
whatever moment it comes.
-/

namespace DevBridge

/-- What Odoo is owed about a job id. -/
inductive Obligation where
  /-- The id was never journaled. -/
  | unheard
  /-- No final answer was accepted, or the last one was refused or reopened. -/
  | owed
  | settled
deriving DecidableEq, Repr

/-- What an answer of Odoo with this note leaves. -/
def Obligation.ofNote (note : String) : Obligation :=
  if isRefusedNote note then .owed else .settled

/-- The book after an operation, by what the operation answers its caller. -/
def JournalOp.enter (now : Time) (op : JournalOp) (j : Journal) (book : ℤ → Obligation) :
    ℤ → Obligation :=
  match op with
  | insertReceived job =>
    if (j.insertReceived now job).1 = .new then Function.update book job.job.id .owed else book
  | insertRefused job code text =>
    if (j.insertRefused now job code text).1 = .new then Function.update book job.job.id .owed
    else book
  | insertLanReceived job =>
    match j.insertLanReceived now job with
    | some (.new id, _) => Function.update book id .owed
    | _ => book
  | markAcked id note =>
    if (j.markAcked now id note).1 then Function.update book id (.ofNote note) else book
  | markLanReported id odooJobId note =>
    if (j.markLanReported now id odooJobId note).1 then Function.update book id (.ofNote note)
    else book
  | reopenAck id => if (j.reopenAck now id).1 then Function.update book id .owed else book
  | _ => book

/-- A journal with its book. -/
structure BookedJournal where
  journal : Journal
  book : ℤ → Obligation

/-- The journal under any operations in any order, with the book kept beside it. -/
def bookedRuns (readFloat : Number → Number) : Transition BookedJournal (Time × JournalOp) where
  init := ⟨Journal.empty readFloat, fun _ => .unheard⟩
  step s e := some ⟨e.2.run e.1 s.journal, e.2.enter e.1 s.journal s.book⟩

/-! ### Rows and the book -/

/-- The final answer of the row was accepted. -/
def JournalEntry.accepted (e : JournalEntry) : Bool :=
  e.acked && !e.ackNote.any isRefusedNote

/-- A row is known to the book, and one whose answer was accepted is settled. -/
structure Fair (b : Obligation) (e : JournalEntry) : Prop where
  heard : b ≠ .unheard
  accepted : e.accepted = true → b = .settled

/-- What holds of the journal and its book in every run. -/
structure BookSound (s : BookedJournal) : Prop where
  rows : ∀ id e, s.journal.get id = some e → Fair (s.book id) e
  owed : ∀ id, s.book id = .owed → ∃ e, s.journal.get id = some e
  cards : ∀ id c, s.journal.cardPayments.get? id = some c → 0 < id ∧ s.book id ≠ .unheard

/-- An operation on rows that exist. -/
lemma BookSound.of_map {s s' : BookedJournal} (h : BookSound s)
    {f : ℤ → JournalEntry → JournalEntry}
    (hget : ∀ id, s'.journal.get id = (s.journal.get id).map (f id))
    (hfair : ∀ id e, s.journal.get id = some e → Fair (s.book id) e →
      Fair (s'.book id) (f id e))
    (hmissing : ∀ id, s.journal.get id = none → s'.book id = s.book id)
    (hcards : ∀ id c', s'.journal.cardPayments.get? id = some c' →
      (∃ c, s.journal.cardPayments.get? id = some c) ∨
        0 < id ∧ ∃ e, s.journal.get id = some e) : BookSound s' := by
  have hknown : ∀ id e, s.journal.get id = some e → Fair (s'.book id) (f id e) :=
    fun id e he => hfair id e he (h.rows id e he)
  refine ⟨fun id e' he' => ?_, fun id hid => ?_, fun id c' hc' => ?_⟩
  · rw [hget, Option.map_eq_some_iff] at he'
    obtain ⟨e, he, rfl⟩ := he'
    exact hknown id e he
  · cases he : s.journal.get id with
    | none =>
      obtain ⟨e, he'⟩ := h.owed id ((hmissing id he).symm.trans hid)
      rw [he] at he'
      cases he'
    | some e => exact ⟨f id e, by rw [hget, he]; rfl⟩
  · have hpos : 0 < id := by
      rcases hcards id c' hc' with ⟨c, hc⟩ | ⟨hpos, -⟩
      · exact (h.cards id c hc).1
      · exact hpos
    refine ⟨hpos, ?_⟩
    cases he : s.journal.get id with
    | some e => exact (hknown id e he).heard
    | none =>
      rw [hmissing id he]
      rcases hcards id c' hc' with ⟨c, hc⟩ | ⟨-, e, he'⟩
      · exact (h.cards id c hc).2
      · rw [he] at he'
        cases he'

/-- An operation on the row of one job, which the book follows. -/
lemma BookSound.of_row {s : BookedJournal} (h : BookSound s) (row : ℤ) {j' : Journal}
    {p : JournalEntry → Bool} {g : JournalEntry → JournalEntry} {b : Obligation} {changed : Bool}
    (hget : ∀ id, j'.get id = (s.journal.get id).map fun e => if id = row ∧ p e then g e else e)
    (hchanged : changed = (s.journal.get row).any p)
    (hb : ∀ e, p e = true → Fair (s.book row) e → Fair b (g e))
    (hcards : j'.cardPayments = s.journal.cardPayments) :
    BookSound ⟨j', if changed then Function.update s.book row b else s.book⟩ := by
  refine h.of_map hget ?_ ?_ fun id c' hc' => Or.inl ⟨c', hcards ▸ hc'⟩
  · intro id e he hf
    by_cases hid : id = row
    · subst hid
      rw [he, Option.any_some] at hchanged
      cases hp : p e with
      | true => simpa [hchanged, hp] using hb e hp hf
      | false => simpa [hchanged, hp] using hf
    · have hbook : (if changed then Function.update s.book row b else s.book) id = s.book id := by
        split
        · exact Function.update_of_ne hid _ _
        · rfl
      change Fair ((if changed then Function.update s.book row b else s.book) id) _
      rw [hbook, if_neg (fun hc => hid hc.1)]
      exact hf
  · intro id he
    by_cases hid : id = row
    · subst hid
      simp [hchanged, he]
    · split
      · exact Function.update_of_ne hid _ _
      · rfl

/-- A new row, whose answer is open. -/
lemma BookSound.of_added {s : BookedJournal} (h : BookSound s) {j' : Journal} {id : ℤ}
    {e : JournalEntry} (hadd : RowAdded s.journal j' id e) (hopen : e.acked = false)
    (hcards : j'.cardPayments = s.journal.cardPayments) :
    BookSound ⟨j', Function.update s.book id .owed⟩ := by
  have hself : Function.update s.book id .owed id = .owed := Function.update_self _ _ _
  refine ⟨fun k e' he' => ?_, fun k hk => ?_, fun k c hc => ?_⟩
  · rw [hadd.2] at he'
    split at he'
    · rename_i hk
      cases he'
      subst hk
      exact ⟨by simp, by simp [JournalEntry.accepted, hopen]⟩
    · rename_i hk
      simp only [Function.update_of_ne hk]
      exact h.rows k e' he'
  · by_cases hid : k = id
    · exact ⟨e, by rw [hadd.2, if_pos hid]⟩
    · simp only [Function.update_of_ne hid] at hk
      obtain ⟨e', he'⟩ := h.owed k hk
      exact ⟨e', by rw [hadd.2, if_neg hid, he']⟩
  · by_cases hid : k = id
    · subst hid
      exact ⟨(h.cards k c (hcards ▸ hc)).1, by simp⟩
    · simp only [Function.update_of_ne hid]
      exact h.cards k c (hcards ▸ hc)

/-! ### Operations that leave the answers alone -/

/-- A statement accepts no answer. -/
lemma accepted_apply {t : JobTable} {now : Time} {op : RowOp} {e : JournalEntry}
    (hacked : ∀ note, op ≠ .markAcked note) (hreported : ∀ note, op ≠ .markLanReported note)
    (h : (op.apply t now e).accepted = true) : e.accepted = true := by
  unfold RowOp.apply at h
  split at h
  · cases op with
    | markAcked note => exact absurd rfl (hacked note)
    | markLanReported note => exact absurd rfl (hreported note)
    | recordOutcome o =>
      cases o <;> cases t <;>
        simp_all [RowOp.set, JobTable.oweOutcome, JobTable.oweUnknown, JournalEntry.accepted]
    | startExecution | failUnstarted _ _ | markDeviceContact | recordStillUnknown _ | markReported
    | reopenAck | cardContact =>
      cases t <;>
        simp_all [RowOp.set, JobTable.oweOutcome, JobTable.oweUnknown, JournalEntry.accepted]
  · exact h

lemma accepted_recoverRow {now : Time} {e : JournalEntry}
    (h : (recoverRow now e).accepted = true) : e.accepted = true := by
  unfold recoverRow at h
  split at h <;> exact h

lemma Fair.of_accepted {b : Obligation} {e e' : JournalEntry} (h : Fair b e)
    (hacc : e'.accepted = true → e.accepted = true) : Fair b e' :=
  ⟨h.heard, fun ha => h.accepted (hacc ha)⟩

lemma BookSound.updateRow {s : BookedJournal} (h : BookSound s) (now : Time) (id : ℤ)
    {op : RowOp} (hacked : ∀ note, op ≠ .markAcked note)
    (hreported : ∀ note, op ≠ .markLanReported note) :
    BookSound ⟨(s.journal.updateRow now id op).2, s.book⟩ := by
  refine h.of_map (Journal.get_updateRow s.journal now id op) ?_ (fun _ _ => rfl) ?_
  · intro k e _ hf
    dsimp only
    split
    · exact hf.of_accepted (accepted_apply hacked hreported)
    · exact hf
  · intro k c hc
    refine Or.inl ⟨c, ?_⟩
    unfold Journal.updateRow at hc
    split at hc <;> exact hc

/-- An operation that changes neither jobs nor adds card rows. -/
lemma BookSound.of_get_eq {s : BookedJournal} (h : BookSound s) {j' : Journal}
    (hget : ∀ id, j'.get id = s.journal.get id)
    (hcards : ∀ id c', j'.cardPayments.get? id = some c' →
      ∃ c, s.journal.cardPayments.get? id = some c) : BookSound ⟨j', s.book⟩ :=
  h.of_map (f := fun _ e => e) (fun id => by simp [hget]) (fun _ _ _ hf => hf) (fun _ _ => rfl)
    fun id c' hc' => Or.inl (hcards id c' hc')

lemma BookSound.updateCard {s : BookedJournal} (h : BookSound s) (id : ℤ)
    (guard : CardPayment → Bool) (set : CardPayment → CardPayment) :
    BookSound ⟨(s.journal.updateCard id guard set).2, s.book⟩ := by
  refine h.of_get_eq (fun _ => rfl) fun k c' hc' => ?_
  simp only [Journal.updateCard, Table.get?_update, Option.map_eq_some_iff] at hc'
  obtain ⟨c, hc, -⟩ := hc'
  exact ⟨c, hc⟩

/-! ### Pruning -/

/-- What `prune` takes: job rows that are due, and card rows whose job row is gone.  What stays
is as it was. -/
structure Shrinks (now : Time) (j j' : Journal) : Prop where
  jobs : ∀ id, j'.deviceJobs.get? id = j.deviceJobs.get? id ∨
    j'.deviceJobs.get? id = none ∧ ∃ e, j.deviceJobs.get? id = some e ∧ pruned now e = true
  lanJobs : ∀ row, j'.lanJobs.get? row = j.lanJobs.get? row ∨
    j'.lanJobs.get? row = none ∧ ∃ r, j.lanJobs.get? row = some r ∧ pruned now r.entry = true
  cards : ∀ id, j'.cardPayments.get? id = j.cardPayments.get? id ∨
    j'.cardPayments.get? id = none ∧ j'.deviceJobs.get? id = none

namespace Shrinks

variable {now : Time}

lemma refl (j : Journal) : Shrinks now j j :=
  ⟨fun _ => Or.inl rfl, fun _ => Or.inl rfl, fun _ => Or.inl rfl⟩

lemma trans {a b c : Journal} (h : Shrinks now a b) (h' : Shrinks now b c) :
    Shrinks now a c where
  jobs id := by
    rcases h'.jobs id with hc | ⟨hc, e, he, hp⟩
    · rw [hc]
      exact h.jobs id
    · rcases h.jobs id with hb | ⟨hb, -⟩
      · exact Or.inr ⟨hc, e, hb ▸ he, hp⟩
      · rw [hb] at he
        cases he
  lanJobs row := by
    rcases h'.lanJobs row with hc | ⟨hc, r, hr, hp⟩
    · rw [hc]
      exact h.lanJobs row
    · rcases h.lanJobs row with hb | ⟨hb, -⟩
      · exact Or.inr ⟨hc, r, hb ▸ hr, hp⟩
      · rw [hb] at hr
        cases hr
  cards id := by
    rcases h'.cards id with hc | hc
    · rcases h.cards id with hb | ⟨hb, hjob⟩
      · exact Or.inl (hc.trans hb)
      · refine Or.inr ⟨hc.trans hb, ?_⟩
        rcases h'.jobs id with hj | ⟨hj, -⟩
        · exact hj.trans hjob
        · exact hj
    · exact Or.inr hc

/-- A table of which the rows that do not pass a test are gone. -/
lemma get?_keep_or {α : Type} (t : Table ℤ α) (p : ℤ → α → Bool) (k : ℤ) :
    (t.keep p).get? k = t.get? k ∨
      (t.keep p).get? k = none ∧ ∃ a, t.get? k = some a ∧ p k a = false := by
  rw [Table.get?_keep]
  cases h : t.get? k with
  | none => exact Or.inl rfl
  | some a =>
    cases hp : p k a with
    | true => exact Or.inl (by simp [Option.filter, hp])
    | false => exact Or.inr ⟨by simp [Option.filter, hp], a, rfl, hp⟩

lemma prune (j : Journal) (now : Time) (n : ℕ) : Shrinks now j (j.prune now n) := by
  refine Journal.prune_relates refl (fun _ _ _ => trans) ?_ j n
  intro s hs j
  simp only [Journal.pruneStatements, List.mem_cons, List.not_mem_nil, or_false] at hs
  rcases hs with rfl | rfl | rfl | rfl
  · refine ⟨fun id => ?_, fun _ => Or.inl rfl, fun _ => Or.inl rfl⟩
    refine (get?_keep_or j.deviceJobs _ id).imp_right ?_
    rintro ⟨hnone, e, he, hp⟩
    exact ⟨hnone, e, he, by simpa using hp⟩
  · refine ⟨fun _ => Or.inl rfl, fun row => ?_, fun _ => Or.inl rfl⟩
    refine (get?_keep_or j.lanJobs.table _ row).imp_right ?_
    rintro ⟨hnone, r, hr, hp⟩
    exact ⟨hnone, r, hr, by simpa using hp⟩
  · refine ⟨fun _ => Or.inl rfl, fun _ => Or.inl rfl, fun id => ?_⟩
    refine (get?_keep_or j.cardPayments _ id).imp_right ?_
    rintro ⟨hnone, c, hc, hp⟩
    have hjob : j.deviceJobs.get? id = none := by simpa using hp
    exact ⟨hnone, hjob⟩
  · exact ⟨fun _ => Or.inl rfl, fun _ => Or.inl rfl, fun _ => Or.inl rfl⟩

end Shrinks

/-- Only rows whose answer was accepted are due. -/
lemma accepted_of_pruned {now : Time} {e : JournalEntry} (h : pruned now e = true) :
    e.accepted = true := by
  simp only [pruned, Bool.and_eq_true] at h
  simp [JournalEntry.accepted, h.1.1.1, h.2]

lemma BookSound.prune {s : BookedJournal} (h : BookSound s) (now : Time) (n : ℕ) :
    BookSound ⟨s.journal.prune now n, s.book⟩ := by
  refine ⟨fun id e he => ?_, fun id hid => ?_, fun id c hc => ?_⟩
  · rcases Journal.prune_pruned s.journal now n id with hk | ⟨hk, -⟩
    · exact h.rows id e (hk.symm.trans he)
    · rw [hk] at he
      cases he
  · obtain ⟨e, he⟩ := h.owed id hid
    rcases Journal.prune_pruned s.journal now n id with hk | ⟨-, e', he', hp⟩
    · exact ⟨e, hk.trans he⟩
    · -- a row that goes is settled, and this one is not
      have hsettled := (h.rows id e' he').accepted (accepted_of_pruned hp)
      change s.book id = .owed at hid
      rw [hid] at hsettled
      cases hsettled
  · rcases (Shrinks.prune s.journal now n).cards id with hk | ⟨hk, -⟩
    · exact h.cards id c (hk.symm.trans hc)
    · rw [hk] at hc
      cases hc

/-! ### Every operation -/

/-- The row of an answer that was taken. -/
lemma Fair.answered {e : JournalEntry} {note : String} (hnote : e.ackNote = some note) :
    Fair (.ofNote note) e := by
  unfold Obligation.ofNote
  split
  · rename_i hr
    exact ⟨by simp, by simp [JournalEntry.accepted, hnote, hr]⟩
  · exact ⟨by simp, fun _ => rfl⟩

/-- A statement on `device_jobs`, with the book that follows what it changed. -/
lemma BookSound.updateOdoo {s : BookedJournal} (h : BookSound s) (now : Time) (row : ℤ)
    {op : RowOp} {b : Obligation}
    (hb : ∀ e, op.guard e = true → Fair (s.book row) e → Fair b (op.set .odoo now e)) :
    BookSound ⟨(s.journal.updateOdoo now row op).2,
      if (s.journal.updateOdoo now row op).1 then Function.update s.book row b
      else s.book⟩ := by
  refine h.of_row row (p := fun e => decide (0 < row) && op.guard e)
    (g := op.set .odoo now) ?_ ?_ ?_ rfl
  · intro id
    rw [Journal.get_updateOdoo]
    congr 1
    funext e
    by_cases hid : id = row
    · subst hid
      by_cases hpos : 0 < id <;> simp [hpos, RowOp.apply]
    · simp [hid]
  · change (s.journal.deviceJobs.get? row).any op.guard = _
    by_cases hpos : 0 < row
    · rw [Journal.get_of_odoo _ hpos.le]
      simp [hpos]
    · have hnone : s.journal.deviceJobs.get? row = none := by
        cases he : s.journal.deviceJobs.get? row with
        | none => rfl
        | some e => exact absurd (s.journal.odooIds row e he).1 hpos
      rw [hnone]
      cases s.journal.get row <;> simp [hpos]
  · intro e hp hf
    exact hb e (by simpa using (Bool.and_eq_true_iff.mp hp).2) hf

lemma BookSound.markLanReported {s : BookedJournal} (h : BookSound s) (now : Time) (id : ℤ)
    (odooJobId : Option ℤ) (note : String) :
    BookSound ⟨(s.journal.markLanReported now id odooJobId note).2,
      if (s.journal.markLanReported now id odooJobId note).1 then
        Function.update s.book id (.ofNote note) else s.book⟩ := by
  refine h.of_row id (p := fun e => decide (id < 0) && e.state.isFinal)
    (g := (RowOp.markLanReported note).set .lan now) ?_ ?_ ?_ rfl
  · intro k
    rw [Journal.get_markLanReported]
    congr 1
    funext e
    by_cases hk : k = id
    · subst hk
      by_cases hneg : k < 0 <;> simp [hneg, RowOp.apply, RowOp.guard]
    · simp [hk]
  · change (s.journal.lanJobs.get? (lanJobId id)).any (fun r => r.entry.state.isFinal) = _
    by_cases hneg : id < 0
    · rw [Journal.get_of_lan _ hneg, lanJobId]
      cases s.journal.lanJobs.get? (-id) <;> simp [hneg]
    · have hnone : s.journal.lanJobs.get? (lanJobId id) = none := by
        cases hr : s.journal.lanJobs.get? (lanJobId id) with
        | none => rfl
        | some r =>
          have := AutoTable.pos_of_get? hr
          simp only [lanJobId] at this
          omega
      rw [hnone]
      cases s.journal.get id <;> simp [hneg]
  · exact fun e _ _ => Fair.answered rfl

lemma BookSound.cardContactOf {s : BookedJournal} (h : BookSound s) (now : Time)
    {jobId amountMinor txType : ℤ} {terminalIp : String} {baselineSeq targetSeq : Option ℤ}
    {b : Bool} {j' : Journal}
    (hc : s.journal.cardContactOf now jobId terminalIp amountMinor baselineSeq txType targetSeq =
      some (b, j')) : BookSound ⟨j', s.book⟩ := by
  cases b with
  | false =>
    rw [Journal.cardContactOf_false hc]
    exact h
  | true =>
    obtain ⟨hget, ⟨e, he, -⟩, -, hcards, -⟩ := Journal.cardContactOf_true hc
    refine h.of_map hget ?_ (fun _ _ => rfl) ?_
    · intro id e _ hf
      dsimp only
      split
      · exact hf.of_accepted (accepted_apply (by simp) (by simp))
      · exact hf
    · -- the new card row is that of a job which is executing
      intro id c hid
      rw [hcards] at hid
      split at hid
      · rename_i hjob
        subst hjob
        have hpos := (s.journal.odooIds id e he).1
        exact Or.inr ⟨hpos, e, by rw [Journal.get_of_odoo _ hpos.le, he]⟩
      · exact Or.inl ⟨c, hid⟩

lemma BookSound.insert {s : BookedJournal} (h : BookSound s) (now : Time) (job : OdooJob)
    (refused : Option (String × String)) :
    BookSound ⟨(s.journal.insert now job refused).2,
      if (s.journal.insert now job refused).1 = .new then
        Function.update s.book job.job.id .owed else s.book⟩ := by
  cases hi : (s.journal.insert now job refused).1 with
  | known e =>
    rw [Journal.insert_known_eq hi, if_neg (by simp)]
    exact h
  | new =>
    rw [if_pos rfl]
    refine h.of_added (RowAdded.insert hi) rfl ?_
    unfold Journal.insert
    split <;> rfl

lemma BookSound.insertLan {s : BookedJournal} (h : BookSound s) (now : Time) (job : DeviceJob) :
    BookSound ⟨(JournalOp.insertLanReceived job).run now s.journal,
      (JournalOp.insertLanReceived job).enter now s.journal s.book⟩ := by
  simp only [JournalOp.run, JournalOp.enter]
  cases hi : s.journal.insertLanReceived now job with
  | none => exact h
  | some r =>
    obtain ⟨r, j'⟩ := r
    have hcards : j'.cardPayments = s.journal.cardPayments := by
      unfold Journal.insertLanReceived at hi
      rw [Option.bind_eq_some_iff] at hi
      obtain ⟨kasaId, -, hi⟩ := hi
      split at hi
      · simp only [Option.some.injEq, Prod.mk.injEq] at hi
        rw [← hi.2]
      · rw [Option.map_eq_some_iff] at hi
        obtain ⟨known, -, hi⟩ := hi
        simp only [Prod.mk.injEq] at hi
        rw [← hi.2]
    rcases Journal.get_insertLanReceived hi with ⟨id, rfl, -, -, hnone, hget⟩ | ⟨⟨k, rfl⟩, rfl⟩
    · exact h.of_added ⟨hnone, hget⟩ rfl hcards
    · exact h

/-- The book stays sound whatever is done with the journal. -/
lemma BookSound.run {s : BookedJournal} (h : BookSound s) (now : Time) (op : JournalOp) :
    BookSound ⟨op.run now s.journal, op.enter now s.journal s.book⟩ := by
  cases op with
  | insertReceived job | insertRefused job _ _ => exact h.insert now job _
  | insertLanReceived job => exact h.insertLan now job
  | startExecution id | recordOutcome id _ | failUnstarted id _ _ | markDeviceContact id
  | recordStillUnknown id _ => exact h.updateRow now id (by simp) (by simp)
  | recoverAfterRestart =>
    refine h.of_map (Journal.get_recoverAfterRestart s.journal now) ?_ (fun _ _ => rfl)
      fun _ c hc => Or.inl ⟨c, hc⟩
    exact fun _ e _ hf => hf.of_accepted accepted_recoverRow
  | markAcked id note => exact h.updateOdoo now id fun e _ _ => Fair.answered rfl
  | markReported id =>
    refine h.of_map (Journal.get_updateOdoo s.journal now id .markReported) ?_ (fun _ _ => rfl)
      fun _ c hc => Or.inl ⟨c, hc⟩
    intro k e _ hf
    dsimp only
    split
    · exact hf.of_accepted (accepted_apply (by simp) (by simp))
    · exact hf
  | reopenAck id =>
    exact h.updateOdoo now id fun e _ _ =>
      ⟨by simp, by simp [JournalEntry.accepted, RowOp.set]⟩
  | markLanReported id odooJobId note => exact h.markLanReported now id odooJobId note
  | prune n => exact h.prune now n
  | cardContactOf id ip amount baseline txType target =>
    simp only [JournalOp.run, JournalOp.enter]
    cases hc : s.journal.cardContactOf now id ip amount baseline txType target with
    | none => exact h
    | some r => exact h.cardContactOf now hc
  | cardAuthorized id _ _ | cardTransacted id _ | cardEnded id | cardForPerson id _
  | markCardAuthAcked id _ => exact h.updateCard id _ _
  | cardBalanceContact ip date source jobId =>
    have hsame : (s.journal.cardBalanceContact now ip date source jobId).2.deviceJobs =
        s.journal.deviceJobs ∧
        (s.journal.cardBalanceContact now ip date source jobId).2.lanJobs = s.journal.lanJobs ∧
        (s.journal.cardBalanceContact now ip date source jobId).2.cardPayments =
          s.journal.cardPayments := by
      unfold Journal.cardBalanceContact
      split <;> exact ⟨rfl, rfl, rfl⟩
    refine h.of_get_eq (fun id => ?_) fun id c hc => ⟨c, by rw [← hsame.2.2]; exact hc⟩
    simp only [JournalOp.run, Journal.get, Journal.lanJobById, hsame.1, hsame.2.1]
  | cardBalanceOutcome _ _ _ | cardBalanceForget _ =>
    exact h.of_get_eq (fun _ => rfl) fun _ c hc => ⟨c, hc⟩

variable {readFloat : Number → Number}

lemma bookSound_of_reach {s : BookedJournal}
    (h : (bookedRuns readFloat).Reach Transition.free s) : BookSound s := by
  refine h.invariant ⟨fun id e he => ?_, by simp [bookedRuns], fun id c hc => ?_⟩ ?_
  · simp [bookedRuns, Journal.get_empty] at he
  · simp [bookedRuns, Journal.empty] at hc
  · rintro a ⟨now, op⟩ b - ha hstep -
    obtain rfl := Option.some.inj hstep
    exact ha.run now op

/-- What a `prune` at some moment may take of a booked journal: final rows whose answer Odoo
accepted, and card rows of jobs whose row is gone.  Everything else stays as it is. -/
structure PruneSafe (s : BookedJournal) (j' : Journal) : Prop where
  jobs : ∀ id e, s.journal.deviceJobs.get? id = some e →
    j'.deviceJobs.get? id = some e ∨ j'.deviceJobs.get? id = none ∧
      e.state.isFinal = true ∧ e.acked = true ∧ e.ackNote.any isRefusedNote = false ∧
      s.book id = .settled
  lanJobs : ∀ row r, s.journal.lanJobs.get? row = some r →
    j'.lanJobs.get? row = some r ∨ j'.lanJobs.get? row = none ∧
      r.state.isFinal = true ∧ r.reported = true ∧ r.entry.ackNote.any isRefusedNote = false ∧
      s.book (lanJobId row) = .settled
  cards : ∀ id c, s.journal.cardPayments.get? id = some c →
    j'.cardPayments.get? id = some c ∨ j'.cardPayments.get? id = none ∧
      j'.deviceJobs.get? id = none ∧ s.book id = .settled

/-- Whatever is done with the journal, in any order: a job whose final answer is open has its
row, so it is never taken for a job that was never heard of; and no `prune`, of however many of
its statements, takes a row that is not final, whose answer is open, or was refused, or a card
row whose job row stays. -/
theorem prune_keeps_obligations {s : BookedJournal}
    (h : (bookedRuns readFloat).Reach Transition.free s) :
    (∀ id, s.book id = .owed → ∃ e, s.journal.get id = some e) ∧
      ∀ now n, PruneSafe s (s.journal.prune now n) := by
  have hs := bookSound_of_reach h
  refine ⟨hs.owed, fun now n => ?_⟩
  have hshrinks := Shrinks.prune s.journal now n
  have hdue : ∀ {e : JournalEntry}, pruned now e = true → e.state.isFinal = true ∧
      e.acked = true ∧ e.ackNote.any isRefusedNote = false := by
    intro e hp
    simp only [pruned, Bool.and_eq_true] at hp
    exact ⟨hp.1.1.2, hp.1.1.1, by simpa using hp.2⟩
  have hsettled : ∀ {id e}, s.journal.get id = some e → pruned now e = true →
      s.book id = .settled :=
    fun he hp => (hs.rows _ _ he).accepted (accepted_of_pruned hp)
  refine ⟨fun id e he => ?_, fun row r hr => ?_, fun id c hc => ?_⟩
  · rcases hshrinks.jobs id with hk | ⟨hk, e', he', hp⟩
    · exact Or.inl (hk.trans he)
    · obtain rfl := Option.some.inj (he.symm.trans he')
      have hget : s.journal.get id = some e := by
        rw [Journal.get_of_odoo _ (s.journal.odooIds id e he).1.le, he]
      obtain ⟨hfinal, hacked, hnote⟩ := hdue hp
      exact Or.inr ⟨hk, hfinal, hacked, hnote, hsettled hget hp⟩
  · rcases hshrinks.lanJobs row with hk | ⟨hk, r', hr', hp⟩
    · exact Or.inl (hk.trans hr)
    · obtain rfl := Option.some.inj (hr.symm.trans hr')
      have hneg : lanJobId row < 0 := by
        have := AutoTable.pos_of_get? hr
        simp only [lanJobId]
        omega
      have hget : s.journal.get (lanJobId row) = some r.entry := by
        rw [Journal.get_of_lan _ hneg, lanJobId, neg_neg, hr]
        rfl
      obtain ⟨hfinal, hacked, hnote⟩ := hdue hp
      exact Or.inr ⟨hk, hfinal, hacked, hnote, hsettled hget hp⟩
  · rcases hshrinks.cards id with hk | ⟨hk, hjob⟩
    · exact Or.inl (hk.trans hc)
    · -- an open answer would still have its row behind the prune
      obtain ⟨hpos, hheard⟩ := hs.cards id c hc
      refine Or.inr ⟨hk, hjob, ?_⟩
      cases hbook : s.book id with
      | unheard => exact absurd hbook hheard
      | settled => rfl
      | owed =>
        obtain ⟨e, he⟩ := (hs.prune now n).owed id hbook
        rw [Journal.get_of_odoo _ hpos.le, hjob] at he
        cases he

/-- A job that Odoo refuses the answer of, and long after: the row stays. -/
def refusedAnswer : List (Time × JournalOp) :=
  [(1, .insertReceived ⟨plainJob 7 "fiscal.open_drawer", by decide⟩), (2, .startExecution 7),
    (3, .recordOutcome 7 (.done .null)), (4, .markAcked 7 "refused: unknown job")]

theorem prune_keeps_obligations_refused :
    ∃ s e, (bookedRuns id).Reach Transition.free s ∧ s.book 7 = .owed ∧
      s.journal.deviceJobs.get? 7 = some e ∧ e.state = .done ∧ e.acked = true ∧
      e.ackNote = some "refused: unknown job" ∧
      ∀ now n, (s.journal.prune now n).deviceJobs.get? 7 = some e := by
  obtain ⟨s, hs, hgoal⟩ := Transition.reach_of_run (bookedRuns id) refusedAnswer
    (fun s => s.book 7 == .owed && (s.journal.deviceJobs.get? 7).any fun e =>
      e.state == .done && e.acked && e.ackNote == some "refused: unknown job") (by decide +kernel)
  obtain ⟨hbook, hrow⟩ := Bool.and_eq_true_iff.mp hgoal
  rw [Option.any_eq_true] at hrow
  obtain ⟨e, he, hrow⟩ := hrow
  simp only [Bool.and_eq_true, beq_iff_eq] at hbook hrow
  obtain ⟨⟨hdone, hacked⟩, hnote⟩ := hrow
  refine ⟨s, e, hs, hbook, he, hdone, hacked, hnote, fun now n => ?_⟩
  rcases ((prune_keeps_obligations hs).2 now n).jobs 7 e he with hkept | ⟨-, -, -, hopen, -⟩
  · exact hkept
  · -- a refused note keeps the row
    rw [hnote] at hopen
    exact absurd hopen (by decide)

end DevBridge

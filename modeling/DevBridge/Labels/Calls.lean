import DevBridge.Labels.History

/-!
# What each part of the poll task keeps

One lemma for each operation and each part of the task.  A part keeps the invariant wherever
it ends, and leaves no call of `spool_document` under way unless the process died in it.  What
a part needs beyond the invariant is what the part before it found in the ledger: a new line
has no row, a line of a document being printed has a `sending` row.
-/

namespace DevBridge

namespace Labels

open LabelIo Scripted

variable {enc : Encoder} {w₀ w : LabelWorld enc}

/-! ### Operations -/

/-- The invariant, between two calls of `spool_document`. -/
def Kept (w₀ w : LabelWorld enc) : Prop := LabelInv w₀ w ∧ Idle w

/-- How a part of the task stops. -/
def Stopped (w₀ : LabelWorld enc) : Stop PollError → LabelWorld enc → Prop
  | .error _, w => Kept w₀ w
  | .died, w => LabelInv w₀ w

lemma Kept.stopped (h : Kept w₀ w) (stop : Stop PollError) : Stopped w₀ stop w := by
  rcases stop with e | _
  · exact h
  · exact h.1

lemma statement_ensures {α : Type} {f : Time → Ledger → Option (α × Ledger)}
    {events : Time → Ledger → List (LabelEvent enc)} {Q : α → LabelWorld enc → Prop}
    (h : Kept w₀ w) (hok : ∀ now a l, f now w.ledger = some (a, l) →
      Q a { w with ledger := l, trace := events now w.ledger ++ w.trace }) :
    (statement f events).Ensures Q (Stopped w₀) w := by
  refine ensures_ask (h.stopped .died) fun turn => ?_
  rcases turn.fails with _ | _
  · rcases hf : f turn.now w.ledger with _ | ⟨a, l⟩
    · simpa [hf] using h.stopped (.error .ledger)
    · simpa [hf] using hok turn.now a l hf
  · exact h.stopped (.error .ledger)

/-- A row that becomes a verdict, when there was none before. -/
lemma LabelInv.recordResult {now : Time} {batchId lineId printedQty : ℤ} {error : Option String}
    (h : LabelInv w₀ w) (hnew : ∀ r, w.ledger.get? lineId = some r → r.state = .sending)
    (hclean : error ≠ none → printedQty = 0) :
    LabelInv w₀ { w with
      ledger := w.ledger.recordResult now batchId lineId printedQty error } := by
  refine h.of_rows (fun id r hr => ?_) (fun id r hr herror => ?_) fun id r hr howed => ?_
  · by_cases hid : id = lineId
    · subst hid
      have hsending := hnew r hr
      refine ⟨Ledger.setResult now printedQty error r, ?_, fun hsent => hsent, fun hdone => ?_⟩
      · rw [Ledger.get?_recordResult_self, hr]
      · rw [hsending] at hdone
        cases hdone
    · exact ⟨r, by rw [Ledger.get?_recordResult_of_ne hid, hr], fun hs => hs,
        fun hdone => ⟨hdone, rfl, rfl⟩⟩
  · by_cases hid : id = lineId
    · subst hid
      rw [Ledger.get?_recordResult_self] at hr
      obtain rfl := Option.some.inj hr
      rcases hl : w.ledger.get? id with _ | r₀
      · rw [hl] at herror
        exact hclean herror
      · rw [hl] at herror
        exact hclean herror
    · rw [Ledger.get?_recordResult_of_ne hid] at hr
      exact h.clean id r hr herror
  · have hid : id ≠ lineId := fun hid => by
      rw [hid] at hr
      rw [isOwed_iff, hnew r hr] at howed
      cases howed.1
    refine Or.inl fun r' hr' => ?_
    rw [Ledger.get?_recordResult_of_ne hid, hr] at hr'
    obtain rfl := Option.some.inj hr'
    exact howed

/-- The ack of a `done` row is owed again. -/
lemma LabelInv.reopenAck {lineId : ℤ} (h : LabelInv w₀ w) :
    LabelInv w₀ { w with ledger := w.ledger.reopenAck lineId } := by
  refine h.of_map _ (fun id => Table.get?_update _ _ _ _ _) (fun id r hr => ?_)
    (fun id r hr hclean => ?_) fun id r hr howed => ?_
  · split
    · exact ⟨fun hs => hs, fun hdone => ⟨hdone, rfl, rfl⟩⟩
    · exact ⟨fun hs => hs, fun hdone => ⟨hdone, rfl, rfl⟩⟩
  · split
    · exact hclean
    · exact hclean
  · left
    split
    · exact isOwed_iff.mpr ⟨(isOwed_iff.mp howed).1, rfl⟩
    · exact howed

/-- The ack of a line was decided. -/
lemma LabelInv.markAcked {now : Time} {lineId : ℤ} {note : String} (h : LabelInv w₀ w)
    (hdecided : DecidedSince w₀ w lineId) :
    LabelInv w₀ { w with ledger := w.ledger.markAcked now lineId note } := by
  refine h.of_map _ (fun id => Table.get?_update _ _ _ _ _) (fun id r hr => ?_)
    (fun id r hr hclean => ?_) fun id r hr howed => ?_
  · split
    · exact ⟨fun hs => hs, fun hdone => ⟨hdone, rfl, rfl⟩⟩
    · exact ⟨fun hs => hs, fun hdone => ⟨hdone, rfl, rfl⟩⟩
  · split
    · exact hclean
    · exact hclean
  · split
    · rename_i hid
      rw [hid.1]
      exact Or.inr hdecided
    · exact Or.inl howed

/-- Lines without a row are about to be spooled. -/
lemma LabelInv.markSending {now : Time} {batchId : ℤ} {ids : List ℤ} {l : Ledger}
    (h : LabelInv w₀ w) (hl : w.ledger.markSending now batchId ids = some l) :
    LabelInv w₀ { w with ledger := l } := by
  obtain ⟨-, hnew⟩ := Ledger.markSending_new hl
  have hget := Ledger.get?_markSending hl
  have hold : ∀ id r, w.ledger.get? id = some r → l.get? id = some r := by
    intro id r hr
    have hid : id ∉ ids := fun hmem => by
      rw [hnew id hmem] at hr
      cases hr
    rw [hget, if_neg hid]
    exact hr
  refine h.of_rows (fun id r hr => ?_) (fun id r hr herror => ?_) fun id r hr howed => ?_
  · exact ⟨r, hold id r hr, fun hs => hs, fun hdone => ⟨hdone, rfl, rfl⟩⟩
  · rw [hget] at hr
    split at hr
    · obtain rfl := Option.some.inj hr
      exact absurd rfl herror
    · exact h.clean id r hr herror
  · refine Or.inl fun r' hr' => ?_
    rw [hold id r hr] at hr'
    obtain rfl := Option.some.inj hr'
    exact howed

/-- The lines of a dead process are closed as interrupted. -/
lemma LabelInv.recoverInterrupted {now : Time} (h : LabelInv w₀ w) :
    LabelInv w₀ { w with ledger := (w.ledger.recoverInterrupted now).2 } := by
  refine h.of_map _ (fun id => Ledger.get?_recoverInterrupted id) (fun id r hr => ?_)
    (fun id r hr hclean => ?_) fun id r hr howed => ?_
  · split
    · rename_i hsending
      exact ⟨fun hs => hs, fun hdone => absurd hdone (by rw [hsending]; simp)⟩
    · exact ⟨fun hs => hs, fun hdone => ⟨hdone, rfl, rfl⟩⟩
  · split
    · exact fun _ => rfl
    · exact hclean
  · rw [if_neg (by rw [(isOwed_iff.mp howed).1]; simp)]
    exact Or.inl howed

/-- A line that was never sent, and whose ack was decided, is forgotten. -/
lemma LabelInv.forget {lineId : ℤ} {r : LineRow} (h : LabelInv w₀ w)
    (hr : w.ledger.get? lineId = some r) (hsent : r.sent = false) (hacked : r.acked = true) :
    LabelInv w₀
      { w with ledger := w.ledger.forget lineId, trace := .forget lineId :: w.trace } := by
  have hnot : ¬ PrintedSince lineId w.trace := fun hprinted => by
    obtain ⟨r', hr', hs⟩ := h.sent lineId hprinted
    obtain rfl := Option.some.inj (hr.symm.trans hr')
    rw [hsent] at hs
    cases hs
  refine h.of_drops [lineId] [.forget lineId] (fun id => ?_)
    ⟨hnot, h.sound⟩ (fun id hid => ?_) (fun id v hv => ?_) fun id hid r' hr' => ?_
  · rw [Ledger.get?_forget]
    simp
  · exact ⟨by simpa [eq_comm] using hid.1, hid.2⟩
  · by_cases hid : lineId = id
    · simp [toldSince, hid] at hv
    · exact ⟨by simpa [eq_comm] using hid, by simpa [toldSince, hid] using hv⟩
  · obtain rfl := List.mem_singleton.mp hid
    obtain rfl := Option.some.inj (hr.symm.trans hr')
    simp [Ledger.isOwed, hacked]

/-- Old acked rows are dropped. -/
lemma LabelInv.prune {now : Time} (h : LabelInv w₀ w) :
    LabelInv w₀ { w with
      ledger := w.ledger.prune now
      trace := (w.ledger.pruned now).map .prune ++ w.trace } := by
  have hdrop : ∀ (ids : List ℤ) (t : List (LabelEvent enc)) id,
      (PrintedSince id (ids.map .prune ++ t) → id ∉ ids ∧ PrintedSince id t) ∧
      ∀ v, toldSince id (ids.map .prune ++ t) = some v → id ∉ ids ∧ toldSince id t = some v := by
    intro ids t id
    induction ids with
    | nil => exact ⟨fun hp => ⟨by simp, hp⟩, fun v hv => ⟨by simp, hv⟩⟩
    | cons i ids ih =>
      refine ⟨fun hp => ?_, fun v hv => ?_⟩
      · obtain ⟨hmem, hrest⟩ := ih.1 hp.2
        exact ⟨by simpa [hmem, eq_comm] using hp.1, hrest⟩
      · by_cases hi : i = id
        · simp [toldSince, hi] at hv
        · obtain ⟨hmem, hrest⟩ := ih.2 v (by simpa [toldSince, hi] using hv)
          exact ⟨by simpa [hmem, eq_comm] using hi, hrest⟩
  have hsound : ∀ ids : List ℤ, Sound (ids.map .prune ++ w.trace) := by
    intro ids
    induction ids with
    | nil => exact h.sound
    | cons i ids ih => exact ⟨trivial, ih⟩
  refine h.of_drops (w.ledger.pruned now) _ Ledger.get?_prune (hsound _)
    (fun id => (hdrop _ _ id).1) (fun id => (hdrop _ _ id).2) fun id hid r hr => ?_
  obtain ⟨r', hr', hp⟩ := Ledger.mem_pruned.mp hid
  obtain rfl := Option.some.inj (hr.symm.trans hr')
  have hacked : r.acked = true := by
    simp only [Ledger.isPruned, Bool.and_eq_true] at hp
    exact hp.1.1
  simp [Ledger.isOwed, hacked]

lemma note_ensures {event : LabelEvent enc} {Q : Unit → LabelWorld enc → Prop}
    (h : LabelInv w₀ w) (hok : Q () (w.remember event)) :
    (note event).Ensures Q (Stopped w₀) w :=
  ensures_ask h fun _ => hok

lemma choice_ensures {α : Type} {f : Turn enc → α} {Q : α → LabelWorld enc → Prop}
    (h : LabelInv w₀ w) (hok : ∀ turn, Q (f turn) w) :
    (choice f).Ensures Q (Stopped w₀) w :=
  ensures_ask h hok

/-! ### The parts of a batch -/

/-- A new line has no row, once it was looked up. -/
lemma handleKnownLine_kept (h : Kept w₀ w) (lineId : ℤ) :
    (handleKnownLine lineId).Ensures
      (fun known w' => Kept w₀ w' ∧ (known = false → w'.ledger.get? lineId = none))
      (Stopped w₀) w := by
  refine ensures_bind (statement_ensures h fun now a l hl => ?_)
  obtain ⟨rfl, rfl⟩ : w.ledger.get lineId = a ∧ w.ledger = l := by simpa using hl
  rcases hr : w.ledger.get? lineId with _ | r
  · simp only [Ledger.get, hr, Option.map_none]
    exact ensures_pure ⟨h, fun _ => hr⟩
  · simp only [Ledger.get, hr, Option.map_some]
    rcases hstate : r.state with _ | _
    · simp only [rowToEntry, hstate]
      refine ensures_bind (statement_ensures h fun now a l hl => ?_)
      obtain rfl : _ = l := congrArg Prod.snd (Option.some.inj hl)
      refine ensures_pure ⟨⟨h.1.recordResult (fun r' hr' => ?_) fun _ => rfl, h.2⟩, by rintro ⟨⟩⟩
      obtain rfl := Option.some.inj (hr.symm.trans hr')
      exact hstate
    · rcases hack : ackState r.acked r.ackNote with _ | _ | _
      · simp only [rowToEntry, hstate, hack]
        exact ensures_pure ⟨h, by rintro ⟨⟩⟩
      all_goals
        have hacked : r.acked = true := by
          by_contra hne
          rw [ackState_eq_owed.mpr (Bool.not_eq_true _ ▸ hne)] at hack
          cases hack
        rcases hsent : r.sent with _ | _
        · -- never sent: it is forgotten
          simp only [rowToEntry, hstate, hack, hsent]
          refine ensures_bind (statement_ensures h fun now a l hl => ?_)
          obtain rfl : _ = l := congrArg Prod.snd (Option.some.inj hl)
          exact ensures_pure ⟨⟨h.1.forget hr hsent hacked, h.2⟩, fun _ => by
            simp [Ledger.get?_forget]⟩
        · simp only [rowToEntry, hstate, hack, hsent]
          refine ensures_bind (statement_ensures h fun now a l hl => ?_)
          obtain rfl : _ = l := congrArg Prod.snd (Option.some.inj hl)
          exact ensures_pure ⟨⟨h.1.reopenAck, h.2⟩, by rintro ⟨⟩⟩

/-- A verdict of a line that has no row or a `sending` one. -/
lemma recordResult_kept {batchId lineId printedQty : ℤ} {error : Option String}
    (h : Kept w₀ w) (hnew : ∀ r, w.ledger.get? lineId = some r → r.state = .sending)
    (hclean : error ≠ none → printedQty = 0) :
    (recordResult batchId lineId printedQty error).Ensures
      (fun _ w' => Kept w₀ w' ∧ ∀ id ≠ lineId, w'.ledger.get? id = w.ledger.get? id)
      (Stopped w₀) w := by
  refine statement_ensures h fun now a l hl => ?_
  obtain rfl : _ = l := congrArg Prod.snd (Option.some.inj hl)
  exact ⟨⟨h.1.recordResult hnew hclean, h.2⟩, fun id hid => Ledger.get?_recordResult_of_ne hid⟩

lemma rejectInvalid_kept (batchId : ℤ) (lines : List InvalidLine) (h : Kept w₀ w)
    (p : Progress enc) :
    (rejectInvalid batchId lines p).Ensures (fun _ => Kept w₀) (Stopped w₀) w := by
  induction lines generalizing w p with
  | nil => exact ensures_pure h
  | cons bad rest ih =>
    rcases hid : bad.lineId with _ | lineId
    · simp only [rejectInvalid, hid]
      exact ih h _
    · simp only [rejectInvalid, hid]
      split
      · exact ih h _
      · refine ensures_bind ((handleKnownLine_kept h lineId).mono ?_ fun _ _ hs => hs)
        rintro (_ | _) w₁ ⟨h₁, hnew⟩
        · refine ensures_bind ((recordResult_kept h₁ (fun r hr => ?_) fun _ => rfl).mono
            (fun _ w₂ h₂ => ih h₂.1 _) fun _ _ hs => hs)
          rw [hnew rfl] at hr
          cases hr
        · exact ih h₁ _

lemma takeLines_kept (batchId : ℤ) (geometry : Except String enc.Geometry)
    (lines : List NextLine) (h : Kept w₀ w) (p : Progress enc) :
    (takeLines batchId geometry lines p).Ensures (fun _ => Kept w₀) (Stopped w₀) w := by
  induction lines generalizing w p with
  | nil => exact ensures_pure h
  | cons line rest ih =>
    simp only [takeLines]
    split
    · exact ih h _
    · refine ensures_bind ((handleKnownLine_kept h line.lineId).mono ?_ fun _ _ hs => hs)
      rintro (_ | _) w₁ ⟨h₁, hnew⟩
      · rcases lineVerdict geometry line with label | error
        · exact ih h₁ _
        · refine ensures_bind ((recordResult_kept h₁ (fun r hr => ?_) fun _ => rfl).mono
            (fun _ w₂ h₂ => ih h₂.1 _) fun _ _ hs => hs)
          rw [hnew rfl] at hr
          cases hr
      · exact ih h₁ _

/-- The body of `spool_document` starts at most one print task. -/
lemma dispatchDocument_ends (secs : ℕ) {doc : Document enc} (h : LabelInv w₀ w)
    (hprint : LabelInv w₀ (w.remember (.print doc))) :
    (dispatchDocument secs doc).Ensures (fun _ w' => LabelInv w₀ w' ∧ w'.ledger = w.ledger)
      (Stopped w₀) w := by
  refine ensures_bind (choice_ensures h fun turn => ?_)
  rcases turn.spoolError with _ | reason
  · refine ensures_bind (ensures_bind (choice_ensures h fun turn => ?_))
    rcases turn.inFlight with _ | _
    · refine ensures_bind (note_ensures h (ensures_bind (ensures_ask hprint fun turn => ?_)))
      rcases turn.printed with _ | failure
      · exact ensures_pure (ensures_pure ⟨hprint, rfl⟩)
      · exact ensures_pure (ensures_pure
          ⟨hprint.of_event trivial hprint.sent hprint.told, rfl⟩)
    · exact ensures_pure (ensures_pure ⟨h, rfl⟩)
  · exact ensures_pure ⟨h, rfl⟩

/-- The document of new lines is printed once; the ledger is as before. -/
lemma spoolDocument_kept (secs : ℕ) (doc : Document enc) (h : Kept w₀ w)
    (hnodup : doc.ids.Nodup) (hnew : ∀ id ∈ doc.ids, ¬ PrintedSince id w.trace)
    (hrows : ∀ id ∈ doc.ids, ∃ r, w.ledger.get? id = some r ∧ r.sent = true) :
    (spoolDocument secs doc).Ensures (fun _ w' => Kept w₀ w' ∧ w'.ledger = w.ledger)
      (Stopped w₀) w := by
  have hspool : LabelInv w₀ (w.remember (.spool doc)) := h.1.of_event trivial h.1.sent h.1.told
  have hprint : LabelInv w₀ ((w.remember (.spool doc)).remember (.print doc)) := by
    refine hspool.of_event ⟨hnodup, hnew⟩ (fun id hid => ?_) hspool.told
    rcases hid with hid | hid
    · exact hrows id hid
    · exact h.1.sent id hid
  refine ensures_bind (note_ensures h.1 (ensures_bind ((dispatchDocument_ends secs hspool
    hprint).mono (fun failure w₁ h₁ => ?_) fun _ _ hs => hs)))
  exact ensures_bind (note_ensures h₁.1 (ensures_pure
    ⟨⟨h₁.1.of_event trivial h₁.1.sent h₁.1.told, rfl⟩, h₁.2⟩))

lemma recordLines_kept (batchId : ℤ) (failure : Option String) (lines : List (PrintableLine enc))
    (h : Kept w₀ w) (hnodup : (lines.map PrintableLine.lineId).Nodup)
    (hrows : ∀ id ∈ lines.map PrintableLine.lineId, ∀ r, w.ledger.get? id = some r →
      r.state = .sending) :
    (recordLines batchId failure lines).Ensures (fun _ => Kept w₀) (Stopped w₀) w := by
  induction lines generalizing w with
  | nil => exact ensures_pure h
  | cons line rest ih =>
    rw [List.map_cons, List.nodup_cons] at hnodup
    have hself := hrows line.lineId List.mem_cons_self
    have hrest : ∀ w₁, Kept w₀ w₁ ∧ (∀ id ≠ line.lineId,
        w₁.ledger.get? id = w.ledger.get? id) →
        (recordLines batchId failure rest).Ensures (fun _ => Kept w₀) (Stopped w₀) w₁ := by
      rintro w₁ ⟨h₁, hsame⟩
      refine ih h₁ hnodup.2 fun id hid r hr => ?_
      have hne : id ≠ line.lineId := fun heq => hnodup.1 (heq ▸ hid)
      rw [hsame id hne] at hr
      exact hrows id (List.mem_cons_of_mem _ hid) r hr
    rcases failure with _ | reason
    · exact ensures_bind ((recordResult_kept h hself fun hne => absurd rfl hne).mono
        (fun _ => hrest) fun _ _ hs => hs)
    · exact ensures_bind ((recordResult_kept h hself fun _ => rfl).mono
        (fun _ => hrest) fun _ _ hs => hs)

lemma printBatch_kept (secs : ℕ) (doc : Document enc) (h : Kept w₀ w) :
    (printBatch secs doc).Ensures (fun _ => Kept w₀) (Stopped w₀) w := by
  refine ensures_bind (statement_ensures h fun now a l hl => ?_)
  obtain ⟨l', hl', heq⟩ := Option.map_eq_some_iff.mp hl
  obtain rfl : l' = l := congrArg Prod.snd heq
  obtain ⟨hnodup, hnew⟩ := Ledger.markSending_new hl'
  have hrow : ∀ id ∈ doc.ids, l'.get? id = some (Ledger.sendingRow now doc.batchId) :=
    fun id hid => by rw [Ledger.get?_markSending hl', if_pos hid]
  have h₁ : Kept w₀ { w with ledger := l' } := ⟨h.1.markSending hl', h.2⟩
  refine ensures_bind ((spoolDocument_kept secs doc h₁ hnodup (fun id hid hprinted => ?_)
    fun id hid => ⟨_, hrow id hid, rfl⟩).mono (fun failure w₂ h₂ => ?_) fun _ _ hs => hs)
  · obtain ⟨r, hr, -⟩ := h.1.sent id hprinted
    rw [hnew id hid] at hr
    cases hr
  · obtain ⟨hkept, hledger⟩ := h₂
    refine recordLines_kept doc.batchId failure doc.lines hkept hnodup fun id hid r hr => ?_
    rw [hledger] at hr
    obtain rfl := Option.some.inj ((hrow id hid).symm.trans hr)
    rfl

lemma handleBatch_kept (secs : ℕ) (batchId : ℤ) (batch : NextBatch enc) (h : Kept w₀ w) :
    (handleBatch secs batchId batch).Ensures (fun _ => Kept w₀) (Stopped w₀) w := by
  refine ensures_bind ((rejectInvalid_kept batchId batch.invalid h _).mono
    (fun p w₁ h₁ => ?_) fun _ _ hs => hs)
  refine ensures_bind ((takeLines_kept batchId _ batch.linesInOrder h₁ p).mono
    (fun p w₂ h₂ => ?_) fun _ _ hs => hs)
  have hnothing : (if p.rejected = 0 then pure (.onlyKnownLines batchId p.reacked)
      else pure (.batch batchId p.printable.length p.rejected p.reacked) :
        LabelIo enc PollOutcome).Ensures (fun _ => Kept w₀) (Stopped w₀) w₂ := by
    split
    · exact ensures_pure h₂
    · exact ensures_pure h₂
  rcases enc.geometryFor batch.labelSize with size | geometry
  · exact hnothing
  · rcases hlines : p.printable with _ | ⟨line, lines⟩
    · simpa only [hlines] using hnothing
    · refine ensures_bind ((printBatch_kept secs _ h₂).mono (fun _ w₃ h₃ => ?_)
        fun _ _ hs => hs)
      exact ensures_pure h₃

/-! ### The acks -/

/-- The entries are owed as the ledger has them. -/
def Owing (w : LabelWorld enc) (entries : List LedgerEntry) : Prop :=
  ∀ e ∈ entries, ∃ r, w.ledger.get? e.lineId = some r ∧ Ledger.isOwed r = true ∧
    e = rowToEntry e.lineId r

/-- An ack of an owed verdict. -/
lemma LabelInv.ack {e : LedgerEntry} {r : LineRow} (answer : AckAnswer) (h : Kept w₀ w)
    (hr : w.ledger.get? e.lineId = some r) (howed : Ledger.isOwed r = true)
    (he : e = rowToEntry e.lineId r) :
    LabelInv w₀ (w.remember
      (.ack e.lineId e.printedQty (e.error.map truncateAckError) answer)) := by
  have hqty : e.printedQty = r.printedQty := congrArg LedgerEntry.printedQty he
  have herror : e.error = r.error := congrArg LedgerEntry.error he
  rw [hqty, herror]
  refine h.1.of_event ⟨fun told htold => ?_, fun hne => ?_, fun doc hdoc => ?_⟩ h.1.sent
    fun id v hv => ?_
  · obtain ⟨r', hr', -, hsame⟩ := h.1.told e.lineId told htold
    obtain rfl := Option.some.inj (hr.symm.trans hr')
    exact hsame
  · exact h.1.clean e.lineId r hr fun hnone => hne (by rw [hnone]; rfl)
  · rw [h.2] at hdoc
    cases hdoc
  · by_cases hid : e.lineId = id
    · subst hid
      obtain rfl : _ = v := by simpa [toldSince] using hv
      exact ⟨r, hr, (isOwed_iff.mp howed).1, rfl⟩
    · exact h.1.told id v (by simpa [toldSince, hid] using hv)

lemma sendAcks_kept (entries : List LedgerEntry) (h : Kept w₀ w)
    (hnodup : (entries.map LedgerEntry.lineId).Nodup) (howing : Owing w entries) :
    (sendAcks entries).Ensures (fun _ => Kept w₀) (Stopped w₀) w := by
  induction entries generalizing w with
  | nil => exact ensures_pure h
  | cons e rest ih =>
    rw [List.map_cons, List.nodup_cons] at hnodup
    obtain ⟨r, hr, howed, he⟩ := howing e List.mem_cons_self
    refine ensures_bind (ensures_ask h.1 fun turn => ?_)
    have h₁ := LabelInv.ack turn.ack h hr howed he
    set w₁ := w.remember
      (.ack e.lineId e.printedQty (e.error.map truncateAckError) turn.ack) with hw₁
    have hkept : Kept w₀ w₁ := ⟨h₁, h.2⟩
    have hmark : ∀ note, isDecided turn.ack = true →
        (do markAcked e.lineId note; sendAcks rest : LabelIo enc ℕ).Ensures
          (fun _ => Kept w₀) (Stopped w₀) w₁ := by
      intro note hdecided
      refine ensures_bind (statement_ensures hkept fun now a l hl => ?_)
      obtain rfl : _ = l := congrArg Prod.snd (Option.some.inj hl)
      obtain ⟨t, ht⟩ := h.1.grows
      have hsince : DecidedSince w₀ w₁ e.lineId :=
        ⟨.ack e.lineId e.printedQty (e.error.map truncateAckError) turn.ack :: t,
          congrArg (List.cons _) ht, _, _, _, List.mem_cons_self, hdecided⟩
      refine ih ⟨h₁.markAcked hsince, h.2⟩ hnodup.2 fun e' he' => ?_
      have hne : e'.lineId ≠ e.lineId := fun heq =>
        hnodup.1 (heq ▸ List.mem_map_of_mem he')
      obtain ⟨r', hr', hsame⟩ := howing e' (List.mem_cons_of_mem _ he')
      exact ⟨r', (Table.get?_update_of_ne _ _ _ hne).trans hr', hsame⟩
    have hskip : (do let owed ← sendAcks rest; pure (owed + 1) : LabelIo enc ℕ).Ensures
        (fun _ => Kept w₀) (Stopped w₀) w₁ :=
      ensures_bind ((ih hkept hnodup.2 fun e' he' =>
        howing e' (List.mem_cons_of_mem _ he')).mono (fun _ _ hk => ensures_pure hk)
          fun _ _ hs => hs)
    rcases hanswer : turn.ack with error | accepted
    · rw [hanswer] at hmark
      rcases error with text | text | text | ⟨code, text⟩ | text
      · exact ensures_fail hkept
      · exact hskip
      · exact hmark _ rfl
      · exact hskip
      · exact hskip
    · rw [hanswer] at hmark
      exact hmark _ rfl

lemma flushAcks_kept (h : Kept w₀ w) :
    (flushAcks : LabelIo enc ℕ).Ensures (fun _ => Kept w₀) (Stopped w₀) w := by
  refine ensures_bind (statement_ensures h fun now a l hl => ?_)
  obtain ⟨rfl, rfl⟩ : w.ledger.pendingAcks = a ∧ w.ledger = l := by simpa using hl
  exact sendAcks_kept _ h Ledger.pendingAcks_nodup fun e he => Ledger.mem_pendingAcks.mp he

/-! ### A poll and a start -/

lemma pollOnce_kept (secs : ℕ) (h : Kept w₀ w) :
    (pollOnce secs : LabelIo enc PollOutcome).Ensures (fun _ => Kept w₀) (Stopped w₀) w := by
  refine ensures_bind ((flushAcks_kept h).mono (fun _ w₁ h₁ => ?_) fun _ _ hs => hs)
  refine ensures_bind (ensures_ask h₁.1 fun turn => ?_)
  rcases turn.next with e | batch
  · exact h₁
  · have hnext : (handleNext secs batch).Ensures (fun _ => Kept w₀) (Stopped w₀) w₁ := by
      unfold handleNext
      split
      · split
        · exact ensures_pure h₁
        · exact handleBatch_kept secs _ batch h₁
      · exact ensures_pure h₁
    refine ensures_bind (hnext.mono (fun outcome w₂ h₂ => ?_) fun _ _ hs => hs)
    exact ensures_bind ((flushAcks_kept h₂).mono (fun owed w₃ h₃ => ensures_pure h₃)
      fun _ _ hs => hs)

lemma startUp_kept (h : Kept w₀ w) :
    (startUp : LabelIo enc Unit).Ensures (fun _ => Kept w₀) (Stopped w₀) w := by
  refine ensures_bind (statement_ensures h fun now a l hl => ?_)
  obtain rfl : _ = l := congrArg Prod.snd (Option.some.inj hl)
  have h₁ : Kept w₀ { w with ledger := (w.ledger.recoverInterrupted now).2 } :=
    ⟨h.1.recoverInterrupted, h.2⟩
  have hidle : ∀ (ids : List ℤ) (t : List (LabelEvent enc)),
      underway (ids.map .prune ++ t) = underway t := by
    intro ids t
    induction ids with
    | nil => rfl
    | cons i ids ih => exact ih
  refine ensures_bind (ensures_attempt ((statement_ensures h₁ fun now a l hl => ?_).mono
    (fun _ _ hk => hk) ?_))
  · obtain rfl : _ = l := congrArg Prod.snd (Option.some.inj hl)
    exact ensures_pure ⟨h₁.1.prune, (hidle _ _).trans h₁.2⟩
  · rintro (e | _) w₂ h₂
    · exact ensures_pure h₂
    · exact h₂

end Labels

end DevBridge

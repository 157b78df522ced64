import DevBridge.Labels.AtMostOnce

/-!
# The acks of the lines

A verdict stays owed until Odoo decided on it, every line of a batch that was handled is owed,
and a flush sends one ack for each owed line.  The acks of a line agree as long as its row is
not dropped.  It is dropped when it is forgotten, which is for a line to be looked at anew, and
when it is pruned, which relies on Odoo not offering the line again.
-/

namespace DevBridge

namespace Labels

open LabelIo Scripted

variable {enc : Encoder} {w w' : LabelWorld enc} {secs : ℕ}

/-! ### A batch leaves every line of it owed -/

/-- The line ids of a batch. -/
def NextBatch.offered (batch : NextBatch enc) : List ℤ :=
  batch.invalid.filterMap InvalidLine.lineId ++ batch.lines.map NextLine.lineId

lemma statement_answers {α : Type} {f : Time → Ledger → Option (α × Ledger)}
    {events : Time → Ledger → List (LabelEvent enc)} {Q : α → LabelWorld enc → Prop}
    (hok : ∀ now a l, f now w.ledger = some (a, l) →
      Q a { w with ledger := l, trace := events now w.ledger ++ w.trace }) :
    (statement f events).Ensures Q (fun _ _ => True) w := by
  refine ensures_ask trivial fun turn => ?_
  rcases turn.fails with _ | _
  · rcases hf : f turn.now w.ledger with _ | ⟨a, l⟩
    · trivial
    · simpa using hok turn.now a l hf
  · trivial

/-- Every line but one keeps its row. -/
def SameBut (id : ℤ) (w w' : LabelWorld enc) : Prop :=
  ∀ i ≠ id, w'.ledger.get? i = w.ledger.get? i

/-- A line that was not taken owes its ack. -/
lemma handleKnownLine_answers (lineId : ℤ) :
    (handleKnownLine lineId).Ensures
      (fun known w' => SameBut lineId w w' ∧ (known = true → OwesAck w' lineId))
      (fun _ _ => True) w := by
  refine ensures_bind (statement_answers fun now a l hl => ?_)
  obtain ⟨rfl, rfl⟩ : w.ledger.get lineId = a ∧ w.ledger = l := by simpa using hl
  rcases hr : w.ledger.get? lineId with _ | r
  · simp only [Ledger.get, hr, Option.map_none]
    exact ensures_pure ⟨fun _ _ => rfl, by rintro ⟨⟩⟩
  · simp only [Ledger.get, hr, Option.map_some]
    rcases hstate : r.state with _ | _
    · simp only [rowToEntry, hstate]
      refine ensures_bind (statement_answers fun now a l hl => ?_)
      obtain rfl : _ = l := congrArg Prod.snd (Option.some.inj hl)
      refine ensures_pure ⟨fun i hi => Ledger.get?_recordResult_of_ne hi, fun _ => ?_⟩
      refine ⟨_, Ledger.get?_recordResult_self, ?_⟩
      rw [hr]
      rfl
    · rcases hack : ackState r.acked r.ackNote with _ | _ | _
      · simp only [rowToEntry, hstate, hack]
        exact ensures_pure ⟨fun _ _ => rfl, fun _ =>
          ⟨r, hr, isOwed_iff.mpr ⟨hstate, ackState_eq_owed.mp hack⟩⟩⟩
      all_goals
        rcases hsent : r.sent with _ | _
        · simp only [rowToEntry, hstate, hack, hsent]
          refine ensures_bind (statement_answers fun now a l hl => ?_)
          obtain rfl : _ = l := congrArg Prod.snd (Option.some.inj hl)
          exact ensures_pure ⟨fun i hi => by simp [Ledger.get?_forget, hi], by rintro ⟨⟩⟩
        · simp only [rowToEntry, hstate, hack, hsent]
          refine ensures_bind (statement_answers fun now a l hl => ?_)
          obtain rfl : _ = l := congrArg Prod.snd (Option.some.inj hl)
          refine ensures_pure ⟨fun i hi => Table.get?_update_of_ne _ _ _ hi, fun _ => ?_⟩
          exact ⟨{ r with acked := false }, by simp [Ledger.reopenAck, hr, hstate],
            isOwed_iff.mpr ⟨hstate, rfl⟩⟩

lemma recordResult_answers {batchId lineId printedQty : ℤ} {error : Option String} :
    (recordResult batchId lineId printedQty error).Ensures
      (fun _ w' => SameBut lineId w w' ∧ OwesAck w' lineId) (fun _ _ => True) w := by
  refine statement_answers fun now a l hl => ?_
  obtain rfl : _ = l := congrArg Prod.snd (Option.some.inj hl)
  refine ⟨fun i hi => Ledger.get?_recordResult_of_ne hi, _, Ledger.get?_recordResult_self, ?_⟩
  rcases w.ledger.get? lineId with _ | r <;> rfl

lemma OwesAck.same {id i : ℤ} (h : OwesAck w i) (hsame : SameBut id w w') (hi : i ≠ id) :
    OwesAck w' i := by
  obtain ⟨r, hr, howed⟩ := h
  exact ⟨r, (hsame i hi).trans hr, howed⟩

/-- What the loops over a batch know of the lines they saw: each owes its ack or is to be
printed. -/
def Handled (w : LabelWorld enc) (p : Progress enc) : Prop :=
  (∀ line ∈ p.printable, line.lineId ∈ p.seen) ∧
    ∀ id ∈ p.seen, OwesAck w id ∨ id ∈ p.printable.map PrintableLine.lineId

/-- A line that was not seen before owes its ack now. -/
lemma Handled.see {p p' : Progress enc} {id : ℤ} (h : Handled w p) (hseen : id ∉ p.seen)
    (hsame : SameBut id w w') (howes : OwesAck w' id) (hp : p'.seen = id :: p.seen)
    (hprintable : p'.printable = p.printable) : Handled w' p' := by
  refine ⟨fun line hline => ?_, fun i hi => ?_⟩
  · rw [hp]
    rw [hprintable] at hline
    exact List.mem_cons_of_mem _ (h.1 line hline)
  · rw [hp] at hi
    rw [hprintable]
    rcases List.mem_cons.mp hi with rfl | hi
    · exact Or.inl howes
    · have hne : i ≠ id := fun heq => hseen (heq ▸ hi)
      exact (h.2 i hi).imp_left fun ho => ho.same hsame hne

lemma Handled.push {p : Progress enc} (h : Handled w p) (line : PrintableLine enc)
    (hseen : line.lineId ∉ p.seen) (hsame : SameBut line.lineId w w') :
    Handled w' ((p.see line.lineId).push line) := by
  refine ⟨fun l hl => ?_, fun i hi => ?_⟩
  · rcases List.mem_append.mp hl with hl | hl
    · exact List.mem_cons_of_mem _ (h.1 l hl)
    · obtain rfl := List.mem_singleton.mp hl
      exact List.mem_cons_self
  · have hmap : (p.printable ++ [line]).map PrintableLine.lineId =
        p.printable.map PrintableLine.lineId ++ [line.lineId] := by simp
    show OwesAck w' i ∨ i ∈ (p.printable ++ [line]).map PrintableLine.lineId
    rw [hmap, List.mem_append, List.mem_singleton]
    rcases List.mem_cons.mp hi with rfl | hi
    · exact Or.inr (Or.inr rfl)
    · have hne : i ≠ line.lineId := fun heq => hseen (heq ▸ hi)
      rcases h.2 i hi with ho | hp
      · exact Or.inl (ho.same hsame hne)
      · exact Or.inr (Or.inl hp)

/-- What a loop over lines did to the progress; with `same`, it found nothing to print. -/
structure Looped (same : Prop) (ids : List ℤ) (p p' : Progress enc) (w' : LabelWorld enc) :
    Prop where
  handled : Handled w' p'
  seen : p.seen ⊆ p'.seen
  all : ∀ id ∈ ids, id ∈ p'.seen
  kept : same → p'.printable = p.printable

/-- One line before the rest of a loop. -/
lemma Looped.after {same : Prop} {ids : List ℤ} {p p₁ p' : Progress enc} {id : ℤ}
    (h : Looped same ids p₁ p' w') (hseen : p.seen ⊆ p₁.seen) (hself : id ∈ p₁.seen)
    (hkept : same → p₁.printable = p.printable) : Looped same (id :: ids) p p' w' where
  handled := h.handled
  seen i hi := h.seen (hseen hi)
  all i hi := by
    rcases List.mem_cons.mp hi with rfl | hi
    · exact h.seen hself
    · exact h.all i hi
  kept hs := (h.kept hs).trans (hkept hs)

lemma rejectInvalid_answers (batchId : ℤ) (lines : List InvalidLine) {p : Progress enc}
    (h : Handled w p) :
    (rejectInvalid batchId lines p).Ensures
      (fun p' w' => Looped True (lines.filterMap InvalidLine.lineId) p p' w')
      (fun _ _ => True) w := by
  induction lines generalizing w p with
  | nil => exact ensures_pure ⟨h, fun _ hid => hid, nofun, fun _ => rfl⟩
  | cons bad rest ih =>
    rcases hbad : bad.lineId with _ | lineId
    · simp only [rejectInvalid, hbad, List.filterMap_cons]
      refine (ih (p := { p with unackable := p.unackable + 1 }) h).mono ?_ fun _ _ hs => hs
      exact fun p' w' h' => ⟨h'.handled, h'.seen, h'.all, h'.kept⟩
    · have hnext : ∀ (w₁ : LabelWorld enc) (p₁ : Progress enc), Handled w₁ p₁ →
          p.seen ⊆ p₁.seen → lineId ∈ p₁.seen → p₁.printable = p.printable →
          (rejectInvalid batchId rest p₁).Ensures
            (fun p' w' => Looped True (lineId :: rest.filterMap InvalidLine.lineId) p p' w')
            (fun _ _ => True) w₁ := fun w₁ p₁ h₁ hsub hself hkept =>
        (ih h₁).mono (fun p' w' h' => h'.after hsub hself fun _ => hkept) fun _ _ hs => hs
      simp only [rejectInvalid, hbad, List.filterMap_cons]
      split
      · rename_i hseen
        exact hnext w p h (fun _ hi => hi) hseen rfl
      · rename_i hseen
        refine ensures_bind ((handleKnownLine_answers lineId).mono ?_ fun _ _ hs => hs)
        rintro (_ | _) w₁ ⟨hsame, howes⟩
        · refine ensures_bind (recordResult_answers.mono (fun _ w₂ h₂ => ?_) fun _ _ hs => hs)
          have hsame₂ : SameBut lineId w w₂ := fun i hi => (h₂.1 i hi).trans (hsame i hi)
          exact hnext w₂ _ (h.see hseen hsame₂ h₂.2 rfl rfl)
            (fun _ hi => List.mem_cons_of_mem _ hi) List.mem_cons_self rfl
        · exact hnext w₁ _ (h.see hseen hsame (howes rfl) rfl rfl)
            (fun _ hi => List.mem_cons_of_mem _ hi) List.mem_cons_self rfl

/-- On an invalid roll no line is printable. -/
lemma lineVerdict_error {size : String} {line : NextLine} {label : enc.Label} :
    lineVerdict (.error size) line ≠ .printable label := by
  unfold lineVerdict encodeLine
  split
  · simp
  · split <;> simp

lemma takeLines_answers (batchId : ℤ) (geometry : Except String enc.Geometry)
    (lines : List NextLine) {p : Progress enc} (h : Handled w p) :
    (takeLines batchId geometry lines p).Ensures
      (fun p' w' => Looped (∃ size, geometry = .error size) (lines.map NextLine.lineId) p p' w')
      (fun _ _ => True) w := by
  induction lines generalizing w p with
  | nil => exact ensures_pure ⟨h, fun _ hid => hid, nofun, fun _ => rfl⟩
  | cons line rest ih =>
    have hnext : ∀ (w₁ : LabelWorld enc) (p₁ : Progress enc), Handled w₁ p₁ →
        p.seen ⊆ p₁.seen → line.lineId ∈ p₁.seen →
        ((∃ size, geometry = .error size) → p₁.printable = p.printable) →
        (takeLines batchId geometry rest p₁).Ensures
          (fun p' w' => Looped (∃ size, geometry = .error size)
            ((line :: rest).map NextLine.lineId) p p' w')
          (fun _ _ => True) w₁ := fun w₁ p₁ h₁ hsub hself hkept =>
      (ih h₁).mono (fun p' w' h' => h'.after hsub hself hkept) fun _ _ hs => hs
    simp only [takeLines]
    split
    · rename_i hseen
      exact hnext w p h (fun _ hi => hi) hseen fun _ => rfl
    · rename_i hseen
      refine ensures_bind ((handleKnownLine_answers line.lineId).mono ?_ fun _ _ hs => hs)
      rintro (_ | _) w₁ ⟨hsame, howes⟩
      · rcases hverdict : lineVerdict geometry line with label | error
        · refine hnext w₁ _ (h.push ⟨line.lineId, line.printQty, label⟩ hseen hsame)
            (fun _ hi => List.mem_cons_of_mem _ hi) List.mem_cons_self ?_
          rintro ⟨size, rfl⟩
          exact absurd hverdict lineVerdict_error
        · refine ensures_bind (recordResult_answers.mono (fun _ w₂ h₂ => ?_) fun _ _ hs => hs)
          have hsame₂ : SameBut line.lineId w w₂ := fun i hi => (h₂.1 i hi).trans (hsame i hi)
          exact hnext w₂ _ (h.see hseen hsame₂ h₂.2 rfl rfl)
            (fun _ hi => List.mem_cons_of_mem _ hi) List.mem_cons_self fun _ => rfl
      · exact hnext w₁ _ (h.see hseen hsame (howes rfl) rfl rfl)
          (fun _ hi => List.mem_cons_of_mem _ hi) List.mem_cons_self fun _ => rfl

/-- `spool_document` does not touch the ledger. -/
lemma spoolDocument_answers (secs : ℕ) (doc : Document enc) :
    (spoolDocument secs doc).Ensures (fun _ w' => w'.ledger = w.ledger) (fun _ _ => True) w := by
  refine ensures_bind (ensures_ask trivial fun _ => ensures_bind ?_)
  have hend : ∀ failure (w₁ : LabelWorld enc), w₁.ledger = w.ledger →
      (do note .spooled; pure failure : LabelIo enc (Option String)).Ensures
        (fun _ w' => w'.ledger = w.ledger) (fun _ _ => True) w₁ :=
    fun failure w₁ h₁ => ensures_bind (ensures_ask trivial fun _ => ensures_pure h₁)
  refine ensures_bind (ensures_ask trivial fun turn => ?_)
  rcases turn.spoolError with _ | reason
  · refine ensures_bind (ensures_bind (ensures_ask trivial fun turn => ?_))
    rcases turn.inFlight with _ | _
    · refine ensures_bind (ensures_ask trivial fun _ => ensures_bind (ensures_ask trivial
        fun turn => ?_))
      rcases turn.printed with _ | failure
      · exact ensures_pure (ensures_pure (hend _ _ rfl))
      · exact ensures_pure (ensures_pure (hend _ _ rfl))
    · exact ensures_pure (ensures_pure (hend _ _ rfl))
  · exact ensures_pure (hend _ _ rfl)

lemma recordLines_answers (batchId : ℤ) (failure : Option String)
    (lines : List (PrintableLine enc)) :
    (recordLines batchId failure lines).Ensures
      (fun _ w' => ∀ id, OwesAck w id ∨ id ∈ lines.map PrintableLine.lineId → OwesAck w' id)
      (fun _ _ => True) w := by
  induction lines generalizing w with
  | nil =>
    refine ensures_pure fun id hid => ?_
    rcases hid with hid | hid
    · exact hid
    · cases hid
  | cons line rest ih =>
    have hrest : ∀ (_ : Unit) (w₁ : LabelWorld enc),
        SameBut line.lineId w w₁ ∧ OwesAck w₁ line.lineId →
        (recordLines batchId failure rest).Ensures (fun _ w' => ∀ id, OwesAck w id ∨
          id ∈ (line :: rest).map PrintableLine.lineId → OwesAck w' id) (fun _ _ => True) w₁ := by
      rintro _ w₁ ⟨hsame, howes⟩
      refine ih.mono (fun _ w₂ h₂ id hid => h₂ id ?_) fun _ _ hs => hs
      by_cases hline : id = line.lineId
      · exact Or.inl (hline ▸ howes)
      · rcases hid with hid | hid
        · exact Or.inl (hid.same hsame hline)
        · exact Or.inr ((List.mem_cons.mp hid).resolve_left hline)
    rcases failure with _ | reason
    · exact ensures_bind (recordResult_answers.mono hrest fun _ _ hs => hs)
    · exact ensures_bind (recordResult_answers.mono hrest fun _ _ hs => hs)

/-- A batch that was printed: its lines owe their acks, and so does what owed one before. -/
lemma printBatch_answers (secs : ℕ) (doc : Document enc) :
    (printBatch secs doc).Ensures
      (fun _ w' => ∀ id, OwesAck w id ∨ id ∈ doc.ids → OwesAck w' id) (fun _ _ => True) w := by
  refine ensures_bind (statement_answers fun now a l hl => ?_)
  obtain ⟨l', hl', heq⟩ := Option.map_eq_some_iff.mp hl
  obtain rfl : l' = l := congrArg Prod.snd heq
  refine ensures_bind ((spoolDocument_answers secs doc).mono (fun failure w₂ h₂ => ?_)
    fun _ _ hs => hs)
  refine (recordLines_answers doc.batchId failure doc.lines).mono (fun _ w₃ h₃ id hid => ?_)
    fun _ _ hs => hs
  refine h₃ id (hid.imp_left ?_)
  rintro ⟨r, hr, howed⟩
  have hnew : id ∉ doc.ids := fun hmem => by
    rw [(Ledger.markSending_new hl').2 id hmem] at hr
    cases hr
  refine ⟨r, ?_, howed⟩
  rw [h₂, Ledger.get?_markSending hl', if_neg hnew]
  exact hr

/-- A batch that was handled owes the acks of all its lines. -/
lemma handleBatch_answers (secs : ℕ) (batchId : ℤ) (batch : NextBatch enc) :
    (handleBatch secs batchId batch).Ensures
      (fun _ w' => ∀ id ∈ batch.offered, OwesAck w' id) (fun _ _ => True) w := by
  have hstart : Handled w (Progress.start : Progress enc) := ⟨nofun, nofun⟩
  refine ensures_bind ((rejectInvalid_answers batchId batch.invalid hstart).mono
    (fun p₁ w₁ h₁ => ?_) fun _ _ hs => hs)
  refine ensures_bind ((takeLines_answers batchId _ batch.linesInOrder h₁.1).mono
    (fun p₂ w₂ h₂ => ?_) fun _ _ hs => hs)
  have hseen : ∀ id ∈ batch.offered, id ∈ p₂.seen := by
    intro id hid
    rcases List.mem_append.mp hid with hid | hid
    · exact h₂.seen (h₁.all id hid)
    · obtain ⟨line, hline, rfl⟩ := List.mem_map.mp hid
      exact h₂.all _ (List.mem_map_of_mem ((List.mem_insertionSort _).mpr hline))
  have hhandled : ∀ id ∈ batch.offered,
      OwesAck w₂ id ∨ id ∈ p₂.printable.map PrintableLine.lineId :=
    fun id hid => h₂.handled.2 id (hseen id hid)
  have hnothing : p₂.printable = [] →
      (if p₂.rejected = 0 then pure (.onlyKnownLines batchId p₂.reacked)
        else pure (.batch batchId p₂.printable.length p₂.rejected p₂.reacked) :
          LabelIo enc PollOutcome).Ensures (fun _ w' => ∀ id ∈ batch.offered, OwesAck w' id)
            (fun _ _ => True) w₂ := by
    intro hnil
    have hall : ∀ id ∈ batch.offered, OwesAck w₂ id := by
      intro id hid
      rcases hhandled id hid with ho | hp
      · exact ho
      · rw [hnil] at hp
        cases hp
    split
    · exact ensures_pure hall
    · exact ensures_pure hall
  rcases hgeometry : enc.geometryFor batch.labelSize with size | geometry
  · have hnil : p₂.printable = [] := (h₂.kept ⟨size, hgeometry⟩).trans (h₁.kept trivial)
    exact hnothing hnil
  · rcases hlines : p₂.printable with _ | ⟨line, lines⟩
    · have hnone := hnothing hlines
      simpa only [hlines] using hnone
    · refine ensures_bind ((printBatch_answers secs ⟨batchId, line :: lines, geometry⟩).mono
        (fun _ w₃ h₃ => ensures_pure fun id hid => h₃ id ?_) fun _ _ hs => hs)
      have hid' := hhandled id hid
      rw [hlines] at hid'
      exact hid'

/-! ### A flush sends what is owed -/

/-- What the acks of a line said, in the order in which they went out. -/
def acksOf (id : ℤ) : List (LabelEvent enc) → List (ℤ × Option String)
  | [] => []
  | .ack i printedQty error _ :: t =>
    if i = id then acksOf id t ++ [(printedQty, error)] else acksOf id t
  | _ :: t => acksOf id t

/-- The ack of an entry. -/
def LedgerEntry.verdict (e : LedgerEntry) : ℤ × Option String :=
  (e.printedQty, e.error.map truncateAckError)

lemma acksOf_append (id : ℤ) (t t' : List (LabelEvent enc)) :
    acksOf id (t ++ t') = acksOf id t' ++ acksOf id t := by
  induction t with
  | nil => simp [acksOf]
  | cons event t ih =>
    cases event with
    | ack i q e a =>
      by_cases hi : i = id
      · simp [acksOf, hi, ih]
      · simp [acksOf, hi, ih]
    | spool doc => exact ih
    | print doc => exact ih
    | answered doc failure => exact ih
    | spooled => exact ih
    | forget i => exact ih
    | prune i => exact ih
    | ended => exact ih

/-- The acks after the first state, line by line. -/
def AckedBy (entries : List LedgerEntry) (w w' : LabelWorld enc) : Prop :=
  ∃ t, Since w w' t ∧ ∀ id,
    acksOf id t = (entries.filter fun e => e.lineId = id).map LedgerEntry.verdict

lemma AckedBy.cons {e : LedgerEntry} {entries : List LedgerEntry} {answer : AckAnswer}
    {w₁ : LabelWorld enc} (htrace : w₁.trace =
      .ack e.lineId e.printedQty (e.error.map truncateAckError) answer :: w.trace)
    (h : AckedBy entries w₁ w') : AckedBy (e :: entries) w w' := by
  obtain ⟨t, ht, hacks⟩ := h
  refine ⟨t ++ [.ack e.lineId e.printedQty (e.error.map truncateAckError) answer], ?_,
    fun id => ?_⟩
  · rw [Since, ht, htrace, List.append_assoc]
    rfl
  · rw [acksOf_append, hacks]
    by_cases hid : e.lineId = id
    · simp [acksOf, hid, LedgerEntry.verdict]
    · simp [acksOf, hid]

lemma sendAcks_answers (entries : List LedgerEntry) :
    (sendAcks entries).Ensures (fun _ w' => AckedBy entries w w') (fun _ _ => True) w := by
  induction entries generalizing w with
  | nil => exact ensures_pure ⟨[], rfl, fun _ => rfl⟩
  | cons e rest ih =>
    refine ensures_bind (ensures_ask trivial fun turn => ?_)
    have hmark : ∀ note, (do markAcked e.lineId note; sendAcks rest : LabelIo enc ℕ).Ensures
        (fun _ w' => AckedBy (e :: rest) w w') (fun _ _ => True) (w.remember
          (.ack e.lineId e.printedQty (e.error.map truncateAckError) turn.ack)) :=
      fun note => ensures_bind (statement_answers fun now a l hl =>
        ih.mono (fun _ w' h => h.cons rfl) fun _ _ hs => hs)
    have hskip : (do let owed ← sendAcks rest; pure (owed + 1) : LabelIo enc ℕ).Ensures
        (fun _ w' => AckedBy (e :: rest) w w') (fun _ _ => True) (w.remember
          (.ack e.lineId e.printedQty (e.error.map truncateAckError) turn.ack)) :=
      ensures_bind (ih.mono (fun _ w' h => ensures_pure (h.cons rfl)) fun _ _ hs => hs)
    rcases hanswer : turn.ack with error | accepted
    · rw [hanswer] at hmark hskip
      rcases error with text | text | text | ⟨code, text⟩ | text
      · exact ensures_fail trivial
      · exact hskip
      · exact hmark _
      · exact hskip
      · exact hskip
    · rw [hanswer] at hmark
      exact hmark _

/-- A flush with an answer sent one ack for each owed line, with its verdict, and no other. -/
lemma flushAcks_answers :
    (flushAcks : LabelIo enc ℕ).Ensures
      (fun _ w' => ∃ t, Since w w' t ∧ ∀ id,
        (∀ r, w.ledger.get? id = some r → Ledger.isOwed r = true →
          acksOf id t = [(r.printedQty, r.error.map truncateAckError)]) ∧
        (¬ OwesAck w id → acksOf id t = [])) (fun _ _ => True) w := by
  refine ensures_bind (statement_answers fun now a l hl => ?_)
  obtain ⟨rfl, rfl⟩ : w.ledger.pendingAcks = a ∧ w.ledger = l := by simpa using hl
  refine (sendAcks_answers _).mono (fun _ w' h => ?_) fun _ _ hs => hs
  obtain ⟨t, ht, hacks⟩ := h
  refine ⟨t, ht, fun id => ⟨fun r hr howed => ?_, fun hnone => ?_⟩⟩
  · rw [hacks, Ledger.pendingAcks_of hr howed]
    rfl
  · rw [hacks, List.map_eq_nil_iff, List.filter_eq_nil_iff]
    intro e he hid
    obtain ⟨r, hr, howed, -⟩ := Ledger.mem_pendingAcks.mp he
    exact hnone ⟨r, of_decide_eq_true hid ▸ hr, howed⟩

/-! ### The acks of a run -/

/-- The acks of a line agree until its row is dropped. -/
lemma acks_agree {t₁ t₂ t₃ : List (LabelEvent enc)} {id q q' : ℤ} {e e' : Option String}
    {a a' : AckAnswer} (hsound : Sound (t₁ ++ .ack id q' e' a' :: t₂ ++ .ack id q e a :: t₃))
    (hkept : ∀ event ∈ t₂, ¬ event.Drops id) : q' = q ∧ e' = e := by
  have hsuffix : Sound (.ack id q' e' a' :: (t₂ ++ .ack id q e a :: t₃)) := by
    refine Sound.of_append (t := t₁) ?_
    simpa using hsound
  have htold : toldSince id (t₂ ++ .ack id q e a :: t₃) = some (q, e) :=
    toldSince_append hsuffix.2 hkept (by simp [toldSince])
  have hsame := hsuffix.1.1 _ htold
  exact ⟨(congrArg Prod.fst hsame).symm, (congrArg Prod.snd hsame).symm⟩

/-- In every run: a verdict stays owed until Odoo decided on an ack of it; a handled batch
owes the acks of all its lines; the acks of a line agree between two drops of its row; no ack
goes out while the document of its line is being spooled, and none with both a quantity and an
error; and a flush that is not cut short sends exactly the owed verdicts. -/
theorem label_acks_kept (h : (labelSource secs).Reach Transition.free w) :
    (∀ w', (labelSource secs).Leads Transition.free w w' →
      ∀ id r, w.ledger.get? id = some r → Ledger.isOwed r = true →
        (∃ r', w'.ledger.get? id = some r' ∧ Ledger.isOwed r' = true ∧
          r'.printedQty = r.printedQty ∧ r'.error = r.error) ∨ DecidedSince w w' id) ∧
    (∀ (w₁ w₂ : LabelWorld enc) batchId (batch : NextBatch enc) script outcome,
      (handleBatch secs batchId batch).exec script w₁ = (.ok outcome, w₂) →
        ∀ id ∈ batch.offered, OwesAck w₂ id) ∧
    (∀ (t₁ t₂ t₃ : List (LabelEvent enc)) id q q' e e' a a',
      w.trace = t₁ ++ .ack id q' e' a' :: t₂ ++ .ack id q e a :: t₃ →
      (∀ event ∈ t₂, ¬ event.Drops id) → q' = q ∧ e' = e) ∧
    (∀ (t₁ t₂ : List (LabelEvent enc)) id q e a, w.trace = t₁ ++ .ack id q e a :: t₂ →
      (∀ doc ∈ underway t₂, id ∉ doc.ids) ∧ ¬ (0 < q ∧ e ≠ none)) ∧
    ∀ (w₁ w₂ : LabelWorld enc) script owed,
      (flushAcks : LabelIo enc ℕ).exec script w₁ = (.ok owed, w₂) →
        ∃ t, Since w₁ w₂ t ∧ ∀ id,
          (∀ r, w₁.ledger.get? id = some r → Ledger.isOwed r = true →
            acksOf id t = [(r.printedQty, r.error.map truncateAckError)]) ∧
          (¬ OwesAck w₁ id → acksOf id t = []) := by
  have hsound := (kept_of_reach h).1.sound
  refine ⟨fun w' hl => (kept_of_leads h hl).1.owed, fun w₁ w₂ batchId batch script outcome hexec =>
    ?_, fun t₁ t₂ t₃ id q q' e e' a a' htrace => ?_, fun t₁ t₂ id q e a htrace => ?_,
    fun w₁ w₂ script owed hexec => ?_⟩
  · have hend := (handleBatch_answers secs batchId batch).exec (s := w₁) script
    rw [hexec] at hend
    exact hend
  · rw [htrace] at hsound
    exact acks_agree hsound
  · rw [htrace] at hsound
    obtain ⟨-, hclean, hdoc⟩ := hsound.of_append.1
    exact ⟨hdoc, fun ⟨hq, he⟩ => absurd (hclean he) (ne_of_gt hq)⟩
  · have hend := (flushAcks_answers (w := w₁)).exec script
    rw [hexec] at hend
    exact hend

/-- A line without a label is rejected and acknowledged; when Odoo offers it again it is
forgotten, and printed with its label. -/
theorem label_acks_kept_fixed : ∃ w : LabelWorld plainLabels,
    (labelSource 10).Reach Transition.free w ∧
      acksOf 7 w.trace = [(0, some "empty png"), (3, none)] ∧
      ∀ (t₁ t₂ t₃ : List (LabelEvent plainLabels)) id q q' e e' a a',
        w.trace = t₁ ++ .ack id q' e' a' :: t₂ ++ .ack id q e a :: t₃ →
        (∀ event ∈ t₂, ¬ event.Drops id) → q' = q ∧ e' = e := by
  have hrun := (labelSource 10).reach_of_run
    [.start (quiet 0 2), ackPoll 0 (oneLine 7 3 ""), printPoll 0 2 (oneLine 7 3 "label")]
    (fun w : LabelWorld plainLabels =>
      decide (acksOf 7 w.trace = [(0, some "empty png"), (3, none)]))
    (by decide +kernel)
  obtain ⟨w, hw, hacks⟩ := hrun
  exact ⟨w, hw, of_decide_eq_true hacks, (label_acks_kept hw).2.2.1⟩

/-- Whether the row of a line was forgotten. -/
def forgotten {enc : Encoder} (id : ℤ) : List (LabelEvent enc) → Bool
  | [] => false
  | .forget i :: t => i == id || forgotten id t
  | _ :: t => forgotten id t

/-- A rejected line whose row was pruned is new again: two acks that differ, with no `forget`
of the line in the whole run. -/
theorem label_acks_differ : ∃ w : LabelWorld plainLabels,
    (labelSource 10).Reach Transition.free w ∧
      acksOf 7 w.trace = [(0, some "empty png"), (3, none)] ∧
      forgotten 7 w.trace = false := by
  have hrun := (labelSource 10).reach_of_run
    [.start (quiet 0 2), ackPoll 0 (oneLine 7 3 ""), .stop, .start (quiet (pruneAfter + 1) 2),
      printPoll (pruneAfter + 1) 1 (oneLine 7 3 "label")]
    (fun w : LabelWorld plainLabels =>
      decide (acksOf 7 w.trace = [(0, some "empty png"), (3, none)]) && !forgotten 7 w.trace)
    (by decide +kernel)
  obtain ⟨w, hw, hacks⟩ := hrun
  rw [Bool.and_eq_true] at hacks
  exact ⟨w, hw, of_decide_eq_true hacks.1, by simpa using hacks.2⟩

end Labels

end DevBridge

import DevBridge.Labels.Acks

/-!
# The verdicts of a batch

When a batch was handled, every line of it that carries an id has a row with a verdict whose
ack is owed.  A line that is new gets a verdict now: its quantity without an error if its label
was in the document and the backend printed it, no quantity otherwise.  A line that is known
keeps the verdict it has, and the rows of all other lines are as before.

The loops are followed from the front: a line is decided by its first mention, and a line that
was seen before is not touched again.
-/

namespace DevBridge

namespace Labels

open LabelIo Scripted

variable {enc : Encoder} {w w' : LabelWorld enc} {secs : ℕ} {batchId : ℤ}

/-! ### New and known lines -/

/-- A line is decided anew: it has no row, or one that was never sent and whose ack Odoo
decided on. -/
def IsNew (row : Option LineRow) : Prop :=
  ∀ r, row = some r → r.state = .done ∧ r.sent = false ∧ r.acked = true

/-- The row of a known line after a batch: a verdict stays, and a line that was left `sending`
is closed. -/
structure Keeps (r r' : LineRow) : Prop where
  sent : r'.sent = r.sent
  verdict : r.state = .done → r'.printedQty = r.printedQty ∧ r'.error = r.error
  interrupted : r.state = .sending → r'.printedQty = 0 ∧ r'.error = some interruptedReason

/-- The row of a known line, before and after. -/
def StillKnown (row row' : Option LineRow) : Prop :=
  ¬ IsNew row ∧ ∃ r r', row = some r ∧ row' = some r' ∧ Ledger.isOwed r' = true ∧ Keeps r r'

/-- No backend answered in between. -/
def Unanswered (w w' : LabelWorld enc) : Prop :=
  ∃ t, Since w w' t ∧ ∀ doc failure, .answered doc failure ∉ t

lemma Unanswered.refl (w : LabelWorld enc) : Unanswered w w :=
  ⟨[], rfl, fun _ _ h => (nomatch h)⟩

lemma Unanswered.trans {w₁ : LabelWorld enc} (h : Unanswered w w₁) (h' : Unanswered w₁ w') :
    Unanswered w w' := by
  obtain ⟨t, ht, hnone⟩ := h
  obtain ⟨t', ht', hnone'⟩ := h'
  refine ⟨t' ++ t, ?_, fun doc failure hmem => ?_⟩
  · rw [Since, ht', ht, List.append_assoc]
  · rcases List.mem_append.mp hmem with hmem | hmem
    · exact hnone' doc failure hmem
    · exact hnone doc failure hmem

/-- The look at a line. -/
structure LookedAt (lineId : ℤ) (known : Bool) (w w' : LabelWorld enc) : Prop where
  same : SameBut lineId w w'
  unanswered : Unanswered w w'
  new : known = false → IsNew (w.ledger.get? lineId) ∧ w'.ledger.get? lineId = none
  known : known = true → StillKnown (w.ledger.get? lineId) (w'.ledger.get? lineId)

lemma handleKnownLine_decides (lineId : ℤ) :
    (handleKnownLine lineId).Ensures (fun known w' => LookedAt lineId known w w')
      (fun _ _ => True) w := by
  refine ensures_bind (statement_answers fun now a l hl => ?_)
  obtain ⟨rfl, rfl⟩ : w.ledger.get lineId = a ∧ w.ledger = l := by simpa using hl
  rcases hr : w.ledger.get? lineId with _ | r
  · simp only [Ledger.get, hr, Option.map_none]
    exact ensures_pure ⟨fun _ _ => rfl, .refl w, fun _ => ⟨by simp [IsNew, hr], hr⟩, by rintro ⟨⟩⟩
  · simp only [Ledger.get, hr, Option.map_some]
    rcases hstate : r.state with _ | _
    · -- a straggler of a print that never ended
      simp only [rowToEntry, hstate]
      refine ensures_bind (statement_answers fun now a l hl => ?_)
      obtain rfl : _ = l := congrArg Prod.snd (Option.some.inj hl)
      refine ensures_pure ⟨fun i hi => Ledger.get?_recordResult_of_ne hi,
        ⟨[], rfl, by simp⟩, by rintro ⟨⟩, fun _ => ⟨fun hnew => ?_, r,
          Ledger.setResult now 0 (some interruptedReason) r, hr, ?_, rfl,
          ⟨rfl, fun hdone => ?_, fun _ => ⟨rfl, rfl⟩⟩⟩⟩
      · have hdone := (hnew r hr).1
        rw [hstate] at hdone
        cases hdone
      · rw [Ledger.get?_recordResult_self, hr]
      · rw [hstate] at hdone
        cases hdone
    · have hopen : r.state ≠ .sending := by
        rw [hstate]
        rintro ⟨⟩
      rcases hack : ackState r.acked r.ackNote with _ | _ | _
      · have howed := ackState_eq_owed.mp hack
        simp only [rowToEntry, hstate, hack]
        refine ensures_pure ⟨fun _ _ => rfl, .refl w, by rintro ⟨⟩, fun _ => ⟨fun hnew => ?_, r, r,
          hr, hr, isOwed_iff.mpr ⟨hstate, howed⟩, ⟨rfl, fun _ => ⟨rfl, rfl⟩,
            fun hs => absurd hs hopen⟩⟩⟩
        have hacked := (hnew r hr).2.2
        rw [howed] at hacked
        cases hacked
      all_goals
        have hacked : r.acked = true := by
          by_contra hne
          rw [ackState_eq_owed.mpr (Bool.not_eq_true _ ▸ hne)] at hack
          cases hack
        rcases hsent : r.sent with _ | _
        · -- never sent: it is decided anew
          simp only [rowToEntry, hstate, hack, hsent]
          refine ensures_bind (statement_answers fun now a l hl => ?_)
          obtain rfl : _ = l := congrArg Prod.snd (Option.some.inj hl)
          refine ensures_pure ⟨fun i hi => by simp [Ledger.get?_forget, hi],
            ⟨[.forget lineId], rfl, by simp⟩, fun _ => ⟨fun r' hr' => ?_,
              by simp [Ledger.get?_forget]⟩, by rintro ⟨⟩⟩
          obtain rfl := Option.some.inj (hr.symm.trans hr')
          exact ⟨hstate, hsent, hacked⟩
        · simp only [rowToEntry, hstate, hack, hsent]
          refine ensures_bind (statement_answers fun now a l hl => ?_)
          obtain rfl : _ = l := congrArg Prod.snd (Option.some.inj hl)
          refine ensures_pure ⟨fun i hi => Table.get?_update_of_ne _ _ _ hi,
            ⟨[], rfl, by simp⟩, by rintro ⟨⟩, fun _ => ⟨fun hnew => ?_, r,
              { r with acked := false }, hr, by simp [Ledger.reopenAck, hr, hstate],
              isOwed_iff.mpr ⟨hstate, rfl⟩, ⟨rfl, fun _ => ⟨rfl, rfl⟩,
                fun hs => absurd hs hopen⟩⟩⟩
          have hnever := (hnew r hr).2.1
          rw [hsent] at hnever
          cases hnever

/-! ### The loops -/

/-- A line that is new and was rejected with the error. -/
def Rejected (error : Option String) (row row' : Option LineRow) : Prop :=
  IsNew row ∧ ∃ r, row' = some r ∧ Ledger.isOwed r = true ∧ r.printedQty = 0 ∧ r.error = error

/-- The verdict of a line that has no row after it was looked at. -/
lemma recordResult_decides {lineId : ℤ} {error : Option String}
    (hnone : w.ledger.get? lineId = none) :
    (recordResult batchId lineId 0 error).Ensures
      (fun _ w' => SameBut lineId w w' ∧ Unanswered w w' ∧
        ∃ r, w'.ledger.get? lineId = some r ∧ Ledger.isOwed r = true ∧ r.printedQty = 0 ∧
          r.error = error) (fun _ _ => True) w := by
  refine statement_answers fun now a l hl => ?_
  obtain rfl : _ = l := congrArg Prod.snd (Option.some.inj hl)
  refine ⟨fun i hi => Ledger.get?_recordResult_of_ne hi, ⟨[], rfl, fun _ _ h => (nomatch h)⟩,
    Ledger.resultRow now batchId 0 error, ?_, rfl, rfl, rfl⟩
  rw [Ledger.get?_recordResult_self, hnone]

/-- What a loop over the mentions of lines did: a mention names a line with `key`, the first
mention of a line that was not seen decides its `fate`, and `takes` says with which entry a
mention goes into the document. -/
structure Through {β : Type} (key : β → Option ℤ)
    (fate : β → Progress enc → Option LineRow → Option LineRow → Prop)
    (takes : β → PrintableLine enc → Prop) (items : List β) (p p' : Progress enc)
    (w w' : LabelWorld enc) : Prop where
  unanswered : Unanswered w w'
  seen : ∀ id, id ∈ p'.seen ↔ id ∈ p.seen ∨ id ∈ items.filterMap key
  kept : p.printable ⊆ p'.printable
  same : ∀ id, (id ∈ p.seen ∨ id ∉ items.filterMap key) →
    w'.ledger.get? id = w.ledger.get? id
  decided : ∀ id ∉ p.seen, ∀ item, (items.find? fun item => key item == some id) = some item →
    fate item p' (w.ledger.get? id) (w'.ledger.get? id)
  taken : ∀ l ∈ p'.printable, l ∈ p.printable ∨ l.lineId ∉ p.seen ∧
    ∃ item, (items.find? fun item => key item == some l.lineId) = some item ∧ takes item l

namespace Through

variable {β : Type} {key : β → Option ℤ} {takes : β → PrintableLine enc → Prop} {item : β}
  {fate : β → Progress enc → Option LineRow → Option LineRow → Prop}
  {rest : List β} {p p₁ p' : Progress enc} {w₁ : LabelWorld enc} {lineId : ℤ}

lemma nil : Through key fate takes [] p p w w :=
  ⟨.refl w, by simp, fun _ h => h, fun _ _ => rfl, fun _ _ _ h => (nomatch h),
    fun _ h => Or.inl h⟩

/-- A mention that is passed over: it has no id, or its line was seen before. -/
lemma skip (h : Through key fate takes rest p₁ p' w w') (hseen : p₁.seen = p.seen)
    (hprintable : p₁.printable = p.printable) (hitem : ∀ id ∈ key item, id ∈ p.seen) :
    Through key fate takes (item :: rest) p p' w w' := by
  have hne : ∀ id ∉ p.seen, key item ≠ some id := fun id hid heq => hid (hitem id heq)
  refine ⟨h.unanswered, fun id => ?_, hprintable ▸ h.kept, fun id hid => ?_,
    fun id hid b hb => ?_, fun l hl => ?_⟩
  · rw [h.seen, hseen]
    rcases hkey : key item with _ | i
    · simp [hkey]
    · have hi := hitem i hkey
      simp only [List.filterMap_cons, hkey, List.mem_cons]
      constructor
      · exact fun h => h.imp_right Or.inr
      · rintro (h | rfl | h)
        · exact Or.inl h
        · exact Or.inl hi
        · exact Or.inr h
  · refine h.same id ?_
    rw [hseen]
    rcases hid with hid | hid
    · exact Or.inl hid
    · refine Or.inr fun hmem => hid ?_
      obtain ⟨b, hb, hkey⟩ := List.mem_filterMap.mp hmem
      exact List.mem_filterMap.mpr ⟨b, List.mem_cons_of_mem _ hb, hkey⟩
  · rw [List.find?_cons_of_neg (by simpa using hne id hid)] at hb
    exact h.decided id (hseen ▸ hid) b hb
  · rcases h.taken l hl with hl | ⟨hnot, b, hb, htakes⟩
    · exact Or.inl (hprintable ▸ hl)
    · rw [hseen] at hnot
      refine Or.inr ⟨hnot, b, ?_, htakes⟩
      rw [List.find?_cons_of_neg (by simpa using hne _ hnot)]
      exact hb

/-- A line that is seen for the first time. -/
lemma after (h : Through key fate takes rest p₁ p' w₁ w') (hkey : key item = some lineId)
    (hnew : lineId ∉ p.seen) (hseen : p₁.seen = lineId :: p.seen)
    (hkept : p.printable ⊆ p₁.printable)
    (hpush : ∀ l ∈ p₁.printable, l ∈ p.printable ∨ l.lineId = lineId ∧ takes item l)
    (hsame : SameBut lineId w w₁) (hun : Unanswered w w₁)
    (hself : p₁.printable ⊆ p'.printable →
      fate item p' (w.ledger.get? lineId) (w₁.ledger.get? lineId)) :
    Through key fate takes (item :: rest) p p' w w' := by
  have hne : ∀ id ≠ lineId, key item ≠ some id := fun id hid heq =>
    hid (Option.some.inj (hkey.symm.trans heq)).symm
  have hmem : lineId ∈ p₁.seen := by
    rw [hseen]
    exact List.mem_cons_self
  refine ⟨hun.trans h.unanswered, fun id => ?_, fun l hl => h.kept (hkept hl), fun id hid => ?_,
    fun id hid b hb => ?_, fun l hl => ?_⟩
  · rw [h.seen, hseen]
    simp only [List.filterMap_cons, hkey, List.mem_cons]
    tauto
  · have hid' : id ≠ lineId := by
      rintro rfl
      rcases hid with hid | hid
      · exact hnew hid
      · simp [hkey] at hid
    refine (h.same id ?_).trans (hsame id hid')
    rcases hid with hid | hid
    · left
      rw [hseen]
      exact List.mem_cons_of_mem _ hid
    · right
      simp only [List.filterMap_cons, hkey, List.mem_cons, not_or] at hid
      exact hid.2
  · by_cases heq : id = lineId
    · subst heq
      rw [List.find?_cons_of_pos (by simpa using hkey)] at hb
      obtain rfl := Option.some.inj hb
      rw [h.same id (Or.inl hmem)]
      exact hself h.kept
    · rw [List.find?_cons_of_neg (by simpa using hne id heq)] at hb
      have hnot : id ∉ p₁.seen := by
        rw [hseen]
        simp [heq, hid]
      rw [← hsame id heq]
      exact h.decided id hnot b hb
  · rcases h.taken l hl with hl | ⟨hnot, b, hb, htakes⟩
    · rcases hpush l hl with hl | ⟨hid, htakes⟩
      · exact Or.inl hl
      · refine Or.inr ⟨hid ▸ hnew, item, ?_, htakes⟩
        exact List.find?_cons_of_pos (by rw [hid]; simpa using hkey)
    · rw [hseen, List.mem_cons, not_or] at hnot
      refine Or.inr ⟨hnot.2, b, ?_, htakes⟩
      rw [List.find?_cons_of_neg (by simpa using hne _ hnot.1)]
      exact hb

end Through

/-- A malformed line is known, or rejected with its reason. -/
def MalformedFate (bad : InvalidLine) (_ : Progress enc) (row row' : Option LineRow) : Prop :=
  StillKnown row row' ∨ Rejected (some (truncateAckError bad.reason)) row row'

lemma rejectInvalid_decides (lines : List InvalidLine) (p : Progress enc) :
    (rejectInvalid batchId lines p).Ensures
      (fun p' w' => Through InvalidLine.lineId MalformedFate (fun _ _ => False) lines p p' w w')
      (fun _ _ => True) w := by
  induction lines generalizing w p with
  | nil => exact ensures_pure .nil
  | cons bad rest ih =>
    rcases hbad : bad.lineId with _ | lineId
    · simp only [rejectInvalid, hbad]
      refine (ih _).mono (fun p' w' h => h.skip rfl rfl ?_) fun _ _ hs => hs
      rw [hbad]
      rintro _ ⟨⟩
    · simp only [rejectInvalid, hbad]
      split
      · rename_i hseen
        refine (ih p).mono (fun p' w' h => h.skip rfl rfl ?_) fun _ _ hs => hs
        rw [hbad]
        rintro _ ⟨⟩
        exact hseen
      · rename_i hseen
        refine ensures_bind ((handleKnownLine_decides lineId).mono ?_ fun _ _ hs => hs)
        rintro (_ | _) w₁ hlook
        · obtain ⟨hnew, hnone⟩ := hlook.new rfl
          refine ensures_bind ((recordResult_decides hnone).mono ?_ fun _ _ hs => hs)
          rintro _ w₂ ⟨hsame, hun, hrow⟩
          refine (ih _).mono (fun p' w' h => ?_) fun _ _ hs => hs
          exact h.after hbad hseen rfl (fun _ hl => hl) (fun _ hl => Or.inl hl)
            (fun i hi => (hsame i hi).trans (hlook.same i hi)) (hlook.unanswered.trans hun)
            fun _ => Or.inr ⟨hnew, hrow⟩
        · refine (ih _).mono (fun p' w' h => ?_) fun _ _ hs => hs
          exact h.after hbad hseen rfl (fun _ hl => hl) (fun _ hl => Or.inl hl) hlook.same
            hlook.unanswered fun _ => Or.inl (hlook.known rfl)

/-- The entry with which a line goes into the document. -/
def Takes (geometry : Except String enc.Geometry) (line : NextLine) (l : PrintableLine enc) :
    Prop :=
  ∃ label, lineVerdict geometry line = .printable label ∧
    l = ⟨line.lineId, line.printQty, label⟩

/-- A line is known, or rejected, or goes into the document and has no row yet. -/
def LineFate (geometry : Except String enc.Geometry) (line : NextLine) (p : Progress enc)
    (row row' : Option LineRow) : Prop :=
  StillKnown row row' ∨
    (∃ error, lineVerdict geometry line = .rejected error ∧ Rejected error row row') ∨
    IsNew row ∧ row' = none ∧ ∃ l ∈ p.printable, Takes geometry line l

lemma takeLines_decides (geometry : Except String enc.Geometry) (lines : List NextLine)
    (p : Progress enc) :
    (takeLines batchId geometry lines p).Ensures
      (fun p' w' => Through (fun line => some line.lineId) (LineFate geometry) (Takes geometry)
        lines p p' w w') (fun _ _ => True) w := by
  induction lines generalizing w p with
  | nil => exact ensures_pure .nil
  | cons line rest ih =>
    simp only [takeLines]
    split
    · rename_i hseen
      refine (ih p).mono (fun p' w' h => h.skip rfl rfl ?_) fun _ _ hs => hs
      rintro _ ⟨⟩
      exact hseen
    · rename_i hseen
      refine ensures_bind ((handleKnownLine_decides line.lineId).mono ?_ fun _ _ hs => hs)
      rintro (_ | _) w₁ hlook
      · obtain ⟨hnew, hnone⟩ := hlook.new rfl
        rcases hverdict : lineVerdict geometry line with label | error
        · refine (ih _).mono (fun p' w' h => ?_) fun _ _ hs => hs
          have htakes : Takes geometry line ⟨line.lineId, line.printQty, label⟩ :=
            ⟨label, hverdict, rfl⟩
          refine h.after rfl hseen rfl (List.subset_append_left _ _) (fun l hl => ?_) hlook.same
            hlook.unanswered fun hsub => Or.inr (Or.inr ⟨hnew, hnone, _, hsub ?_, htakes⟩)
          · rcases List.mem_append.mp hl with hl | hl
            · exact Or.inl hl
            · obtain rfl := List.mem_singleton.mp hl
              exact Or.inr ⟨rfl, htakes⟩
          · exact List.mem_append_right _ List.mem_cons_self
        · refine ensures_bind ((recordResult_decides hnone).mono ?_ fun _ _ hs => hs)
          rintro _ w₂ ⟨hsame, hun, hrow⟩
          refine (ih _).mono (fun p' w' h => ?_) fun _ _ hs => hs
          exact h.after rfl hseen rfl (fun _ hl => hl) (fun _ hl => Or.inl hl)
            (fun i hi => (hsame i hi).trans (hlook.same i hi)) (hlook.unanswered.trans hun)
            fun _ => Or.inr (Or.inl ⟨error, hverdict, hnew, hrow⟩)
      · refine (ih _).mono (fun p' w' h => ?_) fun _ _ hs => hs
        exact h.after rfl hseen rfl (fun _ hl => hl) (fun _ hl => Or.inl hl) hlook.same
          hlook.unanswered fun _ => Or.inl (hlook.known rfl)

/-! ### The print -/

/-- What the print of a document answers is what its task answered, if it ended in time. -/
lemma dispatchDocument_decides (doc : Document enc) :
    (dispatchDocument secs doc).Ensures
      (fun failure w' => w'.ledger = w.ledger ∧ ∃ t, Since w w' t ∧
        (∀ doc' f, .answered doc' f ∈ t → doc' = doc) ∧ (.answered doc none ∈ t ↔ failure = none))
      (fun _ _ => True) w := by
  refine ensures_bind (ensures_ask trivial fun turn => ?_)
  rcases turn.spoolError with _ | reason
  · refine ensures_bind (ensures_bind (ensures_ask trivial fun turn => ?_))
    rcases turn.inFlight with _ | _
    · refine ensures_bind (ensures_ask trivial fun _ => ensures_bind (ensures_ask trivial
        fun turn => ?_))
      rcases turn.printed with _ | failure
      · exact ensures_pure (ensures_pure ⟨rfl, [.print doc], rfl, by simp, by simp⟩)
      · refine ensures_pure (ensures_pure ⟨rfl, [.answered doc failure, .print doc], rfl,
          fun doc' f hmem => ?_, by simp [eq_comm]⟩)
        simp only [List.mem_cons, LabelEvent.answered.injEq, reduceCtorEq, List.not_mem_nil,
          or_false] at hmem
        exact hmem.1
    · exact ensures_pure (ensures_pure ⟨rfl, [], rfl, by simp, by simp⟩)
  · exact ensures_pure ⟨rfl, [], rfl, by simp, by simp⟩

lemma spoolDocument_decides (doc : Document enc) :
    (spoolDocument secs doc).Ensures
      (fun failure w' => w'.ledger = w.ledger ∧ ∃ t, Since w w' t ∧
        (∀ doc' f, .answered doc' f ∈ t → doc' = doc) ∧ (.answered doc none ∈ t ↔ failure = none))
      (fun _ _ => True) w := by
  refine ensures_bind (ensures_ask trivial fun _ => ensures_bind
    ((dispatchDocument_decides doc).mono ?_ fun _ _ hs => hs))
  rintro failure w₁ ⟨hledger, t, ht, hdoc, hnone⟩
  refine ensures_bind (ensures_ask trivial fun _ => ensures_pure ⟨hledger,
    .spooled :: t ++ [.spool doc], ?_, fun doc' f hmem => hdoc doc' f (by simpa using hmem),
      by simpa using hnone⟩)
  change LabelEvent.spooled :: w₁.trace = _
  rw [ht]
  simp [LabelWorld.remember]

/-- The rows of the lines of a document after its print. -/
def Told (failure : Option String) (w' : LabelWorld enc) (l : PrintableLine enc) : Prop :=
  ∃ r, w'.ledger.get? l.lineId = some r ∧ Ledger.isOwed r = true ∧
    r.printedQty = (if failure = none then l.qty else 0) ∧
    r.error = failure.map truncateAckError

lemma recordLine_decides (batchId : ℤ) (failure : Option String) (l : PrintableLine enc) :
    (match failure with
      | none => recordResult batchId l.lineId l.qty none
      | some reason => recordResult batchId l.lineId 0 (some (truncateAckError reason)) :
        LabelIo enc Unit).Ensures
      (fun _ w' => SameBut l.lineId w w' ∧ Unanswered w w' ∧ Told failure w' l)
      (fun _ _ => True) w := by
  rcases failure with _ | reason
  all_goals
    refine statement_answers fun now a l' hl => ?_
    obtain rfl : _ = l' := congrArg Prod.snd (Option.some.inj hl)
    refine ⟨fun i hi => Ledger.get?_recordResult_of_ne hi, ⟨[], rfl, fun _ _ h => (nomatch h)⟩,
      _, Ledger.get?_recordResult_self, ?_⟩
    rcases w.ledger.get? l.lineId with _ | r
    · exact ⟨rfl, rfl, rfl⟩
    · exact ⟨rfl, rfl, rfl⟩

lemma recordLines_decides (failure : Option String) (lines : List (PrintableLine enc))
    (hnodup : (lines.map PrintableLine.lineId).Nodup) :
    (recordLines batchId failure lines).Ensures
      (fun _ w' => Unanswered w w' ∧ (∀ l ∈ lines, Told failure w' l) ∧
        ∀ id ∉ lines.map PrintableLine.lineId, w'.ledger.get? id = w.ledger.get? id)
      (fun _ _ => True) w := by
  induction lines generalizing w with
  | nil => exact ensures_pure ⟨.refl w, nofun, fun _ _ => rfl⟩
  | cons l rest ih =>
    rw [List.map_cons, List.nodup_cons] at hnodup
    have hrest : ∀ (_ : Unit) w₁, SameBut l.lineId w w₁ ∧ Unanswered w w₁ ∧ Told failure w₁ l →
        (recordLines batchId failure rest).Ensures
          (fun _ w' => Unanswered w w' ∧ (∀ l' ∈ l :: rest, Told failure w' l') ∧
            ∀ id ∉ (l :: rest).map PrintableLine.lineId,
              w'.ledger.get? id = w.ledger.get? id) (fun _ _ => True) w₁ := by
      rintro _ w₁ ⟨hsame, hun, htold⟩
      refine (ih hnodup.2).mono ?_ fun _ _ hs => hs
      rintro _ w₂ ⟨hun₂, htold₂, hothers⟩
      refine ⟨hun.trans hun₂, fun l' hl' => ?_, fun id hid => ?_⟩
      · rcases List.mem_cons.mp hl' with rfl | hl'
        · unfold Told
          rw [hothers _ hnodup.1]
          exact htold
        · exact htold₂ l' hl'
      · rw [List.map_cons, List.mem_cons, not_or] at hid
        exact (hothers id hid.2).trans (hsame id hid.1)
    have hfirst := recordLine_decides (w := w) batchId failure l
    rcases failure with _ | reason
    · exact ensures_bind (hfirst.mono hrest fun _ _ hs => hs)
    · exact ensures_bind (hfirst.mono hrest fun _ _ hs => hs)

/-- What became of the lines that were to be printed; there was no failure exactly if the
backend answered so. -/
structure Printed (lines : List (PrintableLine enc)) (failure : Option String)
    (t : List (LabelEvent enc)) (w w' : LabelWorld enc) : Prop where
  since : Since w w' t
  document : ∀ doc failure', .answered doc failure' ∈ t → doc.lines = lines
  answered : (∃ doc, .answered doc none ∈ t) ↔ failure = none
  new : ∀ l ∈ lines, w.ledger.get? l.lineId = none
  told : ∀ l ∈ lines, Told failure w' l
  others : ∀ id ∉ lines.map PrintableLine.lineId, w'.ledger.get? id = w.ledger.get? id

lemma printBatch_decides (doc : Document enc) :
    (printBatch secs doc).Ensures
      (fun _ w' => ∃ failure t, Printed doc.lines failure t w w') (fun _ _ => True) w := by
  refine ensures_bind (statement_answers fun now a l hl => ?_)
  obtain ⟨l', hl', heq⟩ := Option.map_eq_some_iff.mp hl
  obtain rfl : l' = l := congrArg Prod.snd heq
  obtain ⟨hnodup, hnew⟩ := Ledger.markSending_new hl'
  refine ensures_bind ((spoolDocument_decides doc).mono ?_ fun _ _ hs => hs)
  rintro failure w₁ ⟨hledger, t, ht, hdoc, hnone⟩
  refine (recordLines_decides failure doc.lines hnodup).mono ?_ fun _ _ hs => hs
  rintro _ w₂ ⟨⟨t', ht', hun⟩, htold, hothers⟩
  have hmem : ∀ doc' f, .answered doc' f ∈ t' ++ t ↔ .answered doc' f ∈ t := fun doc' f =>
    ⟨fun h => (List.mem_append.mp h).resolve_left (hun doc' f), List.mem_append_right _⟩
  refine ⟨failure, t' ++ t, ?_, fun doc' f h => ?_, ?_, fun l hl => ?_, htold, fun id hid => ?_⟩
  · rw [Since, ht', ht, List.append_assoc]
    rfl
  · rw [hdoc doc' f ((hmem doc' f).mp h)]
  · simp only [hmem]
    constructor
    · rintro ⟨doc', h⟩
      rw [hdoc doc' none h] at h
      exact hnone.mp h
    · exact fun h => ⟨doc, hnone.mpr h⟩
  · exact hnew _ (List.mem_map_of_mem hl)
  · have hid' : id ∉ doc.ids := hid
    rw [hothers id hid, hledger, Ledger.get?_markSending hl', if_neg hid']

/-! ### The batch -/

/-- The first line of a batch with an id, in print order. -/
def NextBatch.firstLine (batch : NextBatch enc) (id : ℤ) : Option NextLine :=
  batch.linesInOrder.find? fun line => some line.lineId == some id

/-- The label of a line was in a document that the backend printed. -/
def WasPrinted (geometry : Except String enc.Geometry) (t : List (LabelEvent enc))
    (line : NextLine) : Prop :=
  ∃ doc label, .answered doc none ∈ t ∧ encodeLine geometry line.labelPngBase64 = .ok label ∧
    ⟨line.lineId, line.printQty, label⟩ ∈ doc.lines

/-- What became of a line of a batch before the print: known, rejected without a quantity, or
to be printed. -/
def BatchFate (batch : NextBatch enc) (lines : List (PrintableLine enc)) (id : ℤ)
    (row row' : Option LineRow) : Prop :=
  StillKnown row row' ∨ (∃ error, Rejected error row row') ∨
    IsNew row ∧ row' = none ∧ ∃ line l, batch.firstLine id = some line ∧ l ∈ lines ∧
      Takes (enc.geometryFor batch.labelSize) line l

/-- The loops over a batch, before anything is printed. -/
structure Sorted (batch : NextBatch enc) (lines : List (PrintableLine enc))
    (w w' : LabelWorld enc) : Prop where
  unanswered : Unanswered w w'
  fate : ∀ id ∈ batch.offered,
    BatchFate batch lines id (w.ledger.get? id) (w'.ledger.get? id)
  taken : ∀ l ∈ lines, ∃ line, batch.firstLine l.lineId = some line ∧
    Takes (enc.geometryFor batch.labelSize) line l
  others : ∀ id ∉ batch.offered, w'.ledger.get? id = w.ledger.get? id

lemma mem_linesInOrder {batch : NextBatch enc} {line : NextLine} :
    line ∈ batch.linesInOrder ↔ line ∈ batch.lines :=
  List.mem_insertionSort _

/-- The two loops together. -/
lemma sorted_of_through {batch : NextBatch enc} {p₁ p₂ : Progress enc} {w₁ w₂ : LabelWorld enc}
    (h₁ : Through InvalidLine.lineId MalformedFate (fun _ _ => False) batch.invalid
      Progress.start p₁ w w₁)
    (h₂ : Through (fun line => some line.lineId) (LineFate (enc.geometryFor batch.labelSize))
      (Takes (enc.geometryFor batch.labelSize)) batch.linesInOrder p₁ p₂ w₁ w₂) :
    Sorted batch p₂.printable w w₂ := by
  have hids : ∀ id, id ∈ batch.linesInOrder.filterMap (fun line => some line.lineId) ↔
      id ∈ batch.lines.map NextLine.lineId := by
    intro id
    simp [mem_linesInOrder]
  have hseen : ∀ id, id ∈ p₁.seen ↔ id ∈ batch.invalid.filterMap InvalidLine.lineId := by
    intro id
    rw [h₁.seen]
    simp [Progress.start]
  have hnil : p₁.printable = [] := by
    refine List.eq_nil_iff_forall_not_mem.mpr fun l hl => ?_
    rcases h₁.taken l hl with hl | ⟨-, bad, -, hfalse⟩
    · cases hl
    · exact hfalse
  refine ⟨h₁.unanswered.trans h₂.unanswered, fun id hid => ?_, fun l hl => ?_, fun id hid => ?_⟩
  · by_cases hbad : id ∈ p₁.seen
    · -- a malformed mention comes first
      have hmem := (hseen id).mp hbad
      obtain ⟨bad, hin, hkey⟩ := List.mem_filterMap.mp hmem
      rcases hfind : batch.invalid.find? fun bad => bad.lineId == some id with _ | first
      · have hno := List.find?_eq_none.mp hfind bad hin
        simp [hkey] at hno
      · rw [h₂.same id (Or.inl hbad)]
        rcases h₁.decided id (by simp [Progress.start]) first hfind with hknown | hrejected
        · exact Or.inl hknown
        · exact Or.inr (Or.inl ⟨_, hrejected⟩)
    · have hline : id ∈ batch.lines.map NextLine.lineId :=
        (List.mem_append.mp hid).resolve_left fun h => hbad ((hseen id).mpr h)
      rw [← h₁.same id (Or.inr fun h => hbad ((hseen id).mpr h))]
      rcases hfind : batch.firstLine id with _ | first
      · obtain ⟨line, hin, rfl⟩ := List.mem_map.mp hline
        have hno := List.find?_eq_none.mp hfind line (mem_linesInOrder.mpr hin)
        simp at hno
      · rcases h₂.decided id hbad first hfind with hknown | ⟨error, -, hrejected⟩ |
          ⟨hnew, hnone, l, hl, htakes⟩
        · exact Or.inl hknown
        · exact Or.inr (Or.inl ⟨error, hrejected⟩)
        · exact Or.inr (Or.inr ⟨hnew, hnone, first, l, hfind, hl, htakes⟩)
  · rcases h₂.taken l hl with hl | ⟨-, line, hfind, htakes⟩
    · rw [hnil] at hl
      cases hl
    · exact ⟨line, hfind, htakes⟩
  · simp only [NextBatch.offered, List.mem_append, not_or] at hid
    rw [h₂.same id (Or.inr fun h => hid.2 ((hids id).mp h)), h₁.same id (Or.inr hid.1)]

/-- A handled batch was sorted, and what there was to print was printed. -/
lemma handleBatch_decides (secs : ℕ) (batchId : ℤ) (batch : NextBatch enc) :
    (handleBatch secs batchId batch).Ensures
      (fun _ w' => ∃ lines w₁ failure t, Sorted batch lines w w₁ ∧
        Printed lines failure t w₁ w') (fun _ _ => True) w := by
  refine ensures_bind ((rejectInvalid_decides batch.invalid _).mono (fun p₁ w₁ h₁ => ?_)
    fun _ _ hs => hs)
  refine ensures_bind ((takeLines_decides _ batch.linesInOrder p₁).mono (fun p₂ w₂ h₂ => ?_)
    fun _ _ hs => hs)
  have hsorted := sorted_of_through h₁ h₂
  have hnothing : p₂.printable = [] →
      (if p₂.rejected = 0 then pure (.onlyKnownLines batchId p₂.reacked)
        else pure (.batch batchId p₂.printable.length p₂.rejected p₂.reacked) :
          LabelIo enc PollOutcome).Ensures
        (fun _ w' => ∃ lines w₁ failure t, Sorted batch lines w w₁ ∧
          Printed lines failure t w₁ w') (fun _ _ => True) w₂ := by
    intro hnil
    have hnone : Printed p₂.printable (some "") [] w₂ w₂ := by
      rw [hnil]
      exact ⟨rfl, nofun, by simp, nofun, nofun, fun _ _ => rfl⟩
    split
    · exact ensures_pure ⟨_, _, _, _, hsorted, hnone⟩
    · exact ensures_pure ⟨_, _, _, _, hsorted, hnone⟩
  rcases hgeometry : enc.geometryFor batch.labelSize with size | geometry
  · refine hnothing (List.eq_nil_iff_forall_not_mem.mpr fun l hl => ?_)
    obtain ⟨line, -, label, hverdict, -⟩ := hsorted.taken l hl
    rw [hgeometry] at hverdict
    exact lineVerdict_error hverdict
  · rcases hlines : p₂.printable with _ | ⟨line, lines⟩
    · simpa only [hlines] using hnothing hlines
    · refine ensures_bind ((printBatch_decides ⟨batchId, line :: lines, geometry⟩).mono ?_
        fun _ _ hs => hs)
      rintro _ w₃ ⟨failure, t, hprinted⟩
      rw [hlines] at hsorted
      exact ensures_pure ⟨_, _, _, _, hsorted, hprinted⟩

lemma takes_printable {geometry : Except String enc.Geometry} {line : NextLine}
    {l : PrintableLine enc} (h : Takes geometry line l) :
    l.lineId = line.lineId ∧ l.qty = line.printQty ∧
      encodeLine geometry line.labelPngBase64 = .ok l.label := by
  obtain ⟨label, hverdict, rfl⟩ := h
  refine ⟨rfl, rfl, ?_⟩
  unfold lineVerdict at hverdict
  split at hverdict
  · cases hverdict
  · split at hverdict
    · cases hverdict
    · rcases hlabel : encodeLine geometry line.labelPngBase64 with ack | label'
      · rw [hlabel] at hverdict
        cases hverdict
      · rw [hlabel] at hverdict
        cases hverdict
        rfl

lemma lineId_of_firstLine {batch : NextBatch enc} {id : ℤ} {line : NextLine}
    (h : batch.firstLine id = some line) : line.lineId = id := by
  simpa using List.find?_some h

/-- The verdict of a new line with the row: its quantity exactly if its label was printed. -/
def VerdictOf (batch : NextBatch enc) (t : List (LabelEvent enc)) (id : ℤ) (r : LineRow) :
    Prop :=
  (∀ line, batch.firstLine id = some line → line.printQty ≠ 0 →
    ((r.printedQty = line.printQty ∧ r.error = none) ↔
      WasPrinted (enc.geometryFor batch.labelSize) t line)) ∧
  ((∀ doc, .answered doc none ∈ t → id ∉ doc.ids) → r.printedQty = 0)

section Fates

variable {batch : NextBatch enc} {lines : List (PrintableLine enc)} {failure : Option String}
  {t : List (LabelEvent enc)} {id : ℤ} {r : LineRow}

/-- A line that has a row before the print is in no document of the batch. -/
lemma Printed.not_mem (h : Printed lines failure t w w') (hr : w.ledger.get? id = some r) :
    id ∉ lines.map PrintableLine.lineId := by
  intro hmem
  obtain ⟨l, hl, rfl⟩ := List.mem_map.mp hmem
  rw [h.new l hl] at hr
  cases hr

/-- A rejected line has no quantity and its label was not printed. -/
lemma verdictOf_rejected (h : Printed lines failure t w w') (hr : w.ledger.get? id = some r)
    (hqty : r.printedQty = 0) : VerdictOf batch t id r := by
  refine ⟨fun line hline hne => ⟨fun hverdict => ?_, fun hprinted => ?_⟩, fun _ => hqty⟩
  · exact absurd (hverdict.1.symm.trans hqty) hne
  · obtain ⟨doc, label, hanswered, -, hmem⟩ := hprinted
    rw [h.document doc none hanswered] at hmem
    have hid : id ∈ lines.map PrintableLine.lineId := by
      rw [← lineId_of_firstLine hline]
      exact List.mem_map_of_mem hmem
    exact absurd hid (h.not_mem hr)

/-- A line of the document has its quantity if the print did not fail. -/
lemma verdictOf_printable (h : Printed lines failure t w w') {line : NextLine}
    {l : PrintableLine enc} (hline : batch.firstLine id = some line) (hl : l ∈ lines)
    (htakes : Takes (enc.geometryFor batch.labelSize) line l)
    (hqty : r.printedQty = if failure = none then l.qty else 0)
    (herror : r.error = failure.map truncateAckError) : VerdictOf batch t id r := by
  obtain ⟨hid, hlqty, hlabel⟩ := takes_printable htakes
  have hlid : l.lineId = id := hid.trans (lineId_of_firstLine hline)
  refine ⟨fun line' hline' hne => ?_, fun hnone => ?_⟩
  · obtain rfl := Option.some.inj (hline.symm.trans hline')
    constructor
    · rintro ⟨hsame, -⟩
      by_cases hf : failure = none
      · obtain ⟨doc, hanswered⟩ := h.answered.mpr hf
        refine ⟨doc, l.label, hanswered, hlabel, ?_⟩
        rw [h.document doc none hanswered, ← hid, ← hlqty]
        exact hl
      · rw [hqty, if_neg hf] at hsame
        exact absurd hsame.symm hne
    · rintro ⟨doc, label, hanswered, -, -⟩
      have hf := h.answered.mp ⟨doc, hanswered⟩
      rw [hqty, herror, hf]
      exact ⟨hlqty, rfl⟩
  · by_cases hf : failure = none
    · obtain ⟨doc, hanswered⟩ := h.answered.mpr hf
      refine absurd ?_ (hnone doc hanswered)
      have hlines := h.document doc none hanswered
      rw [← hlid, Document.ids, hlines]
      exact List.mem_map_of_mem hl
    · rw [hqty, if_neg hf]

end Fates

/-- When a batch was handled, every line of it with an id has a row that is done and owes its
ack.  A new line has its quantity without an error exactly if its label was in the document
and the backend printed that, where its first mention asks for any, and no quantity if it was
not printed.  A known line keeps its verdict, and no other row changes. -/
theorem batch_verdicts {batch : NextBatch enc} {script : List (Turn enc)} {outcome : PollOutcome}
    (h : (handleBatch secs batchId batch).exec script w = (.ok outcome, w')) :
    ∃ t, Since w w' t ∧
      (∀ id ∈ batch.offered, ∃ r, w'.ledger.get? id = some r ∧ r.state = .done ∧
        r.acked = false ∧
        (IsNew (w.ledger.get? id) → VerdictOf batch t id r) ∧
        ∀ r₀, w.ledger.get? id = some r₀ → ¬ IsNew (some r₀) → Keeps r₀ r) ∧
      ∀ id ∉ batch.offered, w'.ledger.get? id = w.ledger.get? id := by
  have hend := (handleBatch_decides (w := w) secs batchId batch).exec script
  rw [h] at hend
  obtain ⟨lines, w₁, failure, t, hsorted, hprinted⟩ := hend
  obtain ⟨t₀, ht₀, hun⟩ := hsorted.unanswered
  have hmem : ∀ doc f, .answered doc f ∈ t ++ t₀ ↔ .answered doc f ∈ t := fun doc f =>
    ⟨fun h => (List.mem_append.mp h).resolve_right (hun doc f), List.mem_append_left _⟩
  have hverdict : ∀ id r, VerdictOf batch t id r → VerdictOf batch (t ++ t₀) id r := by
    intro id r hv
    unfold VerdictOf WasPrinted at hv ⊢
    simpa only [hmem] using hv
  refine ⟨t ++ t₀, ?_, fun id hid => ?_, fun id hid => ?_⟩
  · rw [Since, hprinted.since, ht₀, List.append_assoc]
  · rcases hsorted.fate id hid with ⟨hknown, r, r', hr, hr', howed, hkeeps⟩ |
      ⟨error, hnew, r, hr, howed, hqty, -⟩ | ⟨hnew, -, line, l, hline, hl, htakes⟩
    · obtain ⟨hdone, hacked⟩ := isOwed_iff.mp howed
      refine ⟨r', (hprinted.others id (hprinted.not_mem hr')).trans hr', hdone, hacked,
        fun hnew => absurd hnew hknown, fun r₀ hr₀ _ => ?_⟩
      obtain rfl := Option.some.inj (hr.symm.trans hr₀)
      exact hkeeps
    · obtain ⟨hdone, hacked⟩ := isOwed_iff.mp howed
      refine ⟨r, (hprinted.others id (hprinted.not_mem hr)).trans hr, hdone, hacked,
        fun _ => hverdict id r (verdictOf_rejected hprinted hr hqty), fun r₀ hr₀ hknown => ?_⟩
      exact absurd (hr₀ ▸ hnew) hknown
    · obtain ⟨r, hr, howed, hqty, herror⟩ := hprinted.told l hl
      obtain ⟨hdone, hacked⟩ := isOwed_iff.mp howed
      have hlid : l.lineId = id := (takes_printable htakes).1.trans (lineId_of_firstLine hline)
      refine ⟨r, hlid ▸ hr, hdone, hacked,
        fun _ => hverdict id r (verdictOf_printable hprinted hline hl htakes hqty herror),
        fun r₀ hr₀ hknown => ?_⟩
      exact absurd (hr₀ ▸ hnew) hknown
  · have hlines : id ∉ lines.map PrintableLine.lineId := by
      intro hmem
      obtain ⟨l, hl, rfl⟩ := List.mem_map.mp hmem
      obtain ⟨line, hline, -⟩ := hsorted.taken l hl
      have hin := mem_linesInOrder.mp (List.mem_of_find?_eq_some hline)
      rw [← lineId_of_firstLine hline] at hid
      exact hid (List.mem_append_right _ (List.mem_map_of_mem hin))
    exact (hprinted.others id hlines).trans (hsorted.others id hid)

/-! ### Two batches -/

/-- The state of a new process. -/
def newWorld : LabelWorld plainLabels := ⟨Table.empty, [], true⟩

/-- A line with a malformed one and a repeat is printed. -/
theorem batch_verdicts_printed :
    ∃ (script : List (Turn plainLabels)) (outcome : PollOutcome) (w' : LabelWorld plainLabels),
      (handleBatch 10 1 ⟨some 1, [⟨7, 0, 3, "label"⟩, ⟨7, 1, 5, "again"⟩], [⟨some 8, "bad"⟩], ()⟩ :
        LabelIo plainLabels PollOutcome).exec script newWorld = (.ok outcome, w') ∧
      ∃ r, w'.ledger.get? 7 = some r ∧ r.state = .done ∧ r.acked = false ∧ r.printedQty = 3 := by
  let batch : NextBatch plainLabels :=
    ⟨some 1, [⟨7, 0, 3, "label"⟩, ⟨7, 1, 5, "again"⟩], [⟨some 8, "bad"⟩], ()⟩
  let script := quiet 0 8 ++ [{ printed := some none }] ++ quiet 0 2
  let w' := ((handleBatch 10 1 batch).exec script newWorld).2
  have hrun : (handleBatch 10 1 batch).exec script newWorld = (.ok (.batch 1 1 1 0), w') := by
    rfl
  obtain ⟨t, -, hrows, -⟩ := batch_verdicts hrun
  obtain ⟨r, hr, hdone, hacked, -, -⟩ := hrows 7 (by decide)
  have hqty : (w'.ledger.get? 7).map LineRow.printedQty = some 3 := by rfl
  rw [hr] at hqty
  exact ⟨script, _, w', hrun, r, hr, hdone, hacked, Option.some.inj hqty⟩

/-- A line that asks for no labels gets its quantity without an error, and nothing is
printed. -/
theorem nothing_to_print : ¬ ∀ (batch : NextBatch plainLabels) (w w' : LabelWorld plainLabels)
    (script : List (Turn plainLabels)) (outcome : PollOutcome) (t : List (LabelEvent plainLabels)),
    (handleBatch 10 1 batch).exec script w = (.ok outcome, w') → Since w w' t →
    ∀ id line r, batch.firstLine id = some line → IsNew (w.ledger.get? id) →
      w'.ledger.get? id = some r →
      ((r.printedQty = line.printQty ∧ r.error = none) ↔ WasPrinted (.ok ()) t line) := by
  intro h
  let w' := ((handleBatch 10 1 (oneLine 7 0 "label")).exec (quiet 0 2) newWorld).2
  have hrun : (handleBatch 10 1 (oneLine 7 0 "label")).exec (quiet 0 2) newWorld =
      (.ok (.batch 1 0 1 0), w') := by
    rfl
  have hiff := h (oneLine 7 0 "label") newWorld w' (quiet 0 2) _ [] hrun rfl 7
    ⟨7, 0, 0, "label"⟩ (Ledger.resultRow 0 1 0 none) rfl (fun r hr => by simp [newWorld] at hr) rfl
  obtain ⟨doc, label, hanswered, -⟩ := hiff.mp ⟨rfl, rfl⟩
  cases hanswered

end Labels

end DevBridge

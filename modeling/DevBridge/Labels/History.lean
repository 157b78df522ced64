import DevBridge.Labels.Source

/-!
# What the ledger knows of the history

Whatever a run has done to a line is read off its events: whether it was printed since its row
was last dropped, and what the last ack since then said.  The invariant ties the two to the
row: a printed line has a row that says `sent`, an acknowledged line has a row with the verdict
that was told.  From it follows, event by event, that nothing is printed or forgotten that was
printed before, and that two acks never disagree.
-/

namespace DevBridge

namespace Labels

variable {enc : Encoder}

/-! ### Reading a history -/

/-- The line was in a document, and its row was not dropped since. -/
def PrintedSince (id : ℤ) : List (LabelEvent enc) → Prop
  | [] => False
  | .print doc :: t => id ∈ doc.ids ∨ PrintedSince id t
  | .forget i :: t => i ≠ id ∧ PrintedSince id t
  | .prune i :: t => i ≠ id ∧ PrintedSince id t
  | .spool _ :: t | .answered _ _ :: t | .spooled :: t | .ack _ _ _ _ :: t | .ended :: t =>
    PrintedSince id t

/-- What the last ack of the line said, if its row was not dropped since. -/
def toldSince (id : ℤ) : List (LabelEvent enc) → Option (ℤ × Option String)
  | [] => none
  | .ack i printedQty error _ :: t =>
    if i = id then some (printedQty, error) else toldSince id t
  | .forget i :: t => if i = id then none else toldSince id t
  | .prune i :: t => if i = id then none else toldSince id t
  | .spool _ :: t | .print _ :: t | .answered _ _ :: t | .spooled :: t | .ended :: t =>
    toldSince id t

/-- The document whose `spool_document` call of this process has not returned. -/
def underway : List (LabelEvent enc) → Option (Document enc)
  | [] => none
  | .spool doc :: _ => some doc
  | .spooled :: _ => none
  | .ended :: _ => none
  | .print _ :: t | .answered _ _ :: t | .ack _ _ _ _ :: t | .forget _ :: t | .prune _ :: t =>
    underway t

/-- Odoo decided on the ack. -/
def isDecided : AckAnswer → Bool
  | .ok _ => true
  | .error (.business _) => true
  | .error _ => false

/-- An event that may follow a history. -/
def LabelEvent.Fits (t : List (LabelEvent enc)) : LabelEvent enc → Prop
  | .print doc => doc.ids.Nodup ∧ ∀ id ∈ doc.ids, ¬ PrintedSince id t
  | .forget id => ¬ PrintedSince id t
  | .ack id printedQty error _ =>
    (∀ told ∈ toldSince id t, told = (printedQty, error)) ∧
      (error ≠ none → printedQty = 0) ∧ ∀ doc ∈ underway t, id ∉ doc.ids
  | .spool _ | .answered _ _ | .spooled | .prune _ | .ended => True

/-- Every event fits the history before it. -/
def Sound : List (LabelEvent enc) → Prop
  | [] => True
  | event :: t => event.Fits t ∧ Sound t

lemma Sound.of_append {t t' : List (LabelEvent enc)} (h : Sound (t ++ t')) : Sound t' := by
  induction t with
  | nil => exact h
  | cons event t ih => exact ih h.2

/-- The row of a line is dropped. -/
def LabelEvent.Drops (id : ℤ) : LabelEvent enc → Prop
  | .forget i => i = id
  | .prune i => i = id
  | _ => False

/-- A printed line is never forgotten, so only `prune` can make it new again. -/
lemma printedSince_append {id : ℤ} {t t' : List (LabelEvent enc)} (hsound : Sound (t ++ t'))
    (h : .prune id ∉ t) (hprinted : PrintedSince id t') : PrintedSince id (t ++ t') := by
  induction t with
  | nil => exact hprinted
  | cons event t ih =>
    have hrest := ih hsound.2 fun hmem => h (List.mem_cons_of_mem _ hmem)
    cases event with
    | print doc => exact Or.inr hrest
    | forget i =>
      refine ⟨fun hi => ?_, hrest⟩
      subst hi
      exact hsound.1 hrest
    | prune i =>
      refine ⟨fun hi => ?_, hrest⟩
      subst hi
      exact h List.mem_cons_self
    | spool doc => exact hrest
    | answered doc failure => exact hrest
    | spooled => exact hrest
    | ack i q e a => exact hrest
    | ended => exact hrest

/-- As long as the row is not dropped, the last ack is that of the history before or says the
same as it. -/
lemma toldSince_append {id : ℤ} {t t' : List (LabelEvent enc)} {told : ℤ × Option String}
    (hsound : Sound (t ++ t')) (h : ∀ event ∈ t, ¬ event.Drops id)
    (htold : toldSince id t' = some told) : toldSince id (t ++ t') = some told := by
  induction t with
  | nil => exact htold
  | cons event t ih =>
    have hrest := ih hsound.2 fun e he => h e (List.mem_cons_of_mem _ he)
    have hdrop := h event List.mem_cons_self
    cases event with
    | ack i q e a =>
      by_cases hi : i = id
      · subst hi
        have hsame := hsound.1.1 told hrest
        simp [toldSince, hsame]
      · simpa [toldSince, hi] using hrest
    | forget i =>
      have hi : i ≠ id := hdrop
      simpa [toldSince, hi] using hrest
    | prune i =>
      have hi : i ≠ id := hdrop
      simpa [toldSince, hi] using hrest
    | print doc => exact hrest
    | spool doc => exact hrest
    | answered doc failure => exact hrest
    | spooled => exact hrest
    | ended => exact hrest

/-! ### The invariant -/

/-- The events of the second state that are not of the first. -/
def Since (w w' : LabelWorld enc) (t : List (LabelEvent enc)) : Prop := w'.trace = t ++ w.trace

/-- Odoo decided on an ack of the line after the first state. -/
def DecidedSince (w w' : LabelWorld enc) (id : ℤ) : Prop :=
  ∃ t, Since w w' t ∧ ∃ printedQty error answer,
    .ack id printedQty error answer ∈ t ∧ isDecided answer = true

/-- The ledger has a verdict of the line, and its ack is owed. -/
def OwesAck (w : LabelWorld enc) (id : ℤ) : Prop :=
  ∃ r, w.ledger.get? id = some r ∧ Ledger.isOwed r = true

/-- What the ledger says of the history, and what became of the acks that an earlier state
owed. -/
structure LabelInv (w₀ w : LabelWorld enc) : Prop where
  sound : Sound w.trace
  sent : ∀ id, PrintedSince id w.trace → ∃ r, w.ledger.get? id = some r ∧ r.sent = true
  told : ∀ id v, toldSince id w.trace = some v → ∃ r, w.ledger.get? id = some r ∧
    r.state = .done ∧ v = (r.printedQty, r.error.map truncateAckError)
  clean : ∀ id r, w.ledger.get? id = some r → r.error ≠ none → r.printedQty = 0
  grows : ∃ t, Since w₀ w t
  owed : ∀ id r, w₀.ledger.get? id = some r → Ledger.isOwed r = true →
    (∃ r', w.ledger.get? id = some r' ∧ Ledger.isOwed r' = true ∧
      r'.printedQty = r.printedQty ∧ r'.error = r.error) ∨ DecidedSince w₀ w id

/-- Between two calls of `spool_document`. -/
def Idle (w : LabelWorld enc) : Prop := underway w.trace = none

variable {w₀ w w' : LabelWorld enc}

lemma DecidedSince.mono {id : ℤ} (h : DecidedSince w₀ w id) {t : List (LabelEvent enc)}
    (ht : Since w w' t) : DecidedSince w₀ w' id := by
  obtain ⟨t₀, ht₀, q, e, a, hmem, ha⟩ := h
  refine ⟨t ++ t₀, ?_, q, e, a, List.mem_append_right t hmem, ha⟩
  rw [Since, ht, ht₀, List.append_assoc]

lemma isOwed_iff {r : LineRow} : Ledger.isOwed r = true ↔ r.state = .done ∧ r.acked = false := by
  simp [Ledger.isOwed]

namespace LabelInv

/-- A state is its own beginning. -/
lemma refl (h : LabelInv w₀ w) : LabelInv w w :=
  ⟨h.sound, h.sent, h.told, h.clean, ⟨[], rfl⟩, fun _ r hr howed =>
    Or.inl ⟨r, hr, howed, rfl, rfl⟩⟩

/-- A row that comes later: nothing that was said of it changes. -/
structure Later (r r' : LineRow) : Prop where
  sent : r.sent = true → r'.sent = true
  verdict : r.state = .done →
    r'.state = .done ∧ r'.printedQty = r.printedQty ∧ r'.error = r.error

/-- Rows change, no event is remembered. -/
lemma of_rows {l : Ledger} (h : LabelInv w₀ w)
    (hlater : ∀ id r, w.ledger.get? id = some r → ∃ r', l.get? id = some r' ∧ Later r r')
    (hclean : ∀ id r, l.get? id = some r → r.error ≠ none → r.printedQty = 0)
    (howed : ∀ id r, w.ledger.get? id = some r → Ledger.isOwed r = true →
      (∀ r', l.get? id = some r' → Ledger.isOwed r' = true) ∨ DecidedSince w₀ w id) :
    LabelInv w₀ { w with ledger := l } where
  sound := h.sound
  sent id hid := by
    obtain ⟨r, hr, hsent⟩ := h.sent id hid
    obtain ⟨r', hr', hl⟩ := hlater id r hr
    exact ⟨r', hr', hl.sent hsent⟩
  told id v hv := by
    obtain ⟨r, hr, hdone, hsame⟩ := h.told id v hv
    obtain ⟨r', hr', hl⟩ := hlater id r hr
    obtain ⟨hdone', hqty, herror⟩ := hl.verdict hdone
    exact ⟨r', hr', hdone', by rw [hqty, herror]; exact hsame⟩
  clean := hclean
  grows := h.grows
  owed id r hr ho := by
    rcases h.owed id r hr ho with ⟨r₁, hr₁, ho₁, hqty, herror⟩ | hdecided
    · rcases howed id r₁ hr₁ ho₁ with hkeeps | hdecided
      · obtain ⟨r₂, hr₂, hl⟩ := hlater id r₁ hr₁
        obtain ⟨-, hqty', herror'⟩ := hl.verdict (isOwed_iff.mp ho₁).1
        exact Or.inl ⟨r₂, hr₂, hkeeps r₂ hr₂, hqty'.trans hqty, herror'.trans herror⟩
      · exact Or.inr hdecided
    · exact Or.inr hdecided

/-- Every row is rewritten, no event is remembered. -/
lemma of_map {l : Ledger} (f : ℤ → LineRow → LineRow) (h : LabelInv w₀ w)
    (hl : ∀ id, l.get? id = (w.ledger.get? id).map (f id))
    (hlater : ∀ id r, w.ledger.get? id = some r → Later r (f id r))
    (hclean : ∀ id r, w.ledger.get? id = some r → (r.error ≠ none → r.printedQty = 0) →
      (f id r).error ≠ none → (f id r).printedQty = 0)
    (howed : ∀ id r, w.ledger.get? id = some r → Ledger.isOwed r = true →
      Ledger.isOwed (f id r) = true ∨ DecidedSince w₀ w id) :
    LabelInv w₀ { w with ledger := l } := by
  refine h.of_rows (fun id r hr => ⟨f id r, by rw [hl, hr]; rfl, hlater id r hr⟩)
    (fun id r hr => ?_) fun id r hr ho => (howed id r hr ho).imp_left fun hkeeps r' hr' => ?_
  · rw [hl] at hr
    obtain ⟨r₀, hr₀, rfl⟩ := Option.map_eq_some_iff.mp hr
    exact hclean id r₀ hr₀ (h.clean id r₀ hr₀)
  · rw [hl, hr] at hr'
    obtain rfl := Option.some.inj hr'
    exact hkeeps

/-- An event is remembered that drops no row. -/
lemma of_event {event : LabelEvent enc} (h : LabelInv w₀ w) (hfits : event.Fits w.trace)
    (hsent : ∀ id, PrintedSince id (event :: w.trace) →
      ∃ r, w.ledger.get? id = some r ∧ r.sent = true)
    (htold : ∀ id v, toldSince id (event :: w.trace) = some v →
      ∃ r, w.ledger.get? id = some r ∧ r.state = .done ∧
        v = (r.printedQty, r.error.map truncateAckError)) :
    LabelInv w₀ (w.remember event) where
  sound := ⟨hfits, h.sound⟩
  sent := hsent
  told := htold
  clean := h.clean
  grows := by
    obtain ⟨t, ht⟩ := h.grows
    exact ⟨event :: t, congrArg (event :: ·) ht⟩
  owed id r hr ho := (h.owed id r hr ho).imp_right fun hdecided =>
    hdecided.mono (show Since w (w.remember event) [event] from rfl)

/-- The rows of some lines are dropped. -/
lemma of_drops {l : Ledger} (h : LabelInv w₀ w) (ids : List ℤ) (events : List (LabelEvent enc))
    (hrow : ∀ id, l.get? id = if id ∈ ids then none else w.ledger.get? id)
    (hevents : Sound (events ++ w.trace))
    (hprinted : ∀ id, PrintedSince id (events ++ w.trace) → id ∉ ids ∧ PrintedSince id w.trace)
    (htold : ∀ id v, toldSince id (events ++ w.trace) = some v →
      id ∉ ids ∧ toldSince id w.trace = some v)
    (hacked : ∀ id ∈ ids, ∀ r, w.ledger.get? id = some r → Ledger.isOwed r = false) :
    LabelInv w₀ { w with ledger := l, trace := events ++ w.trace } where
  sound := hevents
  sent id hid := by
    obtain ⟨hkept, hbefore⟩ := hprinted id hid
    obtain ⟨r, hr, hsent⟩ := h.sent id hbefore
    exact ⟨r, by rw [hrow, if_neg hkept]; exact hr, hsent⟩
  told id v hv := by
    obtain ⟨hkept, hbefore⟩ := htold id v hv
    obtain ⟨r, hr, hsame⟩ := h.told id v hbefore
    exact ⟨r, by rw [hrow, if_neg hkept]; exact hr, hsame⟩
  clean id r hr := by
    rw [hrow] at hr
    split at hr
    · cases hr
    · exact h.clean id r hr
  grows := by
    obtain ⟨t, ht⟩ := h.grows
    exact ⟨events ++ t, by rw [Since, ht, List.append_assoc]⟩
  owed id r hr ho := by
    have hsince : Since w { w with ledger := l, trace := events ++ w.trace } events := rfl
    rcases h.owed id r hr ho with ⟨r', hr', ho', hsame⟩ | hdecided
    · refine Or.inl ⟨r', ?_, ho', hsame⟩
      have hkept : id ∉ ids := fun hmem => by
        rw [hacked id hmem r' hr'] at ho'
        cases ho'
      rw [hrow, if_neg hkept]
      exact hr'
    · exact Or.inr (hdecided.mono hsince)

end LabelInv

end Labels

end DevBridge

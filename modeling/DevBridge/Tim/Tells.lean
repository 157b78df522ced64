import DevBridge.Tim.Channels

/-!
# What is told of the money

Whether the money of a payment was taken is told by its settle jobs and by the reconciles: from
the answer of the session that holds it, from its row, or from the last transaction of the
terminal.  Each of their steps keeps to the truth when what it reads is true.
-/

namespace DevBridge.Tim

/-! ### What the other calls say of the money -/

/-- What a settle job that is `done` says of the money. -/
def JobTells (taken : Prop) (job : DeviceJob) : Prop :=
  ∀ op : SettleOp, op.jobType = job.jobType → op.Tells taken

/-- What a state of its call says. -/
def SettlePc.Tells (taken : Prop) (op : SettleOp) : SettlePc → Prop
  | card _ _ entry => entry.state.Tells taken
  | returned outcome => ∀ result, outcome = .done result → op.Tells taken
  | _ => True

namespace ReconcilePc

/-- What a state of the reconcile of a payment says.  A payment whose contact is not journaled
was never sent. -/
def PaymentTells (taken : Prop) (entry : JournalEntry) : ReconcilePc → Prop
  | start => entry.deviceContactAt = none → ¬ taken
  | card | asking _ | reading _ _ | judging _ _ _ | person _ => True
  | charged _ _ _ => taken
  | answered a => ∀ outcome, a.outcome = some outcome → outcome.state.Tells taken
  | settleRow _ _ | settleCard _ _ _ | shift _ | running _ => False

/-- What a state of the reconcile of a settle job says. -/
def SettleTells (taken : Prop) (target : ℤ) (job : DeviceJob) : ReconcilePc → Prop
  | start => True
  | settleRow op target' => op.jobType = job.jobType ∧ target' = target
  | settleCard op target' row =>
    op.jobType = job.jobType ∧ target' = target ∧ row.state.Tells taken
  | answered a => ∀ result, a = .done result → JobTells taken job
  | card | asking _ | reading _ _ | judging _ _ _ | charged _ _ _ | person _ | shift _
  | running _ => False

end ReconcilePc

/-- What the terminal's last transaction says of a payment is true. -/
def Judges (taken : Prop) (c : Correlation) : Prop :=
  (∀ facts, c = .charged facts → taken) ∧ (c = .notCharged → ¬ taken)

section Steps

variable {cfg : TimConfig} {now : Time} {i : ℕ} {s s' : TimState} {ev : TimEvent} {taken : Prop}

lemma settleRow_ok {job : DeviceJob} {target : ℤ} {row : Option JournalEntry}
    {entry : JournalEntry} (h : settleRow job target row = .ok entry) :
    row = some entry ∧ (TwoPhase.ofJob entry.job.jobType).isSome := by
  unfold settleRow at h
  split at h
  · cases h
  · split at h
    · cases h
    · rename_i hkind
      cases h
      push Not at hkind
      exact ⟨rfl, by simpa [Option.isSome_iff_ne_none] using hkind.1⟩

/-- The job types of a settle request are not those of a payment. -/
lemma jobType_ne {op : SettleOp} {kind : String} (h : (TwoPhase.ofJob kind).isSome) :
    op.jobType ≠ kind := by
  rintro rfl
  cases op <;> cases h

lemma notFiscal_of_payment {kind : String} (h : (TwoPhase.ofJob kind).isSome) :
    Executor.isFiscal kind = false := by
  unfold TwoPhase.ofJob at h
  split_ifs at h with hpurchase hcredit
  · rw [hpurchase]
    decide
  · rw [hcredit]
    decide
  · cases h

lemma notFiscal_of_settle (op : SettleOp) : Executor.isFiscal op.jobType = false := by
  cases op <;> decide

lemma SettlePc.Tells.step {job : DeviceJob} {op : SettleOp} {pc pc' : SettlePc}
    (h : pc.Tells taken op) (hstep : settleStep cfg i job op s pc ev = some (pc', s'))
    (hrow : ∀ target e, pc.target = some target → s.journal.get target = some e →
      (TwoPhase.ofJob e.job.jobType).isSome → e.state.Tells taken)
    (hreply : ∀ r, s.vol.replies i = some (some r) → r.Tells taken) : pc'.Tells taken op := by
  cases SettleMove.of_step hstep with
  | begin | passed | found | again | sent => trivial
  | refused pc ev outcome hne => exact fun result hdone => absurd hdone (hne result)
  | read target again entry hok =>
    obtain ⟨hget, hkind⟩ := settleRow_ok hok
    exact hrow target entry rfl hget hkind
  | decided target entry =>
    exact fun result hdone => settleOutcome_tells hdone (purchaseState_tells h)
  | replied target reply hr => exact fun result hdone => settleOutcome_tells hdone (hreply reply hr)

lemma stillUnknown_tells (entry : JournalEntry) (reason : String) :
    ReconcilePc.PaymentTells taken entry (.answered (.stillUnknown reason)) := by
  rintro outcome ⟨⟩

lemma mayAsk_tells (entry : JournalEntry) (started : Time) (card : CardPayment) :
    (mayAsk cfg now started entry.job card).PaymentTells taken entry := by
  unfold mayAsk
  simp only
  split
  · exact stillUnknown_tells _ _
  · split
    · exact stillUnknown_tells _ _
    · split
      · trivial
      · exact stillUnknown_tells _ _

lemma afterReading_tells (entry : JournalEntry) (card : CardPayment)
    (r : Except SessionFail ErrandEnd) : (afterReading card r).PaymentTells taken entry := by
  unfold afterReading
  split
  · trivial
  · exact stillUnknown_tells _ _
  · exact stillUnknown_tells _ _
  · exact stillUnknown_tells _ _

lemma judge_tells (entry : JournalEntry) (card : CardPayment) (tid : Option String)
    (last : LastTransaction) (later : Bool)
    (h : Judges taken (correlate (oursOf card later) last)) :
    (judge card tid last later).PaymentTells taken entry := by
  unfold judge
  split
  · rename_i facts hcharged
    exact h.1 facts hcharged
  · rename_i hnot
    split
    · rintro outcome ⟨⟩
      exact h.2 hnot
    · rintro outcome ⟨⟩
      exact h.2 hnot
  · trivial

/-- With a later payment nothing can be told. -/
lemma judges_later (card : CardPayment) (last : LastTransaction) :
    Judges taken (correlate (oursOf card true) last) := by
  constructor
  · rintro facts ⟨⟩
  · rintro ⟨⟩

lemma beginReconcile_tells {entry : JournalEntry}
    (hkind : (TwoPhase.ofJob entry.job.jobType).isSome)
    (h : entry.deviceContactAt = none → ¬ taken) :
    (beginReconcile entry).PaymentTells taken entry := by
  unfold beginReconcile
  simp only
  rw [if_pos (Or.inl hkind)]
  split
  · rename_i hnone
    rintro outcome ⟨⟩
    exact h (Option.isNone_iff_eq_none.mp hnone)
  · trivial

/-- One step of the reconcile of a payment. -/
lemma ReconcilePc.PaymentTells.step {entry : JournalEntry} {pc pc' : ReconcilePc}
    (h : pc.PaymentTells taken entry)
    (hstep : reconcileStep cfg now i entry s pc ev = some (pc', s'))
    (hkind : (TwoPhase.ofJob entry.job.jobType).isSome)
    (hjudge : ∀ card tid last, pc = .judging card tid last →
      Judges taken (correlate (oursOf card (s.journal.cardLaterOnTerminal entry.job.id)) last)) :
    pc'.PaymentTells taken entry := by
  have hcharged : ∀ card tid facts, taken →
      (chargedAnswer cfg card tid facts).PaymentTells taken entry := by
    rintro card tid facts htaken outcome ⟨⟩
    exact htaken
  unfold reconcileStep at hstep
  split at hstep
  · cases hstep
    exact beginReconcile_tells hkind h
  · split at hstep
    · cases hstep
      exact stillUnknown_tells _ _
    · split at hstep
      · cases hstep
        exact stillUnknown_tells _ _
      · cases hstep
        trivial
  · cases hstep
    exact stillUnknown_tells _ _
  · cases hstep
    exact mayAsk_tells _ _ _
  · cases hstep
    exact afterReading_tells _ _ _
  · rw [Option.map_eq_some_iff] at hstep
    obtain ⟨⟨x', s₁⟩, -, heq⟩ := hstep
    cases heq
    trivial
  · cases hstep
    exact judge_tells _ _ _ _ _ (hjudge _ _ _ rfl)
  · cases hstep
    exact judge_tells _ _ _ _ _ (judges_later _ _)
  · cases hstep
    exact hcharged _ _ _ h
  · cases hstep
    exact hcharged _ _ _ h
  · cases hstep
    exact stillUnknown_tells _ _
  · cases hstep
    exact stillUnknown_tells _ _
  all_goals first | exact h.elim | cases hstep

lemma jobType_injective {op op' : SettleOp} (h : op.jobType = op'.jobType) : op = op' := by
  cases op <;> cases op' <;> first | rfl | exact absurd h (by decide)

lemma jobTells_of_op {job : DeviceJob} {op : SettleOp} (hop : op.jobType = job.jobType)
    (h : op.Tells taken) : JobTells taken job := by
  intro op' hop'
  rw [jobType_injective (hop'.trans hop.symm)]
  exact h

lemma asReconciliation_done {outcome : Outcome} {result : Json}
    (h : asReconciliation outcome = .done result) : outcome = .done result := by
  cases outcome <;> cases h
  rfl

lemma beginReconcile_settle {entry : JournalEntry} {op : SettleOp} {target : ℤ}
    (hop : op.jobType = entry.job.jobType) (htarget : settleTarget entry.job = some target) :
    beginReconcile entry = .settleRow op target := by
  unfold beginReconcile
  simp only [← hop]
  have hkind : ∀ op : SettleOp, ¬ ((TwoPhase.ofJob op.jobType).isSome = true ∨
      op.jobType = JOB_REVERSAL) ∧ ¬ ((TerminalOp.ofJob op.jobType).isSome = true ∨
      op.jobType = JOB_PRINT_COPY) ∧ isSettle op.jobType = true ∧
      (if op.jobType = JOB_COMMIT then SettleOp.commit else .rollback) = op := by
    intro op
    cases op <;> decide
  obtain ⟨h₁, h₂, h₃, h₄⟩ := hkind op
  rw [if_neg h₁, if_neg h₂, if_pos h₃, htarget, h₄]

/-- One step of the reconcile of a settle job. -/
lemma ReconcilePc.SettleTells.step {entry : JournalEntry} {pc pc' : ReconcilePc} {op : SettleOp}
    {target : ℤ} (h : pc.SettleTells taken target entry.job)
    (hstep : reconcileStep cfg now i entry s pc ev = some (pc', s'))
    (hop : op.jobType = entry.job.jobType) (htarget : settleTarget entry.job = some target)
    (hrow : ∀ e, s.journal.get target = some e → (TwoPhase.ofJob e.job.jobType).isSome →
      e.state.Tells taken) : pc'.SettleTells taken target entry.job := by
  have hrefused : ∀ {outcome : Outcome}, (∀ result, outcome ≠ .done result) →
      (ReconcilePc.answered (asReconciliation outcome)).SettleTells taken target entry.job :=
    fun hne result hdone => absurd (asReconciliation_done hdone) (hne result)
  -- the row of the payment decides
  have hdecided : ∀ (op' : SettleOp) (target' : ℤ) (row : JournalEntry) (card : Option CardPayment),
      op'.jobType = entry.job.jobType → row.state.Tells taken →
      (ReconcilePc.answered (asReconciliation ((Tim.settleCard cfg entry.job card).getD
        (settleOutcome op' target' (purchaseState row))))).SettleTells taken target entry.job := by
    intro op' target' row card hop' htells
    cases hcard : Tim.settleCard cfg entry.job card with
    | some refusal => exact hrefused (settleCard_ne_done hcard)
    | none =>
      exact fun result hdone => jobTells_of_op hop'
        (settleOutcome_tells (asReconciliation_done hdone) (purchaseState_tells htells))
  unfold reconcileStep at hstep
  split at hstep
  · cases hstep
    rw [beginReconcile_settle hop htarget]
    exact ⟨hop, rfl⟩
  iterate 11 exact h.elim
  · obtain ⟨hop', rfl⟩ := h
    split at hstep
    · rename_i purchase hok
      cases hstep
      obtain ⟨hget, hkind⟩ := settleRow_ok hok
      exact ⟨hop', rfl, hrow purchase hget hkind⟩
    · rename_i refusal herror
      cases hstep
      exact hrefused (settleRow_error herror)
  · cases hstep
    exact hrefused (by rintro result ⟨⟩)
  · cases hstep
    exact hdecided _ _ _ _ h.1 h.2.2
  · cases hstep
    exact hdecided _ _ _ _ h.1 h.2.2
  all_goals first | exact h.elim | cases hstep

end Steps

end DevBridge.Tim

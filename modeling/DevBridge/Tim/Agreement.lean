import DevBridge.Source.AtMostOnce
import DevBridge.Tim.Tells

/-!
# Everyone agrees on the money

Whether the money of a payment was taken is told in many places: by the session that holds the
payment, to the settle jobs that it answers, by a reconcile that asks the terminal for its last
transaction, by the journal, and to the settle jobs that find the payment there.  If the terminal
answers truthfully, all of them tell the same, whatever the order of the steps: no two settle jobs
contradict each other, and none contradicts the payment.
-/

namespace DevBridge.Tim

variable {F : Executor} {cfg : TimConfig} {timing : Timing}
  {w w' : World (cardWith F cfg)} {e : Event (cardWith F cfg)} {taken : Prop} {t : ℤ}

/-! ### A payment that is over -/

/-- The payment is taken out of its row, and no call of it will ask for a commit (any more): it
is decided, or its contact cannot be journaled. -/
def Over (t : ℤ) (w : World (cardWith F cfg)) : Prop :=
  w.Spent t ∧ ∀ i job kind pc, w.proc.tasks i = some (.inr (.twoPhase job kind pc)) →
    job.id = t → pc.Over ∨
      ¬ pc.Contacted ∧ ∀ e, w.journal.get t = some e → e.state ≠ .executing

/-- Only the call of the payment commits it, once it is contacted and not decided. -/
lemma commitSent_step (hmove : CallsMove w e w') (hsent : CommitSent w'.dev.2.log t) :
    CommitSent w.dev.2.log t ∨ ∃ i job kind pc,
      w.proc.tasks i = some (.inr (.twoPhase job kind pc)) ∧ job.id = t ∧ pc.Contacted ∧
        ¬ pc.Over := by
  cases hmove with
  | other hdev => exact Or.inl (hdev ▸ hsent)
  | wiped hdev => exact Or.inl (hdev ▸ hsent)
  | stepped i ev u u' he htask hstep =>
    have htim := (TimMove.of_step hstep).1
    by_cases hne : ∀ job kind pc, u = .twoPhase job kind pc → job.id ≠ t
    · exact Or.inl ((htim.commitSent hne).mp hsent)
    · push Not at hne
      obtain ⟨job, kind, pc, rfl, rfl⟩ := hne
      change CommitSent (cards w').dev.log job.id at hsent
      generalize cards w' = s' at htim hsent
      cases htim with
      | elapsed => exact Or.inl hsent
      | twoPhase _ _ _ pc' _ _ hpay =>
        by_cases hover : pc.Over
        · exact Or.inl ((hpay.stays_over hover).2 hsent)
        · refine (hpay.contacted.1 hsent).imp_right fun hcontacted => ?_
          exact ⟨i, job, kind, pc, htask, rfl, hcontacted, hover⟩

lemma Over.commitSent (h : Over t w) (hmove : CallsMove w e w')
    (hsent : CommitSent w'.dev.2.log t) : CommitSent w.dev.2.log t := by
  rcases commitSent_step hmove hsent with hold | ⟨i, job, kind, pc, ht, hid, hcontacted, hopen⟩
  · exact hold
  · rcases h.2 i job kind pc ht hid with hover | ⟨hnot, -⟩
    · exact absurd hover hopen
    · exact absurd hcontacted hnot

/-- A row that was executed and is not executing any more never is again. -/
lemma ne_executing {e e' : JournalEntry} (h : RowLater e e') (hr : e.state ≠ .received)
    (he : e.state ≠ .executing) : e'.state ≠ .executing := by
  intro he'
  have hrank := h.rank
  rw [he'] at hrank
  cases hs : e.state <;> simp_all [JobState.rank]

/-- It stays over, as long as its number is not given out again. -/
lemma Over.step (h : Over t w) (hinv : ChannelInv w) (hstep : w.step timing e = some w')
    (hkept : NotReissued t w e w') : Over t w' := by
  have hmove := CallsMove.of_step hstep
  refine ⟨((Shape.of_step hstep).jobs.spent hkept h.1).1, ?_⟩
  rintro i job kind pc ht rfl
  -- the row of a call stays out of `executing`
  have hrow : ∀ {pc₀}, w.proc.tasks i = some (.inr (.twoPhase job kind pc₀)) →
      (∀ e, w.journal.get job.id = some e → e.state ≠ .executing) →
      ∀ e, w'.journal.get job.id = some e → e.state ≠ .executing := by
    intro pc₀ ht₀ hnot e' he'
    obtain ⟨e₀, he₀, hne⟩ := hinv.taken i job kind pc₀ ht₀
    exact ne_executing ((Shape.of_step hstep).jobs.rowLater he₀ he') hne (hnot e₀ he₀)
  rcases hmove.payment ht with hold | ⟨pc₀, ev, h₀, hpay⟩ | ⟨-, hbegins⟩
  · exact (h.2 i job kind pc hold rfl).imp_right fun hnot => ⟨hnot.1, hrow hold hnot.2⟩
  · rcases h.2 i job kind pc₀ h₀ rfl with hover | ⟨hnot, hstate⟩
    · exact Or.inl (hpay.stays_over hover).1
    · refine Or.inr ⟨fun hnow => ?_, hrow h₀ hstate⟩
      rcases hpay.contacted.2 hnow with hbefore | ⟨e₀, e', he₀, hexecuting, -⟩
      · exact hnot hbefore
      · exact hstate e₀ he₀ hexecuting
  · obtain ⟨e₀, he₀, hreceived⟩ := hbegins.before
    exact absurd hreceived (h.1.2 e₀ he₀)

section Run

variable {law : Transition.Law (World (cardWith F cfg)) (Event (cardWith F cfg))}
  {w'' : World (cardWith F cfg)}

/-- What is over without a commit is never committed. -/
lemma Over.unsent (h : Over t w) (hreach : (source (cardWith F cfg) timing).Reach law w)
    (hl : (source (cardWith F cfg) timing).Leads law w w'')
    (hlaw : ∀ a e b, law a e b → NotReissued t a e b) (hsent : ¬ CommitSent w.dev.2.log t) :
    ¬ CommitSent w''.dev.2.log t := by
  have hkeeps := hl.keeps hreach (P := fun v => Over t v ∧ ¬ CommitSent v.dev.2.log t) ⟨h, hsent⟩
    fun a ev b ha hinv hstep hab =>
      ⟨hinv.1.step (channelInv_of_reach ha) hstep (hlaw a ev b hab),
        fun hnow => hinv.2 (hinv.1.commitSent (CallsMove.of_step hstep) hnow)⟩
  exact hkeeps.2

end Run

/-! ### The invariant -/

/-- A run in which the payment keeps its number, and in which what the terminal answers and
reports of it is true. -/
structure Fair (taken : Prop) (t : ℤ) (w : World (cardWith F cfg)) (e : Event (cardWith F cfg))
    (w' : World (cardWith F cfg)) : Prop where
  kept : NotReissued t w e w'
  answers : Truthful taken t w'.dev.2.log
  reports : ∀ i ev entry card tid last, e = .task i (.inr ev) →
    w.proc.tasks i = some (.inr (.reconcile entry (.judging card tid last))) → entry.job.id = t →
    Judges taken (correlate (oursOf card (w.journal.cardLaterOnTerminal t)) last)

/-- Whoever tells whether the money of the payment was taken tells the truth. -/
structure AgreementInv (taken : Prop) (t : ℤ) (w : World (cardWith F cfg)) : Prop where
  spent : CommitSent w.dev.2.log t → w.Spent t
  contacted : CommitSent w.dev.2.log t →
    ∀ e, w.journal.get t = some e → e.deviceContactAt.isSome
  past : ∀ i job kind pc, w.proc.tasks i = some (.inr (.twoPhase job kind pc)) → job.id = t →
    pc.Contacted → ∃ e, w.journal.get t = some e ∧ e.deviceContactAt.isSome
  session : ∀ i job kind pc, w.proc.tasks i = some (.inr (.twoPhase job kind pc)) →
    job.id = t → pc.Tells taken (CommitSent w.dev.2.log t)
  replies : ∀ j r, w.proc.vol.2.replies j = some (some r) → Stands w j fun u =>
    ∀ job op pc, u = .settle job op pc → settleTarget job = some t → r.Tells taken
  settles : ∀ i job op pc, w.proc.tasks i = some (.inr (.settle job op pc)) →
    settleTarget job = some t → pc.Tells taken op
  reconciles : ∀ i entry pc, w.proc.tasks i = some (.inr (.reconcile entry pc)) →
    (entry.job.id = t → (TwoPhase.ofJob entry.job.jobType).isSome →
      pc.PaymentTells taken entry) ∧
    ∀ op : SettleOp, op.jobType = entry.job.jobType → settleTarget entry.job = some t →
      pc.SettleTells taken t entry.job
  payment : ∀ e, w.journal.get t = some e → (TwoPhase.ofJob e.job.jobType).isSome →
    e.state.Tells taken
  settled : ∀ id e, w.journal.get id = some e → settleTarget e.job = some t →
    e.state = .done → JobTells taken e.job

namespace AgreementInv

section Step

variable {law : Transition.Law (World (cardWith F cfg)) (Event (cardWith F cfg))}

lemma spent_step (ih : AgreementInv taken t w)
    (hreach : (source (cardWith F cfg) timing).Reach law w) (hstep : w.step timing e = some w')
    (hfair : Fair taken t w e w')
    (hsent : CommitSent w'.dev.2.log t) : w'.Spent t := by
  refine ((Shape.of_step hstep).jobs.spent hfair.kept ?_).1
  rcases commitSent_step (CallsMove.of_step hstep) hsent with hold | ⟨i, job, kind, pc, ht, rfl, -⟩
  · exact ih.spent hold
  · obtain ⟨e₀, he₀, hne⟩ := (channelInv_of_reach hreach).taken i job kind pc ht
    refine ⟨journaled_of_row hreach he₀, fun e he => ?_⟩
    rw [he₀] at he
    cases he
    exact hne

lemma contacted_step (ih : AgreementInv taken t w) (hstep : w.step timing e = some w')
    (hfair : Fair taken t w e w') (hsent : CommitSent w'.dev.2.log t) {e' : JournalEntry}
    (he' : w'.journal.get t = some e') : e'.deviceContactAt.isSome := by
  have hjobs := (Shape.of_step hstep).jobs
  have hold : ∀ e₀, w.journal.get t = some e₀ → e₀.deviceContactAt.isSome →
      e'.deviceContactAt.isSome := by
    intro e₀ he₀ hc
    obtain ⟨m, hm⟩ := Option.isSome_iff_exists.mp hc
    rw [(hjobs.rowLater he₀ he').contact m hm]
    rfl
  rcases commitSent_step (CallsMove.of_step hstep) hsent with
    hbefore | ⟨i, job, kind, pc, ht, hid, hcontacted, -⟩
  · cases hrow : w.journal.get t with
    | none => exact absurd (ih.spent hbefore).1 (hfair.kept hrow (by simp [he']))
    | some e₀ => exact hold e₀ hrow (ih.contacted hbefore e₀ hrow)
  · obtain ⟨e₀, he₀, hc⟩ := ih.past i job kind pc ht hid hcontacted
    exact hold e₀ he₀ hc

lemma past_step (ih : AgreementInv taken t w) (hstep : w.step timing e = some w') {i : ℕ}
    {job : DeviceJob} {kind : TwoPhase} {pc : TwoPhasePc}
    (ht : w'.proc.tasks i = some (.inr (.twoPhase job kind pc))) (hid : job.id = t)
    (hpc : pc.Contacted) : ∃ e, w'.journal.get t = some e ∧ e.deviceContactAt.isSome := by
  have hold : ∀ {pc₀}, w.proc.tasks i = some (.inr (.twoPhase job kind pc₀)) → pc₀.Contacted →
      ∃ e, w'.journal.get t = some e ∧ e.deviceContactAt.isSome := by
    intro pc₀ ht₀ hpc₀
    obtain ⟨e₀, he₀, hc⟩ := ih.past i job kind pc₀ ht₀ hid hpc₀
    rcases (Shape.of_step hstep).row_kept he₀ with ⟨e', he', hle⟩ | ⟨n, rfl⟩
    · obtain ⟨m, hm⟩ := Option.isSome_iff_exists.mp hc
      exact ⟨e', he', by rw [hle.contact m hm]; rfl⟩
    · cases background_inr ht
  rcases (CallsMove.of_step hstep).payment ht with hsame | ⟨pc₀, ev, h₀, hpay⟩ | ⟨rfl, -⟩
  · exact hold hsame hpc
  · rcases hpay.contacted.2 hpc with hbefore | ⟨-, e', -, -, he', hc⟩
    · exact hold h₀ hbefore
    · exact ⟨e', hid ▸ he', hc⟩
  · exact hpc.elim

/-- A payment whose only call is over is over. -/
lemma over_of_call (hreach : (source (cardWith F cfg) timing).Reach law w) {i : ℕ}
    {job : DeviceJob} {kind : TwoPhase} {pc : TwoPhasePc}
    (ht : w.proc.tasks i = some (.inr (.twoPhase job kind pc))) (hpc : pc.Over) :
    Over job.id w := by
  have hch := channelInv_of_reach hreach
  obtain ⟨e₀, he₀, hne⟩ := hch.taken i job kind pc ht
  refine ⟨⟨journaled_of_row hreach he₀, fun e he => ?_⟩, ?_⟩
  · rw [he₀] at he
    cases he
    exact hne
  · intro i' job' kind' pc' ht' hid
    obtain rfl := hch.unique i i' job job' kind kind' pc pc' ht ht' hid
    rw [ht] at ht'
    cases ht'
    exact Or.inl hpc

lemma session_step (ih : AgreementInv taken t w)
    (hreach : (source (cardWith F cfg) timing).Reach law w)
    (hreach' : (source (cardWith F cfg) timing).Reach law w')
    (hstep : w.step timing e = some w') (hfair : Fair taken t w e w')
    (hspared : Over t w' → ¬ CommitSent w'.dev.2.log t → ¬ taken) {i : ℕ} {job : DeviceJob}
    {kind : TwoPhase} {pc : TwoPhasePc}
    (ht : w'.proc.tasks i = some (.inr (.twoPhase job kind pc))) (hid : job.id = t) :
    pc.Tells taken (CommitSent w'.dev.2.log t) := by
  subst hid
  have hmove := CallsMove.of_step hstep
  have hch := channelInv_of_reach hreach
  cases hmove with
  | wiped hdev hvol htasks => cases htasks i _ ht
  | other hdev hvol hnext htasks =>
    rw [hdev]
    rcases htasks i _ ht with hsame | hstart
    · exact ih.session i job kind pc hsame rfl
    · -- before its first call nothing was sent
      generalize htask : TimTask.twoPhase job kind pc = u at hstart
      cases hstart with
      | reconcile => cases htask
      | execute job₀ hbegins =>
        obtain ⟨rfl, rfl⟩ := twoPhase_of_executeCard htask.symm
        obtain ⟨e₀, he₀, hreceived⟩ := hbegins.before
        exact fun hsent => (ih.spent hsent).2 e₀ he₀ hreceived
  | stepped k ev u u' he htask hcall hnext htasks =>
    have htim := (TimMove.of_step hcall).1
    by_cases hik : i = k
    · subst hik
      obtain rfl := ChannelInv.task_self htasks ht
      have hover : pc.Over → ¬ CommitSent w'.dev.2.log job.id → ¬ taken := fun hpc =>
        hspared (over_of_call hreach' ht hpc)
      have htruth : Truthful taken job.id (cards w').dev.log := hfair.answers
      change pc.Tells taken (CommitSent (cards w').dev.log job.id)
      change pc.Over → ¬ CommitSent (cards w').dev.log job.id → ¬ taken at hover
      generalize cards w' = s' at htim htruth hover
      cases htim with
      | elapsed => exact ih.session i job kind pc htask rfl
      | twoPhase _ _ pc₀ _ _ _ hpay =>
        exact hpay.tells (ih.session i job kind pc₀ htask rfl) htruth hover
    · have hsame := ChannelInv.task_of_ne htasks hik ht
      have hother : ∀ job' kind' pc', u = .twoPhase job' kind' pc' → job'.id ≠ job.id := by
        rintro job' kind' pc' rfl hid
        exact hik (hch.unique i k job job' kind kind' pc pc' hsame htask hid).symm
      have htells := ih.session i job kind pc hsame rfl
      rwa [show CommitSent w'.dev.2.log job.id = CommitSent w.dev.2.log job.id from
        propext (htim.commitSent hother)]

/-- What a settle call waits for does not change. -/
lemma awaits_step {j : ℕ} {r : SettleReply} (hgoes : Goes w w')
    (h : Stands w j fun u => ∀ job op pc, u = .settle job op pc → settleTarget job = some t →
      r.Tells taken) :
    Stands w' j fun u => ∀ job op pc, u = .settle job op pc → settleTarget job = some t →
      r.Tells taken := by
  refine Stands.step h hgoes ?_
  rintro now i ev u u' s s' hmove hP job op pc rfl
  generalize hu : TimTask.settle job op pc = u' at hmove
  cases hmove with
  | elapsed => exact hP job op pc hu.symm
  | settle _ _ pc₀ =>
    cases hu
    exact hP job op pc₀ rfl
  | twoPhase | op | reconcile | safety => cases hu

lemma replies_step (ih : AgreementInv taken t w)
    (hreach : (source (cardWith F cfg) timing).Reach law w) (hstep : w.step timing e = some w')
    (hsession : ∀ i job kind pc, w'.proc.tasks i = some (.inr (.twoPhase job kind pc)) →
      job.id = t → pc.Tells taken (CommitSent w'.dev.2.log t)) {j : ℕ} {r : SettleReply}
    (hr : w'.proc.vol.2.replies j = some (some r)) :
    Stands w' j fun u => ∀ job op pc, u = .settle job op pc → settleTarget job = some t →
      r.Tells taken := by
  have hmove := CallsMove.of_step hstep
  have hch := channelInv_of_reach hreach
  rcases hmove.goes with hgoes | ⟨hwiped, -⟩
  swap
  · rw [hwiped] at hr
    cases hr
  cases hmove with
  | wiped hdev hvol htasks =>
    rw [hvol] at hr
    cases hr
  | other hdev hvol hnext htasks =>
    rw [hvol] at hr
    exact awaits_step hgoes (ih.replies j r hr)
  | stepped i ev u u' he htask hcall hnext htasks =>
    have hself : w'.proc.tasks i = some (.inr u') := by
      rw [htasks]
      exact Function.update_self _ _ _
    change (cards w').vol.replies j = some (some r) at hr
    generalize cards w' = s' at hcall hr
    cases ShareMove.of_step hcall with
    | apart _ _ _ _ _ _ hreplies =>
      rw [hreplies] at hr
      exact awaits_step hgoes (ih.replies j r hr)
    | settle job op pc pc' _ _ hsettle =>
      rw [(ChannelInv.settle_shared hsettle).2.1] at hr
      exact awaits_step hgoes (ih.replies j r hr)
    | payment job kind pc pc' _ _ hpay =>
      have hreplied : w.proc.vol.2.replies j = some (some r) ∨ Addresses (cards w) i pc j ∧
          (pc.Tells taken (CommitSent w.dev.2.log t) → pc'.Tells taken (CommitSent w'.dev.2.log t) →
            r.Tells taken) := hpay.replies hr
      rcases hreplied with hold | ⟨haddressed, htells⟩
      · exact awaits_step hgoes (ih.replies j r hold)
      · -- whom the call answers waits for its payment
        have hentitled := hch.entitled htask haddressed
        refine awaits_step hgoes ⟨hentitled.1, fun v hv job' op pc₁ hpc htarget => ?_⟩
        have hid := hentitled.2 v hv job' op pc₁ hpc
        rw [htarget] at hid
        obtain rfl := Option.some.inj hid
        exact htells (ih.session i job kind pc htask rfl) (hsession i job kind pc' hself rfl)

lemma settles_step (ih : AgreementInv taken t w)
    (hreach : (source (cardWith F cfg) timing).Reach law w) (hstep : w.step timing e = some w')
    {i : ℕ} {job : DeviceJob} {op : SettleOp} {pc : SettlePc}
    (ht : w'.proc.tasks i = some (.inr (.settle job op pc)))
    (htarget : settleTarget job = some t) : pc.Tells taken op := by
  have hch := channelInv_of_reach hreach
  rcases (CallsMove.of_step hstep).settle ht with hsame | ⟨pc₀, ev, h₀, hcall⟩ | ⟨rfl, -⟩
  · exact ih.settles i job op pc hsame htarget
  · refine (ih.settles i job op pc₀ h₀ htarget).step hcall ?_ ?_
    · intro target e₀ hpc he₀ hkind
      have hid := (hch.aimed i job op pc₀ h₀).2 target hpc
      rw [htarget] at hid
      obtain rfl := Option.some.inj hid
      exact ih.payment e₀ he₀ hkind
    · exact fun r hr => (ih.replies i r hr).2 _ h₀ job op pc₀ rfl htarget
  · trivial

lemma reconciles_step (ih : AgreementInv taken t w)
    (hreach : (source (cardWith F cfg) timing).Reach law w) (hstep : w.step timing e = some w')
    (hfair : Fair taken t w e w') (hspared : Over t w → ¬ CommitSent w.dev.2.log t → ¬ taken)
    {i : ℕ} {entry : JournalEntry} {pc : ReconcilePc}
    (ht : w'.proc.tasks i = some (.inr (.reconcile entry pc))) :
    (entry.job.id = t → (TwoPhase.ofJob entry.job.jobType).isSome → pc.PaymentTells taken entry) ∧
      ∀ op : SettleOp, op.jobType = entry.job.jobType → settleTarget entry.job = some t →
        pc.SettleTells taken t entry.job := by
  -- a reconcile begins: what was not contacted was not sent
  have hstarts : ∀ entry : JournalEntry, w.journal.get entry.job.id = some entry →
      entry.state = .indeterminate →
      (entry.job.id = t → (TwoPhase.ofJob entry.job.jobType).isSome →
        ReconcilePc.start.PaymentTells taken entry) ∧
      ∀ op : SettleOp, op.jobType = entry.job.jobType → settleTarget entry.job = some t →
        ReconcilePc.start.SettleTells taken t entry.job := by
    intro entry hrow hstate
    refine ⟨?_, fun _ _ _ => trivial⟩
    rintro rfl - hnone
    have hcontact : ∀ e₀, w.journal.get entry.job.id = some e₀ → ¬ e₀.deviceContactAt.isSome := by
      intro e₀ he₀ hc
      rw [hrow] at he₀
      cases he₀
      rw [hnone] at hc
      cases hc
    refine hspared ⟨⟨journaled_of_row hreach hrow, fun e he => ?_⟩, ?_⟩ fun hsent =>
      hcontact entry hrow (ih.contacted hsent entry hrow)
    · rw [hrow] at he
      cases he
      rw [hstate]
      simp
    · intro k job kind pc₁ hk hid
      refine Or.inr ⟨fun hpc => ?_, fun e he => ?_⟩
      · obtain ⟨e₀, he₀, hc⟩ := ih.past k job kind pc₁ hk hid hpc
        exact hcontact e₀ he₀ hc
      · rw [hrow] at he
        cases he
        rw [hstate]
        simp
  cases CallsMove.of_step hstep with
  | wiped hdev hvol htasks => cases htasks i _ ht
  | other hdev hvol hnext htasks =>
    rcases htasks i _ ht with hsame | hstart
    · exact ih.reconciles i entry pc hsame
    · generalize htask : TimTask.reconcile entry pc = v at hstart
      cases hstart with
      | execute job₀ =>
        have hjob := executes_executeCard job₀
        rw [← htask] at hjob
        cases hjob
      | reconcile entry₀ hi hrow hstate =>
        cases htask
        exact hstarts entry hrow hstate
  | stepped k ev u u' he htask hcall hnext htasks =>
    by_cases hik : i = k
    · subst hik
      obtain rfl := ChannelInv.task_self htasks ht
      have htim := (TimMove.of_step hcall).1
      generalize cards w' = s' at htim
      cases htim with
      | elapsed => exact ih.reconciles i entry pc htask
      | reconcile _ pc₀ _ _ _ hrec =>
        obtain ⟨hpayment, hsettle⟩ := ih.reconciles i entry pc₀ htask
        refine ⟨fun hid hkind => ?_, fun op hop htarget => ?_⟩
        · refine (hpayment hid hkind).step hrec hkind ?_
          rintro card tid last rfl
          rw [hid]
          exact hfair.reports i ev entry card tid last he htask hid
        · exact (hsettle op hop htarget).step hrec hop htarget ih.payment
    · exact ih.reconciles i entry pc (ChannelInv.task_of_ne htasks hik ht)

/-- A payment whose row fails before its execution was never sent. -/
lemma spared_received (ih : AgreementInv taken t w)
    (hreach : (source (cardWith F cfg) timing).Reach law w)
    (hreach' : (source (cardWith F cfg) timing).Reach law w')
    (hstep : w.step timing e = some w') (hfair : Fair taken t w e w')
    (hspared : Over t w' → ¬ CommitSent w'.dev.2.log t → ¬ taken)
    (hbefore : ∀ e₀, w.journal.get t = some e₀ → e₀.state = .received) {e' : JournalEntry}
    (he' : w'.journal.get t = some e') (hstate : e'.state = .failed) : ¬ taken := by
  have hmove := CallsMove.of_step hstep
  have hnone : ∀ i job kind pc, w.proc.tasks i = some (.inr (.twoPhase job kind pc)) →
      job.id ≠ t := by
    rintro i job kind pc ht rfl
    obtain ⟨e₀, he₀, hne⟩ := (channelInv_of_reach hreach).taken i job kind pc ht
    exact hne (hbefore e₀ he₀)
  refine hspared ⟨⟨journaled_of_row hreach' he', fun e he => ?_⟩, ?_⟩ fun hsent => ?_
  · rw [he'] at he
    cases he
    rw [hstate]
    simp
  · rintro i job kind pc ht rfl
    rcases hmove.payment_before ht with ⟨pc₀, h₀⟩ | hbegins
    · exact absurd rfl (hnone i job kind pc₀ h₀)
    · obtain ⟨e₁, he₁, hexecuting⟩ := hbegins.after
      rw [he'] at he₁
      cases he₁
      rw [hstate] at hexecuting
      cases hexecuting
  · rcases commitSent_step hmove hsent with hold | ⟨i, job, kind, pc, ht, hid, -⟩
    · cases hrow : w.journal.get t with
      | none => exact hfair.kept hrow (by simp [he']) (ih.spent hold).1
      | some e₀ => exact (ih.spent hold).2 e₀ hrow (hbefore e₀ hrow)
    · exact hnone i job kind pc ht hid

/-- What the call of a payment returned. -/
lemma tells_of_joined (ih : AgreementInv taken t w)
    (hreach : (source (cardWith F cfg) timing).Reach law w) {q : DeviceQueue} {task : ℕ}
    {job : DeviceJob} {u : (cardWith F cfg).Task} {outcome : Outcome}
    (hcall : w.call q = some (task, .inl job)) (hid : job.id = t)
    (hkind : (TwoPhase.ofJob job.jobType).isSome) (htask : w.proc.tasks task = some u)
    (hout : (cardWith F cfg).outcome u = some outcome) : outcome.state.Tells taken := by
  obtain ⟨u', hu', hof⟩ := (taskInv_of_reach (cardStates F cfg) hreach).called q task _ hcall
  rw [htask] at hu'
  cases hu'
  cases u with
  | inl v =>
    have hfiscal : Executor.isFiscal job.jobType = true := hof
    rw [notFiscal_of_payment hkind] at hfiscal
    cases hfiscal
  | inr v =>
    obtain ⟨-, hof⟩ := hof
    cases v with
    | twoPhase job' kind pc =>
      obtain ⟨rfl, -⟩ := hof
      have htells := ih.session task job' kind pc htask hid
      cases pc with
      | returned o =>
        cases hout
        exact htells
      | start | waiting | running | ended => cases hout
    | settle | op =>
      rw [hof.2] at hkind
      cases hkind
    | reconcile | safety => exact hof.elim

/-- What the reconcile of a payment answered. -/
lemma tells_of_answered (ih : AgreementInv taken t w)
    (hreach : (source (cardWith F cfg) timing).Reach law w) {q : DeviceQueue} {task : ℕ}
    {entry : JournalEntry} {u : (cardWith F cfg).Task} {answer : Reconciliation} {outcome : Outcome}
    (hcall : w.call q = some (task, .inr entry)) (hid : entry.job.id = t)
    (hkind : (TwoPhase.ofJob entry.job.jobType).isSome) (htask : w.proc.tasks task = some u)
    (hout : (cardWith F cfg).answer u = some answer) (hanswer : answer.outcome = some outcome) :
    outcome.state.Tells taken := by
  obtain ⟨u', hu', hof⟩ := (taskInv_of_reach (cardStates F cfg) hreach).called q task _ hcall
  rw [htask] at hu'
  cases hu'
  cases u with
  | inl v =>
    have hfiscal : Executor.isFiscal entry.job.jobType = true := hof
    rw [notFiscal_of_payment hkind] at hfiscal
    cases hfiscal
  | inr v =>
    obtain ⟨-, hof⟩ := hof
    cases v with
    | reconcile entry' pc =>
      obtain rfl : entry' = entry := hof
      have htells := (ih.reconciles task entry' pc htask).1 hid hkind
      cases pc with
      | answered a =>
        cases hout
        exact htells outcome hanswer
      | start | card | asking | reading | judging | charged | person | settleRow | settleCard
      | shift | running => cases hout
    | twoPhase | settle | op | safety => exact hof.elim

/-- What the row of the payment says stays true. -/
lemma payment_step (ih : AgreementInv taken t w)
    (hreach : (source (cardWith F cfg) timing).Reach law w)
    (hreach' : (source (cardWith F cfg) timing).Reach law w')
    (hstep : w.step timing e = some w') (hfair : Fair taken t w e w')
    (hspared : Over t w' → ¬ CommitSent w'.dev.2.log t → ¬ taken) {e' : JournalEntry}
    (he' : w'.journal.get t = some e') (hkind : (TwoPhase.ofJob e'.job.jobType).isSome) :
    e'.state.Tells taken := by
  have hshape := Shape.of_step hstep
  have hcalls := callInv_of_reach hreach
  have hfails : (∀ e₀, w.journal.get t = some e₀ → e₀.state = .received) → e'.state = .failed →
      ¬ taken := fun hbefore => ih.spared_received hreach hreach' hstep hfair hspared hbefore he'
  cases hrow : w.journal.get t with
  | none =>
    have hnew := hshape.new_row hrow he'
    have hbefore : ∀ e₀, w.journal.get t = some e₀ → e₀.state = .received := by
      intro e₀ he₀
      rw [hrow] at he₀
      cases he₀
    cases hs : e'.state with
    | done => exact absurd hs hnew
    | failed => exact hfails hbefore hs
    | received | executing | indeterminate => trivial
  | some e₀ =>
    have hjob := (hshape.jobs.rowLater hrow he').job
    rw [hjob] at hkind
    by_cases hsame : e'.state = e₀.state
    · rw [hsame]
      exact ih.payment e₀ hrow hkind
    have hreceived : e₀.state = .received → ∀ e₁, w.journal.get t = some e₁ →
        e₁.state = .received := by
      intro hs e₁ he₁
      rw [hrow] at he₁
      cases he₁
      exact hs
    cases hshape.state hrow he' hsame with
    | executing q entry h hid hs hs' =>
      rw [hs']
      trivial
    | expired q entry h hid hs hs' =>
      rw [hs']
      exact hfails (hreceived hs) hs'
    | guarded q task job hcall hid hguard hs' =>
      rw [hs']
      trivial
    | restarted n h hs' =>
      rw [hs']
      trivial
    | noWorker call job henq hid =>
      obtain ⟨e₁, he₁, -, hs₁⟩ := hcalls.enqueue call job henq
      rw [hid, hrow] at he₁
      cases he₁
      cases hs : e'.state with
      | done =>
        -- a job that is not executed yet has no outcome
        have hbefore : e₀.state ≠ .done := by
          rw [hs₁]
          simp
        cases hshape.done_cause hrow he' hbefore hs with
        | joined q task job' u result hcall hid' =>
          obtain ⟨-, e₁, he₁, -, hne, -⟩ := hcalls.executing q task job' hcall
          rw [hid', hrow] at he₁
          cases he₁
          exact absurd hs₁ hne
        | answered q task entry u result hcall hid' =>
          obtain ⟨hstate, -, e₁, he₁, hle⟩ := hcalls.reconciling q task entry hcall
          rw [hid', hrow] at he₁
          cases he₁
          exact absurd hs₁ (hle.ne_received (by rw [hstate]; simp))
      | failed => exact hfails (hreceived hs₁) hs
      | received | executing | indeterminate => trivial
    | joined q task job u outcome hcall hid htask hout hgone heq =>
      obtain ⟨-, e₁, he₁, rfl, -⟩ := hcalls.executing q task job hcall
      rw [hid, hrow] at he₁
      cases he₁
      rw [heq] at hsame ⊢
      rw [RowOp.state_recordOutcome hsame]
      exact ih.tells_of_joined hreach hcall hid hkind htask hout
    | answered q task entry u answer outcome hcall hid htask hout hanswer hgone heq =>
      obtain ⟨-, -, e₁, he₁, hle⟩ := hcalls.reconciling q task entry hcall
      rw [hid, hrow] at he₁
      cases he₁
      rw [hle.job] at hkind
      rw [heq] at hsame ⊢
      rw [RowOp.state_recordOutcome hsame]
      exact ih.tells_of_answered hreach hcall hid hkind htask hout hanswer

/-- What a settle job that is `done` says of the payment is true. -/
lemma settled_step (ih : AgreementInv taken t w)
    (hreach : (source (cardWith F cfg) timing).Reach law w) (hstep : w.step timing e = some w')
    {id : ℤ} {e' : JournalEntry} (he' : w'.journal.get id = some e')
    (htarget : settleTarget e'.job = some t) (hdone : e'.state = .done) :
    JobTells taken e'.job := by
  have hshape := Shape.of_step hstep
  have hcalls := callInv_of_reach hreach
  have hch := channelInv_of_reach hreach
  have htasks := taskInv_of_reach (cardStates F cfg) hreach
  cases hrow : w.journal.get id with
  | none => exact absurd hdone (hshape.new_row hrow he')
  | some e₀ =>
    have hjob := (hshape.jobs.rowLater hrow he').job
    rw [hjob] at htarget ⊢
    by_cases hbefore : e₀.state = .done
    · exact ih.settled id e₀ hrow htarget hbefore
    intro op hop
    have hnot : Executor.isFiscal e₀.job.jobType ≠ true := by
      rw [← hop, notFiscal_of_settle]
      simp
    cases hshape.done_cause hrow he' hbefore hdone with
    | joined q task job u result hcall hid htask hout =>
      obtain ⟨-, e₁, he₁, rfl, -⟩ := hcalls.executing q task job hcall
      rw [hid, hrow] at he₁
      cases he₁
      obtain ⟨u', hu', hof⟩ := htasks.called q task _ hcall
      rw [htask] at hu'
      cases hu'
      cases u with
      | inl v => exact absurd hof hnot
      | inr v =>
        obtain ⟨-, hof⟩ := hof
        cases v with
        | twoPhase job' kind pc =>
          exact absurd hop (jobType_ne (by rw [hof.2]; rfl))
        | settle job' op' pc =>
          obtain ⟨rfl, -⟩ := hof
          have hop' := (hch.aimed task _ op' pc htask).1
          have htells := ih.settles task _ op' pc htask htarget
          cases pc with
          | returned o =>
            cases hout
            exact jobTells_of_op hop' (htells result rfl) op hop
          | start | row | card | holder | sending | waiting => cases hout
        | op job' pc =>
          obtain ⟨rfl, -⟩ := hof
          exact absurd hop (hch.apart task _ pc htask op)
        | reconcile | safety => exact hof.elim
    | answered q task entry u result hcall hid htask hout =>
      obtain ⟨-, -, e₁, he₁, hle⟩ := hcalls.reconciling q task entry hcall
      rw [hid, hrow] at he₁
      cases he₁
      rw [hle.job] at hop hnot htarget
      obtain ⟨u', hu', hof⟩ := htasks.called q task _ hcall
      rw [htask] at hu'
      cases hu'
      cases u with
      | inl v => exact absurd hof hnot
      | inr v =>
        obtain ⟨-, hof⟩ := hof
        cases v with
        | reconcile entry' pc =>
          obtain rfl : entry' = entry := hof
          have htells := (ih.reconciles task entry' pc htask).2 op hop htarget
          cases pc with
          | answered a =>
            cases hout
            exact htells result rfl op hop
          | start | card | asking | reading | judging | charged | person | settleRow | settleCard
          | shift | running => cases hout
        | twoPhase | settle | op | safety => exact hof.elim

end Step

end AgreementInv

section Run

variable {wₙ : World (cardWith F cfg)}

/-- In a run at whose end the money was not taken without a commit, everyone tells the truth.
That a payment was never committed is known at the end only, so the states are those from which
the run goes on to it. -/
lemma agreementInv_of_reach (h : (source (cardWith F cfg) timing).Reach (Fair taken t) wₙ)
    (hasked : taken → CommitSent wₙ.dev.2.log t) : AgreementInv taken t wₙ := by
  have hspared : ∀ {v}, (source (cardWith F cfg) timing).Reach (Fair taken t) v →
      (source (cardWith F cfg) timing).Leads (Fair taken t) v wₙ → Over t v →
      ¬ CommitSent v.dev.2.log t → ¬ taken := fun hv hl hover hsent htaken =>
    hover.unsent hv hl (fun _ _ _ hfair => hfair.kept) hsent (hasked htaken)
  have hinv := h.invariant (P := fun v =>
    (source (cardWith F cfg) timing).Leads (Fair taken t) v wₙ → AgreementInv taken t v) ?_ ?_
  · exact hinv Relation.ReflTransGen.refl
  · intro _
    have hnone : ∀ id e, (source (cardWith F cfg) timing).init.journal.get id ≠ some e := by
      intro id e
      rw [show (source (cardWith F cfg) timing).init.journal = Journal.empty F.readFloat from rfl,
        Journal.get_empty]
      simp
    have hsilent : ¬ CommitSent (source (cardWith F cfg) timing).init.dev.2.log t := by
      rintro ⟨ip, settles, hmem⟩
      cases hmem
    exact
      { spent := fun hsent => absurd hsent hsilent
        contacted := fun hsent => absurd hsent hsilent
        past := by rintro i job kind pc ⟨⟩
        session := by rintro i job kind pc ⟨⟩
        replies := by rintro j r ⟨⟩
        settles := by rintro i job op pc ⟨⟩
        reconciles := by rintro i entry pc ⟨⟩
        payment := fun e he => absurd he (hnone t e)
        settled := fun id e he => absurd he (hnone id e) }
  · intro a ev b ha ih hstep hfair hl
    have hmove : (source (cardWith F cfg) timing).Move (Fair taken t) a b := ⟨ev, hstep, hfair⟩
    have iha := ih (Relation.ReflTransGen.head hmove hl)
    have hb := ha.move hmove
    have hspared_a := hspared ha (Relation.ReflTransGen.head hmove hl)
    have hspared_b := hspared hb hl
    have hsession : ∀ i job kind pc, b.proc.tasks i = some (.inr (.twoPhase job kind pc)) →
        job.id = t → pc.Tells taken (CommitSent b.dev.2.log t) := fun i job kind pc ht hid =>
      iha.session_step ha hb hstep hfair hspared_b ht hid
    exact
      { spent := iha.spent_step ha hstep hfair
        contacted := fun hsent e he => iha.contacted_step hstep hfair hsent he
        past := fun i job kind pc ht hid hpc => iha.past_step hstep ht hid hpc
        session := hsession
        replies := fun j r hr => iha.replies_step ha hstep hsession hr
        settles := fun i job op pc ht htarget => iha.settles_step ha hstep ht htarget
        reconciles := fun i entry pc ht => iha.reconciles_step ha hstep hfair hspared_a ht
        payment := fun e he hkind => iha.payment_step ha hb hstep hfair hspared_b he hkind
        settled := fun id e he htarget hdone => iha.settled_step ha hstep he htarget hdone }

end Run

/-- At a terminal that answers truthfully whether the money of a payment was taken, and that takes
it only when it is asked to commit, whatever the order of the steps: a payment that is `done` was
taken and one that `failed` was not, a commit that is `done` was taken and a rollback that is
`done` was not.  So no two jobs about one payment contradict each other. -/
theorem payment_agreed (F : Executor) (cfg : TimConfig) (timing : Timing) {taken : Prop} {t : ℤ}
    {w : World (cardWith F cfg)} (h : (source (cardWith F cfg) timing).Reach (Fair taken t) w)
    (hasked : taken → CommitSent w.dev.2.log t) :
    (∀ e, w.journal.get t = some e → (TwoPhase.ofJob e.job.jobType).isSome →
      (e.state = .done → taken) ∧ (e.state = .failed → ¬ taken)) ∧
    (∀ id e, w.journal.get id = some e → settleTarget e.job = some t → e.state = .done →
      (e.job.jobType = JOB_COMMIT → taken) ∧ (e.job.jobType = JOB_ROLLBACK → ¬ taken)) ∧
    ∀ id e id' e', w.journal.get id = some e → settleTarget e.job = some t → e.state = .done →
      w.journal.get id' = some e' → settleTarget e'.job = some t → e'.state = .done →
      e.job.jobType = JOB_COMMIT → e'.job.jobType ≠ JOB_ROLLBACK := by
  have hinv := agreementInv_of_reach h hasked
  have hsettled : ∀ id e, w.journal.get id = some e → settleTarget e.job = some t →
      e.state = .done →
      (e.job.jobType = JOB_COMMIT → taken) ∧ (e.job.jobType = JOB_ROLLBACK → ¬ taken) := by
    intro id e he htarget hdone
    have htells := hinv.settled id e he htarget hdone
    exact ⟨fun hop => htells .commit hop.symm, fun hop => htells .rollback hop.symm⟩
  refine ⟨fun e he hkind => ?_, hsettled, ?_⟩
  · have htells := hinv.payment e he hkind
    constructor
    · intro hs
      rw [hs] at htells
      exact htells
    · intro hs
      rw [hs] at htells
      exact htells
  · intro id e id' e' he htarget hdone he' htarget' hdone' hcommit hrollback
    exact (hsettled id' e' he' htarget' hdone').2 hrollback
      ((hsettled id e he htarget hdone).1 hcommit)

/-! ### A committed payment -/

/-- A reply of Odoo to `next` that hands out a card job. -/
def replyWithCard (id : ℤ) (jobType : String) (payload : Json) : Reply :=
  .ok (.obj [("job", .obj [("client_uuid", .str "u1"), ("id", Json.ofInt id),
      ("kasa", .obj [("id", Json.ofInt 1)]), ("payload", payload), ("type", .str jobType)]),
    ("ok", .bool true)])

/-- An authorisation of 5 EUR. -/
def soldFacts : TxFacts :=
  ⟨some 1, some 500, some true, some 41, none, none, none, none, none, none, none, none, none⟩

/-- The events from the start of the process until a sale and its commit are `done`; the commit
comes while the sale is held. -/
def runUntilCommitted (F : Executor) (first : ℕ) (id id' : ℤ) :
    List (Event (cardWith F oneTerminal)) :=
  let q : DeviceQueue := ⟨.card, "10.0.0.7"⟩
  let q' : DeviceQueue := ⟨.card, "10.0.0.7#settle"⟩
  let calls (i : ℕ) (evs : List TimEvent) : List (Event (cardWith F oneTerminal)) :=
    evs.map fun ev => .task i (.inr ev)
  [.start 4, .control .poll, .odoo (.answerPending (replyWithPending [])),
    .control (.arrive true), .control (.entry true), .control .poll,
    .odoo (.answerNext (replyWithCard id JOB_PURCHASE (.obj [("amount", Json.ofInt 5)]))),
    .control (.arrive true), .control (.enqueue true true), .worker q (.take true),
    .worker q (.start true)] ++
  calls first [.go, .go, .go, .answer .done, .answer .done, .answer .done,
    .answer (.tid (some "t1")), .answer (.failed ⟨"last", 14⟩), .go, .answer (.facts soldFacts),
    .go, .go] ++
  [.control .poll,
    .odoo (.answerNext (replyWithCard id' JOB_COMMIT (.obj [("card_job_id", Json.ofInt id)]))),
    .control (.arrive true), .control (.enqueue true true), .worker q' (.take true),
    .worker q' (.start true)] ++
  calls (first + 1) [.go, .go, .go, .go, .go] ++ calls first [.go, .answer .done] ++
  calls (first + 1) [.go] ++ calls first [.answer .done, .answer .done, .go, .go, .go] ++
  [.worker q' (.join true), .worker q (.join true)]

/-- No answer that says that the money of the payment was not taken. -/
def TerminalEvent.fitsTaken (jobId : ℤ) : TerminalEvent → Bool
  | answered _ (some id) .rollback .done => id != jobId
  | answered _ (some id) .commit (.failed e) => id != jobId || e.code != RC_COMMIT_TIMEOUT
  | _ => true

/-- No last transaction is judged. -/
def notJudging (w : World (cardWith F cfg)) : Event (cardWith F cfg) → Bool
  | .task i _ =>
    match w.proc.tasks i with
    | some (.inr (.reconcile _ (.judging _ _ _))) => false
    | _ => true
  | _ => true

/-- Whether a step keeps the law of a payment whose money was taken. -/
def fairTest (t : ℤ) (w : World (cardWith F cfg)) (e : Event (cardWith F cfg))
    (w' : World (cardWith F cfg)) : Bool :=
  ((w.journal.get t).isSome || (w'.journal.get t).isNone || decide (t ∉ w.log.journaled)) &&
    w'.dev.2.log.all (TerminalEvent.fitsTaken t) && notJudging w e

lemma fair_of_test (h : fairTest t w e w' = true) : Fair True t w e w' := by
  simp only [fairTest, Bool.and_eq_true, Bool.or_eq_true, List.all_eq_true, decide_eq_true_eq] at h
  obtain ⟨⟨hkept, hlog⟩, hjudging⟩ := h
  refine ⟨fun hnone hsome => ?_, ⟨fun _ _ => trivial, fun ip hmem => ?_,
    fun ip err hmem hcode => ?_⟩, fun i ev entry card tid last he htask => ?_⟩
  · rcases hkept with (hkept | hkept) | hkept
    · rw [hnone] at hkept
      cases hkept
    · exact absurd (Option.isNone_iff_eq_none.mp hkept) hsome
    · exact hkept
  · have hfits := hlog _ hmem
    simp [TerminalEvent.fitsTaken] at hfits
  · have hfits := hlog _ hmem
    simp [TerminalEvent.fitsTaken, hcode] at hfits
  · subst he
    simp [notJudging, htask] at hjudging

/-- A sale is committed by another job: both are `done`, and no rollback of it ever is. -/
theorem payment_agreed_committed :
    ∃ w e e', (source (cardWith Executor.absent oneTerminal) Timing.default).Reach
        (Fair True 7) w ∧ CommitSent w.dev.2.log 7 ∧
      w.journal.get 7 = some e ∧ e.state = .done ∧ w.journal.get 8 = some e' ∧
      settleTarget e'.job = some 7 ∧ e'.job.jobType = JOB_COMMIT ∧ e'.state = .done ∧
      ∀ id e, w.journal.get id = some e → settleTarget e.job = some 7 → e.state = .done →
        e.job.jobType ≠ JOB_ROLLBACK := by
  obtain ⟨w, hreach, hw⟩ := Transition.reach_of_tests
    (source (cardWith Executor.absent oneTerminal) Timing.default) (Fair True 7)
    (runUntilCommitted Executor.absent 1 7 8)
    (fun w => w.dev.2.log.any (fun m => decide
        (m = .sent "10.0.0.7" (some 7) .commit (((w.journal.get 8).map (·.job))))) &&
      (w.journal.get 7).any (fun e : JournalEntry => decide (e.state = .done)) &&
      (w.journal.get 8).any (fun e : JournalEntry => decide (settleTarget e.job = some 7) &&
        decide (e.job.jobType = JOB_COMMIT) && decide (e.state = .done)))
    (fun _ _ _ => fair_of_test) (by decide +kernel) (by decide +kernel)
  simp only [Bool.and_eq_true, Option.any_eq_true, List.any_eq_true, decide_eq_true_eq] at hw
  obtain ⟨⟨⟨m, hm, rfl⟩, e, he, hdone⟩, e', he', ⟨htarget, hcommit⟩, hdone'⟩ := hw
  have hsent : CommitSent w.dev.2.log 7 := ⟨_, _, hm⟩
  have hagreed := payment_agreed Executor.absent oneTerminal Timing.default hreach fun _ => hsent
  refine ⟨w, e, e', hreach, hsent, he, hdone, he', htarget, hcommit, hdone', ?_⟩
  intro id e₁ he₁ htarget₁ hdone₁
  exact hagreed.2.2 8 e' id e₁ he' htarget hdone' he₁ htarget₁ hdone₁ hcommit

end DevBridge.Tim

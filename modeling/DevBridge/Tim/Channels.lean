import DevBridge.Tim.Settlement

/-!
# The channels of the settle requests

A settle job looks its payment up among the holders, puts its request into the channel of the
call it found and waits for a reply.  Whatever the calls, the crashes and the restarts, a request
reaches a call of the payment that it is about only, and whom that call answers waits for no
other payment.  A payment has one call at most.
-/

namespace DevBridge.Tim

variable {F : Executor} {cfg : TimConfig} {timing : Timing}
  {w w' : World (cardWith F cfg)} {e : Event (cardWith F cfg)}

/-! ### The calls of a step -/

/-- The execution of a job begins, with a number of its own. -/
structure Begins (w w' : World (cardWith F cfg)) (i : ℕ) (job : DeviceJob) : Prop where
  number : i = w.proc.nextTask
  before : ∃ e, w.journal.get job.id = some e ∧ e.state = .received
  after : ∃ e, w'.journal.get job.id = some e ∧ e.state = .executing

/-- A card call begins. -/
inductive Starts (w w' : World (cardWith F cfg)) (i : ℕ) : TimTask → Prop
  | execute (job : DeviceJob) (h : Begins w w' i job) : Starts w w' i (executeCard job)
  | reconcile (entry : JournalEntry) (hi : i = w.proc.nextTask)
      (hrow : w.journal.get entry.job.id = some entry) (hstate : entry.state = .indeterminate)
      (hj : w'.journal = w.journal) :
    Starts w w' i (.reconcile entry .start)

/-- What a step of the bridge does to the card calls, with their numbers. -/
inductive CallsMove (w : World (cardWith F cfg)) (e : Event (cardWith F cfg))
    (w' : World (cardWith F cfg)) : Prop
  | other (hdev : w'.dev.2 = w.dev.2) (hvol : w'.proc.vol.2 = w.proc.vol.2)
      (hnext : w.proc.nextTask ≤ w'.proc.nextTask)
      (htasks : ∀ i t, w'.proc.tasks i = some (.inr t) →
        w.proc.tasks i = some (.inr t) ∨ Starts w w' i t)
  | wiped (hdev : w'.dev.2 = w.dev.2) (hvol : w'.proc.vol.2 = TimVol.init)
      (htasks : ∀ i t, w'.proc.tasks i = some (.inr t) → t = .safety .idle)
  | stepped (i : ℕ) (ev : TimEvent) (t t' : TimTask) (he : e = .task i (.inr ev))
      (htask : w.proc.tasks i = some (.inr t))
      (hstep : timStep cfg w.clock i ev t (cards w) = some (t', cards w'))
      (hnext : w'.proc.nextTask = w.proc.nextTask)
      (htasks : w'.proc.tasks = Function.update w.proc.tasks i (some (.inr t')))

lemma CallsMove.of_step (h : w.step timing e = some w') : CallsMove w e w' := by
  have hsame : w'.dev = w.dev → w'.proc.vol = w.proc.vol → w'.proc.tasks = w.proc.tasks →
      w'.proc.nextTask = w.proc.nextTask → CallsMove w e w' := fun hd hv ht hn =>
    .other (by rw [hd]) (by rw [hv]) hn.ge fun i t h => .inl (ht ▸ h)
  -- a call is over, or begins
  have hset : ∀ k t₀, w'.dev = w.dev → w'.proc.vol = w.proc.vol →
      w.proc.nextTask ≤ w'.proc.nextTask →
      w'.proc.tasks = Function.update w.proc.tasks k t₀ →
      (∀ t, t₀ = some (.inr t) → Starts w w' k t) → CallsMove w e w' := by
    intro k t₀ hd hv hn ht hnew
    refine .other (by rw [hd]) (by rw [hv]) hn fun i t h => ?_
    rw [ht] at h
    by_cases hi : i = k
    · subst hi
      rw [Function.update_self] at h
      exact .inr (hnew t h)
    · rw [Function.update_of_ne hi] at h
      exact .inl h
  cases Shape.of_step h with
  | quiet f | expired f | noWorker f | guarded f | noted f | acked f | authAcked f
  | reported f => exact hsame f.dev f.vol f.tasks f.nextTask
  | inserted _ _ f => exact hsame f.dev f.vol f.tasks f.nextTask
  | lanInserted _ _ f => exact hsame f.dev f.vol f.tasks f.nextTask
  | clock _ h | detached _ _ _ _ _ _ h =>
    subst h
    exact hsame rfl rfl rfl rfl
  | dev ev d hev hd h =>
    subst h
    cases ev with
    | inl ev =>
      simp only [Option.map_eq_some_iff] at hd
      obtain ⟨d₁, -, rfl⟩ := hd
      exact .other rfl rfl le_rfl fun i t h => .inl h
    | inr ev => cases ev
  | execute q entry queuedAt hpc hrow h =>
    obtain ⟨e₀, he₀, hs, he'⟩ := Journal.startExecution_true hrow
    subst h
    refine hset _ _ rfl rfl (Nat.le_succ _) rfl fun t ht => ?_
    rw [execute_inr (Option.some.inj ht)]
    exact .execute entry.job ⟨rfl, ⟨e₀, he₀, hs⟩, _, he', rfl⟩
  | reconcile q jobId rest entry hpc hq hrow hstate h =>
    have hid := Journal.id_of_get hrow
    subst h
    refine hset _ _ rfl rfl (Nat.le_succ _) rfl fun t ht => ?_
    rw [reconcile_inr (Option.some.inj ht)]
    exact .reconcile entry rfl (hid ▸ hrow) hstate rfl
  | joined _ _ task _ _ _ _ _ _ _ _ h =>
    subst h
    exact hset task none rfl rfl le_rfl rfl (by rintro t ⟨⟩)
  | answered _ _ task _ _ _ _ _ _ h =>
    subst h
    exact hset task none rfl rfl le_rfl rfl (by rintro t ⟨⟩)
  | task i ev t t' s hev htask hstep h =>
    subst h
    cases ev with
    | inl ev =>
      cases t with
      | inr u => cases hstep
      | inl t =>
        simp only [Executor.stepLeft, Option.map_eq_some_iff, Prod.mk.injEq] at hstep
        obtain ⟨⟨t₁, s₁⟩, -, rfl, rfl⟩ := hstep
        refine .other rfl rfl le_rfl fun k t hk => .inl ?_
        change Function.update w.proc.tasks i (some (.inl t₁)) k = _ at hk
        by_cases hki : k = i
        · subst hki
          rw [Function.update_self] at hk
          cases hk
        · rwa [Function.update_of_ne hki] at hk
    | inr ev =>
      cases t with
      | inl t => cases hstep
      | inr t =>
        simp only [Executor.stepRight, Option.map_eq_some_iff, Prod.mk.injEq] at hstep
        obtain ⟨⟨t₁, s₁⟩, hstep, rfl, rfl⟩ := hstep
        exact .stepped i ev t t₁ hev htask hstep rfl rfl
  | crash h =>
    subst h
    exact .wiped rfl rfl (by rintro i t ⟨⟩)
  | start n hup h =>
    subst h
    exact .wiped rfl rfl fun i t ht => background_inr ht

/-- While the process runs every card call begins or goes on. -/
structure Goes (w w' : World (cardWith F cfg)) : Prop where
  next : w.proc.nextTask ≤ w'.proc.nextTask
  tasks : ∀ i t', w'.proc.tasks i = some (.inr t') → Starts w w' i t' ∨
    ∃ t, w.proc.tasks i = some (.inr t) ∧ (t' = t ∨
      ∃ ev, timStep cfg w.clock i ev t (cards w) = some (t', cards w'))

lemma CallsMove.goes (h : CallsMove w e w') : Goes w w' ∨ w'.proc.vol.2 = TimVol.init ∧
    ∀ i t, w'.proc.tasks i = some (.inr t) → t = .safety .idle := by
  cases h with
  | other hdev hvol hnext htasks =>
    refine Or.inl ⟨hnext, fun i t ht => ?_⟩
    exact (htasks i t ht).elim (fun hold => Or.inr ⟨t, hold, Or.inl rfl⟩) Or.inl
  | wiped hdev hvol htasks => exact Or.inr ⟨hvol, htasks⟩
  | stepped i ev t t' he htask hstep hnext htasks =>
    refine Or.inl ⟨hnext.ge, fun k u hk => Or.inr ?_⟩
    rw [htasks] at hk
    by_cases hki : k = i
    · subst hki
      rw [Function.update_self] at hk
      cases hk
      exact ⟨t, htask, Or.inr ⟨ev, hstep⟩⟩
    · rw [Function.update_of_ne hki] at hk
      exact ⟨u, hk, Or.inl rfl⟩

/-! ### What stays with a call -/

/-- Whatever the card call of a number is, it is such a one; the number was given out. -/
def Stands (w : World (cardWith F cfg)) (n : ℕ) (P : TimTask → Prop) : Prop :=
  n < w.proc.nextTask ∧ ∀ t, w.proc.tasks n = some (.inr t) → P t

/-- What no step of a call changes stays, since no number is given out twice. -/
lemma Stands.step {n : ℕ} {P : TimTask → Prop} (h : Stands w n P) (hgoes : Goes w w')
    (hP : ∀ {now i ev t t' s s'}, TimMove cfg now i s t ev t' s' → P t → P t') :
    Stands w' n P := by
  refine ⟨h.1.trans_le hgoes.next, fun t' ht' => ?_⟩
  rcases hgoes.tasks n t' ht' with hstart | ⟨t, ht, rfl | ⟨ev, hstep⟩⟩
  · have hnew : n = w.proc.nextTask := by
      cases hstart with
      | execute job hbegins => exact hbegins.number
      | reconcile entry hi => exact hi
    exact absurd hnew h.1.ne
  · exact h.2 t' ht
  · exact hP (TimMove.of_step hstep).1 (h.2 t ht)

/-- The call waits for no other payment. -/
def Entitled (w : World (cardWith F cfg)) (j : ℕ) (target : ℤ) : Prop :=
  Stands w j fun t => ∀ job op pc, t = .settle job op pc → settleTarget job = some target

/-- The call is of no other payment. -/
def Holds (w : World (cardWith F cfg)) (target : ℤ) (n : ℕ) : Prop :=
  Stands w n fun t => ∀ job kind pc, t = .twoPhase job kind pc → job.id = target

lemma Entitled.step {j : ℕ} {target : ℤ} (h : Entitled w j target) (hgoes : Goes w w') :
    Entitled w' j target := by
  refine Stands.step h hgoes ?_
  rintro now i ev t t' s s' hmove hP job op pc rfl
  generalize ht' : TimTask.settle job op pc = t' at hmove
  cases hmove with
  | elapsed => exact hP job op pc ht'.symm
  | settle _ _ pc₀ =>
    cases ht'
    exact hP job op pc₀ rfl
  | twoPhase | op | reconcile | safety => cases ht'

lemma Holds.step {n : ℕ} {target : ℤ} (h : Holds w target n) (hgoes : Goes w w') :
    Holds w' target n := by
  refine Stands.step h hgoes ?_
  rintro now i ev t t' s s' hmove hP job kind pc rfl
  generalize ht' : TimTask.twoPhase job kind pc = t' at hmove
  cases hmove with
  | elapsed => exact hP job kind pc ht'.symm
  | twoPhase _ _ pc₀ =>
    cases ht'
    exact hP job kind pc₀ rfl
  | settle | op | reconcile | safety => cases ht'

/-! ### The settle jobs -/

/-- The type of the jobs that ask for it. -/
def SettleOp.jobType : SettleOp → String
  | commit => JOB_COMMIT
  | rollback => JOB_ROLLBACK

/-- The payment that a settle job is about. -/
def SettlePc.target : SettlePc → Option ℤ
  | start | returned _ => none
  | row target _ | card target _ _ | holder target | sending target _ | waiting target =>
    some target

/-- The call of a settle job is about the payment that the job names. -/
def Aimed (job : DeviceJob) (op : SettleOp) (pc : SettlePc) : Prop :=
  op.jobType = job.jobType ∧ ∀ target, pc.target = some target → settleTarget job = some target

lemma Aimed.step {i : ℕ} {ev : TimEvent} {s s' : TimState} {job : DeviceJob}
    {op : SettleOp} {pc pc' : SettlePc} (h : Aimed job op pc)
    (hstep : settleStep cfg i job op s pc ev = some (pc', s')) : Aimed job op pc' := by
  refine ⟨h.1, fun target htarget => ?_⟩
  have hkept : ∀ {pc₁ : SettlePc} {s₁ : TimState}, some (pc₁, s₁) = some (pc', s') →
      (pc₁.target = none ∨ pc₁.target = pc.target) → settleTarget job = some target := by
    intro pc₁ s₁ heq hpc
    cases heq
    rcases hpc with hnone | hsame
    · rw [hnone] at htarget
      cases htarget
    · exact h.2 target (hsame ▸ htarget)
  have hchecked : ∀ {target₀ : ℤ} {again : Bool} {entry : JournalEntry} {refusal : Option Outcome},
      (settleChecked op target₀ entry again refusal).target = none ∨
        (settleChecked op target₀ entry again refusal).target = some target₀ := by
    intro target₀ again entry refusal
    cases refusal with
    | some _ => exact Or.inl rfl
    | none => cases again <;> first | exact Or.inl rfl | exact Or.inr rfl
  unfold settleStep at hstep
  split at hstep
  · split at hstep
    · rename_i target₀ htarget₀
      cases hstep
      exact htarget₀.trans htarget
    · exact hkept hstep (Or.inl rfl)
  · split at hstep
    · exact hkept hstep (Or.inr rfl)
    · exact hkept hstep (Or.inl rfl)
  · exact hkept hstep (Or.inl rfl)
  · exact hkept hstep hchecked
  · exact hkept hstep hchecked
  · split at hstep
    · exact hkept hstep (Or.inr rfl)
    · exact hkept hstep (Or.inr rfl)
  · split at hstep
    · exact hkept hstep (Or.inr rfl)
    · exact hkept hstep (Or.inr rfl)
  · split at hstep
    · exact hkept hstep (Or.inl rfl)
    · exact hkept hstep (Or.inr rfl)
    · cases hstep
  · cases hstep

lemma settle_of_executeCard {job job' : DeviceJob} {op : SettleOp} {pc : SettlePc}
    (h : executeCard job = .settle job' op pc) : job' = job ∧ pc = .start ∧ Aimed job' op pc := by
  unfold executeCard at h
  split at h
  · cases h
  · split at h
    · rename_i htype
      cases h
      exact ⟨rfl, rfl, htype.symm, by rintro _ ⟨⟩⟩
    · split at h
      · rename_i htype
        cases h
        exact ⟨rfl, rfl, htype.symm, by rintro _ ⟨⟩⟩
      · cases h

lemma twoPhase_of_executeCard {job job' : DeviceJob} {kind : TwoPhase} {pc : TwoPhasePc}
    (h : executeCard job = .twoPhase job' kind pc) : job' = job ∧ pc = .start := by
  unfold executeCard at h
  split at h
  · cases h
    exact ⟨rfl, rfl⟩
  · split_ifs at h

lemma op_of_executeCard {job job' : DeviceJob} {pc : OpPc} (h : executeCard job = .op job' pc)
    (op : SettleOp) : op.jobType ≠ job'.jobType := by
  unfold executeCard at h
  split at h
  · cases h
  · split at h
    · cases h
    · split at h
      · cases h
      · rename_i hcommit hrollback
        cases h
        cases op with
        | commit => exact Ne.symm hcommit
        | rollback => exact Ne.symm hrollback

/-! ### The channels -/

/-- What a step of a card call does to the holders, the channels and the replies. -/
inductive ShareMove (cfg : TimConfig) (now : Time) (i : ℕ) (s : TimState) :
    TimTask → TimEvent → TimTask → TimState → Prop
  /-- A call aside from the held payments, or one that only waited. -/
  | apart (t : TimTask) (ev : TimEvent) (t' : TimTask) (s' : TimState)
      (hholders : s'.vol.holders = s.vol.holders) (hchannels : s'.vol.channels = s.vol.channels)
      (hreplies : s'.vol.replies = s.vol.replies)
      (hpayment : ∀ job kind pc, t' = .twoPhase job kind pc → t = t')
      (hsettle : ∀ job op pc, t' = .settle job op pc → t = t') :
    ShareMove cfg now i s t ev t' s'
  | payment (job : DeviceJob) (kind : TwoPhase) (pc pc' : TwoPhasePc) (ev : TimEvent)
      (s' : TimState) (h : TwoPhaseMove cfg now i job kind s pc ev pc' s') :
    ShareMove cfg now i s (.twoPhase job kind pc) ev (.twoPhase job kind pc') s'
  | settle (job : DeviceJob) (op : SettleOp) (pc pc' : SettlePc) (ev : TimEvent) (s' : TimState)
      (h : settleStep cfg i job op s pc ev = some (pc', s')) :
    ShareMove cfg now i s (.settle job op pc) ev (.settle job op pc') s'

lemma ShareMove.of_step {now : Time} {i : ℕ} {ev : TimEvent} {s s' : TimState} {t t' : TimTask}
    (h : timStep cfg now i ev t s = some (t', s')) : ShareMove cfg now i s t ev t' s' := by
  have haside : ∀ {t₂ : TimTask}, Aside s s' → (∀ job kind pc, t₂ ≠ .twoPhase job kind pc) →
      (∀ job op pc, t₂ ≠ .settle job op pc) → ShareMove cfg now i s t ev t₂ s' :=
    fun ha h₁ h₂ => .apart _ _ _ _ ha.holders ha.channels ha.replies
      (fun _ _ _ ht => absurd ht (h₁ _ _ _)) fun _ _ _ ht => absurd ht (h₂ _ _ _)
  unfold timStep at h
  split at h
  · cases h
  · split at h
    · cases h
      exact .apart _ _ _ _ rfl rfl rfl (fun _ _ _ _ => rfl) fun _ _ _ _ => rfl
    · rw [Option.map_eq_some_iff] at h
      obtain ⟨⟨pc', s₁⟩, hstep, heq⟩ := h
      cases heq
      exact .payment _ _ _ pc' _ _ (TwoPhaseMove.of_step hstep)
    · rw [Option.map_eq_some_iff] at h
      obtain ⟨⟨pc', s₁⟩, hstep, heq⟩ := h
      cases heq
      exact .settle _ _ _ pc' _ _ hstep
    · rw [Option.map_eq_some_iff] at h
      obtain ⟨⟨pc', s₁⟩, hstep, heq⟩ := h
      cases heq
      exact haside (opTaskStep_aside hstep) (by rintro _ _ _ ⟨⟩) (by rintro _ _ _ ⟨⟩)
    · rw [Option.map_eq_some_iff] at h
      obtain ⟨⟨pc', s₁⟩, hstep, heq⟩ := h
      cases heq
      exact haside (reconcileStep_aside hstep) (by rintro _ _ _ ⟨⟩) (by rintro _ _ _ ⟨⟩)
    · rw [Option.map_eq_some_iff] at h
      obtain ⟨⟨pc', s₁⟩, hstep, heq⟩ := h
      cases heq
      exact haside (safetyLoopStep_aside hstep) (by rintro _ _ _ ⟨⟩) (by rintro _ _ _ ⟨⟩)

/-! ### The invariant -/

/-- The call of a payment is as before, takes a step, or begins. -/
lemma CallsMove.payment (h : CallsMove w e w') {i : ℕ} {job : DeviceJob} {kind : TwoPhase}
    {pc : TwoPhasePc} (ht : w'.proc.tasks i = some (.inr (.twoPhase job kind pc))) :
    w.proc.tasks i = some (.inr (.twoPhase job kind pc)) ∨
      (∃ pc₀ ev, w.proc.tasks i = some (.inr (.twoPhase job kind pc₀)) ∧
        TwoPhaseMove cfg w.clock i job kind (cards w) pc₀ ev pc (cards w')) ∨
      pc = .start ∧ Begins w w' i job := by
  rcases h.goes with hgoes | ⟨-, hidle⟩
  · rcases hgoes.tasks i _ ht with hstart | ⟨t, ht₀, rfl | ⟨ev, hcall⟩⟩
    · generalize htask : TimTask.twoPhase job kind pc = t at hstart
      cases hstart with
      | reconcile => cases htask
      | execute job₀ hbegins =>
        obtain ⟨rfl, rfl⟩ := twoPhase_of_executeCard htask.symm
        exact Or.inr (Or.inr ⟨rfl, hbegins⟩)
    · exact Or.inl ht₀
    · generalize htask : TimTask.twoPhase job kind pc = t' at hcall
      generalize hs : cards w' = s' at hcall
      cases ShareMove.of_step hcall with
      | apart _ _ _ _ _ _ _ hpayment =>
        rw [hpayment _ _ _ htask.symm] at ht₀
        exact Or.inl ht₀
      | payment _ _ pc₀ _ _ _ hpay =>
        cases htask
        exact Or.inr (Or.inl ⟨pc₀, ev, ht₀, hs ▸ hpay⟩)
      | settle => cases htask
  · cases hidle i _ ht

lemma CallsMove.payment_before (h : CallsMove w e w') {i : ℕ} {job : DeviceJob}
    {kind : TwoPhase} {pc : TwoPhasePc}
    (ht : w'.proc.tasks i = some (.inr (.twoPhase job kind pc))) :
    (∃ pc₀, w.proc.tasks i = some (.inr (.twoPhase job kind pc₀))) ∨ Begins w w' i job := by
  rcases h.payment ht with hold | ⟨pc₀, -, hold, -⟩ | ⟨-, hbegins⟩
  · exact Or.inl ⟨pc, hold⟩
  · exact Or.inl ⟨pc₀, hold⟩
  · exact Or.inr hbegins

/-- The call of a settle job is as before, takes a step, or begins. -/
lemma CallsMove.settle (h : CallsMove w e w') {i : ℕ} {job : DeviceJob} {op : SettleOp}
    {pc : SettlePc} (ht : w'.proc.tasks i = some (.inr (.settle job op pc))) :
    w.proc.tasks i = some (.inr (.settle job op pc)) ∨
      (∃ pc₀ ev, w.proc.tasks i = some (.inr (.settle job op pc₀)) ∧
        settleStep cfg i job op (cards w) pc₀ ev = some (pc, cards w')) ∨
      pc = .start ∧ Aimed job op pc := by
  rcases h.goes with hgoes | ⟨-, hidle⟩
  · rcases hgoes.tasks i _ ht with hstart | ⟨t, ht₀, rfl | ⟨ev, hcall⟩⟩
    · generalize htask : TimTask.settle job op pc = t at hstart
      cases hstart with
      | reconcile => cases htask
      | execute job₀ hbegins =>
        obtain ⟨rfl, rfl, haimed⟩ := settle_of_executeCard htask.symm
        exact Or.inr (Or.inr ⟨rfl, haimed⟩)
    · exact Or.inl ht₀
    · generalize htask : TimTask.settle job op pc = t' at hcall
      generalize hs : cards w' = s' at hcall
      cases ShareMove.of_step hcall with
      | apart _ _ _ _ _ _ _ _ hsettle =>
        rw [hsettle _ _ _ htask.symm] at ht₀
        exact Or.inl ht₀
      | payment => cases htask
      | settle _ _ pc₀ _ _ _ hstep =>
        cases htask
        exact Or.inr (Or.inl ⟨pc₀, ev, ht₀, hs ▸ hstep⟩)
  · cases hidle i _ ht

/-- What the calls of the payments and the settle jobs share belongs together. -/
structure ChannelInv (w : World (cardWith F cfg)) : Prop where
  /-- A payment is called after its row was taken. -/
  taken : ∀ i job kind pc, w.proc.tasks i = some (.inr (.twoPhase job kind pc)) →
    ∃ e, w.journal.get job.id = some e ∧ e.state ≠ .received
  unique : ∀ i i' job job' kind kind' pc pc',
    w.proc.tasks i = some (.inr (.twoPhase job kind pc)) →
    w.proc.tasks i' = some (.inr (.twoPhase job' kind' pc')) → job'.id = job.id → i' = i
  aimed : ∀ i job op pc, w.proc.tasks i = some (.inr (.settle job op pc)) → Aimed job op pc
  /-- A settle job has no other call. -/
  apart : ∀ i job pc, w.proc.tasks i = some (.inr (.op job pc)) →
    ∀ op : SettleOp, op.jobType ≠ job.jobType
  numbered : ∀ n queue, w.proc.vol.2.channels n = some queue → n < w.proc.nextTask
  queued : ∀ n queue q job kind pc, w.proc.vol.2.channels n = some queue → q ∈ queue →
    w.proc.tasks n = some (.inr (.twoPhase job kind pc)) → Entitled w q.request.waiter job.id
  waiter : ∀ n job kind pc j, w.proc.tasks n = some (.inr (.twoPhase job kind pc)) →
    pc.waiter = some j → Entitled w j job.id
  holder : ∀ target n, w.proc.vol.2.holders target = some n → Holds w target n
  sending : ∀ j job op target n,
    w.proc.tasks j = some (.inr (.settle job op (.sending target n))) → Holds w target n

namespace ChannelInv

/-- Whom a call of a payment may answer is entitled to it. -/
lemma entitled (ih : ChannelInv w) {n j : ℕ} {job : DeviceJob} {kind : TwoPhase} {pc : TwoPhasePc}
    (ht : w.proc.tasks n = some (.inr (.twoPhase job kind pc)))
    (hj : Addresses (cards w) n pc j) : Entitled w j job.id := by
  rcases hj with hwaiter | ⟨queue, q, hqueue, hq, rfl⟩
  · exact ih.waiter n job kind pc j ht hwaiter
  · exact ih.queued n queue q job kind pc hqueue hq ht

/-- A call of a payment begins only when there is none. -/
lemma begins_alone (ih : ChannelInv w) {i i' : ℕ} {job job' : DeviceJob} {kind : TwoPhase}
    {pc : TwoPhasePc} (hbegins : Begins w w' i job)
    (ht : w.proc.tasks i' = some (.inr (.twoPhase job' kind pc))) : job'.id ≠ job.id := by
  intro hid
  obtain ⟨e₀, he₀, hstate⟩ := hbegins.before
  obtain ⟨e₁, he₁, hne⟩ := ih.taken i' job' kind pc ht
  rw [hid, he₀] at he₁
  cases he₁
  exact hne hstate

lemma taken_step (ih : ChannelInv w) (hstep : w.step timing e = some w') {i : ℕ}
    {job : DeviceJob} {kind : TwoPhase} {pc : TwoPhasePc}
    (ht : w'.proc.tasks i = some (.inr (.twoPhase job kind pc))) :
    ∃ e, w'.journal.get job.id = some e ∧ e.state ≠ .received := by
  rcases (CallsMove.of_step hstep).payment_before ht with ⟨pc₀, ht₀⟩ | hbegins
  · obtain ⟨e₀, he₀, hne⟩ := ih.taken i job kind pc₀ ht₀
    rcases (Shape.of_step hstep).row_kept he₀ with ⟨e', he', hle⟩ | ⟨n, rfl⟩
    · exact ⟨e', he', hle.ne_received hne⟩
    · cases background_inr ht
  · obtain ⟨e', he', hstate⟩ := hbegins.after
    exact ⟨e', he', by rw [hstate]; simp⟩

lemma unique_step (ih : ChannelInv w) (hmove : CallsMove w e w') {i i' : ℕ}
    {job job' : DeviceJob} {kind kind' : TwoPhase} {pc pc' : TwoPhasePc}
    (ht : w'.proc.tasks i = some (.inr (.twoPhase job kind pc)))
    (ht' : w'.proc.tasks i' = some (.inr (.twoPhase job' kind' pc'))) (hid : job'.id = job.id) :
    i' = i := by
  rcases hmove.payment_before ht with ⟨pc₀, h₀⟩ | hbegins
  · rcases hmove.payment_before ht' with ⟨pc₀', h₀'⟩ | hbegins'
    · exact ih.unique i i' job job' kind kind' pc₀ pc₀' h₀ h₀' hid
    · exact absurd hid.symm (ih.begins_alone hbegins' h₀)
  · rcases hmove.payment_before ht' with ⟨pc₀', h₀'⟩ | hbegins'
    · exact absurd hid (ih.begins_alone hbegins h₀')
    · rw [hbegins.number, hbegins'.number]

lemma aimed_step (ih : ChannelInv w) (hmove : CallsMove w e w') {i : ℕ} {job : DeviceJob}
    {op : SettleOp} {pc : SettlePc}
    (ht : w'.proc.tasks i = some (.inr (.settle job op pc))) : Aimed job op pc := by
  rcases hmove.settle ht with hold | ⟨pc₀, ev, h₀, hcall⟩ | ⟨-, haimed⟩
  · exact ih.aimed i job op pc hold
  · exact (ih.aimed i job op pc₀ h₀).step hcall
  · exact haimed

lemma apart_step (ih : ChannelInv w) (hmove : CallsMove w e w') {i : ℕ} {job : DeviceJob}
    {pc : OpPc} (ht : w'.proc.tasks i = some (.inr (.op job pc))) (op : SettleOp) :
    op.jobType ≠ job.jobType := by
  rcases hmove.goes with hgoes | ⟨-, hidle⟩
  · rcases hgoes.tasks i _ ht with hstart | ⟨t, ht₀, rfl | ⟨ev, hcall⟩⟩
    · generalize htask : TimTask.op job pc = t at hstart
      cases hstart with
      | reconcile => cases htask
      | execute job₀ => exact op_of_executeCard htask.symm op
    · exact ih.apart i job pc ht₀ op
    · have hmove := (TimMove.of_step hcall).1
      generalize htask : TimTask.op job pc = t' at hmove
      generalize cards w' = s' at hmove
      cases hmove with
      | elapsed => exact ih.apart i job pc (htask ▸ ht₀) op
      | op _ pc₀ =>
        cases htask
        exact ih.apart i job pc₀ ht₀ op
      | twoPhase | settle | reconcile | safety => cases htask
  · cases hidle i _ ht

/-- The holders and channels after a step of a settle job: a request may be new. -/
lemma settle_shared {i : ℕ} {job : DeviceJob} {op : SettleOp} {pc pc' : SettlePc} {ev : TimEvent}
    {s s' : TimState} (h : settleStep cfg i job op s pc ev = some (pc', s')) :
    s'.vol.holders = s.vol.holders ∧ s'.vol.replies = s.vol.replies ∧
      ∀ n queue', s'.vol.channels n = some queue' →
        ∃ queue, s.vol.channels n = some queue ∧ ∀ q ∈ queue', q ∈ queue ∨
          q.request.waiter = i ∧ ∃ target, pc = .sending target n := by
  have hsame : ∀ n queue', s.vol.channels n = some queue' →
      ∃ queue, s.vol.channels n = some queue ∧ ∀ q ∈ queue', q ∈ queue ∨
        q.request.waiter = i ∧ ∃ target, pc = .sending target n :=
    fun n queue' hn => ⟨queue', hn, fun q hq => Or.inl hq⟩
  cases SettleMove.of_step h with
  | sent target n₀ queue hqueue =>
    refine ⟨rfl, rfl, fun n queue' hn => ?_⟩
    rw [channels_withChannel] at hn
    by_cases hni : n = n₀
    · rw [hni, Function.update_self] at hn
      cases hn
      refine ⟨queue, hni ▸ hqueue, fun q hq => ?_⟩
      rcases List.mem_append.mp hq with hq | hq
      · exact Or.inl hq
      · rw [List.mem_singleton.mp hq]
        exact Or.inr ⟨rfl, target, by rw [hni]⟩
    · rw [Function.update_of_ne hni] at hn
      exact hsame n queue' hn
  | begin | refused | read | passed | decided | found | again | replied => exact ⟨rfl, rfl, hsame⟩

/-- The other calls are as before. -/
lemma task_of_ne {i n : ℕ} {t' : TimTask} {u : F.Task ⊕ TimTask}
    (htasks : w'.proc.tasks = Function.update w.proc.tasks i (some (.inr t')))
    (hn : n ≠ i) (ht : w'.proc.tasks n = some u) : w.proc.tasks n = some u := by
  rwa [htasks, Function.update_of_ne hn] at ht

lemma task_self {i : ℕ} {t' u : TimTask}
    (htasks : w'.proc.tasks = Function.update w.proc.tasks i (some (.inr t')))
    (ht : w'.proc.tasks i = some (.inr u)) : u = t' := by
  rw [htasks, Function.update_self] at ht
  cases ht
  rfl

lemma lt_of_task (hfresh : ∀ i, w.proc.nextTask ≤ i → w.proc.tasks i = none) {i : ℕ}
    {u : F.Task ⊕ TimTask} (ht : w.proc.tasks i = some u) : i < w.proc.nextTask := by
  by_contra hlt
  rw [hfresh i (not_lt.mp hlt)] at ht
  cases ht

lemma numbered_step (ih : ChannelInv w) (hmove : CallsMove w e w')
    (hfresh : ∀ i, w.proc.nextTask ≤ i → w.proc.tasks i = none) {n : ℕ} {queue : List Queued}
    (hn : w'.proc.vol.2.channels n = some queue) : n < w'.proc.nextTask := by
  cases hmove with
  | other hdev hvol hnext htasks =>
    rw [hvol] at hn
    exact (ih.numbered n queue hn).trans_le hnext
  | wiped hdev hvol htasks =>
    rw [hvol] at hn
    cases hn
  | stepped i ev t t' he htask hstep hnext htasks =>
    rw [hnext]
    generalize hs : cards w' = s' at hstep
    have hn' : s'.vol.channels n = some queue := by
      rw [← hs]
      exact hn
    cases ShareMove.of_step hstep with
    | apart _ _ _ _ hholders hchannels =>
      rw [hchannels] at hn'
      exact ih.numbered n queue hn'
    | payment job kind pc pc' _ _ hpay =>
      rcases hpay.shared.channels n queue hn' with ⟨rfl, -⟩ | ⟨queue₀, hqueue₀, -⟩
      · exact lt_of_task hfresh htask
      · exact ih.numbered n queue₀ hqueue₀
    | settle job op pc pc' _ _ hsettle =>
      obtain ⟨queue₀, hqueue₀, -⟩ := (settle_shared hsettle).2.2 n queue hn'
      exact ih.numbered n queue₀ hqueue₀

lemma queued_step (ih : ChannelInv w) (hmove : CallsMove w e w')
    (hfresh : ∀ i, w.proc.nextTask ≤ i → w.proc.tasks i = none) {n : ℕ} {queue : List Queued}
    {q : Queued} {job : DeviceJob} {kind : TwoPhase} {pc : TwoPhasePc}
    (hn : w'.proc.vol.2.channels n = some queue) (hq : q ∈ queue)
    (ht : w'.proc.tasks n = some (.inr (.twoPhase job kind pc))) :
    Entitled w' q.request.waiter job.id := by
  rcases hmove.goes with hgoes | ⟨hwiped, -⟩
  swap
  · rw [hwiped] at hn
    cases hn
  -- the call of the payment was there before
  have hbefore : n < w.proc.nextTask →
      ∃ pc₀, w.proc.tasks n = some (.inr (.twoPhase job kind pc₀)) := by
    intro hlt
    rcases hmove.payment_before ht with hold | hbegins
    · exact hold
    · exact absurd hbegins.number hlt.ne
  have hold : ∀ {queue₀}, w.proc.vol.2.channels n = some queue₀ → q ∈ queue₀ →
      Entitled w' q.request.waiter job.id := by
    intro queue₀ hqueue₀ hq₀
    obtain ⟨pc₀, ht₀⟩ := hbefore (ih.numbered n queue₀ hqueue₀)
    exact (ih.queued n queue₀ q job kind pc₀ hqueue₀ hq₀ ht₀).step hgoes
  cases hmove with
  | other hdev hvol hnext htasks => exact hold (hvol ▸ hn) hq
  | wiped hdev hvol htasks =>
    rw [hvol] at hn
    cases hn
  | stepped i ev t t' he htask hstep hnext htasks =>
    generalize hs : cards w' = s' at hstep
    have hn' : s'.vol.channels n = some queue := by
      rw [← hs]
      exact hn
    cases ShareMove.of_step hstep with
    | apart _ _ _ _ hholders hchannels =>
      rw [hchannels] at hn'
      exact hold hn' hq
    | payment job kind pc pc' _ _ hpay =>
      rcases hpay.shared.channels n queue hn' with ⟨-, rfl⟩ | ⟨queue₀, hqueue₀, hsub⟩
      · cases hq
      · exact hold hqueue₀ (hsub q hq)
    | settle job₁ op pc₁ pc₁' _ _ hsettle =>
      obtain ⟨queue₀, hqueue₀, hsub⟩ := (settle_shared hsettle).2.2 n queue hn'
      rcases hsub q hq with hq₀ | ⟨hwaiter, target, rfl⟩
      · exact hold hqueue₀ hq₀
      · -- the request is new: its sender found this call among the holders of its payment
        obtain ⟨pc₀, ht₀⟩ := hbefore (ih.numbered n queue₀ hqueue₀)
        have hid := (ih.sending i job₁ op target n htask).2 _ ht₀ job kind pc₀ rfl
        have hentitled : Entitled w i target := by
          refine ⟨lt_of_task hfresh htask, fun t ht₁ job' op' pc' htask' => ?_⟩
          rw [htask, htask'] at ht₁
          cases ht₁
          exact (ih.aimed i job₁ op _ htask).2 target rfl
        rw [hwaiter, hid]
        exact hentitled.step hgoes

lemma waiter_step (ih : ChannelInv w) (hmove : CallsMove w e w') {n j : ℕ} {job : DeviceJob}
    {kind : TwoPhase} {pc : TwoPhasePc}
    (ht : w'.proc.tasks n = some (.inr (.twoPhase job kind pc))) (hj : pc.waiter = some j) :
    Entitled w' j job.id := by
  rcases hmove.goes with hgoes | ⟨-, hidle⟩
  swap
  · cases hidle n _ ht
  rcases hmove.payment ht with hold | ⟨pc₀, ev, h₀, hpay⟩ | ⟨rfl, -⟩
  · exact (ih.waiter n job kind pc j hold hj).step hgoes
  · exact (ih.entitled h₀ (hpay.shared.waiter j hj)).step hgoes
  · cases hj

lemma holder_step (ih : ChannelInv w) (hmove : CallsMove w e w')
    (hfresh : ∀ i, w.proc.nextTask ≤ i → w.proc.tasks i = none) {target : ℤ} {n : ℕ}
    (hn : w'.proc.vol.2.holders target = some n) : Holds w' target n := by
  rcases hmove.goes with hgoes | ⟨hwiped, -⟩
  swap
  · rw [hwiped] at hn
    cases hn
  cases hmove with
  | other hdev hvol hnext htasks =>
    rw [hvol] at hn
    exact (ih.holder target n hn).step hgoes
  | wiped hdev hvol htasks =>
    rw [hvol] at hn
    cases hn
  | stepped i ev t t' he htask hstep hnext htasks =>
    generalize hs : cards w' = s' at hstep
    have hn' : s'.vol.holders target = some n := by
      rw [← hs]
      exact hn
    cases ShareMove.of_step hstep with
    | apart _ _ _ _ hholders =>
      rw [hholders] at hn'
      exact (ih.holder target n hn').step hgoes
    | payment job kind pc pc' _ _ hpay =>
      rcases hpay.shared.holders target n hn' with hold | ⟨rfl, rfl⟩
      · exact (ih.holder target n hold).step hgoes
      · -- the call holds its own payment
        have hholds : Holds w job.id n := by
          refine ⟨lt_of_task hfresh htask, fun t ht job' kind' pc₁ hpc => ?_⟩
          rw [htask, hpc] at ht
          cases ht
          rfl
        exact hholds.step hgoes
    | settle job op pc pc' _ _ hsettle =>
      rw [(settle_shared hsettle).1] at hn'
      exact (ih.holder target n hn').step hgoes

lemma sending_step (ih : ChannelInv w) (hmove : CallsMove w e w') {j n : ℕ} {job : DeviceJob}
    {op : SettleOp} {target : ℤ}
    (ht : w'.proc.tasks j = some (.inr (.settle job op (.sending target n)))) :
    Holds w' target n := by
  rcases hmove.goes with hgoes | ⟨-, hidle⟩
  swap
  · cases hidle j _ ht
  rcases hmove.settle ht with hold | ⟨pc₀, ev, h₀, hcall⟩ | ⟨hpc, -⟩
  · exact (ih.sending j job op target n hold).step hgoes
  · generalize hpc : SettlePc.sending target n = pc at hcall
    generalize hs : cards w' = s' at hcall
    cases SettleMove.of_step hcall with
    | found target n hn =>
      cases hpc
      exact (ih.holder target n hn).step hgoes
    | begin | refused | read | passed | decided | again | sent | replied => cases hpc
  · cases hpc

end ChannelInv

lemma channelInv_of_reach {law : Transition.Law (World (cardWith F cfg)) (Event (cardWith F cfg))}
    (h : (source (cardWith F cfg) timing).Reach law w) : ChannelInv w := by
  refine h.invariant (P := ChannelInv) ?_ ?_
  · constructor
    · rintro i job kind pc ⟨⟩
    · rintro i i' job job' kind kind' pc pc' ⟨⟩
    · rintro i job op pc ⟨⟩
    · rintro i job pc ⟨⟩
    · rintro n queue ⟨⟩
    · rintro n queue q job kind pc ⟨⟩
    · rintro n job kind pc j ⟨⟩
    · rintro target n ⟨⟩
    · rintro j job op target n ⟨⟩
  · intro a ev b ha ih hstep _
    have hmove := CallsMove.of_step hstep
    have hfresh := (taskInv_of_reach (cardStates F cfg) ha).fresh
    exact
      { taken := fun i job kind pc ht => ih.taken_step hstep ht
        unique := fun i i' job job' kind kind' pc pc' ht ht' hid => ih.unique_step hmove ht ht' hid
        aimed := fun i job op pc ht => ih.aimed_step hmove ht
        apart := fun i job pc ht => ih.apart_step hmove ht
        numbered := fun n queue hn => ih.numbered_step hmove hfresh hn
        queued := fun n queue q job kind pc hn hq ht => ih.queued_step hmove hfresh hn hq ht
        waiter := fun n job kind pc j ht hj => ih.waiter_step hmove ht hj
        holder := fun target n hn => ih.holder_step hmove hfresh hn
        sending := fun j job op target n ht => ih.sending_step hmove ht }

end DevBridge.Tim

import DevBridge.Tim.Executor

/-!
# The steps aside from the held payments

A call changes what all calls share in few ways.  The sessions of one errand, the reconciles
and the safety balance are *aside* from the held payments: they touch no holder, channel or
reply, send no sale, commit or rollback, and leave every authorisation as it is.
-/

namespace DevBridge.Tim

/-! ### The card rows -/

/-- What a card row keeps from its contact on. -/
structure RowKept (c c' : CardPayment) : Prop where
  jobId : c'.jobId = c.jobId
  terminalIp : c'.terminalIp = c.terminalIp
  amountMinor : c'.amountMinor = c.amountMinor
  baselineSeq : c'.baselineSeq = c.baselineSeq
  contactAt : c'.contactAt = c.contactAt
  txType : c'.txType = c.txType
  targetSeq : c'.targetSeq = c.targetSeq
  authResult : c'.authResult = c.authResult
  /-- The first `trans_seq` stays. -/
  transSeq : c.transSeq.isSome → c'.transSeq = c.transSeq

lemma RowKept.refl (c : CardPayment) : RowKept c c :=
  ⟨rfl, rfl, rfl, rfl, rfl, rfl, rfl, rfl, fun _ => rfl⟩

lemma RowKept.trans {c₁ c₂ c₃ : CardPayment} (h : RowKept c₁ c₂) (h' : RowKept c₂ c₃) :
    RowKept c₁ c₃ where
  jobId := h'.jobId.trans h.jobId
  terminalIp := h'.terminalIp.trans h.terminalIp
  amountMinor := h'.amountMinor.trans h.amountMinor
  baselineSeq := h'.baselineSeq.trans h.baselineSeq
  contactAt := h'.contactAt.trans h.contactAt
  txType := h'.txType.trans h.txType
  targetSeq := h'.targetSeq.trans h.targetSeq
  authResult := h'.authResult.trans h.authResult
  transSeq hs := (h'.transSeq (by rw [h.transSeq hs]; exact hs)).trans (h.transSeq hs)

/-- The card rows after a write that journals no authorisation: rows may be new. -/
structure CardsKept (j j' : Journal) : Prop where
  kept : ∀ id c, j.cardPayment id = some c → ∃ c', j'.cardPayment id = some c' ∧ RowKept c c'
  fresh : ∀ id c', j.cardPayment id = none → j'.cardPayment id = some c' → c'.authResult = none

namespace CardsKept

variable {j j' : Journal}

lemma of_eq (h : j'.cardPayments = j.cardPayments) : CardsKept j j' := by
  constructor
  · intro id c hc
    exact ⟨c, by rw [Journal.cardPayment, h]; exact hc, RowKept.refl c⟩
  · intro id c' hnone hc'
    rw [Journal.cardPayment, h] at hc'
    exact absurd (hnone.symm.trans hc') (by simp)

lemma refl (j : Journal) : CardsKept j j := of_eq rfl

lemma trans {j₁ j₂ j₃ : Journal} (h : CardsKept j₁ j₂) (h' : CardsKept j₂ j₃) :
    CardsKept j₁ j₃ := by
  constructor
  · intro id c hc
    obtain ⟨c₂, hc₂, hk₂⟩ := h.kept id c hc
    obtain ⟨c₃, hc₃, hk₃⟩ := h'.kept id c₂ hc₂
    exact ⟨c₃, hc₃, hk₂.trans hk₃⟩
  · intro id c₃ hnone hc₃
    cases hc₂ : j₂.cardPayment id with
    | none => exact h'.fresh id c₃ hc₂ hc₃
    | some c₂ =>
      obtain ⟨c, hc, hk⟩ := h'.kept id c₂ hc₂
      rw [hc₃] at hc
      cases hc
      exact hk.authResult.trans (h.fresh id c₂ hnone hc₂)

/-- A statement on one card row that keeps what a row keeps. -/
lemma updateCard (j : Journal) (jobId : ℤ) {guard : CardPayment → Bool}
    {set : CardPayment → CardPayment} (hset : ∀ c, guard c = true → RowKept c (set c)) :
    CardsKept j (j.updateCard jobId guard set).2 := by
  have hget : ∀ id, (j.updateCard jobId guard set).2.cardPayment id =
      (j.cardPayment id).map fun c => if id = jobId ∧ guard c then set c else c := fun id =>
    Table.get?_update _ _ _ _ _
  constructor
  · intro id c hc
    refine ⟨if id = jobId ∧ guard c then set c else c, by rw [hget, hc]; rfl, ?_⟩
    split
    · rename_i h
      exact hset c h.2
    · exact RowKept.refl c
  · intro id c' hnone hc'
    rw [hget, hnone] at hc'
    cases hc'

lemma cardTransacted (j : Journal) (jobId transSeq : ℤ) :
    CardsKept j (j.cardTransacted jobId transSeq).2 :=
  updateCard j jobId fun c hc =>
    ⟨rfl, rfl, rfl, rfl, rfl, rfl, rfl, rfl, fun hs => by
      rw [Option.isNone_iff_eq_none] at hc
      rw [hc] at hs
      cases hs⟩

lemma cardEnded (j : Journal) (now : Time) (jobId : ℤ) :
    CardsKept j (j.cardEnded now jobId).2 :=
  updateCard j jobId fun _ _ => ⟨rfl, rfl, rfl, rfl, rfl, rfl, rfl, rfl, fun _ => rfl⟩

lemma cardForPerson (j : Journal) (jobId : ℤ) (why : String) :
    CardsKept j (j.cardForPerson jobId why).2 :=
  updateCard j jobId fun _ _ => ⟨rfl, rfl, rfl, rfl, rfl, rfl, rfl, rfl, fun _ => rfl⟩

lemma markCardAuthAcked (j : Journal) (jobId : ℤ) (note : String) :
    CardsKept j (j.markCardAuthAcked jobId note).2 :=
  updateCard j jobId fun _ _ => ⟨rfl, rfl, rfl, rfl, rfl, rfl, rfl, rfl, fun _ => rfl⟩

end CardsKept

/-- The card rows after a contact: one is new. -/
lemma cardPayment_contact {j j' : Journal} {now : Time} {jobId amountMinor txType : ℤ}
    {ip : String} {base target : Option ℤ}
    (h : j.cardContactOf now jobId ip amountMinor base txType target = some (true, j')) :
    j.cardPayment jobId = none ∧ ∀ id, j'.cardPayment id =
      if id = jobId then some {
        jobId, terminalIp := ip, amountMinor, baselineSeq := base, contactAt := now,
        authorizedAt := none, transSeq := none, authResult := none, authAck := .none,
        authAckNote := none, endedAt := none, personReason := none, txType,
        targetSeq := target }
      else j.cardPayment id := by
  unfold Journal.cardContactOf at h
  rcases hup : j.updateOdoo now jobId .cardContact with ⟨b, j₁⟩
  rw [hup] at h
  have hcards : j₁.cardPayments = j.cardPayments := by
    have := congrArg (fun r : Bool × Journal => r.2.cardPayments) hup
    exact this.symm
  cases b with
  | false => cases h
  | true =>
    simp only at h
    cases hrow : j₁.cardPayments.get? jobId with
    | some c => simp [hrow] at h
    | none =>
      simp only [hrow, Option.some.injEq, Prod.mk.injEq, true_and] at h
      subst h
      rw [hcards] at hrow
      refine ⟨hrow, fun id => ?_⟩
      simp only [Journal.cardPayment, hcards, Table.get?_insert, hrow, and_true]

lemma CardsKept.contact {j j' : Journal} {now : Time} {jobId amountMinor txType : ℤ}
    {ip : String} {base target : Option ℤ}
    (h : j.cardContactOf now jobId ip amountMinor base txType target = some (true, j')) :
    CardsKept j j' := by
  obtain ⟨hnone, hget⟩ := cardPayment_contact h
  constructor
  · intro id c hc
    refine ⟨c, ?_, RowKept.refl c⟩
    rw [hget, if_neg, hc]
    rintro rfl
    exact absurd (hnone.symm.trans hc) (by simp)
  · intro id c' hfresh hc'
    rw [hget] at hc'
    split at hc'
    · cases hc'
      rfl
    · exact absurd (hfresh.symm.trans hc') (by simp)

/-! ### Steps aside -/

/-- The calls that take money or settle a payment. -/
def TerminalCall.ofPayment : TerminalCall → Bool
  | transaction _ _ | commit | rollback => true
  | _ => false

/-- What passes between the bridge and a terminal aside from the held payments. -/
def TerminalEvent.isAside : TerminalEvent → Bool
  | sent _ _ call settles => settles.isNone && !call.ofPayment
  | answered _ _ call _ => !call.ofPayment

/-- A step aside from the held payments. -/
structure Aside (s s' : TimState) : Prop where
  marks : ExecutorMarks s.journal s'.journal
  cards : CardsKept s.journal s'.journal
  instant : s'.vol.instant = s.vol.instant
  holders : s'.vol.holders = s.vol.holders
  channels : s'.vol.channels = s.vol.channels
  replies : s'.vol.replies = s.vol.replies
  log : ∃ new, s'.dev.log = new ++ s.dev.log ∧ ∀ e ∈ new, e.isAside = true

namespace Aside

variable {s s₁ s₂ : TimState}

lemma refl (s : TimState) : Aside s s :=
  ⟨ExecutorMarks.refl _, CardsKept.refl _, rfl, rfl, rfl, rfl, [], rfl, by simp⟩

lemma trans (h : Aside s s₁) (h' : Aside s₁ s₂) : Aside s s₂ := by
  obtain ⟨new, hlog, hnew⟩ := h.log
  obtain ⟨new', hlog', hnew'⟩ := h'.log
  refine ⟨h.marks.trans h'.marks, h.cards.trans h'.cards, h'.instant.trans h.instant,
    h'.holders.trans h.holders, h'.channels.trans h.channels, h'.replies.trans h.replies,
    new' ++ new, by rw [hlog', hlog, List.append_assoc], fun e he => ?_⟩
  rcases List.mem_append.mp he with he | he
  · exact hnew' e he
  · exact hnew e he

lemma send {ip : String} {jobId : Option ℤ} {call : TerminalCall} (h : Aside s s₁)
    (hcall : call.ofPayment = false) : Aside s (s₁.send ip jobId call none) := by
  refine h.trans ⟨ExecutorMarks.refl _, CardsKept.refl _, rfl, rfl, rfl, rfl, [_], rfl, ?_⟩
  simp [TerminalEvent.isAside, hcall]

lemma heard {ip : String} {jobId : Option ℤ} {call : TerminalCall} (a : CallAnswer)
    (h : Aside s s₁) (hcall : call.ofPayment = false) : Aside s (s₁.heard ip jobId call a) := by
  refine h.trans ⟨ExecutorMarks.refl _, CardsKept.refl _, rfl, rfl, rfl, rfl, [_], rfl, ?_⟩
  simp [TerminalEvent.isAside, hcall]

lemma lock (ip : String) (holder : Option ℕ) (h : Aside s s₁) : Aside s (s₁.lock ip holder) :=
  h.trans ⟨ExecutorMarks.refl _, CardsKept.refl _, rfl, rfl, rfl, rfl, [], rfl, by simp⟩

lemma write {j : Journal} (h : Aside s s₁) (hmarks : ExecutorMarks s₁.journal j)
    (hcards : CardsKept s₁.journal j) : Aside s (s₁.withJournal j) :=
  h.trans ⟨hmarks, hcards, rfl, rfl, rfl, rfl, [], rfl, by simp⟩

/-- A write that touches neither job rows nor card rows. -/
lemma writeOther {j : Journal} (h : Aside s s₁) (hread : j.readFloat = s₁.journal.readFloat)
    (hget : ∀ id, j.get id = s₁.journal.get id)
    (hcards : j.cardPayments = s₁.journal.cardPayments) : Aside s (s₁.withJournal j) :=
  h.write (ExecutorMarks.of_get_eq hread hget) (CardsKept.of_eq hcards)

end Aside

/-- An errand takes a step aside, and calls nothing that takes or settles money. -/
def ErrandStep.IsAside (s : TimState) (r : ErrandStep) : Prop :=
  Aside s r.state ∧ ∀ call, r.call = some call → call.ofPayment = false

namespace ErrandStep

variable {s s₁ : TimState} {r : ErrandStep}

lemma aside_ask {pc : ErrandPc} {call : TerminalCall} (h : ask pc call s₁ = some r)
    (ha : Aside s s₁) (hcall : call.ofPayment = false) : r.IsAside s := by
  cases h
  exact ⟨ha, fun _ hc => by cases hc; exact hcall⟩

lemma aside_goOn {pc : ErrandPc} (h : goOn pc s₁ = some r) (ha : Aside s s₁) :
    r.IsAside s := by
  cases h
  exact ⟨ha, fun _ hc => nomatch hc⟩

lemma aside_finish {e : ErrandEnd} (h : finish e s₁ = some r) (ha : Aside s s₁) :
    r.IsAside s := by
  cases h
  exact ⟨ha, fun _ hc => nomatch hc⟩

end ErrandStep

@[simp] lemma TerminalOp.call_ofPayment (op : TerminalOp) : op.call.ofPayment = false := by
  cases op <;> rfl

@[simp] lemma Errand.call_ofPayment (x : Errand) : x.call.ofPayment = false := by
  cases x with
  | op o _ _ | rerun o => exact o.call_ofPayment
  | readLast | reversal _ | copy _ _ | safety _ _ => rfl

@[simp] lemma cardPayments_markDeviceContact (j : Journal) (now : Time) (jobId : ℤ) :
    (j.markDeviceContact now jobId).2.cardPayments = j.cardPayments := by
  unfold Journal.markDeviceContact Journal.updateRow
  split <;> rfl

lemma get_cardBalanceContact (j : Journal) (now : Time) (ip date : String)
    (source : BalanceSource) (jobId : Option ℤ) :
    (j.cardBalanceContact now ip date source jobId).2.readFloat = j.readFloat ∧
      (∀ id, (j.cardBalanceContact now ip date source jobId).2.get id = j.get id) ∧
      (j.cardBalanceContact now ip date source jobId).2.cardPayments = j.cardPayments := by
  unfold Journal.cardBalanceContact
  split <;> exact ⟨rfl, fun _ => rfl, rfl⟩

open ErrandStep

section Errands

variable {cfg : TimConfig} {now : Time} {ip : String} {tid : Option String} {s : TimState}
  {pc : ErrandPc} {ev : TimEvent} {r : ErrandStep}

lemma reversalStep_aside {run : ReversalRun}
    (h : reversalStep run now ip tid s pc ev = some r) : r.IsAside s := by
  unfold reversalStep at h
  split at h
  · split at h
    · split at h
      · exact aside_ask h (Aside.refl s) rfl
      · exact aside_finish h (Aside.refl s)
    · exact aside_ask h (Aside.refl s) rfl
  · exact aside_goOn h (Aside.refl s)
  · exact aside_goOn h (Aside.refl s)
  · split at h
    · exact aside_goOn h (Aside.refl s)
    · exact aside_finish h (Aside.refl s)
    · exact aside_finish h (Aside.refl s)
  · exact aside_finish h (Aside.refl s)
  · -- the contact of the reversal: its card row is new
    split at h
    · rename_i j hj
      exact aside_ask h ((Aside.refl s).write (ExecutorMarks.cardContactOf hj)
        (CardsKept.contact hj)) rfl
    · exact aside_finish h (Aside.refl s)
    · exact aside_finish h (Aside.refl s)
  · exact aside_finish h (Aside.refl s)
  · exact aside_finish h (Aside.refl s)
  · exact aside_goOn h (Aside.refl s)
  · exact aside_finish h (Aside.refl s)
  · exact aside_finish h (Aside.refl s)
  · cases h

lemma aside_contact (s : TimState) (now : Time) (jobId : ℤ) :
    Aside s (s.withJournal (s.journal.markDeviceContact now jobId).2) :=
  (Aside.refl s).write (ExecutorMarks.markDeviceContact _ _ _)
    (CardsKept.of_eq (cardPayments_markDeviceContact _ _ _))

lemma opStep_aside {op : TerminalOp} {jobId : ℤ} {date : String}
    (h : opStep cfg op jobId date now ip tid s pc ev = some r) : r.IsAside s := by
  unfold opStep at h
  split at h
  · have hcontact := aside_contact s now jobId
    split at h
    · rename_i j hj
      rw [hj] at hcontact
      split at h
      · exact aside_goOn h hcontact
      · exact aside_ask h hcontact (by simp)
    · exact aside_finish h (Aside.refl s)
  · exact aside_finish h (Aside.refl s)
  · obtain ⟨hread, hget, hcards⟩ :=
      get_cardBalanceContact s.journal now ip date .job (some jobId)
    exact aside_ask h ((Aside.refl s).writeOther hread hget hcards) rfl
  · exact aside_finish h (Aside.refl s)
  · rw [Option.bind_eq_some_iff] at h
    obtain ⟨_, -, h⟩ := h
    exact aside_finish h (Aside.refl s)
  · rw [Option.bind_eq_some_iff] at h
    obtain ⟨_, -, h⟩ := h
    exact aside_finish h (Aside.refl s)
  · cases h

lemma copyStep_aside {jobId transSeq : ℤ}
    (h : copyStep jobId transSeq now s pc ev = some r) : r.IsAside s := by
  unfold copyStep at h
  split at h
  · exact aside_ask h (aside_contact s now jobId) rfl
  · exact aside_finish h (Aside.refl s)
  · exact aside_finish h (Aside.refl s)
  · simp only at h
    split at h
    · exact aside_ask h (Aside.refl s) rfl
    · exact aside_finish h (Aside.refl s)
  · exact aside_finish h (Aside.refl s)
  · exact aside_finish h (Aside.refl s)
  · cases h

lemma safetyStep_aside {date : String} {midnight : ℕ}
    (h : safetyStep cfg date midnight now ip tid s pc ev = some r) : r.IsAside s := by
  unfold safetyStep at h
  split at h
  · split at h
    · exact aside_finish h (Aside.refl s)
    · split at h
      · exact aside_finish h (Aside.refl s)
      · exact aside_goOn h (Aside.refl s)
  · split at h
    · cases h
    · exact aside_finish h (Aside.refl s)
  · have hrow := get_cardBalanceContact s.journal now ip date .safety none
    split at h
    · rename_i row j hj
      rw [hj] at hrow
      exact aside_ask h ((Aside.refl s).writeOther hrow.1 hrow.2.1 hrow.2.2) rfl
    · exact aside_finish h (Aside.refl s)
  · exact aside_finish h (Aside.refl s)
  · rw [Option.map_eq_some_iff] at h
    obtain ⟨_, -, rfl⟩ := h
    exact ⟨Aside.refl s, fun _ hc => nomatch hc⟩
  · exact aside_finish h ((Aside.refl s).writeOther rfl (fun _ => rfl) rfl)
  · exact aside_finish h (Aside.refl s)
  · cases h

lemma errandStep_aside {x : Errand} (h : x.step cfg now ip tid s pc ev = some r) :
    r.IsAside s := by
  cases x with
  | readLast =>
    simp only [Errand.step] at h
    split at h
    · exact aside_ask h (Aside.refl s) rfl
    · exact aside_finish h (Aside.refl s)
    · exact aside_finish h (Aside.refl s)
    · cases h
  | reversal run => exact reversalStep_aside h
  | op o jobId date => exact opStep_aside h
  | rerun o =>
    simp only [Errand.step] at h
    split at h
    · exact aside_ask h (Aside.refl s) (by simp)
    · rw [Option.bind_eq_some_iff] at h
      obtain ⟨_, -, h⟩ := h
      exact aside_finish h (Aside.refl s)
    · cases h
  | copy jobId transSeq => exact copyStep_aside h
  | safety date midnight => exact safetyStep_aside h

end Errands

/-! ### Sessions -/

namespace Session

variable {cfg : TimConfig} {now : Time} {i : ℕ} {jobId : Option ℤ} {x x' : Session}
  {ev : TimEvent} {s s' : TimState}

lemma callOf_ofPayment {call : TerminalCall} (h : x.callOf = some call) :
    call.ofPayment = false := by
  unfold callOf at h
  split at h
  case h_5 pc _ =>
    unfold Errand.callOf at h
    split at h
    · cases h
      rfl
    · cases h
      simp
    · cases h
      simp
    · cases h
  all_goals cases h <;> rfl

lemma listen_aside (x : Session) (jobId : Option ℤ) (ev : TimEvent) (s : TimState) :
    Aside s (x.listen jobId ev s) := by
  unfold listen
  split
  · rename_i hcall
    exact (Aside.refl s).heard _ (callOf_ofPayment hcall)
  · exact Aside.refl s

lemma worked_aside (x : Session) (jobId : Option ℤ) (tid : Option String) {r : ErrandStep}
    (ha : Aside s r.state) (hr : ∀ call, r.call = some call → call.ofPayment = false) :
    Aside s (x.worked jobId tid r).2 := by
  unfold worked
  split
  · rename_i hcall
    exact ha.send (hr _ hcall)
  · exact ha
  · exact ha.send rfl

lemma identified_aside (x : Session) (jobId : Option ℤ) (tid : Option String) {s₁ : TimState}
    (ha : Aside s s₁) : Aside s (x.identified jobId tid s₁).2 := by
  unfold identified
  split
  · split
    · exact ha
    · exact ha.send rfl
  · exact ha

/-- A step of a session is aside from the held payments. -/
lemma step_aside (h : x.step cfg now i jobId ev s = some (x', s')) : Aside s s' := by
  have hheard := x.listen_aside jobId ev s
  have hask : ∀ {pc : SessionPc} {call : TerminalCall} {s₁ : TimState}, Aside s s₁ →
      call.ofPayment = false → some (x.ask jobId pc call s₁) = some (x', s') → Aside s s' := by
    intro pc call s₁ ha hcall heq
    cases heq
    exact ha.send hcall
  unfold step at h
  simp only at h
  split at h
  · split at h
    · exact hask ((Aside.refl s).lock _ _) rfl h
    · cases h
  · cases h
    exact hheard.lock _ _
  · exact hask hheard rfl h
  · cases h
    exact hheard.lock _ _
  · exact hask hheard rfl h
  · exact hask hheard rfl h
  · exact hask hheard rfl h
  · exact hask hheard rfl h
  · rename_i tid _
    simp only [Option.some.injEq] at h
    have hs' := identified_aside x jobId tid hheard
    rw [h] at hs'
    exact hs'
  · rename_i tid _ _
    rw [Option.map_eq_some_iff] at h
    obtain ⟨r, hr, heq⟩ := h
    obtain ⟨hstep, hcall⟩ := errandStep_aside hr
    have hs' := worked_aside x jobId tid (hheard.trans hstep) hcall
    rw [heq] at hs'
    exact hs'
  · exact hask hheard rfl h
  · exact hask hheard rfl h
  · cases h
    exact hheard.lock _ _
  · cases h
    exact hheard.lock _ _
  · cases h

end Session

/-! ### The other calls -/

section Calls

variable {cfg : TimConfig} {now : Time} {i : ℕ} {ev : TimEvent} {s s' : TimState}

/-- A statement on the card rows that journals no authorisation. -/
lemma aside_card {j : Journal} (hread : j.readFloat = s.journal.readFloat)
    (hget : ∀ id, j.get id = s.journal.get id) (hcards : CardsKept s.journal j) :
    Aside s (s.withJournal j) :=
  (Aside.refl s).write (ExecutorMarks.of_get_eq hread hget) hcards

lemma aside_transacted (s : TimState) (jobId : ℤ) (seq : Option ℤ) :
    Aside s (s.withJournal (match seq with
      | some seq => (s.journal.cardTransacted jobId seq).2
      | none => s.journal)) := by
  cases seq with
  | none => exact Aside.refl s
  | some seq => exact aside_card rfl (fun _ => rfl) (CardsKept.cardTransacted _ _ _)

lemma aside_balance (s : TimState) (row : Option ℤ) (outcome : Outcome) :
    Aside s (s.withJournal (journalBalance s.journal row outcome)) := by
  unfold journalBalance
  split
  · exact (Aside.refl s).writeOther rfl (fun _ => rfl) rfl
  · exact (Aside.refl s).writeOther rfl (fun _ => rfl) rfl
  · exact Aside.refl s

lemma opTaskStep_aside {job : DeviceJob} {pc pc' : OpPc}
    (h : opTaskStep cfg now i job s pc ev = some (pc', s')) : Aside s s' := by
  unfold opTaskStep at h
  split at h
  · cases h
    exact Aside.refl s
  · cases h
    exact Aside.refl s
  · split at h <;> cases h <;> exact Aside.refl s
  · cases h
    exact Aside.refl s
  · cases h
    exact Aside.refl s
  · cases h
    exact Aside.refl s
  · cases h
    exact Aside.refl s
  · rw [Option.map_eq_some_iff] at h
    obtain ⟨⟨x', s₁⟩, hstep, heq⟩ := h
    cases heq
    exact Session.step_aside hstep
  · cases h
    exact aside_transacted _ _ _
  · cases h
    exact Aside.refl s
  · cases h
    exact aside_card rfl (fun _ => rfl) (CardsKept.cardEnded _ _ _)
  · cases h
    exact Aside.refl s
  · cases h
    exact aside_balance _ _ _
  · cases h
    exact Aside.refl s
  · cases h
    exact Aside.refl s
  · cases h
    exact Aside.refl s
  · cases h

lemma reconcileStep_aside {entry : JournalEntry} {pc pc' : ReconcilePc}
    (h : reconcileStep cfg now i entry s pc ev = some (pc', s')) : Aside s s' := by
  unfold reconcileStep at h
  split at h
  case h_2 =>
    split at h
    · cases h
      exact Aside.refl s
    · split at h <;> cases h <;> exact Aside.refl s
  case h_6 =>
    rw [Option.map_eq_some_iff] at h
    obtain ⟨⟨x', s₁⟩, hstep, heq⟩ := h
    cases heq
    exact Session.step_aside hstep
  case h_9 =>
    cases h
    exact aside_transacted _ _ _
  case h_11 =>
    cases h
    exact aside_card rfl (fun _ => rfl) (CardsKept.cardForPerson _ _ _)
  case h_13 => split at h <;> cases h <;> exact Aside.refl s
  case h_20 =>
    rw [Option.map_eq_some_iff] at h
    obtain ⟨⟨x', s₁⟩, hstep, heq⟩ := h
    cases heq
    exact Session.step_aside hstep
  all_goals
    cases h
    try exact Aside.refl s

lemma safetyLoopStep_aside {pc pc' : SafetyPc}
    (h : safetyLoopStep cfg now i s pc ev = some (pc', s')) : Aside s s' := by
  unfold safetyLoopStep at h
  split at h
  · simp only at h
    split at h <;> cases h <;> exact Aside.refl s
  · cases h
    exact Aside.refl s
  · split at h <;> cases h <;> exact Aside.refl s
  · cases h
    exact Aside.refl s
  · cases h
    exact Aside.refl s
  · rw [Option.map_eq_some_iff] at h
    obtain ⟨⟨x', s₁⟩, hstep, heq⟩ := h
    cases heq
    exact Session.step_aside hstep
  · cases h
    exact aside_balance _ _ _
  · cases h
    exact Aside.refl s
  · cases h

end Calls

end DevBridge.Tim

import DevBridge.Lib.Leases
import DevBridge.Tim.Contacts
import DevBridge.Tim.Jobs
import DevBridge.Tim.Locks

/-!
# Who writes the balances

A day closing has its row before it is sent: a balance job or the safety balance inserts it
inside its session, has it in hand until the outcome is journaled, and drops it only when the
terminal refused a safety balance.  Nobody else writes it, so a row with an outcome keeps it until
it is pruned at a start.
-/

namespace DevBridge

/-- The day closings of a journal. -/
def Journal.balance (j : Journal) (id : ℤ) : Option CardBalance := j.cardBalances.get? id

namespace Journal

variable {j j' : Journal}

lemma cardBalances_updateRow (j : Journal) (now : Time) (jobId : ℤ) (op : RowOp) :
    (j.updateRow now jobId op).2.cardBalances = j.cardBalances := by
  unfold updateRow
  split <;> rfl

lemma cardBalances_insert (j : Journal) (now : Time) (job : OdooJob)
    (refused : Option (String × String)) :
    (j.insert now job refused).2.cardBalances = j.cardBalances := by
  unfold insert
  split <;> rfl

lemma cardBalances_insertLanReceived {now : Time} {job : DeviceJob} {r : LanInserted}
    (h : j.insertLanReceived now job = some (r, j')) : j'.cardBalances = j.cardBalances := by
  unfold insertLanReceived at h
  rw [Option.bind_eq_some_iff] at h
  obtain ⟨kasaId, -, h⟩ := h
  split at h
  · cases h
    rfl
  · rw [Option.map_eq_some_iff] at h
    obtain ⟨known, -, heq⟩ := h
    cases heq
    rfl

/-- A journaled day closing gets a key of its own. -/
lemma balance_contact {now : Time} {ip date : String} {source : BalanceSource}
    {jobId : Option ℤ} {id : ℤ}
    (h : j.cardBalanceContact now ip date source jobId = (some id, j')) :
    j.balance id = none ∧ (∀ k b, j.balance k = some b → source = .safety →
      b.safetyKey ≠ some (ip, date)) ∧ ∃ b, j'.balance id = some b ∧ b.terminalIp = ip ∧
        b.localDate = date ∧ b.source = source ∧ b.jobId = jobId ∧ b.outcome = none ∧
        ∀ k, k ≠ id → j'.balance k = j.balance k := by
  unfold cardBalanceContact at h
  split at h
  · rename_i id' t ht
    cases h
    obtain ⟨-, -, hnone, hget⟩ := AutoTable.insert_some ht
    refine ⟨hnone, ?_, _, (hget id).trans (if_pos rfl), rfl, rfl, rfl, rfl, rfl,
      fun k hk => (hget k).trans (if_neg hk)⟩
    rintro k b hb rfl hkey
    -- the unique index has no such row
    have hfree := mt AutoTable.insert_none_iff.mpr (by rw [ht]; rintro ⟨⟩)
    exact hfree (AutoTable.indexed_iff.mpr ⟨k, b, hb, hkey⟩)
  · cases h

lemma cardBalanceContact_none {now : Time} {ip date : String} {source : BalanceSource}
    {jobId : Option ℤ} (h : (j.cardBalanceContact now ip date source jobId).1 = none) :
    (j.cardBalanceContact now ip date source jobId).2 = j := by
  unfold cardBalanceContact at h ⊢
  split
  · rename_i id t ht
    rw [ht] at h
    cases h
  · rfl

lemma balance_outcome (j : Journal) (id : ℤ) (outcome : String) (result : Json) {k : ℤ}
    (hk : k ≠ id) : (j.cardBalanceOutcome id outcome result).2.balance k = j.balance k := by
  have hget := AutoTable.get?_update j.cardBalances id k (fun _ => true)
    (fun b => { b with
      outcome := some outcome, result := some (result.reread j.readFloat) }) fun _ => rfl
  simp only [hk, false_and, if_false, Option.map_id'] at hget
  exact hget

lemma balance_forget (j : Journal) (id : ℤ) {k : ℤ} (hk : k ≠ id) :
    (j.cardBalanceForget id).2.balance k = j.balance k := by
  change (j.cardBalances.keep _).get? k = _
  rw [AutoTable.get?_keep]
  change Option.filter _ (j.balance k) = _
  cases j.balance k with
  | none => rfl
  | some b => simp [Option.filter, hk]

end Journal

/-- Only the calls of the executor write the balances while the process runs. -/
lemma Shape.balances {E : Executor} {timing : Timing} {w w' : World E} {event : Event E}
    (h : Shape timing w event w') :
    CallSteps w event w'.journal ∨ w'.journal.cardBalances = w.journal.cardBalances ∨
      ∃ n, w' = w.start n := by
  cases h with
  | quiet f hj => exact Or.inr (Or.inl (by rw [hj]))
  | clock t h | dev _ _ _ _ h | crash h | reconcile _ _ _ _ _ _ _ _ h
  | detached _ _ _ _ _ _ h =>
    subst h
    exact Or.inr (Or.inl rfl)
  | inserted job refused f hnew hj =>
    exact Or.inr (Or.inl (by rw [hj, Journal.cardBalances_insert]))
  | lanInserted job jobId f hj =>
    exact Or.inr (Or.inl (Journal.cardBalances_insertLanReceived hj))
  | expired f _ _ _ hj | noWorker f _ _ _ _ hj | guarded f _ _ _ _ _ _ hj | noted f _ _ hj =>
    exact Or.inr (Or.inl (by rw [hj]; exact Journal.cardBalances_updateRow _ _ _ _))
  | execute q entry queuedAt hpc hrow h =>
    subst h
    exact Or.inr (Or.inl (Journal.cardBalances_updateRow _ _ _ _))
  | acked f jobId op hopKind hj => exact Or.inr (Or.inl (by rw [hj]; rfl))
  | authAcked f jobId note hj => exact Or.inr (Or.inl (by rw [hj]; rfl))
  | reported f jobId odooJobId note hj => exact Or.inr (Or.inl (by rw [hj]; rfl))
  | joined q job task startedAt guarded t outcome ok hpc htask hout h =>
    subst h
    cases ok with
    | false => exact Or.inr (Or.inl rfl)
    | true => exact Or.inr (Or.inl (Journal.cardBalances_updateRow _ _ _ _))
  | answered q entry task t answer ok hpc htask hout h =>
    subst h
    cases ok with
    | false => exact Or.inr (Or.inl rfl)
    | true =>
      cases answer with
      | done _ | failed _ _ | stillUnknown _ =>
        exact Or.inr (Or.inl (Journal.cardBalances_updateRow _ _ _ _))
  | task i ev t t' s hev htask hstep h =>
    exact Or.inl ⟨i, ev, t, t', s, hev, htask, hstep, by rw [h]⟩
  | start n hup h => exact Or.inr (Or.inr ⟨n, h⟩)

namespace Tim

/-! ### The row in hand -/

/-- The row that an errand has in hand. -/
def ErrandPc.hand : ErrandPc → Option ℤ
  | balancing row => row
  | forget row _ => some row
  | _ => none

/-- The row that is left to be journaled. -/
def ErrandEnd.hand : ErrandEnd → Option ℤ
  | op row _ => row
  | safety (.sent row _) => some row
  | _ => none

def Session.hand (x : Session) : Option ℤ :=
  match x.pc with
  | .working _ pc => pc.hand
  | pc =>
    match pc.result with
    | some (.ok e) => e.hand
    | _ => none

/-- The row that a call has in hand. -/
def TimTask.hand : TimTask → Option ℤ
  | op _ (.session x) | safety (.session x _ _ _) => x.hand
  | op _ (.recording row _) => row
  | safety (.recording row _ _ _ _) => some row
  | _ => none

/-- The unique key of the row of an errand. -/
def Errand.balanceKey (x : Errand) (ip : String) : Option (String × String) :=
  match x with
  | safety date _ => some (ip, date)
  | _ => none

/-- What the row of an errand says. -/
def Errand.Fits (x : Errand) (ip : String) (b : CardBalance) : Prop :=
  b.outcome = none ∧ b.safetyKey = x.balanceKey ip

/-- What the row of a call says: it has no outcome yet. -/
def TimTask.Fits : TimTask → CardBalance → Prop
  | op _ (.session x), b | safety (.session x _ _ _), b => x.errand.Fits x.spec.ip b
  | op _ _, b => b.outcome = none ∧ b.safetyKey = none
  | _, b => b.outcome = none

lemma TimTask.Fits.outcome {t : TimTask} {b : CardBalance} (h : t.Fits b) : b.outcome = none := by
  unfold TimTask.Fits at h
  split at h
  · exact h.1
  · exact h.1
  · exact h.1
  · exact h

/-- A step of a call does this to the rows. -/
abbrev BalanceStep (j j' : Journal) (fits fits' : CardBalance → Prop) :
    Option ℤ → Option ℤ → Prop :=
  Leases.Step j.balance j'.balance fits fits'

section Quiet

variable {j j' : Journal} {fits fits' : CardBalance → Prop} {k k' : Option ℤ}

/-- The rows stay, and none is in hand after the step. -/
lemma BalanceStep.quiet (hj : j'.cardBalances = j.cardBalances) (hk : k' = none) :
    BalanceStep j j' fits fits' k k' := by
  have hget : ∀ k, j'.balance k = j.balance k := fun k => by
    rw [Journal.balance, hj]
    rfl
  subst hk
  cases k with
  | none => exact .idle hget
  | some k => exact .done k fun k' _ => hget k'

/-- The rows stay, and so does the one in hand. -/
lemma BalanceStep.same (hj : j'.cardBalances = j.cardBalances) (hk : k' = k)
    (hfits : ∀ b, fits b → fits' b) : BalanceStep j j' fits fits' k k' := by
  have hget : ∀ k, j'.balance k = j.balance k := fun k => by
    rw [Journal.balance, hj]
    rfl
  subst hk
  cases k' with
  | none => exact .idle hget
  | some k => exact .kept k hget hfits

end Quiet

section Steps

variable {cfg : TimConfig} {now : Time} {i : ℕ} {ev : TimEvent} {s s' : TimState}

lemma BalanceStep.contact {j j' : Journal} {now : Time} {ip date : String}
    {source : BalanceSource} {jobId : Option ℤ} {id : ℤ} {fits fits' : CardBalance → Prop}
    (h : j.cardBalanceContact now ip date source jobId = (some id, j'))
    (hfits : ∀ b : CardBalance, b.outcome = none → b.terminalIp = ip → b.localDate = date →
      b.source = source → fits' b) : BalanceStep j j' fits fits' none (some id) := by
  obtain ⟨hfresh, -, b, hb, hip, hdate, hsource, -, hnone, hget⟩ := Journal.balance_contact h
  exact .taken id b hfresh hb (hfits b hnone hip hdate hsource) hget

/-- What a step of an errand does to the rows. -/
lemma errandStep_balances {x : Errand} {ip : String} {tid : Option String} {pc : ErrandPc}
    {r : ErrandStep} (h : x.step cfg now ip tid s pc ev = some r) :
    BalanceStep s.journal r.state.journal (x.Fits ip) (x.Fits ip) pc.hand
      (Sum.elim ErrandPc.hand ErrandEnd.hand r.next) := by
  cases x with
  | readLast =>
    simp only [Errand.step] at h
    split at h <;> cases h <;> exact .quiet rfl rfl
  | reversal run =>
    cases ReversalMove.of_step h with
    | sent base j hcontact =>
      exact .quiet (Journal.cardContactOf_true hcontact).2.2.2.2 rfl
    | asked | read | alone | known | answered | failed | refused =>
      exact .quiet rfl rfl
    | closed e _ proven =>
      refine .quiet rfl ?_
      rfl
  | op o jobId date =>
    cases OpMove.of_step h with
    | contacted j hop hj | called j hop hj =>
      refine .quiet ?_ rfl
      have hbal := Journal.cardBalances_updateRow s.journal now jobId .markDeviceContact
      rw [show s.journal.updateRow now jobId .markDeviceContact = (true, j) from hj] at hbal
      exact hbal
    | rowed =>
      generalize hrow : s.journal.cardBalanceContact now ip date .job (some jobId) = found
      obtain ⟨row, j⟩ := found
      cases row with
      | none =>
        refine .quiet ?_ rfl
        have hj := Journal.cardBalanceContact_none (congrArg Prod.fst hrow)
        rw [hrow] at hj
        exact congrArg Journal.cardBalances hj
      | some row =>
        refine .contact hrow fun b hb _ _ hsource => ⟨hb, ?_⟩
        rw [CardBalance.safetyKey, hsource]
        rfl
    | finished _ _ row outcome hrow =>
      rcases hrow with rfl | rfl
      · exact .quiet rfl rfl
      · exact .same rfl rfl fun _ h => h
  | rerun o =>
    simp only [Errand.step] at h
    split at h
    · cases h
      exact .quiet rfl rfl
    · rw [Option.bind_eq_some_iff] at h
      obtain ⟨_, -, h⟩ := h
      cases h
      exact .quiet rfl rfl
    · cases h
  | copy jobId transSeq =>
    simp only [Errand.step, copyStep] at h
    split at h
    · cases h
      exact .quiet (Journal.cardBalances_updateRow _ _ _ _) rfl
    · cases h
      exact .quiet rfl rfl
    · cases h
      exact .quiet rfl rfl
    · split at h <;> cases h <;> exact .quiet rfl rfl
    · cases h
      exact .quiet rfl rfl
    · cases h
      exact .quiet rfl rfl
    · cases h
  | safety date midnight =>
    cases SafetyMove.of_step h with
    | due => exact .quiet rfl rfl
    | sent row j hj =>
      refine .contact hj fun b hb hip hdate hsource => ⟨hb, ?_⟩
      rw [CardBalance.safetyKey, if_pos hsource, hip, hdate]
      rfl
    | answered row a r₁ =>
      refine .same rfl ?_ fun _ h => h
      unfold safetyAnswer
      split
      · rfl
      · split <;> rfl
    | forgotten row outcome => exact .done row fun k hk => Journal.balance_forget _ _ hk
    | finished _ _ e hnot =>
      refine .quiet rfl ?_
      cases e with
      | sent row outcome => exact absurd rfl (hnot row outcome)
      | notSent _ | alreadyRan => rfl

/-- What a step of a session does to the rows. -/
lemma sessionStep_balances {x x' : Session} {jobId : Option ℤ}
    (h : x.step cfg now i jobId ev s = some (x', s')) :
    BalanceStep s.journal s'.journal (x.errand.Fits x.spec.ip) (x'.errand.Fits x'.spec.ip)
      x.hand x'.hand := by
  have hkeeps := (SessionMove.of_step h).keeps
  rw [hkeeps.1, hkeeps.2.1]
  cases SessionMove.of_step h with
  | around pc _ hj hasks hbegin hresult =>
    have hbal := congrArg Journal.cardBalances hj
    obtain ⟨spec, errand, pc₀⟩ := x
    -- a result stays what it was
    have hresult' : ∀ e, pc.result = some (.ok e) → Session.hand ⟨spec, errand, pc₀⟩ = e.hand := by
      intro e he
      have h₀ := hresult e he
      cases pc₀ with
      | loggingOut _ | disconnecting _ | ended _ =>
        cases h₀
        rfl
      | working _ _ | waiting | creating | connecting | loggingIn | readingId => cases h₀
    cases pc with
    | working tid p =>
      obtain rfl := hbegin tid p rfl
      exact .quiet hbal rfl
    | waiting | creating | connecting | loggingIn | readingId => exact .quiet hbal rfl
    | loggingOut r | disconnecting r | ended r =>
      cases r with
      | error _ => exact .quiet hbal rfl
      | ok e => exact .same hbal (hresult' e rfl).symm fun _ h => h
  | worked tid pc r hpc hr =>
    have hstep := errandStep_balances hr
    rw [(x.listen_frame jobId ev s).1] at hstep
    have hhand : x.hand = pc.hand := by rw [Session.hand, hpc]
    have hhand' : (x.worked jobId tid r).1.hand = Sum.elim ErrandPc.hand ErrandEnd.hand r.next := by
      unfold Session.worked
      split
      · rename_i hnext _
        rw [hnext]
        rfl
      · rename_i hnext _
        rw [hnext]
        rfl
      · rename_i hnext
        rw [hnext]
        rfl
    have hjournal : (x.worked jobId tid r).2.journal = r.state.journal := by
      unfold Session.worked
      split <;> rfl
    rw [hhand, hhand', hjournal]
    exact hstep

/-- The outcome of a row in hand is journaled. -/
lemma BalanceStep.journaled (j : Journal) (row : Option ℤ) (outcome : Outcome)
    (fits fits' : CardBalance → Prop) :
    BalanceStep j (journalBalance j row outcome) fits fits' row none := by
  cases row with
  | none => exact .quiet rfl rfl
  | some id =>
    unfold journalBalance
    cases outcome with
    | done _ | failed _ _ => exact .done id fun k hk => Journal.balance_outcome _ _ _ _ hk
    | indeterminate _ => exact .quiet rfl rfl

lemma hand_oneSession (job job' : DeviceJob) (spec : TerminalSpec) (errand : Errand) :
    (TimTask.op job (oneSession cfg job' spec errand)).hand = none := by
  unfold oneSession
  split <;> rfl

lemma hand_beginOp (job : DeviceJob) (stored : String → Option ℤ) :
    (TimTask.op job (beginOp cfg now job stored)).hand = none := by
  unfold beginOp
  split
  · split
    · exact hand_oneSession _ _ _ _
    · rfl
  · split
    · split <;> rfl
    · split
      · split
        · exact hand_oneSession _ _ _ _
        · rfl
      · rfl

lemma hand_copyCard (job : DeviceJob) (spec : TerminalSpec) (target : ℤ) (entry : JournalEntry)
    (card : Option CardPayment) :
    (TimTask.op job (copyCard cfg job spec target entry card)).hand = none := by
  unfold copyCard
  split
  · split
    · rfl
    · split
      · rfl
      · exact hand_oneSession _ _ _ _
  · rfl

/-- After its session a balance job has its row in hand still. -/
lemma hand_afterSession (job : DeviceJob) (x : Session) {r : Except SessionFail ErrandEnd}
    (hr : x.pc = .ended r) :
    (TimTask.op job (afterSession job x.errand r)).hand = none ∨
      ∃ row outcome, afterSession job x.errand r = .recording row outcome ∧ x.hand = row := by
  unfold afterSession
  split
  case h_5 row outcome => exact Or.inr ⟨row, outcome, rfl, by rw [Session.hand, hr]; rfl⟩
  case h_7 => split <;> exact Or.inl rfl
  all_goals exact Or.inl rfl

/-- No job runs a safety balance. -/
lemma balanceKey_of {x : Errand} {job : DeviceJob} {spec : TerminalSpec}
    (h : x.Of cfg job spec) (ip : String) : x.balanceKey ip = none := by
  cases x with
  | safety date midnight => exact h.elim
  | readLast | reversal _ | op _ _ _ | rerun _ | copy _ _ => rfl

lemma opTaskStep_balances {job : DeviceJob} {pc pc' : OpPc} (hok : OpOk cfg job pc)
    (h : opTaskStep cfg now i job s pc ev = some (pc', s')) :
    BalanceStep s.journal s'.journal (TimTask.op job pc).Fits (TimTask.op job pc').Fits
      (TimTask.op job pc).hand (TimTask.op job pc').hand := by
  cases OpTaskMove.of_step h with
  | begin _ stored => exact .quiet rfl (hand_beginOp job stored)
  | found => exact .quiet rfl rfl
  | copied => exact .quiet rfl (hand_copyCard _ _ _ _ _)
  | session x x' _ _ hx => exact sessionStep_balances hx
  | finished x r hr =>
    rcases hand_afterSession job x hr with hnone | ⟨row, outcome, hafter, hrow⟩
    · exact .quiet rfl hnone
    · rw [hafter]
      cases hok with
      | session _ hof =>
        exact .same rfl hrow.symm fun b hb => ⟨hb.1, hb.2.trans (balanceKey_of hof _)⟩
  | transacted facts tid _ j result hj =>
    refine .quiet ?_ rfl
    rcases hj with rfl | ⟨seq, rfl⟩ <;> rfl
  | noted why _ j hj =>
    refine .quiet ?_ rfl
    rcases hj with rfl | rfl <;> rfl
  | recorded row outcome _ j hj =>
    rcases hj with rfl | rfl
    · exact .quiet rfl rfl
    · exact .journaled _ _ _ _ _
  | printed | refused => exact .quiet rfl rfl

/-- An errand that only looks writes nothing. -/
lemma errandStep_looks {x : Errand} {ip : String} {tid : Option String} {pc : ErrandPc}
    {r : ErrandStep} (hx : x = .readLast ∨ ∃ o, x = .rerun o)
    (h : x.step cfg now ip tid s pc ev = some r) : r.state = s := by
  rcases hx with rfl | ⟨o, rfl⟩
  · simp only [Errand.step] at h
    split at h <;> cases h <;> rfl
  · simp only [Errand.step] at h
    split at h
    · cases h
      rfl
    · rw [Option.bind_eq_some_iff] at h
      obtain ⟨_, -, h⟩ := h
      cases h
      rfl
    · cases h

lemma reconcileStep_balances {entry : JournalEntry} {pc pc' : ReconcilePc} (hlooks : pc.Looks)
    (h : reconcileStep cfg now i entry s pc ev = some (pc', s')) :
    s'.journal.cardBalances = s.journal.cardBalances := by
  have hsession : ∀ {x x' : Session} {s₁ : TimState},
      (x.errand = .readLast ∨ ∃ o, x.errand = .rerun o) →
      x.step cfg now i (some entry.job.id) ev s = some (x', s₁) →
      s₁.journal.cardBalances = s.journal.cardBalances := by
    intro x x' s₁ hx hstep
    cases SessionMove.of_step hstep with
    | around pc _ hj => rw [hj]
    | worked tid pc r hpc hr =>
      have hlisten := (x.listen_frame (some entry.job.id) ev s).1
      rw [← hlisten, ← errandStep_looks hx hr]
      unfold Session.worked
      split <;> rfl
  cases ReconcileMove.of_step h with
  | reading _ _ _ _ _ hx => exact hsession (Or.inl hlooks) hx
  | running _ _ _ _ hx => exact hsession (Or.inr hlooks) hx
  | charged _ _ _ _ _ j hj => rcases hj with rfl | ⟨seq, rfl⟩ <;> rfl
  | person _ _ _ j hj => rcases hj with rfl | rfl <;> rfl
  | begin | told | found | asked | read | judged | settled | shift | reran => rfl

/-- After its session the safety balance has its row in hand still. -/
lemma hand_afterSafety (x : Session) {r : Except SessionFail ErrandEnd} (hr : x.pc = .ended r)
    (rest : List TerminalSpec) (date : String) (midnight : ℕ) :
    (TimTask.safety (afterSafety rest date midnight r)).hand = none ∨
      ∃ row outcome, afterSafety rest date midnight r =
        .recording row outcome rest date midnight ∧ x.hand = some row := by
  unfold afterSafety
  split
  · rename_i row outcome
    exact Or.inr ⟨row, outcome, rfl, by rw [Session.hand, hr]; rfl⟩
  · exact Or.inl rfl

lemma safetyLoopStep_balances {pc pc' : SafetyPc}
    (h : safetyLoopStep cfg now i s pc ev = some (pc', s')) :
    BalanceStep s.journal s'.journal (TimTask.safety pc).Fits (TimTask.safety pc').Fits
      (TimTask.safety pc).hand (TimTask.safety pc').hand := by
  cases SafetyLoopMove.of_step h with
  | slept | woke | skipped | began => exact .quiet rfl rfl
  | session _ _ _ _ _ _ _ hx => exact sessionStep_balances hx
  | finished x r rest date midnight hr =>
    rcases hand_afterSafety x hr rest date midnight with hnone | ⟨row, outcome, hafter, hrow⟩
    · exact .quiet rfl hnone
    · rw [hafter]
      exact .same rfl hrow.symm fun b hb => hb.1
  | recorded row outcome _ _ _ _ j hj =>
    rcases hj with rfl | rfl
    · exact .quiet rfl rfl
    · exact .journaled _ _ _ _ _

lemma InputMove.balances {job : DeviceJob} {spec : TerminalSpec} {req : PurchaseRequest}
    {pc : PurchasePc} {input : PurchaseInput} {settles : Option DeviceJob}
    (h : InputMove cfg now i job spec req s pc ev input s' settles) :
    s'.journal.cardBalances = s.journal.cardBalances := by
  cases h with
  | contacted tid base j hj => exact (Journal.cardContactOf_true hj).2.2.2.2
  | stored held j hj =>
    have hcards := congrArg (fun r => r.2.cardBalances) hj
    exact hcards.symm
  | received | answered | quiet => rfl

lemma TwoPhaseMove.balances {job : DeviceJob} {kind : TwoPhase} {pc pc' : TwoPhasePc}
    (h : TwoPhaseMove cfg now i job kind s pc ev pc' s') :
    s'.journal.cardBalances = s.journal.cardBalances := by
  cases h with
  | begin | refused | locked => rfl
  | unavailable => rw [(closeChannel_frame _ _).1]; rfl
  | ran spec req pc pc' _ input s₁ settles acts hinput _ =>
    rw [(applyActs_frame acts s₁).1]
    exact hinput.balances
  | finished spec req pc _ input s₁ settles acts e hinput _ =>
    change ((acts.foldl _ s₁).closeChannel i).journal.cardBalances = _
    rw [(closeChannel_frame _ _).1, (applyActs_frame acts s₁).1]
    exact hinput.balances
  | noted why _ j hj => rcases hj with rfl | rfl <;> rfl

/-- What a step of a card call does to the rows of the balances. -/
lemma TimMove.balances {t t' : TimTask} (hok : t.Ok cfg) (h : TimMove cfg now i s t ev t' s') :
    BalanceStep s.journal s'.journal t.Fits t'.Fits t.hand t'.hand := by
  cases h with
  | elapsed => exact .same rfl rfl fun _ h => h
  | twoPhase job kind pc pc' _ _ hmove => exact .quiet hmove.balances rfl
  | settle job op pc pc' _ _ hmove =>
    exact .quiet (congrArg Journal.cardBalances hmove.journal.1) rfl
  | op job pc pc' _ _ hstep => exact opTaskStep_balances hok hstep
  | reconcile entry pc pc' _ _ hstep => exact .quiet (reconcileStep_balances hok.1 hstep) rfl
  | safety pc pc' _ _ hstep => exact safetyLoopStep_balances hstep

end Steps

/-! ### The rows in a run -/

variable {p : PortosConfig} {cfg : TimConfig} {timing : Timing}
  {w w' : World (bridgeOf p cfg)} {e : Event (bridgeOf p cfg)}

/-- What a step of the bridge does to the balances, and to the card calls. -/
inductive BalancesMove (w w' : World (bridgeOf p cfg)) : Prop
  | quiet (hj : w'.journal.cardBalances = w.journal.cardBalances) (hdev : w'.dev.2 = w.dev.2)
      (htasks : ∀ i t, w'.proc.tasks i = some (.inr t) →
        w.proc.tasks i = some (.inr t) ∨ Begun w w' t ∨ t = .safety .idle)
  | started (n : ℕ) (h : w' = w.start n)
      (htasks : ∀ i t, w'.proc.tasks i = some (.inr t) → t = .safety .idle)
  | stepped (i : ℕ) (ev : TimEvent) (t t' : TimTask) (htask : w.proc.tasks i = some (.inr t))
      (hmove : TimMove cfg w.clock i (cards w) t ev t' (cards w'))
      (htasks : w'.proc.tasks = Function.update w.proc.tasks i (some (.inr t')))

lemma BalancesMove.of_step (h : w.step timing e = some w') : BalancesMove w w' := by
  have hquiet : w'.journal.cardBalances = w.journal.cardBalances →
      (∀ i ev, e ≠ .task i (.inr ev)) → BalancesMove w w' := by
    intro hj hev
    cases CardMove.of_step h with
    | other hdev hvol htasks =>
      exact .quiet hj hdev fun i t ht => (htasks i t ht).imp_right Or.inl
    | wiped hdev hvol htasks => exact .quiet hj hdev fun i t ht => Or.inr (Or.inr (htasks i t ht))
    | stepped i ev t t' he => exact absurd he (hev i ev)
  by_cases hcard : ∃ i ev, e = .task i (.inr ev)
  · obtain ⟨i, ev, rfl⟩ := hcard
    have hup : w.taskStep i (.inr ev) = some w' := by
      unfold World.step at h
      simp only at h
      split at h
      · exact h
      · cases h
    unfold World.taskStep at hup
    split at hup
    · rename_i t htask
      simp only [Option.map_eq_some_iff] at hup
      obtain ⟨⟨t₁, s₁⟩, hstep, rfl⟩ := hup
      cases t with
      | inl t => cases hstep
      | inr t =>
        simp only [Executor.stepRight, Option.map_eq_some_iff, Prod.mk.injEq] at hstep
        obtain ⟨⟨t₂, s₂⟩, hstep, rfl, rfl⟩ := hstep
        exact .stepped i ev t t₂ htask (TimMove.of_step hstep).1 rfl
    · cases hup
  · push Not at hcard
    rcases (Shape.of_step h).balances with ⟨i, ev, t, t', s, rfl, htask, hstep, hj⟩ | hj | hstart
    · refine hquiet ?_ hcard
      cases ev with
      | inl ev =>
        cases t with
        | inr u => cases hstep
        | inl t =>
          simp only [Executor.stepLeft, Option.map_eq_some_iff, Prod.mk.injEq] at hstep
          obtain ⟨⟨t₁, s₁⟩, hstep, rfl, rfl⟩ := hstep
          rw [hj]
          cases PortosMove.of_step hstep with
          | contacted => exact Journal.cardBalances_updateRow _ _ _ _
          | plan | decided | notFound | notContacted | sent | answered | controlled
          | planReconcile | reconciled | absent | listed => rfl
      | inr ev => exact absurd rfl (hcard i ev)
    · exact hquiet hj hcard
    · obtain ⟨n, rfl⟩ := hstart
      exact .started n rfl fun i t ht => background_inr ht

end Tim

end DevBridge

import DevBridge.Tim.Locks
import DevBridge.Tim.Reversals

/-!
# The settlement of a payment

A session asks for one commit at most, and only as long as nothing is decided.  What it decides
says whether the money was taken: the terminal answered the commit, it answered a rollback, or
it was never asked for a commit.  Every settle request is answered with the decision.
-/

namespace DevBridge

/-- What the state of a payment says of its money. -/
def JobState.Tells (taken : Prop) : JobState → Prop
  | done => taken
  | failed => ¬ taken
  | _ => True

namespace Tim

/-! ### What passed with the terminal -/

/-- The terminal was asked to commit the payment of a job. -/
def CommitSent (log : List TerminalEvent) (jobId : ℤ) : Prop :=
  ∃ ip settles, .sent ip (some jobId) .commit settles ∈ log

/-- The terminal answers truthfully whether the money of a payment was taken: an answered commit
or rollback took effect, and a commit that came too late did not. -/
structure Truthful (taken : Prop) (jobId : ℤ) (log : List TerminalEvent) : Prop where
  committed : ∀ ip, .answered ip (some jobId) .commit .done ∈ log → taken
  rolledBack : ∀ ip, .answered ip (some jobId) .rollback .done ∈ log → ¬ taken
  late : ∀ ip e, .answered ip (some jobId) .commit (.failed e) ∈ log →
    e.code = RC_COMMIT_TIMEOUT → ¬ taken

lemma commitSent_append {new log : List TerminalEvent} {jobId : ℤ}
    (h : ∀ m ∈ new, ∀ ip settles, m ≠ .sent ip (some jobId) .commit settles) :
    CommitSent (new ++ log) jobId ↔ CommitSent log jobId := by
  constructor
  · rintro ⟨ip, settles, hmem⟩
    rcases List.mem_append.mp hmem with hnew | hlog
    · exact absurd rfl (h _ hnew ip settles)
    · exact ⟨ip, settles, hlog⟩
  · rintro ⟨ip, settles, hmem⟩
    exact ⟨ip, settles, List.mem_append_right _ hmem⟩

/-- A step aside from the held payments commits nothing. -/
lemma Aside.commitSent {s s' : TimState} (h : Aside s s') (jobId : ℤ) :
    CommitSent s'.dev.log jobId ↔ CommitSent s.dev.log jobId := by
  obtain ⟨new, hlog, hnew⟩ := h.log
  rw [hlog]
  refine commitSent_append ?_
  rintro m hm ip settles rfl
  have haside := hnew _ hm
  simp [TerminalEvent.isAside, TerminalCall.ofPayment] at haside

/-- A call that talks for another job commits nothing of this one. -/
lemma TimMove.commitSent {cfg : TimConfig} {now : Time} {i : ℕ} {ev : TimEvent}
    {s s' : TimState} {t t' : TimTask} (h : TimMove cfg now i s t ev t' s') {jobId : ℤ}
    (hne : ∀ job kind pc, t = .twoPhase job kind pc → job.id ≠ jobId) :
    CommitSent s'.dev.log jobId ↔ CommitSent s.dev.log jobId := by
  cases h with
  | elapsed => exact Iff.rfl
  | twoPhase job kind pc pc' ev s' hmove =>
    obtain ⟨new, hlog, hnew⟩ := hmove.guarded.talks
    rw [hlog]
    refine commitSent_append ?_
    rintro m hm ip settles rfl
    exact hne job kind pc rfl (Option.some.inj (hnew _ hm).1).symm
  | settle job op pc pc' ev s' hmove => rw [hmove.journal.2]
  | op job pc pc' ev s' hstep => exact (opTaskStep_aside hstep).commitSent jobId
  | reconcile entry pc pc' ev s' hstep => exact (reconcileStep_aside hstep).commitSent jobId
  | safety pc pc' ev s' hstep => exact (safetyLoopStep_aside hstep).commitSent jobId

/-! ### What the outcomes say of the money -/

/-- What the answer to a settle request says of the money. -/
def SettleReply.Tells (taken : Prop) : SettleReply → Prop
  | committed => taken
  | rolledBack _ => ¬ taken
  | unknown _ => True

/-- What a settle request that was carried out says of it. -/
def SettleOp.Tells (taken : Prop) : SettleOp → Prop
  | commit => taken
  | rollback => ¬ taken

lemma purchaseState_tells {entry : JournalEntry} {taken : Prop} (h : entry.state.Tells taken) :
    (purchaseState entry).Tells taken := by
  unfold purchaseState
  cases hs : entry.state with
  | done | failed =>
    rw [hs] at h
    exact h
  | received | executing | indeterminate => trivial

/-- A settle job is `done` only when the answer says what it asked for. -/
lemma settleOutcome_tells {op : SettleOp} {target : ℤ} {reply : SettleReply} {taken : Prop}
    {result : Json} (h : settleOutcome op target reply = .done result)
    (hreply : reply.Tells taken) : op.Tells taken := by
  cases op <;> cases reply <;> first | exact hreply | cases h

namespace PurchasePc

/-- The terminal is asked to commit. -/
def isCommitting : PurchasePc → Bool
  | committing _ _ => true
  | _ => false

/-- What a state of a session says of the money; `sent`: the terminal was asked to commit. -/
def Tells (taken sent : Prop) (pc : PurchasePc) : Prop :=
  (∀ e, pc.decision = some e → e.settleReply.Tells taken) ∧
    (pc.decision = none → pc.isCommitting = false → ¬ sent)

end PurchasePc

namespace TwoPhasePc

/-- The terminal will not be asked to commit (any more). -/
def Over : TwoPhasePc → Prop
  | start | waiting _ _ => False
  | running _ _ pc => pc.decision.isSome
  | ended _ | returned _ => True

/-- What a state of the call says of the money. -/
def Tells (taken sent : Prop) : TwoPhasePc → Prop
  | start | waiting _ _ => ¬ sent
  | running _ _ pc => pc.Tells taken sent
  | ended _ => True
  | returned outcome => outcome.state.Tells taken

/-- The sale was sent and nothing is decided yet. -/
def Contacted : TwoPhasePc → Prop
  | running _ _ pc => pc.decision = none ∧ pc.unsent = false
  | _ => False

/-- The settle call whose request is carried out. -/
def waiter : TwoPhasePc → Option ℕ
  | running _ _ pc => pc.waiter
  | _ => none

end TwoPhasePc

/-! ### The steps of a session -/

/-- What an outcome rests on when it is decided. -/
def PurchaseEnd.RestsOn (call : Option TerminalCall) (input : PurchaseInput)
    (committing : Bool) : PurchaseEnd → Prop
  | committed _ _ => call = some .commit ∧ input = .answer .done
  | rolledBack _ => (call = some .rollback ∧ input = .answer .done) ∨
      call = some .commit ∧ ∃ e, input = .answer (.failed e) ∧ e.code = RC_COMMIT_TIMEOUT
  | refused _ _ => committing = false
  | unknown _ => True

/-- What a step of a session does to the settlement. -/
inductive SettlementMove (req : PurchaseRequest) :
    PurchasePc → PurchaseInput → PurchasePc → List PurchaseAct → Prop
  /-- Nothing is decided, and no commit is called. -/
  | goesOn (pc input pc' acts) (hopen : pc.decision = none) (hopen' : pc'.decision = none)
      (hidle : pc.isCommitting = false) (hidle' : pc'.isCommitting = false)
      (hcommit : .call .commit ∉ acts) (hreply : ∀ j r, .reply j r ∉ acts)
      (hwaiter : pc'.waiter = none ∨
        ∃ request, input = .received request ∧ pc'.waiter = some request.waiter)
      (hsent : pc'.unsent = pc.unsent ∨ input = .contacted (.ok ())) :
    SettlementMove req pc input pc' acts
  | commits (held wake request) :
    SettlementMove req (.waiting held wake) (.received request) (.committing held request.waiter)
      [.call .commit]
  /-- The outcome is decided, and whoever asked for it is answered. -/
  | decides (pc input pc' acts e) (hopen : pc.decision = none) (hdecided : pc'.decision = some e)
      (hgoing : ∀ e, pc' ≠ .ended e) (hcommit : .call .commit ∉ acts)
      (hreply : ∀ j r, .reply j r ∈ acts → pc.waiter = some j ∧ r = e.settleReply)
      (hrests : e.RestsOn (req.callOf pc) input pc.isCommitting) :
    SettlementMove req pc input pc' acts
  /-- The outcome stays, and whoever comes is answered with it. -/
  | stays (pc input pc' acts e) (hdecided : pc.decision = some e)
      (hdecided' : pc'.decision = some e) (hcommit : .call .commit ∉ acts)
      (hreply : ∀ j r, .reply j r ∈ acts → r = e.settleReply ∧
        ∃ request, input = .received request ∧ j = request.waiter) :
    SettlementMove req pc input pc' acts

section Session

variable {spec : TerminalSpec} {req : PurchaseRequest} {instant : ℕ} {pc pc' pc₁ : PurchasePc}
  {input : PurchaseInput} {acts acts₁ : List PurchaseAct}

lemma SettlementMove.of_settled {e : PurchaseEnd}
    (h : some (req.settled instant e pc.waiter) = some (pc', acts)) (hopen : pc.decision = none)
    (hrests : e.RestsOn (req.callOf pc) input pc.isCommitting) :
    SettlementMove req pc input pc' acts := by
  have hnext := Option.some.inj h
  obtain rfl : (req.settled instant e pc.waiter).1 = pc' := congrArg Prod.fst hnext
  obtain rfl : (req.settled instant e pc.waiter).2 = acts := congrArg Prod.snd hnext
  refine .decides _ _ _ _ e hopen ?_ ?_ ?_ ?_ hrests
  · cases pc.waiter <;> cases e <;> rfl
  · cases pc.waiter <;> cases e <;> rintro _ ⟨⟩
  · cases pc.waiter <;> cases e <;> simp [PurchaseRequest.settled, PurchaseRequest.finish]
  · intro j r hr
    cases hwaiter : pc.waiter <;> rw [hwaiter] at hr <;> cases e <;>
      simp [PurchaseRequest.settled, PurchaseRequest.finish] at hr <;> simp [hr]

lemma SettlementMove.of_goesOn (h : some (pc₁, acts₁) = some (pc', acts))
    (hopen : pc.decision = none ∧ pc₁.decision = none)
    (hidle : pc.isCommitting = false ∧ pc₁.isCommitting = false)
    (hquiet : .call .commit ∉ acts₁ ∧ ∀ j r, .reply j r ∉ acts₁)
    (hwaiter : pc₁.waiter = none ∨
      ∃ request, input = .received request ∧ pc₁.waiter = some request.waiter)
    (hsent : pc₁.unsent = pc.unsent ∨ input = .contacted (.ok ())) :
    SettlementMove req pc input pc' acts := by
  cases h
  exact .goesOn _ _ _ _ hopen.1 hopen.2 hidle.1 hidle.2 hquiet.1 hquiet.2 hwaiter hsent

lemma SettlementMove.of_stays {e : PurchaseEnd} (h : some (pc₁, acts₁) = some (pc', acts))
    (hdecided : pc.decision = some e ∧ pc₁.decision = some e)
    (hcommit : .call .commit ∉ acts₁)
    (hreply : ∀ j r, .reply j r ∈ acts₁ → r = e.settleReply ∧
      ∃ request, input = .received request ∧ j = request.waiter) :
    SettlementMove req pc input pc' acts := by
  cases h
  exact .stays _ _ _ _ e hdecided.1 hdecided.2 hcommit hreply

lemma failedTransaction_rests (err : TimError) (call : Option TerminalCall) :
    (failedTransaction err).RestsOn call input false := by
  unfold failedTransaction
  split
  · rfl
  · trivial

lemma commitEnd_rests (held : Held) (err : TimError) (committing : Bool) :
    (commitEnd held (some err)).RestsOn (some .commit) (.answer (.failed err)) committing := by
  simp only [commitEnd]
  split
  · rename_i hcode
    exact Or.inr ⟨rfl, err, rfl, hcode⟩
  · trivial

/-- Every step of a session is one of these. -/
lemma SettlementMove.of_step (h : req.step spec instant pc input = some (pc', acts)) :
    SettlementMove req pc input pc' acts := by
  have hfinish : ∀ {e : PurchaseEnd}, pc.waiter = none →
      some (req.finish instant e) = some (pc', acts) → pc.decision = none →
      e.RestsOn (req.callOf pc) input pc.isCommitting → SettlementMove req pc input pc' acts := by
    intro e hnone h hopen hrests
    have hsettled : some (req.settled instant e pc.waiter) = some (pc', acts) := by
      rw [hnone]
      exact h
    exact .of_settled hsettled hopen hrests
  -- the session goes on: it asks for no commit and answers nobody
  have hgo : ∀ {pc₁ : PurchasePc} {acts₁ : List PurchaseAct},
      some (pc₁, acts₁) = some (pc', acts) → pc.decision = none ∧ pc₁.decision = none →
      pc.isCommitting = false ∧ pc₁.isCommitting = false →
      .call .commit ∉ acts₁ ∧ (∀ j r, .reply j r ∉ acts₁) → pc₁.waiter = none →
      pc₁.unsent = pc.unsent → SettlementMove req pc input pc' acts :=
    fun h hopen hidle hquiet hwaiter hsent =>
      .of_goesOn h hopen hidle hquiet (Or.inl hwaiter) (Or.inl hsent)
  -- the session could not be opened: the outcome is decided
  have hrefused : ∀ {pc₁ : PurchasePc} {acts₁ : List PurchaseAct} {code text : String},
      some (pc₁, acts₁) = some (pc', acts) → pc.decision = none →
      pc₁.decision = some (.refused code text) → (∀ e, pc₁ ≠ .ended e) → .call .commit ∉ acts₁ →
      (∀ j r, .reply j r ∉ acts₁) → pc.isCommitting = false →
      SettlementMove req pc input pc' acts := by
    intro pc₁ acts₁ code text h hopen hdecided hgoing hcommit hreply hidle
    cases h
    exact .decides _ _ _ _ _ hopen hdecided hgoing hcommit
      (fun j r hr => absurd hr (hreply j r)) hidle
  unfold PurchaseRequest.step PurchaseRequest.rollBack at h
  simp only at h
  split at h
  -- up to the login
  · exact hgo h ⟨rfl, rfl⟩ ⟨rfl, rfl⟩ (by simp) rfl rfl
  · exact hrefused h rfl rfl (by rintro _ ⟨⟩) (by simp) (by simp) rfl
  · exact hgo h ⟨rfl, rfl⟩ ⟨rfl, rfl⟩ (by simp) rfl rfl
  · exact hrefused h rfl rfl (by rintro _ ⟨⟩) (by simp) (by simp) rfl
  · exact hgo h ⟨rfl, rfl⟩ ⟨rfl, rfl⟩ (by simp) rfl rfl
  · exact hrefused h rfl rfl (by rintro _ ⟨⟩) (by simp) (by simp) rfl
  · exact hgo h ⟨rfl, rfl⟩ ⟨rfl, rfl⟩ (by simp) rfl rfl
  -- up to the contact
  · exact hfinish rfl h rfl rfl
  · split at h
    · split at h
      · exact hgo h ⟨rfl, rfl⟩ ⟨rfl, rfl⟩ (by simp) rfl rfl
      · exact hfinish rfl h rfl rfl
    · exact hgo h ⟨rfl, rfl⟩ ⟨rfl, rfl⟩ (by simp) rfl rfl
  · exact hgo h ⟨rfl, rfl⟩ ⟨rfl, rfl⟩ (by simp) rfl rfl
  · exact hgo h ⟨rfl, rfl⟩ ⟨rfl, rfl⟩ (by simp) rfl rfl
  · exact .of_goesOn h ⟨rfl, rfl⟩ ⟨rfl, rfl⟩ (by simp) (Or.inl rfl) (Or.inr rfl)
  · exact hfinish rfl h rfl trivial
  · exact hfinish rfl h rfl rfl
  -- the transaction and the wait
  · exact hfinish rfl h rfl (failedTransaction_rests _ _)
  · split at h
    · exact hgo h ⟨rfl, rfl⟩ ⟨rfl, rfl⟩ (by simp) rfl rfl
    · exact hgo h ⟨rfl, rfl⟩ ⟨rfl, rfl⟩ (by simp) rfl rfl
  · exact hgo h ⟨rfl, rfl⟩ ⟨rfl, rfl⟩ (by simp) rfl rfl
  · exact hgo h ⟨rfl, rfl⟩ ⟨rfl, rfl⟩ (by simp) rfl rfl
  · split at h
    · exact hgo h ⟨rfl, rfl⟩ ⟨rfl, rfl⟩ (by simp) rfl rfl
    · exact hgo h ⟨rfl, rfl⟩ ⟨rfl, rfl⟩ (by simp) rfl rfl
  · split at h
    · cases h
      exact .commits _ _ _
    · exact .of_goesOn h ⟨rfl, rfl⟩ ⟨rfl, rfl⟩ (by simp) (Or.inr ⟨_, rfl, rfl⟩) (Or.inl rfl)
  · exact hgo h ⟨rfl, rfl⟩ ⟨rfl, rfl⟩ (by simp) rfl rfl
  · split at h
    · cases h
    · split at h
      · exact hgo h ⟨rfl, rfl⟩ ⟨rfl, rfl⟩ (by simp) rfl rfl
      · exact hgo h ⟨rfl, rfl⟩ ⟨rfl, rfl⟩ (by simp) rfl rfl
  -- the decision
  · exact .of_settled h rfl ⟨rfl, rfl⟩
  · exact .of_settled h rfl (commitEnd_rests _ _ _)
  · exact .of_settled h rfl (Or.inl ⟨rfl, rfl⟩)
  · exact .of_settled h rfl trivial
  -- the release
  · exact .of_stays h ⟨rfl, rfl⟩ (by simp) (by simp)
  · split at h
    · exact .of_stays h ⟨rfl, rfl⟩ (by simp) (by simp)
    · exact .of_stays h ⟨rfl, rfl⟩ (by simp) (by simp)
  · split at h
    · cases h
    · exact .of_stays h ⟨rfl, rfl⟩ (by simp) (by simp)
  -- the way out
  · exact .of_stays h ⟨rfl, rfl⟩ (by simp) (by simp)
  · exact .of_stays h ⟨rfl, rfl⟩ (by simp) (by simp)
  · exact .of_stays h ⟨rfl, rfl⟩ (by simp) (by simp)
  · exact .of_stays h ⟨rfl, rfl⟩ (by simp) (by simp)
  · exact .of_stays h ⟨rfl, rfl⟩ (by simp) (by simp)
  · refine .of_stays h ⟨rfl, rfl⟩ (by simp) fun j r hr => ?_
    simp only [List.mem_singleton, PurchaseAct.reply.injEq] at hr
    exact ⟨hr.2, _, rfl, hr.1⟩
  · exact .of_stays h ⟨rfl, rfl⟩ (by simp) (by simp)
  · exact .of_stays h ⟨rfl, rfl⟩ (by simp) (by simp)
  · cases h

end Session

/-- A decision tells the truth. -/
lemma PurchaseEnd.RestsOn.tells {taken : Prop} {call : Option TerminalCall} {input : PurchaseInput}
    {committing : Bool} {e : PurchaseEnd} {jobId : ℤ} {log : List TerminalEvent}
    (h : e.RestsOn call input committing) (htruth : Truthful taken jobId log)
    (hheard : ∀ a, input = .answer a → ∃ ip c, call = some c ∧ .answered ip (some jobId) c a ∈ log)
    (hidle : committing = false → ¬ taken) : e.settleReply.Tells taken := by
  cases e with
  | committed facts tid =>
    obtain ⟨hcall, hinput⟩ := h
    obtain ⟨ip, c, hc, hmem⟩ := hheard _ hinput
    rw [hcall] at hc
    cases hc
    exact htruth.committed ip hmem
  | rolledBack why =>
    rcases h with ⟨hcall, hinput⟩ | ⟨hcall, err, hinput, hcode⟩
    · obtain ⟨ip, c, hc, hmem⟩ := hheard _ hinput
      rw [hcall] at hc
      cases hc
      exact htruth.rolledBack ip hmem
    · obtain ⟨ip, c, hc, hmem⟩ := hheard _ hinput
      rw [hcall] at hc
      cases hc
      exact htruth.late ip err hmem hcode
  | refused code text => exact hidle h
  | unknown why => trivial

/-! ### The steps of its call -/

section Call

variable {cfg : TimConfig} {now : Time} {i : ℕ} {job : DeviceJob} {spec : TerminalSpec}
  {req : PurchaseRequest} {s s₁ s' : TimState} {ev : TimEvent} {settles : Option DeviceJob}
  {taken : Prop}

lemma commitSent_heard (ip : String) (id : Option ℤ) (call : TerminalCall) (a : CallAnswer)
    (jobId : ℤ) : CommitSent (s.heard ip id call a).dev.log jobId ↔ CommitSent s.dev.log jobId := by
  have hnew : ∀ m ∈ [TerminalEvent.answered ip id call a], ∀ ip settles,
      m ≠ .sent ip (some jobId) .commit settles := by simp
  exact commitSent_append hnew

/-- What a session gets asks for no commit, and an answer is in the log. -/
lemma InputMove.heard {pc : PurchasePc} {input : PurchaseInput}
    (h : InputMove cfg now i job spec req s pc ev input s' settles) :
    (CommitSent s'.dev.log job.id ↔ CommitSent s.dev.log job.id) ∧
      ∀ a, input = .answer a → ∃ ip c, req.callOf pc = some c ∧
        .answered ip (some job.id) c a ∈ s'.dev.log := by
  cases h with
  | answered pc call a hcall =>
    refine ⟨commitSent_heard _ _ _ _ _, fun a' ha' => ?_⟩
    cases ha'
    exact ⟨spec.ip, call, hcall, List.mem_cons_self⟩
  | contacted | stored | received => exact ⟨Iff.rfl, by rintro _ ⟨⟩⟩
  | quiet _ _ _ hanswer => exact ⟨Iff.rfl, fun a ha => absurd ha (hanswer a)⟩

/-- What a session does asks for a commit only when it calls it. -/
lemma applyActs_commitSent (settles : Option DeviceJob) (ip : String) (jobId : ℤ)
    (acts : List PurchaseAct) (s : TimState) :
    (CommitSent s.dev.log jobId →
      CommitSent (acts.foldl (applyAct ip jobId settles) s).dev.log jobId) ∧
    (CommitSent (acts.foldl (applyAct ip jobId settles) s).dev.log jobId →
      CommitSent s.dev.log jobId ∨ .call .commit ∈ acts) ∧
    ∀ m ∈ s.dev.log, m ∈ (acts.foldl (applyAct ip jobId settles) s).dev.log := by
  have hacts := @applyActs_log ip jobId settles acts s
  obtain ⟨new, hlog, hnew⟩ := hacts
  rw [hlog]
  refine ⟨?_, ?_, fun m hm => List.mem_append_right _ hm⟩
  · rintro ⟨ip', settles', hmem⟩
    exact ⟨ip', settles', List.mem_append_right _ hmem⟩
  · rintro ⟨ip', settles', hmem⟩
    rcases List.mem_append.mp hmem with hmem | hmem
    · obtain ⟨call, hcall, heq⟩ := hnew _ hmem
      cases heq
      exact Or.inr hcall
    · exact Or.inl ⟨ip', settles', hmem⟩

/-- One step of a session keeps what it says of the money. -/
lemma PurchasePc.Tells.ran {pc pc' : PurchasePc} {input : PurchaseInput}
    {acts : List PurchaseAct} (htells : pc.Tells taken (CommitSent s.dev.log job.id))
    (hinput : InputMove cfg now i job spec req s pc ev input s₁ settles)
    (hmove : SettlementMove req pc input pc' acts)
    (hs' : s' = acts.foldl (applyAct spec.ip job.id settles) s₁)
    (htruth : Truthful taken job.id s'.dev.log)
    (hspared : pc'.decision.isSome → ¬ CommitSent s'.dev.log job.id → ¬ taken) :
    pc'.Tells taken (CommitSent s'.dev.log job.id) := by
  obtain ⟨hsent, hheard⟩ := hinput.heard
  obtain ⟨-, hacts, hkept⟩ := applyActs_commitSent settles spec.ip job.id acts s₁
  rw [← hs', hsent] at hacts
  rw [← hs'] at hkept
  -- nothing is sent unless it was before
  have hquiet : ∀ {p : Prop}, .call .commit ∉ acts → (p → ¬ CommitSent s.dev.log job.id) → p →
      ¬ CommitSent s'.dev.log job.id := fun hcommit hunsent hp hnow =>
    (hacts hnow).elim (hunsent hp) hcommit
  cases hmove with
  | goesOn _ _ _ _ hopen hopen' hidle hidle' hcommit =>
    refine ⟨fun e he => ?_, fun _ _ => hquiet hcommit (fun _ => htells.2 hopen hidle) trivial⟩
    rw [hopen'] at he
    cases he
  | commits held wake request => exact ⟨by rintro _ ⟨⟩, fun _ hidle => by cases hidle⟩
  | decides _ _ _ _ e hopen hdecided _ hcommit hreply hrests =>
    refine ⟨fun e' he' => ?_, fun hnone => ?_⟩
    · obtain rfl : e = e' := Option.some.inj (hdecided.symm.trans he')
      refine hrests.tells htruth (fun a ha => ?_) fun hidle => ?_
      · obtain ⟨ip, c, hc, hmem⟩ := hheard a ha
        exact ⟨ip, c, hc, hkept _ hmem⟩
      · refine hspared (by rw [hdecided]; rfl) ?_
        exact hquiet hcommit (htells.2 hopen) hidle
    · rw [hdecided] at hnone
      cases hnone
  | stays _ _ _ _ e hdecided hdecided' =>
    refine ⟨fun e' he' => ?_, fun hnone => ?_⟩
    · obtain rfl : e = e' := Option.some.inj (hdecided'.symm.trans he')
      exact htells.1 e hdecided
    · rw [hdecided'] at hnone
      cases hnone

lemma afterPurchase_tells {e : PurchaseEnd} {sent : Prop} (h : e.settleReply.Tells taken) :
    (afterPurchase cfg e).Tells taken sent ∧ (afterPurchase cfg e).Over := by
  cases e with
  | refused | committed | rolledBack => exact ⟨h, trivial⟩
  | unknown => exact ⟨trivial, trivial⟩

/-- One step of the call keeps what it says of the money.  A payment that is over without a commit
was not taken. -/
lemma TwoPhaseMove.tells {kind : TwoPhase} {pc pc' : TwoPhasePc}
    (h : TwoPhaseMove cfg now i job kind s pc ev pc' s')
    (htells : pc.Tells taken (CommitSent s.dev.log job.id))
    (htruth : Truthful taken job.id s'.dev.log)
    (hspared : pc'.Over → ¬ CommitSent s'.dev.log job.id → ¬ taken) :
    pc'.Tells taken (CommitSent s'.dev.log job.id) := by
  cases h with
  | begin => exact htells
  | refused => exact hspared trivial htells
  | unavailable =>
    rw [(closeChannel_frame _ _).2.1] at hspared
    exact hspared trivial htells
  | locked => exact ⟨by rintro _ ⟨⟩, fun _ _ => htells⟩
  | ran spec req pc pc' _ input s₁ settles acts hinput hstep =>
    exact PurchasePc.Tells.ran htells hinput (.of_step hstep) rfl htruth hspared
  | finished spec req pc _ input s₁ settles acts e hinput hstep =>
    have hdev := (closeChannel_frame (acts.foldl (applyAct spec.ip job.id settles) s₁) i).2.1
    change Truthful taken job.id (((acts.foldl _ s₁).closeChannel i).dev.log) at htruth
    change _ → ¬ CommitSent (((acts.foldl _ s₁).closeChannel i).dev.log) _ → _ at hspared
    rw [hdev] at htruth hspared
    have hended := PurchasePc.Tells.ran htells hinput (.of_step hstep) rfl htruth fun _ =>
      hspared (by cases e <;> trivial)
    exact (afterPurchase_tells (hended.1 e rfl)).1
  | noted => trivial

/-- A payment that is over stays so, and nothing is committed any more. -/
lemma TwoPhaseMove.stays_over {kind : TwoPhase} {pc pc' : TwoPhasePc}
    (h : TwoPhaseMove cfg now i job kind s pc ev pc' s') (hover : pc.Over) :
    pc'.Over ∧ (CommitSent s'.dev.log job.id → CommitSent s.dev.log job.id) := by
  have hran : ∀ {spec : TerminalSpec} {req : PurchaseRequest} {pc pc' input s₁ settles acts},
      InputMove cfg now i job spec req s pc ev input s₁ settles →
      req.step spec s.vol.instant pc input = some (pc', acts) → pc.decision.isSome →
      pc'.decision.isSome ∧ (CommitSent (acts.foldl (applyAct spec.ip job.id settles) s₁).dev.log
        job.id → CommitSent s.dev.log job.id) := by
    intro spec req pc pc' input s₁ settles acts hinput hstep hdecided
    have hacts := applyActs_commitSent settles spec.ip job.id acts s₁
    cases SettlementMove.of_step hstep with
    | goesOn _ _ _ _ hopen => simp [hopen] at hdecided
    | commits => simp [PurchasePc.decision] at hdecided
    | decides _ _ _ _ e hopen => simp [hopen] at hdecided
    | stays _ _ _ _ e _ hdecided' hcommit =>
      refine ⟨by rw [hdecided']; rfl, fun hsent => hinput.heard.1.mp ?_⟩
      exact (hacts.2.1 hsent).resolve_right hcommit
  cases h with
  | begin | refused | unavailable | locked => exact hover.elim
  | ran spec req pc pc' _ input s₁ settles acts hinput hstep => exact hran hinput hstep hover
  | finished spec req pc _ input s₁ settles acts e hinput hstep =>
    refine ⟨by cases e <;> trivial, fun hsent => (hran hinput hstep hover).2 ?_⟩
    rwa [← (closeChannel_frame (acts.foldl (applyAct spec.ip job.id settles) s₁) i).2.1]
  | noted => exact ⟨trivial, id⟩

/-- Only a held payment is committed, and its contact was journaled before. -/
lemma TwoPhaseMove.contacted {kind : TwoPhase} {pc pc' : TwoPhasePc}
    (h : TwoPhaseMove cfg now i job kind s pc ev pc' s') :
    (CommitSent s'.dev.log job.id → CommitSent s.dev.log job.id ∨ pc.Contacted) ∧
      (pc'.Contacted → pc.Contacted ∨ ∃ e e', s.journal.get job.id = some e ∧
        e.state = .executing ∧ s'.journal.get job.id = some e' ∧ e'.deviceContactAt.isSome) := by
  have hsent : ∀ {spec : TerminalSpec} {req : PurchaseRequest} {pc pc' input s₁ settles acts},
      InputMove cfg now i job spec req s pc ev input s₁ settles →
      req.step spec s.vol.instant pc input = some (pc', acts) →
      CommitSent (acts.foldl (applyAct spec.ip job.id settles) s₁).dev.log job.id →
      CommitSent s.dev.log job.id ∨ (TwoPhasePc.running spec req pc).Contacted := by
    intro spec req pc pc' input s₁ settles acts hinput hstep hsent
    have hacts := applyActs_commitSent settles spec.ip job.id acts s₁
    rcases hacts.2.1 hsent with hold | hcall
    · exact Or.inl (hinput.heard.1.mp hold)
    · cases SettlementMove.of_step hstep with
      | goesOn _ _ _ _ _ _ _ _ hcommit => exact absurd hcall hcommit
      | commits => exact Or.inr ⟨rfl, rfl⟩
      | decides _ _ _ _ _ _ _ _ hcommit => exact absurd hcall hcommit
      | stays _ _ _ _ _ _ _ hcommit => exact absurd hcall hcommit
  cases h with
  | begin | refused => exact ⟨Or.inl, fun hnow => hnow.elim⟩
  | locked => exact ⟨Or.inl, fun hnow => by cases hnow.2⟩
  | unavailable =>
    refine ⟨fun hnow => Or.inl ?_, fun hnow => hnow.elim⟩
    rwa [(closeChannel_frame _ _).2.1] at hnow
  | noted => exact ⟨Or.inl, fun hnow => hnow.elim⟩
  | ran spec req pc pc' _ input s₁ settles acts hinput hstep =>
    refine ⟨hsent hinput hstep, ?_⟩
    rintro ⟨hopen', hunsent'⟩
    cases SettlementMove.of_step hstep with
    | goesOn _ _ _ _ hopen _ _ _ _ _ _ hcontact =>
      rcases hcontact with hsame | rfl
      · exact Or.inl ⟨hopen, hsame ▸ hunsent'⟩
      · cases hinput with
        | contacted tid base j hj =>
          obtain ⟨e, e', he, hstate, -, he', -, -, hc⟩ := Journal.contact_of_cardContactOf hj
          refine Or.inr ⟨e, e', he, hstate, ?_, hc⟩
          rw [(applyActs_frame acts _).1]
          exact he'
        | quiet _ _ _ _ _ hne => exact absurd rfl hne
    | commits => exact Or.inl ⟨rfl, rfl⟩
    | decides _ _ _ _ e _ hdecided =>
      rw [hdecided] at hopen'
      cases hopen'
    | stays _ _ _ _ e _ hdecided =>
      rw [hdecided] at hopen'
      cases hopen'
  | finished spec req pc _ input s₁ settles acts e hinput hstep =>
    refine ⟨fun hnow => hsent hinput hstep ?_, fun hnow => by cases e <;> exact hnow.elim⟩
    rwa [← (closeChannel_frame (acts.foldl (applyAct spec.ip job.id settles) s₁) i).2.1]

/-! ### What the calls share -/

lemma channels_withChannel (s : TimState) (n : ℕ) (channel : Option (List Queued)) :
    (s.withChannel n channel).vol.channels = Function.update s.vol.channels n channel := rfl

lemma holders_withHolder (s : TimState) (x : ℤ) (holder : Option ℕ) :
    (s.withHolder x holder).vol.holders = Function.update s.vol.holders x holder := rfl

lemma replies_withReply (s : TimState) (j : ℕ) (reply : Option SettleReply) :
    (s.withReply j reply).vol.replies = Function.update s.vol.replies j (some reply) := rfl

/-- Whom the call may answer: the one whose settle request is carried out, or one in its
channel. -/
def Addresses (s : TimState) (i : ℕ) (pc : TwoPhasePc) (j : ℕ) : Prop :=
  pc.waiter = some j ∨
    ∃ queue q, s.vol.channels i = some queue ∧ q ∈ queue ∧ q.request.waiter = j

/-- What one step of the call does to what the calls share. -/
structure TwoPhaseShared (job : DeviceJob) (i : ℕ) (pc pc' : TwoPhasePc) (s s' : TimState) :
    Prop where
  holders : ∀ x n, s'.vol.holders x = some n → s.vol.holders x = some n ∨ x = job.id ∧ n = i
  channels : ∀ n queue', s'.vol.channels n = some queue' → n = i ∧ queue' = [] ∨
    ∃ queue, s.vol.channels n = some queue ∧ ∀ q ∈ queue', q ∈ queue
  waiter : ∀ j, pc'.waiter = some j → Addresses s i pc j

/-- What a session gets changes no holder and no reply, and adds to no channel. -/
lemma InputMove.shared {pc : PurchasePc} {input : PurchaseInput}
    (h : InputMove cfg now i job spec req s pc ev input s' settles) :
    s'.vol.holders = s.vol.holders ∧ s'.vol.replies = s.vol.replies ∧
      (∀ n queue', s'.vol.channels n = some queue' →
        ∃ queue, s.vol.channels n = some queue ∧ ∀ q ∈ queue', q ∈ queue) ∧
      ∀ request, input = .received request →
        ∃ queue q, s.vol.channels i = some queue ∧ q ∈ queue ∧ q.request = request := by
  cases h with
  | received pc q rest hqueue =>
    refine ⟨rfl, rfl, fun n queue' hn => ?_, fun request hrequest => ?_⟩
    · rw [channels_withChannel] at hn
      by_cases hni : n = i
      · rw [hni, Function.update_self] at hn
        cases hn
        exact ⟨_, hni ▸ hqueue, fun q' hq' => List.mem_cons_of_mem _ hq'⟩
      · rw [Function.update_of_ne hni] at hn
        exact ⟨queue', hn, fun q' hq' => hq'⟩
    · cases hrequest
      exact ⟨_, q, hqueue, List.mem_cons_self, rfl⟩
  | contacted | stored | answered =>
    exact ⟨rfl, rfl, fun n queue' hn => ⟨queue', hn, fun q hq => hq⟩, by rintro _ ⟨⟩⟩
  | quiet _ _ _ _ hreceived =>
    exact ⟨rfl, rfl, fun n queue' hn => ⟨queue', hn, fun q hq => hq⟩,
      fun r hr => absurd hr (hreceived r)⟩

lemma applyActs_shared (settles : Option DeviceJob) (ip : String) (jobId : ℤ)
    (acts : List PurchaseAct) (s : TimState) :
    (∀ x n, (acts.foldl (applyAct ip jobId settles) s).vol.holders x = some n →
      s.vol.holders x = some n) ∧
    ∀ j r, (acts.foldl (applyAct ip jobId settles) s).vol.replies j = some (some r) →
      s.vol.replies j = some (some r) ∨ .reply j r ∈ acts := by
  induction acts generalizing s with
  | nil => exact ⟨fun _ _ h => h, fun _ _ h => Or.inl h⟩
  | cons act acts ih =>
    obtain ⟨hholders, hreplies⟩ := ih (applyAct ip jobId settles s act)
    rw [List.foldl_cons]
    refine ⟨fun x n h => ?_, fun j r h => ?_⟩
    · have hn := hholders x n h
      cases act with
      | release =>
        rw [applyAct, holders_withHolder] at hn
        by_cases hx : x = jobId
        · rw [hx, Function.update_self] at hn
          cases hn
        · rwa [Function.update_of_ne hx] at hn
      | call | decide | reply => exact hn
    · rcases hreplies j r h with hr | hr
      · cases act with
        | reply waiter r' =>
          rw [applyAct, replies_withReply] at hr
          by_cases hj : j = waiter
          · rw [hj, Function.update_self] at hr
            cases hr
            rw [hj]
            exact Or.inr List.mem_cons_self
          · rw [Function.update_of_ne hj] at hr
            exact Or.inl hr
        | call | decide | release => exact Or.inl hr
      · exact Or.inr (List.mem_cons_of_mem _ hr)

lemma closeChannel_replies (s : TimState) (i : ℕ) {j : ℕ} {r : SettleReply}
    (h : (s.closeChannel i).vol.replies j = some (some r)) : s.vol.replies j = some (some r) := by
  have hfold : ∀ (queue : List Queued) (s : TimState),
      (queue.foldl (fun s q => s.withReply q.request.waiter none) s).vol.replies j = some (some r) →
      s.vol.replies j = some (some r) := by
    intro queue
    induction queue with
    | nil => exact fun s h => h
    | cons q queue ih =>
      intro s h
      have hr := ih _ h
      rw [replies_withReply] at hr
      by_cases hj : j = q.request.waiter
      · rw [hj, Function.update_self] at hr
        cases hr
      · rwa [Function.update_of_ne hj] at hr
  exact hfold _ (s.withChannel i none) h

lemma waiter_of_decision {pc : PurchasePc} {e : PurchaseEnd} (h : pc.decision = some e) :
    pc.waiter = none := by
  cases pc <;> first | rfl | cases h

/-- Whom a session answers was addressed before. -/
lemma SettlementMove.addressed {pc pc' : PurchasePc} {input : PurchaseInput}
    {acts : List PurchaseAct} (h : SettlementMove req pc input pc' acts)
    (hinput : InputMove cfg now i job spec req s pc ev input s₁ settles) {j : ℕ}
    (hj : pc'.waiter = some j ∨ ∃ r, .reply j r ∈ acts) :
    Addresses s i (.running spec req pc) j := by
  have hreceived : ∀ request, input = .received request → request.waiter = j →
      Addresses s i (.running spec req pc) j := by
    intro request hrequest hwaiter
    obtain ⟨queue, q, hqueue, hq, rfl⟩ := hinput.shared.2.2.2 request hrequest
    exact Or.inr ⟨queue, q, hqueue, hq, hwaiter⟩
  cases h with
  | goesOn _ _ _ _ hopen hopen' hidle hidle' hcommit hreply hwaiter =>
    rcases hj with hj | ⟨r, hr⟩
    · rcases hwaiter with hnone | ⟨request, hrequest, hwaiter⟩
      · rw [hnone] at hj
        cases hj
      · exact hreceived request hrequest (Option.some.inj (hwaiter.symm.trans hj))
    · exact absurd hr (hreply j r)
  | commits held wake request =>
    rcases hj with hj | ⟨r, hr⟩
    · exact hreceived request rfl (Option.some.inj hj)
    · simp at hr
  | decides _ _ _ _ e hopen hdecided _ hcommit hreply =>
    rcases hj with hj | ⟨r, hr⟩
    · rw [waiter_of_decision hdecided] at hj
      cases hj
    · exact Or.inl (hreply j r hr).1
  | stays _ _ _ _ e hdecided hdecided' hcommit hreply =>
    rcases hj with hj | ⟨r, hr⟩
    · rw [waiter_of_decision hdecided'] at hj
      cases hj
    · obtain ⟨-, request, hrequest, rfl⟩ := hreply j r hr
      exact hreceived request hrequest rfl

lemma waiter_afterPurchase (e : PurchaseEnd) : (afterPurchase cfg e).waiter = none := by
  cases e <;> rfl

lemma TwoPhaseMove.shared {kind : TwoPhase} {pc pc' : TwoPhasePc}
    (h : TwoPhaseMove cfg now i job kind s pc ev pc' s') : TwoPhaseShared job i pc pc' s s' := by
  have hbegun : ∀ {n queue'}, (s.vol.channels n = some queue' ∨ n = i ∧ queue' = []) →
      n = i ∧ queue' = [] ∨ ∃ queue, s.vol.channels n = some queue ∧ ∀ q ∈ queue', q ∈ queue :=
    fun h => h.elim (fun hn => Or.inr ⟨_, hn, fun q hq => hq⟩) Or.inl
  have hheld : ∀ {x n}, (Function.update s.vol.holders job.id (some i)) x = some n →
      s.vol.holders x = some n ∨ x = job.id ∧ n = i := by
    intro x n hn
    by_cases hx : x = job.id
    · rw [hx, Function.update_self] at hn
      exact Or.inr ⟨hx, (Option.some.inj hn).symm⟩
    · rw [Function.update_of_ne hx] at hn
      exact Or.inl hn
  have hran : ∀ {spec : TerminalSpec} {req : PurchaseRequest} {pc pc' input s₁ settles acts},
      InputMove cfg now i job spec req s pc ev input s₁ settles →
      req.step spec s.vol.instant pc input = some (pc', acts) →
      TwoPhaseShared job i (.running spec req pc) (.running spec req pc') s
        (acts.foldl (applyAct spec.ip job.id settles) s₁) := by
    intro spec req pc pc' input s₁ settles acts hinput hstep
    obtain ⟨hholders, -, hchannels, -⟩ := hinput.shared
    have hacts := applyActs_shared settles spec.ip job.id acts s₁
    refine ⟨fun x n hn => Or.inl (hholders ▸ hacts.1 x n hn), fun n queue' hn => Or.inr ?_,
      fun j hj => (SettlementMove.of_step hstep).addressed hinput (Or.inl hj)⟩
    rw [(applyActs_frame acts s₁).2.1] at hn
    exact hchannels n queue' hn
  cases h with
  | begin =>
    refine ⟨fun x n => hheld, fun n queue' hn => hbegun ?_, by rintro _ ⟨⟩⟩
    rw [channels_withChannel] at hn
    by_cases hni : n = i
    · rw [hni, Function.update_self] at hn
      exact Or.inr ⟨hni, (Option.some.inj hn).symm⟩
    · rw [Function.update_of_ne hni] at hn
      exact Or.inl hn
  | refused | noted =>
    exact ⟨fun x n hn => Or.inl hn, fun n queue' hn => hbegun (Or.inl hn), by rintro _ ⟨⟩⟩
  | locked =>
    exact ⟨fun x n hn => Or.inl hn, fun n queue' hn => hbegun (Or.inl hn), by rintro _ ⟨⟩⟩
  | unavailable =>
    obtain ⟨-, -, hchannels, hholders, -⟩ :=
      closeChannel_frame ((s.withHolder job.id (some i)).withChannel i (some [])) i
    refine ⟨fun x n hn => hheld (by rwa [hholders] at hn), fun n queue' hn => hbegun ?_,
      by rintro _ ⟨⟩⟩
    rw [hchannels] at hn
    by_cases hni : n = i
    · rw [hni, Function.update_self] at hn
      cases hn
    · rw [Function.update_of_ne hni, channels_withChannel, Function.update_of_ne hni] at hn
      exact Or.inl hn
  | ran spec req pc pc' _ input s₁ settles acts hinput hstep => exact hran hinput hstep
  | finished spec req pc _ input s₁ settles acts e hinput hstep =>
    obtain ⟨hholders, hchannels, -⟩ := hran hinput hstep
    obtain ⟨-, -, hclosed, hheld', -⟩ :=
      closeChannel_frame (acts.foldl (applyAct spec.ip job.id settles) s₁) i
    refine ⟨fun x n hn => hholders x n (hheld' ▸ hn), fun n queue' hn => ?_, fun j hj => ?_⟩
    · change ((acts.foldl _ s₁).closeChannel i).vol.channels n = _ at hn
      rw [hclosed] at hn
      by_cases hni : n = i
      · rw [hni, Function.update_self] at hn
        cases hn
      · rw [Function.update_of_ne hni] at hn
        exact hchannels n queue' hn
    · rw [waiter_afterPurchase] at hj
      cases hj

/-- A reply that is new in a step says what the call says, and whom it is for was addressed
before. -/
lemma TwoPhaseMove.replies {kind : TwoPhase} {pc pc' : TwoPhasePc} {sent sent' : Prop}
    (h : TwoPhaseMove cfg now i job kind s pc ev pc' s') {j : ℕ} {r : SettleReply}
    (hr : s'.vol.replies j = some (some r)) :
    s.vol.replies j = some (some r) ∨ Addresses s i pc j ∧
      (pc.Tells taken sent → pc'.Tells taken sent' → r.Tells taken) := by
  cases h with
  | begin | refused | locked | noted => exact Or.inl hr
  | unavailable =>
    exact Or.inl
      (closeChannel_replies ((s.withHolder job.id (some i)).withChannel i (some [])) i hr)
  | ran spec req pc pc' _ input s₁ settles acts hinput hstep =>
    have hmove := SettlementMove.of_step hstep
    rcases (applyActs_shared _ _ _ _ _).2 j r hr with hold | hnew
    · exact Or.inl (hinput.shared.2.1 ▸ hold)
    · refine Or.inr ⟨hmove.addressed hinput (Or.inr ⟨r, hnew⟩), fun htells htells' => ?_⟩
      cases hmove with
      | goesOn _ _ _ _ _ _ _ _ _ hreply => exact absurd hnew (hreply j r)
      | commits => simp at hnew
      | decides _ _ _ _ e _ hdecided _ _ hreply =>
        rw [(hreply j r hnew).2]
        exact htells'.1 e hdecided
      | stays _ _ _ _ e hdecided _ _ hreply =>
        rw [(hreply j r hnew).1]
        exact htells.1 e hdecided
  | finished spec req pc _ input s₁ settles acts e hinput hstep =>
    have hmove := SettlementMove.of_step hstep
    rcases (applyActs_shared _ _ _ _ _).2 j r (closeChannel_replies _ _ hr) with hold | hnew
    · exact Or.inl (hinput.shared.2.1 ▸ hold)
    · refine Or.inr ⟨hmove.addressed hinput (Or.inr ⟨r, hnew⟩), fun htells _ => ?_⟩
      generalize hend : PurchasePc.ended e = pc₁ at hmove
      cases hmove with
      | goesOn _ _ _ _ _ _ _ _ _ hreply => exact absurd hnew (hreply j r)
      | commits => simp at hnew
      | decides _ _ _ _ _ _ _ hgoing => exact absurd hend.symm (hgoing e)
      | stays _ _ _ _ e' hdecided _ _ hreply =>
        rw [(hreply j r hnew).1]
        exact htells.1 e' hdecided

end Call

end Tim

end DevBridge

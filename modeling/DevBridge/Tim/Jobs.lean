import DevBridge.Tim.Errands
import DevBridge.Tim.Runs

/-!
# What a card call is about

A session does the errand of its own job, on the terminal of the job's till, and ends with what
that errand gives; a reconcile only looks, or opens or closes a shift again.  The job of a call
that executes has its row in the journal.
-/

namespace DevBridge.Tim

/-! ### The states of a call -/

/-- The errand of a job on the terminal of its till. -/
def Errand.Of (cfg : TimConfig) (job : DeviceJob) (spec : TerminalSpec) : Errand → Prop
  | reversal run => job.jobType = JOB_REVERSAL ∧ jobSpec cfg job = some spec ∧
      run.jobId = job.id ∧ reversalTarget job = some (run.transSeq, run.amountMinor)
  | op o jobId _ => TerminalOp.ofJob job.jobType = some o ∧ jobSpec cfg job = some spec ∧
      jobId = job.id
  | copy jobId _ => job.jobType = JOB_PRINT_COPY ∧ jobId = job.id
  | _ => False

/-- What an errand can end with. -/
def Errand.Ends : Errand → ErrandEnd → Prop
  | readLast, .last _ _ | reversal _, .reversal _ | op _ _ _, .op _ _ | rerun _, .rerun _
  | copy _ _, .copy _ | safety _ _, .safety _ => True
  | _, _ => False

/-- What holds in the states of a reversal, a shift or balance job or a receipt copy. -/
inductive OpOk (cfg : TimConfig) (job : DeviceJob) : OpPc → Prop
  | start : OpOk cfg job .start
  | copyRow (spec : TerminalSpec) (target : ℤ) (h : job.jobType = JOB_PRINT_COPY) :
    OpOk cfg job (.copyRow spec target)
  | copyCard (spec : TerminalSpec) (target : ℤ) (entry : JournalEntry)
      (h : job.jobType = JOB_PRINT_COPY) : OpOk cfg job (.copyCard spec target entry)
  | session (x : Session) (h : x.errand.Of cfg job x.spec)
      (hends : ∀ e, x.pc.result = some (.ok e) → x.errand.Ends e) : OpOk cfg job (.session x)
  | transacted (facts : TxFacts) (tid : Option String) (h : job.jobType = JOB_REVERSAL) :
    OpOk cfg job (.transacted facts tid)
  | ended (why : String) : OpOk cfg job (.ended why)
  | recording (row : Option ℤ) (outcome : Outcome)
      (h : (TerminalOp.ofJob job.jobType).isSome) : OpOk cfg job (.recording row outcome)
  | printing (target transSeq : ℤ) (receipts : Receipts) (h : job.jobType = JOB_PRINT_COPY) :
    OpOk cfg job (.printing target transSeq receipts)
  | returned (outcome : Outcome) : OpOk cfg job (.returned outcome)

namespace ReconcilePc

/-- A reconcile only looks, or opens or closes a shift again. -/
def Looks : ReconcilePc → Prop
  | reading _ x => x.errand = .readLast
  | running x => ∃ o, x.errand = .rerun o
  | _ => True

/-- A reversal whose terminal was never asked is `failed` at once. -/
def Asked (entry : JournalEntry) : ReconcilePc → Prop
  | start | answered (.failed _ _) => True
  | _ => entry.job.jobType = JOB_REVERSAL → entry.deviceContactAt.isSome

end ReconcilePc

/-- A session of the safety balance does the errand of its day. -/
def SafetyPc.OfDay : SafetyPc → Prop
  | session x _ date midnight => x.errand = .safety date midnight
  | _ => True

/-- What holds in the states of a card call. -/
def TimTask.Ok (cfg : TimConfig) : TimTask → Prop
  | twoPhase job kind _ => TwoPhase.ofJob job.jobType = some kind
  | settle job _ _ => job.jobType = JOB_COMMIT ∨ job.jobType = JOB_ROLLBACK
  | op job pc => OpOk cfg job pc
  | reconcile entry pc => pc.Looks ∧ pc.Asked entry
  | safety pc => pc.OfDay

section Steps

variable {cfg : TimConfig} {now : Time} {i : ℕ} {ev : TimEvent} {s s' : TimState}

lemma errandStep_ends {x : Errand} {ip : String} {tid : Option String} {pc : ErrandPc}
    {r : ErrandStep} {e : ErrandEnd} (h : x.step cfg now ip tid s pc ev = some r)
    (hr : r.next = .inr e) : x.Ends e := by
  cases x with
  | readLast =>
    simp only [Errand.step] at h
    split at h
    · cases h
      cases hr
    · cases h
      cases hr
      trivial
    · cases h
      cases hr
      trivial
    · cases h
  | reversal run => cases ReversalMove.of_step h <;> cases hr <;> trivial
  | op o jobId date =>
    cases OpMove.of_step h with
    | contacted | called | rowed => cases hr
    | finished =>
      cases hr
      trivial
  | rerun o =>
    simp only [Errand.step] at h
    split at h
    · cases h
      cases hr
    · rw [Option.bind_eq_some_iff] at h
      obtain ⟨_, -, h⟩ := h
      cases h
      cases hr
      trivial
    · cases h
  | copy jobId transSeq =>
    simp only [Errand.step, copyStep] at h
    split at h
    · cases h
      cases hr
    · cases h
      cases hr
      trivial
    · cases h
      cases hr
      trivial
    · split at h
      · cases h
        cases hr
      · cases h
        cases hr
        trivial
    · cases h
      cases hr
      trivial
    · cases h
      cases hr
      trivial
    · cases h
  | safety date midnight =>
    cases SafetyMove.of_step h with
    | answered row a r₁ =>
      unfold safetyAnswer at hr
      split at hr
      · cases hr
        trivial
      · split at hr <;> cases hr
        trivial
    | due | sent => cases hr
    | forgotten | finished =>
      cases hr
      trivial

/-- A session keeps its errand and its terminal, and ends with what the errand gives. -/
lemma SessionMove.keeps {jobId : Option ℤ} {x x' : Session}
    (h : SessionMove cfg now jobId x s ev x' s') :
    x'.errand = x.errand ∧ x'.spec = x.spec ∧
      ((∀ e, x.pc.result = some (.ok e) → x.errand.Ends e) →
        ∀ e, x'.pc.result = some (.ok e) → x.errand.Ends e) := by
  cases h with
  | around pc _ hj hasks hbegin hresult => exact ⟨rfl, rfl, fun h e he => h e (hresult e he)⟩
  | worked tid pc r hpc hr =>
    have hends : ∀ e, r.next = .inr e → x.errand.Ends e := fun e => errandStep_ends hr
    unfold Session.worked
    split
    · exact ⟨rfl, rfl, by rintro _ _ ⟨⟩⟩
    · exact ⟨rfl, rfl, by rintro _ _ ⟨⟩⟩
    · rename_i e he
      refine ⟨rfl, rfl, ?_⟩
      rintro _ _ ⟨⟩
      exact hends e he

lemma OpOk.oneSession {job : DeviceJob} {spec : TerminalSpec} {errand : Errand}
    (h : errand.Of cfg job spec) : OpOk cfg job (oneSession cfg job spec errand) := by
  unfold Tim.oneSession
  split
  · exact .session _ h (by rintro _ ⟨⟩)
  · exact .returned _

lemma OpOk.beginOp (job : DeviceJob) (stored : String → Option ℤ) :
    OpOk cfg job (beginOp cfg now job stored) := by
  unfold Tim.beginOp
  split
  · rename_i htype
    split
    · rename_i spec transSeq amountMinor hspec htarget
      exact .oneSession ⟨htype, hspec, rfl, htarget⟩
    · exact .returned _
  · split
    · rename_i htype
      split
      · exact .copyRow _ _ htype
      · exact .returned _
    · split
      · rename_i o ho
        split
        · rename_i spec hspec
          exact .oneSession ⟨ho, hspec, rfl⟩
        · exact .returned _
      · exact .returned _

lemma OpOk.copied {job : DeviceJob} (htype : job.jobType = JOB_PRINT_COPY) (spec : TerminalSpec)
    (target : ℤ) (entry : JournalEntry) (card : Option CardPayment) :
    OpOk cfg job (Tim.copyCard cfg job spec target entry card) := by
  unfold Tim.copyCard
  split
  · split
    · exact .returned _
    · split
      · exact .returned _
      · exact .oneSession ⟨htype, rfl⟩
  · exact .returned _

/-- After its session a job goes on with what its own errand gave. -/
lemma OpOk.afterSession {job : DeviceJob} {spec : TerminalSpec} {errand : Errand}
    {r : Except SessionFail ErrandEnd} (h : errand.Of cfg job spec)
    (hends : ∀ e, r = .ok e → errand.Ends e) : OpOk cfg job (afterSession job errand r) := by
  unfold Tim.afterSession
  split
  · exact .returned _
  · rename_i facts tid
    cases errand with
    | reversal run => exact .transacted facts tid h.1
    | readLast | op | rerun | copy | safety => exact (hends _ rfl).elim
  · exact .returned _
  · exact .ended _
  · rename_i row outcome
    cases errand with
    | op o jobId date =>
      refine .recording row outcome ?_
      rw [h.1]
      rfl
    | readLast | reversal | rerun | copy | safety => exact (hends _ rfl).elim
  · exact .returned _
  · split
    · exact .printing _ _ _ h.1
    · exact .returned _
  · exact .returned _

lemma OpOk.step {job : DeviceJob} {pc pc' : OpPc} (hok : OpOk cfg job pc)
    (h : OpTaskMove cfg now i job s pc ev pc' s') : OpOk cfg job pc' := by
  cases h with
  | begin _ stored => exact .beginOp job stored
  | found spec target entry =>
    cases hok with
    | copyRow _ _ htype => exact .copyCard _ _ _ htype
  | copied _ spec target entry card =>
    cases hok with
    | copyCard _ _ _ htype => exact .copied htype _ _ _ _
  | session x x' _ _ hstep =>
    cases hok with
    | session _ herrand hends =>
      obtain ⟨he, hs, hkeeps⟩ := (SessionMove.of_step hstep).keeps
      refine .session x' (by rw [he, hs]; exact herrand) fun e hr => ?_
      rw [he]
      exact hkeeps hends e hr
  | finished x r hr =>
    cases hok with
    | session _ herrand hends =>
      refine .afterSession herrand fun e he => hends e ?_
      rw [hr, he]
      rfl
  | transacted | noted | recorded | printed | refused => exact .returned _

lemma ReconcilePc.asked_of {entry : JournalEntry}
    (h : entry.job.jobType = JOB_REVERSAL → entry.deviceContactAt.isSome) (pc : ReconcilePc) :
    pc.Asked entry := by
  cases pc with
  | start => trivial
  | answered a =>
    cases a with
    | failed code text => trivial
    | done _ | stillUnknown _ => exact h
  | card | asking _ | reading _ _ | judging _ _ _ | charged _ _ _ | person _ | settleRow _ _
  | settleCard _ _ _ | shift _ | running _ => exact h

lemma beginReconcile_asked (entry : JournalEntry) :
    (beginReconcile entry).Looks ∧ (beginReconcile entry).Asked entry := by
  unfold beginReconcile
  simp only
  split
  · split
    · exact ⟨trivial, trivial⟩
    · rename_i hcontact
      refine ⟨trivial, fun _ => ?_⟩
      rw [Option.isSome_iff_ne_none]
      simpa using hcontact
  · rename_i htype
    -- every other job is no reversal
    have hnot : entry.job.jobType = JOB_REVERSAL → entry.deviceContactAt.isSome := fun h =>
      absurd (Or.inr h) htype
    refine ⟨?_, ReconcilePc.asked_of hnot _⟩
    split
    · split
      · trivial
      · split <;> trivial
    · split
      · split <;> trivial
      · trivial

lemma mayAsk_looks (now started : Time) (job : DeviceJob) (card : CardPayment) :
    (mayAsk cfg now started job card).Looks := by
  unfold mayAsk
  simp only
  split
  · trivial
  · split
    · trivial
    · split
      · rfl
      · trivial

lemma afterReading_looks (card : CardPayment) (r : Except SessionFail ErrandEnd) :
    (afterReading card r).Looks := by
  unfold afterReading
  split <;> trivial

lemma judge_looks (card : CardPayment) (tid : Option String) (last : LastTransaction)
    (later : Bool) : (judge card tid last later).Looks := by
  unfold judge
  split
  · trivial
  · split <;> trivial
  · trivial

lemma shiftAgain_looks (job : DeviceJob) (o : TerminalOp) (later : Bool) :
    (shiftAgain cfg job o later).Looks := by
  unfold shiftAgain
  split
  · trivial
  · split
    · trivial
    · split
      · exact ⟨o, rfl⟩
      · trivial

lemma afterRerun_looks (r : Except SessionFail ErrandEnd) : (afterRerun r).Looks := by
  unfold afterRerun
  split <;> trivial

lemma reconcileStep_ok {entry : JournalEntry} {pc pc' : ReconcilePc} (hlooks : pc.Looks)
    (hasked : pc.Asked entry) (h : reconcileStep cfg now i entry s pc ev = some (pc', s')) :
    pc'.Looks ∧ pc'.Asked entry := by
  have hkept : ∀ {q : ReconcilePc},
      (entry.job.jobType = JOB_REVERSAL → entry.deviceContactAt.isSome) → q.Looks →
      q.Looks ∧ q.Asked entry := fun hcontact hq => ⟨hq, ReconcilePc.asked_of hcontact _⟩
  cases ReconcileMove.of_step h with
  | begin => exact beginReconcile_asked entry
  | told _ _ a hpc =>
    rcases hpc with rfl | ⟨op, target, rfl⟩ | ⟨op, target, row, rfl⟩ <;>
      exact hkept hasked trivial
  | found | charged | person | settled => exact hkept hasked trivial
  | asked card started => exact hkept hasked (mayAsk_looks _ _ _ _)
  | read card x r => exact hkept hasked (afterReading_looks _ _)
  | judged card tid last _ later => exact hkept hasked (judge_looks _ _ _ _)
  | shift op _ later => exact hkept hasked (shiftAgain_looks _ _ _)
  | reran x r => exact hkept hasked (afterRerun_looks _)
  | reading card x x' _ _ hx =>
    refine hkept hasked ?_
    rw [ReconcilePc.Looks, (SessionMove.of_step hx).keeps.1]
    exact hlooks
  | running x x' _ _ hx =>
    refine hkept hasked ?_
    rw [ReconcilePc.Looks, (SessionMove.of_step hx).keeps.1]
    exact hlooks

lemma safetyLoopStep_ok {pc pc' : SafetyPc} (hok : pc.OfDay)
    (h : safetyLoopStep cfg now i s pc ev = some (pc', s')) : pc'.OfDay := by
  cases SafetyLoopMove.of_step h with
  | slept | woke | skipped | recorded => trivial
  | began => rfl
  | session x x' rest date midnight _ _ hx =>
    rw [SafetyPc.OfDay, (SessionMove.of_step hx).keeps.1]
    exact hok
  | finished x r rest date midnight =>
    unfold afterSafety
    split <;> trivial

lemma TimMove.ok {t t' : TimTask} (h : TimMove cfg now i s t ev t' s') (hok : t.Ok cfg) :
    t'.Ok cfg := by
  cases h with
  | elapsed | twoPhase | settle => exact hok
  | op job pc pc' _ _ hstep => exact OpOk.step hok (OpTaskMove.of_step hstep)
  | reconcile entry pc pc' _ _ hstep => exact reconcileStep_ok hok.1 hok.2 hstep
  | safety pc pc' _ _ hstep => exact safetyLoopStep_ok hok hstep

lemma executeCard_ok (job : DeviceJob) : (executeCard job).Ok cfg := by
  unfold executeCard
  split
  · rename_i kind hkind
    exact hkind
  · split_ifs with hcommit hrollback
    · exact Or.inl hcommit
    · exact Or.inr hrollback
    · exact .start

end Steps

/-! ### What a call asks -/

/-- The calls of a held session. -/
def TerminalCall.ofPurchase : TerminalCall → Bool
  | reversal _ | activate | deactivate | balance | reprint => false
  | _ => true

/-- What a call may ask of a terminal. -/
def TimTask.MayAsk : TimTask → TerminalCall → Prop
  | twoPhase _ _ _, call => call.ofPurchase = true
  | op _ (.session x), call | reconcile _ (.reading _ x), call | reconcile _ (.running x), call
  | safety (.session x _ _ _), call => call.ofSession = true ∨ x.errand.MayAsk call
  | _, _ => False

section Asks

variable {cfg : TimConfig} {now : Time} {i : ℕ} {ev : TimEvent} {s s' : TimState}
  {c : TerminalCall}

lemma finish_calls (req : PurchaseRequest) (instant : ℕ) (e : PurchaseEnd)
    (h : .call c ∈ (req.finish instant e).2) : c.ofPurchase = true := by
  cases e <;> simp [PurchaseRequest.finish] at h <;> subst h <;> rfl

lemma settled_calls (req : PurchaseRequest) (instant : ℕ) (e : PurchaseEnd) (waiter : Option ℕ)
    (h : .call c ∈ (req.settled instant e waiter).2) : c.ofPurchase = true := by
  unfold PurchaseRequest.settled at h
  simp only at h
  split at h
  · rename_i decide rest hnext
    refine finish_calls req instant e ?_
    rw [hnext]
    simp only [List.mem_cons, reduceCtorEq, false_or] at h ⊢
    exact h
  · exact finish_calls req instant e h

lemma purchaseStep_calls {req : PurchaseRequest} {instant : ℕ} {spec : TerminalSpec}
    {pc pc' : PurchasePc} {input : PurchaseInput} {acts : List PurchaseAct}
    (h : req.step spec instant pc input = some (pc', acts))
    (hc : .call c ∈ acts) : c.ofPurchase = true := by
  have hplain : ∀ (q : PurchasePc) (l : List PurchaseAct),
      (∀ c, .call c ∈ l → c.ofPurchase = true) → some (q, l) = some (pc', acts) →
      c.ofPurchase = true := by
    intro q l hl heq
    cases heq
    exact hl c hc
  have hfinish : ∀ e, some (req.finish instant e) = some (pc', acts) → c.ofPurchase = true := by
    intro e heq
    refine finish_calls req instant e ?_
    rw [Option.some.inj heq]
    exact hc
  have hsettled : ∀ e waiter, some (req.settled instant e waiter) = some (pc', acts) →
      c.ofPurchase = true := by
    intro e waiter heq
    refine settled_calls req instant e waiter ?_
    rw [Option.some.inj heq]
    exact hc
  unfold PurchaseRequest.step PurchaseRequest.rollBack at h
  simp only at h
  repeat' split at h
  all_goals first
    | exact hfinish _ h
    | exact hsettled _ _ h
    | exact hplain _ _ (by simp [TerminalCall.ofPurchase]) h
    | cases h

lemma TwoPhaseMove.asks {job : DeviceJob} {kind : TwoPhase} {pc pc' : TwoPhasePc}
    (h : TwoPhaseMove cfg now i job kind s pc ev pc' s') :
    AsksOnly (fun call => call.ofPurchase = true) s s' := by
  have hran : ∀ {spec : TerminalSpec} {req : PurchaseRequest} {pc pc' input s₁ settles acts},
      InputMove cfg now i job spec req s pc ev input s₁ settles →
      req.step spec s.vol.instant pc input = some (pc', acts) →
      AsksOnly (fun call => call.ofPurchase = true) s
        (acts.foldl (applyAct spec.ip job.id settles) s₁) := by
    intro spec req pc pc' input s₁ settles acts hinput hstep
    have hheard : AsksOnly (fun call => call.ofPurchase = true) s s₁ := by
      cases hinput with
      | answered => exact (AsksOnly.of_dev rfl).heard _ _ _ _
      | contacted | stored | received | quiet => exact .of_dev rfl
    refine hheard.trans ?_
    obtain ⟨new, hlog, hnew⟩ := @applyActs_log spec.ip job.id settles acts s₁
    refine ⟨new, hlog, fun m hm call hcall => ?_⟩
    obtain ⟨call', hmem, rfl⟩ := hnew m hm
    cases hcall
    exact purchaseStep_calls hstep hmem
  cases h with
  | begin | refused | locked | noted => exact .of_dev rfl
  | unavailable => exact .of_dev (closeChannel_frame _ _).2.1
  | ran spec req pc pc' _ input s₁ settles acts hinput hstep => exact hran hinput hstep
  | finished spec req pc _ input s₁ settles acts e hinput hstep =>
    exact (hran hinput hstep).trans (.of_dev (closeChannel_frame _ _).2.1)

lemma reconcileStep_asks {entry : JournalEntry} {pc pc' : ReconcilePc}
    (h : reconcileStep cfg now i entry s pc ev = some (pc', s')) :
    AsksOnly (TimTask.reconcile entry pc).MayAsk s s' := by
  cases ReconcileMove.of_step h with
  | reading card x x' _ _ hx => exact (SessionMove.of_step hx).asks
  | running x x' _ _ hx => exact (SessionMove.of_step hx).asks
  | begin | told | found | asked | read | judged | charged | person | settled | shift | reran =>
    exact .of_dev rfl

lemma safetyLoopStep_asks {pc pc' : SafetyPc}
    (h : safetyLoopStep cfg now i s pc ev = some (pc', s')) :
    AsksOnly (TimTask.safety pc).MayAsk s s' := by
  cases SafetyLoopMove.of_step h with
  | session x x' rest date midnight _ _ hx => exact (SessionMove.of_step hx).asks
  | slept | woke | skipped | began | finished | recorded => exact .of_dev rfl

/-- A step of a call asks nothing that is not its own. -/
lemma TimMove.asks {t t' : TimTask} (h : TimMove cfg now i s t ev t' s') :
    AsksOnly t.MayAsk s s' := by
  cases h with
  | elapsed => exact .of_dev rfl
  | twoPhase _ _ _ _ _ _ hmove => exact hmove.asks
  | settle _ _ _ _ _ _ hmove => exact .of_dev hmove.journal.2
  | op job pc pc' _ _ hstep =>
    cases OpTaskMove.of_step hstep with
    | session x x' _ _ hx => exact (SessionMove.of_step hx).asks
    | begin | found | copied | finished | transacted | noted | recorded | printed | refused =>
      exact .of_dev rfl
  | reconcile _ _ _ _ _ hstep => exact reconcileStep_asks hstep
  | safety _ _ _ _ hstep => exact safetyLoopStep_asks hstep

end Asks

/-! ### Runs -/

variable {F : Executor} {cfg : TimConfig} {timing : Timing}
  {law : Transition.Law (World (cardWith F cfg)) (Event (cardWith F cfg))}
  {w : World (cardWith F cfg)}

lemma ok_of_reach (h : (source (cardWith F cfg) timing).Reach law w) {i : ℕ} {t : TimTask}
    (ht : w.proc.tasks i = some (.inr t)) : t.Ok cfg := by
  refine h.invariant (P := fun w : World (cardWith F cfg) =>
    ∀ i t, w.proc.tasks i = some (.inr t) → t.Ok cfg) ?_ ?_ i t ht
  · rintro i t ⟨⟩
  · intro a e b _ ih hstep _ i t ht
    cases CardMove.of_step hstep with
    | other hdev hvol htasks =>
      rcases htasks i t ht with hold | hnew
      · exact ih i t hold
      · cases hnew with
        | execute q entry => exact executeCard_ok entry.job
        | reconcile id entry => exact ⟨trivial, trivial⟩
    | wiped hdev hvol htasks =>
      rw [htasks i t ht]
      trivial
    | stepped k ev t₀ t' he htask hmove htasks =>
      rw [htasks] at ht
      by_cases hik : i = k
      · subst hik
        rw [Function.update_self] at ht
        cases ht
        exact hmove.ok (ih i t₀ htask)
      · rw [Function.update_of_ne hik] at ht
        exact ih i t ht

/-- The job that a call executes. -/
def TimTask.executes : TimTask → Option DeviceJob
  | twoPhase job _ _ | settle job _ _ | op job _ => some job
  | _ => none

lemma TimMove.executes {now : Time} {i : ℕ} {ev : TimEvent} {s s' : TimState} {t t' : TimTask}
    (h : TimMove cfg now i s t ev t' s') : t'.executes = t.executes := by
  cases h <;> rfl

lemma executes_executeCard (job : DeviceJob) : (executeCard job).executes = some job := by
  unfold executeCard
  split
  · rfl
  · split_ifs <;> rfl

/-- The job of a call that executes has its row. -/
lemma row_of_executes (h : (source (cardWith F cfg) timing).Reach law w) {i : ℕ} {t : TimTask}
    {job : DeviceJob} (ht : w.proc.tasks i = some (.inr t)) (hjob : t.executes = some job) :
    ∃ e, w.journal.get job.id = some e ∧ e.job = job := by
  refine h.invariant (P := fun w : World (cardWith F cfg) =>
    ∀ i t job, w.proc.tasks i = some (.inr t) → t.executes = some job →
      ∃ e, w.journal.get job.id = some e ∧ e.job = job) ?_ ?_ i t job ht hjob
  · rintro i t job ⟨⟩
  · intro a e b ha ih hstep _ i t job ht hjob
    -- the row stays while the process runs
    have hkept : ∀ e, a.journal.get job.id = some e → e.job = job →
        ∃ e', b.journal.get job.id = some e' ∧ e'.job = job := by
      intro e₀ he₀ hj
      rcases (Shape.of_step hstep).row_kept he₀ with ⟨e', he', hle⟩ | ⟨n, rfl⟩
      · exact ⟨e', he', hle.job.trans hj⟩
      · rw [background_inr ht] at hjob
        cases hjob
    cases CardMove.of_step hstep with
    | other hdev hvol htasks =>
      rcases htasks i t ht with hold | hnew
      · obtain ⟨e₀, he₀, hj⟩ := ih i t job hold hjob
        exact hkept e₀ he₀ hj
      · cases hnew with
        | execute q entry queuedAt hpc hj =>
          rw [executes_executeCard] at hjob
          cases hjob
          have hstarting : a.Has (.starting q entry) := by
            change (a.proc.workers q).started = some entry
            rw [hpc]
            rfl
          obtain ⟨e₀, he₀, hle, -⟩ := (callInv_of_reach ha).starting q entry hstarting
          exact hkept e₀ he₀ hle.job
        | reconcile => cases hjob
    | wiped hdev hvol htasks =>
      rw [htasks i t ht] at hjob
      cases hjob
    | stepped k ev t₀ t' he htask hmove htasks =>
      have hold : ∃ t₁, a.proc.tasks i = some (.inr t₁) ∧ t₁.executes = some job := by
        rw [htasks] at ht
        by_cases hik : i = k
        · subst hik
          rw [Function.update_self] at ht
          cases ht
          exact ⟨t₀, htask, hmove.executes ▸ hjob⟩
        · rw [Function.update_of_ne hik] at ht
          exact ⟨t, ht, hjob⟩
      obtain ⟨t₁, ht₁, hjob₁⟩ := hold
      obtain ⟨e₀, he₀, hj⟩ := ih i t₁ job ht₁ hjob₁
      exact hkept e₀ he₀ hj

end DevBridge.Tim

import DevBridge.Tim.Aside

/-!
# What a step of a card call does

The steps of the settle jobs and of the held payments, each listed once with all that a proof
about them needs, and the executor itself.
-/

namespace DevBridge.Tim

/-! ### Settle jobs -/

/-- The card row that a settle job is compared with; an unreadable one is none. -/
def comparedCard (j : Journal) (target : ℤ) : TimEvent → Option CardPayment
  | .go => j.cardPayment target
  | _ => none

/-- What one step of `settle` can do. -/
inductive SettleMove (cfg : TimConfig) (i : ℕ) (job : DeviceJob) (op : SettleOp)
    (s : TimState) : SettlePc → TimEvent → SettlePc → TimState → Prop
  | begin (target : ℤ) (h : settleTarget job = some target) :
    SettleMove cfg i job op s .start .go (.row target false) s
  /-- It ends without settling anything. -/
  | refused (pc : SettlePc) (ev : TimEvent) (outcome : Outcome)
      (h : ∀ result, outcome ≠ .done result) :
    SettleMove cfg i job op s pc ev (.returned outcome) s
  | read (target : ℤ) (again : Bool) (entry : JournalEntry)
      (h : settleRow job target (s.journal.get target) = .ok entry) :
    SettleMove cfg i job op s (.row target again) .go (.card target again entry) s
  /-- It contradicts nothing that is journaled: the holder is asked. -/
  | passed (target : ℤ) (entry : JournalEntry) (ev : TimEvent)
      (hev : ev = .go ∨ ∃ e, ev = .fails e)
      (h : settleCard cfg job (comparedCard s.journal target ev) = none) :
    SettleMove cfg i job op s (.card target false entry) ev (.holder target) s
  /-- No session holds the payment: its row decides. -/
  | decided (target : ℤ) (entry : JournalEntry) (ev : TimEvent)
      (hev : ev = .go ∨ ∃ e, ev = .fails e)
      (h : settleCard cfg job (comparedCard s.journal target ev) = none) :
    SettleMove cfg i job op s (.card target true entry) ev
      (.returned (settleOutcome op target (purchaseState entry))) s
  | found (target : ℤ) (n : ℕ) (h : s.vol.holders target = some n) :
    SettleMove cfg i job op s (.holder target) .go (.sending target n) s
  /-- No session holds the payment any more. -/
  | again (pc : SettlePc) (target : ℤ) :
    SettleMove cfg i job op s pc .go (.row target true) s
  | sent (target : ℤ) (n : ℕ) (queue : List Queued) (h : s.vol.channels n = some queue) :
    SettleMove cfg i job op s (.sending target n) .go (.waiting target)
      (s.withChannel n (some (queue ++ [⟨⟨op, i⟩, job⟩])))
  | replied (target : ℤ) (reply : SettleReply) (h : s.vol.replies i = some (some reply)) :
    SettleMove cfg i job op s (.waiting target) .go
      (.returned (settleOutcome op target reply)) s

lemma settleRow_error {job : DeviceJob} {target : ℤ} {row : Option JournalEntry}
    {outcome : Outcome} (h : settleRow job target row = .error outcome) :
    ∀ result, outcome ≠ .done result := by
  unfold settleRow at h
  split at h
  · cases h
    exact fun _ h => nomatch h
  · split at h
    · cases h
      exact fun _ h => nomatch h
    · cases h

lemma settleCard_ne_done {cfg : TimConfig} {job : DeviceJob} {card : Option CardPayment}
    {outcome : Outcome} (h : settleCard cfg job card = some outcome) :
    ∀ result, outcome ≠ .done result := by
  rw [settleCard, Option.map_eq_some_iff] at h
  obtain ⟨problem, -, rfl⟩ := h
  exact fun _ h => nomatch h

lemma SettleMove.of_checked {cfg : TimConfig} {i : ℕ} {job : DeviceJob} {op : SettleOp}
    {s : TimState} {target : ℤ} {again : Bool} {entry : JournalEntry} {ev : TimEvent}
    {card : Option CardPayment} (hcard : card = comparedCard s.journal target ev)
    (hev : ev = .go ∨ ∃ e, ev = .fails e) :
    SettleMove cfg i job op s (.card target again entry) ev
      (settleChecked op target entry again (settleCard cfg job card)) s := by
  subst hcard
  cases h : settleCard cfg job (comparedCard s.journal target ev) with
  | some refusal => exact .refused _ _ _ (settleCard_ne_done h)
  | none =>
    cases again with
    | false => exact .passed target entry ev hev h
    | true => exact .decided target entry ev hev h

lemma SettleMove.of_step {cfg : TimConfig} {i : ℕ} {job : DeviceJob} {op : SettleOp}
    {s s' : TimState} {pc pc' : SettlePc} {ev : TimEvent}
    (h : settleStep cfg i job op s pc ev = some (pc', s')) :
    SettleMove cfg i job op s pc ev pc' s' := by
  unfold settleStep at h
  split at h
  · split at h
    · rename_i target htarget
      cases h
      exact .begin target htarget
    · cases h
      exact .refused _ _ _ fun _ h => nomatch h
  · split at h
    · rename_i entry hentry
      cases h
      exact .read _ _ entry hentry
    · rename_i refusal hrefusal
      cases h
      exact .refused _ _ _ (settleRow_error hrefusal)
  · cases h
    exact .refused _ _ _ fun _ h => nomatch h
  · cases h
    exact .of_checked rfl (Or.inl rfl)
  · cases h
    exact .of_checked rfl (Or.inr ⟨_, rfl⟩)
  · split at h
    · rename_i n hn
      cases h
      exact .found _ n hn
    · cases h
      exact .again _ _
  · split at h
    · rename_i queue hqueue
      cases h
      exact .sent _ _ queue hqueue
    · cases h
      exact .again _ _
  · split at h
    · rename_i reply hreply
      cases h
      exact .replied _ reply hreply
    · cases h
      exact .again _ _
    · cases h
  · cases h

lemma SettleMove.journal {cfg : TimConfig} {i : ℕ} {job : DeviceJob} {op : SettleOp}
    {s s' : TimState} {pc pc' : SettlePc} {ev : TimEvent}
    (h : SettleMove cfg i job op s pc ev pc' s') : s'.journal = s.journal ∧ s'.dev = s.dev := by
  cases h <;> exact ⟨rfl, rfl⟩

/-! ### Purchases -/

section Acts

variable {ip : String} {jobId : ℤ} {settles : Option DeviceJob}

/-- What `run_purchase` does changes no row, channel or session lock. -/
lemma applyActs_frame (acts : List PurchaseAct) (s : TimState) :
    (acts.foldl (applyAct ip jobId settles) s).journal = s.journal ∧
      (acts.foldl (applyAct ip jobId settles) s).vol.channels = s.vol.channels ∧
      (acts.foldl (applyAct ip jobId settles) s).vol.sessions = s.vol.sessions := by
  induction acts generalizing s with
  | nil => exact ⟨rfl, rfl, rfl⟩
  | cons act acts ih =>
    obtain ⟨h1, h2, h3⟩ := ih (applyAct ip jobId settles s act)
    rw [List.foldl_cons, h1, h2, h3]
    cases act <;> exact ⟨rfl, rfl, rfl⟩

/-- The calls that `run_purchase` sends. -/
lemma applyActs_log (acts : List PurchaseAct) (s : TimState) :
    ∃ new, (acts.foldl (applyAct ip jobId settles) s).dev.log = new ++ s.dev.log ∧
      ∀ e ∈ new, ∃ call, .call call ∈ acts ∧ e = .sent ip (some jobId) call settles := by
  induction acts generalizing s with
  | nil => exact ⟨[], rfl, by simp⟩
  | cons act acts ih =>
    obtain ⟨new, hlog, hnew⟩ := ih (applyAct ip jobId settles s act)
    rw [List.foldl_cons, hlog]
    have hold : ∀ e ∈ new, ∃ call, .call call ∈ act :: acts ∧
        e = .sent ip (some jobId) call settles := fun e he => by
      obtain ⟨call, hcall, he⟩ := hnew e he
      exact ⟨call, List.mem_cons_of_mem _ hcall, he⟩
    cases act with
    | call c =>
      refine ⟨new ++ [.sent ip (some jobId) c settles], by simp [applyAct, TimState.send],
        fun e he => ?_⟩
      rcases List.mem_append.mp he with he | he
      · exact hold e he
      · exact ⟨c, List.mem_cons_self, List.mem_singleton.mp he⟩
    | decide e => exact ⟨new, rfl, hold⟩
    | reply waiter r => exact ⟨new, rfl, hold⟩
    | release => exact ⟨new, rfl, hold⟩

end Acts

lemma closeChannel_frame (s : TimState) (i : ℕ) :
    (s.closeChannel i).journal = s.journal ∧ (s.closeChannel i).dev = s.dev ∧
      (s.closeChannel i).vol.channels = Function.update s.vol.channels i none ∧
      (s.closeChannel i).vol.holders = s.vol.holders ∧
      (s.closeChannel i).vol.sessions = s.vol.sessions := by
  have hfold : ∀ (queue : List Queued) (s : TimState),
      (queue.foldl (fun s q => s.withReply q.request.waiter none) s).journal = s.journal ∧
      (queue.foldl (fun s q => s.withReply q.request.waiter none) s).dev = s.dev ∧
      (queue.foldl (fun s q => s.withReply q.request.waiter none) s).vol.channels =
        s.vol.channels ∧
      (queue.foldl (fun s q => s.withReply q.request.waiter none) s).vol.holders =
        s.vol.holders ∧
      (queue.foldl (fun s q => s.withReply q.request.waiter none) s).vol.sessions =
        s.vol.sessions := by
    intro queue
    induction queue with
    | nil => exact fun s => ⟨rfl, rfl, rfl, rfl, rfl⟩
    | cons q queue ih => exact fun s => ih (s.withReply q.request.waiter none)
  exact hfold _ _

/-- What `run_purchase` gets in a step. -/
inductive InputMove (cfg : TimConfig) (now : Time) (i : ℕ) (job : DeviceJob)
    (spec : TerminalSpec) (req : PurchaseRequest) (s : TimState) :
    PurchasePc → TimEvent → PurchaseInput → TimState → Option DeviceJob → Prop
  /-- The contact is journaled: the card row is new. -/
  | contacted (tid : Option String) (base : Option ℤ) (j : Journal)
      (h : s.journal.cardContactOf now job.id spec.ip req.amountMinor base req.kind.txType none =
        some (true, j)) :
    InputMove cfg now i job spec req s (.journaling tid base) .go (.contacted (.ok ()))
      (s.withJournal j) none
  /-- The authorisation is journaled. -/
  | stored (held : Held) (j : Journal)
      (h : s.journal.cardAuthorized now job.id (held.facts.transSeq.getD 0)
        (cardResult cfg.floatText "authorized" held.tid held.facts) = (true, j)) :
    InputMove cfg now i job spec req s (.storing held) .go (.stored (.ok ())) (s.withJournal j)
      none
  /-- A settle request is taken out of the channel. -/
  | received (pc : PurchasePc) (q : Queued) (rest : List Queued)
      (h : s.vol.channels i = some (q :: rest))
      (hpc : (∃ held wake, pc = .waiting held wake) ∨ ∃ e, pc = .draining e) :
    InputMove cfg now i job spec req s pc .go (.received q.request)
      (s.withChannel i (some rest)) (some q.job)
  | answered (pc : PurchasePc) (call : TerminalCall) (a : CallAnswer)
      (h : req.callOf pc = some call) :
    InputMove cfg now i job spec req s pc (.answer a) (.answer a)
      (s.heard spec.ip (some job.id) call a) none
  /-- Nothing that others share is touched. -/
  | quiet (pc : PurchasePc) (ev : TimEvent) (input : PurchaseInput)
      (hanswer : ∀ a, input ≠ .answer a) (hreceived : ∀ r, input ≠ .received r)
      (hcontacted : input ≠ .contacted (.ok ())) (hstored : input ≠ .stored (.ok ())) :
    InputMove cfg now i job spec req s pc ev input s none

lemma queue_eq {s : TimState} {i : ℕ} {q : Queued} {rest : List Queued}
    (h : (s.vol.channels i).getD [] = q :: rest) : s.vol.channels i = some (q :: rest) := by
  cases hc : s.vol.channels i with
  | none => simp [hc] at h
  | some queue => simpa [hc] using h

lemma InputMove.of_input {cfg : TimConfig} {now : Time} {i : ℕ} {job : DeviceJob}
    {spec : TerminalSpec} {req : PurchaseRequest} {s s' : TimState} {pc : PurchasePc}
    {ev : TimEvent} {input : PurchaseInput} {settles : Option DeviceJob}
    (h : purchaseInput cfg now i job spec req s pc ev = some (input, s', settles)) :
    InputMove cfg now i job spec req s pc ev input s' settles := by
  have hquiet : ∀ {input' : PurchaseInput}, (∀ a, input' ≠ .answer a) →
      (∀ r, input' ≠ .received r) → input' ≠ .contacted (.ok ()) → input' ≠ .stored (.ok ()) →
      some (input', s, (none : Option DeviceJob)) = some (input, s', settles) →
      InputMove cfg now i job spec req s pc ev input s' settles := by
    intro input' h1 h2 h3 h4 heq
    cases heq
    exact .quiet _ _ _ h1 h2 h3 h4
  unfold purchaseInput at h
  simp only at h
  split at h
  · split at h
    · rename_i j hj
      cases h
      exact .contacted _ _ j hj
    · exact hquiet (by simp) (by simp) (by simp) (by simp) h
    · exact hquiet (by simp) (by simp) (by simp) (by simp) h
  · exact hquiet (by simp) (by simp) (by simp) (by simp) h
  · split at h
    · rename_i j hj
      cases h
      exact .stored _ j hj
    · exact hquiet (by simp) (by simp) (by simp) (by simp) h
  · exact hquiet (by simp) (by simp) (by simp) (by simp) h
  · split at h
    · rename_i q rest hq
      cases h
      exact .received _ q rest (queue_eq hq) (Or.inl ⟨_, _, rfl⟩)
    · split at h
      · cases h
      · exact hquiet (by simp) (by simp) (by simp) (by simp) h
  · split at h
    · exact hquiet (by simp) (by simp) (by simp) (by simp) h
    · cases h
  · split at h
    · exact hquiet (by simp) (by simp) (by simp) (by simp) h
    · cases h
  · split at h
    · rename_i q rest hq
      cases h
      exact .received _ q rest (queue_eq hq) (Or.inr ⟨_, rfl⟩)
    · exact hquiet (by simp) (by simp) (by simp) (by simp) h
  · exact hquiet (by simp) (by simp) (by simp) (by simp) h
  · exact hquiet (by simp) (by simp) (by simp) (by simp) h
  · exact hquiet (by simp) (by simp) (by simp) (by simp) h
  · exact hquiet (by simp) (by simp) (by simp) (by simp) h
  · exact hquiet (by simp) (by simp) (by simp) (by simp) h
  · rw [Option.map_eq_some_iff] at h
    obtain ⟨call, hcall, heq⟩ := h
    cases heq
    exact .answered _ call _ hcall
  · cases h

/-- What one step of `two_phase` can do. -/
inductive TwoPhaseMove (cfg : TimConfig) (now : Time) (i : ℕ) (job : DeviceJob)
    (kind : TwoPhase) (s : TimState) : TwoPhasePc → TimEvent → TwoPhasePc → TimState → Prop
  /-- The payment is held from here on. -/
  | begin (ev : TimEvent) (spec : TerminalSpec) (amount : ℤ) (stored : Option ℤ)
      (hspec : jobSpec cfg job = some spec) (hamount : amountMinor job = some amount) :
    TwoPhaseMove cfg now i job kind s .start ev
      (.waiting spec (purchaseRequest cfg job kind amount spec stored))
      ((s.withHolder job.id (some i)).withChannel i (some []))
  /-- There is no terminal. -/
  | refused (ev : TimEvent) (code text : String) :
    TwoPhaseMove cfg now i job kind s .start ev (.returned (.failed code text)) s
  /-- There is no library: nobody receives the settle requests. -/
  | unavailable (ev : TimEvent) (code text : String) :
    TwoPhaseMove cfg now i job kind s .start ev (.returned (.failed code text))
      (((s.withHolder job.id (some i)).withChannel i (some [])).closeChannel i)
  | locked (spec : TerminalSpec) (req : PurchaseRequest)
      (h : s.vol.sessions spec.ip = none) :
    TwoPhaseMove cfg now i job kind s (.waiting spec req) .go (.running spec req .start)
      (s.lock spec.ip (some i))
  | ran (spec : TerminalSpec) (req : PurchaseRequest) (pc pc' : PurchasePc) (ev : TimEvent)
      (input : PurchaseInput) (s₁ : TimState) (settles : Option DeviceJob)
      (acts : List PurchaseAct) (hinput : InputMove cfg now i job spec req s pc ev input s₁ settles)
      (hstep : req.step spec s.vol.instant pc input = some (pc', acts)) :
    TwoPhaseMove cfg now i job kind s (.running spec req pc) ev (.running spec req pc')
      (acts.foldl (applyAct spec.ip job.id settles) s₁)
  /-- `run_purchase` returns: the receiver and the session lock are dropped. -/
  | finished (spec : TerminalSpec) (req : PurchaseRequest) (pc : PurchasePc) (ev : TimEvent)
      (input : PurchaseInput) (s₁ : TimState) (settles : Option DeviceJob)
      (acts : List PurchaseAct) (e : PurchaseEnd)
      (hinput : InputMove cfg now i job spec req s pc ev input s₁ settles)
      (hstep : req.step spec s.vol.instant pc input = some (.ended e, acts)) :
    TwoPhaseMove cfg now i job kind s (.running spec req pc) ev (afterPurchase cfg e)
      (((acts.foldl (applyAct spec.ip job.id settles) s₁).closeChannel i).lock spec.ip none)
  /-- The end without an outcome is journaled, or not. -/
  | noted (why : String) (ev : TimEvent) (j : Journal)
      (hj : j = s.journal ∨ j = (s.journal.cardEnded now job.id).2) :
    TwoPhaseMove cfg now i job kind s (.ended why) ev (.returned (.indeterminate why))
      (s.withJournal j)

lemma TwoPhaseMove.of_begin {cfg : TimConfig} {now : Time} {i : ℕ} {job : DeviceJob}
    {kind : TwoPhase} {s s' : TimState} {pc' : TwoPhasePc} {ev : TimEvent}
    {stored : String → Option ℤ} (h : beginTwoPhase cfg i job kind stored s = (pc', s')) :
    TwoPhaseMove cfg now i job kind s .start ev pc' s' := by
  unfold beginTwoPhase at h
  split at h
  · rename_i spec amount hspec hamount
    simp only at h
    split at h
    · cases h
      exact .begin ev spec amount _ hspec hamount
    · cases h
      exact .unavailable ev _ _
  · cases h
    exact .refused ev _ _

lemma TwoPhaseMove.of_step {cfg : TimConfig} {now : Time} {i : ℕ} {job : DeviceJob}
    {kind : TwoPhase} {s s' : TimState} {pc pc' : TwoPhasePc} {ev : TimEvent}
    (h : twoPhaseStep cfg now i job kind s pc ev = some (pc', s')) :
    TwoPhaseMove cfg now i job kind s pc ev pc' s' := by
  unfold twoPhaseStep at h
  split at h
  · exact .of_begin (Option.some.inj h)
  · exact .of_begin (Option.some.inj h)
  · split at h
    · rename_i hfree
      cases h
      exact .locked _ _ hfree
    · cases h
  · unfold runPurchase at h
    rw [Option.bind_eq_some_iff] at h
    obtain ⟨⟨input, s₁, settles⟩, hinput, h⟩ := h
    simp only [Option.map_eq_some_iff] at h
    obtain ⟨⟨pc₁, acts⟩, hstep, h⟩ := h
    have hmove := InputMove.of_input hinput
    simp only at h
    split at h
    · cases h
      exact .finished _ _ _ _ input s₁ settles acts _ hmove hstep
    · cases h
      exact .ran _ _ _ _ _ input s₁ settles acts hmove hstep
  · cases h
    exact .noted _ _ _ (Or.inr rfl)
  · cases h
    exact .noted _ _ _ (Or.inl rfl)
  · cases h

lemma InputMove.marks {cfg : TimConfig} {now : Time} {i : ℕ} {job : DeviceJob}
    {spec : TerminalSpec} {req : PurchaseRequest} {s s' : TimState} {pc : PurchasePc}
    {ev : TimEvent} {input : PurchaseInput} {settles : Option DeviceJob}
    (h : InputMove cfg now i job spec req s pc ev input s' settles) :
    ExecutorMarks s.journal s'.journal := by
  cases h with
  | contacted tid base j hj => exact ExecutorMarks.cardContactOf hj
  | stored held j hj =>
    have hget : j = (s.journal.cardAuthorized now job.id (held.facts.transSeq.getD 0)
        (cardResult cfg.floatText "authorized" held.tid held.facts)).2 := by rw [hj]
    subst hget
    exact ExecutorMarks.of_get_eq rfl fun _ => rfl
  | received | answered | quiet => exact ExecutorMarks.refl _

lemma TwoPhaseMove.marks {cfg : TimConfig} {now : Time} {i : ℕ} {job : DeviceJob}
    {kind : TwoPhase} {s s' : TimState} {pc pc' : TwoPhasePc} {ev : TimEvent}
    (h : TwoPhaseMove cfg now i job kind s pc ev pc' s') :
    ExecutorMarks s.journal s'.journal := by
  cases h with
  | begin | refused | locked => exact ExecutorMarks.refl _
  | unavailable =>
    rw [(closeChannel_frame _ _).1]
    exact ExecutorMarks.refl _
  | ran spec req pc pc' ev input s₁ settles acts hinput _ =>
    rw [(applyActs_frame acts s₁).1]
    exact hinput.marks
  | finished spec req pc ev input s₁ settles acts e hinput _ =>
    change ExecutorMarks s.journal (((acts.foldl _ s₁).closeChannel i).journal)
    rw [(closeChannel_frame _ _).1, (applyActs_frame acts s₁).1]
    exact hinput.marks
  | noted why ev j hj =>
    rcases hj with rfl | rfl
    · exact ExecutorMarks.refl _
    · exact ExecutorMarks.of_get_eq rfl fun _ => rfl

/-! ### The executor -/

/-- What one step of a card call can do. -/
inductive TimMove (cfg : TimConfig) (now : Time) (i : ℕ) (s : TimState) :
    TimTask → TimEvent → TimTask → TimState → Prop
  | elapsed (t : TimTask) (ms : ℕ) : TimMove cfg now i s t (.elapse ms) t (s.elapse ms)
  | twoPhase (job : DeviceJob) (kind : TwoPhase) (pc pc' : TwoPhasePc) (ev : TimEvent)
      (s' : TimState) (h : TwoPhaseMove cfg now i job kind s pc ev pc' s') :
    TimMove cfg now i s (.twoPhase job kind pc) ev (.twoPhase job kind pc') s'
  | settle (job : DeviceJob) (op : SettleOp) (pc pc' : SettlePc) (ev : TimEvent)
      (s' : TimState) (h : SettleMove cfg i job op s pc ev pc' s') :
    TimMove cfg now i s (.settle job op pc) ev (.settle job op pc') s'
  | op (job : DeviceJob) (pc pc' : OpPc) (ev : TimEvent) (s' : TimState)
      (h : opTaskStep cfg now i job s pc ev = some (pc', s')) :
    TimMove cfg now i s (.op job pc) ev (.op job pc') s'
  | reconcile (entry : JournalEntry) (pc pc' : ReconcilePc) (ev : TimEvent) (s' : TimState)
      (h : reconcileStep cfg now i entry s pc ev = some (pc', s')) :
    TimMove cfg now i s (.reconcile entry pc) ev (.reconcile entry pc') s'
  | safety (pc pc' : SafetyPc) (ev : TimEvent) (s' : TimState)
      (h : safetyLoopStep cfg now i s pc ev = some (pc', s')) :
    TimMove cfg now i s (.safety pc) ev (.safety pc') s'

lemma TimMove.of_step {cfg : TimConfig} {now : Time} {i : ℕ} {ev : TimEvent} {t t' : TimTask}
    {s s' : TimState} (h : timStep cfg now i ev t s = some (t', s')) :
    TimMove cfg now i s t ev t' s' ∧ ev.fits = true := by
  unfold timStep at h
  split at h
  · cases h
  · rename_i hfits
    refine ⟨?_, by simpa using hfits⟩
    split at h
    · cases h
      exact .elapsed _ _
    · rw [Option.map_eq_some_iff] at h
      obtain ⟨⟨pc', s₁⟩, hstep, heq⟩ := h
      cases heq
      exact .twoPhase _ _ _ pc' _ _ (TwoPhaseMove.of_step hstep)
    · rw [Option.map_eq_some_iff] at h
      obtain ⟨⟨pc', s₁⟩, hstep, heq⟩ := h
      cases heq
      exact .settle _ _ _ pc' _ _ (SettleMove.of_step hstep)
    · rw [Option.map_eq_some_iff] at h
      obtain ⟨⟨pc', s₁⟩, hstep, heq⟩ := h
      cases heq
      exact .op _ _ pc' _ _ hstep
    · rw [Option.map_eq_some_iff] at h
      obtain ⟨⟨pc', s₁⟩, hstep, heq⟩ := h
      cases heq
      exact .reconcile _ _ pc' _ _ hstep
    · rw [Option.map_eq_some_iff] at h
      obtain ⟨⟨pc', s₁⟩, hstep, heq⟩ := h
      cases heq
      exact .safety _ pc' _ _ hstep

lemma TimMove.marks {cfg : TimConfig} {now : Time} {i : ℕ} {ev : TimEvent} {t t' : TimTask}
    {s s' : TimState} (h : TimMove cfg now i s t ev t' s') :
    ExecutorMarks s.journal s'.journal := by
  cases h with
  | elapsed => exact ExecutorMarks.refl _
  | twoPhase job kind pc pc' ev s' hmove => exact hmove.marks
  | settle job op pc pc' ev s' hmove =>
    rw [hmove.journal.1]
    exact ExecutorMarks.refl _
  | op job pc pc' ev s' hstep => exact (opTaskStep_aside hstep).marks
  | reconcile entry pc pc' ev s' hstep => exact (reconcileStep_aside hstep).marks
  | safety pc pc' ev s' hstep => exact (safetyLoopStep_aside hstep).marks

lemma endpoint_till (cfg : TimConfig) (a b : DeviceJob) (htype : a.jobType = b.jobType)
    (hkasa : a.kasaId = b.kasaId) : endpoint cfg a = endpoint cfg b := by
  rw [endpoint, endpoint, jobSpec, jobSpec, htype, hkasa]

end DevBridge.Tim

namespace DevBridge

/-- The TIM executor.  A held payment waits for its decision: its call may run longer than the
source's guard. -/
@[reducible] def tim (cfg : TimConfig) : Executor where
  Task := Tim.TimTask
  Dev := Tim.Terminals
  Vol := Tim.TimVol
  Event := Tim.TimEvent
  DevEvent := Empty
  dev₀ := ⟨[]⟩
  vol₀ := Tim.TimVol.init
  readFloat := cfg.readFloat
  drives kind := kind == .card
  check := Tim.checkCard cfg
  endpoint := Tim.endpoint cfg
  execute := Tim.executeCard
  reconcile entry := .reconcile entry .start
  background := [.safety .idle]
  step := Tim.timStep cfg
  devStep ev := nomatch ev
  outcome := Tim.TimTask.outcome
  answer := Tim.TimTask.answer
  mayOutlastGuard _ := true
  endpoint_till := Tim.endpoint_till cfg
  step_marks h := (Tim.TimMove.of_step h).1.marks

end DevBridge

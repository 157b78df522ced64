import DevBridge.Tim.Executor

/-!
# What a step of a session job does

The steps of a reversal, of a shift or balance job and of the safety balance inside their
sessions, each listed once with what it found in the journal and what it wrote there; then the
steps of a session, and those of the jobs, reconciles and ticks that run one.  Whatever its
errand, a step inside a session only writes the journal and may send one call.
-/

namespace DevBridge.Tim

/-- What one step of a reversal can do. -/
inductive ReversalMove (run : ReversalRun) (now : Time) (ip : String) (tid : Option String)
    (s : TimState) : ErrandPc → TimEvent → ErrandStep → Prop
  | asked : ReversalMove run now ip tid s .begin .go ⟨.inl .reading, s, some .lastTransaction⟩
  | read (a : CallAnswer) (base : Option ℤ) :
    ReversalMove run now ip tid s .reading (.answer a) ⟨.inl (.others base), s, none⟩
  /-- The journal has no other reversal of the payment that did not fail. -/
  | alone (base : Option ℤ) (h : s.journal.cardOtherReversal ip run.transSeq run.jobId = none) :
    ReversalMove run now ip tid s (.others base) .go ⟨.inl (.contact base), s, none⟩
  /-- The contact is journaled and the reversal sent. -/
  | sent (base : Option ℤ) (j : Journal)
      (h : s.journal.cardContactOf now run.jobId ip run.amountMinor base
        TRANSACTION_TYPE_REVERSAL (some run.transSeq) = some (true, j)) :
    ReversalMove run now ip tid s (.contact base) .go
      ⟨.inl .calling, s.withJournal j, some (.reversal run.transSeq)⟩
  /-- The terminal was asked before. -/
  | known (base : Option ℤ) :
    ReversalMove run now ip tid s (.contact base) .go
      ⟨.inr (.reversal (.unknown ALREADY_ASKED_REVERSAL_TEXT)), s, none⟩
  | answered (facts : TxFacts) :
    ReversalMove run now ip tid s .calling (.answer (.facts facts))
      ⟨.inr (.reversal (.done facts tid)), s, none⟩
  | failed (e : TimError) :
    ReversalMove run now ip tid s .calling (.answer (.failed e)) ⟨.inl (.closed e), s, none⟩
  /-- A closed period is proven by the journal only. -/
  | closed (e : TimError) (ev : TimEvent) (proven : Bool)
      (h : proven = true → s.journal.cardBalanceSincePayment ip run.transSeq = true) :
    ReversalMove run now ip tid s (.closed e) ev
      ⟨.inr (.reversal (failedReversal e proven)), s, none⟩
  /-- Nothing is sent. -/
  | refused (pc : ErrandPc) (ev : TimEvent) (code text : String) :
    ReversalMove run now ip tid s pc ev ⟨.inr (refusedReversal code text), s, none⟩

/-- What one step of a shift or balance job can do. -/
inductive OpMove (op : TerminalOp) (jobId : ℤ) (date : String) (now : Time) (ip : String)
    (s : TimState) : ErrandPc → TimEvent → ErrandStep → Prop
  /-- The contact of a balance is journaled. -/
  | contacted (j : Journal) (hop : op = .balance)
      (h : s.journal.markDeviceContact now jobId = (true, j)) :
    OpMove op jobId date now ip s .begin .go ⟨.inl .balanceRow, s.withJournal j, none⟩
  | called (j : Journal) (hop : op ≠ .balance)
      (h : s.journal.markDeviceContact now jobId = (true, j)) :
    OpMove op jobId date now ip s .begin .go ⟨.inl .calling, s.withJournal j, some op.call⟩
  /-- The row of a balance is journaled. -/
  | rowed :
    OpMove op jobId date now ip s .balanceRow .go
      ⟨.inl (.balancing (s.journal.cardBalanceContact now ip date .job (some jobId)).1),
        s.withJournal (s.journal.cardBalanceContact now ip date .job (some jobId)).2,
        some .balance⟩
  | finished (pc : ErrandPc) (ev : TimEvent) (row : Option ℤ) (outcome : Outcome)
      (hrow : row = none ∨ pc = .balancing row) :
    OpMove op jobId date now ip s pc ev ⟨.inr (.op row outcome), s, none⟩

/-- What one step of a safety balance can do. -/
inductive SafetyMove (date : String) (midnight : ℕ) (now : Time) (ip : String) (s : TimState) :
    ErrandPc → TimEvent → ErrandStep → Prop
  /-- The day is not over, and the terminal needs a balance. -/
  | due (hday : s.vol.instant < midnight) (h : s.journal.cardBalanceRan ip date = false) :
    SafetyMove date midnight now ip s .begin .go ⟨.inl .balanceRow, s, none⟩
  /-- The row is journaled and the balance sent. -/
  | sent (row : ℤ) (j : Journal)
      (h : s.journal.cardBalanceContact now ip date .safety none = (some row, j)) :
    SafetyMove date midnight now ip s .balanceRow .go
      ⟨.inl (.balancing (some row)), s.withJournal j, some .balance⟩
  | answered (row : ℤ) (a : CallAnswer) (r : Except TimError Json)
      (h : ∀ e, r = .error e → a = .failed e) :
    SafetyMove date midnight now ip s (.balancing (some row)) (.answer a)
      ⟨safetyAnswer row r, s, none⟩
  /-- The terminal refused it: the row is dropped. -/
  | forgotten (row : ℤ) (outcome : Outcome) :
    SafetyMove date midnight now ip s (.forget row outcome) .go
      ⟨.inr (.safety (.notSent outcome)), s.withJournal (s.journal.cardBalanceForget row).2, none⟩
  /-- Nothing is sent any more. -/
  | finished (pc : ErrandPc) (ev : TimEvent) (e : SafetyEnd)
      (h : ∀ row outcome, e ≠ .sent row outcome) :
    SafetyMove date midnight now ip s pc ev ⟨.inr (.safety e), s, none⟩

/-- An answer that is an error is the terminal's own. -/
lemma failed_of_result {floatText : ℚ → String} {tid : Option String} {op : TerminalOp}
    {a : CallAnswer} {e : TimError} (h : op.result floatText tid a = some (.error e)) :
    a = .failed e := by
  unfold TerminalOp.result at h
  split at h <;> cases h
  rfl

section Steps

variable {cfg : TimConfig} {now : Time} {ip : String} {tid : Option String} {s : TimState}
  {pc : ErrandPc} {ev : TimEvent} {r : ErrandStep}

lemma ReversalMove.of_step {run : ReversalRun}
    (h : reversalStep run now ip tid s pc ev = some r) : ReversalMove run now ip tid s pc ev r := by
  unfold reversalStep at h
  split at h
  · split at h
    · split at h
      · cases h
        exact .asked
      · cases h
        exact .refused _ _ _ _
    · cases h
      exact .asked
  · cases h
    exact .read _ _
  · cases h
    exact .read _ _
  · split at h
    · rename_i hnone
      cases h
      exact .alone _ hnone
    · cases h
      exact .refused _ _ _ _
    · cases h
      exact .refused _ _ _ _
  · cases h
    exact .refused _ _ _ _
  · split at h
    · rename_i j hj
      cases h
      exact .sent _ j hj
    · cases h
      exact .known _
    · cases h
      exact .refused _ _ _ _
  · cases h
    exact .refused _ _ _ _
  · cases h
    exact .answered _
  · cases h
    exact .failed _
  · cases h
    exact .closed _ _ _ id
  · cases h
    exact .closed _ _ false (by rintro ⟨⟩)
  · cases h

lemma OpMove.of_step {op : TerminalOp} {jobId : ℤ} {date : String}
    (h : opStep cfg op jobId date now ip tid s pc ev = some r) :
    OpMove op jobId date now ip s pc ev r := by
  unfold opStep at h
  split at h
  · split at h
    · rename_i j hj
      split at h
      · cases h
        exact .contacted j rfl hj
      · rename_i hop
        cases h
        exact .called j hop hj
    · cases h
      exact .finished _ _ none _ (Or.inl rfl)
  · cases h
    exact .finished _ _ none _ (Or.inl rfl)
  · cases h
    exact .rowed
  · cases h
    exact .finished _ _ none _ (Or.inl rfl)
  · rw [Option.bind_eq_some_iff] at h
    obtain ⟨_, -, h⟩ := h
    cases h
    exact .finished _ _ _ _ (Or.inr rfl)
  · rw [Option.bind_eq_some_iff] at h
    obtain ⟨_, -, h⟩ := h
    cases h
    exact .finished _ _ none _ (Or.inl rfl)
  · cases h

lemma SafetyMove.of_step {date : String} {midnight : ℕ}
    (h : safetyStep cfg date midnight now ip tid s pc ev = some r) :
    SafetyMove date midnight now ip s pc ev r := by
  unfold safetyStep at h
  split at h
  · split at h
    · cases h
      exact .finished _ _ _ (by rintro _ _ ⟨⟩)
    · rename_i hday
      split at h
      · cases h
        exact .finished _ _ _ (by rintro _ _ ⟨⟩)
      · rename_i hran
        cases h
        exact .due (not_le.mp hday) (by simpa using hran)
  · split at h
    · cases h
    · cases h
      exact .finished _ _ _ (by rintro _ _ ⟨⟩)
  · split at h
    · rename_i row j hj
      cases h
      exact .sent row j hj
    · cases h
      exact .finished _ _ _ (by rintro _ _ ⟨⟩)
  · cases h
    exact .finished _ _ _ (by rintro _ _ ⟨⟩)
  · rw [Option.map_eq_some_iff] at h
    obtain ⟨r₁, hr₁, rfl⟩ := h
    exact .answered _ _ r₁ fun e he => failed_of_result (he ▸ hr₁)
  · cases h
    exact .forgotten _ _
  · cases h
    exact .finished _ _ _ (by rintro _ _ ⟨⟩)
  · cases h

/-- A step of an errand only writes the journal. -/
lemma errandStep_writes {x : Errand} (h : x.step cfg now ip tid s pc ev = some r) :
    ∃ j, r.state = s.withJournal j := by
  cases x with
  | readLast =>
    simp only [Errand.step] at h
    split at h <;> cases h <;> exact ⟨s.journal, rfl⟩
  | reversal run => cases ReversalMove.of_step h <;> exact ⟨_, rfl⟩
  | op o jobId date => cases OpMove.of_step h <;> exact ⟨_, rfl⟩
  | rerun o =>
    simp only [Errand.step] at h
    split at h
    · cases h
      exact ⟨s.journal, rfl⟩
    · rw [Option.bind_eq_some_iff] at h
      obtain ⟨_, -, h⟩ := h
      cases h
      exact ⟨s.journal, rfl⟩
    · cases h
  | copy jobId transSeq =>
    simp only [Errand.step, copyStep] at h
    split at h
    · cases h
      exact ⟨_, rfl⟩
    · cases h
      exact ⟨s.journal, rfl⟩
    · cases h
      exact ⟨s.journal, rfl⟩
    · split at h <;> cases h <;> exact ⟨s.journal, rfl⟩
    · cases h
      exact ⟨s.journal, rfl⟩
    · cases h
      exact ⟨s.journal, rfl⟩
    · cases h
  | safety date midnight => cases SafetyMove.of_step h <;> exact ⟨_, rfl⟩

end Steps

/-! ### Sessions -/

/-- The calls that open and close a session. -/
def TerminalCall.ofSession : TerminalCall → Bool
  | create | connect | login | terminalId | logout | disconnect => true
  | _ => false

/-- The call that was sent, if it was. -/
def TerminalEvent.asked : TerminalEvent → Option TerminalCall
  | sent _ _ call _ => some call
  | answered _ _ _ _ => none

/-- What an errand gave, once it is over. -/
def SessionPc.result : SessionPc → Option (Except SessionFail ErrandEnd)
  | loggingOut r | disconnecting r | ended r => some r
  | _ => none

/-- Whatever is asked of a terminal is of one kind. -/
def AsksOnly (P : TerminalCall → Prop) (s s' : TimState) : Prop :=
  ∃ new, s'.dev.log = new ++ s.dev.log ∧ ∀ m ∈ new, ∀ call, m.asked = some call → P call

namespace AsksOnly

variable {P Q : TerminalCall → Prop} {s s₁ s₂ : TimState}

lemma of_dev (h : s₁.dev = s.dev) : AsksOnly P s s₁ := ⟨[], by rw [h]; rfl, by simp⟩

lemma mono (h : AsksOnly P s s₁) (hPQ : ∀ call, P call → Q call) : AsksOnly Q s s₁ := by
  obtain ⟨new, hlog, hnew⟩ := h
  exact ⟨new, hlog, fun m hm call hcall => hPQ call (hnew m hm call hcall)⟩

lemma trans (h : AsksOnly P s s₁) (h' : AsksOnly P s₁ s₂) : AsksOnly P s s₂ := by
  obtain ⟨new, hlog, hnew⟩ := h
  obtain ⟨new', hlog', hnew'⟩ := h'
  refine ⟨new' ++ new, by rw [hlog', hlog, List.append_assoc], fun m hm => ?_⟩
  rcases List.mem_append.mp hm with hm | hm
  · exact hnew' m hm
  · exact hnew m hm

lemma send (h : AsksOnly P s s₁) (ip : String) (jobId : Option ℤ) {call : TerminalCall}
    (hcall : P call) (settles : Option DeviceJob) :
    AsksOnly P s (s₁.send ip jobId call settles) := by
  refine h.trans ⟨[.sent ip jobId call settles], rfl, ?_⟩
  rintro m hm call' hcall'
  rw [List.mem_singleton.mp hm] at hcall'
  cases hcall'
  exact hcall

lemma heard (h : AsksOnly P s s₁) (ip : String) (jobId : Option ℤ) (call : TerminalCall)
    (a : CallAnswer) : AsksOnly P s (s₁.heard ip jobId call a) := by
  refine h.trans ⟨[.answered ip jobId call a], rfl, ?_⟩
  rintro m hm call' hcall'
  rw [List.mem_singleton.mp hm] at hcall'
  cases hcall'

end AsksOnly

/-- Only calls that open or close a session are sent. -/
abbrev AsksNothing : TimState → TimState → Prop := AsksOnly fun call => call.ofSession = true

/-- What one step of a session can do. -/
inductive SessionMove (cfg : TimConfig) (now : Time) (jobId : Option ℤ) (x : Session)
    (s : TimState) : TimEvent → Session → TimState → Prop
  /-- The session goes on around its errand. -/
  | around (ev : TimEvent) (pc : SessionPc) (s' : TimState) (hj : s'.journal = s.journal)
      (hasks : AsksNothing s s') (hbegin : ∀ tid p, pc = .working tid p → p = .begin)
      (hresult : ∀ e, pc.result = some (.ok e) → x.pc.result = some (.ok e)) :
    SessionMove cfg now jobId x s ev { x with pc } s'
  /-- The errand takes a step. -/
  | worked (ev : TimEvent) (tid : Option String) (pc : ErrandPc) (r : ErrandStep)
      (hpc : x.pc = .working tid pc)
      (h : x.errand.step cfg now x.spec.ip tid (x.listen jobId ev s) pc ev = some r) :
    SessionMove cfg now jobId x s ev (x.worked jobId tid r).1 (x.worked jobId tid r).2

namespace Session

variable {cfg : TimConfig} {now : Time} {i : ℕ} {jobId : Option ℤ} {x x' : Session}
  {ev : TimEvent} {s s' : TimState}

lemma listen_frame (x : Session) (jobId : Option ℤ) (ev : TimEvent) (s : TimState) :
    (x.listen jobId ev s).journal = s.journal ∧ (x.listen jobId ev s).vol = s.vol ∧
      AsksNothing s (x.listen jobId ev s) := by
  unfold listen
  split
  · exact ⟨rfl, rfl, (AsksOnly.of_dev rfl).heard _ _ _ _⟩
  · exact ⟨rfl, rfl, AsksOnly.of_dev rfl⟩

end Session

lemma SessionMove.of_step {cfg : TimConfig} {now : Time} {i : ℕ} {jobId : Option ℤ}
    {x x' : Session} {ev : TimEvent} {s s' : TimState}
    (h : x.step cfg now i jobId ev s = some (x', s')) : SessionMove cfg now jobId x s ev x' s' := by
  obtain ⟨spec, errand, pc⟩ := x
  obtain ⟨hj, -, hasks⟩ := Session.listen_frame ⟨spec, errand, pc⟩ jobId ev s
  unfold Session.step at h
  simp only at h
  split at h
  · split at h
    · cases h
      have hlock : AsksNothing s (s.lock spec.ip (some i)) := .of_dev rfl
      exact .around _ _ _ rfl (hlock.send _ _ rfl _) (by rintro _ _ ⟨⟩) (by rintro _ ⟨⟩)
    · cases h
  · cases h
    exact .around _ _ _ hj hasks (by rintro _ _ ⟨⟩) (by rintro _ ⟨⟩)
  · cases h
    exact .around _ _ _ hj (hasks.send _ _ rfl _) (by rintro _ _ ⟨⟩) (by rintro _ ⟨⟩)
  · cases h
    exact .around _ _ _ hj hasks (by rintro _ _ ⟨⟩) (by rintro _ ⟨⟩)
  · cases h
    exact .around _ _ _ hj (hasks.send _ _ rfl _) (by rintro _ _ ⟨⟩) (by rintro _ ⟨⟩)
  · cases h
    exact .around _ _ _ hj (hasks.send _ _ rfl _) (by rintro _ _ ⟨⟩) (by rintro _ ⟨⟩)
  · cases h
    exact .around _ _ _ hj (hasks.send _ _ rfl _) (by rintro _ _ ⟨⟩) (by rintro _ ⟨⟩)
  · cases h
    exact .around _ _ _ hj (hasks.send _ _ rfl _) (by rintro _ _ ⟨⟩) (by rintro _ ⟨⟩)
  · simp only [Option.some.injEq, Session.identified] at h
    split at h
    · split at h
      · cases h
        exact .around _ _ _ hj hasks (by rintro _ _ ⟨⟩; rfl) (by rintro _ ⟨⟩)
      · cases h
        exact .around _ _ _ hj (hasks.send _ _ rfl _) (by rintro _ _ ⟨⟩) (by rintro _ ⟨⟩)
    · cases h
      exact .around _ _ _ hj hasks (by rintro _ _ ⟨⟩; rfl) (by rintro _ ⟨⟩)
  · rename_i tid pc
    rw [Option.map_eq_some_iff] at h
    obtain ⟨r, hr, heq⟩ := h
    obtain rfl : (Session.worked _ jobId tid r).1 = x' := congrArg Prod.fst heq
    obtain rfl : (Session.worked _ jobId tid r).2 = s' := congrArg Prod.snd heq
    exact .worked _ tid pc r rfl hr
  · cases h
    exact .around _ _ _ hj (hasks.send _ _ rfl _) (by rintro _ _ ⟨⟩) fun _ h => h
  · cases h
    exact .around _ _ _ hj (hasks.send _ _ rfl _) (by rintro _ _ ⟨⟩) fun _ h => h
  · cases h
    exact .around _ _ _ hj hasks (by rintro _ _ ⟨⟩) fun _ h => h
  · cases h
    exact .around _ _ _ hj hasks (by rintro _ _ ⟨⟩) fun _ h => h
  · cases h

/-- What an errand may ask of its terminal. -/
def Errand.MayAsk (x : Errand) (call : TerminalCall) : Prop :=
  call = .lastTransaction ∨ call = x.call ∨ (call = .balance ∧ ∃ o id date, x = .op o id date)

lemma errandStep_mayAsk {cfg : TimConfig} {now : Time} {ip : String} {tid : Option String}
    {s : TimState} {pc : ErrandPc} {ev : TimEvent} {r : ErrandStep} {x : Errand}
    (h : x.step cfg now ip tid s pc ev = some r) {call : TerminalCall}
    (hcall : r.call = some call) : x.MayAsk call := by
  cases x with
  | readLast =>
    simp only [Errand.step] at h
    split at h <;> cases h <;> cases hcall
    exact Or.inl rfl
  | reversal run =>
    cases ReversalMove.of_step h with
    | asked =>
      cases hcall
      exact Or.inl rfl
    | sent base j =>
      cases hcall
      exact Or.inr (Or.inl rfl)
    | read | alone | known | answered | failed | closed | refused => cases hcall
  | op o jobId date =>
    cases OpMove.of_step h with
    | called j hop =>
      cases hcall
      exact Or.inr (Or.inl rfl)
    | rowed =>
      cases hcall
      exact Or.inr (Or.inr ⟨rfl, _, _, _, rfl⟩)
    | contacted | finished => cases hcall
  | rerun o =>
    simp only [Errand.step] at h
    split at h
    · cases h
      cases hcall
      exact Or.inr (Or.inl rfl)
    · rw [Option.bind_eq_some_iff] at h
      obtain ⟨_, -, h⟩ := h
      cases h
      cases hcall
    · cases h
  | copy jobId transSeq =>
    simp only [Errand.step, copyStep] at h
    split at h
    · cases h
      cases hcall
      exact Or.inl rfl
    · cases h
      cases hcall
    · cases h
      cases hcall
    · split at h
      · cases h
        cases hcall
        exact Or.inr (Or.inl rfl)
      · cases h
        cases hcall
    · cases h
      cases hcall
    · cases h
      cases hcall
    · cases h
  | safety date midnight =>
    cases SafetyMove.of_step h with
    | sent row j =>
      cases hcall
      exact Or.inr (Or.inl rfl)
    | due | answered | forgotten | finished => cases hcall

/-- A session asks its errand's questions, next to its own calls. -/
lemma SessionMove.asks {cfg : TimConfig} {now : Time} {jobId : Option ℤ} {x x' : Session}
    {ev : TimEvent} {s s' : TimState} (h : SessionMove cfg now jobId x s ev x' s') :
    AsksOnly (fun call => call.ofSession = true ∨ x.errand.MayAsk call) s s' := by
  cases h with
  | around pc _ hj hasks => exact hasks.mono fun _ => Or.inl
  | worked tid pc r hpc hr =>
    obtain ⟨-, -, hlisten⟩ := x.listen_frame jobId ev s
    have hstate :
        AsksOnly (fun call => call.ofSession = true ∨ x.errand.MayAsk call) s r.state := by
      obtain ⟨j, hj⟩ := errandStep_writes hr
      rw [hj]
      exact (hlisten.mono fun _ => Or.inl).trans (.of_dev rfl)
    unfold Session.worked
    split
    · rename_i call _ hcall
      exact hstate.send _ _ (Or.inr (errandStep_mayAsk hr hcall)) _
    · exact hstate
    · exact hstate.send _ _ (Or.inl rfl) _

/-! ### The jobs of one session -/

/-- What one step of `reversal`, `terminal_op` or `print_copy` can do. -/
inductive OpTaskMove (cfg : TimConfig) (now : Time) (i : ℕ) (job : DeviceJob) (s : TimState) :
    OpPc → TimEvent → OpPc → TimState → Prop
  | begin (ev : TimEvent) (stored : String → Option ℤ) :
    OpTaskMove cfg now i job s .start ev (beginOp cfg now job stored) s
  /-- The payment of a receipt copy is looked up. -/
  | found (spec : TerminalSpec) (target : ℤ) (entry : JournalEntry) :
    OpTaskMove cfg now i job s (.copyRow spec target) .go (.copyCard spec target entry) s
  | copied (ev : TimEvent) (spec : TerminalSpec) (target : ℤ) (entry : JournalEntry)
      (card : Option CardPayment) :
    OpTaskMove cfg now i job s (.copyCard spec target entry) ev
      (copyCard cfg job spec target entry card) s
  | session (x x' : Session) (ev : TimEvent) (s' : TimState)
      (h : x.step cfg now i (some job.id) ev s = some (x', s')) :
    OpTaskMove cfg now i job s (.session x) ev (.session x') s'
  | finished (x : Session) (r : Except SessionFail ErrandEnd) (hr : x.pc = .ended r) :
    OpTaskMove cfg now i job s (.session x) .go (afterSession job x.errand r) s
  /-- The `trans_seq` of a reversal is journaled, or not. -/
  | transacted (facts : TxFacts) (tid : Option String) (ev : TimEvent) (j : Journal)
      (result : Json)
      (hj : j = s.journal ∨ ∃ seq, j = (s.journal.cardTransacted job.id seq).2) :
    OpTaskMove cfg now i job s (.transacted facts tid) ev (.returned (.done result))
      (s.withJournal j)
  | noted (why : String) (ev : TimEvent) (j : Journal)
      (hj : j = s.journal ∨ j = (s.journal.cardEnded now job.id).2) :
    OpTaskMove cfg now i job s (.ended why) ev (.returned (.indeterminate why)) (s.withJournal j)
  /-- The outcome of a balance is journaled, or not. -/
  | recorded (row : Option ℤ) (outcome : Outcome) (ev : TimEvent) (j : Journal)
      (hj : j = s.journal ∨ j = journalBalance s.journal row outcome) :
    OpTaskMove cfg now i job s (.recording row outcome) ev (.returned outcome) (s.withJournal j)
  /-- A copy is printed. -/
  | printed (target transSeq : ℤ) (receipts : Receipts) (ev : TimEvent) (outcome : Outcome) :
    OpTaskMove cfg now i job s (.printing target transSeq receipts) ev (.returned outcome) s
  /-- A copy is refused. -/
  | refused (spec : TerminalSpec) (target : ℤ) (ev : TimEvent) (outcome : Outcome)
      (h : ∀ result, outcome ≠ .done result) :
    OpTaskMove cfg now i job s (.copyRow spec target) ev (.returned outcome) s

lemma copyRow_error {job : DeviceJob} {target : ℤ} {row : Option JournalEntry}
    {outcome : Outcome} (h : copyRow job target row = .error outcome) :
    ∀ result, outcome ≠ .done result := by
  unfold copyRow at h
  split at h
  · cases h
    rintro _ ⟨⟩
  · split at h
    · cases h
    · cases h
      rintro _ ⟨⟩

lemma OpTaskMove.of_step {cfg : TimConfig} {now : Time} {i : ℕ} {job : DeviceJob}
    {s s' : TimState} {pc pc' : OpPc} {ev : TimEvent}
    (h : opTaskStep cfg now i job s pc ev = some (pc', s')) :
    OpTaskMove cfg now i job s pc ev pc' s' := by
  unfold opTaskStep at h
  split at h
  · cases h
    exact .begin _ _
  · cases h
    exact .begin _ _
  · split at h
    · cases h
      exact .found _ _ _
    · rename_i refusal hrefusal
      cases h
      exact .refused _ _ _ _ (copyRow_error hrefusal)
  · cases h
    exact .refused _ _ _ _ (by rintro _ ⟨⟩)
  · cases h
    exact .copied _ _ _ _ _
  · cases h
    exact .copied _ _ _ _ _
  · cases h
    exact .finished _ _ rfl
  · rw [Option.map_eq_some_iff] at h
    obtain ⟨⟨x', s₁⟩, hstep, heq⟩ := h
    cases heq
    exact .session _ _ _ _ hstep
  · rename_i facts tid
    cases h
    refine .transacted facts tid _ _ _ ?_
    cases facts.transSeq with
    | none => exact Or.inl rfl
    | some seq => exact Or.inr ⟨seq, rfl⟩
  · cases h
    exact .transacted _ _ _ _ _ (Or.inl rfl)
  · cases h
    exact .noted _ _ _ (Or.inr rfl)
  · cases h
    exact .noted _ _ _ (Or.inl rfl)
  · cases h
    exact .recorded _ _ _ _ (Or.inr rfl)
  · cases h
    exact .recorded _ _ _ _ (Or.inl rfl)
  · cases h
    exact .printed _ _ _ _ _
  · cases h
    exact .printed _ _ _ _ _
  · cases h

/-! ### Reconciles and the safety balance -/

/-- What one step of `reconcile_card` can do. -/
inductive ReconcileMove (cfg : TimConfig) (now : Time) (i : ℕ) (entry : JournalEntry)
    (s : TimState) : ReconcilePc → TimEvent → ReconcilePc → TimState → Prop
  | begin : ReconcileMove cfg now i entry s .start .go (beginReconcile entry) s
  /-- The journal gives the answer. -/
  | told (pc : ReconcilePc) (ev : TimEvent) (a : Reconciliation)
      (hpc : pc = .card ∨ (∃ op target, pc = .settleRow op target) ∨
        ∃ op target row, pc = .settleCard op target row) :
    ReconcileMove cfg now i entry s pc ev (.answered a) s
  | found (card : CardPayment) : ReconcileMove cfg now i entry s .card .go (.asking card) s
  | asked (card : CardPayment) (started : Time) :
    ReconcileMove cfg now i entry s (.asking card) (.asks started)
      (mayAsk cfg now started entry.job card) s
  | reading (card : CardPayment) (x x' : Session) (ev : TimEvent) (s' : TimState)
      (h : x.step cfg now i (some entry.job.id) ev s = some (x', s')) :
    ReconcileMove cfg now i entry s (.reading card x) ev (.reading card x') s'
  | read (card : CardPayment) (x : Session) (r : Except SessionFail ErrandEnd)
      (hr : x.pc = .ended r) :
    ReconcileMove cfg now i entry s (.reading card x) .go (afterReading card r) s
  | judged (card : CardPayment) (tid : Option String) (last : LastTransaction) (ev : TimEvent)
      (later : Bool) :
    ReconcileMove cfg now i entry s (.judging card tid last) ev (judge card tid last later) s
  /-- The `trans_seq` of a transaction is journaled, or not. -/
  | charged (card : CardPayment) (tid : Option String) (facts : TxFacts) (ev : TimEvent)
      (a : Reconciliation) (j : Journal)
      (hj : j = s.journal ∨ ∃ seq, j = (s.journal.cardTransacted entry.job.id seq).2) :
    ReconcileMove cfg now i entry s (.charged card tid facts) ev (.answered a) (s.withJournal j)
  | person (why : String) (ev : TimEvent) (a : Reconciliation) (j : Journal)
      (hj : j = s.journal ∨ j = (s.journal.cardForPerson entry.job.id why).2) :
    ReconcileMove cfg now i entry s (.person why) ev (.answered a) (s.withJournal j)
  | settled (op : SettleOp) (target : ℤ) (row : JournalEntry) :
    ReconcileMove cfg now i entry s (.settleRow op target) .go (.settleCard op target row) s
  | shift (op : TerminalOp) (ev : TimEvent) (later : Bool) :
    ReconcileMove cfg now i entry s (.shift op) ev (shiftAgain cfg entry.job op later) s
  | running (x x' : Session) (ev : TimEvent) (s' : TimState)
      (h : x.step cfg now i (some entry.job.id) ev s = some (x', s')) :
    ReconcileMove cfg now i entry s (.running x) ev (.running x') s'
  | reran (x : Session) (r : Except SessionFail ErrandEnd) (hr : x.pc = .ended r) :
    ReconcileMove cfg now i entry s (.running x) .go (afterRerun r) s

lemma ReconcileMove.of_step {cfg : TimConfig} {now : Time} {i : ℕ} {entry : JournalEntry}
    {s s' : TimState} {pc pc' : ReconcilePc} {ev : TimEvent}
    (h : reconcileStep cfg now i entry s pc ev = some (pc', s')) :
    ReconcileMove cfg now i entry s pc ev pc' s' := by
  unfold reconcileStep at h
  split at h
  · cases h
    exact .begin
  · split at h
    · cases h
      exact .told _ _ _ (Or.inl rfl)
    · split at h <;> cases h
      · exact .told _ _ _ (Or.inl rfl)
      · exact .found _
  · cases h
    exact .told _ _ _ (Or.inl rfl)
  · cases h
    exact .asked _ _
  · cases h
    exact .read _ _ _ rfl
  · rw [Option.map_eq_some_iff] at h
    obtain ⟨⟨x', s₁⟩, hstep, heq⟩ := h
    cases heq
    exact .reading _ _ _ _ _ hstep
  · cases h
    exact .judged _ _ _ _ _
  · cases h
    exact .judged _ _ _ _ _
  · rename_i card tid facts
    cases h
    refine .charged card tid facts _ _ _ ?_
    cases facts.transSeq with
    | none => exact Or.inl rfl
    | some seq => exact Or.inr ⟨seq, rfl⟩
  · cases h
    exact .charged _ _ _ _ _ _ (Or.inl rfl)
  · cases h
    exact .person _ _ _ _ (Or.inr rfl)
  · cases h
    exact .person _ _ _ _ (Or.inl rfl)
  · split at h <;> cases h
    · exact .settled _ _ _
    · exact .told _ _ _ (Or.inr (Or.inl ⟨_, _, rfl⟩))
  · cases h
    exact .told _ _ _ (Or.inr (Or.inl ⟨_, _, rfl⟩))
  · cases h
    exact .told _ _ _ (Or.inr (Or.inr ⟨_, _, _, rfl⟩))
  · cases h
    exact .told _ _ _ (Or.inr (Or.inr ⟨_, _, _, rfl⟩))
  · cases h
    exact .shift _ _ _
  · cases h
    exact .shift _ _ _
  · cases h
    exact .reran _ _ rfl
  · rw [Option.map_eq_some_iff] at h
    obtain ⟨⟨x', s₁⟩, hstep, heq⟩ := h
    cases heq
    exact .running _ _ _ _ hstep
  · cases h

/-- What one step of `safety_loop` can do. -/
inductive SafetyLoopMove (cfg : TimConfig) (now : Time) (i : ℕ) (s : TimState) :
    SafetyPc → TimEvent → SafetyPc → TimState → Prop
  | slept (pc : SafetyPc) (ev : TimEvent)
      (hpc : pc = .idle ∨ ∃ date midnight, pc = .day [] date midnight) :
    SafetyLoopMove cfg now i s pc ev .idle s
  | woke (date : String) (midnight : ℕ) :
    SafetyLoopMove cfg now i s .idle .go (.day cfg.terminals date midnight) s
  /-- The terminal needs no balance, or the journal does not tell. -/
  | skipped (spec : TerminalSpec) (rest : List TerminalSpec) (date : String) (midnight : ℕ)
      (ev : TimEvent) :
    SafetyLoopMove cfg now i s (.day (spec :: rest) date midnight) ev (.day rest date midnight) s
  | began (spec : TerminalSpec) (rest : List TerminalSpec) (date : String) (midnight : ℕ)
      (h : s.journal.cardBalanceRan spec.ip date = false) :
    SafetyLoopMove cfg now i s (.day (spec :: rest) date midnight) .go
      (.session ⟨spec, .safety date midnight, .waiting⟩ rest date midnight) s
  | session (x x' : Session) (rest : List TerminalSpec) (date : String) (midnight : ℕ)
      (ev : TimEvent) (s' : TimState) (h : x.step cfg now i none ev s = some (x', s')) :
    SafetyLoopMove cfg now i s (.session x rest date midnight) ev
      (.session x' rest date midnight) s'
  | finished (x : Session) (r : Except SessionFail ErrandEnd) (rest : List TerminalSpec)
      (date : String) (midnight : ℕ) (hr : x.pc = .ended r) :
    SafetyLoopMove cfg now i s (.session x rest date midnight) .go
      (afterSafety rest date midnight r) s
  /-- The outcome of the balance is journaled, or not. -/
  | recorded (row : ℤ) (outcome : Outcome) (rest : List TerminalSpec) (date : String)
      (midnight : ℕ) (ev : TimEvent) (j : Journal)
      (hj : j = s.journal ∨ j = journalBalance s.journal (some row) outcome) :
    SafetyLoopMove cfg now i s (.recording row outcome rest date midnight) ev
      (.day rest date midnight) (s.withJournal j)

lemma SafetyLoopMove.of_step {cfg : TimConfig} {now : Time} {i : ℕ} {s s' : TimState}
    {pc pc' : SafetyPc} {ev : TimEvent} (h : safetyLoopStep cfg now i s pc ev = some (pc', s')) :
    SafetyLoopMove cfg now i s pc ev pc' s' := by
  unfold safetyLoopStep at h
  split at h
  · simp only at h
    split at h <;> cases h
    · exact .woke _ _
    · exact .slept _ _ (Or.inl rfl)
  · cases h
    exact .slept _ _ (Or.inr ⟨_, _, rfl⟩)
  · split at h
    · cases h
      exact .skipped _ _ _ _ _
    · rename_i hran
      cases h
      exact .began _ _ _ _ (by simpa using hran)
  · cases h
    exact .skipped _ _ _ _ _
  · cases h
    exact .finished _ _ _ _ _ rfl
  · rw [Option.map_eq_some_iff] at h
    obtain ⟨⟨x', s₁⟩, hstep, heq⟩ := h
    cases heq
    exact .session _ _ _ _ _ _ _ hstep
  · cases h
    exact .recorded _ _ _ _ _ _ _ (Or.inr rfl)
  · cases h
    exact .recorded _ _ _ _ _ _ _ (Or.inl rfl)
  · cases h

end DevBridge.Tim

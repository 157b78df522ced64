import DevBridge.Portos.Failed
import DevBridge.Tim.Balances

/-!
# One safety balance a day

The bridge closes the day of each terminal late in the evening, unless the day is closed already.
The row of the balance is journaled inside the session before the balance is sent, and a second
row of one terminal and day does not fit into the table: so whatever the crashes and the restarts,
the terminal gets one safety balance a day, and none after the day was closed.
-/

namespace DevBridge

namespace Journal

/-- A safety balance of a terminal and a day is journaled. -/
def SafetyRow (j : Journal) (ip date : String) : Prop :=
  ∃ k b, j.balance k = some b ∧ b.safetyKey = some (ip, date)

/-- A day closing of a terminal and a day is journaled as `done`. -/
def DoneRow (j : Journal) (ip date : String) : Prop :=
  ∃ k b, j.balance k = some b ∧ b.terminalIp = ip ∧ b.localDate = date ∧
    b.outcome = some "done"

lemma key_of_safetyKey {b : CardBalance} {ip date : String}
    (h : b.safetyKey = some (ip, date)) : b.terminalIp = ip ∧ b.localDate = date := by
  unfold CardBalance.safetyKey at h
  split at h
  · cases h
    exact ⟨rfl, rfl⟩
  · cases h

/-- No two rows are of the safety balance of one terminal and day. -/
lemma safetyRow_unique {j : Journal} {k k' : ℤ} {b b' : CardBalance} {ip date : String}
    (hb : j.balance k = some b) (hb' : j.balance k' = some b')
    (hkey : b.safetyKey = some (ip, date)) (hkey' : b'.safetyKey = some (ip, date)) : k = k' :=
  j.cardBalances.unique k b k' b' (ip, date) hb hb' hkey hkey'

lemma cardBalanceRan_of_done {j : Journal} {ip date : String} (h : j.DoneRow ip date) :
    j.cardBalanceRan ip date = true := by
  obtain ⟨k, b, hb, hip, hdate, hdone⟩ := h
  exact Table.exists?_iff.mpr ⟨k, b, hb, by simp [hip, hdate, hdone]⟩

/-- The rows that a start keeps. -/
lemma balance_prune {j : Journal} {now now' : Time} {n : ℕ} {k : ℤ} {b : CardBalance}
    (hb : j.balance k = some b) (hyoung : ¬ b.contactAt < pruneCutoff now) :
    ((j.recoverAfterRestart now').prune now n).balance k = some b := by
  have hkeep : ∀ j : Journal, j.balance k = some b →
      ∀ statement ∈ pruneStatements now, (statement j).balance k = some b := by
    intro j hj statement hmem
    simp only [pruneStatements, List.mem_cons, List.not_mem_nil, or_false] at hmem
    rcases hmem with rfl | rfl | rfl | rfl
    · exact hj
    · exact hj
    · exact hj
    · change (j.cardBalances.keep _).get? k = _
      rw [AutoTable.get?_keep, show j.cardBalances.get? k = some b from hj]
      simp [hyoung]
  have hfold : ∀ (l : List (Journal → Journal)), (∀ st ∈ l, st ∈ pruneStatements now) →
      ∀ j : Journal, j.balance k = some b →
        (l.foldl (fun j statement => statement j) j).balance k = some b := by
    intro l
    induction l with
    | nil =>
      intro _ j hj
      exact hj
    | cons st l ih =>
      intro hl j hj
      exact ih (fun st' h' => hl st' (List.mem_cons_of_mem _ h')) _
        (hkeep j hj st (hl st List.mem_cons_self))
  exact hfold _ (fun st h => List.mem_of_mem_take h) _ hb

end Journal

namespace Tim

/-! ### The steps of the safety balance -/

/-- The safety balance of a terminal and a day, inside its session. -/
def SafetyPc.At (pc : SafetyPc) (ip date : String) (p : ErrandPc) : Prop :=
  ∃ spec midnight tid rest d m, spec.ip = ip ∧
    pc = .session ⟨spec, .safety date midnight, .working tid p⟩ rest d m

lemma SafetyPc.At.unique {pc : SafetyPc} {ip ip' date date' : String} {p p' : ErrandPc}
    (h : pc.At ip date p) (h' : pc.At ip' date' p') : ip = ip' ∧ date = date' ∧ p = p' := by
  obtain ⟨spec, midnight, tid, rest, d, m, rfl, rfl⟩ := h
  obtain ⟨spec', midnight', tid', rest', d', m', rfl, heq⟩ := h'
  cases heq
  exact ⟨rfl, rfl, rfl⟩

/-- What one step of the safety balance does to the journal and asks of its terminal. -/
inductive SafetyDayMove (now : Time) (s : TimState) : SafetyPc → SafetyPc → TimState → Prop
  /-- The rows keep their keys, and no balance is sent. -/
  | aside (pc pc' : SafetyPc) (s' : TimState)
      (hat : ∀ ip date p, pc'.At ip date p → p = .begin)
      (hrows : ∀ k b, s.journal.balance k = some b → ∃ b', s'.journal.balance k = some b' ∧
        b'.safetyKey = b.safetyKey)
      (hasks : AsksOnly (fun call => call ≠ .balance) s s') : SafetyDayMove now s pc pc' s'
  /-- The day needs a balance. -/
  | due (pc pc' : SafetyPc) (ip date : String) (hpc : pc.At ip date .begin)
      (hpc' : pc'.At ip date .balanceRow) (h : s.journal.cardBalanceRan ip date = false) :
    SafetyDayMove now s pc pc' s
  /-- The row is journaled and the balance sent. -/
  | sent (pc pc' : SafetyPc) (ip date : String) (row : ℤ) (j : Journal)
      (hpc : pc.At ip date .balanceRow) (hpc' : pc'.At ip date (.balancing (some row)))
      (h : s.journal.cardBalanceContact now ip date .safety none = (some row, j)) :
    SafetyDayMove now s pc pc' ((s.withJournal j).send ip none .balance none)
  /-- The terminal refused it. -/
  | refused (pc pc' : SafetyPc) (ip date : String) (row : ℤ) (e : TimError) (code text : String)
      (hpc : pc.At ip date (.balancing (some row)))
      (hpc' : pc'.At ip date (.forget row (.failed code text)))
      (h : TerminalOp.balance.error e = .failed code text) :
    SafetyDayMove now s pc pc' (s.heard ip none .balance (.failed e))
  /-- The row is dropped. -/
  | dropped (pc pc' : SafetyPc) (ip date : String) (row : ℤ) (outcome : Outcome)
      (hpc : pc.At ip date (.forget row outcome)) (hpc' : ∀ ip date p, ¬ pc'.At ip date p) :
    SafetyDayMove now s pc pc'
      ((s.withJournal (s.journal.cardBalanceForget row).2).send ip none .logout none)

section Steps

variable {cfg : TimConfig} {now : Time} {i : ℕ} {ev : TimEvent} {s s' : TimState}

/-- Journaling an outcome leaves the keys. -/
lemma journalBalance_keys (j : Journal) (row : Option ℤ) (outcome : Outcome) {k : ℤ}
    {b : CardBalance} (hb : j.balance k = some b) :
    ∃ b', (journalBalance j row outcome).balance k = some b' ∧ b'.safetyKey = b.safetyKey := by
  have hupdate : ∀ id state result, ∃ b', (j.cardBalanceOutcome id state result).2.balance k =
      some b' ∧ b'.safetyKey = b.safetyKey := by
    intro id state result
    have hget := AutoTable.get?_update j.cardBalances id k (fun _ => true)
      (fun b => { b with
        outcome := some state, result := some (result.reread j.readFloat) }) fun _ => rfl
    rw [show j.cardBalances.get? k = some b from hb] at hget
    refine ⟨_, hget, ?_⟩
    split <;> rfl
  cases row with
  | none => exact ⟨b, hb, rfl⟩
  | some id =>
    cases outcome with
    | done _ | failed _ _ => exact hupdate _ _ _
    | indeterminate _ => exact ⟨b, hb, rfl⟩

/-- The end of a safety balance, in its session. -/
lemma SafetyDayMove.ended {x : Session} {tid : Option String} {e : ErrandEnd} {s₁ : TimState}
    {pc : SafetyPc} {rest : List TerminalSpec} {date : String} {midnight : ℕ}
    (hj : s₁.journal = s.journal) (hasks : AsksNothing s s₁) :
    SafetyDayMove now s pc (.session (x.worked none tid ⟨.inr e, s₁, none⟩).1 rest date midnight)
      (x.worked none tid ⟨.inr e, s₁, none⟩).2 := by
  refine .aside _ _ _ ?_ ?_ ((hasks.send _ _ rfl _).mono ?_)
  · rintro _ _ _ ⟨_, _, _, _, _, _, -, heq⟩
    have hpc : (x.worked none tid ⟨.inr e, s₁, none⟩).1.pc = .loggingOut (.ok e) := rfl
    rw [(SafetyPc.session.inj heq).1] at hpc
    cases hpc
  · exact fun k b hb => ⟨b, by rw [← hb, ← hj]; rfl, rfl⟩
  · rintro _ hcall rfl
    cases hcall

lemma SafetyDayMove.of_step {pc pc' : SafetyPc} (hok : pc.OfDay)
    (h : safetyLoopStep cfg now i s pc ev = some (pc', s')) : SafetyDayMove now s pc pc' s' := by
  have hsame : ∀ {s' : TimState}, s'.journal = s.journal → ∀ k b, s.journal.balance k = some b →
      ∃ b', s'.journal.balance k = some b' ∧ b'.safetyKey = b.safetyKey :=
    fun hj k b hb => ⟨b, by rw [hj, hb], rfl⟩
  cases SafetyLoopMove.of_step h with
  | slept | woke | skipped =>
    refine .aside _ _ _ ?_ (hsame rfl) (.of_dev rfl)
    rintro _ _ _ ⟨_, _, _, _, _, _, -, ⟨⟩⟩
  | began =>
    refine .aside _ _ _ ?_ (hsame rfl) (.of_dev rfl)
    rintro _ _ _ ⟨_, _, _, _, _, _, -, ⟨⟩⟩
  | finished x r rest date midnight =>
    refine .aside _ _ _ ?_ (hsame rfl) (.of_dev rfl)
    rintro ip d p ⟨_, _, _, _, _, _, -, heq⟩
    unfold afterSafety at heq
    split at heq <;> cases heq
  | recorded row outcome _ _ _ _ j hj =>
    refine .aside _ _ _ ?_ ?_ (.of_dev rfl)
    · rintro _ _ _ ⟨_, _, _, _, _, _, -, ⟨⟩⟩
    · rcases hj with rfl | rfl
      · exact hsame rfl
      · exact fun k b hb => journalBalance_keys s.journal (some row) outcome hb
  | session x x' rest date midnight _ _ hx =>
    obtain ⟨spec, errand, pc₀⟩ := x
    obtain rfl : errand = .safety date midnight := hok
    cases SessionMove.of_step hx with
    | around pc _ hj hasks hbegin =>
      refine .aside _ _ _ ?_ (hsame hj) (hasks.mono ?_)
      · rintro _ _ p ⟨_, _, tid, _, _, _, -, heq⟩
        cases heq
        exact hbegin tid p rfl
      · rintro _ hcall rfl
        cases hcall
    | worked tid p r hpc hr =>
      obtain rfl : pc₀ = .working tid p := hpc
      obtain ⟨hj, -, hasks⟩ :=
        Session.listen_frame ⟨spec, .safety date midnight, .working tid p⟩ none ev s
      have hat : ∀ q, SafetyPc.At (.session ⟨spec, .safety date midnight, .working tid q⟩ rest
          date midnight) spec.ip date q := fun q => ⟨_, _, _, _, _, _, rfl, rfl⟩
      cases SafetyMove.of_step hr with
      | due hday hran => exact .due _ _ spec.ip date (hat _) (hat _) hran
      | sent row j hcontact => exact .sent _ _ spec.ip date row j (hat _) (hat _) hcontact
      | answered row a r₁ hfailed =>
        cases r₁ with
        | ok result => exact .ended hj hasks
        | error e =>
          obtain rfl := hfailed e rfl
          unfold safetyAnswer
          dsimp only
          split
          · rename_i code text herror
            exact .refused _ _ spec.ip date row e code text (hat _) (hat _) herror
          · exact .ended hj hasks
      | forgotten row outcome =>
        refine .dropped _ _ spec.ip date row outcome (hat _) ?_
        rintro _ _ _ ⟨_, _, _, _, _, _, -, ⟨⟩⟩
      | finished => exact .ended hj hasks

end Steps

/-! ### The safety balance in a run -/

section Runs

variable {p : PortosConfig} {cfg : TimConfig} {timing : Timing}
  {law : Transition.Law (World (bridgeOf p cfg)) (Event (bridgeOf p cfg))}
  {w w' : World (bridgeOf p cfg)} {e : Event (bridgeOf p cfg)} {ip date : String}

/-- The row that the call `i` has in hand. -/
def hand (w : World (bridgeOf p cfg)) (i : ℕ) : Option ℤ :=
  match w.proc.tasks i with
  | some (.inr t) => t.hand
  | _ => none

/-- What the row of the call `i` says. -/
def Fits (w : World (bridgeOf p cfg)) (i : ℕ) : CardBalance → Prop :=
  match w.proc.tasks i with
  | some (.inr t) => t.Fits
  | _ => fun _ => True

lemma hand_some {i : ℕ} {k : ℤ} (h : hand w i = some k) :
    ∃ t, w.proc.tasks i = some (.inr t) ∧ t.hand = some k := by
  unfold hand at h
  split at h
  · rename_i t ht
    exact ⟨t, ht, h⟩
  · cases h

lemma hand_task {i : ℕ} {t : TimTask} (h : w.proc.tasks i = some (.inr t)) :
    hand w i = t.hand := by
  rw [hand, h]

lemma fits_task {i : ℕ} {t : TimTask} (h : w.proc.tasks i = some (.inr t)) :
    Fits w i = t.Fits := by
  rw [Fits, h]

/-- A call that begins has no row in hand. -/
lemma Begun.hand {t : TimTask} (h : Begun w w' t) : t.hand = none := by
  cases h with
  | execute q entry =>
    unfold executeCard
    split
    · rfl
    · split_ifs <;> rfl
  | reconcile => rfl

/-- A row in hand is there without an outcome, and in one hand only. -/
lemma balances_of_reach (h : (source (bridgeOf p cfg) timing).Reach law w) :
    Leases.Held w.journal.balance (hand w) (Fits w) := by
  refine h.invariant (P := fun w => Leases.Held w.journal.balance (hand w) (Fits w)) ?_ ?_
  · exact .of_none fun _ => rfl
  · intro a e b ha ih hstep _
    cases BalancesMove.of_step hstep with
    | quiet hj hdev htasks =>
      refine ih.mono (fun k => by rw [Journal.balance, hj]; rfl) fun i k hi => ?_
      obtain ⟨t, ht, hk⟩ := hand_some hi
      rcases htasks i t ht with hold | hnew | rfl
      · refine ⟨(hand_task hold).trans hk, fun r hr => ?_⟩
        rwa [fits_task ht, ← fits_task hold]
      · rw [hnew.hand] at hk
        cases hk
      · cases hk
    | started n hw htasks =>
      refine .of_none fun i => ?_
      by_contra hne
      obtain ⟨k, hi⟩ := Option.ne_none_iff_exists'.mp hne
      obtain ⟨t, ht, hk⟩ := hand_some hi
      rw [htasks i t ht] at hk
      cases hk
    | stepped i ev t t' htask hmove htasks =>
      have hself : b.proc.tasks i = some (.inr t') := by rw [htasks, Function.update_self]
      refine ih.step (i := i) ?_ fun j hj => ?_
      · rw [hand_task htask, hand_task hself, fits_task htask, fits_task hself]
        exact hmove.balances (ok_of_reach ha htask)
      · have hsame : b.proc.tasks j = a.proc.tasks j := by rw [htasks, Function.update_of_ne hj]
        rw [hand, hand, Fits, Fits, hsame]
        exact ⟨rfl, fun r hr => hr⟩

/-- The safety balance of a terminal and a day is inside its session. -/
def SafetyAt (w : World (bridgeOf p cfg)) (ip date : String) (q : ErrandPc) : Prop :=
  ∃ i pc, w.proc.tasks i = some (.inr (.safety pc)) ∧ pc.At ip date q

/-- The safety balance of a terminal and a day is sent in a step. -/
def SendsSafety (w w' : World (bridgeOf p cfg)) (ip date : String) : Prop :=
  ∃ i pc pc' row, w.proc.tasks i = some (.inr (.safety pc)) ∧ pc.At ip date .balanceRow ∧
    w'.proc.tasks i = some (.inr (.safety pc')) ∧ pc'.At ip date (.balancing (some row)) ∧
    w'.dev.2.log = .sent ip none .balance none :: w.dev.2.log

/-- In a step the terminal answers a safety balance with a code in which it says that it did not
run. -/
def RefusesSafety (w w' : World (bridgeOf p cfg)) (ip date : String) : Prop :=
  ∃ row e code text, SafetyAt w ip date (.balancing (some row)) ∧
    w'.dev.2.log = .answered ip none .balance (.failed e) :: w.dev.2.log ∧
    TerminalOp.balance.error e = .failed code text

/-- A start prunes no row of a terminal and a day. -/
def KeepsRows (ip date : String) (w w' : World (bridgeOf p cfg)) : Prop :=
  ∀ n, w' = w.start n → ∀ k b, w.journal.balance k = some b → b.terminalIp = ip →
    b.localDate = date → ¬ b.contactAt < pruneCutoff w.clock

/-- A step of the safety balance's call. -/
lemma TimMove.safetyDay {now : Time} {i : ℕ} {ev : TimEvent} {s s' : TimState} {pc : SafetyPc}
    {t' : TimTask} (h : TimMove cfg now i s (.safety pc) ev t' s') (hok : pc.OfDay) :
    (t' = .safety pc ∧ s'.journal = s.journal ∧ s'.dev = s.dev) ∨
      ∃ pc', t' = .safety pc' ∧ SafetyDayMove now s pc pc' s' := by
  cases h with
  | elapsed => exact Or.inl ⟨rfl, rfl, rfl⟩
  | safety _ pc' _ _ hstep => exact Or.inr ⟨pc', rfl, .of_step hok hstep⟩

lemma TimMove.safety_of {now : Time} {i : ℕ} {ev : TimEvent} {s s' : TimState} {t : TimTask}
    {pc' : SafetyPc} (h : TimMove cfg now i s t ev (.safety pc') s') : ∃ pc, t = .safety pc := by
  cases h with
  | elapsed => exact ⟨pc', rfl⟩
  | safety pc => exact ⟨pc, rfl⟩

/-- A safety balance inside its session took a step, or was there before. -/
lemma safetyDay_of_step (h : (source (bridgeOf p cfg) timing).Reach law w)
    (hstep : w.step timing e = some w') {i : ℕ} {pc' : SafetyPc} {q : ErrandPc}
    (ht' : w'.proc.tasks i = some (.inr (.safety pc'))) (hat : pc'.At ip date q) :
    w.proc.tasks i = some (.inr (.safety pc')) ∨
      ∃ pc, w.proc.tasks i = some (.inr (.safety pc)) ∧
        SafetyDayMove w.clock (cards w) pc pc' (cards w') := by
  cases BalancesMove.of_step hstep with
  | quiet hj hdev htasks =>
    rcases htasks i _ ht' with hold | hnew | hidle
    · exact Or.inl hold
    · generalize ht : TimTask.safety pc' = t at hnew
      cases hnew with
      | execute q entry =>
        unfold executeCard at ht
        split at ht
        · cases ht
        · split_ifs at ht
      | reconcile => cases ht
    · cases hidle
      obtain ⟨_, _, _, _, _, _, -, ⟨⟩⟩ := hat
  | started n hw htasks =>
    cases htasks i _ ht'
    obtain ⟨_, _, _, _, _, _, -, ⟨⟩⟩ := hat
  | stepped k ev t t' htask hmove htasks =>
    rw [htasks] at ht'
    by_cases hik : i = k
    · subst hik
      rw [Function.update_self] at ht'
      cases ht'
      obtain ⟨pc, rfl⟩ := hmove.safety_of
      rcases hmove.safetyDay (ok_of_reach h htask) with ⟨heq, -⟩ | ⟨pc₁, heq, hday⟩
      · exact Or.inl (heq ▸ htask)
      · cases heq
        exact Or.inr ⟨pc, htask, hday⟩
    · rw [Function.update_of_ne hik] at ht'
      exact Or.inl ht'

/-- How the safety balance of a terminal and a day got where it is. -/
lemma safetyAt_of_step (h : (source (bridgeOf p cfg) timing).Reach law w)
    (hstep : w.step timing e = some w') {q : ErrandPc} (hat : SafetyAt w' ip date q) :
    SafetyAt w ip date q ∨ q = .begin ∨
      (q = .balanceRow ∧ w.journal.cardBalanceRan ip date = false) ∨
      (∃ row, q = .balancing (some row)) ∨
      ((∃ row outcome, q = .forget row outcome) ∧ RefusesSafety w w' ip date) := by
  obtain ⟨i, pc', ht', hat⟩ := hat
  rcases safetyDay_of_step h hstep ht' hat with hold | ⟨pc, ht, hday⟩
  · exact Or.inl ⟨i, pc', hold, hat⟩
  · generalize hs : cards w' = s' at hday
    cases hday with
    | aside _ hbegin => exact Or.inr (Or.inl (hbegin _ _ _ hat))
    | due ip' date' hpc hpc' hran =>
      obtain ⟨rfl, rfl, rfl⟩ := hat.unique hpc'
      exact Or.inr (Or.inr (Or.inl ⟨rfl, hran⟩))
    | sent ip' date' row j hpc hpc' =>
      obtain ⟨rfl, rfl, rfl⟩ := hat.unique hpc'
      exact Or.inr (Or.inr (Or.inr (Or.inl ⟨row, rfl⟩)))
    | refused ip' date' row e code text hpc hpc' herror =>
      obtain ⟨rfl, rfl, rfl⟩ := hat.unique hpc'
      have hlog := congrArg (fun s => s.dev.log) hs
      exact Or.inr (Or.inr (Or.inr (Or.inr ⟨⟨row, _, rfl⟩, row, e, code, text,
        ⟨i, pc, ht, hpc⟩, hlog, herror⟩)))
    | dropped _ _ _ _ _ hnone => exact absurd hat (hnone _ _ _)

/-- What the row of a safety balance inside its session says. -/
lemma row_of_at (h : (source (bridgeOf p cfg) timing).Reach law w) {i : ℕ} {pc : SafetyPc}
    (ht : w.proc.tasks i = some (.inr (.safety pc))) {q : ErrandPc} (hat : pc.At ip date q)
    {k : ℤ} (hq : q.hand = some k) :
    hand w i = some k ∧ ∃ b, w.journal.balance k = some b ∧ b.safetyKey = some (ip, date) := by
  obtain ⟨spec, midnight, tid, rest, d, m, rfl, rfl⟩ := hat
  have hk : hand w i = some k := (hand_task ht).trans hq
  obtain ⟨b, hb, hfits⟩ := (balances_of_reach h).row i k hk
  rw [fits_task ht] at hfits
  exact ⟨hk, b, hb, hfits.2⟩

/-- The row of a safety balance stays, unless the terminal refused it or it is pruned. -/
lemma safetyRow_kept (h : (source (bridgeOf p cfg) timing).Reach law w)
    (hstep : w.step timing e = some w') (hrow : w.journal.SafetyRow ip date)
    (hyoung : KeepsRows ip date w w')
    (hforget : ∀ row outcome, ¬ SafetyAt w ip date (.forget row outcome)) :
    w'.journal.SafetyRow ip date := by
  obtain ⟨k, b, hb, hkey⟩ := hrow
  cases BalancesMove.of_step hstep with
  | quiet hj => exact ⟨k, b, by rw [Journal.balance, hj]; exact hb, hkey⟩
  | started n hw =>
    obtain ⟨hip, hdate⟩ := Journal.key_of_safetyKey hkey
    subst hw
    exact ⟨k, b, Journal.balance_prune hb (hyoung n rfl k b hb hip hdate), hkey⟩
  | stepped i ev t t' htask hmove htasks =>
    have hok := ok_of_reach h htask
    by_cases hk : t.hand = some k
    · -- a call that has such a row in hand is the safety balance
      obtain ⟨b₀, hb₀, hfits⟩ := (balances_of_reach h).row i k ((hand_task htask).trans hk)
      obtain rfl : b₀ = b := Option.some.inj (hb₀.symm.trans hb)
      rw [fits_task htask] at hfits
      obtain ⟨pc, rfl⟩ : ∃ pc, t = .safety pc := by
        cases t with
        | safety pc => exact ⟨pc, rfl⟩
        | twoPhase | settle | reconcile => cases hk
        | op job pc =>
          have hnone : b₀.safetyKey = none := by
            cases hok with
            | session x hof => exact hfits.2.trans (balanceKey_of hof _)
            | start | copyRow | copyCard | transacted | ended | recording | printing
            | returned => exact hfits.2
          rw [hnone] at hkey
          cases hkey
      rcases hmove.safetyDay hok with ⟨-, hj, -⟩ | ⟨pc', rfl, hday⟩
      · exact ⟨k, b₀, by rw [show w'.journal = w.journal from hj]; exact hb, hkey⟩
      · generalize hs : cards w' = s' at hday
        have hj : w'.journal = s'.journal := congrArg (fun s : TimState => s.journal) hs
        cases hday with
        | aside _ _ hrows =>
          obtain ⟨b', hb', hkey'⟩ := hrows k b₀ hb
          exact ⟨k, b', by rw [hj, hb'], hkey'.trans hkey⟩
        | due | refused => exact ⟨k, b₀, by rw [hj]; exact hb, hkey⟩
        | sent ip' date' row j hpc hpc' hcontact =>
          obtain ⟨hfresh, -, -, -, -, -, -, -, -, hothers⟩ := Journal.balance_contact hcontact
          have hne : k ≠ row := by
            rintro rfl
            rw [show w.journal.balance k = none from hfresh] at hb
            cases hb
          exact ⟨k, b₀, by rw [hj]; exact (hothers k hne).trans hb, hkey⟩
        | dropped ip' date' row outcome hpc =>
          -- the row in hand is the one of this day
          obtain ⟨hrow, b₁, hb₁, hkey₁⟩ := row_of_at h htask hpc rfl
          obtain rfl : row = k := Option.some.inj (hrow.symm.trans ((hand_task htask).trans hk))
          obtain rfl : b₁ = b₀ := Option.some.inj (hb₁.symm.trans hb)
          obtain ⟨rfl, rfl⟩ := Prod.mk.inj (Option.some.inj (hkey₁.symm.trans hkey))
          exact absurd ⟨i, pc, htask, hpc⟩ (hforget row outcome)
    · have hkept : (cards w').journal.balance k = some b :=
        (hmove.balances hok).row_kept hb hk
      exact ⟨k, b, hkept, hkey⟩

/-- A `done` closing stays until it is pruned: nobody has it in hand. -/
lemma doneRow_kept (h : (source (bridgeOf p cfg) timing).Reach law w)
    (hstep : w.step timing e = some w') (hrow : w.journal.DoneRow ip date)
    (hyoung : KeepsRows ip date w w') : w'.journal.DoneRow ip date := by
  obtain ⟨k, b, hb, hip, hdate, hdone⟩ := hrow
  cases BalancesMove.of_step hstep with
  | quiet hj => exact ⟨k, b, by rw [Journal.balance, hj]; exact hb, hip, hdate, hdone⟩
  | started n hw =>
    subst hw
    exact ⟨k, b, Journal.balance_prune hb (hyoung n rfl k b hb hip hdate), hip, hdate, hdone⟩
  | stepped i ev t t' htask hmove htasks =>
    have hne : t.hand ≠ some k := by
      intro hk
      obtain ⟨b₀, hb₀, hfits⟩ := (balances_of_reach h).row i k ((hand_task htask).trans hk)
      obtain rfl : b₀ = b := Option.some.inj (hb₀.symm.trans hb)
      rw [fits_task htask] at hfits
      have hnone := hfits.outcome
      rw [hdone] at hnone
      cases hnone
    have hkept : (cards w').journal.balance k = some b :=
      (hmove.balances (ok_of_reach h htask)).row_kept hb hne
    exact ⟨k, b, hkept, hip, hdate, hdone⟩

/-- The row of a safety balance that is sent is new. -/
lemma SendsSafety.fresh (h : (source (bridgeOf p cfg) timing).Reach law w)
    (hstep : w.step timing e = some w') (hsends : SendsSafety w w' ip date) :
    ¬ w.journal.SafetyRow ip date := by
  obtain ⟨i, pc, pc', row, ht, hat, ht', hat', -⟩ := hsends
  rintro ⟨k, b, hb, hkey⟩
  rcases safetyDay_of_step h hstep ht' hat' with hold | ⟨pc₀, ht₀, hday⟩
  · rw [ht] at hold
    cases hold
    cases (hat.unique hat').2.2
  · generalize cards w' = s' at hday
    cases hday with
    | aside _ hbegin => cases hbegin _ _ _ hat'
    | due ip' date' hpc hpc' => cases (hat'.unique hpc').2.2
    | sent ip' date' row j hpc hpc' hcontact =>
      obtain ⟨rfl, rfl, -⟩ := hat'.unique hpc'
      exact (Journal.balance_contact hcontact).2.1 k b hb rfl hkey
    | refused ip' date' row e code text hpc hpc' => cases (hat'.unique hpc').2.2
    | dropped _ _ _ _ _ hnone => exact absurd hat' (hnone _ _ _)

/-- A day whose balance went out: its row is journaled, and it is not about to be dropped. -/
structure BalanceOut (w : World (bridgeOf p cfg)) (ip date : String) : Prop where
  row : w.journal.SafetyRow ip date
  kept : ∀ row outcome, ¬ SafetyAt w ip date (.forget row outcome)

lemma SendsSafety.balanceOut (h : (source (bridgeOf p cfg) timing).Reach law w')
    (hsends : SendsSafety w w' ip date) : BalanceOut w' ip date := by
  obtain ⟨i, pc, pc', row, -, -, ht', hat', -⟩ := hsends
  obtain ⟨hi, b, hb, hkey⟩ := row_of_at h ht' hat' rfl
  refine ⟨⟨row, b, hb, hkey⟩, ?_⟩
  -- another call at the same day would have the same row in hand
  rintro row' outcome ⟨j, pc₁, hj, hat₁⟩
  obtain ⟨hj', b₁, hb₁, hkey₁⟩ := row_of_at h hj hat₁ rfl
  obtain rfl := Journal.safetyRow_unique hb hb₁ hkey hkey₁
  obtain rfl := (balances_of_reach h).exclusive i j row hi hj'
  rw [ht'] at hj
  cases hj
  cases (hat'.unique hat₁).2.2

/-- A day that was closed: no safety balance is past the check of the day. -/
structure DayClosed (w : World (bridgeOf p cfg)) (ip date : String) : Prop where
  row : w.journal.DoneRow ip date
  checked : ¬ SafetyAt w ip date .balanceRow

/-- While no terminal refuses the balance of a day and no start prunes it, the balance is out. -/
lemma BalanceOut.step (h : (source (bridgeOf p cfg) timing).Reach law w)
    (hstep : w.step timing e = some w') (hout : BalanceOut w ip date)
    (hanswers : ¬ RefusesSafety w w' ip date) (hyoung : KeepsRows ip date w w') :
    BalanceOut w' ip date := by
  refine ⟨safetyRow_kept h hstep hout.row hyoung hout.kept, fun row outcome hat => ?_⟩
  rcases safetyAt_of_step h hstep hat with hold | hq | ⟨hq, -⟩ | ⟨row', hq⟩ | ⟨-, hrefused⟩
  · exact hout.kept row outcome hold
  · cases hq
  · cases hq
  · cases hq
  · exact hanswers hrefused

/-- A day that was closed stays so until it is pruned. -/
lemma DayClosed.step (h : (source (bridgeOf p cfg) timing).Reach law w)
    (hstep : w.step timing e = some w') (hclosed : DayClosed w ip date)
    (hyoung : KeepsRows ip date w w') : DayClosed w' ip date := by
  refine ⟨doneRow_kept h hstep hclosed.row hyoung, fun hat => ?_⟩
  rcases safetyAt_of_step h hstep hat with hold | hq | ⟨-, hran⟩ | ⟨row, hq⟩ | ⟨⟨_, _, hq⟩, -⟩
  · exact hclosed.checked hold
  · cases hq
  · rw [Journal.cardBalanceRan_of_done hclosed.row] at hran
    cases hran
  · cases hq
  · cases hq

/-- A balance that is sent without a job is the safety balance of a day. -/
lemma sendsSafety_of_log (h : (source (bridgeOf p cfg) timing).Reach law w)
    (hstep : w.step timing e = some w') {new : List TerminalEvent} {settles : Option DeviceJob}
    (hlog : w'.dev.2.log = new ++ w.dev.2.log) (hsent : .sent ip none .balance settles ∈ new) :
    ∃ date, SendsSafety w w' ip date := by
  have hquiet : w'.dev.2 = w.dev.2 → False := by
    intro hdev
    rw [hdev, List.self_eq_append_left] at hlog
    rw [hlog] at hsent
    exact List.not_mem_nil hsent
  cases BalancesMove.of_step hstep with
  | quiet _ hdev => exact (hquiet hdev).elim
  | started n hw =>
    subst hw
    exact (hquiet rfl).elim
  | stepped i ev t t' htask hmove htasks =>
    -- only the safety balance talks without a job
    obtain ⟨new', hlog', hjobs⟩ := hmove.guarded.talks
    obtain rfl : new' = new := List.append_cancel_right (hlog'.symm.trans hlog)
    obtain ⟨hjob, -⟩ := hjobs _ hsent
    obtain ⟨pc, rfl⟩ : ∃ pc, t = .safety pc := by
      cases t with
      | safety pc => exact ⟨pc, rfl⟩
      | twoPhase | settle | op | reconcile => cases hjob
    rcases hmove.safetyDay (ok_of_reach h htask) with ⟨-, -, hdev⟩ | ⟨pc', rfl, hday⟩
    · exact (hquiet hdev).elim
    · have hself : w'.proc.tasks i = some (.inr (.safety pc')) := by
        rw [htasks, Function.update_self]
      generalize hs : cards w' = s' at hday
      have hdev : w'.dev.2 = s'.dev := congrArg (fun s : TimState => s.dev) hs
      cases hday with
      | aside _ _ _ hasks =>
        obtain ⟨new₁, hlog₁, hnot⟩ := hasks
        rw [← hdev] at hlog₁
        obtain rfl : new₁ = new' := List.append_cancel_right (hlog₁.symm.trans hlog)
        exact absurd rfl (hnot _ hsent .balance rfl)
      | due => exact (hquiet hdev).elim
      | sent ip' date row j hpc hpc' =>
        have hlog₁ : w'.dev.2.log = [.sent ip' none .balance none] ++ w.dev.2.log := by
          rw [hdev]
          rfl
        obtain rfl : _ = new' := List.append_cancel_right (hlog₁.symm.trans hlog)
        cases List.mem_singleton.mp hsent
        exact ⟨date, i, pc, pc', row, htask, hpc, hself, hpc', hlog₁⟩
      | refused ip' date row e =>
        have hlog₁ : w'.dev.2.log = [.answered ip' none .balance (.failed e)] ++ w.dev.2.log := by
          rw [hdev]
          rfl
        obtain rfl : _ = new' := List.append_cancel_right (hlog₁.symm.trans hlog)
        cases List.mem_singleton.mp hsent
      | dropped ip' date row outcome =>
        have hlog₁ : w'.dev.2.log = [.sent ip' none .logout none] ++ w.dev.2.log := by
          rw [hdev]
          rfl
        obtain rfl : _ = new' := List.append_cancel_right (hlog₁.symm.trans hlog)
        cases List.mem_singleton.mp hsent

/-- In a run in which the terminal refuses no safety balance of a day and no start prunes one. -/
def AnsweredDay (ip date : String) :
    Transition.Law (World (bridgeOf p cfg)) (Event (bridgeOf p cfg)) :=
  fun w _ w' => ¬ RefusesSafety w w' ip date ∧ KeepsRows ip date w w'

/-- A balance that is sent without a job is the safety balance of a day that had none yet.  From
then on, whatever the calls, the crashes and the restarts, none is sent for that terminal and day,
as long as the terminal does not say that it did not run. -/
theorem safety_balance_once_a_day (p : PortosConfig) (cfg : TimConfig) (timing : Timing)
    {w w' : World (bridgeOf p cfg)} {e : Event (bridgeOf p cfg)}
    (h : (source (bridgeOf p cfg) timing).Reach Transition.free w)
    (hstep : (source (bridgeOf p cfg) timing).step w e = some w') {new : List TerminalEvent}
    {ip : String} {settles : Option DeviceJob} (hlog : w'.dev.2.log = new ++ w.dev.2.log)
    (hsent : .sent ip none .balance settles ∈ new) :
    ∃ date, SendsSafety w w' ip date ∧ ¬ w.journal.SafetyRow ip date ∧
      ∀ w₁, (source (bridgeOf p cfg) timing).Leads (AnsweredDay ip date) w' w₁ →
        ∀ e₁ w₂, (source (bridgeOf p cfg) timing).step w₁ e₁ = some w₂ →
          ¬ SendsSafety w₁ w₂ ip date := by
  obtain ⟨date, hsends⟩ := sendsSafety_of_log h hstep hlog hsent
  refine ⟨date, hsends, hsends.fresh h hstep, fun w₁ hrun e₁ w₂ hstep₁ hagain => ?_⟩
  have h' : (source (bridgeOf p cfg) timing).Reach Transition.free w' :=
    h.move ⟨e, hstep, trivial⟩
  have hboth : (source (bridgeOf p cfg) timing).Reach Transition.free w₁ ∧
      BalanceOut w₁ ip date := by
    clear hstep₁ hagain
    induction hrun with
    | refl => exact ⟨h', hsends.balanceOut h'⟩
    | tail _ hmove ih =>
      obtain ⟨e₂, he₂, hanswers, hyoung⟩ := hmove
      exact ⟨ih.1.move ⟨e₂, he₂, trivial⟩, ih.2.step ih.1 he₂ hanswers hyoung⟩
  exact hagain.fresh hboth.1 hstep₁ hboth.2.row

end Runs

/-- A till whose clock shows the last minutes of a day. -/
def lateTerminal : TimConfig :=
  { oneTerminal with localTime := fun _ => ⟨"2026-01-05", 23 * 60 + 55, 300000⟩ }

/-- The events from the start of the process until the safety balance is due in its session. -/
def runUntilDue : List (Event (bridgeOf oneServer lateTerminal)) :=
  .start 4 :: ([.go, .go, .go, .answer .done, .answer .done, .answer .done, .answer (.tid none),
    .go].map fun ev => .task 0 (.inr ev))

/-- One safety balance goes out, and no second one. -/
theorem safety_balance_once_a_day_late :
    ∃ w e w', (source (bridgeOf oneServer lateTerminal) Timing.default).Reach Transition.free w ∧
      (source (bridgeOf oneServer lateTerminal) Timing.default).step w e = some w' ∧
      ∃ date, SendsSafety w w' "10.0.0.7" date ∧
        ∀ w₁, (source (bridgeOf oneServer lateTerminal) Timing.default).Leads
            (AnsweredDay "10.0.0.7" date) w' w₁ →
          ∀ e₁ w₂, (source (bridgeOf oneServer lateTerminal) Timing.default).step w₁ e₁ = some w₂ →
            ¬ SendsSafety w₁ w₂ "10.0.0.7" date := by
  obtain ⟨w, hreach, hw⟩ := Transition.reach_of_run
    (source (bridgeOf oneServer lateTerminal) Timing.default) runUntilDue
    (fun w => decide (((source (bridgeOf oneServer lateTerminal) Timing.default).step w
      (.task 0 (.inr .go))).map (fun w' => w'.dev.2.log) =
        some (.sent "10.0.0.7" none .balance none :: w.dev.2.log))) (by decide +kernel)
  simp only [decide_eq_true_eq, Option.map_eq_some_iff] at hw
  obtain ⟨w', hstep, hlog⟩ := hw
  have hnew : w'.dev.2.log = [.sent "10.0.0.7" none .balance none] ++ w.dev.2.log := hlog
  obtain ⟨date, hsends, -, honce⟩ := safety_balance_once_a_day oneServer lateTerminal
    Timing.default hreach hstep hnew (List.mem_singleton.mpr rfl)
  exact ⟨w, _, w', hreach, hstep, date, hsends, honce⟩

/-- After a day closing of a terminal is journaled as `done`, and unless a safety balance has
passed the check of the day already, a balance that is sent without a job is of another day:
whatever the calls, the crashes and the restarts that do not prune the closing. -/
theorem closed_day_needs_no_safety_balance (p : PortosConfig) (cfg : TimConfig) (timing : Timing)
    {w w₁ w₂ : World (bridgeOf p cfg)} {e : Event (bridgeOf p cfg)} {ip date : String}
    (h : (source (bridgeOf p cfg) timing).Reach Transition.free w) (hclosed : DayClosed w ip date)
    (hrun : (source (bridgeOf p cfg) timing).Leads (fun a _ b => KeepsRows ip date a b) w w₁)
    (hstep : (source (bridgeOf p cfg) timing).step w₁ e = some w₂) {new : List TerminalEvent}
    {settles : Option DeviceJob} (hlog : w₂.dev.2.log = new ++ w₁.dev.2.log)
    (hsent : .sent ip none .balance settles ∈ new) :
    ∃ date', date' ≠ date ∧ SendsSafety w₁ w₂ ip date' := by
  have hboth : (source (bridgeOf p cfg) timing).Reach Transition.free w₁ ∧
      DayClosed w₁ ip date := by
    clear hstep hlog
    induction hrun with
    | refl => exact ⟨h, hclosed⟩
    | tail _ hmove ih =>
      obtain ⟨e₂, he₂, hyoung⟩ := hmove
      exact ⟨ih.1.move ⟨e₂, he₂, trivial⟩, ih.2.step ih.1 he₂ hyoung⟩
  obtain ⟨date', hsends⟩ := sendsSafety_of_log hboth.1 hstep hlog hsent
  refine ⟨date', ?_, hsends⟩
  rintro rfl
  obtain ⟨i, pc, -, -, ht, hat, -⟩ := hsends
  exact hboth.2.checked ⟨i, pc, ht, hat⟩

/-- A till whose clock shows the morning of one day, then the last minutes of the next. -/
def twoDays : TimConfig :=
  { oneTerminal with
    localTime := fun now =>
      if now < 10 ^ 12 then ⟨"2026-01-05", 600, 1000⟩ else ⟨"2026-01-06", 23 * 60 + 55, 300000⟩ }

/-- A reply of Odoo to `next` that hands out a balance. -/
def replyWithBalance (id : ℤ) : Reply :=
  .ok (.obj [("job", .obj [("client_uuid", .str "u1"), ("id", Json.ofInt id),
      ("kasa", .obj [("id", Json.ofInt 1)]), ("payload", .obj []),
      ("type", .str "card.balance")]),
    ("ok", .bool true)])

/-- The events from the start of the process until the balance of a job is journaled. -/
def runUntilClosed : List (Event (bridgeOf oneServer twoDays)) :=
  let q : DeviceQueue := ⟨.card, "10.0.0.7"⟩
  [.start 4, .control .poll, .odoo (.answerPending (replyWithPending [])),
    .control (.arrive true), .control (.entry true), .control .poll,
    .odoo (.answerNext (replyWithBalance 7)), .control (.arrive true),
    .control (.enqueue true true), .worker q (.take true), .worker q (.start true)] ++
  [.go, .go, .answer .done, .answer .done, .answer .done, .answer (.tid none), .go, .go,
    .answer (.balance ⟨none, ⟨none, none⟩⟩), .answer .done, .answer .done, .go, .go].map
      fun ev => .task 1 (.inr ev)

/-- The events until the safety balance of the next day is due in its session. -/
def runUntilNextDay : List (Event (bridgeOf oneServer twoDays)) :=
  .clock (10 ^ 12) :: ([.go, .go, .go, .answer .done, .answer .done, .answer .done,
    .answer (.tid none), .go].map fun ev => .task 0 (.inr ev))

/-- Whether no safety balance is under way. -/
def safetyIdle (w : World (bridgeOf oneServer twoDays)) : Bool :=
  (List.range w.proc.nextTask).all fun i =>
    match w.proc.tasks i with
    | some (.inr (.safety pc)) => decide (pc = .idle)
    | _ => true

lemma not_safetyAt_of_idle {w : World (bridgeOf oneServer twoDays)}
    (h : (source (bridgeOf oneServer twoDays) Timing.default).Reach Transition.free w)
    (hidle : safetyIdle w = true) (ip date : String) (q : ErrandPc) : ¬ SafetyAt w ip date q := by
  rintro ⟨i, pc, ht, hat⟩
  have hlt : i < w.proc.nextTask := by
    by_contra hge
    rw [(taskInv_of_reach (cardStates (portos oneServer) twoDays) h).fresh i (not_lt.mp hge)] at ht
    cases ht
  have hpc := List.all_eq_true.mp hidle i (List.mem_range.mpr hlt)
  rw [ht] at hpc
  obtain rfl := of_decide_eq_true hpc
  obtain ⟨_, _, _, _, _, _, -, ⟨⟩⟩ := hat

/-- Whether every day closing is too young to be pruned. -/
def youngRows (w : World (bridgeOf oneServer twoDays)) : Bool :=
  !w.journal.cardBalances.table.exists? fun _ b => decide (b.contactAt < pruneCutoff w.clock)

lemma keepsRows_of_young {w w' : World (bridgeOf oneServer twoDays)} (h : youngRows w = true)
    (ip date : String) : KeepsRows ip date w w' := by
  intro n _ k row hrow _ _ hold
  have hex : (w.journal.cardBalances.table.exists? fun _ b =>
      decide (b.contactAt < pruneCutoff w.clock)) = true :=
    Table.exists?_iff.mpr ⟨k, row, hrow, by simpa using hold⟩
  rw [youngRows, hex] at h
  cases h

/-- The balance of a job closes one day; the safety balance that follows is of the next. -/
theorem closed_day_needs_no_safety_balance_next :
    ∃ w w₁ w₂ e, (source (bridgeOf oneServer twoDays) Timing.default).Reach Transition.free w ∧
      DayClosed w "10.0.0.7" "2026-01-05" ∧
      (source (bridgeOf oneServer twoDays) Timing.default).step w₁ e = some w₂ ∧
      ∃ date, date ≠ "2026-01-05" ∧ SendsSafety w₁ w₂ "10.0.0.7" date := by
  have htest : ∀ (a : World (bridgeOf oneServer twoDays)) (e : Event (bridgeOf oneServer twoDays))
      (b : World (bridgeOf oneServer twoDays)),
      (source (bridgeOf oneServer twoDays) Timing.default).Reach Transition.free a →
      (source (bridgeOf oneServer twoDays) Timing.default).step a e = some b →
        youngRows a = true → KeepsRows "10.0.0.7" "2026-01-05" a b :=
    fun _ _ _ _ _ hyoung => keepsRows_of_young hyoung _ _
  obtain ⟨w, w₁, h, hrun, hgoal⟩ := Transition.leads_of_lawful_runs
    (source (bridgeOf oneServer twoDays) Timing.default)
    (fun a _ b => KeepsRows "10.0.0.7" "2026-01-05" a b) runUntilClosed runUntilNextDay
    (fun w w₁ => safetyIdle w &&
      decide ((w.journal.balance 1).map (fun b => (b.terminalIp, b.localDate, b.outcome)) =
        some ("10.0.0.7", "2026-01-05", some "done")) &&
      decide (((source (bridgeOf oneServer twoDays) Timing.default).step w₁
        (.task 0 (.inr .go))).map (fun w₂ => w₂.dev.2.log) =
          some (.sent "10.0.0.7" none .balance none :: w₁.dev.2.log)))
    htest (by decide +kernel)
  simp only [Bool.and_eq_true, decide_eq_true_eq, Option.map_eq_some_iff] at hgoal
  obtain ⟨⟨hidle, b, hb, hrow⟩, w₂, hstep, hlog⟩ := hgoal
  simp only [Prod.mk.injEq] at hrow
  have hclosed : DayClosed w "10.0.0.7" "2026-01-05" :=
    ⟨⟨1, b, hb, hrow⟩, not_safetyAt_of_idle h hidle _ _ _⟩
  have hnew : w₂.dev.2.log = [.sent "10.0.0.7" none .balance none] ++ w₁.dev.2.log := hlog
  exact ⟨w, w₁, w₂, _, h, hclosed, hstep,
    closed_day_needs_no_safety_balance oneServer twoDays Timing.default h hclosed hrun hstep hnew
      (List.mem_singleton.mpr rfl)⟩

end Tim

end DevBridge

import DevBridge.Portos.Calls
import DevBridge.Tim.Errands
import DevBridge.Tim.Runs

/-!
# Device contacts and card rows

The device contact of a job is journaled by a call of the job itself, and what a card row says of
its terminal, its kind and its payment never changes; the row stays as long as the row of its
job does.
-/

namespace DevBridge

/-- The executors of the bridge: Portos and the terminals. -/
abbrev bridgeOf (p : PortosConfig) (cfg : TimConfig) : Executor := cardWith (portos p) cfg

/-- What a statement other than the two contacts leaves of a contact. -/
lemma RowOp.contact_apply {op : RowOp} (h : op ≠ .markDeviceContact) (h' : op ≠ .cardContact)
    (t : JobTable) (now : Time) (e : JournalEntry) :
    (op.apply t now e).deviceContactAt = e.deviceContactAt := by
  unfold RowOp.apply
  split
  · cases op with
    | markDeviceContact => exact absurd rfl h
    | cardContact => exact absurd rfl h'
    | recordOutcome o => cases o <;> cases t <;> rfl
    | startExecution | markAcked _ | markReported | reopenAck | markLanReported _ => rfl
    | failUnstarted _ _ | recordStillUnknown _ => cases t <;> rfl
  · rfl

lemma recoverRow_contact (now : Time) (e : JournalEntry) :
    (recoverRow now e).deviceContactAt = e.deviceContactAt := by
  unfold recoverRow
  split <;> rfl

/-- What a card row never changes. -/
def CardPayment.SameTarget (c c' : CardPayment) : Prop :=
  c'.terminalIp = c.terminalIp ∧ c'.txType = c.txType ∧ c'.targetSeq = c.targetSeq

/-- A write after which contacts are new only where they may be, and card rows say what they
said. -/
structure CardsLater (new : ℤ → Prop) (j j' : Journal) : Prop where
  contact : ∀ id e', j'.get id = some e' → e'.deviceContactAt.isSome →
    new id ∨ ∃ e, j.get id = some e ∧ e.deviceContactAt.isSome
  cards : ∀ id c, j.cardPayment id = some c → (j'.deviceJobs.get? id).isSome →
    ∃ c', j'.cardPayment id = some c' ∧ c.SameTarget c'

namespace CardsLater

variable {new : ℤ → Prop} {j j' : Journal}

lemma cards_of_eq (h : j'.cardPayments = j.cardPayments) (id : ℤ) (c : CardPayment)
    (hc : j.cardPayment id = some c) : ∃ c', j'.cardPayment id = some c' ∧ c.SameTarget c' :=
  ⟨c, by rw [Journal.cardPayment, h]; exact hc, rfl, rfl, rfl⟩

lemma of_get_eq (hget : ∀ id, j'.get id = j.get id)
    (hcards : ∀ id c, j.cardPayment id = some c →
      ∃ c', j'.cardPayment id = some c' ∧ c.SameTarget c') : CardsLater new j j' where
  contact id e' he' hc := Or.inr ⟨e', by rw [← hget]; exact he', hc⟩
  cards id c hc _ := hcards id c hc

lemma refl (j : Journal) : CardsLater new j j := of_get_eq (fun _ => rfl) (cards_of_eq rfl)

/-- A statement that changes each row without touching its contact. -/
lemma of_map {f : ℤ → JournalEntry → JournalEntry}
    (hf : ∀ id e, (f id e).deviceContactAt = e.deviceContactAt)
    (hget : ∀ id, j'.get id = (j.get id).map (f id)) (hcards : j'.cardPayments = j.cardPayments) :
    CardsLater new j j' where
  contact id e' he' hc := by
    rw [hget, Option.map_eq_some_iff] at he'
    obtain ⟨e, he, rfl⟩ := he'
    rw [hf] at hc
    exact Or.inr ⟨e, he, hc⟩
  cards id c hc _ := cards_of_eq hcards id c hc

lemma updateRow (j : Journal) (now : Time) (jobId : ℤ) {op : RowOp}
    (h : op ≠ .markDeviceContact) (h' : op ≠ .cardContact) :
    CardsLater new j (j.updateRow now jobId op).2 := by
  refine of_map (fun id e => ?_) (Journal.get_updateRow j now jobId op) ?_
  · split
    · exact RowOp.contact_apply h h' _ now e
    · rfl
  · unfold Journal.updateRow
    split <;> rfl

lemma updateOdoo (j : Journal) (now : Time) (jobId : ℤ) {op : RowOp}
    (h : op ≠ .markDeviceContact) (h' : op ≠ .cardContact) :
    CardsLater new j (j.updateOdoo now jobId op).2 := by
  refine of_map (fun id e => ?_) (Journal.get_updateOdoo j now jobId op) rfl
  split
  · exact RowOp.contact_apply h h' _ now e
  · rfl

lemma markLanReported (j : Journal) (now : Time) (jobId : ℤ) (odooJobId : Option ℤ)
    (note : String) : CardsLater new j (j.markLanReported now jobId odooJobId note).2 := by
  refine of_map (fun id e => ?_) (Journal.get_markLanReported j now jobId odooJobId note) rfl
  split
  · exact RowOp.contact_apply (by rintro ⟨⟩) (by rintro ⟨⟩) _ now e
  · rfl

/-- A contact that is marked is the one of the job it names. -/
lemma markDeviceContact (j : Journal) (now : Time) (jobId : ℤ) :
    CardsLater (· = jobId) j (j.markDeviceContact now jobId).2 where
  contact id e' he' hc := by
    rw [Journal.markDeviceContact, Journal.get_updateRow, Option.map_eq_some_iff] at he'
    obtain ⟨e, he, rfl⟩ := he'
    by_cases hid : id = jobId
    · exact Or.inl hid
    · rw [if_neg hid] at hc
      exact Or.inr ⟨e, he, hc⟩
  cards id c hc _ := by
    refine cards_of_eq ?_ id c hc
    rw [Journal.markDeviceContact]
    unfold Journal.updateRow
    split <;> rfl

lemma cardContactOf {now : Time} {jobId amountMinor txType : ℤ} {ip : String}
    {base target : Option ℤ}
    (h : j.cardContactOf now jobId ip amountMinor base txType target = some (true, j')) :
    CardsLater (· = jobId) j j' := by
  obtain ⟨hget, -, hnone, hcards, -⟩ := Journal.cardContactOf_true h
  constructor
  · intro id e' he' hc
    rw [hget, Option.map_eq_some_iff] at he'
    obtain ⟨e, he, rfl⟩ := he'
    by_cases hid : id = jobId
    · exact Or.inl hid
    · rw [if_neg (by simp [hid])] at hc
      exact Or.inr ⟨e, he, hc⟩
  · intro id c hc _
    have hne : id ≠ jobId := by
      rintro rfl
      rw [Journal.cardPayment, hnone] at hc
      cases hc
    exact ⟨c, by rw [Journal.cardPayment, hcards, if_neg hne]; exact hc, rfl, rfl, rfl⟩

/-- A statement on one card row. -/
lemma updateCard (j : Journal) (jobId : ℤ) {guard : CardPayment → Bool}
    {set : CardPayment → CardPayment} (hset : ∀ c : CardPayment, c.SameTarget (set c)) :
    CardsLater new j (j.updateCard jobId guard set).2 := by
  refine of_get_eq (fun _ => rfl) fun id c hc => ?_
  have hget : (j.updateCard jobId guard set).2.cardPayment id =
      (j.cardPayment id).map fun c => if id = jobId ∧ guard c then set c else c :=
    Table.get?_update _ _ _ _ _
  rw [hget, hc]
  refine ⟨_, rfl, ?_⟩
  dsimp only
  split
  · exact hset c
  · exact ⟨rfl, rfl, rfl⟩

lemma markCardAuthAcked (j : Journal) (jobId : ℤ) (note : String) :
    CardsLater new j (j.markCardAuthAcked jobId note).2 :=
  updateCard j jobId fun _ => ⟨rfl, rfl, rfl⟩

lemma cardTransacted (j : Journal) (jobId seq : ℤ) :
    CardsLater new j (j.cardTransacted jobId seq).2 :=
  updateCard j jobId fun _ => ⟨rfl, rfl, rfl⟩

lemma cardEnded (j : Journal) (now : Time) (jobId : ℤ) :
    CardsLater new j (j.cardEnded now jobId).2 :=
  updateCard j jobId fun _ => ⟨rfl, rfl, rfl⟩

lemma cardForPerson (j : Journal) (jobId : ℤ) (why : String) :
    CardsLater new j (j.cardForPerson jobId why).2 :=
  updateCard j jobId fun _ => ⟨rfl, rfl, rfl⟩

lemma cardAuthorized (j : Journal) (now : Time) (jobId seq : ℤ) (result : Json) :
    CardsLater new j (j.cardAuthorized now jobId seq result).2 :=
  updateCard j jobId fun _ => ⟨rfl, rfl, rfl⟩

/-- A new row was never contacted. -/
lemma insert {now : Time} {job : OdooJob} {refused : Option (String × String)}
    (h : (j.insert now job refused).1 = .new) : CardsLater new j (j.insert now job refused).2 := by
  obtain ⟨-, hget⟩ := RowAdded.insert h
  have hcards : (j.insert now job refused).2.cardPayments = j.cardPayments := by
    unfold Journal.insert
    split <;> rfl
  refine ⟨fun id e' he' hc => ?_, fun id c hc _ => cards_of_eq hcards id c hc⟩
  rw [hget] at he'
  split at he'
  · cases he'
    cases hc
  · exact Or.inr ⟨e', he', hc⟩

lemma insertLanReceived {now : Time} {job : DeviceJob} {r : LanInserted}
    (h : j.insertLanReceived now job = some (r, j')) : CardsLater new j j' := by
  have hcards : j'.cardPayments = j.cardPayments := by
    unfold Journal.insertLanReceived at h
    rw [Option.bind_eq_some_iff] at h
    obtain ⟨kasaId, -, h⟩ := h
    split at h
    · cases h
      rfl
    · rw [Option.map_eq_some_iff] at h
      obtain ⟨known, -, heq⟩ := h
      cases heq
      rfl
  refine ⟨fun id e' he' hc => ?_, fun id c hc _ => cards_of_eq hcards id c hc⟩
  rcases Journal.get_insertLanReceived h with ⟨id₀, -, -, -, -, hget⟩ | ⟨-, rfl⟩
  · rw [hget] at he'
    split at he'
    · cases he'
      cases hc
    · exact Or.inr ⟨e', he', hc⟩
  · exact Or.inr ⟨e', he', hc⟩

lemma recoverAfterRestart (j : Journal) (now : Time) :
    CardsLater new j (j.recoverAfterRestart now) :=
  of_map (fun _ e => recoverRow_contact now e) (Journal.get_recoverAfterRestart j now) rfl

/-- Pruning drops rows, and card rows only with the rows of their jobs. -/
lemma prune (j : Journal) (now : Time) (n : ℕ) : CardsLater new j (j.prune now n) := by
  have hrel : (∀ id e', (j.prune now n).get id = some e' → j.get id = some e') ∧
      (∀ id, ((j.prune now n).deviceJobs.get? id).isSome → (j.deviceJobs.get? id).isSome) ∧
      ∀ id c, j.cardPayment id = some c → ((j.prune now n).deviceJobs.get? id).isSome →
        (j.prune now n).cardPayment id = some c := by
    refine Journal.prune_relates
      (R := fun j j' => (∀ id e', j'.get id = some e' → j.get id = some e') ∧
        (∀ id, (j'.deviceJobs.get? id).isSome → (j.deviceJobs.get? id).isSome) ∧
        ∀ id c, j.cardPayment id = some c → (j'.deviceJobs.get? id).isSome →
          j'.cardPayment id = some c)
      (fun j => ⟨fun _ _ h => h, fun _ h => h, fun _ _ h _ => h⟩) ?_ ?_ j n
    · rintro a b c ⟨hget, hrows, hcards⟩ ⟨hget', hrows', hcards'⟩
      exact ⟨fun id e he => hget id e (hget' id e he), fun id h => hrows id (hrows' id h),
        fun id p hp h => hcards' id p (hcards id p hp (hrows' id h)) h⟩
    · intro s hs j
      simp only [Journal.pruneStatements, List.mem_cons, List.not_mem_nil, or_false] at hs
      rcases hs with rfl | rfl | rfl | rfl
      · refine ⟨fun id e' he' => ?_, fun id h => ?_, fun id c hc _ => hc⟩
        · rw [Journal.get_pruneDeviceJobs, Option.filter_eq_some_iff] at he'
          exact he'.1
        · obtain ⟨e, he⟩ := Option.isSome_iff_exists.mp h
          exact Option.isSome_iff_exists.mpr ⟨e, Table.get?_keep_some he⟩
      · refine ⟨fun id e' he' => ?_, fun id h => h, fun id c hc _ => hc⟩
        rw [Journal.get_pruneLanJobs, Option.filter_eq_some_iff] at he'
        exact he'.1
      · -- the card rows whose job has a row stay
        refine ⟨fun id e' he' => he', fun id h => h, fun id c hc h => ?_⟩
        change ((j.cardPayments.keep fun k _ => (j.deviceJobs.get? k).isSome).get? id) = some c
        rw [Table.get?_keep, show j.cardPayments.get? id = some c from hc]
        exact Option.filter_eq_some_iff.mpr ⟨rfl, h⟩
      · exact ⟨fun id e' he' => he', fun id h => h, fun id c hc _ => hc⟩
  exact ⟨fun id e' he' hc => Or.inr ⟨e', hrel.1 id e' he', hc⟩,
    fun id c hc h => ⟨c, hrel.2.2 id c hc h, rfl, rfl, rfl⟩⟩

end CardsLater

/-! ### Steps of the source -/

variable {E : Executor} {timing : Timing}

/-- A call of the executor takes a step. -/
def CallSteps (w : World E) (event : Event E) (j : Journal) : Prop :=
  ∃ i ev t t' s, event = .task i ev ∧ w.proc.tasks i = some t ∧
    E.step w.clock i ev t ⟨w.journal, w.dev, w.proc.vol⟩ = some (t', s) ∧ j = s.journal

/-- No other step journals a contact. -/
lemma Shape.cardsLater {w w' : World E} {event : Event E} (h : Shape timing w event w') :
    CallSteps w event w'.journal ∨ CardsLater (fun _ => False) w.journal w'.journal := by
  have hsame : w'.journal = w.journal →
      CallSteps w event w'.journal ∨ CardsLater (fun _ => False) w.journal w'.journal := fun hj =>
    Or.inr (by rw [hj]; exact .refl _)
  have hop : ∀ {jobId op}, op ≠ RowOp.markDeviceContact → op ≠ RowOp.cardContact →
      w'.journal = (w.journal.updateRow w.clock jobId op).2 →
      CallSteps w event w'.journal ∨ CardsLater (fun _ => False) w.journal w'.journal :=
    fun h h' hj => Or.inr (by rw [hj]; exact .updateRow _ _ _ h h')
  cases h with
  | quiet f hj => exact hsame hj
  | clock t h | dev _ _ _ _ h | crash h | reconcile _ _ _ _ _ _ _ _ h
  | detached _ _ _ _ _ _ h => exact hsame (by subst h; rfl)
  | inserted job refused f hnew hj => exact Or.inr (by rw [hj]; exact .insert hnew)
  | lanInserted job jobId f hj => exact Or.inr (.insertLanReceived hj)
  | expired f jobId text hpc hj => exact hop (by rintro ⟨⟩) (by rintro ⟨⟩) hj
  | noWorker f jobId code text henq hj => exact hop (by rintro ⟨⟩) (by rintro ⟨⟩) hj
  | guarded f q task job hcall hguard reason hj => exact hop (by rintro ⟨⟩) (by rintro ⟨⟩) hj
  | noted f jobId reason hj => exact hop (by rintro ⟨⟩) (by rintro ⟨⟩) hj
  | execute q entry queuedAt hpc hrow h =>
    exact hop (by rintro ⟨⟩) (by rintro ⟨⟩)
      (show w'.journal = (w.journal.updateRow w.clock entry.job.id .startExecution).2 by
        rw [h]
        rfl)
  | acked f jobId op hopKind hj =>
    refine Or.inr ?_
    rw [hj]
    rcases hopKind with rfl | rfl | ⟨_, _, _, rfl, -⟩
    · exact .updateOdoo _ _ _ (by rintro ⟨⟩) (by rintro ⟨⟩)
    · exact .updateOdoo _ _ _ (by rintro ⟨⟩) (by rintro ⟨⟩)
    · exact .updateOdoo _ _ _ (by rintro ⟨⟩) (by rintro ⟨⟩)
  | authAcked f jobId note hj => exact Or.inr (by rw [hj]; exact .markCardAuthAcked _ _ _)
  | reported f jobId odooJobId note hj =>
    exact Or.inr (by rw [hj]; exact .markLanReported _ _ _ _ _)
  | joined q job task startedAt guarded t outcome ok hpc htask hout h =>
    cases ok with
    | false => exact hsame (by subst h; rfl)
    | true =>
      exact hop (by rintro ⟨⟩) (by rintro ⟨⟩)
        (show w'.journal = (w.journal.updateRow w.clock job.id
            (.recordOutcome (outcome.reread w.journal.readFloat))).2 by
          rw [h]
          rfl)
  | answered q entry task t answer ok hpc htask hout h =>
    cases ok with
    | false => exact hsame (by subst h; rfl)
    | true =>
      cases answer with
      | done result =>
        exact hop (by rintro ⟨⟩) (by rintro ⟨⟩) (show w'.journal = (w.journal.updateRow w.clock
          entry.job.id (.recordOutcome (.done (result.reread w.journal.readFloat)))).2 by
            rw [h]; rfl)
      | failed code text =>
        exact hop (by rintro ⟨⟩) (by rintro ⟨⟩) (show w'.journal = (w.journal.updateRow w.clock
          entry.job.id (.recordOutcome (.failed code text))).2 by rw [h]; rfl)
      | stillUnknown reason =>
        exact hop (by rintro ⟨⟩) (by rintro ⟨⟩) (show w'.journal = (w.journal.updateRow w.clock
          entry.job.id (.recordStillUnknown reason)).2 by rw [h]; rfl)
  | task i ev t t' s hev htask hstep h =>
    exact Or.inl ⟨i, ev, t, t', s, hev, htask, hstep, by rw [h]⟩
  | start n hup h =>
    subst h
    have hrec : CardsLater (fun _ => False) w.journal (w.journal.recoverAfterRestart w.clock) :=
      .recoverAfterRestart _ _
    have hpruned : CardsLater (fun _ => False) (w.journal.recoverAfterRestart w.clock)
        ((w.journal.recoverAfterRestart w.clock).prune w.clock n) := .prune _ _ _
    refine Or.inr ⟨fun id e' he' hc => ?_, fun id c hc hrow => hpruned.cards id c hc hrow⟩
    rcases hpruned.contact id e' he' hc with hnew | ⟨e, he, hc⟩
    · exact hnew.elim
    · exact hrec.contact id e he hc

namespace Tim

/-! ### Card calls -/

/-- The job whose contact an errand journals next. -/
def Errand.contacts : Errand → ErrandPc → Option ℤ
  | reversal run, .contact _ => some run.jobId
  | op _ jobId _, .begin | copy jobId _, .begin => some jobId
  | _, _ => none

/-- The same of a session. -/
def Session.contacts (x : Session) : Option ℤ :=
  match x.pc with
  | .working _ pc => x.errand.contacts pc
  | _ => none

/-- The job whose contact a call may journal next. -/
def TimTask.contacts : TimTask → Option ℤ
  | twoPhase job _ _ => some job.id
  | op _ (.session x) | reconcile _ (.reading _ x) | reconcile _ (.running x)
  | safety (.session x _ _ _) => x.contacts
  | _ => none

section Steps

variable {cfg : TimConfig} {now : Time} {i : ℕ} {ev : TimEvent} {s s' : TimState}
  {new : ℤ → Prop}

lemma cardsLater_balanceContact (j : Journal) (now : Time) (ip date : String)
    (source : BalanceSource) (jobId : Option ℤ) :
    CardsLater new j (j.cardBalanceContact now ip date source jobId).2 := by
  obtain ⟨-, hget, hcards⟩ := get_cardBalanceContact j now ip date source jobId
  exact .of_get_eq hget (CardsLater.cards_of_eq hcards)

lemma errandStep_cardsLater {x : Errand} {ip : String} {tid : Option String} {pc : ErrandPc}
    {r : ErrandStep} (h : x.step cfg now ip tid s pc ev = some r) :
    CardsLater (fun id => x.contacts pc = some id) s.journal r.state.journal := by
  have hmono : ∀ {id : ℤ} {j : Journal}, x.contacts pc = some id → CardsLater (· = id) s.journal j →
      CardsLater (fun id => x.contacts pc = some id) s.journal j := by
    intro id j hid hlater
    refine ⟨fun k e' he' hc => (hlater.contact k e' he' hc).imp_left ?_, hlater.cards⟩
    rintro rfl
    exact hid
  cases x with
  | readLast =>
    simp only [Errand.step] at h
    split at h <;> cases h <;> exact .refl _
  | reversal run =>
    cases ReversalMove.of_step h with
    | sent base j hj => exact hmono rfl (.cardContactOf hj)
    | asked | read | alone | known | answered | failed | closed | refused => exact .refl _
  | op o jobId date =>
    have hmark : ∀ {j}, s.journal.markDeviceContact now jobId = (true, j) →
        CardsLater (· = jobId) s.journal j := fun hj => by
      have := CardsLater.markDeviceContact s.journal now jobId
      rwa [hj] at this
    cases OpMove.of_step h with
    | contacted j hop hj => exact hmono rfl (hmark hj)
    | called j hop hj => exact hmono rfl (hmark hj)
    | rowed => exact cardsLater_balanceContact _ _ _ _ _ _
    | finished => exact .refl _
  | rerun o =>
    simp only [Errand.step] at h
    split at h
    · cases h
      exact .refl _
    · rw [Option.bind_eq_some_iff] at h
      obtain ⟨_, -, h⟩ := h
      cases h
      exact .refl _
    · cases h
  | copy jobId transSeq =>
    simp only [Errand.step, copyStep] at h
    split at h
    · cases h
      exact hmono rfl (.markDeviceContact _ _ _)
    · cases h
      exact .refl _
    · cases h
      exact .refl _
    · split at h <;> cases h <;> exact .refl _
    · cases h
      exact .refl _
    · cases h
      exact .refl _
    · cases h
  | safety date midnight =>
    cases SafetyMove.of_step h with
    | sent row j hj =>
      obtain ⟨-, hget, hcards⟩ := get_cardBalanceContact s.journal now ip date .safety none
      rw [hj] at hget hcards
      exact .of_get_eq hget (CardsLater.cards_of_eq hcards)
    | forgotten => exact .of_get_eq (fun _ => rfl) (CardsLater.cards_of_eq rfl)
    | due | answered | finished => exact .refl _

lemma sessionStep_cardsLater {x x' : Session} {jobId : Option ℤ}
    (h : x.step cfg now i jobId ev s = some (x', s')) :
    CardsLater (fun id => x.contacts = some id) s.journal s'.journal := by
  cases SessionMove.of_step h with
  | around pc _ hj =>
    rw [hj]
    exact .refl _
  | worked tid pc r hpc hr =>
    have hlater := errandStep_cardsLater hr
    rw [(x.listen_frame jobId ev s).1] at hlater
    have hcontacts : x.contacts = x.errand.contacts pc := by rw [Session.contacts, hpc]
    have hjournal : (x.worked jobId tid r).2.journal = r.state.journal := by
      unfold Session.worked
      split <;> rfl
    rw [hcontacts, hjournal]
    exact hlater

lemma InputMove.cardsLater {job : DeviceJob} {spec : TerminalSpec} {req : PurchaseRequest}
    {pc : PurchasePc} {input : PurchaseInput} {settles : Option DeviceJob}
    (h : InputMove cfg now i job spec req s pc ev input s' settles) :
    CardsLater (fun id => some job.id = some id) s.journal s'.journal := by
  cases h with
  | contacted tid base j hj =>
    have hlater := CardsLater.cardContactOf hj
    exact ⟨fun id e' he' hc => (hlater.contact id e' he' hc).imp_left fun h => by rw [h],
      hlater.cards⟩
  | stored held j hj =>
    have hget : j = (s.journal.cardAuthorized now job.id (held.facts.transSeq.getD 0)
        (cardResult cfg.floatText "authorized" held.tid held.facts)).2 := by rw [hj]
    rw [hget]
    exact .cardAuthorized _ _ _ _ _
  | received | answered | quiet => exact .refl _

lemma TwoPhaseMove.cardsLater {job : DeviceJob} {kind : TwoPhase} {pc pc' : TwoPhasePc}
    (h : TwoPhaseMove cfg now i job kind s pc ev pc' s') :
    CardsLater (fun id => some job.id = some id) s.journal s'.journal := by
  cases h with
  | begin | refused | locked => exact .refl _
  | unavailable =>
    rw [(closeChannel_frame _ _).1]
    exact .refl _
  | ran spec req pc pc' _ input s₁ settles acts hinput _ =>
    rw [(applyActs_frame acts s₁).1]
    exact hinput.cardsLater
  | finished spec req pc _ input s₁ settles acts e hinput _ =>
    change CardsLater _ s.journal (((acts.foldl _ s₁).closeChannel i).journal)
    rw [(closeChannel_frame _ _).1, (applyActs_frame acts s₁).1]
    exact hinput.cardsLater
  | noted why _ j hj =>
    rcases hj with rfl | rfl
    · exact .refl _
    · exact .cardEnded _ _ _

lemma cardsLater_journalBalance (j : Journal) (row : Option ℤ) (outcome : Outcome) :
    CardsLater new j (journalBalance j row outcome) := by
  unfold journalBalance
  split
  · exact .of_get_eq (fun _ => rfl) (CardsLater.cards_of_eq rfl)
  · exact .of_get_eq (fun _ => rfl) (CardsLater.cards_of_eq rfl)
  · exact .refl _

lemma opTaskStep_cardsLater {job : DeviceJob} {pc pc' : OpPc}
    (h : opTaskStep cfg now i job s pc ev = some (pc', s')) :
    CardsLater (fun id => (TimTask.op job pc).contacts = some id) s.journal s'.journal := by
  cases OpTaskMove.of_step h with
  | session x x' _ _ hstep => exact sessionStep_cardsLater hstep
  | transacted facts tid _ j result hj =>
    rcases hj with rfl | ⟨seq, rfl⟩
    · exact .refl _
    · exact .cardTransacted _ _ _
  | noted why _ j hj =>
    rcases hj with rfl | rfl
    · exact .refl _
    · exact .cardEnded _ _ _
  | recorded row outcome _ j hj =>
    rcases hj with rfl | rfl
    · exact .refl _
    · exact cardsLater_journalBalance _ _ _
  | begin | found | copied | finished | printed | refused => exact .refl _

lemma reconcileStep_cardsLater {entry : JournalEntry} {pc pc' : ReconcilePc}
    (h : reconcileStep cfg now i entry s pc ev = some (pc', s')) :
    CardsLater (fun id => (TimTask.reconcile entry pc).contacts = some id) s.journal
      s'.journal := by
  cases ReconcileMove.of_step h with
  | reading card x x' _ _ hx => exact sessionStep_cardsLater hx
  | running x x' _ _ hx => exact sessionStep_cardsLater hx
  | charged card tid facts _ a j hj =>
    rcases hj with rfl | ⟨seq, rfl⟩
    · exact .refl _
    · exact .cardTransacted _ _ _
  | person why _ a j hj =>
    rcases hj with rfl | rfl
    · exact .refl _
    · exact .cardForPerson _ _ _
  | begin | told | found | asked | read | judged | settled | shift | reran => exact .refl _

lemma safetyLoopStep_cardsLater {pc pc' : SafetyPc}
    (h : safetyLoopStep cfg now i s pc ev = some (pc', s')) :
    CardsLater (fun id => (TimTask.safety pc).contacts = some id) s.journal s'.journal := by
  cases SafetyLoopMove.of_step h with
  | session x x' _ _ _ _ _ hx => exact sessionStep_cardsLater hx
  | recorded row outcome rest date midnight _ j hj =>
    rcases hj with rfl | rfl
    · exact .refl _
    · exact cardsLater_journalBalance _ _ _
  | slept | woke | skipped | began | finished => exact .refl _

/-- A step of a card call journals no contact but the one it is about to. -/
lemma TimMove.cardsLater {t t' : TimTask} (h : TimMove cfg now i s t ev t' s') :
    CardsLater (fun id => t.contacts = some id) s.journal s'.journal := by
  cases h with
  | elapsed => exact .refl _
  | twoPhase _ _ _ _ _ _ hmove => exact hmove.cardsLater
  | settle job op pc pc' _ _ hmove =>
    rw [hmove.journal.1]
    exact .refl _
  | op _ _ _ _ _ hstep => exact opTaskStep_cardsLater hstep
  | reconcile _ _ _ _ _ hstep => exact reconcileStep_cardsLater hstep
  | safety _ _ _ _ hstep => exact safetyLoopStep_cardsLater hstep

end Steps

end Tim

end DevBridge

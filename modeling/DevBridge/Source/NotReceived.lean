import DevBridge.Source.Acks

/-!
# Jobs that the journal has no row of

A `not_received` ack tells Odoo that the bridge never had a job.  The control loop sends it
for an id without a row and waits for the answer, and the control loop is the only task that
journals jobs of Odoo, so the row cannot appear while it waits.  Once Odoo has accepted the
ack it does not hand the job out again, and no answer that does so is on its way: the loop
has one call under way at a time.

An ack that Odoo refuses, or receives only after the loop gave the call up, holds as long as Odoo
does not hand the job out in between.
-/

namespace DevBridge

variable {E : Executor} {timing : Timing}

/-- Odoo does not hand a job out again once it has accepted `not_received` for it. -/
def NotHandedOutAgain : Transition.Law (World E) (Event E) := fun w e _ =>
  ∀ reply id, e = .odoo (.answerNext reply) → World.handedOut reply = some id →
    id ∉ w.odoo.accepted

/-- Odoo does not hand the job out before it has accepted `not_received` for it. -/
def NotHandedOutBefore (id : ℤ) : Transition.Law (World E) (Event E) := fun w e _ =>
  ∀ reply, e = .odoo (.answerNext reply) → World.handedOut reply = some id →
    id ∈ w.odoo.accepted

/-- What a step does to the talk of the control loop with Odoo. -/
structure ControlMove (w : World E) (e : Event E) (w' : World E) : Prop where
  /-- The loop takes a job as missing only when it has no row. -/
  absent : ∀ id, w'.proc.control.absent = some id → 0 < id ∧
    (w.proc.control.absent = some id ∨ (w.journal.get id = none ∧ w'.journal = w.journal))
  handing : ∀ id, w'.proc.control.handing = some id → w.proc.control.handing = some id ∨
    ∃ reply, e = .odoo (.answerNext reply) ∧ World.handedOut reply = some id
  accepted : ∀ id ∈ w.odoo.accepted, id ∈ w'.odoo.accepted
  inTimeMono : ∀ id ∈ w.odoo.acceptedInTime, id ∈ w'.odoo.acceptedInTime
  /-- Odoo accepts in time only the ack that the loop waits for. -/
  inTime : ∀ id ∈ w'.odoo.acceptedInTime, id ∈ w.odoo.acceptedInTime ∨
    (id ∈ w'.odoo.accepted ∧ w'.proc.control.absent = some id)

namespace ControlMove

variable {w w' : World E} {e : Event E}

/-- A step after which the loop neither misses a job nor is handed one. -/
lemma of_neither (ha : w'.proc.control.absent = none) (hh : w'.proc.control.handing = none)
    (hacc : w'.odoo.accepted = w.odoo.accepted)
    (htime : w'.odoo.acceptedInTime = w.odoo.acceptedInTime) : ControlMove w e w' where
  absent id h := by
    rw [ha] at h
    cases h
  handing id h := by
    rw [hh] at h
    cases h
  accepted _ h := hacc ▸ h
  inTimeMono _ h := htime ▸ h
  inTime _ h := Or.inl (htime ▸ h)

/-- A step that leaves the loop where it is. -/
lemma of_same (hpos : ∀ id, w.proc.control.absent = some id → 0 < id)
    (hpc : w'.proc.control = w.proc.control) (hacc : ∀ id ∈ w.odoo.accepted, id ∈ w'.odoo.accepted)
    (htime : w'.odoo.acceptedInTime = w.odoo.acceptedInTime) : ControlMove w e w' where
  absent _ h := ⟨hpos _ (hpc ▸ h), Or.inl (hpc ▸ h)⟩
  handing _ h := Or.inl (hpc ▸ h)
  accepted := hacc
  inTimeMono _ h := htime ▸ h
  inTime _ h := Or.inl (htime ▸ h)

end ControlMove

lemma ControlPc.absent_pos {pc : ControlPc} {id : ℤ} (h : pc.absent = some id) : 0 < id := by
  unfold absent at h
  split at h
  · cases h
    exact PendingJob.pos _
  · cases h
    exact PendingJob.pos _
  · cases h

lemma ControlPc.not_both {pc : ControlPc} {id : ℤ} (h : pc.absent = some id) :
    pc.handing = none := by
  cases pc <;> first | rfl | cases h

/-- Where the loop stands after a job was handed out. -/
lemma World.acceptJob_control (w : World E) (job : OdooJob) (ok : Bool) :
    (w.acceptJob job ok).proc.control.absent = none ∧
      (w.acceptJob job ok).proc.control.handing = none ∧
      (w.acceptJob job ok).odoo = w.odoo := by
  unfold World.acceptJob
  split
  · exact ⟨rfl, rfl, rfl⟩
  · split <;> split <;> exact ⟨rfl, rfl, rfl⟩

namespace ControlMove

variable {w w' : World E} {e : Event E}

lemma of_controlStep {ev : ControlEvent} (h : w.controlStep timing ev = some w') :
    ControlMove w e w' := by
  have hpc : ∀ pc : ControlPc, pc.absent = none → pc.handing = none →
      ControlMove w e (w.withControl pc) := fun _ ha hh => of_neither ha hh rfl rfl
  unfold World.controlStep at h
  split at h
  · split at h <;> (cases h; exact hpc _ rfl rfl)
  · cases h
    exact hpc _ rfl rfl
  · cases h
    unfold World.pendingArrived
    split <;> exact hpc _ rfl rfl
  · cases h
    exact hpc _ rfl rfl
  · cases h
    exact of_neither rfl rfl rfl rfl
  · split at h
    · cases h
      exact hpc _ rfl rfl
    · split at h
      · cases h
        exact of_neither rfl rfl rfl rfl
      · -- the row of the entry was looked up in this step
        rename_i p rest retryLater _ _ _ _ hnone
        cases h
        refine ⟨fun id hid => ?_, fun _ hid => (nomatch hid), fun _ h => h,
          fun _ h => h, fun _ h => Or.inl h⟩
        cases hid
        exact ⟨p.pos, Or.inr ⟨hnone, rfl⟩⟩
  · rename_i p rest retryLater hmiss
    cases h
    refine ⟨fun id hid => ?_, fun _ hid => (nomatch hid), fun _ h => h,
      fun _ h => h, fun _ h => Or.inl h⟩
    cases hid
    exact ⟨p.pos, Or.inl (by rw [hmiss]; rfl)⟩
  · rename_i rest retryLater reply ok hwait
    cases h
    rcases w.notReceivedArrived_eq rest retryLater (reply.bind parseAckReply) with
      heq | ⟨r, heq⟩ <;> rw [heq] <;> exact hpc _ rfl rfl
  · rename_i p rest retryLater answer error hwait
    simp only [Option.some.injEq] at h
    subst h
    let late := if answer.isNone then p.id :: w.odoo.late else w.odoo.late
    let v : World E := { w with odoo := { w.odoo with late } }
    rcases v.notReceivedArrived_eq rest retryLater (.error error) with heq | ⟨r, heq⟩
    · exact of_neither (by rw [heq]; rfl) (by rw [heq]; rfl) (by rw [heq]; rfl)
        (by rw [heq]; rfl)
    · exact of_neither (by rw [heq]; rfl) (by rw [heq]; rfl) (by rw [heq]; rfl)
        (by rw [heq]; rfl)
  · cases h
    unfold World.nextArrived
    split
    · exact of_neither rfl rfl rfl rfl
    · exact hpc _ rfl rfl
    · rename_i job _ _
      obtain ⟨ha, hh, ho⟩ := w.acceptJob_control job _
      exact of_neither ha hh (by rw [ho]) (by rw [ho])
  · cases h
    exact of_neither rfl rfl rfl rfl
  · split at h <;> (cases h; exact of_neither rfl rfl rfl rfl)
  · split at h
    · cases h
      exact of_neither rfl rfl rfl rfl
    · split at h <;> (cases h; exact of_neither rfl rfl rfl rfl)
  · cases h

lemma of_odooStep {ev : OdooEvent} (h : w.odooStep ev = some w') :
    ControlMove w (.odoo ev) w' := by
  unfold World.odooStep at h
  split at h
  · cases h
    exact of_neither rfl rfl rfl rfl
  · rename_i reply hpc
    cases h
    exact ⟨fun _ hid => (nomatch hid), fun _ hid => Or.inr ⟨reply, rfl, hid⟩,
      fun _ h => h, fun _ h => h, fun _ h => Or.inl h⟩
  · rename_i p rest retryLater reply hpc
    have habsent : ∀ pc : ControlPc, pc = .notReceived p rest retryLater (some reply) →
        ∀ id, pc.absent = some id → 0 < id ∧ w.proc.control.absent = some id := by
      rintro _ rfl id hid
      cases hid
      exact ⟨p.pos, by rw [hpc]; rfl⟩
    simp only at h
    split at h
    · cases h
      refine ⟨fun id hid => ?_, fun _ hid => (nomatch hid),
        fun _ h => List.mem_cons_of_mem _ h, fun _ h => List.mem_cons_of_mem _ h,
        fun id hid => ?_⟩
      · obtain ⟨hpos, hid⟩ := habsent _ rfl id hid
        exact ⟨hpos, Or.inl hid⟩
      · rcases List.mem_cons.mp hid with rfl | hid
        · exact Or.inr ⟨List.mem_cons_self, rfl⟩
        · exact Or.inl hid
    · cases h
      refine ⟨fun id hid => ?_, fun _ hid => (nomatch hid), fun _ h => h,
        fun _ h => h, fun _ h => Or.inl h⟩
      obtain ⟨hpos, hid⟩ := habsent _ rfl id hid
      exact ⟨hpos, Or.inl hid⟩
  · split at h
    · cases h
      exact of_same (fun _ => ControlPc.absent_pos) rfl
        (fun _ h => List.mem_cons_of_mem _ h) rfl
    · cases h
  · cases h

lemma of_step (h : w.step timing e = some w') : ControlMove w e w' := by
  cases ht : World.talks e with
  | false =>
    have htalk := World.talk_of_step ht h
    simp only [World.talk, Prod.mk.injEq] at htalk
    exact of_same (fun _ => ControlPc.absent_pos) htalk.1
      (fun _ h => htalk.2.2.1 ▸ h) (by rw [htalk.2.2.1])
  | true =>
    cases e with
    | clock _ | elapse _ | dev _ | lan _ _ | worker _ _ | reconciler _ | reporter _
    | task _ _ => cases ht
    | crash =>
      simp only [World.step] at h
      split at h <;> cases h
      refine of_neither rfl rfl ?_ ?_
      · simp only [World.crash]
        split <;> rfl
      · simp only [World.crash]
        split <;> rfl
    | start n =>
      simp only [World.step] at h
      split at h <;> cases h
      exact of_neither rfl rfl rfl rfl
    | odoo ev => exact of_odooStep h
    | acker ev =>
      simp only [World.step] at h
      split at h
      · obtain ⟨hpc, ho⟩ := World.control_of_ackerStep h
        exact of_same (fun _ => ControlPc.absent_pos) hpc (fun _ h => ho ▸ h) (by rw [ho])
      · cases h
    | control ev =>
      simp only [World.step] at h
      split at h
      · exact of_controlStep h
      · cases h

end ControlMove

/-! ### No row appears -/

/-- A job of Odoo gets a row only when an answer to `next` hands it out. -/
lemma JobsEffect.handed {w w' : World E} (h : JobsEffect w w') {id : ℤ} (hid : 0 < id)
    (hnone : w.journal.get id = none) (hsome : w'.journal.get id ≠ none) :
    w.proc.control.handing = some id := by
  have hlater : RowsLater w.journal w'.journal → w'.journal.get id = none := fun hr => by
    rcases hr id with ⟨-, h2⟩ | ⟨_, _, h1, -⟩
    · exact h2
    · rw [hnone] at h1
      cases h1
  cases h with
  | later hr => exact absurd (hlater hr) hsome
  | executed _ _ _ hr => exact absurd (hlater hr) hsome
  | added id' e hadd _ _ hnext =>
    have heq : id = id' := by
      by_contra hne
      exact hsome (by rw [hadd.2, if_neg hne, hnone])
    subst heq
    rcases hnext with hneg | hnext
    · omega
    · exact hnext
  | restarted hr =>
    obtain ⟨e', he'⟩ := Option.ne_none_iff_exists'.mp hsome
    obtain ⟨e, he, -⟩ := hr id e' he'
    rw [hnone] at he
    cases he

/-- A job of Odoo that has no row, and that the loop is not being handed. -/
structure Unknown (w : World E) (id : ℤ) : Prop where
  pos : 0 < id
  noRow : w.journal.get id = none
  notHanded : w.proc.control.handing ≠ some id

lemma unknown_of_absent {w : World E} {id : ℤ} (h : w.proc.control.absent = some id)
    (hnone : w.journal.get id = none) : Unknown w id where
  pos := ControlPc.absent_pos h
  noRow := hnone
  notHanded := by rw [ControlPc.not_both h]; simp

/-- The job was not journaled and not executed between two states. -/
structure Untouched (w w' : World E) (id : ℤ) : Prop where
  journaled : w'.log.journaled.count id = w.log.journaled.count id
  executed : w'.log.executed.count id = w.log.executed.count id

/-- A job without a row stays so, and is not touched, unless an answer hands it out. -/
lemma Unknown.step {w w' : World E} {e : Event E} {id : ℤ} (hu : Unknown w id)
    (h : w.step timing e = some w')
    (hno : ∀ reply, e = .odoo (.answerNext reply) → World.handedOut reply ≠ some id) :
    Unknown w' id ∧ Untouched w w' id := by
  have hmove := ControlMove.of_step h
  have hjobs := (Shape.of_step h).jobs
  have hnone : w'.journal.get id = none := by
    by_contra hsome
    exact hu.notHanded (hjobs.handed hu.pos hu.noRow hsome)
  refine ⟨⟨hu.pos, hnone, fun hhand => ?_⟩, ?_⟩
  · rcases hmove.handing id hhand with hold | ⟨reply, rfl, hreply⟩
    · exact hu.notHanded hold
    · exact hno reply rfl hreply
  -- a row that is executed or added is another one
  cases hjobs with
  | later _ hj hx | restarted _ hj hx => exact ⟨by rw [hj], by rw [hx]⟩
  | executed id' _ _ _ hj hx he =>
    have hne : id' ≠ id := by
      rintro rfl
      rw [hu.noRow] at he
      cases he
    exact ⟨by rw [hj], by rw [hx, List.count_cons_of_ne hne]⟩
  | added id' _ hadd hj hx =>
    have hne : id' ≠ id := by
      rintro rfl
      rw [hadd.2, if_pos rfl] at hnone
      cases hnone
    exact ⟨by rw [hj, List.count_cons_of_ne hne], by rw [hx]⟩

/-- What holds while the loop acks a job `not_received`, and for ever once Odoo has accepted
it in time. -/
structure NotReceivedInv (w : World E) : Prop where
  absent : ∀ id, w.proc.control.absent = some id → w.journal.get id = none
  settled : ∀ id ∈ w.odoo.acceptedInTime, id ∈ w.odoo.accepted ∧ Unknown w id

lemma notReceivedInv_of_reach {w : World E}
    (h : (source E timing).Reach NotHandedOutAgain w) : NotReceivedInv w := by
  refine h.invariant (P := NotReceivedInv) ?_ ?_
  · exact ⟨fun _ h => (nomatch h), fun _ h => (nomatch h)⟩
  · intro a ev b _ ih hstep hlaw
    have hmove := ControlMove.of_step hstep
    have habsent : ∀ id, b.proc.control.absent = some id → b.journal.get id = none := by
      intro id hid
      obtain ⟨hpos, hold | ⟨hnone, hj⟩⟩ := hmove.absent id hid
      · -- a row that is absent stays absent unless an answer to `next` hands the job out
        by_contra hsome
        have hhand := (Shape.of_step hstep).jobs.handed hpos (ih.absent id hold) hsome
        rw [ControlPc.not_both hold] at hhand
        cases hhand
      · rw [hj, hnone]
    refine ⟨habsent, fun id hid => ?_⟩
    rcases hmove.inTime id hid with hold | ⟨hacc, hpc⟩
    · obtain ⟨hacc, hu⟩ := ih.settled id hold
      exact ⟨hmove.accepted id hacc,
        (hu.step hstep fun reply he hreply => hlaw reply id he hreply hacc).1⟩
    · exact ⟨hacc, unknown_of_absent hpc (habsent id hpc)⟩

/-! ### The acks -/

/-- Only the control loop sends a `not_received`, for the job it found no row of. -/
lemma notReceived_sent {law : Transition.Law (World E) (Event E)} {w w' : World E}
    {e : Event E} {id : ℤ} (hreach : (source E timing).Reach law w)
    (h : w.step timing e = some w') (hacks : w'.log.acks = .notReceived id :: w.log.acks) :
    w.proc.control.absent = some id ∧ w'.proc.control.absent = some id := by
  have hne : w'.log.acks ≠ w.log.acks := fun heq => by
    rw [heq] at hacks
    exact List.cons_ne_self _ _ hacks.symm
  cases ht : World.talks e with
  | false =>
    have htalk := World.talk_of_step ht h
    simp only [World.talk, Prod.mk.injEq] at htalk
    exact absurd htalk.2.2.2.1 hne
  | true =>
    cases e with
    | clock _ | elapse _ | dev _ | lan _ _ | worker _ _ | reconciler _ | reporter _
    | task _ _ => cases ht
    | crash | start _ =>
      simp only [World.step] at h
      split at h <;> cases h
      exact absurd rfl hne
    | odoo ev => exact absurd (World.acker_of_odooStep h).2.1 hne
    | acker ev =>
      simp only [World.step] at h
      split at h
      · -- the acks of the ack sender report rows
        rcases acks_of_ackerStep h with hsame | ⟨a, ha, hsent⟩
        · exact absurd hsame hne
        · rw [hacks] at hsent
          cases hsent
          exact absurd rfl ((answeredInv_of_reach hreach).reports _ ha)
      · cases h
    | control ev =>
      simp only [World.step] at h
      split at h
      · obtain ⟨-, -, hsame | ⟨p, rest, retryLater, hpc, hpc', hsent⟩⟩ :=
          World.acker_of_controlStep h
        · exact absurd hsame hne
        · rw [hacks] at hsent
          cases hsent
          exact ⟨by rw [hpc]; rfl, by rw [hpc']; rfl⟩
      · cases h

/-- A job without a row stays so over a run in which no answer hands it out. -/
lemma Unknown.kept {law : Transition.Law (World E) (Event E)} {w w' : World E} {id : ℤ}
    (hu : Unknown w id) (h : (source E timing).Leads law w w')
    (hno : ∀ a e b, law a e b → ∀ reply, e = .odoo (.answerNext reply) →
      World.handedOut reply ≠ some id) :
    Unknown w' id ∧ Untouched w w' id := by
  induction h with
  | refl => exact ⟨hu, rfl, rfl⟩
  | tail _ hm ih =>
    obtain ⟨e, hstep, hlaw⟩ := hm
    obtain ⟨hu', hsame⟩ := ih.1.step hstep (hno _ e _ hlaw)
    exact ⟨hu', hsame.journaled.trans ih.2.journaled, hsame.executed.trans ih.2.executed⟩

/-- What Odoo has accepted is not handed out again. -/
lemma notHandedOut_of_accepted {w w' : World E} {id : ℤ} (hacc : id ∈ w.odoo.accepted)
    (h : (source E timing).Leads NotHandedOutAgain w w') :
    (source E timing).Leads (fun a e b => NotHandedOutAgain a e b ∧ NotHandedOutBefore id a e b)
      w w' := by
  have hrun : id ∈ w'.odoo.accepted ∧ (source E timing).Leads
      (fun a e b => NotHandedOutAgain a e b ∧ NotHandedOutBefore id a e b) w w' := by
    induction h with
    | refl => exact ⟨hacc, .refl⟩
    | tail _ hm ih =>
      obtain ⟨e, hstep, hlaw⟩ := hm
      exact ⟨(ControlMove.of_step hstep).accepted id ih.1,
        ih.2.tail ⟨e, hstep, hlaw, fun _ _ _ => ih.1⟩⟩
  exact hrun.2

/-- However the tasks, Odoo's answers and the crashes are ordered: when a job is acked
`not_received` the journal has no row of it, and it is neither journaled nor executed in any
continuation in which Odoo does not hand it out before it has accepted such an ack; an ack that
Odoo accepts while the bridge waits for the answer, whether or not the answer arrives, holds in
any continuation. -/
theorem not_received_sound (E : Executor) (timing : Timing) {w : World E}
    (h : (source E timing).Reach NotHandedOutAgain w) (id : ℤ) :
    (∀ e w₁, (source E timing).step w e = some w₁ →
      w₁.log.acks = .notReceived id :: w.log.acks →
        w.journal.get id = none ∧ w₁.journal.get id = none ∧
        ∀ w', (source E timing).Leads
            (fun a ev b => NotHandedOutAgain a ev b ∧ NotHandedOutBefore id a ev b) w₁ w' →
          w'.journal.get id = none ∧ w'.log.journaled.count id = w₁.log.journaled.count id ∧
            w'.log.executed.count id = w₁.log.executed.count id) ∧
    (id ∈ w.odoo.acceptedInTime → ∀ w', (source E timing).Leads NotHandedOutAgain w w' →
      w'.journal.get id = none ∧ w'.log.journaled.count id = w.log.journaled.count id ∧
        w'.log.executed.count id = w.log.executed.count id) := by
  have hkept : ∀ v v' : World E, Unknown v id → (source E timing).Leads
      (fun a ev b => NotHandedOutAgain a ev b ∧ NotHandedOutBefore id a ev b) v v' →
        v'.journal.get id = none ∧ v'.log.journaled.count id = v.log.journaled.count id ∧
          v'.log.executed.count id = v.log.executed.count id := by
    intro v v' hu hlead
    -- neither before Odoo accepted the ack nor after it is the job handed out
    obtain ⟨hu', hsame⟩ := hu.kept hlead fun a ev b hlaw reply he hreply =>
      hlaw.1 reply id he hreply (hlaw.2 reply he hreply)
    exact ⟨hu'.noRow, hsame.journaled, hsame.executed⟩
  constructor
  · intro e w₁ hstep hacks
    obtain ⟨hpc, hpc'⟩ := notReceived_sent h hstep hacks
    have hnone := (notReceivedInv_of_reach h).absent id hpc
    have hnone' : w₁.journal.get id = none := by
      by_contra hsome
      have hhand := (Shape.of_step hstep).jobs.handed (ControlPc.absent_pos hpc) hnone hsome
      rw [ControlPc.not_both hpc] at hhand
      cases hhand
    exact ⟨hnone, hnone', fun w' hlead => hkept w₁ w' (unknown_of_absent hpc' hnone') hlead⟩
  · intro htime w' hlead
    obtain ⟨hacc, hu⟩ := (notReceivedInv_of_reach h).settled id htime
    exact hkept w w' hu (notHandedOut_of_accepted hacc hlead)

/-- Odoo's promise, as a test. -/
def notHandedOutAgainTest (w : World E) (e : Event E) (_ : World E) : Bool :=
  match e with
  | .odoo (.answerNext reply) => (World.handedOut reply).all fun id => id ∉ w.odoo.accepted
  | _ => true

lemma notHandedOutAgain_of_test {w w' : World E} {e : Event E}
    (h : notHandedOutAgainTest w e w' = true) : NotHandedOutAgain w e w' := by
  rintro reply id rfl hreply
  simpa [notHandedOutAgainTest, hreply] using h

/-- Odoo lists a job as pending, and the loop finds no row of it and acks that. -/
def runUntilNotReceived (id : ℤ) : List (Event Executor.prompt) :=
  [.start 4, .control .poll, .odoo (.answerPending (replyWithPending [id])),
    .control (.arrive true), .control (.entry true), .control .sendNotReceived]

/-- Odoo hands a job out, and it is executed. -/
def runUntilExecuted (id : ℤ) : List (Event Executor.prompt) :=
  let q : DeviceQueue := ⟨.fiscal, ""⟩
  [.control (.entry true), .control .poll,
    .odoo (.answerNext (replyWithJob id "fiscal.open_drawer")), .control (.arrive true),
    .control (.enqueue true true), .worker q (.take true), .worker q (.start true)]

/-- Odoo's promise about a job it has not accepted, as a test. -/
def notHandedOutBeforeTest (id : ℤ) (w : World E) (e : Event E) (_ : World E) : Bool :=
  match e with
  | .odoo (.answerNext reply) => World.handedOut reply != some id || id ∈ w.odoo.accepted
  | _ => true

lemma notHandedOutBefore_of_test {w w' : World E} {e : Event E} {id : ℤ}
    (h : notHandedOutBeforeTest id w e w' = true) : NotHandedOutBefore id w e w' := by
  rintro reply rfl hreply
  simpa [notHandedOutBeforeTest, hreply] using h

/-- The bridge gives the ack of job 7 up; Odoo accepts it late, and hands job 8 out. -/
def acceptedLate : List (Event Executor.prompt) :=
  [.control (.fail (.transport "")), .odoo (.acceptLate 7), .control .poll,
    .odoo (.answerPending (replyWithPending [])), .control (.arrive true)] ++ runUntilExecuted 8

/-- The ack of job 7 was accepted and its answer lost in a crash: there is no row, now and
after the restart.  The same where the bridge gave the ack up, and Odoo accepted it late. -/
theorem not_received_sound_lost_answer :
    (∃ w w', (source Executor.prompt Timing.default).Reach NotHandedOutAgain w ∧
      .notReceived 7 ∈ w.log.acks ∧
      (source Executor.prompt Timing.default).step w .crash = some w' ∧
      w'.journal.get 7 = none ∧ w'.log.executed.count 7 = w.log.executed.count 7) ∧
    ∃ w w₁ w', (source Executor.prompt Timing.default).step w (.control .sendNotReceived) =
        some w₁ ∧
      w₁.log.acks = .notReceived 7 :: w.log.acks ∧
      (source Executor.prompt Timing.default).Leads NotHandedOutAgain w₁ w' ∧
      7 ∈ w'.odoo.accepted ∧ 8 ∈ w'.log.executed ∧ w'.journal.get 7 = none ∧
      w'.log.executed.count 7 = w₁.log.executed.count 7 := by
  let T := source Executor.prompt Timing.default
  constructor
  · obtain ⟨w, hreach, hw⟩ := Transition.reach_of_tests T NotHandedOutAgain
      (runUntilNotReceived 7 ++ [.odoo (.answerNotReceived (.ok (.obj [("ok", .bool true)])))])
      (fun w => .notReceived 7 ∈ w.log.acks && (7 ∈ w.odoo.acceptedInTime && w.up))
      (fun _ _ _ => notHandedOutAgain_of_test) (by decide +kernel) (by decide +kernel)
    simp only [Bool.and_eq_true, decide_eq_true_eq] at hw
    obtain ⟨hacks, hacc, hup⟩ := hw
    have hstep : T.step w .crash = some w.crash := by simp [T, source, World.step, hup]
    obtain ⟨hnone, -, hexec⟩ := (not_received_sound Executor.prompt Timing.default hreach 7).2 hacc
      w.crash (Relation.ReflTransGen.single ⟨_, hstep, by rintro _ _ ⟨⟩⟩)
    exact ⟨w, w.crash, hreach, hacks, hstep, hnone, hexec⟩
  · obtain ⟨w, hreach, hw⟩ := Transition.reach_of_tests T NotHandedOutAgain
      (runUntilNotReceived 7).dropLast
      (fun w => (T.step w (.control .sendNotReceived)).any fun w₁ =>
        w₁.log.acks == .notReceived 7 :: w.log.acks &&
          (T.lawful (fun a e b => notHandedOutAgainTest a e b && notHandedOutBeforeTest 7 a e b)
            w₁ acceptedLate && (T.run w₁ acceptedLate).any fun w' =>
              7 ∈ w'.odoo.accepted && 8 ∈ w'.log.executed))
      (fun _ _ _ => notHandedOutAgain_of_test) (by decide +kernel) (by decide +kernel)
    rw [Option.any_eq_true] at hw
    obtain ⟨w₁, hstep, hw₁⟩ := hw
    simp only [Bool.and_eq_true, beq_iff_eq] at hw₁
    obtain ⟨hacks, hlaw, hrun⟩ := hw₁
    obtain ⟨w', hlead, hw'⟩ := Transition.leads_of_tests T
      (fun a e b => NotHandedOutAgain a e b ∧ NotHandedOutBefore 7 a e b) acceptedLate _
      (fun _ _ _ h => by
        rw [Bool.and_eq_true] at h
        exact ⟨notHandedOutAgain_of_test h.1, notHandedOutBefore_of_test h.2⟩) hlaw hrun
    simp only [Bool.and_eq_true, decide_eq_true_eq] at hw'
    obtain ⟨-, -, hkept⟩ :=
      (not_received_sound Executor.prompt Timing.default hreach 7).1 _ w₁ hstep hacks
    obtain ⟨hnone, -, hexec⟩ := hkept w' hlead
    exact ⟨w, w₁, w', hstep, hacks, hlead.mono fun _ _ _ h => h.1, hw'.1, hw'.2, hnone, hexec⟩

/-- A run that goes on from the ack of job 7 and executes the job. -/
lemma executed_after_ack (es : List (Event Executor.prompt))
    (goal : World Executor.prompt → Bool)
    (h : ((source Executor.prompt Timing.default).run
      (source Executor.prompt Timing.default).init (runUntilNotReceived 7)).any (fun w =>
        decide (.notReceived 7 ∈ w.log.acks) && (w.journal.get 7).isNone &&
          (source Executor.prompt Timing.default).lawful notHandedOutAgainTest w es &&
          ((source Executor.prompt Timing.default).run w es).any fun w' =>
            decide (7 ∈ w'.log.journaled) &&
              w'.log.executed.count 7 == w.log.executed.count 7 + 1 && goal w') = true) :
    ∃ w w', (source Executor.prompt Timing.default).Reach NotHandedOutAgain w ∧
      .notReceived 7 ∈ w.log.acks ∧ w.journal.get 7 = none ∧
      (source Executor.prompt Timing.default).Leads NotHandedOutAgain w w' ∧
      7 ∈ w'.log.journaled ∧ w'.log.executed.count 7 = w.log.executed.count 7 + 1 ∧
      goal w' = true := by
  obtain ⟨w, hreach, hw⟩ := Transition.reach_of_tests (source Executor.prompt Timing.default)
    NotHandedOutAgain (runUntilNotReceived 7) _ (fun _ _ _ => notHandedOutAgain_of_test)
    (by decide +kernel) h
  simp only [Bool.and_eq_true, decide_eq_true_eq, Option.isNone_iff_eq_none] at hw
  obtain ⟨⟨⟨hacks, hnone⟩, hlaw⟩, hrun⟩ := hw
  obtain ⟨w', hlead, hw'⟩ := Transition.leads_of_tests (source Executor.prompt Timing.default)
    NotHandedOutAgain es _ (fun _ _ _ => notHandedOutAgain_of_test) hlaw hrun
  simp only [Bool.and_eq_true, decide_eq_true_eq, beq_iff_eq] at hw'
  exact ⟨w, w', hreach, hacks, hnone, hlead, hw'.1.1, hw'.1.2, hw'.2⟩

/-- Until Odoo has accepted an ack it may hand the job out: job 7 is acked `not_received` and
executed afterwards, where Odoo refuses the ack (`too_early`), and where the ack reaches Odoo
only after the bridge gave the call up. -/
theorem not_received_then_executed :
    (∃ w w', (source Executor.prompt Timing.default).Reach NotHandedOutAgain w ∧
      .notReceived 7 ∈ w.log.acks ∧ w.journal.get 7 = none ∧
      (source Executor.prompt Timing.default).Leads NotHandedOutAgain w w' ∧
      7 ∈ w'.log.journaled ∧ w'.log.executed.count 7 = w.log.executed.count 7 + 1) ∧
    ∃ w w', (source Executor.prompt Timing.default).Reach NotHandedOutAgain w ∧
      .notReceived 7 ∈ w.log.acks ∧ w.journal.get 7 = none ∧
      (source Executor.prompt Timing.default).Leads NotHandedOutAgain w w' ∧
      7 ∈ w'.log.journaled ∧ w'.log.executed.count 7 = w.log.executed.count 7 + 1 ∧
      7 ∈ w'.odoo.accepted := by
  let tooEarly : Reply := .ok (.obj [("error", .obj [("code", .str REFUSED_TOO_EARLY)]),
    ("ok", .bool false)])
  constructor
  · obtain ⟨w, w', hreach, hacks, hnone, hlead, hjournaled, hexec, -⟩ := executed_after_ack
      ([.odoo (.answerNotReceived tooEarly), .control (.arrive true)] ++ runUntilExecuted 7)
      (fun _ => true) (by decide +kernel)
    exact ⟨w, w', hreach, hacks, hnone, hlead, hjournaled, hexec⟩
  · obtain ⟨w, w', hreach, hacks, hnone, hlead, hjournaled, hexec, haccepted⟩ := executed_after_ack
      ([.control (.fail (.transport "")), .control .poll,
        .odoo (.answerPending (replyWithPending [])), .control (.arrive true)] ++
        runUntilExecuted 7 ++ [.odoo (.acceptLate 7)])
      (fun w' => decide (7 ∈ w'.odoo.accepted)) (by decide +kernel)
    exact ⟨w, w', hreach, hacks, hnone, hlead, hjournaled, hexec, of_decide_eq_true haccepted⟩

end DevBridge

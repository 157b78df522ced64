import DevBridge.Tim.Session

/-!
# The protocol of the held session is kept

Each step of `run_purchase` adds entries to the trace that rest on the earlier ones.  What the
past must have been is a matter of a few facts about the state (its *profile*), so most steps
keep the invariant for one reason: they change none of these facts.
-/

namespace DevBridge.Tim

/-! ### The invariant -/

/-- What the stage of a session says of its calls. -/
def SessionStage.Holds (T : PurchaseTrace) : SessionStage → Prop
  | opening => .answered .connect .done ∉ T.entries ∧ .released ∉ T.entries
  | inside => .answered .connect .done ∈ T.entries ∧ .released ∉ T.entries
  | closing => .answered .connect .done ∈ T.entries ∧ .released ∉ T.entries ∧
      .called .disconnect ∈ T.entries
  | past => (.answered .connect .done ∈ T.entries ↔ .released ∈ T.entries) ∧
      (.answered .connect .done ∈ T.entries → .called .disconnect ∈ T.entries)

/-- A settle request that came has been replied to. -/
def PurchaseTrace.Replied (T : PurchaseTrace) (request : SettleRequest) : Prop :=
  ∃ reply, .replied request.waiter reply ∈ T.entries

/-- What holds in every state of a run. -/
structure PurchaseInv (req : PurchaseRequest) (P : SessionProfile) (queue : List SettleRequest)
    (T : PurchaseTrace) : Prop where
  justified : ∀ newer t x older, T = newer ++ (t, x) :: older → x.Justified req older t
  unsent : P.unsent = true → ¬ T.Sent
  decided : ∀ e, .decided e ∈ T.entries ↔ P.decision = some e
  window : ∀ deadline, P.window = some deadline → ∃ why t,
    P.decision = some (.unknown why) ∧ (t, .decided (.unknown why)) ∈ T ∧
      t + req.releaseWithin = deadline
  replies : ∀ i reply, .replied i reply ∈ T.entries →
    ∃ e, P.decision = some e ∧ reply = e.settleReply
  requests : ∀ request, .arrived request ∈ T.entries →
    request ∈ queue ∨ P.waiter = some request.waiter ∨ T.Replied request
  stage : P.stage.Holds T
  /-- Who came before the job left the holders is answered once the channel was empty. -/
  back : P.isBack = true → ∀ (newer : PurchaseTrace) t (older : PurchaseTrace),
    T = newer ++ (t, .released) :: older → ∀ request, .arrived request ∈ older.entries →
      T.Replied request

section Invariant

variable {req : PurchaseRequest} {P : SessionProfile} {queue : List SettleRequest}
  {T : PurchaseTrace} {t : ℕ} {x : PurchaseEntry}

@[simp] lemma entries_cons (t : ℕ) (x : PurchaseEntry) (T : PurchaseTrace) :
    PurchaseTrace.entries ((t, x) :: T) = x :: T.entries := rfl

@[simp] lemma entries_append (newer older : PurchaseTrace) :
    PurchaseTrace.entries (newer ++ older) = newer.entries ++ older.entries :=
  List.map_append

lemma sent_cons (hx : ∀ kind amount, x ≠ .called (.transaction kind amount)) :
    PurchaseTrace.Sent ((t, x) :: T) ↔ T.Sent := by
  constructor
  · rintro ⟨kind, amount, hmem⟩
    rw [entries_cons, List.mem_cons] at hmem
    rcases hmem with heq | hmem
    · exact absurd heq.symm (hx kind amount)
    · exact ⟨kind, amount, hmem⟩
  · rintro ⟨kind, amount, hmem⟩
    exact ⟨kind, amount, List.mem_cons_of_mem _ hmem⟩

/-- A decomposition of a longer trace at an entry is one of the trace, or at its head. -/
lemma split_cons {y : ℕ × PurchaseEntry} {newer older : PurchaseTrace}
    (h : (t, x) :: T = newer ++ y :: older) :
    ((t, x) = y ∧ T = older) ∨ ∃ newer', T = newer' ++ y :: older := by
  cases newer with
  | nil =>
    obtain ⟨hhead, htail⟩ := List.cons.inj h
    exact Or.inl ⟨hhead, htail⟩
  | cons z newer => exact Or.inr ⟨newer, (List.cons.inj h).2⟩

lemma justified_cons
    (h : ∀ newer t x older, T = newer ++ (t, x) :: older → x.Justified req older t)
    (hx : x.Justified req T t) :
    ∀ newer t' x' older, (t, x) :: T = newer ++ (t', x') :: older →
      PurchaseEntry.Justified req older t' x' := by
  intro newer t' x' older heq
  rcases split_cons heq with ⟨hhead, rfl⟩ | ⟨newer', hT⟩
  · obtain ⟨rfl, rfl⟩ := Prod.mk.inj hhead
    exact hx
  · exact h newer' t' x' older hT

lemma Replied.cons {request : SettleRequest} (h : T.Replied request) :
    PurchaseTrace.Replied ((t, x) :: T) request := by
  obtain ⟨reply, hmem⟩ := h
  exact ⟨reply, List.mem_cons_of_mem _ hmem⟩

lemma back_cons (hx : x ≠ .released)
    (h : ∀ (newer : PurchaseTrace) t (older : PurchaseTrace),
      T = newer ++ (t, .released) :: older → ∀ request,
        .arrived request ∈ older.entries → T.Replied request) :
    ∀ (newer : PurchaseTrace) t' (older : PurchaseTrace),
      (t, x) :: T = newer ++ (t', .released) :: older → ∀ request,
        .arrived request ∈ older.entries → PurchaseTrace.Replied ((t, x) :: T) request := by
  intro newer t' older heq request hmem
  rcases split_cons heq with ⟨hhead, -⟩ | ⟨newer', hT⟩
  · exact absurd (Prod.mk.inj hhead).2 hx
  · exact Replied.cons (h newer' t' older hT request hmem)

/-- A plain entry is none that the invariant asks for. -/
lemma plain_ne (hx : x.isPlain = true) :
    (∀ kind amount, x ≠ .called (.transaction kind amount)) ∧ x ≠ .called .logout ∧
      (∀ e, x ≠ .decided e) ∧ (∀ request, x ≠ .arrived request) ∧
      (∀ i reply, x ≠ .replied i reply) ∧ x ≠ .released ∧ x ≠ .answered .connect .done := by
  refine ⟨?_, ?_, ?_, ?_, ?_, ?_, ?_⟩
  all_goals
    intros
    rintro rfl
    cases hx

lemma plain_justified (hx : x.isPlain = true) : x.Justified req T t := by
  obtain ⟨hsale, hlogout, hdecided, -⟩ := plain_ne hx
  unfold PurchaseEntry.Justified
  split
  · exact absurd rfl (hsale _ _)
  · exact absurd rfl hlogout
  · exact absurd rfl (hdecided _)
  · trivial

/-- Entries that the stages do not speak of. -/
lemma holds_cons {stage : SessionStage} (h : stage.Holds T)
    (hconnect : x ≠ .answered .connect .done) (hreleased : x ≠ .released) :
    stage.Holds ((t, x) :: T) := by
  cases stage <;>
    simp only [SessionStage.Holds, entries_cons, List.mem_cons, hconnect.symm, hreleased.symm,
      false_or] at h ⊢
  · exact h
  · exact h
  · exact ⟨h.1, h.2.1, Or.inr h.2.2⟩
  · exact ⟨h.1, fun hconn => Or.inr (h.2 hconn)⟩

/-- Membership of anything but the newest entry. -/
lemma mem_cons_of_ne {y : PurchaseEntry} (hy : x ≠ y) :
    y ∈ PurchaseTrace.entries ((t, x) :: T) ↔ y ∈ T.entries := by
  rw [entries_cons, List.mem_cons]
  exact or_iff_right (Ne.symm hy)

lemma PurchaseInv.window_cons (h : PurchaseInv req P queue T) (deadline : ℕ)
    (hd : P.window = some deadline) : ∃ why t', P.decision = some (.unknown why) ∧
      (t', .decided (.unknown why)) ∈ (t, x) :: T ∧ t' + req.releaseWithin = deadline := by
  obtain ⟨why, t', hdec, hmem, ht'⟩ := h.window deadline hd
  exact ⟨why, t', hdec, List.mem_cons_of_mem _ hmem, ht'⟩

/-- An entry that only the stages ask for. -/
lemma PurchaseInv.aside (h : PurchaseInv req P queue T)
    (hx : x.isPlain = true ∨ x = .answered .connect .done) {stage : SessionStage}
    (hstage : stage.Holds ((t, x) :: T)) :
    PurchaseInv req { P with stage } queue ((t, x) :: T) := by
  obtain ⟨hsale, hlogout, hdecided, harrived, hreplied, hreleased⟩ :
      (∀ kind amount, x ≠ .called (.transaction kind amount)) ∧ x ≠ .called .logout ∧
        (∀ e, x ≠ .decided e) ∧ (∀ request, x ≠ .arrived request) ∧
        (∀ i reply, x ≠ .replied i reply) ∧ x ≠ .released := by
    rcases hx with hx | rfl
    · obtain ⟨h₁, h₂, h₃, h₄, h₅, h₆, -⟩ := plain_ne hx
      exact ⟨h₁, h₂, h₃, h₄, h₅, h₆⟩
    · exact ⟨fun _ _ => nofun, nofun, fun _ => nofun, fun _ => nofun, fun _ _ => nofun, nofun⟩
  have hjustified : x.Justified req T t := by
    rcases hx with hx | rfl
    · exact plain_justified hx
    · trivial
  refine ⟨justified_cons h.justified hjustified, fun hun => ?_, fun e => ?_, h.window_cons,
    fun i reply hr => ?_, fun request hr => ?_, hstage, fun hb => back_cons hreleased (h.back hb)⟩
  · rw [sent_cons hsale]
    exact h.unsent hun
  · rw [mem_cons_of_ne (hdecided e)]
    exact h.decided e
  · exact h.replies i reply ((mem_cons_of_ne (hreplied i reply)).mp hr)
  · exact (h.requests request ((mem_cons_of_ne (harrived request)).mp hr)).imp id
      (Or.imp id Replied.cons)

lemma PurchaseInv.plain (h : PurchaseInv req P queue T) (hx : x.isPlain = true) :
    PurchaseInv req P queue ((t, x) :: T) := by
  obtain ⟨-, -, -, -, -, hreleased, hconnect⟩ := plain_ne hx
  exact h.aside (Or.inl hx) (holds_cons h.stage hconnect hreleased)

lemma PurchaseInv.plains {entries : List PurchaseEntry} (h : PurchaseInv req P queue T)
    (hplain : ∀ x ∈ entries, x.isPlain = true) :
    PurchaseInv req P queue (T.note t entries) := by
  induction entries generalizing T with
  | nil => exact h
  | cons x rest ih =>
    exact ih (h.plain (hplain x List.mem_cons_self)) fun y hy =>
      hplain y (List.mem_cons_of_mem _ hy)

/-! ### The entries that matter -/

/-- The outcome is decided. -/
lemma PurchaseInv.decide {e : PurchaseEnd} (h : PurchaseInv req P queue T)
    (hopen : P.decision = none) (hfounded : e.Founded T) (hback : P.isBack = false)
    (unsent : Bool) (hunsent : unsent = true → P.unsent = true) (window : Option ℕ)
    (hwindow : ∀ deadline, window = some deadline →
      (∃ why, e = .unknown why) ∧ deadline = t + req.releaseWithin) :
    PurchaseInv req { P with decision := some e, unsent, window } queue
      ((t, .decided e) :: T) := by
  have hnone : ∀ e', .decided e' ∉ T.entries := by
    intro e' hmem
    rw [h.decided e', hopen] at hmem
    cases hmem
  refine ⟨justified_cons h.justified ⟨hfounded, hnone⟩, fun hun => ?_, fun e' => ?_,
    fun deadline hd => ?_, fun i reply hr => ?_, fun request hr => ?_,
    holds_cons h.stage nofun nofun, fun hb => ?_⟩
  · rw [sent_cons (by simp)]
    exact h.unsent (hunsent hun)
  · rw [entries_cons, List.mem_cons, PurchaseEntry.decided.injEq, Option.some.injEq]
    constructor
    · rintro (rfl | hmem)
      · rfl
      · exact absurd hmem (hnone e')
    · rintro rfl
      exact Or.inl rfl
  · obtain ⟨⟨why, rfl⟩, rfl⟩ := hwindow deadline hd
    exact ⟨why, t, rfl, List.mem_cons_self, rfl⟩
  · obtain ⟨e', he', -⟩ := h.replies i reply (by simpa using hr)
    rw [hopen] at he'
    cases he'
  · exact (h.requests request (by simpa using hr)).imp id (Or.imp id Replied.cons)
  · rw [hback] at hb
    cases hb

/-- A call whose settle request decided the payment is answered. -/
lemma PurchaseInv.reply {e : PurchaseEnd} {i : ℕ} {queue' : List SettleRequest}
    (h : PurchaseInv req P queue T) (hdecision : P.decision = some e) (hback : P.isBack = false)
    (hserved : ∀ request, request ∈ queue ∨ P.waiter = some request.waiter →
      request ∈ queue' ∨ request.waiter = i) :
    PurchaseInv req { P with waiter := none } queue' ((t, .replied i e.settleReply) :: T) := by
  refine ⟨justified_cons h.justified trivial, fun hun => ?_, fun e' => ?_, h.window_cons,
    fun j reply hr => ?_, fun request hr => ?_, holds_cons h.stage nofun nofun, fun hb => ?_⟩
  · rw [sent_cons (by simp)]
    exact h.unsent hun
  · simpa using h.decided e'
  · rw [entries_cons, List.mem_cons] at hr
    rcases hr with heq | hr
    · obtain ⟨rfl, rfl⟩ := PurchaseEntry.replied.inj heq
      exact ⟨e, hdecision, rfl⟩
    · exact h.replies j reply hr
  · rcases h.requests request (by simpa using hr) with hq | hw | hreplied
    · rcases hserved request (Or.inl hq) with hq' | rfl
      · exact Or.inl hq'
      · exact Or.inr (Or.inr ⟨_, List.mem_cons_self⟩)
    · rcases hserved request (Or.inr hw) with hq' | rfl
      · exact Or.inl hq'
      · exact Or.inr (Or.inr ⟨_, List.mem_cons_self⟩)
    · exact Or.inr (Or.inr (Replied.cons hreplied))
  · rw [hback] at hb
    cases hb

/-- The logout is called. -/
lemma PurchaseInv.logout (h : PurchaseInv req P queue T)
    (hfree : ∀ why, P.decision = some (.unknown why) → T.Sent →
      (∃ a, .answered .rollback a ∈ T.entries ∧ a.Clears) ∨
        ∃ t', (t', .decided (.unknown why)) ∈ T ∧ t' + req.releaseWithin ≤ t) :
    PurchaseInv req P queue ((t, .called .logout) :: T) := by
  refine ⟨justified_cons h.justified fun why hdec => hfree why ((h.decided _).mp hdec),
    fun hun => ?_, fun e => ?_, h.window_cons, fun i reply hr => ?_, fun request hr => ?_,
    holds_cons h.stage nofun nofun, fun hb => back_cons nofun (h.back hb)⟩
  · rw [sent_cons (by simp)]
    exact h.unsent hun
  · simpa using h.decided e
  · exact h.replies i reply (by simpa using hr)
  · exact (h.requests request (by simpa using hr)).imp id (Or.imp id Replied.cons)

/-- The sale is sent. -/
lemma PurchaseInv.sale {kind : TwoPhase} {amount : ℤ} (h : PurchaseInv req P queue T)
    (hunsent : P.unsent = true) (hopen : P.decision = none)
    (hcontact : .contacted (.ok ()) ∈ T.entries) :
    PurchaseInv req { P with unsent := false } queue
      ((t, .called (.transaction kind amount)) :: T) := by
  refine ⟨justified_cons h.justified ⟨h.unsent hunsent, hcontact, fun e hmem => ?_⟩, nofun,
    fun e => by simpa using h.decided e, h.window_cons,
    fun i reply hr => h.replies i reply (by simpa using hr), fun request hr => ?_,
    holds_cons h.stage nofun nofun, fun hb => back_cons nofun (h.back hb)⟩
  · rw [h.decided e, hopen] at hmem
    cases hmem
  · exact (h.requests request (by simpa using hr)).imp id (Or.imp id Replied.cons)

/-- The job leaves the holders. -/
lemma PurchaseInv.release (h : PurchaseInv req P queue T) (hstage : P.stage = .closing)
    (hback : P.isBack = false) :
    PurchaseInv req { P with stage := .past } queue ((t, .released) :: T) := by
  have hclosing := h.stage
  rw [hstage] at hclosing
  obtain ⟨hconnect, -, hdisconnect⟩ := hclosing
  refine ⟨justified_cons h.justified trivial, fun hun => ?_,
    fun e => by simpa using h.decided e, h.window_cons,
    fun i reply hr => h.replies i reply (by simpa using hr), fun request hr => ?_, ?_,
    fun hb => ?_⟩
  · rw [sent_cons (by simp)]
    exact h.unsent hun
  · exact (h.requests request (by simpa using hr)).imp id (Or.imp id Replied.cons)
  · exact ⟨⟨fun _ => List.mem_cons_self, fun _ => List.mem_cons_of_mem _ hconnect⟩,
      fun _ => List.mem_cons_of_mem _ hdisconnect⟩
  · rw [hback] at hb
    cases hb

/-- A settle request reaches the channel. -/
lemma PurchaseInv.arrive {request : SettleRequest} (h : PurchaseInv req P queue T) :
    PurchaseInv req P (queue ++ [request]) ((t, .arrived request) :: T) := by
  refine ⟨justified_cons h.justified trivial, fun hun => ?_,
    fun e => by simpa using h.decided e, h.window_cons,
    fun i reply hr => h.replies i reply (by simpa using hr), fun r hr => ?_,
    holds_cons h.stage nofun nofun, fun hb => back_cons nofun (h.back hb)⟩
  · rw [sent_cons (by simp)]
    exact h.unsent hun
  · rw [entries_cons, List.mem_cons] at hr
    rcases hr with heq | hr
    · obtain rfl := PurchaseEntry.arrived.inj heq
      exact Or.inl (by simp)
    · rcases h.requests r hr with hq | hw | hreplied
      · exact Or.inl (List.mem_append_left _ hq)
      · exact Or.inr (Or.inl hw)
      · exact Or.inr (Or.inr (Replied.cons hreplied))

end Invariant

/-! ### One step -/

section Step

variable {req : PurchaseRequest} {pc pc' : PurchasePc} {queue queue' : List SettleRequest}
  {T : PurchaseTrace} {t : ℕ} {i : PurchaseInput} {entries : List PurchaseEntry}

lemma channel_same (hinput : ∀ r, i ≠ .received r) (h : channelAfter queue i = some queue') :
    queue' = queue := by
  unfold channelAfter at h
  split at h
  · exact absurd rfl (hinput _)
  all_goals
    first
    | split at h
      · rename_i hempty
        rw [hempty]
        exact (Option.some.inj h).symm
      · cases h
    | exact (Option.some.inj h).symm

lemma channel_received {request : SettleRequest}
    (h : channelAfter queue (.received request) = some queue') : queue = request :: queue' := by
  cases queue with
  | nil => cases h
  | cons r rest =>
    simp only [channelAfter, Option.ite_none_right_eq_some, Option.some.injEq] at h
    obtain ⟨rfl, rfl⟩ := h
    rfl

lemma note_append (T : PurchaseTrace) (xs ys : List PurchaseEntry) :
    T.note t (xs ++ ys) = (T.note t xs).note t ys := by
  induction xs generalizing T with
  | nil => rfl
  | cons x xs ih => exact ih _

lemma mem_note {x : PurchaseEntry} {xs : List PurchaseEntry} :
    x ∈ (T.note t xs).entries ↔ x ∈ xs ∨ x ∈ T.entries := by
  induction xs generalizing T with
  | nil => simp [PurchaseTrace.note]
  | cons y ys ih =>
    rw [PurchaseTrace.note, ih]
    simp only [entries_cons, List.mem_cons]
    tauto

/-- The outcome of a held payment is decided, and the call that decided it is answered. -/
lemma PurchaseInv.decideHeld {e : PurchaseEnd} (h : PurchaseInv req pc.profile queue T)
    (hstage : pc.stage = .inside) (hopen : pc.decision = none) (hfounded : e.Founded T)
    (window : Option ℕ) (hwindow : ∀ deadline, window = some deadline →
      (∃ why, e = .unknown why) ∧ deadline = t + req.releaseWithin) :
    PurchaseInv req ⟨some e, none, false, window, .inside, false⟩ queue
      (T.note t (.decided e :: pc.waiter.toList.map fun i => .replied i e.settleReply)) := by
  have hback : pc.isBack = false := by
    cases pc <;> first | rfl | cases hstage
  have hdecided := h.decide hopen hfounded hback false nofun window hwindow
  simp only [PurchasePc.profile, hstage, hback] at hdecided
  cases hwaiter : pc.waiter with
  | none =>
    rw [hwaiter] at hdecided
    exact hdecided
  | some i =>
    rw [hwaiter] at hdecided
    refine hdecided.reply (i := i) rfl rfl fun request hr => hr.imp id fun hi => ?_
    exact (Option.some.inj hi).symm

/-- `logged_in` returns: the session is released, or logged out at once. -/
lemma PurchaseInv.finish {e : PurchaseEnd} (h : PurchaseInv req pc.profile queue T)
    (hstage : pc.stage = .inside) (hopen : pc.decision = none) (hfounded : e.Founded T) :
    PurchaseInv req (req.settled t e pc.waiter).1.profile queue
      (T.note t ((req.settled t e pc.waiter).2.map PurchaseAct.entry)) := by
  have hreplies : ∀ w : Option ℕ, (w.toList.map fun i => PurchaseAct.reply i e.settleReply).map
      PurchaseAct.entry = w.toList.map fun i => .replied i e.settleReply := by
    intro w
    cases w <;> rfl
  by_cases hunknown : ∃ why, e = .unknown why
  · obtain ⟨why, rfl⟩ := hunknown
    have hheld := h.decideHeld (t := t) hstage hopen hfounded (some (t + req.releaseWithin))
      fun deadline hd => ⟨⟨why, rfl⟩, (Option.some.inj hd).symm⟩
    have hrollback := hheld.plain (t := t) (x := .called .rollback) rfl
    change PurchaseInv _ _ _ (PurchaseTrace.note _ t [.called .rollback]) at hrollback
    rw [← note_append] at hrollback
    cases hw : pc.waiter <;> rw [hw] at hrollback <;> exact hrollback
  · have hheld := h.decideHeld (t := t) hstage hopen hfounded none nofun
    have hlogout := hheld.logout (t := t) fun why hwhy =>
      absurd ⟨why, Option.some.inj hwhy⟩ hunknown
    change PurchaseInv _ _ _ (PurchaseTrace.note _ t [.called .logout]) at hlogout
    rw [← note_append] at hlogout
    cases e <;> cases hw : pc.waiter <;> rw [hw] at hlogout <;>
      first
      | exact hlogout
      | exact absurd ⟨_, rfl⟩ hunknown

lemma PurchaseInv.move (hmove : PurchaseMove req t pc i pc' entries)
    (hq : channelAfter queue i = some queue') (h : PurchaseInv req pc.profile queue T) :
    PurchaseInv req pc'.profile queue' (T.note t entries) := by
  cases hmove with
  | advances _ _ _ _ hinput hplain hprofile _ =>
    rw [channel_same hinput hq, hprofile]
    exact h.plains hplain
  | unopened _ c e code text hpc =>
    rw [channel_same (by simp) hq]
    have hopening : pc.decision = none ∧ pc.isBack = false ∧ pc.waiter = none ∧
        pc.window = none ∧ pc.unsent = true ∧ pc.stage = .opening := by
      rcases hpc with rfl | rfl <;> exact ⟨rfl, rfl, rfl, rfl, rfl, rfl⟩
    obtain ⟨hopen, hback, hwaiter, -, hunsent, hstage⟩ := hopening
    have hplain := h.plain (t := t) (x := .answered c (.failed e)) (by
      cases c <;> rfl)
    have hdecided := hplain.decide (t := t) hopen
      (e := .refused code text) (Or.inl (hplain.unsent hunsent)) hback false nofun none nofun
    have hholds := hdecided.stage
    simp only [PurchasePc.profile, hstage, hwaiter, hback] at hdecided hholds
    refine { hdecided with stage := ?_, back := fun _ newer t' older heq => ?_ }
    · exact ⟨iff_of_false hholds.1 hholds.2, fun hc => absurd hc hholds.1⟩
    · have hmem : .released ∈ PurchaseTrace.entries (newer ++ (t', .released) :: older) := by
        simp
      rw [← heq] at hmem
      exact absurd hmem hholds.2
  | connected =>
    rw [channel_same (by simp) hq]
    have hstage : SessionStage.Holds T .opening := h.stage
    have hconnected := h.aside (t := t) (x := .answered .connect .done) (Or.inr rfl)
      (show SessionStage.Holds _ .inside from ⟨List.mem_cons_self, by simpa using hstage.2⟩)
    exact { hconnected.plain (t := t) (x := .called .login) rfl with }
  | notLoggedIn e code text =>
    rw [channel_same (by simp) hq]
    have hplain := h.plain (t := t) (x := .answered .login (.failed e)) rfl
    have hdecided := hplain.decide (t := t) (e := .refused code text) rfl
      (Or.inl (hplain.unsent rfl)) rfl false nofun none nofun
    have hholds : SessionStage.Holds _ .inside := hdecided.stage
    exact hdecided.aside (t := t) (x := .called .disconnect) (Or.inl rfl)
      (show SessionStage.Holds _ .closing from
        ⟨List.mem_cons_of_mem _ hholds.1, by simpa using hholds.2, List.mem_cons_self⟩)
  | sends tid base =>
    rw [channel_same (by simp) hq]
    have hplain := h.plain (t := t) (x := .contacted (.ok ())) rfl
    exact hplain.sale (t := t) rfl rfl List.mem_cons_self
  | finishes _ _ heard e hinput hstage hopen hplain hfounded _ =>
    rw [channel_same hinput hq, note_append]
    have hheard := h.plains (t := t) hplain
    exact hheard.finish hstage hopen
      (hfounded _ hheard.unsent fun x hx => mem_note.mpr (Or.inl hx))
  | takes held wake request _ c hc hpc _ =>
    rw [hpc]
    rw [channel_received hq] at h
    have htaken : PurchaseInv req ⟨none, some request.waiter, false, none, .inside, false⟩
        queue' T := by
      refine { h with requests := fun r hr => ?_ }
      rcases h.requests r hr with hmem | hw | hreplied
      · rcases List.mem_cons.mp hmem with rfl | hmem
        · exact Or.inr (Or.inl rfl)
        · exact Or.inl hmem
      · cases hw
      · exact Or.inr (Or.inr hreplied)
    refine htaken.plain ?_
    rcases hc with rfl | rfl <;> rfl
  | frees why deadline a hfree =>
    rw [channel_same (by simp) hq]
    have hplain := h.plain (t := t) (x := .answered .rollback a) rfl
    have hlogout := hplain.logout (t := t) fun why' hwhy hsent => by
      rcases hfree with hclear | hle
      · exact Or.inl ⟨a, List.mem_cons_self, hclear⟩
      · obtain ⟨why'', t', hdec, hmem, hend⟩ := hplain.window deadline rfl
        obtain rfl : why'' = why' := by
          rw [hdec] at hwhy
          exact PurchaseEnd.unknown.inj (Option.some.inj hwhy)
        exact Or.inr ⟨t', hmem, hend ▸ hle⟩
    exact { hlogout with window := nofun }
  | logsOut e a =>
    rw [channel_same (by simp) hq]
    have hplain := h.plain (t := t) (x := .answered .logout a) rfl
    have hholds : SessionStage.Holds _ .inside := hplain.stage
    exact hplain.aside (t := t) (x := .called .disconnect) (Or.inl rfl)
      (show SessionStage.Holds _ .closing from
        ⟨List.mem_cons_of_mem _ hholds.1, by simpa using hholds.2, List.mem_cons_self⟩)
  | leaves e =>
    rw [channel_same (by simp) hq]
    exact h.release rfl rfl
  | answers e request =>
    rw [channel_received hq] at h
    refine h.reply rfl rfl fun r hr => ?_
    rcases hr with hmem | hw
    · rcases List.mem_cons.mp hmem with rfl | hmem
      · exact Or.inr rfl
      · exact Or.inl hmem
    · cases hw
  | drained e =>
    have hempty : queue = [] := by
      simp only [channelAfter, Option.ite_none_right_eq_some] at hq
      exact hq.1
    have hsame := channel_same (by simp) hq
    subst hempty
    subst hsame
    refine { h with back := fun _ newer t' older heq request hmem => ?_ }
    have harrived : .arrived request ∈
        PurchaseTrace.entries (newer ++ (t', .released) :: older) := by
      simp [hmem]
    rw [← heq] at harrived
    rcases h.requests request harrived with hnil | hw | hreplied
    · cases hnil
    · cases hw
    · exact hreplied

end Step

/-! ### It returns -/

section Result

variable {spec : TerminalSpec} {req : PurchaseRequest} {w w' : PurchaseRun}

lemma PurchaseInv.init (req : PurchaseRequest) :
    PurchaseInv req PurchasePc.start.profile [] [] where
  justified newer t x older h := by simp at h
  unsent _ := by simp [PurchaseTrace.Sent, PurchaseTrace.entries]
  decided e := by simp [PurchaseTrace.entries, PurchasePc.profile, PurchasePc.decision]
  window := nofun
  replies i reply h := by simp [PurchaseTrace.entries] at h
  requests request h := by simp [PurchaseTrace.entries] at h
  stage := ⟨by simp [PurchaseTrace.entries], by simp [PurchaseTrace.entries]⟩
  back := nofun

lemma PurchaseInv.step {s : PurchaseStep} (hstep : w.step spec req s = some w')
    (h : PurchaseInv req w.pc.profile w.queue w.trace) :
    PurchaseInv req w'.pc.profile w'.queue w'.trace := by
  cases s with
  | elapse ms =>
    obtain rfl := Option.some.inj hstep
    exact h
  | arrive request =>
    simp only [PurchaseRun.step] at hstep
    split at hstep
    · cases hstep
    · obtain rfl := Option.some.inj hstep
      exact h.arrive
  | input i =>
    simp only [PurchaseRun.step] at hstep
    split at hstep
    · rename_i queue' pc' acts hq hi
      obtain rfl := Option.some.inj hstep
      exact h.move (.of_step hi) hq
    · cases hstep

lemma purchaseInv_of_reach (h : (purchaseSession spec req).Reach Transition.free w) :
    PurchaseInv req w.pc.profile w.queue w.trace :=
  h.invariant (P := fun w => PurchaseInv req w.pc.profile w.queue w.trace) (.init req)
    fun _ _ _ _ ih hstep _ => ih.step hstep

lemma weight_finish (req : PurchaseRequest) (t : ℕ) (e : PurchaseEnd) (i : Option ℕ) :
    req.weight t (req.settled t e i).1 ≤ 6 + 2 * req.releaseWithin := by
  have hfinish : req.weight t (req.finish t e).1 ≤ 6 + 2 * req.releaseWithin := by
    cases e <;> simp only [PurchaseRequest.finish, PurchaseRequest.weight] <;> omega
  cases i <;> cases e <;> exact hfinish

/-- Time only brings the deadlines nearer. -/
lemma weight_elapse (req : PurchaseRequest) {t t' : ℕ} (h : t ≤ t') (pc : PurchasePc) :
    req.weight t' pc ≤ req.weight t pc := by
  cases pc <;> simp only [PurchaseRequest.weight] <;> omega

/-- Every input but a settle request brings the run nearer to its end. -/
lemma weight_move {t : ℕ} {pc pc' : PurchasePc} {i : PurchaseInput}
    {entries : List PurchaseEntry} (h : PurchaseMove req t pc i pc' entries) :
    req.weight t pc' ≤ req.weight t pc ∧
      ((∀ r, i ≠ .received r) → req.weight t pc' < req.weight t pc) := by
  cases h with
  | advances _ _ _ _ _ _ _ hweight => exact ⟨hweight.le, fun _ => hweight⟩
  | unopened _ c e code text hpc =>
    rcases hpc with rfl | rfl <;> simp only [PurchaseRequest.weight] <;> omega
  | finishes _ _ heard e _ _ _ _ _ hweight =>
    have hle := weight_finish req t e pc.waiter
    exact ⟨by omega, fun _ => by omega⟩
  | takes held wake request _ c hc hpc hweight =>
    rw [hweight]
    simp only [PurchaseRequest.weight]
    exact ⟨by omega, fun _ => by omega⟩
  | answers e request => exact ⟨le_rfl, fun h => absurd rfl (h request)⟩
  | _ =>
    simp only [PurchaseRequest.weight]
    exact ⟨by omega, fun _ => by omega⟩

def PurchaseStep.isInput : PurchaseStep → Bool
  | input _ => true
  | _ => false

def PurchaseStep.isArrival : PurchaseStep → Bool
  | arrive _ => true
  | _ => false

lemma weight_step {s : PurchaseStep} (hstep : w.step spec req s = some w') :
    req.weight w'.instant w'.pc + w'.queue.length + (if s.isInput then 1 else 0) ≤
      req.weight w.instant w.pc + w.queue.length + (if s.isArrival then 1 else 0) := by
  cases s with
  | elapse ms =>
    obtain rfl := Option.some.inj hstep
    have hle := weight_elapse req (Nat.le_add_right w.instant ms) w.pc
    simpa [PurchaseStep.isInput, PurchaseStep.isArrival] using hle
  | arrive request =>
    simp only [PurchaseRun.step] at hstep
    split at hstep
    · cases hstep
    · obtain rfl := Option.some.inj hstep
      simp only [PurchaseStep.isInput, PurchaseStep.isArrival, List.length_append,
        List.length_singleton, Bool.false_eq_true, if_false, if_true]
      omega
  | input i =>
    simp only [PurchaseRun.step] at hstep
    split at hstep
    · rename_i queue' pc' acts hq hi
      obtain rfl := Option.some.inj hstep
      obtain ⟨hle, hlt⟩ := weight_move (.of_step hi)
      simp only [PurchaseStep.isInput, PurchaseStep.isArrival, Bool.false_eq_true, if_false,
        if_true]
      by_cases hinput : ∀ r, i ≠ .received r
      · have hless := hlt hinput
        rw [channel_same hinput hq]
        omega
      · push Not at hinput
        obtain ⟨r, rfl⟩ := hinput
        rw [channel_received hq, List.length_cons]
        omega
    · cases hstep

/-- A run of the session takes a bounded number of inputs, however the terminal answers: it
goes on only as long as settle requests come. -/
theorem inputs_bounded {steps : List PurchaseStep}
    (h : (purchaseSession spec req).run w steps = some w') :
    steps.countP PurchaseStep.isInput + req.weight w'.instant w'.pc + w'.queue.length ≤
      req.weight w.instant w.pc + w.queue.length + steps.countP PurchaseStep.isArrival := by
  induction steps generalizing w with
  | nil =>
    obtain rfl := Option.some.inj h
    simp
  | cons s rest ih =>
    obtain ⟨w₁, hstep, hrest⟩ := Option.bind_eq_some_iff.mp h
    have hone := weight_step hstep
    have hmany := ih hrest
    rw [List.countP_cons, List.countP_cons]
    omega

/-! ### The result -/

/-- Every run of a held session keeps the protocol if, and only if, it returns connected: a
run that cannot create or connect its terminal returns with its job among the holders. -/
theorem held_session_protocol (h : (purchaseSession spec req).Reach Transition.free w) :
    PurchaseProtocol req w ↔ ∀ e, w.pc = .ended e → w.Connected := by
  have hinv := purchaseInv_of_reach h
  have hpast : ∀ e, w.pc = .ended e → SessionStage.Holds w.trace .past := by
    intro e he
    have hstage := hinv.stage
    rw [he] at hstage
    exact hstage
  constructor
  · intro hprotocol e he
    exact (hpast e he).1.mpr (hprotocol.left e he)
  · intro hconnected
    refine ⟨hinv.justified, fun e he => ?_, fun e he => (hpast e he).2,
      fun e he => (hpast e he).1.mp (hconnected e he),
      fun e he newer t older heq request hr => ?_⟩
    · rw [hinv.decided e, he]
      rfl
    · have hback := hinv.back
      rw [he] at hback
      obtain ⟨reply, hreply⟩ := hback rfl newer t older heq request hr
      obtain ⟨e', he', rfl⟩ := hinv.replies _ _ hreply
      rw [he] at he'
      obtain rfl := Option.some.inj he'
      exact hreply

/-- A purchase of 12.50 at a till. -/
def exampleSale : PurchaseRequest := ⟨7, .purchase, 1250, 45000, some 99, 60000⟩

def exampleTerminal : TerminalSpec := ⟨3, "10.0.0.5", none, 60⟩

def exampleFacts : TxFacts :=
  ⟨some 1, some 1250, some true, some 100, none, none, none, none, none, none, none, none, none⟩

/-- The sale is authorised and committed by one settle request; a second one comes late. -/
def committedSession : List PurchaseStep :=
  [.input .go, .input (.answer .done), .input (.answer .done), .input (.answer .done),
    .input (.answer (.tid (some "t"))), .input (.answer (.last ⟨0, 0, none⟩)),
    .input (.contacted (.ok ())), .input (.answer (.facts exampleFacts)),
    .input (.stored (.ok ())), .input .go, .elapse 300, .arrive ⟨.commit, 1⟩,
    .input (.received ⟨.commit, 1⟩), .arrive ⟨.rollback, 2⟩, .input (.answer .done),
    .input (.answer .done), .input (.answer .done), .input .go,
    .input (.received ⟨.rollback, 2⟩), .input .nothing, .input .go]

theorem held_session_protocol_committed : ∃ w : PurchaseRun,
    (purchaseSession exampleTerminal exampleSale).Reach Transition.free w ∧
      w.pc = .ended (.committed exampleFacts (some "t")) ∧
      (PurchaseProtocol exampleSale w ↔ ∀ e, w.pc = .ended e → w.Connected) := by
  obtain ⟨w, hw, hgoal⟩ := (purchaseSession exampleTerminal exampleSale).reach_of_run
    committedSession (fun w => decide (w.pc = .ended (.committed exampleFacts (some "t"))))
    (by decide +kernel)
  exact ⟨w, hw, of_decide_eq_true hgoal, held_session_protocol hw⟩

/-- A session whose terminal cannot be connected returns, and its job stays in the holders. -/
theorem unconnected_session_held : ∃ w : PurchaseRun,
    (purchaseSession exampleTerminal exampleSale).Reach Transition.free w ∧
      ¬ PurchaseProtocol exampleSale w := by
  obtain ⟨w, hw, hgoal⟩ := (purchaseSession exampleTerminal exampleSale).reach_of_run
    [.input .go, .input (.answer .done), .input (.answer (.failed ⟨"connect", 8⟩)), .input .go]
    (fun w => w.isOver && decide (.released ∉ w.trace.entries)) (by decide +kernel)
  obtain ⟨hover, hheld⟩ := Bool.and_eq_true_iff.mp hgoal
  refine ⟨w, hw, fun hprotocol => ?_⟩
  rcases hpc : w.pc with _ | _
  all_goals
    first
    | exact of_decide_eq_true hheld (hprotocol.left _ hpc)
    | simp [PurchaseRun.isOver, hpc] at hover

end Result

end DevBridge.Tim

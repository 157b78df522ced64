import DevBridge.Tim.Purchase

/-!
# The protocol of the held session

The runs of `run_purchase`: any answers of the terminal, any answers of its hooks, any
settle requests at any moment, any time between them.  The trace of a run is kept, and the
protocol says of each entry what must have happened before it.
-/

namespace DevBridge.Tim

/-! ### Runs -/

/-- What a run notes. -/
inductive PurchaseEntry where
  | called (c : TerminalCall)
  | answered (c : TerminalCall) (a : CallAnswer)
  /-- `hooks.contact` returned. -/
  | contacted (r : Except ContactRefusal Unit)
  /-- `logged_in` returned, or the session could not be opened. -/
  | decided (e : PurchaseEnd)
  /-- A settle request reached the channel. -/
  | arrived (request : SettleRequest)
  | replied (waiter : ℕ) (reply : SettleReply)
  /-- The job left the holders. -/
  | released
deriving DecidableEq

/-- The entries of a run with their moments, newest first. -/
abbrev PurchaseTrace := List (ℕ × PurchaseEntry)

namespace PurchaseTrace

def entries (T : PurchaseTrace) : List PurchaseEntry := T.map Prod.snd

/-- Entries of one moment, oldest first, are noted. -/
def note (T : PurchaseTrace) (time : ℕ) : List PurchaseEntry → PurchaseTrace
  | [] => T
  | x :: rest => note ((time, x) :: T) time rest

end PurchaseTrace

/-- A run of `run_purchase`. -/
structure PurchaseRun where
  pc : PurchasePc
  /-- The settle channel, oldest request first. -/
  queue : List SettleRequest
  instant : ℕ
  trace : PurchaseTrace
deriving DecidableEq

/-- One step of a run. -/
inductive PurchaseStep where
  | elapse (ms : ℕ)
  | arrive (request : SettleRequest)
  | input (i : PurchaseInput)
deriving DecidableEq

namespace PurchaseAct

def entry : PurchaseAct → PurchaseEntry
  | call c => .called c
  | decide e => .decided e
  | reply waiter r => .replied waiter r
  | release => .released

end PurchaseAct

/-- The call whose answer a state waits for. -/
def PurchaseRequest.callOf (req : PurchaseRequest) : PurchasePc → Option TerminalCall
  | .creating => some .create
  | .connecting => some .connect
  | .loggingIn => some .login
  | .readingId => some .terminalId
  | .readingLast _ => some .lastTransaction
  | .transacting _ => some (.transaction req.kind req.amountMinor)
  | .committing _ _ => some .commit
  | .rollingBack _ _ | .releasing _ _ => some .rollback
  | .loggingOut _ => some .logout
  | .disconnecting _ => some .disconnect
  | _ => none

/-- What a run notes of an input. -/
def PurchaseRequest.heard (req : PurchaseRequest) (pc : PurchasePc) :
    PurchaseInput → List PurchaseEntry
  | .answer a => (req.callOf pc).toList.map fun c => .answered c a
  | .contacted r => [.contacted r]
  | _ => []

/-- The channel after an input; `none`: the input is not what the channel gives. -/
def channelAfter (queue : List SettleRequest) : PurchaseInput → Option (List SettleRequest)
  | .received request =>
    match queue with
    | [] => none
    | r :: rest => if r = request then some rest else none
  | .nothing | .disconnected => if queue = [] then some [] else none
  | _ => some queue

namespace PurchaseRun

variable (w : PurchaseRun)

def isOver : Bool :=
  match w.pc with
  | .ended _ => true
  | _ => false

def step (spec : TerminalSpec) (req : PurchaseRequest) : PurchaseStep → Option PurchaseRun
  | .elapse ms => some { w with instant := w.instant + ms }
  | .arrive request =>
    if w.isOver then none
    else
      some { w with
        queue := w.queue ++ [request]
        trace := w.trace.note w.instant [.arrived request] }
  | .input i =>
    match channelAfter w.queue i, req.step spec w.instant w.pc i with
    | some queue, some (pc, acts) =>
      some { w with
        pc, queue
        trace := w.trace.note w.instant (req.heard w.pc i ++ acts.map PurchaseAct.entry) }
    | _, _ => none

end PurchaseRun

/-- The runs of `run_purchase` for a request on a terminal. -/
def purchaseSession (spec : TerminalSpec) (req : PurchaseRequest) :
    Transition PurchaseRun PurchaseStep where
  init := ⟨.start, [], 0, []⟩
  step w := w.step spec req

/-! ### The protocol -/

/-- The sale was sent to the terminal. -/
def PurchaseTrace.Sent (T : PurchaseTrace) : Prop :=
  ∃ kind amount, .called (.transaction kind amount) ∈ T.entries

/-- An answer to a release rollback after which the terminal waits for no commit. -/
def CallAnswer.Clears : CallAnswer → Prop
  | done => True
  | failed e => e.code = RC_NOTHING_PENDING
  | _ => False

/-- What must have happened before the outcome of the payment is decided. -/
def PurchaseEnd.Founded (T : PurchaseTrace) : PurchaseEnd → Prop
  | refused _ _ => ¬ T.Sent ∨ ∃ kind amount e code,
      .answered (.transaction kind amount) (.failed e) ∈ T.entries ∧
        classifyTransactionError e.code = .nothingCharged code
  | committed _ _ => .answered .commit .done ∈ T.entries
  | rolledBack _ => .answered .rollback .done ∈ T.entries ∨
      ∃ e, .answered .commit (.failed e) ∈ T.entries ∧ e.code = RC_COMMIT_TIMEOUT
  | unknown _ => True

/-- A refusal rests on a sale that was not sent, or that the terminal answered with one of the
codes that say that nothing was charged. -/
lemma founded_refused_iff {T : PurchaseTrace} {code text : String} :
    (PurchaseEnd.refused code text).Founded T ↔ ¬ T.Sent ∨
      ∃ kind amount, ∃ e : TimError, .answered (.transaction kind amount) (.failed e) ∈ T.entries ∧
        ∃ r ∈ nothingChargedCodes, r.1 ≤ e.code ∧ e.code ≤ r.2 := by
  simp only [PurchaseEnd.Founded, ← classifyTransactionError_iff, exists_and_left]

/-- A settle request is answered as committed only after the terminal answered the commit. -/
lemma PurchaseEnd.Founded.of_committed {T : PurchaseTrace} {e : PurchaseEnd} (h : e.Founded T)
    (hreply : e.settleReply = .committed) : .answered .commit .done ∈ T.entries := by
  obtain ⟨facts, tid, rfl⟩ := settleReply_eq_committed_iff.mp hreply
  exact h

/-- And as rolled back only after a rollback, a commit that came too late, or a sale that took
nothing. -/
lemma PurchaseEnd.Founded.of_rolledBack {T : PurchaseTrace} {e : PurchaseEnd} {text : String}
    (h : e.Founded T) (hreply : e.settleReply = .rolledBack text) :
    (PurchaseEnd.rolledBack text).Founded T ∨
      ∃ code why, (PurchaseEnd.refused code why).Founded T := by
  rcases settleReply_eq_rolledBack_iff.mp hreply with rfl | ⟨code, why, rfl, -⟩
  · exact Or.inl h
  · exact Or.inr ⟨code, why, h⟩

/-- What must have happened before an entry. -/
def PurchaseEntry.Justified (req : PurchaseRequest) (T : PurchaseTrace) (time : ℕ) :
    PurchaseEntry → Prop
  | called (.transaction _ _) =>
    ¬ T.Sent ∧ .contacted (.ok ()) ∈ T.entries ∧ ∀ e, .decided e ∉ T.entries
  | called .logout => ∀ why, .decided (.unknown why) ∈ T.entries → T.Sent →
      (∃ a, .answered .rollback a ∈ T.entries ∧ a.Clears) ∨
        ∃ t, (t, .decided (.unknown why)) ∈ T ∧ t + req.releaseWithin ≤ time
  | decided e => e.Founded T ∧ ∀ e', .decided e' ∉ T.entries
  | _ => True

/-- The session was connected. -/
def PurchaseRun.Connected (w : PurchaseRun) : Prop :=
  .answered .connect .done ∈ w.trace.entries

/-- Every request that came while the job was held is answered with the outcome. -/
def PurchaseTrace.Answered (T : PurchaseTrace) (e : PurchaseEnd) : Prop :=
  ∀ (newer : PurchaseTrace) t (older : PurchaseTrace), T = newer ++ (t, .released) :: older →
    ∀ request, .arrived request ∈ older.entries →
      .replied request.waiter e.settleReply ∈ T.entries

/-- The protocol of a held session, in a state of a run. -/
structure PurchaseProtocol (req : PurchaseRequest) (w : PurchaseRun) : Prop where
  /-- The order of the calls, and what each end rests on. -/
  justified : ∀ newer t x older, w.trace = newer ++ (t, x) :: older →
    x.Justified req older t
  /-- The run ends with what was decided. -/
  decided : ∀ e, w.pc = .ended e → .decided e ∈ w.trace.entries
  disconnected : ∀ e, w.pc = .ended e → w.Connected →
    .called .disconnect ∈ w.trace.entries
  /-- On every path the job leaves the holders. -/
  left : ∀ e, w.pc = .ended e → .released ∈ w.trace.entries
  /-- And every settle request is answered. -/
  answered : ∀ e, w.pc = .ended e → w.trace.Answered e

/-! ### What a state says of the past -/

/-- How far the session is. -/
inductive SessionStage where
  /-- Not connected yet. -/
  | opening
  | inside
  /-- The disconnect was called. -/
  | closing
  | past
deriving DecidableEq

namespace PurchasePc

/-- The outcome, once it is decided. -/
def decision : PurchasePc → Option PurchaseEnd
  | releasing why _ | pausing why _ _ => some (.unknown why)
  | loggingOut e | disconnecting e | leaving e | draining e | returning e | ended e => some e
  | _ => none

/-- The call whose settle request is carried out. -/
def waiter : PurchasePc → Option ℕ
  | committing _ i => some i
  | rollingBack _ i => i
  | _ => none

/-- The sale is not sent yet. -/
def unsent : PurchasePc → Bool
  | start | creating | connecting | loggingIn | readingId | readingLast _
  | journaling _ _ => true
  | _ => false

/-- The moment up to which the session is released. -/
def window : PurchasePc → Option ℕ
  | releasing _ deadline | pausing _ deadline _ => some deadline
  | _ => none

def stage : PurchasePc → SessionStage
  | start | creating | connecting => .opening
  | disconnecting _ | leaving _ => .closing
  | draining _ | returning _ | ended _ => .past
  | _ => .inside

/-- The channel is not looked at any more. -/
def isBack : PurchasePc → Bool
  | returning _ | ended _ => true
  | _ => false

end PurchasePc

/-- What the past of a run is asked about. -/
structure SessionProfile where
  decision : Option PurchaseEnd
  waiter : Option ℕ
  unsent : Bool
  window : Option ℕ
  stage : SessionStage
  isBack : Bool

def PurchasePc.profile (pc : PurchasePc) : SessionProfile :=
  ⟨pc.decision, pc.waiter, pc.unsent, pc.window, pc.stage, pc.isBack⟩

/-- An entry that no part of the protocol asks for. -/
def PurchaseEntry.isPlain : PurchaseEntry → Bool
  | called (.transaction _ _) | called .logout => false
  | called _ => true
  | answered .connect .done => false
  | answered _ _ | contacted _ => true
  | _ => false

/-- At most this many inputs are left, unless more settle requests come. -/
def PurchaseRequest.weight (req : PurchaseRequest) (instant : ℕ) : PurchasePc → ℕ
  | .start => 17 + 2 * req.releaseWithin + 2 * req.deadline
  | .creating => 16 + 2 * req.releaseWithin + 2 * req.deadline
  | .connecting => 15 + 2 * req.releaseWithin + 2 * req.deadline
  | .loggingIn => 14 + 2 * req.releaseWithin + 2 * req.deadline
  | .readingId => 13 + 2 * req.releaseWithin + 2 * req.deadline
  | .readingLast _ => 12 + 2 * req.releaseWithin + 2 * req.deadline
  | .journaling _ _ => 11 + 2 * req.releaseWithin + 2 * req.deadline
  | .transacting _ => 10 + 2 * req.releaseWithin + 2 * req.deadline
  | .storing held => 9 + 2 * req.releaseWithin + 2 * (held.authorisedAt + req.deadline - instant)
  | .holding held => 8 + 2 * req.releaseWithin + 2 * (held.authorisedAt + req.deadline - instant)
  | .waiting held wake =>
    9 + 2 * req.releaseWithin + 2 * (held.authorisedAt + req.deadline - wake)
  | .committing _ _ | .rollingBack _ _ => 7 + 2 * req.releaseWithin
  | .releasing _ deadline => 6 + 2 * (deadline - instant)
  | .pausing _ deadline wake => 7 + 2 * (deadline - wake)
  | .loggingOut _ => 5
  | .disconnecting _ => 4
  | .leaving _ => 3
  | .draining _ => 2
  | .returning _ => 1
  | .ended _ => 0

/-- What one input can do. -/
inductive PurchaseMove (req : PurchaseRequest) (instant : ℕ) :
    PurchasePc → PurchaseInput → PurchasePc → List PurchaseEntry → Prop
  /-- The session goes on to the next call or the next look. -/
  | advances (pc pc' i entries) (hinput : ∀ r, i ≠ .received r)
      (hplain : ∀ x ∈ entries, x.isPlain = true) (hprofile : pc'.profile = pc.profile)
      (hweight : req.weight instant pc' < req.weight instant pc) :
    PurchaseMove req instant pc i pc' entries
  /-- The terminal object is not there, or it cannot be connected: `run_purchase` returns. -/
  | unopened (pc c e code text) (hpc : pc = .creating ∨ pc = .connecting) :
    PurchaseMove req instant pc (.answer (.failed e)) (.returning (.refused code text))
      [.answered c (.failed e), .decided (.refused code text)]
  | connected :
    PurchaseMove req instant .connecting (.answer .done) .loggingIn
      [.answered .connect .done, .called .login]
  | notLoggedIn (e code text) :
    PurchaseMove req instant .loggingIn (.answer (.failed e)) (.disconnecting (.refused code text))
      [.answered .login (.failed e), .decided (.refused code text), .called .disconnect]
  | sends (tid base) :
    PurchaseMove req instant (.journaling tid base) (.contacted (.ok ())) (.transacting tid)
      [.contacted (.ok ()), .called (.transaction req.kind req.amountMinor)]
  /-- `logged_in` returns. -/
  | finishes (pc i heard e) (hinput : ∀ r, i ≠ .received r) (hstage : pc.stage = .inside)
      (hopen : pc.decision = none) (hplain : ∀ x ∈ heard, x.isPlain = true)
      (hfounded : ∀ T : PurchaseTrace, (pc.unsent = true → ¬ T.Sent) →
        (∀ x ∈ heard, x ∈ T.entries) → e.Founded T)
      (hweight : 6 + 2 * req.releaseWithin < req.weight instant pc) :
    PurchaseMove req instant pc i (req.settled instant e pc.waiter).1
      (heard ++ (req.settled instant e pc.waiter).2.map PurchaseAct.entry)
  /-- A held payment takes a settle request. -/
  | takes (held wake request pc' c) (hc : c = .commit ∨ c = .rollback)
      (hpc : pc'.profile = ⟨none, some request.waiter, false, none, .inside, false⟩)
      (hweight : req.weight instant pc' = 7 + 2 * req.releaseWithin) :
    PurchaseMove req instant (.waiting held wake) (.received request) pc' [.called c]
  /-- The terminal waits for no commit any more, or the window is over. -/
  | frees (why deadline a) (hfree : a.Clears ∨ deadline ≤ instant) :
    PurchaseMove req instant (.releasing why deadline) (.answer a) (.loggingOut (.unknown why))
      [.answered .rollback a, .called .logout]
  | logsOut (e a) :
    PurchaseMove req instant (.loggingOut e) (.answer a) (.disconnecting e)
      [.answered .logout a, .called .disconnect]
  | leaves (e) : PurchaseMove req instant (.leaving e) .go (.draining e) [.released]
  | answers (e request) :
    PurchaseMove req instant (.draining e) (.received request) (.draining e)
      [.replied request.waiter e.settleReply]
  | drained (e) : PurchaseMove req instant (.draining e) .nothing (.returning e) []

section Inversion

variable {spec : TerminalSpec} {req : PurchaseRequest} {instant : ℕ} {pc pc₁ pc' : PurchasePc}
  {i : PurchaseInput} {acts acts₁ : List PurchaseAct} {e : PurchaseEnd}

lemma settled_none (req : PurchaseRequest) (instant : ℕ) (e : PurchaseEnd) :
    req.settled instant e none = req.finish instant e := rfl

lemma PurchaseMove.of_advance (h : some (pc₁, acts₁) = some (pc', acts))
    (hinput : ∀ r, i ≠ .received r)
    (hplain : ∀ x ∈ req.heard pc i ++ acts₁.map PurchaseAct.entry, x.isPlain = true)
    (hprofile : pc₁.profile = pc.profile)
    (hweight : req.weight instant pc₁ < req.weight instant pc) :
    PurchaseMove req instant pc i pc' (req.heard pc i ++ acts.map PurchaseAct.entry) := by
  obtain ⟨rfl, rfl⟩ := Prod.mk.inj (Option.some.inj h)
  exact .advances _ _ _ _ hinput hplain hprofile hweight

lemma PurchaseMove.of_finish (h : some (req.settled instant e pc.waiter) = some (pc', acts))
    (hinput : ∀ r, i ≠ .received r) (hstage : pc.stage = .inside) (hopen : pc.decision = none)
    (hplain : ∀ x ∈ req.heard pc i, x.isPlain = true)
    (hfounded : ∀ T : PurchaseTrace, (pc.unsent = true → ¬ T.Sent) →
      (∀ x ∈ req.heard pc i, x ∈ T.entries) → e.Founded T)
    (hweight : 6 + 2 * req.releaseWithin < req.weight instant pc) :
    PurchaseMove req instant pc i pc' (req.heard pc i ++ acts.map PurchaseAct.entry) := by
  have hnext := Option.some.inj h
  obtain rfl : (req.settled instant e pc.waiter).1 = pc' := congrArg Prod.fst hnext
  obtain rfl : (req.settled instant e pc.waiter).2 = acts := congrArg Prod.snd hnext
  exact .finishes pc i _ e hinput hstage hopen hplain hfounded hweight

/-- A refusal before the sale rests on the sale not being sent. -/
lemma founded_of_unsent {code text : String} (hpc : pc.unsent = true) (T : PurchaseTrace)
    (hunsent : pc.unsent = true → ¬ T.Sent) : (PurchaseEnd.refused code text).Founded T :=
  Or.inl (hunsent hpc)

lemma failedTransaction_founded {kind : TwoPhase} {amount : ℤ} {err : TimError}
    {T : PurchaseTrace} (h : .answered (.transaction kind amount) (.failed err) ∈ T.entries) :
    (failedTransaction err).Founded T := by
  unfold failedTransaction
  split
  · rename_i code hcode
    exact Or.inr ⟨kind, amount, err, code, h, hcode⟩
  · exact trivial

lemma commitEnd_founded {held : Held} {err : TimError} {T : PurchaseTrace}
    (h : .answered .commit (.failed err) ∈ T.entries) :
    (commitEnd held (some err)).Founded T := by
  simp only [commitEnd]
  split
  · rename_i hcode
    exact Or.inr ⟨err, h, hcode⟩
  · exact trivial

attribute [local simp] PurchaseRequest.heard PurchaseRequest.callOf PurchaseAct.entry
  PurchaseEntry.isPlain

lemma PurchaseMove.of_step (h : req.step spec instant pc i = some (pc', acts)) :
    PurchaseMove req instant pc i pc' (req.heard pc i ++ acts.map PurchaseAct.entry) := by
  unfold PurchaseRequest.step at h
  split at h
  -- up to the login
  · exact .of_advance h (fun _ => nofun) (by simp) rfl (by simp [PurchaseRequest.weight])
  · obtain ⟨rfl, rfl⟩ := Prod.mk.inj (Option.some.inj h)
    exact .unopened _ .create _ _ _ (Or.inl rfl)
  · exact .of_advance h (fun _ => nofun) (by simp) rfl (by simp [PurchaseRequest.weight])
  · obtain ⟨rfl, rfl⟩ := Prod.mk.inj (Option.some.inj h)
    exact .unopened _ .connect _ _ _ (Or.inr rfl)
  · obtain ⟨rfl, rfl⟩ := Prod.mk.inj (Option.some.inj h)
    exact .connected
  · obtain ⟨rfl, rfl⟩ := Prod.mk.inj (Option.some.inj h)
    exact .notLoggedIn _ _ _
  · exact .of_advance h (fun _ => nofun) (by simp) rfl (by simp [PurchaseRequest.weight])
  -- up to the contact
  · rw [← settled_none] at h
    exact .of_finish h (fun _ => nofun) rfl rfl (by simp) (fun T hT _ => founded_of_unsent rfl T hT)
      (by simp only [PurchaseRequest.weight]; omega)
  · split at h
    · split at h
      · exact .of_advance h (fun _ => nofun) (by simp) rfl (by simp [PurchaseRequest.weight])
      · rw [← settled_none] at h
        exact .of_finish h (fun _ => nofun) rfl rfl (by simp)
          (fun T hT _ => founded_of_unsent rfl T hT) (by simp only [PurchaseRequest.weight]; omega)
    · exact .of_advance h (fun _ => nofun) (by simp) rfl (by simp [PurchaseRequest.weight])
  · exact .of_advance h (fun _ => nofun) (by simp) rfl (by simp [PurchaseRequest.weight])
  · exact .of_advance h (fun _ => nofun) (by simp) rfl (by simp [PurchaseRequest.weight])
  · obtain ⟨rfl, rfl⟩ := Prod.mk.inj (Option.some.inj h)
    exact .sends _ _
  · rw [← settled_none] at h
    exact .of_finish h (fun _ => nofun) rfl rfl (by simp) (fun _ _ _ => trivial)
      (by simp only [PurchaseRequest.weight]; omega)
  · rw [← settled_none] at h
    exact .of_finish h (fun _ => nofun) rfl rfl (by simp) (fun T hT _ => founded_of_unsent rfl T hT)
      (by simp only [PurchaseRequest.weight]; omega)
  -- the transaction and the wait
  · rw [← settled_none] at h
    exact .of_finish h (fun _ => nofun) rfl rfl (by simp)
      (fun T _ hT => failedTransaction_founded (hT _ (List.mem_singleton_self _)))
        (by simp only [PurchaseRequest.weight]; omega)
  · split at h
    · exact .of_advance h (fun _ => nofun) (by simp) rfl
        (by simp only [PurchaseRequest.weight]; omega)
    · exact .of_advance h (fun _ => nofun) (by simp) rfl (by simp [PurchaseRequest.weight])
  · exact .of_advance h (fun _ => nofun) (by simp) rfl (by simp [PurchaseRequest.weight])
  · exact .of_advance h (fun _ => nofun) (by simp) rfl
      (by simp only [PurchaseRequest.weight]; omega)
  · simp only at h
    split at h
    · exact .of_advance h (fun _ => nofun) (by simp) rfl
        (by simp only [PurchaseRequest.weight]; omega)
    · exact .of_advance h (fun _ => nofun) (by simp) rfl
        (by simp only [PurchaseRequest.weight, REFUSAL_POLL]; omega)
  · split at h
    · obtain ⟨rfl, rfl⟩ := Prod.mk.inj (Option.some.inj h)
      exact .takes _ _ _ _ .commit (Or.inl rfl) rfl rfl
    · obtain ⟨rfl, rfl⟩ := Prod.mk.inj (Option.some.inj h)
      exact .takes _ _ _ _ .rollback (Or.inr rfl) rfl rfl
  · exact .of_advance h (fun _ => nofun) (by simp) rfl
      (by simp only [PurchaseRequest.weight]; omega)
  · split at h
    · cases h
    · split at h
      · exact .of_advance h (fun _ => nofun) (by simp) rfl
          (by simp only [PurchaseRequest.weight]; omega)
      · exact .of_advance h (fun _ => nofun) (by simp) rfl
          (by simp only [PurchaseRequest.weight]; omega)
  -- the decision
  · exact .of_finish h (fun _ => nofun) rfl rfl (by simp)
      (fun T _ hT => hT _ (List.mem_singleton_self _))
        (by simp only [PurchaseRequest.weight]; omega)
  · exact .of_finish h (fun _ => nofun) rfl rfl (by simp)
      (fun T _ hT => commitEnd_founded (hT _ (List.mem_singleton_self _)))
        (by simp only [PurchaseRequest.weight]; omega)
  · exact .of_finish h (fun _ => nofun) rfl rfl (by simp)
      (fun T _ hT => Or.inl (hT _ (List.mem_singleton_self _)))
        (by simp only [PurchaseRequest.weight]; omega)
  · exact .of_finish h (fun _ => nofun) rfl rfl (by simp) (fun _ _ _ => trivial)
      (by simp only [PurchaseRequest.weight]; omega)
  -- the release
  · obtain ⟨rfl, rfl⟩ := Prod.mk.inj (Option.some.inj h)
    exact .frees _ _ _ (Or.inl trivial)
  · simp only at h
    split at h
    · rename_i hfree
      obtain ⟨rfl, rfl⟩ := Prod.mk.inj (Option.some.inj h)
      exact .frees _ _ _ (hfree.imp id Nat.sub_eq_zero_iff_le.mp)
    · exact .of_advance h (fun _ => nofun) (by simp) rfl
        (by simp only [PurchaseRequest.weight, RELEASE_RETRY]; omega)
  · split at h
    · cases h
    · exact .of_advance h (fun _ => nofun) (by simp) rfl
        (by simp only [PurchaseRequest.weight]; omega)
  -- the way out
  · obtain ⟨rfl, rfl⟩ := Prod.mk.inj (Option.some.inj h)
    exact .logsOut _ _
  · obtain ⟨rfl, rfl⟩ := Prod.mk.inj (Option.some.inj h)
    exact .logsOut _ _
  · exact .of_advance h (fun _ => nofun) (by simp) rfl (by simp [PurchaseRequest.weight])
  · exact .of_advance h (fun _ => nofun) (by simp) rfl (by simp [PurchaseRequest.weight])
  · obtain ⟨rfl, rfl⟩ := Prod.mk.inj (Option.some.inj h)
    exact .leaves _
  · obtain ⟨rfl, rfl⟩ := Prod.mk.inj (Option.some.inj h)
    exact .answers _ _
  · obtain ⟨rfl, rfl⟩ := Prod.mk.inj (Option.some.inj h)
    exact .drained _
  · exact .of_advance h (fun _ => nofun) (by simp) rfl (by simp [PurchaseRequest.weight])
  · cases h

end Inversion

end DevBridge.Tim

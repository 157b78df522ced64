import DevBridge.Lib.Transition
import DevBridge.Server.IppServer

/-!
# The printer reconciler

A task of its own brings the virtual printers to Windows.  Each insert and each update writes
its row and signals the task, with the lock of the storage held over both; a signal is dropped
when the channel is full.  The task waits for a signal, sleeps, drains the channel, reads the
table, and hands the list to the invoker.

The write, the signal, and each step of the task are steps of their own here.  The channel
never closes: the task itself keeps the queue, and the queue the sender.
-/

namespace DevBridge

namespace Server

/-- Signals beyond these are dropped. -/
def SIGNAL_CHANNEL_CAPACITY : ℕ := 32

/-- Where `reconciler_loop` is.  A list that was read stands with the count of the inserts and
updates that were committed when it was read. -/
inductive ReconcilerPhase where
  /-- `do_one_invoke` reads the table next. -/
  | listing
  | listed (list : PrinterTable) (seen : ℕ)
  | invoking
  /-- `rx.recv().await`. -/
  | waiting
  | sleeping
  | draining
deriving DecidableEq, Repr

/-- The table, the channel, and the task. -/
structure ReconcilerWorld where
  printers : PrinterTable
  /-- The inserts and updates that were committed so far. -/
  changes : ℕ
  /-- A change is committed and its signal is sent next; the storage is locked. -/
  signalling : Bool
  /-- The signals in the channel. -/
  signals : ℕ
  phase : ReconcilerPhase
  /-- The list of the last invoke, and the changes that were committed when it was read. -/
  invoked : Option (PrinterTable × ℕ)
deriving DecidableEq, Repr

inductive ReconcilerEvent where
  | insert (vp : VirtualPrinter)
  | update (vp : VirtualPrinter)
  | delete (id : ℕ)
  /-- `try_send` behind a committed change. -/
  | signal
  | receive
  | wake
  | drain
  /-- `list_virtual_printers`, which may fail. -/
  | read (ok : Bool)
  | invoke
  | invokeEnds
deriving DecidableEq, Repr

namespace ReconcilerWorld

/-- A write that the table takes is committed; one that it refuses ends with an error. -/
def commit (w : ReconcilerWorld) (written : Option PrinterTable) : ReconcilerWorld :=
  match written with
  | some printers => { w with printers := printers, changes := w.changes + 1, signalling := true }
  | none => w

/-- `try_send`. -/
def trySend (w : ReconcilerWorld) : ReconcilerWorld :=
  { w with
    signals := if w.signals < SIGNAL_CHANNEL_CAPACITY then w.signals + 1 else w.signals
    signalling := false }

/-- One step of the task; `none` when it has to wait. -/
def taskStep (w : ReconcilerWorld) (e : ReconcilerEvent) : Option ReconcilerWorld :=
  match e, w.phase with
  | .receive, .waiting =>
    if 0 < w.signals then some { w with signals := w.signals - 1, phase := .sleeping } else none
  | .wake, .sleeping => some { w with phase := .draining }
  | .drain, .draining =>
    if 0 < w.signals then some { w with signals := w.signals - 1 }
    else some { w with phase := .listing }
  | .read ok, .listing =>
    if w.signalling then none
    else if ok then some { w with phase := .listed w.printers w.changes }
    else some { w with phase := .waiting }
  | .invoke, .listed list seen => some { w with phase := .invoking, invoked := some (list, seen) }
  | .invokeEnds, .invoking => some { w with phase := .waiting }
  | _, _ => none

def step (w : ReconcilerWorld) (e : ReconcilerEvent) : Option ReconcilerWorld :=
  match e with
  | .insert vp => if w.signalling then none else some (w.commit (w.printers.insertRow vp))
  | .update vp => if w.signalling then none else some (w.commit (w.printers.updateRow vp))
  | .delete id =>
    if w.signalling then none
    else some { w with printers := (w.printers.deleteRow id).getD w.printers }
  | .signal => if w.signalling then some w.trySend else none
  | e => w.taskStep e

end ReconcilerWorld

/-- The reconciler, started with the table of an earlier run. -/
def reconciler (printers : PrinterTable) : Transition ReconcilerWorld ReconcilerEvent where
  init :=
    { printers, changes := 0, signalling := false, signals := 0, phase := .listing,
      invoked := none }
  step := ReconcilerWorld.step

/-- The table can always be read. -/
def readsSucceed : Transition.Law ReconcilerWorld ReconcilerEvent := fun _ e _ => e ≠ .read false

/-! ### What a step does -/

/-- What the steps come to. -/
inductive ReconcilerMove (w : ReconcilerWorld) : ReconcilerWorld → Prop
  | refused : ReconcilerMove w w
  | committed (printers : PrinterTable) (hlock : w.signalling = false) :
    ReconcilerMove w
      { w with printers := printers, changes := w.changes + 1, signalling := true }
  | deleted (printers : PrinterTable) (hlock : w.signalling = false)
    (hsub : printers ⊆ w.printers) : ReconcilerMove w { w with printers := printers }
  | signalled (n : ℕ) (hpos : 0 < n) :
    ReconcilerMove w { w with signals := n, signalling := false }
  | received (n : ℕ) (hw : w.phase = .waiting) :
    ReconcilerMove w { w with signals := n, phase := .sleeping }
  | woke (hw : w.phase = .sleeping) : ReconcilerMove w { w with phase := .draining }
  | drained (n : ℕ) (hw : w.phase = .draining) : ReconcilerMove w { w with signals := n }
  | empty (hw : w.phase = .draining) : ReconcilerMove w { w with phase := .listing }
  | read (hw : w.phase = .listing) (hlock : w.signalling = false) :
    ReconcilerMove w { w with phase := .listed w.printers w.changes }
  | invoked (list : PrinterTable) (seen : ℕ) (hw : w.phase = .listed list seen) :
    ReconcilerMove w { w with phase := .invoking, invoked := some (list, seen) }
  | ended (hw : w.phase = .invoking) : ReconcilerMove w { w with phase := .waiting }

lemma PrinterTable.deleteRow_subset (printers : PrinterTable) (id : ℕ) :
    (printers.deleteRow id).getD printers ⊆ printers := by
  unfold PrinterTable.deleteRow
  split
  · exact List.filter_subset_self printers
  · exact List.Subset.refl _

lemma ReconcilerMove.of_commit {w : ReconcilerWorld} (written : Option PrinterTable)
    (hlock : w.signalling = false) : ReconcilerMove w (w.commit written) := by
  cases written with
  | none => exact .refused
  | some printers => exact .committed printers hlock

/-- A step of the task is one of the moves, if the table can be read. -/
lemma ReconcilerMove.of_taskStep {w w' : ReconcilerWorld} {e : ReconcilerEvent}
    (h : w.taskStep e = some w') (hread : e ≠ .read false) : ReconcilerMove w w' := by
  unfold ReconcilerWorld.taskStep at h
  split at h
  · rename_i hp
    split at h
    · exact Option.some.inj h ▸ .received _ hp
    · cases h
  · rename_i hp
    exact Option.some.inj h ▸ .woke hp
  · rename_i hp
    split at h
    · exact Option.some.inj h ▸ .drained _ hp
    · exact Option.some.inj h ▸ .empty hp
  · rename_i ok hp
    split at h
    · cases h
    · rename_i hlock
      cases ok with
      | true => exact Option.some.inj h ▸ .read hp (by simpa using hlock)
      | false => exact absurd rfl hread
  · rename_i list seen hp
    exact Option.some.inj h ▸ .invoked list seen hp
  · rename_i hp
    exact Option.some.inj h ▸ .ended hp
  · cases h

/-- A step is one of the moves, if the table can be read. -/
lemma ReconcilerMove.of_step {w w' : ReconcilerWorld} {e : ReconcilerEvent}
    (h : w.step e = some w') (hread : e ≠ .read false) : ReconcilerMove w w' := by
  cases e with
  | insert vp | update vp =>
    simp only [ReconcilerWorld.step] at h
    split at h
    · cases h
    · rename_i hlock
      exact Option.some.inj h ▸ .of_commit _ (by simpa using hlock)
  | delete id =>
    simp only [ReconcilerWorld.step] at h
    split at h
    · cases h
    · rename_i hlock
      exact Option.some.inj h ▸
        .deleted _ (by simpa using hlock) (PrinterTable.deleteRow_subset _ id)
  | signal =>
    simp only [ReconcilerWorld.step] at h
    split at h
    · refine Option.some.inj h ▸ .signalled _ ?_
      -- a full channel keeps its signals, any other has one more
      split
      · omega
      · rename_i hfull
        simp only [SIGNAL_CHANNEL_CAPACITY] at hfull
        omega
    · cases h
  | receive | wake | drain | read ok | invoke | invokeEnds => exact .of_taskStep h hread

/-! ### What the task has not seen is still ahead of it -/

/-- A list that was read when `seen` changes were committed lacks at most the change whose
signal is sent next. -/
structure UpToDate (w : ReconcilerWorld) (list : PrinterTable) (seen : ℕ) : Prop where
  count : seen + (if w.signalling then 1 else 0) = w.changes
  printers : w.signalling = false → w.printers ⊆ list

/-- If the channel is empty, the list of the task is up to date, unless it will read again before
it waits. -/
structure Covered (w : ReconcilerWorld) : Prop where
  listed : ∀ list seen, w.phase = .listed list seen → 0 < w.signals ∨ UpToDate w list seen
  last : w.phase = .invoking ∨ w.phase = .waiting →
    ∃ list seen, w.invoked = some (list, seen) ∧ (0 < w.signals ∨ UpToDate w list seen)

lemma UpToDate.committed {w : ReconcilerWorld} {list : PrinterTable} {seen : ℕ}
    (h : UpToDate w list seen) (hlock : w.signalling = false) (printers : PrinterTable) :
    UpToDate { w with printers := printers, changes := w.changes + 1, signalling := true }
      list seen := by
  refine ⟨?_, by simp⟩
  have := h.count
  simp only [hlock, Bool.false_eq_true, if_false, add_zero] at this
  simp [this]

lemma UpToDate.deleted {w : ReconcilerWorld} {list printers : PrinterTable} {seen : ℕ}
    (h : UpToDate w list seen) (hsub : printers ⊆ w.printers) :
    UpToDate { w with printers := printers } list seen :=
  ⟨h.count, fun hlock => List.Subset.trans hsub (h.printers hlock)⟩

/-- A list that was read just now. -/
lemma UpToDate.read {w w' : ReconcilerWorld} (hlock : w.signalling = false)
    (hsig : w'.signalling = w.signalling) (hchanges : w'.changes = w.changes)
    (hprinters : w'.printers = w.printers) : UpToDate w' w.printers w.changes := by
  refine ⟨by simp [hsig, hlock, hchanges], fun _ => ?_⟩
  rw [hprinters]
  exact List.Subset.refl _

lemma Covered.move {w w' : ReconcilerWorld} (h : Covered w) (hm : ReconcilerMove w w') :
    Covered w' := by
  -- a move that leaves the task where it is, and each list as good as it was
  have hstays : ∀ {v : ReconcilerWorld}, v.phase = w.phase → v.invoked = w.invoked →
      (∀ list seen, 0 < w.signals ∨ UpToDate w list seen →
        0 < v.signals ∨ UpToDate v list seen) → Covered v := by
    intro v hphase hinvoked hgood
    refine ⟨fun list seen hv => hgood _ _ (h.listed _ _ (hphase ▸ hv)), fun hv => ?_⟩
    rw [hphase] at hv
    obtain ⟨list, seen, hi, hup⟩ := h.last hv
    exact ⟨list, seen, hinvoked ▸ hi, hgood _ _ hup⟩
  cases hm with
  | refused => exact h
  | committed printers hlock =>
    exact hstays rfl rfl fun _ _ => Or.imp_right fun hup => hup.committed hlock printers
  | deleted printers hlock hsub =>
    exact hstays rfl rfl fun _ _ => Or.imp_right fun hup => hup.deleted hsub
  | signalled n hpos => exact hstays rfl rfl fun _ _ _ => Or.inl hpos
  | received n hw => exact ⟨by simp, by simp⟩
  | woke hw => exact ⟨by simp, by simp⟩
  | drained n hw => exact ⟨by simp [hw], by simp [hw]⟩
  | empty hw => exact ⟨by simp, by simp⟩
  | read hw hlock =>
    refine ⟨?_, by simp⟩
    rintro list seen hv
    simp only [ReconcilerPhase.listed.injEq] at hv
    obtain ⟨rfl, rfl⟩ := hv
    exact Or.inr (UpToDate.read hlock rfl rfl rfl)
  | invoked list seen hw =>
    refine ⟨by simp, fun _ => ⟨list, seen, rfl, ?_⟩⟩
    exact (h.listed list seen hw).imp_right fun hup => ⟨hup.count, hup.printers⟩
  | ended hw =>
    refine ⟨by simp, fun _ => ?_⟩
    obtain ⟨list, seen, hi, hup⟩ := h.last (Or.inl hw)
    exact ⟨list, seen, hi, hup.imp_right fun hup => ⟨hup.count, hup.printers⟩⟩

lemma covered_of_reach {printers : PrinterTable} {w : ReconcilerWorld}
    (h : (reconciler printers).Reach readsSucceed w) : Covered w := by
  refine h.invariant ⟨by simp [reconciler], by simp [reconciler]⟩ ?_
  intro a e b _ ha hstep hlaw
  exact ha.move (.of_step hstep hlaw)

/-- When the reconciler waits with an empty channel, its last list was read after the last
insert or update whose signal was sent; only a change that is about to send its signal can be
missing.  So if none is, the list has every printer of the table. -/
theorem waiting_reconciler_saw_every_change {printers : PrinterTable} {w : ReconcilerWorld}
    (h : (reconciler printers).Reach readsSucceed w) (hwaiting : w.phase = .waiting)
    (hempty : w.signals = 0) :
    ∃ list seen, w.invoked = some (list, seen) ∧
      seen + (if w.signalling then 1 else 0) = w.changes ∧
      (w.signalling = false → w.printers ⊆ list) ∧
      (w.signalling = true → ∃ w', w.step .signal = some w' ∧ w'.phase = .waiting ∧
        0 < w'.signals) := by
  obtain ⟨list, seen, hi, hup⟩ := (covered_of_reach h).last (Or.inr hwaiting)
  rcases hup with hpos | hup
  · omega
  refine ⟨list, seen, hi, hup.count, hup.printers, fun hs => ⟨w.trySend, ?_, hwaiting, ?_⟩⟩
  · simp [ReconcilerWorld.step, hs]
  · simp [ReconcilerWorld.trySend, hempty, SIGNAL_CHANNEL_CAPACITY]

/-- A printer that is inserted while the reconciler invokes. -/
def cratePrinter : VirtualPrinter :=
  { id := 1, displayName := "Crates", ippName := "crates", pairedClientId := none }

/-- A run in which an insert comes while the invoker runs; the signal wakes the task again. -/
def insertDuringInvoke : List ReconcilerEvent :=
  [.read true, .invoke, .insert cratePrinter, .invokeEnds, .signal, .receive, .wake, .drain,
    .read true, .invoke, .invokeEnds]

theorem waiting_reconciler_saw_insert :
    ∃ w, (reconciler []).Reach readsSucceed w ∧
      ∃ list seen, w.invoked = some (list, seen) ∧
        seen + (if w.signalling then 1 else 0) = w.changes ∧
        (w.signalling = false → w.printers ⊆ list) ∧
        (w.signalling = true → ∃ w', w.step .signal = some w' ∧ w'.phase = .waiting ∧
          0 < w'.signals) := by
  obtain ⟨w, hw, hgoal⟩ := Transition.reach_of_tests (reconciler []) readsSucceed
    insertDuringInvoke (fun w => w.phase == .waiting && w.signals == 0)
    (fun _ e _ (h : (e != .read false) = true) => by simpa [readsSucceed] using h)
    (by decide +kernel) (by decide +kernel)
  simp only [Bool.and_eq_true, beq_iff_eq] at hgoal
  exact ⟨w, hw, waiting_reconciler_saw_every_change hw hgoal.1 hgoal.2⟩

/-- Between the commit of an insert and its signal the reconciler waits with an empty channel,
and its last list lacks the new printer. -/
theorem waiting_reconciler_misses_unsignalled :
    ¬∀ w, (reconciler []).Reach readsSucceed w → w.phase = .waiting → w.signals = 0 →
      ∃ list, w.invoked = some (list, w.changes) := by
  intro h
  obtain ⟨w, hw, hgoal⟩ := Transition.reach_of_tests (reconciler []) readsSucceed
    [.read true, .invoke, .invokeEnds, .insert cratePrinter]
    (fun w => w.phase == .waiting && w.signals == 0 && w.invoked == some ([], 0) &&
      w.changes == 1)
    (fun _ e _ (h : (e != .read false) = true) => by simpa [readsSucceed] using h)
    (by decide +kernel) (by decide +kernel)
  simp only [Bool.and_eq_true, beq_iff_eq] at hgoal
  obtain ⟨⟨⟨hwaiting, hempty⟩, hinvoked⟩, hchanges⟩ := hgoal
  obtain ⟨list, hlist⟩ := h w hw hwaiting hempty
  rw [hinvoked, hchanges] at hlist
  simp at hlist

end Server

end DevBridge

import DevBridge.Labels.Calls

/-!
# A label is printed at most once

The invariant holds along every run, whatever Odoo sends, however the ledger and the prints
fail and wherever the process dies.  So the events of a run are sound: a line that was in a
document is in no later one, and is not forgotten, until `prune` dropped its row.
-/

namespace DevBridge

namespace Labels

open LabelIo Scripted

variable {enc : Encoder} {w₀ w w' : LabelWorld enc} {secs : ℕ}

/-! ### Runs -/

lemma LabelInv.withAlive (h : LabelInv w₀ w) (alive : Bool) :
    LabelInv w₀ { w with alive := alive } :=
  ⟨h.sound, h.sent, h.told, h.clean, h.grows, h.owed⟩

lemma LabelInv.ended (h : LabelInv w₀ w) : Kept w₀ w.ended := by
  have hended : LabelInv w₀ (w.remember .ended) := h.of_event trivial h.sent h.told
  exact ⟨hended.withAlive false, rfl⟩

lemma step_kept (h : Kept w₀ w) {e : LabelStep enc} (hstep : w.step secs e = some w') :
    Kept w₀ w' := by
  rcases e with script | script | _
  · simp only [LabelWorld.step] at hstep
    split at hstep
    · cases hstep
    · obtain rfl := Option.some.inj hstep
      have hend := (startUp_kept h).exec script
      unfold LabelWorld.afterStart
      rcases hr : (startUp : LabelIo enc Unit).exec script w with ⟨(e | _) | _, w₁⟩
      · rw [hr] at hend
        exact hend.1.ended
      · rw [hr] at hend
        exact LabelInv.ended hend
      · rw [hr] at hend
        exact ⟨hend.1.withAlive true, hend.2⟩
  · simp only [LabelWorld.step] at hstep
    split at hstep
    · obtain rfl := Option.some.inj hstep
      have hend := (pollOnce_kept secs h).exec script
      unfold LabelWorld.after
      rcases hr : (pollOnce secs : LabelIo enc PollOutcome).exec script w with ⟨(e | _) | _, w₁⟩
      · rw [hr] at hend
        exact hend
      · rw [hr] at hend
        exact LabelInv.ended hend
      · rw [hr] at hend
        exact hend
    · cases hstep
  · simp only [LabelWorld.step] at hstep
    split at hstep
    · obtain rfl := Option.some.inj hstep
      exact h.1.ended
    · cases hstep

lemma kept_of_reach (h : (labelSource secs).Reach Transition.free w) :
    Kept w w := by
  have hinit : Kept (⟨Table.empty, [], false⟩ : LabelWorld enc) ⟨Table.empty, [], false⟩ :=
    ⟨⟨trivial, fun _ h => h.elim, fun _ _ h => (nomatch h), fun _ _ hr => by simp at hr,
      ⟨[], rfl⟩, fun _ _ hr => by simp at hr⟩, rfl⟩
  have hall : Kept (⟨Table.empty, [], false⟩ : LabelWorld enc) w :=
    h.invariant hinit fun _ _ _ _ hk hstep _ => step_kept hk hstep
  exact ⟨hall.1.refl, hall.2⟩

lemma kept_of_leads (h : (labelSource secs).Reach Transition.free w)
    (hl : (labelSource secs).Leads Transition.free w w') : Kept w w' :=
  hl.keeps h (kept_of_reach h) fun _ _ _ _ hk hstep _ => step_kept hk hstep

/-! ### Documents -/

/-- A line is in at most one document and at most once in it, and is not forgotten after it,
unless its row was pruned in between. -/
theorem label_printed_at_most_once (h : (labelSource secs).Reach Transition.free w)
    (id : ℤ) :
    (∀ doc, .print doc ∈ w.trace → doc.ids.Nodup) ∧
    (∀ (t₁ t₂ t₃ : List (LabelEvent enc)) (doc doc' : Document enc),
      w.trace = t₁ ++ .print doc' :: t₂ ++ .print doc :: t₃ →
      id ∈ doc.ids → id ∈ doc'.ids → .prune id ∈ t₂) ∧
    ∀ (t₁ t₂ t₃ : List (LabelEvent enc)) (doc : Document enc),
      w.trace = t₁ ++ .forget id :: t₂ ++ .print doc :: t₃ →
      id ∈ doc.ids → .prune id ∈ t₂ := by
  have hsound := (kept_of_reach h).1.sound
  -- without a `prune` the line counts as printed up to the later event
  have hprinted : ∀ (t₁ t₂ t₃ : List (LabelEvent enc)) (event : LabelEvent enc)
      (doc : Document enc), w.trace = t₁ ++ event :: t₂ ++ .print doc :: t₃ →
      id ∈ doc.ids → .prune id ∉ t₂ →
      event.Fits (t₂ ++ .print doc :: t₃) ∧ PrintedSince id (t₂ ++ .print doc :: t₃) := by
    intro t₁ t₂ t₃ event doc htrace hid hprune
    have hsuffix : Sound (event :: (t₂ ++ .print doc :: t₃)) := by
      refine Sound.of_append (t := t₁) ?_
      rw [htrace] at hsound
      simpa using hsound
    exact ⟨hsuffix.1, printedSince_append hsuffix.2 hprune (Or.inl hid)⟩
  refine ⟨fun doc hdoc => ?_, fun t₁ t₂ t₃ doc doc' htrace hid hid' => ?_,
    fun t₁ t₂ t₃ doc htrace hid => ?_⟩
  · obtain ⟨t₁, t₂, htrace⟩ := List.append_of_mem hdoc
    rw [htrace] at hsound
    exact hsound.of_append.1.1
  · by_contra hprune
    obtain ⟨hfits, hp⟩ := hprinted t₁ t₂ t₃ _ doc htrace hid hprune
    exact hfits.2 id hid' hp
  · by_contra hprune
    obtain ⟨hfits, hp⟩ := hprinted t₁ t₂ t₃ _ doc htrace hid hprune
    exact hfits hp

/-! ### A run -/

/-- An encoder that prints every text but the empty one. -/
def plainLabels : Encoder where
  Size := Unit
  Geometry := Unit
  Label := String
  geometryFor _ := .ok ()
  decodeLabel png _ := if png = "" then .error "empty png" else .ok png

/-- A batch with one line. -/
def oneLine (lineId printQty : ℤ) (png : String) : NextBatch plainLabels :=
  ⟨some 1, [⟨lineId, 0, printQty, png⟩], [], ()⟩

/-- Operations that succeed. -/
def quiet (now : Time) (n : ℕ) : List (Turn plainLabels) := List.replicate n { now := now }

/-- A poll that takes `steps` to decide the line of a batch, prints it and has its ack
accepted. -/
def printPoll (now : Time) (steps : ℕ) (batch : NextBatch plainLabels) :
    LabelStep plainLabels :=
  .poll (quiet now 1 ++ [{ next := .ok batch }] ++ quiet now (steps + 5) ++
    [{ printed := some none }] ++ quiet now 3 ++ [{ ack := .ok ⟨false⟩ }] ++ quiet now 1)

/-- A poll that decides a line without a print and has its ack accepted. -/
def ackPoll (now : Time) (batch : NextBatch plainLabels) : LabelStep plainLabels :=
  .poll (quiet now 1 ++ [{ next := .ok batch }] ++ quiet now 3 ++ [{ ack := .ok ⟨true⟩ }] ++
    quiet now 1)

/-- The documents of a history. -/
def printed {enc : Encoder} : List (LabelEvent enc) → List (Document enc)
  | [] => []
  | .print doc :: t => doc :: printed t
  | _ :: t => printed t

/-- A line is printed, and Odoo offers it twice more. -/
theorem label_printed_at_most_once_offered : ∃ w : LabelWorld plainLabels,
    (labelSource 10).Reach Transition.free w ∧ (printed w.trace).map Document.ids = [[7]] ∧
      ∀ (t₁ t₂ t₃ : List (LabelEvent plainLabels)) (doc doc' : Document plainLabels),
        w.trace = t₁ ++ .print doc' :: t₂ ++ .print doc :: t₃ →
        7 ∈ doc.ids → 7 ∈ doc'.ids → .prune 7 ∈ t₂ := by
  have hrun := (labelSource 10).reach_of_run
    [.start (quiet 0 2), printPoll 0 1 (oneLine 7 3 "label"), ackPoll 0 (oneLine 7 3 "label"),
      ackPoll 0 (oneLine 7 3 "label")]
    (fun w : LabelWorld plainLabels => decide ((printed w.trace).map Document.ids = [[7]]))
    (by decide +kernel)
  obtain ⟨w, hw, hprinted⟩ := hrun
  exact ⟨w, hw, of_decide_eq_true hprinted, (label_printed_at_most_once hw 7).2.1⟩

end Labels

end DevBridge

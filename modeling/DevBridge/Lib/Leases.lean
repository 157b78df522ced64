import Mathlib.Logic.Function.Basic
import Mathlib.Tactic

/-!
# Rows in hand

Parties insert rows into a store and have them in hand, by their keys, until they are done with
them; a party has one row in hand at most.  Whoever writes or drops a row has it in hand, and a
new row gets a key without a row.  So a row in hand is as its party left it, and no two parties
have one row in hand.
-/

universe u v w

namespace Leases

variable {κ : Type u} {α : Type v} {ι : Type w}

/-- A row in hand is there, as its party expects it, and in no other hand. -/
structure Held (get : κ → Option α) (hand : ι → Option κ) (Fits : ι → α → Prop) : Prop where
  row : ∀ i k, hand i = some k → ∃ a, get k = some a ∧ Fits i a
  exclusive : ∀ i j k, hand i = some k → hand j = some k → i = j

/-- What a step of a party does to the rows: it leads from one row in hand, or none, to
another. -/
inductive Step (get get' : κ → Option α) (fits fits' : α → Prop) : Option κ → Option κ → Prop
  | idle (hget : ∀ k, get' k = get k) : Step get get' fits fits' none none
  | kept (k : κ) (hget : ∀ k, get' k = get k) (hfits : ∀ a, fits a → fits' a) :
    Step get get' fits fits' (some k) (some k)
  | taken (k : κ) (a : α) (hfresh : get k = none) (hnew : get' k = some a) (hfits : fits' a)
      (hget : ∀ k', k' ≠ k → get' k' = get k') : Step get get' fits fits' none (some k)
  /-- The row is written or dropped, or left as it is. -/
  | done (k : κ) (hget : ∀ k', k' ≠ k → get' k' = get k') : Step get get' fits fits' (some k) none

namespace Step

variable {get get' : κ → Option α} {fits fits' : α → Prop} {k k' : Option κ}

/-- A row that is not in hand stays. -/
lemma row_kept (h : Step get get' fits fits' k k') {k₀ : κ} {a : α} (ha : get k₀ = some a)
    (hne : k ≠ some k₀) : get' k₀ = some a := by
  cases h with
  | idle hget => rw [hget, ha]
  | kept _ hget => rw [hget, ha]
  | taken k₁ _ hfresh _ _ hget =>
    rw [hget k₀ (by rintro rfl; rw [hfresh] at ha; cases ha), ha]
  | done k₁ hget => rw [hget k₀ (by rintro rfl; exact hne rfl), ha]

end Step

namespace Held

variable {get get' : κ → Option α} {hand hand' : ι → Option κ} {Fits Fits' : ι → α → Prop}

/-- Nobody has a row in hand. -/
lemma of_none (hnone : ∀ i, hand i = none) : Held get hand Fits where
  row i k hi := by
    rw [hnone] at hi
    cases hi
  exclusive i j k hi := by
    rw [hnone] at hi
    cases hi

/-- Parties may let go of their rows. -/
lemma mono (h : Held get hand Fits) (hget : ∀ k, get' k = get k)
    (hsub : ∀ i k, hand' i = some k → hand i = some k ∧ ∀ a, Fits i a → Fits' i a) :
    Held get' hand' Fits' where
  row i k hi := by
    obtain ⟨hold, hfits⟩ := hsub i k hi
    obtain ⟨a, ha, hfit⟩ := h.row i k hold
    exact ⟨a, by rw [hget, ha], hfits a hfit⟩
  exclusive i j k hi hj := h.exclusive i j k (hsub i k hi).1 (hsub j k hj).1

/-- A step of a party leaves the rows of the others as they are. -/
lemma step (h : Held get hand Fits) {i : ι}
    (hstep : Step get get' (Fits i) (Fits' i) (hand i) (hand' i))
    (hothers : ∀ j, j ≠ i → hand' j = hand j ∧ ∀ a, Fits j a → Fits' j a) :
    Held get' hand' Fits' := by
  -- what another party has in hand, this one has not
  have hother : ∀ j k, j ≠ i → hand' j = some k → hand j = some k ∧ hand i ≠ some k ∧
      hand' i ≠ some k := by
    intro j k hji hj
    have hj' : hand j = some k := (hothers j hji).1.symm.trans hj
    have hi : hand i ≠ some k := fun hi => hji (h.exclusive j i k hj' hi)
    refine ⟨hj', hi, fun hi' => ?_⟩
    obtain ⟨a, ha, -⟩ := h.row j k hj'
    generalize hand i = old at hstep hi
    rw [hi'] at hstep
    cases hstep with
    | kept => exact hi rfl
    | taken _ _ hfresh =>
      rw [hfresh] at ha
      cases ha
  constructor
  · intro j k hj
    by_cases hji : j = i
    · subst hji
      have hrow := h.row j
      generalize hand j = old at hstep hrow
      rw [hj] at hstep
      cases hstep with
      | kept _ hget hfits =>
        obtain ⟨a, ha, hfit⟩ := hrow k rfl
        exact ⟨a, by rw [hget, ha], hfits a hfit⟩
      | taken _ a _ hnew hfits => exact ⟨a, hnew, hfits⟩
    · obtain ⟨hj', hi, -⟩ := hother j k hji hj
      obtain ⟨a, ha, hfit⟩ := h.row j k hj'
      exact ⟨a, hstep.row_kept ha hi, (hothers j hji).2 a hfit⟩
  · intro j j' k hj hj'
    by_cases hji : j = i
    · by_cases hji' : j' = i
      · rw [hji, hji']
      · exact absurd (hji ▸ hj) (hother j' k hji' hj').2.2
    · by_cases hji' : j' = i
      · exact absurd (hji' ▸ hj') (hother j k hji hj).2.2
      · exact h.exclusive j j' k (hother j k hji hj).1 (hother j' k hji' hj').1

end Held

end Leases

import Mathlib.Logic.Function.Basic
import Mathlib.Tactic

/-!
# Locks with one holder

Parties take locks that are known by their keys, stay inside and give them back; a party is
inside one lock at most.  What is remembered of a lock is its holder.  As long as a lock is only
taken while it is free and only given back from inside, whoever is inside a lock holds it, and so
no two parties are inside one lock.
-/

universe u v

namespace Locks

variable {κ : Type u} {ι : Type v}

/-- Whoever is inside a lock holds it. -/
def Held (holder : κ → Option ι) (inside : ι → Option κ) : Prop :=
  ∀ i k, inside i = some k → holder k = some i

/-- What a step of a party does to the locks: it leads from inside one lock, or none, to inside
another. -/
inductive Step [DecidableEq κ] (holder holder' : κ → Option ι) (i : ι) :
    Option κ → Option κ → Prop
  | kept (k : Option κ) (h : holder' = holder) : Step holder holder' i k k
  | taken (k : κ) (hfree : holder k = none)
      (h : holder' = Function.update holder k (some i)) : Step holder holder' i none (some k)
  | freed (k : κ) (h : holder' = Function.update holder k none) :
    Step holder holder' i (some k) none

namespace Held

variable {holder holder' : κ → Option ι} {inside inside' : ι → Option κ}

/-- No two parties are inside one lock. -/
lemma exclusive (h : Held holder inside) {i j : ι} {k : κ} (hi : inside i = some k)
    (hj : inside j = some k) : i = j := by
  have := (h i k hi).symm.trans (h j k hj)
  exact Option.some.inj this

/-- Parties may vanish. -/
lemma mono (h : Held holder inside) (hsub : ∀ i k, inside' i = some k → inside i = some k) :
    Held holder inside' := fun i k hi => h i k (hsub i k hi)

/-- Nobody is inside. -/
lemma of_none (hnone : ∀ i, inside i = none) : Held holder inside := by
  intro i k hi
  rw [hnone] at hi
  cases hi

variable [DecidableEq κ]

/-- A step of a party leaves the others where they are. -/
lemma step (h : Held holder inside) {i : ι}
    (hstep : Step holder holder' i (inside i) (inside' i))
    (hothers : ∀ j, j ≠ i → inside' j = inside j) : Held holder' inside' := by
  -- the locks that the others are inside keep their holders
  have hkept : ∀ k', (∀ k, inside i = some k → k ≠ k') → (∀ k, inside' i = some k → k ≠ k') →
      holder' k' = holder k' := by
    intro k' hleft hentered
    generalize inside i = a at hstep hleft
    generalize inside' i = b at hstep hentered
    cases hstep with
    | kept _ heq => rw [heq]
    | taken k _ heq => rw [heq, Function.update_of_ne (hentered k rfl).symm]
    | freed k heq => rw [heq, Function.update_of_ne (hleft k rfl).symm]
  intro j k hj
  by_cases hji : j = i
  · subst hji
    have hown : ∀ k, inside j = some k → holder k = some j := h j
    generalize inside j = a at hstep hown
    rw [hj] at hstep
    cases hstep with
    | kept _ heq => rw [heq, hown k rfl]
    | taken _ _ heq => rw [heq, Function.update_self]
  · have hj' : inside j = some k := (hothers j hji).symm.trans hj
    have hholds := h j k hj'
    have hne : ∀ k', inside i = some k' → k' ≠ k := by
      rintro k' hk' rfl
      exact hji (h.exclusive hj' hk')
    rw [hkept k hne, hholds]
    -- nor was the lock free to be taken
    rintro k' hk' rfl
    generalize inside i = a at hstep hne
    rw [hk'] at hstep
    cases hstep with
    | kept => exact hne k' rfl rfl
    | taken _ hfree =>
      rw [hholds] at hfree
      cases hfree

end Held

end Locks

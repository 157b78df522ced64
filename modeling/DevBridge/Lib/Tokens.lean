import Mathlib.Tactic

/-!
# At most one token

Tokens lie at places, and a step takes some of them away, passes some from one place to
another, or makes a new one.  If a new one is made only while there is none, there is never
more than one, wherever it goes.  The number of places is not bounded, so nothing is summed up.
-/

universe u

namespace Tokens

variable {P : Type u} {count count' : P → ℕ}

/-- There is at most one token. -/
structure Solo (count : P → ℕ) : Prop where
  one : ∀ p, count p ≤ 1
  place : ∀ p q, count p ≠ 0 → count q ≠ 0 → p = q

/-- There is no token. -/
def Gone (count : P → ℕ) : Prop := ∀ p, count p = 0

/-- Tokens are taken away, or some are passed from one place to another. -/
inductive Moved (count count' : P → ℕ) : Prop where
  | fewer (h : ∀ p, count' p ≤ count p)
  | passed (p q : P) (k : ℕ) (hne : p ≠ q) (hp : count' p + k ≤ count p)
      (hq : count' q ≤ count q + k) (hother : ∀ r, r ≠ q → count' r ≤ count r)

/-- A token is made at one place, and others may be taken away. -/
structure Made (count count' : P → ℕ) (q : P) : Prop where
  here : count' q ≤ count q + 1
  other : ∀ r, r ≠ q → count' r ≤ count r

lemma Moved.refl (count : P → ℕ) : Moved count count := .fewer fun _ => le_rfl

lemma Gone.solo (h : Gone count) : Solo count :=
  ⟨fun p => by simp [h p], fun p _ hp => absurd (h p) hp⟩

lemma Solo.fewer (h : Solo count) (hle : ∀ p, count' p ≤ count p) : Solo count' := by
  refine ⟨fun p => (hle p).trans (h.one p), fun p q hp hq => h.place p q ?_ ?_⟩
  · exact fun hzero => hp (Nat.le_zero.mp (hzero ▸ hle p))
  · exact fun hzero => hq (Nat.le_zero.mp (hzero ▸ hle q))

/-- Where the token is, there is no other. -/
lemma Solo.gone_elsewhere (h : Solo count) {p q : P} (hp : count p ≠ 0) (hne : q ≠ p) :
    count q = 0 := by
  by_contra hq
  exact hne (h.place q p hq hp)

/-- All tokens are at one place, where there is at most one. -/
lemma solo_of_place {q : P} (hq : count q ≤ 1) (hother : ∀ r, r ≠ q → count r = 0) :
    Solo count := by
  have hat : ∀ r, count r ≠ 0 → r = q := fun r hr => by
    by_contra hne
    exact hr (hother r hne)
  refine ⟨fun r => ?_, fun r s hr hs => (hat r hr).trans (hat s hs).symm⟩
  rcases eq_or_ne r q with rfl | hne
  · exact hq
  · simp [hother r hne]

lemma Solo.moved (h : Solo count) (hm : Moved count count') : Solo count' := by
  rcases hm with hle | ⟨p, q, k, hne, hp, hq, hother⟩
  · exact h.fewer hle
  · rcases Nat.eq_zero_or_pos k with rfl | hk
    · refine h.fewer fun r => ?_
      rcases eq_or_ne r q with rfl | hr
      · exact hq
      · exact hother r hr
    · -- The token was at `p`, so it is at `q` now.
      have hone := h.one p
      have hzero : ∀ r, r ≠ p → count r = 0 := fun r hr => h.gone_elsewhere (by omega) hr
      have hqzero := hzero q hne.symm
      refine solo_of_place (q := q) (by omega) fun r hr => ?_
      have hle := hother r hr
      rcases eq_or_ne r p with rfl | hrp
      · omega
      · have hrzero := hzero r hrp
        omega

lemma Gone.moved (h : Gone count) (hm : Moved count count') : Gone count' := by
  intro r
  rcases hm with hle | ⟨p, q, k, hne, hp, hq, hother⟩
  · exact Nat.le_zero.mp (h r ▸ hle r)
  · have hpzero := h p
    have hqzero := h q
    rcases eq_or_ne r q with rfl | hr
    · omega
    · have hle := hother r hr
      have hrzero := h r
      omega

/-- The first token. -/
lemma Gone.made (h : Gone count) {q : P} (hm : Made count count' q) : Solo count' := by
  have hqzero := h q
  have hhere := hm.here
  refine solo_of_place (q := q) (by omega) fun r hr => ?_
  have hle := hm.other r hr
  have hrzero := h r
  omega

/-- The only token is taken away. -/
lemma Solo.gone_of_taken (h : Solo count) {p : P} (hp : count p ≠ 0) (hp' : count' p < count p)
    (hle : ∀ r, count' r ≤ count r) : Gone count' := by
  intro r
  have hone := h.one p
  rcases eq_or_ne r p with rfl | hr
  · omega
  · have hzero := h.gone_elsewhere hp hr
    have hr' := hle r
    omega

end Tokens

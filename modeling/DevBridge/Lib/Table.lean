import Mathlib.Order.Defs.LinearOrder
import Mathlib.Data.List.Basic
import Mathlib.Data.List.Pairwise
import Mathlib.Tactic

/-!
# Tables with a primary key

A table of a relational store: finitely many rows, at most one for each key.  The rows are
kept in the order of their keys, so that a query `ORDER BY` the key reads them from the
front, and two tables with the same rows are the same table.  The operations are those of a
keyed store, written after the statements they stand for: `INSERT OR IGNORE`,
`UPDATE … WHERE`, `DELETE … WHERE` and the queries over all rows.

Everything a proof needs about an operation is its effect on `get?`; the lemmas below give
that effect once, for every operation.
-/

universe u v

/-- A table with keys in `κ` and rows in `α`, in the order of its keys. -/
structure Table (κ : Type u) (α : Type v) [LinearOrder κ] where
  /-- The rows with their keys. -/
  rows : List (κ × α)
  /-- The keys strictly increase, so no key has two rows. -/
  sorted : rows.Pairwise fun x y => x.1 < y.1

namespace Table

variable {κ : Type u} {α : Type v} [LinearOrder κ]

/-- The row of a key. -/
def get? (t : Table κ α) (k : κ) : Option α :=
  (t.rows.find? fun x => decide (x.1 = k)).map Prod.snd

/-- The table without rows. -/
def empty : Table κ α := ⟨[], List.Pairwise.nil⟩

@[simp] lemma get?_empty (k : κ) : (empty : Table κ α).get? k = none := rfl

/-- A row found under a key is one of the rows of the table, and conversely: the keys are
distinct. -/
lemma mem_rows_iff {t : Table κ α} {k : κ} {a : α} :
    (k, a) ∈ t.rows ↔ t.get? k = some a := by
  obtain ⟨rows, hs⟩ := t
  simp only [get?]
  induction rows with
  | nil => simp
  | cons x rows ih =>
    obtain ⟨k', a'⟩ := x
    rw [List.pairwise_cons] at hs
    by_cases hk : k' = k
    · subst hk
      constructor
      · intro hmem
        rcases List.mem_cons.mp hmem with h | h
        · simp only [Prod.mk.injEq, true_and] at h
          subst h
          simp
        · exact absurd (hs.1 _ h) (lt_irrefl _)
      · intro h
        simp only [List.find?_cons, decide_true, Option.map_some, Option.some.injEq] at h
        subst h
        simp
    · have hne : ((k, a) : κ × α) ≠ (k', a') := by
        intro h
        exact hk (by simp_all)
      simp only [List.mem_cons, hne, false_or, List.find?_cons, hk, decide_false]
      exact ih hs.2

lemma get?_eq_none_iff {t : Table κ α} {k : κ} :
    t.get? k = none ↔ ∀ a, (k, a) ∉ t.rows := by
  constructor
  · intro h a hmem
    rw [mem_rows_iff, h] at hmem
    exact absurd hmem (by simp)
  · intro h
    cases hk : t.get? k with
    | none => rfl
    | some a => exact absurd (mem_rows_iff.mpr hk) (h a)

/-! ### `UPDATE … WHERE` -/

/-- Rewrite the rows by a function of their key and contents. -/
def map (t : Table κ α) (f : κ → α → α) : Table κ α :=
  ⟨t.rows.map fun x => (x.1, f x.1 x.2), by
    rw [List.pairwise_map]
    exact t.sorted⟩

@[simp] lemma get?_map (t : Table κ α) (f : κ → α → α) (k : κ) :
    (t.map f).get? k = (t.get? k).map (f k) := by
  cases h : t.get? k with
  | none =>
    rw [get?_eq_none_iff] at h
    simp only [Option.map_none, get?_eq_none_iff, map, List.mem_map, Prod.mk.injEq]
    rintro a ⟨⟨k', a'⟩, hmem, rfl, -⟩
    exact h a' hmem
  | some a =>
    rw [← mem_rows_iff] at h
    simp only [Option.map_some, ← mem_rows_iff, map, List.mem_map, Prod.mk.injEq]
    exact ⟨(k, a), h, rfl, rfl⟩

/-- `UPDATE t SET f WHERE key = k AND p`. -/
def update (t : Table κ α) (k : κ) (p : α → Bool) (f : α → α) : Table κ α :=
  t.map fun k' a => if k' = k ∧ p a then f a else a

/-- Whether `UPDATE t … WHERE key = k AND p` changes a row (the number of changed rows is
one). -/
def updates (t : Table κ α) (k : κ) (p : α → Bool) : Bool :=
  (t.get? k).any p

@[simp] lemma get?_update_self (t : Table κ α) (k : κ) (p : α → Bool) (f : α → α) :
    (t.update k p f).get? k = (t.get? k).map fun a => if p a then f a else a := by
  simp [update]

lemma get?_update_of_ne (t : Table κ α) {k k' : κ} (p : α → Bool) (f : α → α) (h : k' ≠ k) :
    (t.update k p f).get? k' = t.get? k' := by
  simp [update, h]

lemma get?_update (t : Table κ α) (k k' : κ) (p : α → Bool) (f : α → α) :
    (t.update k p f).get? k' =
      (t.get? k').map fun a => if k' = k ∧ p a then f a else a := by
  simp [update]

/-- An `UPDATE` whose guard no row of the key passes changes nothing. -/
lemma update_eq_self (t : Table κ α) {k : κ} {p : α → Bool} (f : α → α)
    (h : t.updates k p = false) : t.update k p f = t := by
  obtain ⟨rows, hs⟩ := t
  simp only [update, map, mk.injEq]
  refine (List.map_congr_left fun x hx => ?_).trans (List.map_id rows)
  have hx' : (⟨rows, hs⟩ : Table κ α).get? x.1 = some x.2 := mem_rows_iff.mp hx
  by_cases hk : x.1 = k
  · subst hk
    simp only [updates, hx', Option.any_some] at h
    simp [h]
  · simp [hk]

/-! ### `INSERT OR IGNORE` -/

/-- Insert a row in front of the first larger key. -/
def insertRow (k : κ) (a : α) : List (κ × α) → List (κ × α)
  | [] => [(k, a)]
  | x :: rows => if x.1 < k then x :: insertRow k a rows else (k, a) :: x :: rows

lemma mem_insertRow {k : κ} {a : α} {rows : List (κ × α)} {y : κ × α} :
    y ∈ insertRow k a rows ↔ y = (k, a) ∨ y ∈ rows := by
  induction rows with
  | nil => simp [insertRow]
  | cons x rows ih =>
    simp only [insertRow]
    split
    · simp only [List.mem_cons, ih]
      tauto
    · simp

lemma insertRow_sorted {k : κ} {a : α} {rows : List (κ × α)}
    (hs : rows.Pairwise fun x y => x.1 < y.1) (hk : ∀ x ∈ rows, x.1 ≠ k) :
    (insertRow k a rows).Pairwise fun x y => x.1 < y.1 := by
  induction rows with
  | nil => simp [insertRow]
  | cons x rows ih =>
    rw [List.pairwise_cons] at hs
    simp only [insertRow]
    split
    · rename_i hlt
      refine List.pairwise_cons.mpr ⟨?_, ih hs.2 fun y hy => hk y (List.mem_cons_of_mem _ hy)⟩
      intro y hy
      rcases mem_insertRow.mp hy with rfl | hy
      · exact hlt
      · exact hs.1 y hy
    · rename_i hlt
      have hxk : k < x.1 :=
        lt_of_le_of_ne (not_lt.mp hlt) (Ne.symm (hk x (by simp)))
      refine List.pairwise_cons.mpr ⟨?_, List.pairwise_cons.mpr hs⟩
      intro y hy
      rcases List.mem_cons.mp hy with rfl | hy
      · exact hxk
      · exact hxk.trans (hs.1 y hy)

/-- `INSERT OR IGNORE INTO t`: a row whose key is present is left alone. -/
def insert (t : Table κ α) (k : κ) (a : α) : Table κ α :=
  if h : t.get? k = none then
    ⟨insertRow k a t.rows, insertRow_sorted t.sorted fun x hx hxk => by
      subst hxk
      exact get?_eq_none_iff.mp h x.2 hx⟩
  else t

lemma get?_insert (t : Table κ α) (k k' : κ) (a : α) :
    (t.insert k a).get? k' =
      if k' = k ∧ t.get? k = none then some a else t.get? k' := by
  by_cases h : t.get? k = none
  · simp only [insert, h, dite_true, and_true]
    by_cases hk : k' = k
    · subst hk
      rw [if_pos rfl, ← mem_rows_iff]
      exact mem_insertRow.mpr (Or.inl rfl)
    · rw [if_neg hk]
      ext b
      rw [← mem_rows_iff, ← mem_rows_iff]
      refine mem_insertRow.trans ?_
      simp [hk]
  · simp [insert, h]

lemma get?_insert_self (t : Table κ α) (k : κ) (a : α) (h : t.get? k = none) :
    (t.insert k a).get? k = some a := by
  simp [get?_insert, h]

lemma get?_insert_of_ne (t : Table κ α) {k k' : κ} (a : α) (h : k' ≠ k) :
    (t.insert k a).get? k' = t.get? k' := by
  simp [get?_insert, h]

/-! ### `DELETE … WHERE` -/

/-- `DELETE FROM t WHERE NOT p`: the rows that satisfy `p` stay. -/
def keep (t : Table κ α) (p : κ → α → Bool) : Table κ α :=
  ⟨t.rows.filter fun x => p x.1 x.2, t.sorted.filter _⟩

lemma get?_keep (t : Table κ α) (p : κ → α → Bool) (k : κ) :
    (t.keep p).get? k = (t.get? k).filter (p k) := by
  ext a
  rw [← mem_rows_iff]
  simp only [keep, List.mem_filter, mem_rows_iff, Option.filter_eq_some_iff]

lemma get?_keep_some {t : Table κ α} {p : κ → α → Bool} {k : κ} {a : α}
    (h : (t.keep p).get? k = some a) : t.get? k = some a := by
  rw [get?_keep, Option.filter_eq_some_iff] at h
  exact h.1

/-! ### Queries over all rows -/

/-- `EXISTS (SELECT … WHERE p)`. -/
def exists? (t : Table κ α) (p : κ → α → Bool) : Bool :=
  t.rows.any fun x => p x.1 x.2

lemma exists?_iff {t : Table κ α} {p : κ → α → Bool} :
    t.exists? p = true ↔ ∃ k a, t.get? k = some a ∧ p k a = true := by
  simp only [exists?, List.any_eq_true, Prod.exists, mem_rows_iff]

/-- `SELECT … WHERE p ORDER BY key`. -/
def select (t : Table κ α) (p : κ → α → Bool) : List (κ × α) :=
  t.rows.filter fun x => p x.1 x.2

lemma mem_select {t : Table κ α} {p : κ → α → Bool} {k : κ} {a : α} :
    (k, a) ∈ t.select p ↔ t.get? k = some a ∧ p k a = true := by
  simp only [select, List.mem_filter, mem_rows_iff]

/-- Tables with the same rows of a kind answer a query for them alike. -/
lemma select_congr {t t' : Table κ α} {p : κ → α → Bool}
    (h : ∀ k a, p k a = true → (t.get? k = some a ↔ t'.get? k = some a)) :
    t.select p = t'.select p := by
  have hirrefl : Std.Irrefl fun x y : κ × α => x.1 < y.1 := ⟨fun x => lt_irrefl x.1⟩
  have hantisymm : Std.Antisymm fun x y : κ × α => x.1 < y.1 :=
    ⟨fun x y hxy hyx => absurd (hxy.trans hyx) (lt_irrefl x.1)⟩
  refine (t.sorted.filter _).eq_of_mem_iff (t'.sorted.filter _) ?_
  rintro ⟨k, a⟩
  change (k, a) ∈ t.select p ↔ (k, a) ∈ t'.select p
  rw [mem_select, mem_select]
  exact and_congr_left fun hp => h k a hp

end Table

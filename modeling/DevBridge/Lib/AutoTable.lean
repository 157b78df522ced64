import DevBridge.Lib.Table

/-!
# Tables with `AUTOINCREMENT` and a unique index

A table whose key is given by the store: it grows with every insert and is never given
twice, also after the row was deleted.  A (partial) unique index is a function from rows to
optional values; two rows never share a value of it.  Both facts are fields of the table, so
they hold of every table that can be built.
-/

universe u v

/-- A table with keys given by the store and a unique index. -/
structure AutoTable (α : Type u) {β : Type v} (index : α → Option β) where
  table : Table ℤ α
  /-- The largest key ever given. -/
  seq : ℤ
  seq_nonneg : 0 ≤ seq
  bounded : ∀ k a, table.get? k = some a → 0 < k ∧ k ≤ seq
  unique : ∀ k a k' a' b, table.get? k = some a → table.get? k' = some a' →
    index a = some b → index a' = some b → k = k'

namespace AutoTable

variable {α : Type u} {β : Type v} {index : α → Option β}

/-- The table without rows. -/
def empty : AutoTable α index where
  table := Table.empty
  seq := 0
  seq_nonneg := le_refl 0
  bounded k a h := by simp at h
  unique k a k' a' b h := by simp at h

/-- The row of a key. -/
def get? (t : AutoTable α index) (k : ℤ) : Option α := t.table.get? k

@[simp] lemma get?_empty (k : ℤ) : (empty : AutoTable α index).get? k = none := rfl

lemma pos_of_get? {t : AutoTable α index} {k : ℤ} {a : α} (h : t.get? k = some a) : 0 < k :=
  (t.bounded k a h).1

lemma le_seq_of_get? {t : AutoTable α index} {k : ℤ} {a : α} (h : t.get? k = some a) :
    k ≤ t.seq :=
  (t.bounded k a h).2

/-! ### `UPDATE … WHERE` -/

/-- Rewrite the rows by a function that leaves the indexed columns alone. -/
def map (t : AutoTable α index) (f : ℤ → α → α) (hf : ∀ k a, index (f k a) = index a) :
    AutoTable α index where
  table := t.table.map f
  seq := t.seq
  seq_nonneg := t.seq_nonneg
  bounded k a h := by
    rw [Table.get?_map, Option.map_eq_some_iff] at h
    obtain ⟨a₀, h₀, -⟩ := h
    exact t.bounded k a₀ h₀
  unique k a k' a' b h h' hb hb' := by
    rw [Table.get?_map, Option.map_eq_some_iff] at h h'
    obtain ⟨a₀, h₀, rfl⟩ := h
    obtain ⟨a₀', h₀', rfl⟩ := h'
    rw [hf] at hb hb'
    exact t.unique k a₀ k' a₀' b h₀ h₀' hb hb'

@[simp] lemma get?_map (t : AutoTable α index) (f : ℤ → α → α)
    (hf : ∀ k a, index (f k a) = index a) (k : ℤ) :
    (t.map f hf).get? k = (t.get? k).map (f k) :=
  Table.get?_map _ _ _

@[simp] lemma seq_map (t : AutoTable α index) (f : ℤ → α → α)
    (hf : ∀ k a, index (f k a) = index a) : (t.map f hf).seq = t.seq := rfl

/-- `UPDATE t SET f WHERE id = k AND p`. -/
def update (t : AutoTable α index) (k : ℤ) (p : α → Bool) (f : α → α)
    (hf : ∀ a, index (f a) = index a) : AutoTable α index :=
  t.map (fun k' a => if k' = k ∧ p a then f a else a) fun k' a => by
    split
    · exact hf a
    · rfl

/-- Whether the `UPDATE` changes a row. -/
def updates (t : AutoTable α index) (k : ℤ) (p : α → Bool) : Bool :=
  (t.get? k).any p

lemma get?_update (t : AutoTable α index) (k k' : ℤ) (p : α → Bool) (f : α → α)
    (hf : ∀ a, index (f a) = index a) :
    (t.update k p f hf).get? k' =
      (t.get? k').map fun a => if k' = k ∧ p a then f a else a :=
  get?_map _ _ _ _

@[simp] lemma seq_update (t : AutoTable α index) (k : ℤ) (p : α → Bool) (f : α → α)
    (hf : ∀ a, index (f a) = index a) : (t.update k p f hf).seq = t.seq := rfl

/-- An `UPDATE` whose guard no row of the key passes changes nothing. -/
lemma update_eq_self (t : AutoTable α index) {k : ℤ} {p : α → Bool} (f : α → α)
    (hf : ∀ a, index (f a) = index a) (h : t.updates k p = false) : t.update k p f hf = t := by
  have htable : (t.update k p f hf).table = t.table := Table.update_eq_self t.table f h
  obtain ⟨table, seq, hnn, hb, hu⟩ := t
  simp only [update, map, mk.injEq, and_true] at htable ⊢
  exact htable

/-! ### `DELETE … WHERE` -/

/-- `DELETE FROM t WHERE NOT p`: the keys stay given. -/
def keep (t : AutoTable α index) (p : ℤ → α → Bool) : AutoTable α index where
  table := t.table.keep p
  seq := t.seq
  seq_nonneg := t.seq_nonneg
  bounded k a h := t.bounded k a (Table.get?_keep_some h)
  unique k a k' a' b h h' :=
    t.unique k a k' a' b (Table.get?_keep_some h) (Table.get?_keep_some h')

lemma get?_keep (t : AutoTable α index) (p : ℤ → α → Bool) (k : ℤ) :
    (t.keep p).get? k = (t.get? k).filter (p k) :=
  Table.get?_keep _ _ _

@[simp] lemma seq_keep (t : AutoTable α index) (p : ℤ → α → Bool) :
    (t.keep p).seq = t.seq := rfl

/-! ### `INSERT OR IGNORE` -/

section Insert

variable [DecidableEq β]

/-- Whether the index has a value already. -/
def indexed (t : AutoTable α index) (b : Option β) : Bool :=
  b.isSome && t.table.exists? fun _ a => index a == b

lemma indexed_iff {t : AutoTable α index} {b : β} :
    t.indexed (some b) = true ↔ ∃ k a, t.get? k = some a ∧ index a = some b := by
  simp only [indexed, Option.isSome_some, Bool.true_and, Table.exists?_iff, beq_iff_eq, get?]

/-- `INSERT OR IGNORE INTO t`: a row whose indexed value is present is ignored, any other is
stored under the next key, which `last_insert_rowid` tells. -/
def insert (t : AutoTable α index) (a : α) : Option (ℤ × AutoTable α index) :=
  if h : t.indexed (index a) = true then none
  else
    some (t.seq + 1, {
      table := t.table.insert (t.seq + 1) a
      seq := t.seq + 1
      seq_nonneg := by
        have := t.seq_nonneg
        omega
      bounded := by
        intro k c hk
        have hnn := t.seq_nonneg
        rw [Table.get?_insert] at hk
        split at hk
        · rename_i hc
          omega
        · have := t.bounded k c hk
          omega
      unique := by
        intro k c k' c' b hk hk' hb hb'
        have hfresh : ∀ k c, t.get? k = some c → index c = some b → index a ≠ some b := by
          intro k c hk hc ha
          rw [ha] at h
          exact h (indexed_iff.mpr ⟨k, c, hk, hc⟩)
        rw [Table.get?_insert] at hk hk'
        split at hk
        · rename_i hc
          cases hk
          split at hk'
          · rename_i hc'
            rw [hc.1, hc'.1]
          · exact absurd hb (hfresh k' c' hk' hb')
        · split at hk'
          · cases hk'
            exact absurd hb' (hfresh k c hk hb)
          · exact t.unique k c k' c' b hk hk' hb hb' })

lemma insert_none_iff {t : AutoTable α index} {a : α} :
    t.insert a = none ↔ t.indexed (index a) = true := by
  by_cases h : t.indexed (index a) = true <;> simp [insert, h]

/-- A new row gets a key that was never given, and no other row changes. -/
lemma insert_some {t t' : AutoTable α index} {a : α} {id : ℤ}
    (h : t.insert a = some (id, t')) :
    id = t.seq + 1 ∧ t'.seq = t.seq + 1 ∧ t.get? id = none ∧
      ∀ k, t'.get? k = if k = id then some a else t.get? k := by
  unfold insert at h
  split at h
  · cases h
  · simp only [Option.some.injEq, Prod.mk.injEq] at h
    obtain ⟨rfl, rfl⟩ := h
    have hnone : t.get? (t.seq + 1) = none := by
      cases hk : t.get? (t.seq + 1) with
      | none => rfl
      | some c =>
        have := t.le_seq_of_get? hk
        omega
    refine ⟨rfl, rfl, hnone, fun k => ?_⟩
    have hnone' : t.table.get? (t.seq + 1) = none := hnone
    simp only [get?, Table.get?_insert, hnone', and_true]

end Insert

end AutoTable

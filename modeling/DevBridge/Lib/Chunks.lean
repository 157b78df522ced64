import Mathlib.Tactic

/-!
# Cutting data into chunks

A loop that cuts data into chunks of at most a given size, from an offset on.  Whatever the
size, the offset and the data, the chunks are not empty, stand one after the other and hold what
is there from the offset on, and the end of the data is the end of the last one alone.
-/

universe u

namespace Chunks

variable {α : Type u} {size : ℕ} {data : List α} {offset : ℕ}

/-- A piece of the data and where it starts. -/
structure Chunk (α : Type u) where
  offset : ℕ
  data : List α
deriving DecidableEq, Repr

/-- The first place behind a chunk. -/
def Chunk.stop (c : Chunk α) : ℕ := c.offset + c.data.length

/-- The chunks from the offset on; the size is one more than the given number. -/
def cut (size : ℕ) (data : List α) (offset : ℕ) : List (Chunk α) :=
  if h : offset < data.length then
    { offset := offset, data := (data.drop offset).take (size + 1) } ::
      cut size data (min (offset + (size + 1)) data.length)
  else []
termination_by data.length - offset
decreasing_by omega

/-- The chunks stand one after the other, from the offset on. -/
def Consecutive : ℕ → List (Chunk α) → Prop
  | _, [] => True
  | offset, c :: cs => c.offset = offset ∧ Consecutive c.stop cs

lemma cut_of_lt (h : offset < data.length) : cut size data offset =
    { offset := offset, data := (data.drop offset).take (size + 1) } ::
      cut size data (min (offset + (size + 1)) data.length) := by
  rw [cut, dif_pos h]

lemma cut_of_le (h : data.length ≤ offset) : cut size data offset = [] := by
  rw [cut, dif_neg (not_lt.mpr h)]

/-- Where the first chunk stops is where the next one starts. -/
lemma stop_first (size : ℕ) (h : offset < data.length) :
    offset + ((data.drop offset).take (size + 1)).length =
      min (offset + (size + 1)) data.length := by
  rw [List.length_take, List.length_drop]
  omega

/-- Every induction over the chunks: the loop ends, or goes on behind the first chunk. -/
lemma cut_induction {motive : ℕ → List (Chunk α) → Prop} (size : ℕ) (data : List α)
    (stops : ∀ offset, data.length ≤ offset → motive offset [])
    (goesOn : ∀ offset, offset < data.length →
      motive (min (offset + (size + 1)) data.length)
        (cut size data (min (offset + (size + 1)) data.length)) →
          motive offset ({ offset := offset, data := (data.drop offset).take (size + 1) } ::
            cut size data (min (offset + (size + 1)) data.length)))
    (offset : ℕ) : motive offset (cut size data offset) := by
  induction offset using cut.induct size data with
  | case1 offset h ih =>
    rw [cut_of_lt h]
    exact goesOn offset h ih
  | case2 offset h =>
    rw [cut_of_le (not_lt.mp h)]
    exact stops offset (not_lt.mp h)

lemma cut_consecutive (size : ℕ) (data : List α) (offset : ℕ) :
    Consecutive offset (cut size data offset) := by
  refine cut_induction (motive := fun offset cs => Consecutive offset cs) size data ?_ ?_ offset
  · exact fun _ _ => trivial
  · intro offset h ih
    refine ⟨rfl, ?_⟩
    rw [Chunk.stop, stop_first size h]
    exact ih

/-- A chunk starts where those before it, taken together, stop. -/
lemma Consecutive.offset_eq {cs : List (Chunk α)} (h : Consecutive offset cs)
    {front back : List (Chunk α)} {c : Chunk α} (heq : cs = front ++ c :: back) :
    c.offset = offset + (front.map Chunk.data).flatten.length := by
  subst heq
  induction front generalizing offset with
  | nil => exact h.1
  | cons first front ih =>
    obtain ⟨hfirst, hrest⟩ := h
    have hc := ih hrest
    rw [hc, Chunk.stop, hfirst, List.map_cons, List.flatten_cons, List.length_append]
    omega

/-- The chunks hold the data from the offset on. -/
lemma cut_flatten (size : ℕ) (data : List α) (offset : ℕ) :
    ((cut size data offset).map Chunk.data).flatten = data.drop offset := by
  refine cut_induction (motive := fun offset cs => (cs.map Chunk.data).flatten = data.drop offset)
    size data ?_ ?_ offset
  · intro offset h
    rw [List.drop_eq_nil_of_le h]
    rfl
  · intro offset h ih
    rw [List.map_cons, List.flatten_cons, ih]
    rcases Nat.le_total (offset + (size + 1)) data.length with hle | hle
    · rw [Nat.min_eq_left hle, ← List.drop_drop]
      exact List.take_append_drop _ _
    · rw [Nat.min_eq_right hle, List.drop_length, List.append_nil]
      refine List.take_of_length_le ?_
      rw [List.length_drop]
      omega

/-- No chunk is empty or too long. -/
lemma cut_length (size : ℕ) (data : List α) (offset : ℕ) :
    ∀ c ∈ cut size data offset, 0 < c.data.length ∧ c.data.length ≤ size + 1 := by
  refine cut_induction
    (motive := fun _ cs => ∀ c ∈ cs, 0 < c.data.length ∧ c.data.length ≤ size + 1) size data ?_ ?_
    offset
  · exact fun _ _ _ hc => nomatch hc
  · intro offset h ih c hc
    rcases List.mem_cons.mp hc with rfl | hc
    · simp only [List.length_take, List.length_drop]
      omega
    · exact ih c hc

/-- The last chunk, and no other, stops at the end of the data. -/
lemma cut_last (size : ℕ) (data : List α) (offset : ℕ) :
    ∀ front c back, cut size data offset = front ++ c :: back →
      (data.length ≤ c.stop ↔ back = []) := by
  refine cut_induction (motive := fun _ cs => ∀ front c back, cs = front ++ c :: back →
    (data.length ≤ c.stop ↔ back = [])) size data ?_ ?_ offset
  · intro offset _ front c back heq
    simp at heq
  · intro offset h ih front c back heq
    rcases front with _ | ⟨first, front⟩
    · obtain ⟨rfl, rfl⟩ := List.cons.inj heq
      rw [Chunk.stop, stop_first size h]
      constructor
      · intro hle
        exact cut_of_le hle
      · intro hnil
        by_contra hlt
        rw [cut_of_lt (not_le.mp hlt)] at hnil
        cases hnil
    · obtain ⟨-, heq⟩ := List.cons.inj heq
      exact ih front c back heq

/-- Changing each item first and cutting then gives the same pieces. -/
lemma cut_map {β : Type u} (f : α → β) (size : ℕ) (data : List α) (offset : ℕ) :
    (cut size (data.map f) offset).map Chunk.data =
      ((cut size data offset).map Chunk.data).map (List.map f) := by
  refine cut_induction (motive := fun offset cs => (cut size (data.map f) offset).map Chunk.data =
    (cs.map Chunk.data).map (List.map f)) size data ?_ ?_ offset
  · intro offset h
    rw [cut_of_le (by simpa using h)]
    rfl
  · intro offset h ih
    rw [cut_of_lt (by simpa using h)]
    simp only [List.length_map, List.map_cons, List.map_drop, List.map_take, ih]

end Chunks

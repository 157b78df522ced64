import Mathlib.Data.List.Basic
import Mathlib.Tactic.Common

/-!
# Places in a list

A parser walks over its input by an index.  `At data pos rest` says what still lies before it;
reading by index and by slice is then reading off the front of the rest.
-/

namespace Cursor

variable {α : Type*} {data rest piece : List α} {pos n : ℕ}

/-- `rest` is what lies from `pos` on. -/
def At (data : List α) (pos : ℕ) (rest : List α) : Prop :=
  ∃ front, data = front ++ rest ∧ front.length = pos

/-- The elements from `start` up to `stop`, if both lie inside. -/
def slice (data : List α) (start stop : ℕ) : Option (List α) :=
  if start ≤ stop ∧ stop ≤ data.length then some ((data.drop start).take (stop - start)) else none

lemma at_drop (h : pos ≤ data.length) : At data pos (data.drop pos) :=
  ⟨data.take pos, (List.take_append_drop pos data).symm, List.length_take_of_le h⟩

lemma at_append (front rest : List α) : At (front ++ rest) front.length rest :=
  ⟨front, rfl, rfl⟩

namespace At

lemma length_eq (h : At data pos rest) : data.length = pos + rest.length := by
  obtain ⟨front, rfl, rfl⟩ := h
  exact List.length_append

/-- Past a piece comes what follows it. -/
lemma skip (h : At data pos (piece ++ rest)) : At data (pos + piece.length) rest := by
  obtain ⟨front, rfl, rfl⟩ := h
  exact ⟨front ++ piece, by simp, by simp⟩

lemma next {a : α} (h : At data pos (a :: rest)) : At data (pos + 1) rest :=
  skip (show At data pos ([a] ++ rest) from h)

lemma getElem? {a : α} (h : At data pos (a :: rest)) : data[pos]? = some a := by
  obtain ⟨front, rfl, rfl⟩ := h
  simp

/-- A piece is read where it lies. -/
lemma slice_eq (h : At data pos (piece ++ rest)) :
    slice data pos (pos + piece.length) = some piece := by
  obtain ⟨front, rfl, rfl⟩ := h
  unfold slice
  rw [if_pos ⟨by omega, by simp only [List.length_append]; omega⟩, List.drop_left,
    Nat.add_sub_cancel_left, List.take_left]

/-- The next elements can be split off, if there are as many. -/
lemma split (h : At data pos rest) (hn : pos + n ≤ data.length) :
    ∃ piece tail, rest = piece ++ tail ∧ piece.length = n := by
  have hlen := h.length_eq
  exact ⟨rest.take n, rest.drop n, (List.take_append_drop n rest).symm, by
    rw [List.length_take]; omega⟩

end At

end Cursor

import Mathlib.Data.List.Basic
import Mathlib.Tactic

/-!
# Scanning bytes

A reader takes what it knows off the front of its input: a fixed token, a decimal number, a
line.  Each has one lemma that says that it takes off what was written there.
-/

namespace Scan

variable {α : Type*} [DecidableEq α]

/-- What follows a token. -/
def consume (token input : List α) : Option (List α) :=
  if token.isPrefixOf input then some (input.drop token.length) else none

lemma consume_append (token rest : List α) : consume token (token ++ rest) = some rest := by
  simp [consume]

def isDigit (b : UInt8) : Bool := 48 ≤ b && b ≤ 57

/-- The number at the front, and what follows it. -/
def number (input : List UInt8) : Option (ℕ × List UInt8) :=
  match input.takeWhile isDigit with
  | [] => none
  | digits => some (digits.foldl (fun n d => 10 * n + (d.toNat - 48)) 0, input.dropWhile isDigit)

/-- The digits of a number. -/
def decimal (n : ℕ) : List UInt8 := (Nat.toDigits 10 n).map fun c => UInt8.ofNat c.toNat

/-- A digit as a byte. -/
lemma digit_toNat {c : Char} (h : c.isDigit) :
    isDigit (UInt8.ofNat c.toNat) = true ∧ (UInt8.ofNat c.toNat).toNat = c.toNat := by
  have hrange : 48 ≤ c.toNat ∧ c.toNat ≤ 57 := by
    simp only [Char.isDigit, Bool.and_eq_true, decide_eq_true_eq, UInt32.le_iff_toNat_le] at h
    exact h
  have htoNat : (UInt8.ofNat c.toNat).toNat = c.toNat := by
    rw [UInt8.toNat_ofNat']
    omega
  refine ⟨?_, htoNat⟩
  simp only [isDigit, Bool.and_eq_true, decide_eq_true_eq, UInt8.le_iff_toNat_le, htoNat]
  exact hrange

lemma decimal_isDigit (n : ℕ) : ∀ b ∈ decimal n, isDigit b = true := by
  rintro _ hb
  obtain ⟨c, hc, rfl⟩ := List.mem_map.mp hb
  exact (digit_toNat (Nat.isDigit_of_mem_toDigits (by omega) (by omega) hc)).1

/-- Digits are read as the number they were written from. -/
lemma foldl_decimal (n : ℕ) :
    (decimal n).foldl (fun n d => 10 * n + (d.toNat - 48)) 0 = n := by
  have hread : ∀ (cs : List Char) (m : ℕ), (∀ c ∈ cs, c.isDigit) →
      (cs.map fun c => UInt8.ofNat c.toNat).foldl (fun n d => 10 * n + (d.toNat - 48)) m =
        Nat.ofDigitChars 10 cs m := by
    intro cs
    induction cs with
    | nil =>
      intro m _
      rw [Nat.ofDigitChars_nil]
      rfl
    | cons c cs ih =>
      intro m hcs
      rw [List.map_cons, List.foldl_cons, Nat.ofDigitChars_cons, ih _ fun d hd =>
        hcs d (List.mem_cons_of_mem _ hd), (digit_toNat (hcs c List.mem_cons_self)).2]
      rfl
  rw [decimal, hread _ _ fun c hc => Nat.isDigit_of_mem_toDigits (by omega) (by omega) hc]
  exact Nat.ofDigitChars_ten_toDigits

/-- A number is read up to the first byte that is no digit. -/
lemma number_decimal (n : ℕ) (sep : UInt8) (hsep : isDigit sep = false) (rest : List UInt8) :
    number (decimal n ++ sep :: rest) = some (n, sep :: rest) := by
  have htake : (decimal n ++ sep :: rest).takeWhile isDigit = decimal n := by
    rw [List.takeWhile_append_of_pos (decimal_isDigit n),
      List.takeWhile_cons_of_neg (by simp [hsep]), List.append_nil]
  have hdrop : (decimal n ++ sep :: rest).dropWhile isDigit = sep :: rest := by
    rw [List.dropWhile_append_of_pos (decimal_isDigit n),
      List.dropWhile_cons_of_neg (by simp [hsep])]
  have hne : decimal n ≠ [] := by
    simp [decimal, Nat.toDigits_ne_nil]
  unfold number
  rw [htake, hdrop]
  split
  · rename_i hnil
    exact absurd hnil hne
  · rw [foldl_decimal]

/-- The line at the front, without its end, and what follows it. -/
def line : List UInt8 → Option (List UInt8 × List UInt8)
  | [] => none
  | 13 :: 10 :: rest => some ([], rest)
  | b :: rest => (line rest).map fun (text, rest) => (b :: text, rest)

/-- A line is read up to its end. -/
lemma line_append {text : List UInt8} (h : 13 ∉ text) (rest : List UInt8) :
    line (text ++ 13 :: 10 :: rest) = some (text, rest) := by
  induction text with
  | nil => rfl
  | cons b text ih =>
    rw [List.mem_cons, not_or] at h
    rw [List.cons_append, line, ih h.2]
    · rfl
    · intro rest' hb
      exact absurd hb.symm h.1

end Scan

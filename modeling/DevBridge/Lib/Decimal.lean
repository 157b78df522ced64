import DevBridge.Lib.F64

/-!
# Doubles with their range

The doubles of `F64` have no bound.  Here a result that is too large for a double is not finite
(`none`, which also stands for what is not a number), a tiny one is rounded to the grid of the
subnormal doubles, and a decimal number is read as the double nearest to it.
-/

namespace F64

/-- The double nearest to a rational; `none` is an infinity or not a number. -/
def double (q : ℚ) : Option ℚ :=
  let r := if |q| < 1 / 2 ^ 1022 then (roundEven (q * 2 ^ 1074) : ℚ) / 2 ^ 1074 else round q
  if 2 ^ 1024 ≤ |r| then none else some r

/-- The difference of two doubles. -/
def sub (a b : ℚ) : Option ℚ := double (a - b)

/-! ### Reading decimal numbers -/

/-- The digits at the front, as a number and their count, and what follows them. -/
def digits (cs : List Char) : ℕ × ℕ × List Char :=
  let ds := cs.takeWhile Char.isDigit
  (Nat.ofDigitChars 10 ds 0, ds.length, cs.dropWhile Char.isDigit)

/-- A sign at the front, if there is one. -/
def sign (cs : List Char) : Bool × List Char :=
  match cs with
  | '-' :: cs => (true, cs)
  | '+' :: cs => (false, cs)
  | cs => (false, cs)

/-- The exponent at the end of a number. -/
def exponentOf (cs : List Char) : Option ℤ :=
  match cs with
  | [] => some 0
  | c :: cs =>
    if c = 'e' ∨ c = 'E' then
      let (negative, cs) := sign cs
      let (n, count, rest) := digits cs
      if count = 0 ∨ rest ≠ [] then none
      else some (if negative then -(n : ℤ) else n)
    else none

/-- A number without its sign. -/
def unsigned (cs : List Char) : Option ℚ :=
  let (whole, count, rest) := digits cs
  let (fraction, places, rest) := match rest with
    | '.' :: rest => digits rest
    | _ => (0, 0, rest)
  if count + places = 0 then none
  else (exponentOf rest).map fun e : ℤ =>
    ((whole * 10 ^ places + fraction : ℕ) : ℚ) * (10 : ℚ) ^ (e - (places : ℤ))

/-- `f64::from_str`: no number, or a number that is finite or not. -/
def parse (s : String) : Option (Option ℚ) :=
  let (negative, cs) := sign s.toList
  if cs.map Char.toLower ∈ ["inf".toList, "infinity".toList, "nan".toList] then some none
  else (unsigned cs).map fun q => double (if negative then -q else q)

/-! ### Rounding and bounds -/

/-- Rounding to an integer lands between the two integers around. -/
lemma floor_le_roundEven (q : ℚ) : ⌊q⌋ ≤ roundEven q := by
  have hfloor : q.num / (q.den : ℤ) = ⌊q⌋ := Rat.floor_def'.symm
  unfold roundEven
  simp only [hfloor]
  split_ifs <;> omega

lemma roundEven_le_ceil (q : ℚ) : roundEven q ≤ ⌈q⌉ := by
  have hfloor : q.num / (q.den : ℤ) = ⌊q⌋ := Rat.floor_def'.symm
  have hden : (0 : ℤ) < q.den := by exact_mod_cast q.den_pos
  rcases (Int.floor_le_ceil q).eq_or_lt with heq | hlt
  · -- an integer stays
    have hint : (⌊q⌋ : ℚ) = q :=
      le_antisymm (Int.floor_le q) (by rw [heq]; exact Int.le_ceil q)
    have hrem : q.num % (q.den : ℤ) = 0 := by
      have hone : q.den = 1 := by rw [← hint]; exact Rat.den_intCast _
      rw [hone]
      simp
    unfold roundEven
    simp only [hfloor, hrem]
    rw [if_pos (by omega)]
    exact heq.le
  · unfold roundEven
    simp only [hfloor]
    split_ifs <;> omega

/-- The exponent of a number bounds it from below. -/
lemma two_zpow_exponent_le {q : ℚ} (hq : q ≠ 0) : (2 : ℚ) ^ exponent q ≤ |q| := by
  simp only [exponent]
  split
  · assumption
  · have hnum : (2 : ℚ) ^ (Nat.log2 q.num.natAbs : ℤ) ≤ q.num.natAbs := by
      exact_mod_cast Nat.log2_self_le (Int.natAbs_ne_zero.mpr (Rat.num_ne_zero.mpr hq))
    have hden : (q.den : ℚ) ≤ (2 : ℚ) ^ ((Nat.log2 q.den : ℤ) + 1) := by
      exact_mod_cast Nat.lt_log2_self.le
    have habs : |q| = q.num.natAbs / q.den := by
      rw [Rat.abs_def, Rat.divInt_eq_div]
      simp
    calc (2 : ℚ) ^ ((Nat.log2 q.num.natAbs : ℤ) - Nat.log2 q.den - 1)
        = 2 ^ (Nat.log2 q.num.natAbs : ℤ) / 2 ^ ((Nat.log2 q.den : ℤ) + 1) := by
          rw [← zpow_sub₀ two_ne_zero]
          congr 1
          omega
      _ ≤ q.num.natAbs / q.den := by
          have hpos : (0 : ℚ) < q.den := by exact_mod_cast q.den_pos
          gcongr
      _ = |q| := habs.symm

/-- A number that is not small has no small exponent. -/
lemma neg_one_le_exponent {q : ℚ} (hq : 1 / 2 ≤ |q|) : -1 ≤ exponent q := by
  have hpow : ∀ e : ℤ, (1 / 2 : ℚ) < 2 ^ e → -1 < e := fun e he => by
    rw [show (1 / 2 : ℚ) = 2 ^ (-1 : ℤ) by norm_num] at he
    exact (zpow_lt_zpow_iff_right₀ one_lt_two).mp he
  have habs : |q| = q.num.natAbs / q.den := by
    rw [Rat.abs_def, Rat.divInt_eq_div]
    simp
  have hlt : |q| < 2 ^ ((Nat.log2 q.num.natAbs : ℤ) - Nat.log2 q.den + 1) := by
    have hnum : (q.num.natAbs : ℚ) < (2 : ℚ) ^ ((Nat.log2 q.num.natAbs : ℤ) + 1) := by
      exact_mod_cast Nat.lt_log2_self
    have hden : (2 : ℚ) ^ (Nat.log2 q.den : ℤ) ≤ q.den := by
      exact_mod_cast Nat.log2_self_le q.den_nz
    have hpos : (0 : ℚ) < 2 ^ (Nat.log2 q.den : ℤ) := by positivity
    calc |q| = q.num.natAbs / q.den := habs
      _ ≤ q.num.natAbs / 2 ^ (Nat.log2 q.den : ℤ) := by gcongr
      _ < 2 ^ ((Nat.log2 q.num.natAbs : ℤ) + 1) / 2 ^ (Nat.log2 q.den : ℤ) := by gcongr
      _ = 2 ^ ((Nat.log2 q.num.natAbs : ℤ) - Nat.log2 q.den + 1) := by
          rw [← zpow_sub₀ two_ne_zero]
          congr 1
          omega
  have he := hpow _ (hq.trans_lt hlt)
  simp only [exponent]
  split
  · omega
  · rename_i hbig
    have := hpow _ (hq.trans_lt (not_le.mp hbig))
    omega

/-- Rounding to a double does not bring a number below one half. -/
lemma half_le_round {q : ℚ} (hq : 1 / 2 ≤ |q|) : 1 / 2 ≤ |round q| := by
  have hne : q ≠ 0 := by
    rintro rfl
    norm_num at hq
  have hulp : (0 : ℚ) < 2 ^ (exponent q - 52) := by positivity
  have hgrid : (2 : ℚ) ^ exponent q = 2 ^ 52 * 2 ^ (exponent q - 52) := by
    rw [← zpow_natCast, ← zpow_add₀ two_ne_zero]
    congr 1
    omega
  have hhalf : (1 / 2 : ℚ) ≤ 2 ^ 52 * 2 ^ (exponent q - 52) := by
    rw [← hgrid, show (1 / 2 : ℚ) = 2 ^ (-1 : ℤ) by norm_num]
    exact zpow_le_zpow_right₀ one_le_two (neg_one_le_exponent hq)
  have hscaled : (2 : ℚ) ^ 52 ≤ |q / 2 ^ (exponent q - 52)| := by
    rw [abs_div, abs_of_pos hulp, le_div_iff₀ hulp, ← hgrid]
    exact two_zpow_exponent_le hne
  have hround : (2 : ℚ) ^ 52 ≤ |(roundEven (q / 2 ^ (exponent q - 52)) : ℚ)| := by
    rcases le_abs.mp hscaled with hpos | hneg
    · have : (2 ^ 52 : ℤ) ≤ ⌊q / 2 ^ (exponent q - 52)⌋ := Int.le_floor.mpr (by exact_mod_cast hpos)
      have hle := this.trans (floor_le_roundEven _)
      exact le_abs.mpr (.inl (by exact_mod_cast hle))
    · have : ⌈q / 2 ^ (exponent q - 52)⌉ ≤ (-2 ^ 52 : ℤ) :=
        Int.ceil_le.mpr (by push_cast; linarith)
      have hle := (roundEven_le_ceil _).trans this
      refine le_abs.mpr (.inr ?_)
      have : (roundEven (q / 2 ^ (exponent q - 52)) : ℚ) ≤ -2 ^ 52 := by exact_mod_cast hle
      linarith
  unfold round
  rw [if_neg hne, abs_mul, abs_of_pos hulp]
  calc (1 / 2 : ℚ) ≤ 2 ^ 52 * 2 ^ (exponent q - 52) := hhalf
    _ ≤ |(roundEven (q / 2 ^ (exponent q - 52)) : ℚ)| * 2 ^ (exponent q - 52) := by gcongr

/-- Two doubles whose difference as a double is below one half differ by less than that. -/
lemma abs_sub_lt_half {a b d : ℚ} (h : sub a b = some d) (hd : |d| < 1 / 2) :
    |a - b| < 1 / 2 := by
  by_contra hfar
  rw [not_lt] at hfar
  have hnormal : ¬ |a - b| < 1 / 2 ^ 1022 := by
    rw [not_lt]
    have hbig : (2 : ℚ) ≤ 2 ^ 1022 := by
      simpa using pow_le_pow_right₀ (one_le_two : (1 : ℚ) ≤ 2) (show 1 ≤ 1022 by omega)
    exact (one_div_le_one_div_of_le two_pos hbig).trans hfar
  unfold sub double at h
  simp only [if_neg hnormal] at h
  split at h
  · cases h
  · cases h
    exact absurd (half_le_round hfar) (not_le.mpr hd)

end F64

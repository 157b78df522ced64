import Mathlib.Algebra.Order.Floor.Ring
import Mathlib.Data.Rat.Floor
import Mathlib.Tactic

/-!
# Double precision on the rationals

A finite double is a rational number; an operation on doubles is the exact operation
followed by a rounding to 53 significant bits, ties to even.  Only finite values of ordinary
size occur in this development, so the exponent is not bounded.
-/

namespace F64

/-- The integer nearest to a rational, ties to the even one. -/
def roundEven (q : ℚ) : ℤ :=
  let n := q.num / (q.den : ℤ)
  let r := q.num % (q.den : ℤ)
  if 2 * r < q.den then n
  else if 2 * r > q.den then n + 1
  else if n % 2 = 0 then n else n + 1

/-- The exponent `e` with `2 ^ e ≤ |q| < 2 ^ (e + 1)`, for `q ≠ 0`. -/
def exponent (q : ℚ) : ℤ :=
  let e : ℤ := (Nat.log2 q.num.natAbs : ℤ) - (Nat.log2 q.den : ℤ)
  if (2 : ℚ) ^ e ≤ |q| then e else e - 1

/-- The double nearest to a rational. -/
def round (q : ℚ) : ℚ :=
  if q = 0 then 0
  else
    let ulp : ℚ := (2 : ℚ) ^ (exponent q - 52)
    (roundEven (q / ulp) : ℚ) * ulp

/-- An integer as a double. -/
def ofInt (n : ℤ) : ℚ := round n

/-- The product of two doubles. -/
def mul (a b : ℚ) : ℚ := round (a * b)

/-- The quotient of two doubles (the divisor is not zero). -/
def div (a b : ℚ) : ℚ := round (a / b)

/-- `f64::round`: the nearest integer, ties away from zero. -/
def roundAway (q : ℚ) : ℤ :=
  if 0 ≤ q then ⌊q + 1 / 2⌋ else -⌊-q + 1 / 2⌋

end F64

import Mathlib.Tactic

/-!
# Big-endian numbers

A number as a fixed count of bytes, the most significant first.  A number too large for its
bytes loses its high part, as a cast of machine integers does.
-/

namespace BigEndian

/-- The low `8 * width` bits of a number, the most significant byte first. -/
def toBytes : ℕ → ℕ → List UInt8
  | 0, _ => []
  | width + 1, n => UInt8.ofNat (n / 256 ^ width) :: toBytes width n

/-- The number that bytes spell. -/
def ofBytes (bytes : List UInt8) : ℕ :=
  bytes.foldl (fun n b => 256 * n + b.toNat) 0

@[simp] lemma length_toBytes (width n : ℕ) : (toBytes width n).length = width := by
  induction width with
  | zero => rfl
  | succ width ih => simp [toBytes, ih]

/-- What is read so far counts for its place. -/
lemma foldl_eq (bytes : List UInt8) (n : ℕ) :
    bytes.foldl (fun n b => 256 * n + b.toNat) n = 256 ^ bytes.length * n + ofBytes bytes := by
  unfold ofBytes
  induction bytes generalizing n with
  | nil => simp
  | cons b bytes ih =>
    rw [List.foldl_cons, List.foldl_cons, ih, ih (256 * 0 + b.toNat), List.length_cons, pow_succ]
    ring

@[simp] lemma ofBytes_nil : ofBytes [] = 0 := rfl

lemma ofBytes_cons (b : UInt8) (bytes : List UInt8) :
    ofBytes (b :: bytes) = 256 ^ bytes.length * b.toNat + ofBytes bytes := by
  conv_lhs => unfold ofBytes
  rw [List.foldl_cons, foldl_eq]
  simp

lemma ofBytes_lt (bytes : List UInt8) : ofBytes bytes < 256 ^ bytes.length := by
  induction bytes with
  | nil => simp
  | cons b bytes ih =>
    have hb : b.toNat ≤ 255 := by
      have := b.toNat_lt
      omega
    calc ofBytes (b :: bytes)
        = 256 ^ bytes.length * b.toNat + ofBytes bytes := ofBytes_cons b bytes
      _ < 256 ^ bytes.length * b.toNat + 256 ^ bytes.length := by omega
      _ = 256 ^ bytes.length * (b.toNat + 1) := by ring
      _ ≤ 256 ^ bytes.length * 256 := by gcongr; omega
      _ = 256 ^ (b :: bytes).length := by rw [List.length_cons, pow_succ]

/-- Reading what was written gives the number without its high part. -/
lemma ofBytes_toBytes_mod (width n : ℕ) : ofBytes (toBytes width n) = n % 256 ^ width := by
  induction width with
  | zero => simp [toBytes, Nat.mod_one]
  | succ width ih =>
    have hbyte : (UInt8.ofNat (n / 256 ^ width)).toNat = n / 256 ^ width % 256 :=
      UInt8.toNat_ofNat'
    rw [toBytes, ofBytes_cons, ih, length_toBytes, hbyte, pow_succ, Nat.mod_mul, add_comm]

lemma ofBytes_toBytes {width n : ℕ} (h : n < 256 ^ width) : ofBytes (toBytes width n) = n := by
  rw [ofBytes_toBytes_mod, Nat.mod_eq_of_lt h]

/-- Only the part of a number that fits is written. -/
lemma toBytes_mod_add (width n k : ℕ) : toBytes width (n + 256 ^ width * k) = toBytes width n := by
  induction width generalizing k with
  | zero => rfl
  | succ width ih =>
    have hdiv : (n + 256 ^ (width + 1) * k) / 256 ^ width = n / 256 ^ width + 256 * k := by
      rw [show n + 256 ^ (width + 1) * k = n + 256 ^ width * (256 * k) by ring,
        Nat.add_mul_div_left _ _ (by positivity)]
    have htail : toBytes width (n + 256 ^ (width + 1) * k) = toBytes width n := by
      rw [show n + 256 ^ (width + 1) * k = n + 256 ^ width * (256 * k) by ring, ih]
    rw [toBytes, toBytes, hdiv, htail]
    congr 1
    apply UInt8.toNat_inj.mp
    simp [UInt8.toNat_ofNat']

/-- Writing what was read gives the bytes. -/
lemma toBytes_ofBytes (bytes : List UInt8) : toBytes bytes.length (ofBytes bytes) = bytes := by
  induction bytes with
  | nil => rfl
  | cons b bytes ih =>
    have hdiv : ofBytes (b :: bytes) / 256 ^ bytes.length = b.toNat := by
      rw [ofBytes_cons, Nat.mul_add_div (by positivity), Nat.div_eq_of_lt (ofBytes_lt bytes),
        add_zero]
    have htail : toBytes bytes.length (ofBytes (b :: bytes)) = bytes := by
      rw [ofBytes_cons, add_comm, toBytes_mod_add, ih]
    rw [List.length_cons, toBytes, hdiv, htail, UInt8.ofNat_toNat]

end BigEndian

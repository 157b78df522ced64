import Mathlib.Data.List.Range
import Mathlib.Tactic

/-!
# Label bitmaps

A label is a bitmap of one bit a dot: rows from top to bottom, every row padded to whole bytes,
the leftmost dot in the highest bit of a byte, and a zero bit for a black dot.  Rotating and
cropping paint the black dots of one bitmap onto a blank one; what a bitmap shows is the set of
its black dots, and the bounding box of its ink is the tightest box around that set.
-/

namespace DevBridge

namespace Labels

/-! ### Bitmaps -/

/-- `MonoBitmap`: as many bytes as the size asks for. -/
structure MonoBitmap where
  width : ℕ
  height : ℕ
  widthBytes : ℕ
  data : List UInt8
  widthBytes_eq : widthBytes = (width + 7) / 8
  length_data : data.length = widthBytes * height
deriving DecidableEq

/-- A rectangle of dots: `x0` and `y0` inclusive, `x1` and `y1` exclusive. -/
structure DotRect where
  x0 : ℕ
  y0 : ℕ
  x1 : ℕ
  y1 : ℕ
deriving DecidableEq, Repr

namespace DotRect

/-- `DotRect::contains`. -/
def contains (r other : DotRect) : Bool :=
  r.x0 ≤ other.x0 && r.y0 ≤ other.y0 && other.x1 ≤ r.x1 && other.y1 ≤ r.y1

/-- The dots of a rectangle, row by row. -/
def dots (r : DotRect) : List (ℕ × ℕ) :=
  (List.range' r.y0 (r.y1 - r.y0)).flatMap fun y =>
    (List.range' r.x0 (r.x1 - r.x0)).map fun x => (x, y)

/-- A dot lies in a rectangle. -/
def Mem (r : DotRect) (x y : ℕ) : Prop := (r.x0 ≤ x ∧ x < r.x1) ∧ r.y0 ≤ y ∧ y < r.y1

lemma mem_dots {r : DotRect} {x y : ℕ} : (x, y) ∈ r.dots ↔ r.Mem x y := by
  simp only [dots, Mem, List.mem_flatMap, List.mem_map, List.mem_range'_1, Prod.mk.injEq]
  constructor
  · rintro ⟨y', hy, x', hx, rfl, rfl⟩
    omega
  · rintro ⟨hx, hy⟩
    exact ⟨y, by omega, x, by omega, rfl, rfl⟩

end DotRect

/-- The difference of two unsigned numbers; there is none where it underflows. -/
def checkedSub (a b : ℕ) : Option ℕ := if b ≤ a then some (a - b) else none

lemma checkedSub_eq {a b : ℕ} (h : b ≤ a) : checkedSub a b = some (a - b) := if_pos h

namespace MonoBitmap

/-- An all-white bitmap, the padding dots included. -/
def blank (width height : ℕ) : MonoBitmap where
  width := width
  height := height
  widthBytes := (width + 7) / 8
  data := List.replicate ((width + 7) / 8 * height) 0xFF
  widthBytes_eq := rfl
  length_data := List.length_replicate

/-- The byte of a dot. -/
def byteOf (b : MonoBitmap) (x y : ℕ) : ℕ := y * b.widthBytes + x / 8

/-- The bit of a dot in its byte. -/
def maskOf (x : ℕ) : UInt8 := 0x80 >>> UInt8.ofNat (x % 8)

/-- Whether a dot is black.  The dots that are asked for lie in the bitmap. -/
def isBlack (b : MonoBitmap) (x y : ℕ) : Bool :=
  b.data.getD (b.byteOf x y) 0xFF &&& maskOf x == 0

def setBlack (b : MonoBitmap) (x y : ℕ) : MonoBitmap where
  width := b.width
  height := b.height
  widthBytes := b.widthBytes
  data := b.data.modify (b.byteOf x y) fun byte => byte &&& ~~~maskOf x
  widthBytes_eq := b.widthBytes_eq
  length_data := by rw [List.length_modify, b.length_data]

/-- The whole of a bitmap. -/
def whole (b : MonoBitmap) : DotRect := ⟨0, 0, b.width, b.height⟩

/-- The loops of `rotated_180` and `crop`: every black dot among the given ones is set where
`place` says. -/
def paint (src : MonoBitmap) (place : ℕ × ℕ → Option (ℕ × ℕ)) :
    List (ℕ × ℕ) → MonoBitmap → Option MonoBitmap
  | [], out => some out
  | (x, y) :: dots, out =>
    if src.isBlack x y then do
      let (x', y') ← place (x, y)
      paint src place dots (out.setBlack x' y')
    else paint src place dots out

/-- `rotated_180`: dot `(x, y)` moves to `(w−1−x, h−1−y)`, the padding stays at the right. -/
def rotated180 (b : MonoBitmap) : Option MonoBitmap :=
  b.paint (fun (x, y) => do
    let right ← checkedSub b.width 1
    let bottom ← checkedSub b.height 1
    return (← checkedSub right x, ← checkedSub bottom y)) b.whole.dots (blank b.width b.height)

/-- The dots inside a rectangle of the bitmap. -/
def crop (b : MonoBitmap) (rect : DotRect) : Option MonoBitmap := do
  let width ← checkedSub rect.x1 rect.x0
  let height ← checkedSub rect.y1 rect.y0
  b.paint (fun (x, y) => do return (← checkedSub x rect.x0, ← checkedSub y rect.y0))
    rect.dots (blank width height)

end MonoBitmap

namespace DotRect

/-- The box around a dot, or around a box and a dot. -/
def grow (bbox : Option DotRect) (x y : ℕ) : DotRect :=
  match bbox with
  | none => ⟨x, y, x + 1, y + 1⟩
  | some b => ⟨min b.x0 x, min b.y0 y, max b.x1 (x + 1), max b.y1 (y + 1)⟩

end DotRect

/-- The bounding box of the black dots. -/
def MonoBitmap.inkBbox (b : MonoBitmap) : Option DotRect :=
  b.whole.dots.foldl
    (fun bbox (x, y) => if b.isBlack x y then some (DotRect.grow bbox x y) else bbox) none

/-! ### Dots -/

namespace MonoBitmap

variable {b : MonoBitmap} {x y x' y' : ℕ}

@[simp] lemma width_blank (width height : ℕ) : (blank width height).width = width := rfl
@[simp] lemma height_blank (width height : ℕ) : (blank width height).height = height := rfl
@[simp] lemma width_setBlack : (b.setBlack x y).width = b.width := rfl
@[simp] lemma height_setBlack : (b.setBlack x y).height = b.height := rfl

/-- A dot of the bitmap, or of the padding of its rows. -/
def Dot (b : MonoBitmap) (x y : ℕ) : Prop := x < 8 * b.widthBytes ∧ y < b.height

lemma width_le (b : MonoBitmap) : b.width ≤ 8 * b.widthBytes := by
  have := b.widthBytes_eq
  omega

lemma byteOf_lt (h : b.Dot x y) : b.byteOf x y < b.data.length := by
  rw [b.length_data, byteOf]
  obtain ⟨hx, hy⟩ := h
  calc y * b.widthBytes + x / 8
      < y * b.widthBytes + b.widthBytes := by omega
    _ = (y + 1) * b.widthBytes := by ring
    _ ≤ b.height * b.widthBytes := by gcongr; omega
    _ = b.widthBytes * b.height := mul_comm _ _

/-- Two dots of one byte lie in one row, under one byte of it. -/
lemma byteOf_inj (h : b.Dot x y) (h' : b.Dot x' y') (heq : b.byteOf x y = b.byteOf x' y') :
    y = y' ∧ x / 8 = x' / 8 := by
  have hx : x / 8 < b.widthBytes := by have := h.1; omega
  have hx' : x' / 8 < b.widthBytes := by have := h'.1; omega
  unfold byteOf at heq
  have hy : y = y' := by
    have hdiv := congrArg (· / b.widthBytes) heq
    simpa [Nat.add_div_of_dvd_right, Nat.div_eq_of_lt hx, Nat.div_eq_of_lt hx',
      Nat.mul_div_cancel _ (by omega : 0 < b.widthBytes), mul_comm] using hdiv
  subst hy
  exact ⟨rfl, by omega⟩

/-- Clearing the bit of one dot clears that of no other. -/
lemma and_not_maskOf (byte : UInt8) (x x' : ℕ) :
    byte &&& ~~~maskOf x &&& maskOf x' = 0 ↔ x % 8 = x' % 8 ∨ byte &&& maskOf x' = 0 := by
  have hmasks : ∀ i < 8, ∀ j < 8, ~~~maskOf i &&& maskOf j = if i = j then 0 else maskOf j := by
    decide
  have hmod : ∀ x, maskOf (x % 8) = maskOf x := fun x => by simp [maskOf]
  have hpair := hmasks (x % 8) (Nat.mod_lt _ (by omega)) (x' % 8) (Nat.mod_lt _ (by omega))
  rw [hmod, hmod] at hpair
  rw [UInt8.and_assoc, hpair]
  split
  · rename_i hbit
    simp [hbit]
  · rename_i hbit
    simp [hbit]

/-- Setting a dot blackens that dot. -/
lemma isBlack_setBlack (h : b.Dot x y) (h' : b.Dot x' y') :
    (b.setBlack x y).isBlack x' y' ↔ (x = x' ∧ y = y') ∨ b.isBlack x' y' := by
  have hlt := byteOf_lt h
  have hlt' := byteOf_lt h'
  have hbyte : (b.setBlack x y).byteOf x' y' = b.byteOf x' y' := rfl
  unfold isBlack
  rw [hbyte]
  simp only [setBlack, List.getD_eq_getElem?_getD, List.getElem?_modify, beq_iff_eq,
    List.getElem?_eq_getElem hlt']
  by_cases hsame : b.byteOf x y = b.byteOf x' y'
  · -- the dots share their byte: the bits decide
    obtain ⟨hy, hx⟩ := byteOf_inj h h' hsame
    have hdot : (x = x' ∧ y = y') ↔ x % 8 = x' % 8 := by omega
    simp only [if_pos hsame, hdot]
    exact and_not_maskOf _ _ _
  · -- another byte is left alone
    have hne : ¬ (x = x' ∧ y = y') := by
      rintro ⟨rfl, rfl⟩
      exact hsame rfl
    simp only [if_neg hsame]
    simp [hne]

lemma isBlack_blank (width height : ℕ) (h : (blank width height).Dot x y) :
    (blank width height).isBlack x y = false := by
  have hlt := byteOf_lt h
  have hmask : ∀ i < 8, (0xFF : UInt8) &&& maskOf i ≠ 0 := by decide
  have hmod : maskOf (x % 8) = maskOf x := by simp [maskOf]
  unfold isBlack
  have hbyte : (blank width height).data.getD ((blank width height).byteOf x y) 0xFF = 0xFF := by
    rw [List.getD_eq_getElem?_getD, List.getElem?_eq_getElem hlt, Option.getD_some]
    exact List.getElem_replicate _
  rw [hbyte, ← hmod, beq_eq_false_iff_ne]
  exact hmask _ (Nat.mod_lt _ (by omega))

/-! ### Painting -/

/-- `out'` has the size of `out` and beside its black dots the painted ones. -/
structure Painted (out out' : MonoBitmap) (dots : ℕ → ℕ → Prop) : Prop where
  width : out'.width = out.width
  height : out'.height = out.height
  isBlack : ∀ x y, out.Dot x y → (out'.isBlack x y ↔ out.isBlack x y ∨ dots x y)

lemma Dot.of_size {out : MonoBitmap} (h : out.Dot x y) (out' : MonoBitmap)
    (hwidth : out'.width = out.width) (hheight : out'.height = out.height) : out'.Dot x y := by
  have := out.widthBytes_eq
  have := out'.widthBytes_eq
  obtain ⟨hx, hy⟩ := h
  exact ⟨by omega, by omega⟩

/-- Painting adds the images of the black dots, if each has its place. -/
lemma paint_spec (src out : MonoBitmap) (place : ℕ × ℕ → Option (ℕ × ℕ))
    (target : ℕ × ℕ → ℕ × ℕ) (dots : List (ℕ × ℕ))
    (hplace : ∀ d ∈ dots, place d = some (target d))
    (hdot : ∀ d ∈ dots, out.Dot (target d).1 (target d).2) :
    ∃ out', src.paint place dots out = some out' ∧ Painted out out' fun x y =>
      ∃ d ∈ dots, src.isBlack d.1 d.2 ∧ target d = (x, y) := by
  induction dots generalizing out with
  | nil => exact ⟨out, rfl, rfl, rfl, by simp⟩
  | cons d dots ih =>
    obtain ⟨x₀, y₀⟩ := d
    have hplace' : ∀ d ∈ dots, place d = some (target d) :=
      fun d hd => hplace d (List.mem_cons_of_mem _ hd)
    have hdot' : ∀ d ∈ dots, out.Dot (target d).1 (target d).2 :=
      fun d hd => hdot d (List.mem_cons_of_mem _ hd)
    by_cases hblack : src.isBlack x₀ y₀ = true
    · have hfirst : out.Dot (target (x₀, y₀)).1 (target (x₀, y₀)).2 := hdot _ List.mem_cons_self
      obtain ⟨out', hpaint, hout⟩ := ih (out.setBlack (target (x₀, y₀)).1 (target (x₀, y₀)).2)
        hplace' fun d hd => (hdot' d hd).of_size _ rfl rfl
      refine ⟨out', ?_, hout.width, hout.height, fun x y h => ?_⟩
      · rw [paint, if_pos hblack, hplace _ List.mem_cons_self]
        exact hpaint
      · rw [hout.isBlack x y (h.of_size _ rfl rfl), isBlack_setBlack hfirst h, or_right_comm,
          or_comm (b := out.isBlack x y = true), List.exists_mem_cons_iff]
        simp [hblack, Prod.ext_iff]
    · obtain ⟨out', hpaint, hout⟩ := ih out hplace' hdot'
      refine ⟨out', by rw [paint, if_neg hblack, hpaint], hout.width, hout.height,
        fun x y h => ?_⟩
      rw [hout.isBlack x y h]
      simp [hblack]

/-- `b` shows a black dot at `(x, y)`. -/
def Shows (b : MonoBitmap) (x y : ℕ) : Prop := (x < b.width ∧ y < b.height) ∧ b.isBlack x y

/-- The dots that pad the rows are white. -/
def PaddingWhite (b : MonoBitmap) : Prop :=
  ∀ x y, b.Dot x y → b.width ≤ x → b.isBlack x y = false

lemma dot_of_lt (hx : x < b.width) (hy : y < b.height) : b.Dot x y :=
  ⟨hx.trans_le b.width_le, hy⟩

/-- What is painted on a blank bitmap, inside its width, is all it shows. -/
lemma Painted.blank {out : MonoBitmap} {width height : ℕ} {dots : ℕ → ℕ → Prop}
    (h : Painted (blank width height) out dots) (hin : ∀ x y, dots x y → x < width) :
    out.width = width ∧ out.height = height ∧ out.PaddingWhite ∧
      ∀ x y, out.Shows x y ↔ (x < width ∧ y < height) ∧ dots x y := by
  have hblack : ∀ x y, (MonoBitmap.blank width height).Dot x y → (out.isBlack x y ↔ dots x y) :=
    fun x y hdot => by simp [h.isBlack x y hdot, isBlack_blank width height hdot]
  refine ⟨h.width, h.height, fun x y hdot hx => ?_, fun x y => ?_⟩
  · have hpad := hblack x y (hdot.of_size _ h.width.symm h.height.symm)
    rw [Bool.eq_false_iff, ne_eq, hpad]
    intro hd
    exact absurd (hin x y hd) (by rw [← width_blank width height, ← h.width]; omega)
  · unfold Shows
    rw [h.width, h.height]
    refine and_congr_right fun ⟨hx, hy⟩ => hblack x y (dot_of_lt hx hy)

/-- `rotated_180` turns the dots about the middle of the bitmap. -/
lemma rotated180_spec (b : MonoBitmap) :
    ∃ out, b.rotated180 = some out ∧ out.width = b.width ∧ out.height = b.height ∧
      out.PaddingWhite ∧ ∀ x y, out.Shows x y ↔
        (x < b.width ∧ y < b.height) ∧ b.Shows (b.width - 1 - x) (b.height - 1 - y) := by
  have hmem : ∀ d ∈ b.whole.dots, d.1 < b.width ∧ d.2 < b.height := by
    rintro ⟨x, y⟩ hd
    exact ⟨(DotRect.mem_dots.mp hd).1.2, (DotRect.mem_dots.mp hd).2.2⟩
  obtain ⟨out, hpaint, hout⟩ := paint_spec b (blank b.width b.height)
    (fun (x, y) => do
      let right ← checkedSub b.width 1
      let bottom ← checkedSub b.height 1
      return (← checkedSub right x, ← checkedSub bottom y))
    (fun d => (b.width - 1 - d.1, b.height - 1 - d.2)) b.whole.dots
    (fun d hd => by
      obtain ⟨hx, hy⟩ := hmem d hd
      have h₁ : 1 ≤ b.width := by omega
      have h₂ : 1 ≤ b.height := by omega
      have h₃ : d.1 ≤ b.width - 1 := by omega
      have h₄ : d.2 ≤ b.height - 1 := by omega
      simp [checkedSub, h₁, h₂, h₃, h₄])
    (fun d hd => dot_of_lt (by have := hmem d hd; simp; omega)
      (by have := hmem d hd; simp; omega))
  obtain ⟨hwidth, hheight, hpad, hshows⟩ := hout.blank (fun x y ⟨d, hd, _, ht⟩ => by
    have := hmem d hd
    simp only [Prod.mk.injEq] at ht
    omega)
  refine ⟨out, hpaint, hwidth, hheight, hpad, fun x y => ?_⟩
  rw [hshows]
  refine and_congr_right fun ⟨hx, hy⟩ => ?_
  constructor
  · rintro ⟨⟨x', y'⟩, hd, hblack, ht⟩
    have := hmem _ hd
    simp only [Prod.mk.injEq] at ht this
    obtain rfl : x' = b.width - 1 - x := by omega
    obtain rfl : y' = b.height - 1 - y := by omega
    exact ⟨⟨by omega, by omega⟩, hblack⟩
  · rintro ⟨⟨hx', hy'⟩, hblack⟩
    refine ⟨(b.width - 1 - x, b.height - 1 - y), DotRect.mem_dots.mpr ?_, hblack, ?_⟩
    · exact ⟨⟨Nat.zero_le _, hx'⟩, Nat.zero_le _, hy'⟩
    · simp only [Prod.mk.injEq]
      omega

/-- `crop` keeps the dots of the rectangle, from its corner on. -/
lemma crop_spec (b : MonoBitmap) {r : DotRect} (hx : r.x0 ≤ r.x1) (hy : r.y0 ≤ r.y1)
    (hw : r.x1 ≤ b.width) (hh : r.y1 ≤ b.height) :
    ∃ out, b.crop r = some out ∧ out.width = r.x1 - r.x0 ∧ out.height = r.y1 - r.y0 ∧
      out.PaddingWhite ∧ ∀ x y, out.Shows x y ↔
        (x < r.x1 - r.x0 ∧ y < r.y1 - r.y0) ∧ b.Shows (r.x0 + x) (r.y0 + y) := by
  have hmem : ∀ d ∈ r.dots, (r.x0 ≤ d.1 ∧ d.1 < r.x1) ∧ r.y0 ≤ d.2 ∧ d.2 < r.y1 :=
    fun _ hd => DotRect.mem_dots.mp hd
  obtain ⟨out, hpaint, hout⟩ := paint_spec b (blank (r.x1 - r.x0) (r.y1 - r.y0))
    (fun (x, y) => do return (← checkedSub x r.x0, ← checkedSub y r.y0))
    (fun d => (d.1 - r.x0, d.2 - r.y0)) r.dots
    (fun d hd => by
      obtain ⟨⟨hx, -⟩, hy, -⟩ := hmem d hd
      simp [checkedSub, hx, hy])
    (fun d hd => dot_of_lt (by have := hmem d hd; simp; omega)
      (by have := hmem d hd; simp; omega))
  obtain ⟨hwidth, hheight, hpad, hshows⟩ := hout.blank (fun x y ⟨d, hd, _, ht⟩ => by
    have := hmem d hd
    simp only [Prod.mk.injEq] at ht
    omega)
  refine ⟨out, ?_, hwidth, hheight, hpad, fun x y => ?_⟩
  · unfold crop
    rw [checkedSub_eq hx, checkedSub_eq hy]
    exact hpaint
  rw [hshows]
  refine and_congr_right fun ⟨hx', hy'⟩ => ?_
  constructor
  · rintro ⟨⟨x', y'⟩, hd, hblack, ht⟩
    have := hmem _ hd
    simp only [Prod.mk.injEq] at ht this
    obtain rfl : x' = r.x0 + x := by omega
    obtain rfl : y' = r.y0 + y := by omega
    exact ⟨⟨by omega, by omega⟩, hblack⟩
  · rintro ⟨-, hblack⟩
    refine ⟨(r.x0 + x, r.y0 + y), DotRect.mem_dots.mpr ⟨by omega, by omega⟩, hblack, ?_⟩
    simp only [Prod.mk.injEq]
    omega

end MonoBitmap

/-! ### The bounding box -/

/-- The tightest box around some dots. -/
structure Tight (dots : ℕ → ℕ → Prop) (r : DotRect) : Prop where
  mem : ∀ x y, dots x y → r.Mem x y
  left : ∃ y, dots r.x0 y
  top : ∃ x, dots x r.y0
  right : ∃ x y, dots x y ∧ x + 1 = r.x1
  bottom : ∃ x y, dots x y ∧ y + 1 = r.y1

/-- The bounding box of some dots: none if there is no dot, and the tightest box otherwise. -/
def Bounds (dots : ℕ → ℕ → Prop) : Option DotRect → Prop
  | none => ∀ x y, ¬ dots x y
  | some r => Tight dots r

/-- A box grown by a dot is tight around one dot more. -/
lemma Bounds.grow {dots : ℕ → ℕ → Prop} {bbox : Option DotRect} (h : Bounds dots bbox)
    (x y : ℕ) : Tight (fun x' y' => dots x' y' ∨ (x' = x ∧ y' = y)) (DotRect.grow bbox x y) := by
  rcases bbox with _ | r
  · have hnone : ∀ x' y', ¬ dots x' y' := h
    refine ⟨?_, ⟨y, .inr ⟨rfl, rfl⟩⟩, ⟨x, .inr ⟨rfl, rfl⟩⟩, ⟨x, y, .inr ⟨rfl, rfl⟩, rfl⟩,
      ⟨x, y, .inr ⟨rfl, rfl⟩, rfl⟩⟩
    rintro x' y' (hd | ⟨rfl, rfl⟩)
    · exact absurd hd (hnone x' y')
    · exact ⟨⟨le_rfl, Nat.lt_succ_self _⟩, le_rfl, Nat.lt_succ_self _⟩
  · obtain ⟨hmem, ⟨yl, hl⟩, ⟨xt, ht⟩, ⟨xr, yr, hr, hr'⟩, ⟨xb, yb, hb, hb'⟩⟩ := h
    simp only [DotRect.grow]
    refine ⟨?_, ?_, ?_, ?_, ?_⟩
    · rintro x' y' (hd | ⟨rfl, rfl⟩)
      · obtain ⟨⟨h₁, h₂⟩, h₃, h₄⟩ := hmem x' y' hd
        refine ⟨⟨?_, ?_⟩, ?_, ?_⟩ <;> simp only <;> omega
      · refine ⟨⟨?_, ?_⟩, ?_, ?_⟩ <;> simp only <;> omega
    -- an edge is where it was, or at the new dot
    · rcases le_total r.x0 x with hle | hle
      · exact ⟨yl, .inl (by rwa [min_eq_left hle])⟩
      · exact ⟨y, .inr ⟨min_eq_right hle, rfl⟩⟩
    · rcases le_total r.y0 y with hle | hle
      · exact ⟨xt, .inl (by rwa [min_eq_left hle])⟩
      · exact ⟨x, .inr ⟨rfl, min_eq_right hle⟩⟩
    · rcases le_total (x + 1) r.x1 with hle | hle
      · exact ⟨xr, yr, .inl hr, by rw [max_eq_left hle, hr']⟩
      · exact ⟨x, y, .inr ⟨rfl, rfl⟩, (max_eq_right hle).symm⟩
    · rcases le_total (y + 1) r.y1 with hle | hle
      · exact ⟨xb, yb, .inl hb, by rw [max_eq_left hle, hb']⟩
      · exact ⟨x, y, .inr ⟨rfl, rfl⟩, (max_eq_right hle).symm⟩

/-- The loop of `ink_bbox` bounds the black dots it went over. -/
lemma foldl_grow_bounds (b : MonoBitmap) (dots : List (ℕ × ℕ)) {before : ℕ → ℕ → Prop}
    {bbox : Option DotRect} (h : Bounds before bbox) :
    Bounds (fun x y => before x y ∨ ((x, y) ∈ dots ∧ b.isBlack x y)) (dots.foldl
      (fun bbox (x, y) => if b.isBlack x y then some (DotRect.grow bbox x y) else bbox) bbox) := by
  induction dots generalizing before bbox with
  | nil => simpa using h
  | cons d dots ih =>
    obtain ⟨x₀, y₀⟩ := d
    rw [List.foldl_cons]
    by_cases hblack : b.isBlack x₀ y₀ = true
    · have hnext : Bounds (fun x y => before x y ∨ (x = x₀ ∧ y = y₀))
          (some (DotRect.grow bbox x₀ y₀)) := h.grow x₀ y₀
      have hstep := ih hnext
      simp only [if_pos hblack]
      convert hstep using 3 with x y
      simp only [List.mem_cons, Prod.mk.injEq]
      constructor
      · rintro (hb | ⟨⟨rfl, rfl⟩ | hd, hblack'⟩)
        · exact .inl (.inl hb)
        · exact .inl (.inr ⟨rfl, rfl⟩)
        · exact .inr ⟨hd, hblack'⟩
      · rintro ((hb | ⟨rfl, rfl⟩) | ⟨hd, hblack'⟩)
        · exact .inl hb
        · exact .inr ⟨.inl ⟨rfl, rfl⟩, hblack⟩
        · exact .inr ⟨.inr hd, hblack'⟩
    · simp only [if_neg hblack]
      convert ih h using 3 with x y
      simp only [List.mem_cons, Prod.mk.injEq]
      refine or_congr_right (and_congr_left fun hblack' => or_iff_right ?_)
      rintro ⟨rfl, rfl⟩
      exact hblack hblack'

/-- The ink of a bitmap bounds what it shows. -/
lemma MonoBitmap.inkBbox_bounds (b : MonoBitmap) : Bounds b.Shows b.inkBbox := by
  have h := foldl_grow_bounds b b.whole.dots
    (show Bounds (fun _ _ => False) none from fun _ _ => id)
  unfold MonoBitmap.inkBbox
  convert h using 3 with x y
  rw [false_or, DotRect.mem_dots, MonoBitmap.Shows]
  simp [DotRect.Mem, MonoBitmap.whole]

end Labels

end DevBridge

import DevBridge.Lib.F64
import DevBridge.Text
import DevBridge.Labels.Bitmap

/-!
# Where a label lands on the roll

A label is centred on the canvas of the roll in the coordinates of the printer, moved by two
offsets in the orientation in which it is read, cropped to the canvas and, if the roll asks for
it, turned by 180 degrees.  The abstract statement speaks of the canvas as it is read: which of
its dots are black once the bitmap is printed where the layout says.
-/

namespace DevBridge

namespace Labels

/-! ### The code -/

/-- A length in millimetres: a double with the text it prints as. -/
structure Millimetres where
  value : ℚ
  text : String
  oneLine : 13 ∉ utf8 text

/-- The label roll and how a label is laid on it. -/
structure LabelGeometry where
  widthMm : Millimetres
  heightMm : Millimetres
  dpi : ℕ
  /-- Rotate the label by 180 degrees in printer coordinates. -/
  rotate180 : Bool
  /-- Right or, if negative, left as the label is read. -/
  xOffsetDots : Int32
  /-- Down or, if negative, up as the label is read. -/
  yOffsetDots : Int32

def mmToDots (mm : ℚ) (dpi : ℕ) : ℕ :=
  let dots := F64.roundAway (F64.div (F64.mul mm (F64.ofInt dpi)) (F64.round (254 / 10)))
  -- the cast to `u32` saturates
  min (max dots 0).toNat (2 ^ 32 - 1)

namespace LabelGeometry

/-- Printable dots of the roll. -/
def maxDots (g : LabelGeometry) : ℕ × ℕ :=
  (mmToDots g.widthMm.value g.dpi, mmToDots g.heightMm.value g.dpi)

end LabelGeometry

/-- Where one label lands and what prints. -/
structure LabelLayout where
  /-- The size of the PNG. -/
  png : ℕ × ℕ
  canvas : ℕ × ℕ
  rotate180 : Bool
  /-- Where the bitmap goes, in printer coordinates. -/
  bitmapAt : ℕ × ℕ
  /-- The printed ink as the label is read. -/
  ink : Option DotRect
  inkCropped : Bool
deriving DecidableEq, Repr

/-- A label ready for the printer. -/
structure PlacedLabel where
  bitmap : MonoBitmap
  layout : LabelLayout
deriving DecidableEq

/-- `v` limited to `0..=max`. -/
def clampDots (v : ℤ) (most : ℕ) : ℕ := (max 0 (min v most)).toNat

/-- The left (or upper) edge of the PNG on the canvas as the label is read. -/
def readingEdge (rotate180 : Bool) (canvas png : ℕ) (offset : ℤ) : ℤ :=
  let (c, w) := ((canvas : ℤ), (png : ℤ))
  let centre := max (c - w) 0 / 2
  -- turned by 180 degrees, the gap of the centring swaps sides
  (if rotate180 then c - w - centre else centre) + offset

/-- The rectangle shifted by `(sx, sy)`. -/
def DotRect.shift (r : DotRect) (sx sy : ℕ) : DotRect :=
  ⟨r.x0 + sx, r.y0 + sy, r.x1 + sx, r.y1 + sy⟩

/-- The left upper corner of a shown part, whose left upper corner as read is `s`, on the turned
canvas. -/
def printerCorner (canvas s : ℕ × ℕ) (shown : MonoBitmap) : Option (ℕ × ℕ) := do
  let right ← checkedSub canvas.1 s.1
  let bottom ← checkedSub canvas.2 s.2
  return (← checkedSub right shown.width, ← checkedSub bottom shown.height)

/-- `place_label`: rotate, centre and offset one label on the canvas. -/
def placeLabel (bitmap : MonoBitmap) (geometry : LabelGeometry) : Option PlacedLabel := do
  let (canvasW, canvasH) := geometry.maxDots
  let rx := readingEdge geometry.rotate180 canvasW bitmap.width geometry.xOffsetDots.toInt
  let ry := readingEdge geometry.rotate180 canvasH bitmap.height geometry.yOffsetDots.toInt
  -- the dots of the PNG that land on the canvas
  let visible : DotRect :=
    ⟨clampDots (-rx) bitmap.width, clampDots (-ry) bitmap.height,
      clampDots (canvasW - rx) bitmap.width, clampDots (canvasH - ry) bitmap.height⟩
  let shown ← (if visible = bitmap.whole then some bitmap else bitmap.crop visible)
  let inkCropped := visible != bitmap.whole &&
    bitmap.inkBbox.any fun ink => !visible.contains ink
  let sx := clampDots rx canvasW
  let sy := clampDots ry canvasH
  let ink := shown.inkBbox.map fun i => i.shift sx sy
  let bitmapAt ← (if geometry.rotate180 then printerCorner geometry.maxDots (sx, sy) shown
    else some (sx, sy))
  let printed ← (if geometry.rotate180 then shown.rotated180 else some shown)
  return {
    layout := {
      png := (bitmap.width, bitmap.height)
      canvas := (canvasW, canvasH)
      rotate180 := geometry.rotate180
      bitmapAt := bitmapAt
      ink := ink
      inkCropped := inkCropped }
    bitmap := printed }

/-! ### The canvas as it is read -/

/-- Where the label is meant to be: centred in printer coordinates with the odd dot of the gap
behind it, seen from the reading side, and moved by the offset. -/
def origin (rotate180 : Bool) (canvas png : ℕ) (offset : ℤ) : ℤ :=
  let before := (canvas - png) / 2
  (if rotate180 then canvas - png - before else before : ℕ) + offset

/-- A place on one axis, seen from the other side if it is rotated. -/
def mirror (rotate180 : Bool) (size x : ℕ) : ℕ := if rotate180 then size - 1 - x else x

/-- Dot `(x, y)` of the canvas, as the label is read, is black once the label is printed. -/
def PlacedLabel.BlackAsRead (p : PlacedLabel) (x y : ℕ) : Prop :=
  let (canvasW, canvasH) := p.layout.canvas
  let (left, top) := p.layout.bitmapAt
  -- the same dot in printer coordinates
  let px := mirror p.layout.rotate180 canvasW x
  let py := mirror p.layout.rotate180 canvasH y
  (x < canvasW ∧ y < canvasH) ∧ (left ≤ px ∧ top ≤ py) ∧ p.bitmap.Shows (px - left) (py - top)

/-- Where a dot of the PNG belongs on the canvas. -/
def landsAt (bitmap : MonoBitmap) (geometry : LabelGeometry) (x y : ℕ) : ℤ × ℤ :=
  let (canvasW, canvasH) := geometry.maxDots
  (origin geometry.rotate180 canvasW bitmap.width geometry.xOffsetDots.toInt + x,
    origin geometry.rotate180 canvasH bitmap.height geometry.yOffsetDots.toInt + y)

def OnCanvas (geometry : LabelGeometry) (d : ℤ × ℤ) : Prop :=
  (0 ≤ d.1 ∧ d.1 < geometry.maxDots.1) ∧ 0 ≤ d.2 ∧ d.2 < geometry.maxDots.2

/-- A label placed dot by dot. -/
structure DotExact (bitmap : MonoBitmap) (geometry : LabelGeometry) (p : PlacedLabel) : Prop where
  canvas : p.layout.canvas = geometry.maxDots
  rotate180 : p.layout.rotate180 = geometry.rotate180
  /-- A dot of the canvas is black exactly when the dot of the PNG that belongs there is. -/
  black : ∀ x y : ℕ, p.BlackAsRead x y ↔ OnCanvas geometry (x, y) ∧
    ∃ x' y', bitmap.Shows x' y' ∧ landsAt bitmap geometry x' y' = (↑x, ↑y)
  /-- The bitmap lies on the canvas. -/
  inside : p.layout.bitmapAt.1 + p.bitmap.width ≤ geometry.maxDots.1 ∧
    p.layout.bitmapAt.2 + p.bitmap.height ≤ geometry.maxDots.2
  padding : bitmap.PaddingWhite → p.bitmap.PaddingWhite
  /-- The ink is the tight box of the black dots as read. -/
  ink : Bounds p.BlackAsRead p.layout.ink
  /-- Ink is cropped exactly when a black dot of the PNG falls off the canvas. -/
  cropped : p.layout.inkCropped ↔
    ∃ x' y', bitmap.Shows x' y' ∧ ¬ OnCanvas geometry (landsAt bitmap geometry x' y')

/-! ### One axis -/

/-- The code's edge is the intended one where the PNG fits. -/
lemma readingEdge_eq {canvas png : ℕ} (h : png ≤ canvas) (rotate180 : Bool) (offset : ℤ) :
    readingEdge rotate180 canvas png offset = origin rotate180 canvas png offset := by
  unfold readingEdge origin
  cases rotate180 <;> simp <;> omega

/-- Along one axis: the part of `0..png` that lands on `0..canvas` when it is moved by `r`, and
the place of that part. -/
structure AxisFit (canvas png : ℕ) (r : ℤ) (v₀ v₁ s : ℕ) : Prop where
  le : v₀ ≤ v₁
  le_png : v₁ ≤ png
  le_canvas : s + (v₁ - v₀) ≤ canvas
  mem_iff : ∀ x < png, (v₀ ≤ x ∧ x < v₁) ↔ 0 ≤ r + x ∧ r + x < canvas
  place : ∀ x, v₀ ≤ x → x < v₁ → (s : ℤ) + (x - v₀ : ℕ) = r + x

lemma axisFit (canvas png : ℕ) (r : ℤ) :
    AxisFit canvas png r (clampDots (-r) png) (clampDots (canvas - r) png)
      (clampDots r canvas) := by
  unfold clampDots
  refine ⟨?_, ?_, ?_, fun x hx => ?_, fun x h₀ h₁ => ?_⟩ <;> omega

/-- Along one axis: where a part of length `k` goes whose place as read is `s`. -/
def start (rotate180 : Bool) (canvas s k : ℕ) : ℕ := if rotate180 then canvas - s - k else s

/-- Along one axis: the rotated canvas shows a place of the part where the canvas as read does. -/
lemma mirror_mem (rotate180 : Bool) {canvas s k x : ℕ} (hfit : s + k ≤ canvas)
    (hx : x < canvas) :
    start rotate180 canvas s k ≤ mirror rotate180 canvas x ∧
        mirror rotate180 canvas x - start rotate180 canvas s k < k ↔ s ≤ x ∧ x - s < k := by
  unfold start mirror
  cases rotate180 with
  | false => simp
  | true =>
    simp only [if_true]
    omega

/-- Along one axis: rotating the canvas and rotating the part undo each other. -/
lemma mirror_mirror (rotate180 : Bool) {canvas s k x : ℕ} (hfit : s + k ≤ canvas) (hs : s ≤ x)
    (hk : x - s < k) :
    mirror rotate180 k (mirror rotate180 canvas x - start rotate180 canvas s k) = x - s := by
  unfold start mirror
  cases rotate180 with
  | false => simp
  | true =>
    simp only [if_true]
    omega

/-! ### Boxes -/

/-- A box holds the tightest box around some dots exactly when it holds the dots. -/
lemma Tight.contains_iff {dots : ℕ → ℕ → Prop} {ink visible : DotRect} (h : Tight dots ink) :
    visible.contains ink ↔ ∀ x y, dots x y → visible.Mem x y := by
  obtain ⟨hmem, ⟨yl, hl⟩, ⟨xt, ht⟩, ⟨xr, yr, hr, hr'⟩, ⟨xb, yb, hb, hb'⟩⟩ := h
  simp only [DotRect.contains, Bool.and_eq_true, decide_eq_true_eq]
  constructor
  · rintro ⟨⟨⟨h₁, h₂⟩, h₃⟩, h₄⟩ x y hd
    obtain ⟨⟨hx, hx'⟩, hy, hy'⟩ := hmem x y hd
    exact ⟨⟨by omega, by omega⟩, by omega, by omega⟩
  · intro hall
    have h₁ := (hall _ _ hl).1.1
    have h₂ := (hall _ _ ht).2.1
    have h₃ := (hall _ _ hr).1.2
    have h₄ := (hall _ _ hb).2.2
    exact ⟨⟨⟨h₁, h₂⟩, by omega⟩, by omega⟩

/-- Ink that sticks out of a box is a black dot outside it. -/
lemma inkBbox_any_iff (b : MonoBitmap) (visible : DotRect) :
    (b.inkBbox.any fun ink => !visible.contains ink) ↔
      ∃ x y, b.Shows x y ∧ ¬ visible.Mem x y := by
  have hbounds := b.inkBbox_bounds
  rcases hink : b.inkBbox with _ | ink
  · rw [hink] at hbounds
    simp only [Option.any_none, Bool.false_eq_true, false_iff]
    rintro ⟨x, y, hd, -⟩
    exact hbounds x y hd
  · rw [hink] at hbounds
    have hcontains : visible.contains ink ↔ _ := hbounds.contains_iff
    simp only [Option.any_some, Bool.not_eq_true', ← Bool.not_eq_true, hcontains, not_forall,
      exists_prop]

/-- A shifted box bounds the shifted dots. -/
lemma Bounds.shift {dots : ℕ → ℕ → Prop} {bbox : Option DotRect} (h : Bounds dots bbox)
    (sx sy : ℕ) : Bounds (fun x y => (sx ≤ x ∧ sy ≤ y) ∧ dots (x - sx) (y - sy))
      (bbox.map fun r => r.shift sx sy) := by
  rcases bbox with _ | r
  · rintro x y ⟨-, hd⟩
    exact h _ _ hd
  · obtain ⟨hmem, ⟨yl, hl⟩, ⟨xt, ht⟩, ⟨xr, yr, hr, hr'⟩, ⟨xb, yb, hb, hb'⟩⟩ := h
    have hshift : ∀ x y, dots x y → (sx ≤ x + sx ∧ sy ≤ y + sy) ∧
        dots (x + sx - sx) (y + sy - sy) := fun x y hd => by simpa using hd
    refine ⟨?_, ⟨_, hshift _ _ hl⟩, ⟨_, hshift _ _ ht⟩, ⟨_, _, hshift _ _ hr, ?_⟩,
      ⟨_, _, hshift _ _ hb, ?_⟩⟩
    · rintro x y ⟨⟨hx, hy⟩, hd⟩
      obtain ⟨⟨h₁, h₂⟩, h₃, h₄⟩ := hmem _ _ hd
      simp only [DotRect.Mem, DotRect.shift]
      omega
    · simp only [DotRect.shift]
      omega
    · simp only [DotRect.shift]
      omega

/-! ### The parts of the code -/

/-- What is shown of a bitmap: the dots of the visible rectangle. -/
lemma shown_spec (bitmap : MonoBitmap) {v : DotRect} (hx : v.x0 ≤ v.x1) (hy : v.y0 ≤ v.y1)
    (hw : v.x1 ≤ bitmap.width) (hh : v.y1 ≤ bitmap.height) :
    ∃ shown, (if v = bitmap.whole then some bitmap else bitmap.crop v) = some shown ∧
      shown.width = v.x1 - v.x0 ∧ shown.height = v.y1 - v.y0 ∧
      (bitmap.PaddingWhite → shown.PaddingWhite) ∧ ∀ x y, shown.Shows x y ↔
        (x < v.x1 - v.x0 ∧ y < v.y1 - v.y0) ∧ bitmap.Shows (v.x0 + x) (v.y0 + y) := by
  by_cases hwhole : v = bitmap.whole
  · refine ⟨bitmap, if_pos hwhole, ?_, ?_, id, fun x y => ?_⟩
    · simp [hwhole, MonoBitmap.whole]
    · simp [hwhole, MonoBitmap.whole]
    · simp only [hwhole, MonoBitmap.whole, zero_add, Nat.sub_zero]
      exact ⟨fun h => ⟨h.1, h⟩, And.right⟩
  · rw [if_neg hwhole]
    obtain ⟨shown, hcrop, hwidth, hheight, hpad, hshows⟩ := bitmap.crop_spec hx hy hw hh
    exact ⟨shown, hcrop, hwidth, hheight, fun _ => hpad, hshows⟩

/-- What is printed of what is shown. -/
lemma printed_spec (shown : MonoBitmap) (rotate180 : Bool) :
    ∃ printed, (if rotate180 then shown.rotated180 else some shown) = some printed ∧
      printed.width = shown.width ∧ printed.height = shown.height ∧
      (shown.PaddingWhite → printed.PaddingWhite) ∧ ∀ x y, printed.Shows x y ↔
        (x < shown.width ∧ y < shown.height) ∧
          shown.Shows (mirror rotate180 shown.width x) (mirror rotate180 shown.height y) := by
  cases rotate180 with
  | false => exact ⟨shown, rfl, rfl, rfl, id, fun x y => ⟨fun h => ⟨h.1, h⟩, And.right⟩⟩
  | true =>
    obtain ⟨printed, hrotate, hwidth, hheight, hpad, hshows⟩ := shown.rotated180_spec
    exact ⟨printed, hrotate, hwidth, hheight, fun _ => hpad, hshows⟩

/-! ### Placing -/

section Place

variable (bitmap : MonoBitmap) (geometry : LabelGeometry)

/-- The edges of the PNG on the canvas as read. -/
def edges : ℤ × ℤ :=
  (readingEdge geometry.rotate180 geometry.maxDots.1 bitmap.width geometry.xOffsetDots.toInt,
    readingEdge geometry.rotate180 geometry.maxDots.2 bitmap.height geometry.yOffsetDots.toInt)

/-- The dots of the PNG that land on the canvas. -/
def visible : DotRect :=
  ⟨clampDots (-(edges bitmap geometry).1) bitmap.width,
    clampDots (-(edges bitmap geometry).2) bitmap.height,
    clampDots (geometry.maxDots.1 - (edges bitmap geometry).1) bitmap.width,
    clampDots (geometry.maxDots.2 - (edges bitmap geometry).2) bitmap.height⟩

/-- Where the visible dots begin on the canvas as read. -/
def corner : ℕ × ℕ :=
  (clampDots (edges bitmap geometry).1 geometry.maxDots.1,
    clampDots (edges bitmap geometry).2 geometry.maxDots.2)

/-- The label of these parts. -/
def placed (shown printed : MonoBitmap) : PlacedLabel where
  layout :=
    { png := (bitmap.width, bitmap.height)
      canvas := geometry.maxDots
      rotate180 := geometry.rotate180
      bitmapAt :=
        (start geometry.rotate180 geometry.maxDots.1 (corner bitmap geometry).1 shown.width,
          start geometry.rotate180 geometry.maxDots.2 (corner bitmap geometry).2 shown.height)
      ink := shown.inkBbox.map fun i =>
        i.shift (corner bitmap geometry).1 (corner bitmap geometry).2
      inkCropped := visible bitmap geometry != bitmap.whole &&
        bitmap.inkBbox.any fun ink => !(visible bitmap geometry).contains ink }
  bitmap := printed

variable {bitmap geometry}

/-- With its parts there, and the shown one on the canvas, the label is placed. -/
lemma placeLabel_eq {shown printed : MonoBitmap}
    (hshown : (if visible bitmap geometry = bitmap.whole then some bitmap
      else bitmap.crop (visible bitmap geometry)) = some shown)
    (hprinted : (if geometry.rotate180 then shown.rotated180 else some shown) = some printed)
    (hw : (corner bitmap geometry).1 + shown.width ≤ geometry.maxDots.1)
    (hh : (corner bitmap geometry).2 + shown.height ≤ geometry.maxDots.2) :
    placeLabel bitmap geometry = some (placed bitmap geometry shown printed) := by
  have hat : (if geometry.rotate180 then
        printerCorner geometry.maxDots (corner bitmap geometry) shown
      else some (corner bitmap geometry)) =
      some (placed bitmap geometry shown printed).layout.bitmapAt := by
    rcases hturn : geometry.rotate180 with _ | _
    · simp [placed, hturn, start]
    · simp only [if_true, placed, hturn, printerCorner, start]
      rw [checkedSub_eq (by omega), checkedSub_eq (by omega)]
      simp only [Option.bind_eq_bind, Option.bind_some]
      rw [checkedSub_eq (by omega), checkedSub_eq (by omega)]
      rfl
  have h : placeLabel bitmap geometry =
    ((if visible bitmap geometry = bitmap.whole then some bitmap
      else bitmap.crop (visible bitmap geometry)).bind fun shown =>
    (if geometry.rotate180 then
        printerCorner geometry.maxDots (corner bitmap geometry) shown
      else some (corner bitmap geometry)).bind fun bitmapAt =>
    (if geometry.rotate180 then shown.rotated180 else some shown).bind fun printed =>
      some { placed bitmap geometry shown printed with
        layout := { (placed bitmap geometry shown printed).layout with bitmapAt := bitmapAt } }) :=
    rfl
  rw [h, hshown, Option.bind_some, hat, Option.bind_some, hprinted]
  rfl

/-- The black dots of the canvas as read are those of the shown part, from its corner on. -/
lemma placed_black {shown printed : MonoBitmap}
    (hw : (corner bitmap geometry).1 + shown.width ≤ geometry.maxDots.1)
    (hh : (corner bitmap geometry).2 + shown.height ≤ geometry.maxDots.2)
    (hprinted : ∀ x y, printed.Shows x y ↔ (x < shown.width ∧ y < shown.height) ∧
      shown.Shows (mirror geometry.rotate180 shown.width x)
        (mirror geometry.rotate180 shown.height y)) (x y : ℕ) :
    (placed bitmap geometry shown printed).BlackAsRead x y ↔
      ((corner bitmap geometry).1 ≤ x ∧ (corner bitmap geometry).2 ≤ y) ∧
        shown.Shows (x - (corner bitmap geometry).1) (y - (corner bitmap geometry).2) := by
  unfold PlacedLabel.BlackAsRead
  simp only [placed, hprinted]
  constructor
  · rintro ⟨⟨hx, hy⟩, ⟨hleft, htop⟩, ⟨hx', hy'⟩, hblack⟩
    obtain ⟨hsx, hkx⟩ := (mirror_mem geometry.rotate180 hw hx).mp ⟨hleft, hx'⟩
    obtain ⟨hsy, hky⟩ := (mirror_mem geometry.rotate180 hh hy).mp ⟨htop, hy'⟩
    rw [mirror_mirror _ hw hsx hkx, mirror_mirror _ hh hsy hky] at hblack
    exact ⟨⟨hsx, hsy⟩, hblack⟩
  · rintro ⟨⟨hsx, hsy⟩, hblack⟩
    obtain ⟨hkx, hky⟩ := hblack.1
    have hx : x < geometry.maxDots.1 := by omega
    have hy : y < geometry.maxDots.2 := by omega
    obtain ⟨hleft, hx'⟩ := (mirror_mem geometry.rotate180 hw hx).mpr ⟨hsx, hkx⟩
    obtain ⟨htop, hy'⟩ := (mirror_mem geometry.rotate180 hh hy).mpr ⟨hsy, hky⟩
    refine ⟨⟨hx, hy⟩, ⟨hleft, htop⟩, ⟨hx', hy'⟩, ?_⟩
    rw [mirror_mirror _ hw hsx hkx, mirror_mirror _ hh hsy hky]
    exact hblack

/-- Along both axes the visible part fits the canvas. -/
lemma visible_fits (bitmap : MonoBitmap) (geometry : LabelGeometry) :
    AxisFit geometry.maxDots.1 bitmap.width (edges bitmap geometry).1
        (visible bitmap geometry).x0 (visible bitmap geometry).x1 (corner bitmap geometry).1 ∧
      AxisFit geometry.maxDots.2 bitmap.height (edges bitmap geometry).2
        (visible bitmap geometry).y0 (visible bitmap geometry).y1 (corner bitmap geometry).2 :=
  ⟨axisFit _ _ _, axisFit _ _ _⟩

/-- A dot of the PNG lands on the canvas exactly when it is visible. -/
lemma onCanvas_iff (hw : bitmap.width ≤ geometry.maxDots.1)
    (hh : bitmap.height ≤ geometry.maxDots.2) {x y : ℕ} (hx : x < bitmap.width)
    (hy : y < bitmap.height) :
    OnCanvas geometry (landsAt bitmap geometry x y) ↔ (visible bitmap geometry).Mem x y := by
  obtain ⟨hax, hay⟩ := visible_fits bitmap geometry
  unfold OnCanvas landsAt DotRect.Mem
  rw [hax.mem_iff x hx, hay.mem_iff y hy, edges, readingEdge_eq hw, readingEdge_eq hh]

/-- Where a visible dot of the PNG lands, as numbers of the canvas. -/
lemma landsAt_eq (hw : bitmap.width ≤ geometry.maxDots.1)
    (hh : bitmap.height ≤ geometry.maxDots.2) {x y : ℕ} (hmem : (visible bitmap geometry).Mem x y) :
    landsAt bitmap geometry x y =
      (↑((corner bitmap geometry).1 + (x - (visible bitmap geometry).x0)),
        ↑((corner bitmap geometry).2 + (y - (visible bitmap geometry).y0))) := by
  obtain ⟨hax, hay⟩ := visible_fits bitmap geometry
  have hx := hax.place x hmem.1.1 hmem.1.2
  have hy := hay.place y hmem.2.1 hmem.2.2
  unfold landsAt
  rw [edges, readingEdge_eq hw] at hx
  rw [edges, readingEdge_eq hh] at hy
  push_cast
  rw [hx, hy]

/-- What is black of the canvas as read, where the shown part is the visible dots. -/
lemma black_iff {shown : MonoBitmap} (hw : bitmap.width ≤ geometry.maxDots.1)
    (hh : bitmap.height ≤ geometry.maxDots.2)
    (hshows : ∀ x y, shown.Shows x y ↔
      (x < (visible bitmap geometry).x1 - (visible bitmap geometry).x0 ∧
        y < (visible bitmap geometry).y1 - (visible bitmap geometry).y0) ∧
      bitmap.Shows ((visible bitmap geometry).x0 + x) ((visible bitmap geometry).y0 + y))
    (x y : ℕ) :
    ((corner bitmap geometry).1 ≤ x ∧ (corner bitmap geometry).2 ≤ y) ∧
        shown.Shows (x - (corner bitmap geometry).1) (y - (corner bitmap geometry).2) ↔
      OnCanvas geometry (x, y) ∧
        ∃ x' y', bitmap.Shows x' y' ∧ landsAt bitmap geometry x' y' = (↑x, ↑y) := by
  rw [hshows]
  constructor
  · rintro ⟨⟨hsx, hsy⟩, ⟨hx, hy⟩, hblack⟩
    have hmem : (visible bitmap geometry).Mem
        ((visible bitmap geometry).x0 + (x - (corner bitmap geometry).1))
        ((visible bitmap geometry).y0 + (y - (corner bitmap geometry).2)) :=
      ⟨⟨by omega, by omega⟩, by omega, by omega⟩
    have hlands := landsAt_eq hw hh hmem
    rw [Nat.add_sub_cancel_left, Nat.add_sub_cancel_left, Nat.add_sub_cancel' hsx,
      Nat.add_sub_cancel' hsy] at hlands
    refine ⟨?_, _, _, hblack, hlands⟩
    rw [← hlands]
    exact (onCanvas_iff hw hh hblack.1.1 hblack.1.2).mpr hmem
  · rintro ⟨hon, x', y', hblack, hlands⟩
    rw [← hlands, onCanvas_iff hw hh hblack.1.1 hblack.1.2] at hon
    obtain ⟨⟨hx₀, hx₁⟩, hy₀, hy₁⟩ := hon
    rw [landsAt_eq hw hh ⟨⟨hx₀, hx₁⟩, hy₀, hy₁⟩, Prod.mk.injEq, Nat.cast_inj,
      Nat.cast_inj] at hlands
    obtain ⟨rfl, rfl⟩ := hlands
    rw [Nat.add_sub_cancel_left, Nat.add_sub_cancel_left, Nat.add_sub_cancel' hx₀,
      Nat.add_sub_cancel' hy₀]
    exact ⟨⟨Nat.le_add_right _ _, Nat.le_add_right _ _⟩, ⟨by omega, by omega⟩, hblack⟩

/-- Ink is cropped exactly when a black dot of the PNG is not visible. -/
lemma inkCropped_iff (shown printed : MonoBitmap) :
    (placed bitmap geometry shown printed).layout.inkCropped ↔
      ∃ x y, bitmap.Shows x y ∧ ¬ (visible bitmap geometry).Mem x y := by
  have hany := inkBbox_any_iff bitmap (visible bitmap geometry)
  simp only [placed, Bool.and_eq_true, bne_iff_ne, ne_eq]
  rw [hany, and_iff_right_iff_imp]
  rintro ⟨x, y, hblack, hmem⟩ hwhole
  rw [hwhole] at hmem
  exact hmem ⟨⟨Nat.zero_le _, hblack.1.1⟩, Nat.zero_le _, hblack.1.2⟩

/-- A bitmap that fits the canvas is placed dot by dot; nothing underflows on the way. -/
theorem place_label_exact (bitmap : MonoBitmap) (geometry : LabelGeometry)
    (hw : bitmap.width ≤ geometry.maxDots.1) (hh : bitmap.height ≤ geometry.maxDots.2) :
    ∃ p, placeLabel bitmap geometry = some p ∧ DotExact bitmap geometry p := by
  obtain ⟨hax, hay⟩ := visible_fits bitmap geometry
  obtain ⟨shown, hshown, hwidth, hheight, hpad, hshows⟩ :=
    shown_spec bitmap hax.le hay.le hax.le_png hay.le_png
  obtain ⟨printed, hprinted, hpwidth, hpheight, hppad, hpshows⟩ :=
    printed_spec shown geometry.rotate180
  have hfitx : (corner bitmap geometry).1 + shown.width ≤ geometry.maxDots.1 := by
    rw [hwidth]
    exact hax.le_canvas
  have hfity : (corner bitmap geometry).2 + shown.height ≤ geometry.maxDots.2 := by
    rw [hheight]
    exact hay.le_canvas
  have hblack := placed_black hfitx hfity hpshows
  refine ⟨_, placeLabel_eq hshown hprinted hfitx hfity, rfl, rfl, ?_, ?_, hppad ∘ hpad, ?_, ?_⟩
  · exact fun x y => (hblack x y).trans (black_iff hw hh hshows x y)
  · simp only [placed, hpwidth, hpheight, start]
    cases geometry.rotate180 with
    | false => exact ⟨hfitx, hfity⟩
    | true =>
      simp only [if_true]
      omega
  · have hink := shown.inkBbox_bounds.shift (corner bitmap geometry).1 (corner bitmap geometry).2
    rw [← funext₂ fun x y => propext (hblack x y)] at hink
    exact hink
  · rw [inkCropped_iff]
    refine exists_congr fun x => exists_congr fun y => and_congr_right fun hd => not_congr ?_
    exact (onCanvas_iff hw hh hd.1.1 hd.1.2).symm

end Place

/-- A label of one black dot. -/
def oneDot : MonoBitmap := (MonoBitmap.blank 1 1).setBlack 0 0

/-- A roll of two by one dots, rotated, with the label moved to the left. -/
def smallRoll : LabelGeometry where
  widthMm := ⟨1 / 4, "0.25", by decide⟩
  heightMm := ⟨1 / 8, "0.125", by decide⟩
  dpi := 203
  rotate180 := true
  xOffsetDots := -1
  yOffsetDots := 0

/-- A label of three by two dots, three of them black. -/
def threeDots : MonoBitmap :=
  (((MonoBitmap.blank 3 2).setBlack 0 0).setBlack 2 0).setBlack 1 1

/-- A roll of five by three dots, rotated, on which the left column of that label falls off. -/
def narrowRoll : LabelGeometry where
  widthMm := ⟨5 / 8, "0.625", by decide⟩
  heightMm := ⟨3 / 8, "0.375", by decide⟩
  dpi := 203
  rotate180 := true
  xOffsetDots := -2
  yOffsetDots := 0

theorem three_dots_placed : ∃ p, placeLabel threeDots narrowRoll = some p ∧
    p.layout.inkCropped = true ∧ p.layout.ink = some ⟨0, 1, 2, 3⟩ ∧
      DotExact threeDots narrowRoll p := by
  obtain ⟨p, hp, hexact⟩ :=
    place_label_exact threeDots narrowRoll (by decide +kernel) (by decide +kernel)
  have hlayout : (placeLabel threeDots narrowRoll).map (fun p => (p.layout.inkCropped,
      p.layout.ink)) = some (true, some ⟨0, 1, 2, 3⟩) := by
    decide +kernel
  rw [hp, Option.map_some, Option.some_inj, Prod.mk.injEq] at hlayout
  exact ⟨p, hp, hlayout.1, hlayout.2, hexact⟩

end Labels

end DevBridge

import DevBridge.Json
import DevBridge.Lib.Scan
import DevBridge.Labels.Layout
import DevBridge.Labels.Verdicts
import DevBridge.Text

/-!
# Label documents

A batch of labels becomes one TSPL document: a header, and for every label a command that
clears the image buffer, one that fills it with the bitmap (as raw bytes, whatever they are),
and one that prints copies of it.  A reader that takes the bytes of a bitmap by the count its
command announces recovers what was printed; the quantity that Odoo is told afterwards comes
from another copy of the same number.
-/

namespace DevBridge

namespace Labels

open Scan

/-! ### The code -/

/-- Document header. -/
def documentHeader (geometry : LabelGeometry) : List UInt8 :=
  utf8 ("SIZE " ++ geometry.widthMm.text ++ " mm, " ++ geometry.heightMm.text ++
    " mm\r\nDIRECTION 0,0\r\nREFERENCE 0,0\r\nOFFSET 0 mm\r\nSET TEAR ON\r\n")

/-- One label; an empty bitmap sends no `BITMAP`. -/
def labelCommands (bitmap : MonoBitmap) (bitmapAt : ℕ × ℕ) (copies : ℕ) : List UInt8 :=
  let (x, y) := bitmapAt
  let (widthBytes, height) := (bitmap.widthBytes, bitmap.height)
  utf8 "CLS\r\n" ++
    (if 0 < bitmap.width ∧ 0 < bitmap.height then
      utf8 s!"BITMAP {x},{y},{widthBytes},{height},0," ++ bitmap.data ++ utf8 "\r\n"
    else []) ++
    utf8 s!"PRINT 1,{copies}\r\n"

/-- The whole batch as one document. -/
def buildDocument (geometry : LabelGeometry) (labels : List (PlacedLabel × ℕ)) : List UInt8 :=
  documentHeader geometry ++ labels.flatMap fun (label, copies) =>
    labelCommands label.bitmap label.layout.bitmapAt copies

/-- `f as i64` of a whole number. -/
def asI64Saturating (f : ℚ) : ℤ := max (-2 ^ 63) (min f.floor (2 ^ 63 - 1))

/-- `de_qty`: a whole number, or nothing. -/
def deQty (v : Json) : Option ℤ :=
  match v with
  | .num n =>
    match n.asI64 with
    | some i => some i
    | none => if n.asF64.den = 1 then some (asI64Saturating n.asF64) else none
  | _ => none

/-- The copies that a document asks for: `u32::try_from(qty)`, or the largest `u32`. -/
def copiesOf (qty : ℤ) : ℕ :=
  if 0 ≤ qty ∧ qty < 2 ^ 32 then qty.toNat else 2 ^ 32 - 1

/-- A sum of `i64`; there is none where it overflows. -/
def sumI64 : ℤ → List ℤ → Option ℤ
  | sum, [] => some sum
  | sum, q :: qs =>
    if -2 ^ 63 ≤ sum + q ∧ sum + q < 2 ^ 63 then sumI64 (sum + q) qs else none

section Encoder

variable {Size : Type} (geometryFor : Size → Except String LabelGeometry)
  (decodePng : String → ℕ × ℕ → Except String MonoBitmap)

/-- `decode_label`; the decoding of base64 and of the PNG, which refuses what does not fit the
canvas, is given. -/
def decodeLabel (png : String) (geometry : LabelGeometry) : Except String PlacedLabel :=
  if isBlank png then .error "empty png"
  else do
    let bitmap ← decodePng (trim png) geometry.maxDots
    match placeLabel bitmap geometry with
    | some label => .ok label
    -- an underflow, which no bitmap that fits comes to
    | none => .error ""

/-- The labels of this printer. -/
def tspl : Encoder where
  Size := Size
  Geometry := LabelGeometry
  Label := PlacedLabel
  geometryFor := geometryFor
  decodeLabel := decodeLabel decodePng

variable {geometryFor decodePng}

/-- The document of `print_batch`. -/
def documentOf (geometry : LabelGeometry)
    (lines : List (PrintableLine (tspl geometryFor decodePng))) : List UInt8 :=
  buildDocument geometry (lines.map fun l => (l.label, copiesOf l.qty))

/-- The copies that `print_batch` logs. -/
def copiesSum (lines : List (PrintableLine (tspl geometryFor decodePng))) : Option ℤ :=
  sumI64 0 (lines.map PrintableLine.qty)

end Encoder

/-! ### A reader of documents -/

/-- A bitmap in the image buffer. -/
structure Image where
  x : ℕ
  y : ℕ
  widthBytes : ℕ
  height : ℕ
  data : List UInt8
  length_data : data.length = widthBytes * height
deriving DecidableEq

/-- The commands of a document, as far as they matter to what is printed. -/
inductive Command where
  | cls
  | bitmap (image : Image)
  | print (copies : ℕ)
  | setting (text : List UInt8)
deriving DecidableEq

/-- The end of a line. -/
def lineEnd : List UInt8 := [13, 10]

/-- What follows `BITMAP`: four numbers, the mode, and as many bytes as the numbers say. -/
def readBitmap (input : List UInt8) : Option (Image × List UInt8) := do
  let (x, input) ← number input
  let (y, input) ← number (← consume (utf8 ",") input)
  let (widthBytes, input) ← number (← consume (utf8 ",") input)
  let (height, input) ← number (← consume (utf8 ",") input)
  let input ← consume (utf8 ",0,") input
  if h : widthBytes * height ≤ input.length then
    let rest ← consume lineEnd (input.drop (widthBytes * height))
    return (⟨x, y, widthBytes, height, input.take (widthBytes * height),
      List.length_take_of_le h⟩, rest)
  else none

/-- One command.  Only that of a bitmap is not a line. -/
def readCommand (input : List UInt8) : Option (Command × List UInt8) :=
  match consume (utf8 "BITMAP ") input with
  | some input => (readBitmap input).map fun (image, rest) => (.bitmap image, rest)
  | none =>
    match consume (utf8 "PRINT 1,") input with
    | some input => do
      let (copies, input) ← number input
      return (.print copies, ← consume lineEnd input)
    | none => (line input).map fun (text, rest) =>
      (if text = utf8 "CLS" then .cls else .setting text, rest)

/-- All commands; each takes at least one byte. -/
def readCommands : ℕ → List UInt8 → Option (List Command)
  | _, [] => some []
  | 0, _ => none
  | fuel + 1, input => do
    let (command, rest) ← readCommand input
    return command :: (← readCommands fuel rest)

/-- A printed label: what is in the image buffer, and how often it is printed. -/
structure Printout where
  image : Option Image
  copies : ℤ
deriving DecidableEq

/-- What the commands print, from an image buffer on. -/
def printouts : Option Image → List Command → List Printout
  | _, [] => []
  | _, .cls :: commands => printouts none commands
  | _, .bitmap image :: commands => printouts (some image) commands
  | buffer, .print copies :: commands => ⟨buffer, copies⟩ :: printouts buffer commands
  | buffer, .setting _ :: commands => printouts buffer commands

/-- What a document prints. -/
def readDocument (document : List UInt8) : Option (List Printout) :=
  (readCommands document.length document).map (printouts none)

/-- What of a label prints: nothing if its bitmap is empty. -/
def PlacedLabel.image (label : PlacedLabel) : Option Image :=
  if 0 < label.bitmap.width ∧ 0 < label.bitmap.height then
    some ⟨label.layout.bitmapAt.1, label.layout.bitmapAt.2, label.bitmap.widthBytes,
      label.bitmap.height, label.bitmap.data, label.bitmap.length_data⟩
  else none

/-- A batch of lines is printed as it is: the document reads as its labels, each as often as its
line says; the ledger, from which the acks are sent, has the same number; and the sum of the
copies is a number. -/
structure DocumentExact {Size : Type} {geometryFor : Size → Except String LabelGeometry}
    {decodePng : String → ℕ × ℕ → Except String MonoBitmap} (geometry : LabelGeometry)
    (lines : List (PrintableLine (tspl geometryFor decodePng))) : Prop where
  document : readDocument (documentOf geometry lines) =
    some (lines.map fun l => ⟨PlacedLabel.image l.label, l.qty⟩)
  acked : ∀ (secs : ℕ) (batchId : ℤ) (script : List (Turn (tspl geometryFor decodePng)))
    (w w' : LabelWorld (tspl geometryFor decodePng)),
    (printBatch secs ⟨batchId, lines, geometry⟩).exec script w = (.ok (), w') →
    ∀ l ∈ lines, ∃ r, w'.ledger.get? l.lineId = some r ∧
      (r.error = none → r.printedQty = copiesOf l.qty)
  sum : (copiesSum lines).isSome

/-! ### Reading what was written -/

/-- A number as bytes. -/
lemma utf8_toString (n : ℕ) : utf8 (toString n) = decimal n := by
  have htoList : (toString n).toList = Nat.toDigits 10 n := by
    rw [Nat.toString_eq_ofList_toDigits, String.toList_ofList]
  rw [utf8_of_ascii, htoList]
  · rfl
  · intro c hc
    rw [htoList] at hc
    have := Nat.isDigit_of_mem_toDigits (by omega) (by omega) hc
    simp only [Char.isDigit, Bool.and_eq_true, decide_eq_true_eq, UInt32.le_iff_toNat_le] at this
    exact lt_of_le_of_lt this.2 (by decide)

lemma utf8_bitmap (x y widthBytes height : ℕ) :
    utf8 s!"BITMAP {x},{y},{widthBytes},{height},0," =
      utf8 "BITMAP " ++ (decimal x ++ (utf8 "," ++ (decimal y ++ (utf8 "," ++
        (decimal widthBytes ++ (utf8 "," ++ (decimal height ++ utf8 ",0,"))))))) := by
  change utf8 ("BITMAP " ++ toString x ++ "," ++ toString y ++ "," ++ toString widthBytes ++ "," ++
    toString height ++ ",0,") = _
  simp only [utf8_append, utf8_toString, List.append_assoc]

lemma utf8_print (copies : ℕ) :
    utf8 s!"PRINT 1,{copies}\r\n" = utf8 "PRINT 1," ++ (decimal copies ++ lineEnd) := by
  change utf8 ("PRINT 1," ++ toString copies ++ "\r\n") = _
  rw [utf8_append, utf8_append, utf8_toString, List.append_assoc]
  rfl

/-- A number is read up to the comma behind it. -/
lemma number_comma (n : ℕ) (rest : List UInt8) :
    number (decimal n ++ (utf8 "," ++ rest)) = some (n, utf8 "," ++ rest) :=
  number_decimal n 44 rfl rest

/-- The command of a bitmap takes its bytes by their count, whatever they are. -/
lemma readCommand_bitmap (image : Image) (rest : List UInt8) :
    readCommand (utf8 s!"BITMAP {image.x},{image.y},{image.widthBytes},{image.height},0," ++
      image.data ++ utf8 "\r\n" ++ rest) = some (.bitmap image, rest) := by
  have hread : readBitmap (decimal image.x ++ (utf8 "," ++ (decimal image.y ++ (utf8 "," ++
      (decimal image.widthBytes ++ (utf8 "," ++ (decimal image.height ++ (utf8 ",0," ++
        (image.data ++ (lineEnd ++ rest)))))))))) = some (image, rest) := by
    have hheight : number (decimal image.height ++ (utf8 ",0," ++
        (image.data ++ (lineEnd ++ rest)))) =
        some (image.height, utf8 ",0," ++ (image.data ++ (lineEnd ++ rest))) :=
      number_decimal image.height 44 rfl _
    have hsize : image.data.length ≤ (image.data ++ (lineEnd ++ rest)).length := by
      rw [List.length_append]
      omega
    unfold readBitmap
    simp only [number_comma, hheight, consume_append, Option.bind_eq_bind, Option.bind_some,
      ← image.length_data, List.drop_left, List.take_left]
    exact dif_pos hsize
  rw [utf8_bitmap]
  simp only [List.append_assoc]
  unfold readCommand
  rw [consume_append]
  exact congrArg (Option.map _) hread

lemma readCommand_print (copies : ℕ) (rest : List UInt8) :
    readCommand (utf8 s!"PRINT 1,{copies}\r\n" ++ rest) = some (.print copies, rest) := by
  have hnumber : number (decimal copies ++ (lineEnd ++ rest)) = some (copies, lineEnd ++ rest) :=
    number_decimal copies 13 rfl _
  have hother : consume (utf8 "BITMAP ") (utf8 "PRINT 1," ++ (decimal copies ++
      (lineEnd ++ rest))) = none := rfl
  rw [utf8_print]
  simp only [List.append_assoc]
  unfold readCommand
  rw [hother, consume_append]
  simp only [hnumber, Option.bind_eq_bind, Option.bind_some, consume_append]
  rfl

/-- A line that is no other command is read as a setting, or clears the image buffer. -/
lemma readCommand_line {text : List UInt8} (htext : 13 ∉ text)
    (hbitmap : ∀ rest, consume (utf8 "BITMAP ") (text ++ rest) = none)
    (hprint : ∀ rest, consume (utf8 "PRINT 1,") (text ++ rest) = none) (rest : List UInt8) :
    readCommand (text ++ lineEnd ++ rest) =
      some (if text = utf8 "CLS" then .cls else .setting text, rest) := by
  rw [List.append_assoc]
  unfold readCommand
  rw [hbitmap, hprint]
  exact congrArg (Option.map _) (line_append htext rest)

/-! ### Whole documents -/

/-- A command with its bytes, which are read as that command. -/
structure Written where
  bytes : List UInt8
  command : Command
  nonempty : bytes ≠ []
  read : ∀ rest, readCommand (bytes ++ rest) = some (command, rest)

lemma length_le_bytes (ws : List Written) : ws.length ≤ (ws.flatMap Written.bytes).length := by
  induction ws with
  | nil => simp
  | cons w ws ih =>
    have := List.length_pos_of_ne_nil w.nonempty
    simp only [List.length_cons, List.flatMap_cons, List.length_append]
    omega

/-- Written commands are read one by one. -/
lemma readCommands_written (ws : List Written) {fuel : ℕ} (hfuel : ws.length ≤ fuel) :
    readCommands fuel (ws.flatMap Written.bytes) = some (ws.map Written.command) := by
  induction ws generalizing fuel with
  | nil => cases fuel <;> rfl
  | cons w ws ih =>
    rw [List.length_cons] at hfuel
    obtain ⟨fuel, rfl⟩ : ∃ f, fuel = f + 1 := ⟨fuel - 1, by omega⟩
    have hne : w.bytes ++ ws.flatMap Written.bytes ≠ [] := by simp [w.nonempty]
    rw [List.flatMap_cons, readCommands, w.read, Option.bind_eq_bind, Option.bind_some]
    · change (readCommands fuel _ >>= _) = _
      rw [ih (by omega)]
      rfl
    · exact hne

/-- A line of the header. -/
def settingLine (text : List UInt8) (htext : 13 ∉ text) (hcls : text ≠ utf8 "CLS")
    (hbitmap : ∀ rest, consume (utf8 "BITMAP ") (text ++ rest) = none)
    (hprint : ∀ rest, consume (utf8 "PRINT 1,") (text ++ rest) = none) : Written where
  bytes := text ++ lineEnd
  command := .setting text
  nonempty := by simp [lineEnd]
  read rest := by rw [readCommand_line htext hbitmap hprint, if_neg hcls]

/-- The text of the first line of the header. -/
def sizeText (geometry : LabelGeometry) : List UInt8 :=
  utf8 "SIZE " ++ (utf8 geometry.widthMm.text ++ (utf8 " mm, " ++
    (utf8 geometry.heightMm.text ++ utf8 " mm")))

lemma sizeText_oneLine (geometry : LabelGeometry) : 13 ∉ sizeText geometry := by
  have h₁ : 13 ∉ utf8 "SIZE " := by decide
  have h₂ : 13 ∉ utf8 " mm, " := by decide
  have h₃ : 13 ∉ utf8 " mm" := by decide
  simp only [sizeText, List.mem_append, not_or]
  exact ⟨h₁, geometry.widthMm.oneLine, h₂, geometry.heightMm.oneLine, h₃⟩

def headerWritten (geometry : LabelGeometry) : List Written :=
  [settingLine (sizeText geometry) (sizeText_oneLine geometry) nofun (fun _ => rfl) fun _ => rfl,
    settingLine (utf8 "DIRECTION 0,0") (by decide) (by decide) (fun _ => rfl) fun _ => rfl,
    settingLine (utf8 "REFERENCE 0,0") (by decide) (by decide) (fun _ => rfl) fun _ => rfl,
    settingLine (utf8 "OFFSET 0 mm") (by decide) (by decide) (fun _ => rfl) fun _ => rfl,
    settingLine (utf8 "SET TEAR ON") (by decide) (by decide) (fun _ => rfl) fun _ => rfl]

lemma documentHeader_eq (geometry : LabelGeometry) :
    documentHeader geometry = (headerWritten geometry).flatMap Written.bytes := by
  have hrest : utf8 " mm\r\nDIRECTION 0,0\r\nREFERENCE 0,0\r\nOFFSET 0 mm\r\nSET TEAR ON\r\n" =
      utf8 " mm" ++ (lineEnd ++ (utf8 "DIRECTION 0,0" ++ lineEnd ++ (utf8 "REFERENCE 0,0" ++
        lineEnd ++ (utf8 "OFFSET 0 mm" ++ lineEnd ++ (utf8 "SET TEAR ON" ++ lineEnd))))) := by
    decide
  unfold documentHeader headerWritten
  simp only [utf8_append, hrest, settingLine, sizeText, List.flatMap_cons, List.flatMap_nil,
    List.append_assoc, List.append_nil]

/-- Settings print nothing. -/
lemma printouts_header (geometry : LabelGeometry) (commands : List Command) :
    printouts none ((headerWritten geometry).map Written.command ++ commands) =
      printouts none commands := rfl

/-- The commands of a label. -/
def labelWritten (label : PlacedLabel) (copies : ℕ) : List Written :=
  { bytes := utf8 "CLS\r\n"
    command := .cls
    nonempty := by decide
    read := fun rest => readCommand_line (show 13 ∉ utf8 "CLS" by decide) (fun _ => rfl)
      (fun _ => rfl) rest } ::
  (match label.image with
    | some image => [{
        bytes := utf8 s!"BITMAP {image.x},{image.y},{image.widthBytes},{image.height},0," ++
          image.data ++ utf8 "\r\n"
        command := .bitmap image
        nonempty := by
          rw [utf8_bitmap]
          nofun
        read := readCommand_bitmap image }]
    | none => []) ++
  [{  bytes := utf8 s!"PRINT 1,{copies}\r\n"
      command := .print copies
      nonempty := by
        rw [utf8_print]
        nofun
      read := readCommand_print copies }]

lemma labelCommands_eq (label : PlacedLabel) (copies : ℕ) :
    labelCommands label.bitmap label.layout.bitmapAt copies =
      (labelWritten label copies).flatMap Written.bytes := by
  unfold labelCommands labelWritten PlacedLabel.image
  by_cases hsize : 0 < label.bitmap.width ∧ 0 < label.bitmap.height
  · simp only [if_pos hsize, List.flatMap_cons, List.flatMap_nil, List.append_assoc,
      List.append_nil, List.cons_append, List.nil_append]
  · simp only [if_neg hsize, List.flatMap_cons, List.flatMap_nil, List.append_assoc,
      List.append_nil, List.cons_append, List.nil_append]

/-- A label prints what it shows, whatever was in the image buffer. -/
lemma printouts_label (label : PlacedLabel) (copies : ℕ) (buffer : Option Image)
    (commands : List Command) :
    printouts buffer ((labelWritten label copies).map Written.command ++ commands) =
      ⟨label.image, copies⟩ :: printouts label.image commands := by
  unfold labelWritten
  rcases label.image with _ | image <;> rfl

lemma printouts_labels (labels : List (PlacedLabel × ℕ)) (buffer : Option Image) :
    printouts buffer ((labels.flatMap fun (label, copies) =>
      labelWritten label copies).map Written.command) =
      labels.map fun (label, copies) => ⟨label.image, copies⟩ := by
  induction labels generalizing buffer with
  | nil => rfl
  | cons l labels ih =>
    rw [List.flatMap_cons, List.map_append, printouts_label, ih]
    rfl

/-- A document reads as its labels, in their order. -/
lemma readDocument_buildDocument (geometry : LabelGeometry) (labels : List (PlacedLabel × ℕ)) :
    readDocument (buildDocument geometry labels) =
      some (labels.map fun (label, copies) => ⟨label.image, copies⟩) := by
  have hbytes : buildDocument geometry labels = (headerWritten geometry ++
      labels.flatMap fun (label, copies) => labelWritten label copies).flatMap Written.bytes := by
    unfold buildDocument
    rw [documentHeader_eq, List.flatMap_append, List.flatMap_assoc]
    congr 2
    exact funext fun (label, copies) => labelCommands_eq label copies
  unfold readDocument
  rw [hbytes, readCommands_written _ (length_le_bytes _), Option.map_some, List.map_append,
    printouts_header, printouts_labels]

/-! ### Quantities -/

/-- A quantity is passed on as it is exactly if it fits 32 bits. -/
lemma copiesOf_eq_iff {qty : ℤ} (h : 0 < qty) : (copiesOf qty : ℤ) = qty ↔ qty < 2 ^ 32 := by
  unfold copiesOf
  split <;> omega

/-- Whatever `print_qty` is, what is read of it is an `i64`. -/
lemma deQty_range {v : Json} {qty : ℤ} (h : deQty v = some qty) :
    -2 ^ 63 ≤ qty ∧ qty < 2 ^ 63 := by
  unfold deQty at h
  split at h
  · rename_i n
    rcases n with i | ⟨value, text⟩
    · simp only [Number.asI64] at h
      split at h
      · rename_i hi
        split at hi
        · cases h
          cases hi
          assumption
        · cases hi
      · split at h
        · cases h
          unfold asI64Saturating
          omega
        · cases h
    · simp only [Number.asI64] at h
      split at h
      · cases h
        unfold asI64Saturating
        omega
      · cases h
  · cases h

/-- The sum of positive numbers overflows exactly if it does not fit. -/
lemma sumI64_isSome (qs : List ℤ) (hqs : ∀ q ∈ qs, 0 < q) {sum : ℤ} (h₀ : 0 ≤ sum)
    (h : sum < 2 ^ 63) : (sumI64 sum qs).isSome ↔ sum + qs.sum < 2 ^ 63 := by
  induction qs generalizing sum with
  | nil => simpa [sumI64] using h
  | cons q qs ih =>
    have hq := hqs q List.mem_cons_self
    have hqs' : ∀ q ∈ qs, 0 < q := fun q hq => hqs q (List.mem_cons_of_mem _ hq)
    have hnonneg : 0 ≤ qs.sum := List.sum_nonneg fun q hq => (hqs' q hq).le
    rw [sumI64, List.sum_cons]
    split
    · rw [ih hqs' (by omega) (by omega), add_assoc]
    · simp only [Option.isSome_none, Bool.false_eq_true, false_iff]
      omega

section Batch

variable {Size : Type} {geometryFor : Size → Except String LabelGeometry}
  {decodePng : String → ℕ × ℕ → Except String MonoBitmap} {geometry : LabelGeometry}
  {lines : List (PrintableLine (tspl geometryFor decodePng))}

lemma readDocument_documentOf :
    readDocument (documentOf geometry lines) =
      some (lines.map fun l => ⟨PlacedLabel.image l.label, copiesOf l.qty⟩) := by
  rw [documentOf, readDocument_buildDocument, List.map_map]
  rfl

/-- A line that the ledger has no error for was printed as often as the ledger says. -/
lemma printBatch_quantities (hsmall : ∀ l ∈ lines, (copiesOf l.qty : ℤ) = l.qty) {secs : ℕ}
    {batchId : ℤ} {script : List (Turn (tspl geometryFor decodePng))}
    {w w' : LabelWorld (tspl geometryFor decodePng)}
    (h : (printBatch secs ⟨batchId, lines, geometry⟩).exec script w = (.ok (), w')) :
    ∀ l ∈ lines, ∃ r, w'.ledger.get? l.lineId = some r ∧
      (r.error = none → r.printedQty = copiesOf l.qty) := by
  have hdecides : (printBatch secs ⟨batchId, lines, geometry⟩).Ensures _ _ w :=
    printBatch_decides _
  have hend := hdecides.exec script
  rw [h] at hend
  obtain ⟨failure, t, hprinted⟩ := hend
  intro l hl
  obtain ⟨r, hr, -, hqty, herror⟩ := hprinted.told l hl
  refine ⟨r, hr, fun hnone => ?_⟩
  have hfailure : failure = none := by
    rw [herror, Option.map_eq_none_iff] at hnone
    exact hnone
  rw [hqty, if_pos hfailure, hsmall l hl]

/-- A batch is printed as it is exactly if every quantity fits 32 bits and their sum 64. -/
lemma documentExact_iff (hqty : ∀ l ∈ lines, 0 < l.qty) :
    DocumentExact geometry lines ↔
      (∀ l ∈ lines, l.qty < 2 ^ 32) ∧ (lines.map PrintableLine.qty).sum < 2 ^ 63 := by
  have hcopies : (∀ l ∈ lines, (copiesOf l.qty : ℤ) = l.qty) ↔ ∀ l ∈ lines, l.qty < 2 ^ 32 :=
    forall₂_congr fun l hl => copiesOf_eq_iff (hqty l hl)
  have hsum : (copiesSum lines).isSome ↔ (lines.map PrintableLine.qty).sum < 2 ^ 63 := by
    rw [copiesSum, sumI64_isSome _ ?_ le_rfl (by omega), zero_add]
    rintro q hq
    obtain ⟨l, hl, rfl⟩ := List.mem_map.mp hq
    exact hqty l hl
  rw [← hcopies, ← hsum]
  constructor
  · rintro ⟨hdocument, -, hsome⟩
    refine ⟨fun l hl => ?_, hsome⟩
    rw [readDocument_documentOf, Option.some.injEq, List.map_inj_left] at hdocument
    exact congrArg Printout.copies (hdocument l hl)
  · rintro ⟨hsmall, hsome⟩
    refine ⟨?_, fun _ _ _ _ _ => printBatch_quantities hsmall, hsome⟩
    rw [readDocument_documentOf, Option.some.injEq, List.map_inj_left]
    exact fun l hl => by rw [hsmall l hl]

/-- Labels, quantities and acks agree exactly where the quantities fit the document. -/
theorem label_document_exact (hqty : ∀ l ∈ lines, 0 < l.qty) :
    DocumentExact geometry lines ↔
      (∀ l ∈ lines, l.qty < 2 ^ 32) ∧ (lines.map PrintableLine.qty).sum < 2 ^ 63 :=
  documentExact_iff hqty

end Batch

/-- A printer whose roll is always the small one and whose labels are one dot. -/
abbrev dotPrinter : Encoder :=
  tspl (fun _ : Unit => .ok smallRoll) fun _ _ => .ok oneDot

/-- A line of so many one-dot labels. -/
def dotLine (lineId qty : ℤ) : PrintableLine dotPrinter where
  lineId := lineId
  qty := qty
  label := ⟨oneDot, ⟨(1, 1), (2, 1), true, (1, 0), some ⟨0, 0, 1, 1⟩, false⟩⟩

theorem label_document_exact_forty : DocumentExact smallRoll [dotLine 1 40, dotLine 2 1] :=
  (label_document_exact (by decide)).mpr ⟨by decide, by decide⟩

/-- 2³² labels are acked, of which the document prints one less. -/
theorem quantity_saturates : deQty (.num (.int 4294967296)) = some 4294967296 ∧
    ¬ DocumentExact smallRoll [dotLine 1 4294967296] := by
  refine ⟨by decide, fun h => ?_⟩
  have hsmall := ((documentExact_iff (by decide)).mp h).1 _ List.mem_cons_self
  exact absurd hsmall (by decide)

end Labels

end DevBridge

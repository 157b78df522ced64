import DevBridge.Lib.Chunks
import DevBridge.Portos.PrintText

/-!
# The slips of a terminal

A terminal hands over the text of a slip.  The client makes it lines for the receipt printer:
control and format characters become blanks, wide lines wrap, blanks at the end of a line and
blank lines at the end go, and no more lines are sent than the printer takes.  The lines then
pass the check of a printed text, which has a table of format characters of its own.
-/

namespace DevBridge

namespace Tim

/-- The widest slip line. -/
def SLIP_WIDTH : ℕ := 40

/-- The most lines of one slip. -/
def SLIP_MAX_LINES : ℕ := 80

def CARDHOLDER_SLIP_TITLE : String := "Platba kartou - doklad zakaznika"
def MERCHANT_SLIP_TITLE : String := "Platba kartou - doklad obchodnika"
def COPY_SLIP_TITLE : String := "Platba kartou - kopia dokladu"

/-! ### The code -/

/-- The `is_format` of the slips. -/
def isSlipFormat (c : Char) : Bool :=
  let n := c.toNat
  n == 0xAD || (0x200B ≤ n && n ≤ 0x200F) || (0x202A ≤ n && n ≤ 0x202E) ||
    (0x2060 ≤ n && n ≤ 0x206F) || n == 0xFEFF

/-- A control or format character becomes a blank. -/
def slipChar (c : Char) : Char := if isControl c || isSlipFormat c then ' ' else c

/-- The pieces of a line: `chunks`, and one empty piece for an empty line. -/
def wrap (line : List Char) : List (List Char) :=
  (if line.isEmpty then [[]] else []) ++ (Chunks.cut (SLIP_WIDTH - 1) line 0).map Chunks.Chunk.data

/-- `slip_lines`. -/
def slipLines (text : String) : List String :=
  let rows := (textLines text.toList).flatMap fun raw =>
    (wrap ((trimEnd raw).map slipChar)).map trimEnd
  ((rows.rdropWhile List.isEmpty).take SLIP_MAX_LINES).map String.ofList

/-- The payload of `print_slip`. -/
def slipPayload (title : String) (lines : List String) : Json :=
  .obj [("cut", .bool true), ("lines", .arr (lines.map Json.str)), ("title", .str title)]

/-! ### What the slip should show -/

/-- The rows of the text as it came, wrapped at the width of the paper. -/
def slipRows (text : String) : List (List Char) :=
  (textLines text.toList).flatMap fun raw => wrap (trimEnd raw)

/-- A control or format character shows as a blank. -/
def blankOut (c : Char) : Char := if special c then ' ' else c

/-- A character that shows on paper. -/
def shows (c : Char) : Bool := !isWhitespace c && !special c

/-- The slip is taken by the printer path under each title, and its lines are the rows of the
text, without blanks at their ends and up to blank rows at the end, as far as the limit goes. -/
structure SlipPrints (text : String) : Prop where
  accepted : ∀ title ∈ [CARDHOLDER_SLIP_TITLE, MERCHANT_SLIP_TITLE, COPY_SLIP_TITLE],
    checkPrintTextPayload (slipPayload title (slipLines text)) = .ok ()
  kept : ∃ k, (slipLines text).map String.toList ++ List.replicate k [] =
    ((slipRows text).map fun row => trimEnd (row.map blankOut)).take SLIP_MAX_LINES
  /-- If the text is not cut, no character that shows is lost. -/
  shown : (slipRows text).length ≤ SLIP_MAX_LINES →
    ((slipLines text).map String.toList).flatten.filter shows = text.toList.filter shows

/-- The two tables of format characters agree on the rows that are printed. -/
def TablesAgree (text : String) : Prop :=
  ∀ row ∈ (slipRows text).take SLIP_MAX_LINES, ∀ c ∈ row, isSlipFormat c = isFormatChar c

/-- Some character of the text stays as it is. -/
def HasText (text : String) : Prop :=
  ∃ c ∈ text.toList, isWhitespace c = false ∧ isControl c = false ∧ isSlipFormat c = false

/-! ### Wrapping -/

lemma wrap_flatten (line : List Char) : (wrap line).flatten = line := by
  rw [wrap, List.flatten_append, Chunks.cut_flatten]
  cases line <;> rfl

lemma wrap_width {line row : List Char} (h : row ∈ wrap line) : row.length ≤ SLIP_WIDTH := by
  unfold wrap at h
  rcases List.mem_append.mp h with h | h
  · split at h
    · simp only [List.mem_singleton] at h
      simp [h]
    · cases h
  · obtain ⟨c, hc, rfl⟩ := List.mem_map.mp h
    exact (Chunks.cut_length _ _ _ c hc).2

lemma wrap_map (f : Char → Char) (line : List Char) :
    wrap (line.map f) = (wrap line).map (List.map f) := by
  unfold wrap
  rw [Chunks.cut_map, List.map_append]
  congr 1
  cases line <;> rfl

/-- The lines are the rows of the text, before the blank ones at the end go. -/
lemma slipLines_eq (text : String) : slipLines text =
    ((((slipRows text).map fun row => trimEnd (row.map slipChar)).rdropWhile List.isEmpty).take
      SLIP_MAX_LINES).map String.ofList := by
  have hrows : ((textLines text.toList).flatMap fun raw =>
      (wrap ((trimEnd raw).map slipChar)).map trimEnd) =
        (slipRows text).map fun row => trimEnd (row.map slipChar) := by
    rw [slipRows, List.map_flatMap]
    congr 1
    funext raw
    rw [wrap_map, List.map_map]
    rfl
  rw [slipLines, hrows]

/-- Rows that are dropped at the end are blank. -/
lemma rdropWhile_append_replicate (rows : List (List Char)) :
    ∃ k, rows.rdropWhile List.isEmpty ++ List.replicate k [] = rows := by
  induction rows using List.reverseRecOn with
  | nil => exact ⟨0, rfl⟩
  | append_singleton rows row ih =>
    rw [List.rdropWhile_concat]
    cases row with
    | nil =>
      obtain ⟨k, hk⟩ := ih
      refine ⟨k + 1, ?_⟩
      rw [List.replicate_succ', ← List.append_assoc]
      simp [hk]
    | cons c row => exact ⟨0, by simp⟩

lemma take_append_replicate {rows front : List (List Char)} {k : ℕ}
    (h : front ++ List.replicate k [] = rows) (n : ℕ) :
    ∃ k', front.take n ++ List.replicate k' [] = rows.take n := by
  subst h
  rw [List.take_append, List.take_replicate]
  exact ⟨_, rfl⟩

/-- The lines are the first rows, with their characters as the slip has them. -/
lemma slipLines_kept (text : String) : ∃ k,
    (slipLines text).map String.toList ++ List.replicate k [] =
      ((slipRows text).map fun row => trimEnd (row.map slipChar)).take SLIP_MAX_LINES := by
  obtain ⟨k, hk⟩ := rdropWhile_append_replicate
    ((slipRows text).map fun row => trimEnd (row.map slipChar))
  obtain ⟨k', hk'⟩ := take_append_replicate hk SLIP_MAX_LINES
  refine ⟨k', ?_⟩
  rw [slipLines_eq, List.map_map]
  have hid : (String.toList ∘ String.ofList) = id := by
    funext cs
    simp
  rw [hid, List.map_id]
  exact hk'

/-! ### Characters -/

/-- A format character is no white space. -/
lemma isWhitespace_of_isFormatChar {c : Char} (h : isFormatChar c = true) :
    isWhitespace c = false := by
  unfold isFormatChar at h
  unfold isWhitespace
  simp only [Bool.or_eq_true, Bool.and_eq_true, beq_iff_eq, decide_eq_true_eq] at h
  simp only [Bool.or_eq_false_iff, Bool.and_eq_false_iff, beq_eq_false_iff_ne,
    decide_eq_false_iff_not, ne_eq]
  omega

lemma isWhitespace_of_isSlipFormat {c : Char} (h : isSlipFormat c = true) :
    isWhitespace c = false := by
  unfold isSlipFormat at h
  unfold isWhitespace
  simp only [Bool.or_eq_true, Bool.and_eq_true, beq_iff_eq, decide_eq_true_eq] at h
  simp only [Bool.or_eq_false_iff, Bool.and_eq_false_iff, beq_eq_false_iff_ne,
    decide_eq_false_iff_not, ne_eq]
  omega

lemma isControl_of_isFormatChar {c : Char} (h : isFormatChar c = true) :
    isControl c = false := by
  unfold isFormatChar at h
  unfold isControl
  simp only [Bool.or_eq_true, Bool.and_eq_true, beq_iff_eq, decide_eq_true_eq] at h
  simp only [Bool.or_eq_false_iff, Bool.and_eq_false_iff, decide_eq_false_iff_not]
  omega

lemma isControl_of_isSlipFormat {c : Char} (h : isSlipFormat c = true) :
    isControl c = false := by
  unfold isSlipFormat at h
  unfold isControl
  simp only [Bool.or_eq_true, Bool.and_eq_true, beq_iff_eq, decide_eq_true_eq] at h
  simp only [Bool.or_eq_false_iff, Bool.and_eq_false_iff, decide_eq_false_iff_not]
  omega

/-- Where the tables agree, the slip shows what it should. -/
lemma slipChar_eq_blankOut {c : Char} (h : isSlipFormat c = isFormatChar c) :
    slipChar c = blankOut c := by
  unfold slipChar blankOut special
  rw [h]

lemma isSlipFormat_slipChar (c : Char) : isSlipFormat (slipChar c) = false := by
  unfold slipChar
  split
  · decide
  · rename_i h
    simpa using (not_or.mp (mt Bool.or_eq_true_iff.mpr h)).2

/-- Trimming takes white space only. -/
lemma mem_trimEnd {c : Char} {line : List Char} (hc : c ∈ line) (hws : isWhitespace c = false) :
    c ∈ trimEnd line := by
  unfold trimEnd
  induction line using List.reverseRecOn with
  | nil => cases hc
  | append_singleton line d ih =>
    rw [List.rdropWhile_concat]
    split
    · rename_i hd
      rcases List.mem_append.mp hc with hc | hc
      · exact ih hc
      · rw [List.mem_singleton.mp hc, hd] at hws
        cases hws
    · exact hc

lemma trimEnd_subset (line : List Char) : trimEnd line ⊆ line :=
  (List.rdropWhile_prefix _ _).subset

/-- Characters that are no white space stay. -/
lemma filter_trimEnd {p : Char → Bool} (hp : ∀ c, p c = true → isWhitespace c = false)
    (line : List Char) : (trimEnd line).filter p = line.filter p := by
  unfold trimEnd
  induction line using List.reverseRecOn with
  | nil => rfl
  | append_singleton line d ih =>
    rw [List.rdropWhile_concat]
    split
    · rename_i hd
      have hpd : p d = false := by
        by_contra hpd
        rw [hp d (by simpa using hpd)] at hd
        cases hd
      rw [ih, List.filter_append]
      simp [hpd]
    · rfl

/-! ### The printer path -/

/-- A slip is accepted under a title that can be printed if it has lines, not too many, and each
can be printed. -/
lemma accepted_slip_iff {title : String} (htitle : titleProblems (slipPayload title []) = [])
    (lines : List String) : checkPrintTextPayload (slipPayload title lines) = .ok () ↔
      lines ≠ [] ∧ lines.length ≤ SLIP_MAX_LINES ∧ ∀ row ∈ lines, PrintableRow row := by
  have hlines : (slipPayload title lines).get "lines" = some (.arr (lines.map Json.str)) := rfl
  have hkeys : onlyKeys [("cut", .bool true), ("lines", .arr (lines.map Json.str)),
      ("title", .str title)] "payload" ["title", "lines", "cut"] = [] := rfl
  have hcut : cutProblems (slipPayload title lines) = [] := rfl
  have hsame : titleProblems (slipPayload title lines) = [] := htitle
  rw [← show PRINT_TEXT_MAX_LINES = SLIP_MAX_LINES from rfl, ← linesProblems_eq_nil_iff hlines,
    accepted_iff]
  constructor
  · rintro ⟨fields, -, hnil⟩
    simp only [checkPrintText, List.append_eq_nil_iff] at hnil
    exact hnil.1.2
  · intro hnil
    refine ⟨_, rfl, ?_⟩
    simp only [checkPrintText, hkeys, hsame, hnil, hcut, List.append_nil]

/-- The fixed titles can be printed. -/
lemma slipTitle_ok : ∀ title ∈ [CARDHOLDER_SLIP_TITLE, MERCHANT_SLIP_TITLE, COPY_SLIP_TITLE],
    titleProblems (slipPayload title []) = [] := by
  decide +kernel

/-- A row of the lines is one of the first rows. -/
lemma row_of_slipLines {text line : String} (h : line ∈ slipLines text) :
    ∃ row ∈ (slipRows text).take SLIP_MAX_LINES,
      line.toList = trimEnd (row.map slipChar) := by
  obtain ⟨k, hk⟩ := slipLines_kept text
  have hmem : line.toList ∈ ((slipRows text).map fun row => trimEnd (row.map slipChar)).take
      SLIP_MAX_LINES := by
    rw [← hk]
    exact List.mem_append_left _ (List.mem_map_of_mem h)
  rw [← List.map_take] at hmem
  obtain ⟨row, hrow, heq⟩ := List.mem_map.mp hmem
  exact ⟨row, hrow, heq.symm⟩

/-- A character of the first rows that is shown as it is stands in the lines. -/
lemma mem_slipLines {text : String} {row : List Char} {c : Char}
    (hrow : row ∈ (slipRows text).take SLIP_MAX_LINES) (hc : c ∈ row)
    (hws : isWhitespace c = false) (hsame : slipChar c = c) :
    ∃ line ∈ slipLines text, c ∈ line.toList := by
  obtain ⟨k, hk⟩ := slipLines_kept text
  have hin : c ∈ trimEnd (row.map slipChar) :=
    mem_trimEnd (List.mem_map.mpr ⟨c, hc, hsame⟩) hws
  have hmem : trimEnd (row.map slipChar) ∈
      (slipLines text).map String.toList ++ List.replicate k [] := by
    rw [hk, ← List.map_take]
    exact List.mem_map_of_mem (f := fun row => trimEnd (row.map slipChar)) hrow
  rcases List.mem_append.mp hmem with hmem | hmem
  · obtain ⟨line, hline, heq⟩ := List.mem_map.mp hmem
    exact ⟨line, hline, heq ▸ hin⟩
  · rw [(List.mem_replicate.mp hmem).2] at hin
    cases hin

/-- Each line can be printed, where the tables agree. -/
lemma printable_of_agree {text line : String} (hagree : TablesAgree text)
    (h : line ∈ slipLines text) : PrintableRow line := by
  obtain ⟨row, hrow, heq⟩ := row_of_slipLines h
  have hwidth : row.length ≤ SLIP_WIDTH := by
    obtain ⟨raw, -, hwrap⟩ := List.mem_flatMap.mp (List.mem_of_mem_take hrow)
    exact wrap_width hwrap
  constructor
  · calc line.length = line.toList.length := String.length_toList.symm
      _ ≤ (row.map slipChar).length := by
        rw [heq]
        exact (List.rdropWhile_prefix _ _).length_le
      _ ≤ PRINT_TEXT_WIDTH := (List.length_map _).le.trans hwidth
  · intro c hc
    rw [heq] at hc
    obtain ⟨d, hd, rfl⟩ := List.mem_map.mp (trimEnd_subset _ hc)
    rw [slipChar_eq_blankOut (hagree row hrow d hd)]
    unfold blankOut
    split
    · decide
    · rename_i hs
      simpa using hs

/-! ### What is kept -/

section Filter

variable {p : Char → Bool}

lemma filter_intercalate (hn : p '\n' = false) (pieces : List (List Char)) :
    (['\n'].intercalate pieces).filter p = pieces.flatten.filter p := by
  induction pieces with
  | nil => rfl
  | cons piece pieces ih =>
    cases pieces with
    | nil => simp
    | cons next pieces =>
      rw [List.intercalate_cons_cons, List.filter_append, List.filter_append, ih,
        List.flatten_cons, List.filter_append]
      simp [hn]

lemma filter_stripCr (hr : p '\r' = false) (line : List Char) :
    (stripCr line).filter p = line.filter p := by
  unfold stripCr
  split
  · rename_i hlast
    have hline := List.dropLast_append_getLast? '\r' hlast
    conv_rhs => rw [← hline, List.filter_append]
    simp [hr]
  · rfl

/-- The line ends are all that the lines lack of the text. -/
lemma filter_textLines (hn : p '\n' = false) (hr : p '\r' = false) (text : List Char) :
    (textLines text).flatten.filter p = text.filter p := by
  have hsplit : text.splitOn '\n' ≠ [] := List.splitOn_ne_nil _ _
  have hlast : (text.splitOn '\n').getLastD [] = (text.splitOn '\n').getLast hsplit := by
    rw [List.getLastD_eq_getLast?, List.getLast?_eq_getLast_of_ne_nil hsplit]
    rfl
  have hstrip : ((text.splitOn '\n').dropLast.map stripCr).flatten.filter p =
      (text.splitOn '\n').dropLast.flatten.filter p := by
    generalize (text.splitOn '\n').dropLast = front
    induction front with
    | nil => rfl
    | cons piece front ih => simp [List.filter_append, filter_stripCr hr, ih]
  have htail : (if ((text.splitOn '\n').getLast hsplit).isEmpty then []
      else [(text.splitOn '\n').getLast hsplit]).flatten =
        (text.splitOn '\n').getLast hsplit := by
    split
    · rename_i hempty
      rw [List.isEmpty_iff.mp hempty]
      rfl
    · simp
  have htext := filter_intercalate hn (text.splitOn '\n')
  rw [List.intercalate_splitOn] at htext
  rw [htext, textLines, hlast, List.flatten_append, List.filter_append, hstrip, htail,
    ← List.filter_append]
  conv_rhs => rw [← List.dropLast_append_getLast hsplit, List.flatten_append]
  simp

/-- The rows have every character of the text that is no white space, in order. -/
lemma filter_slipRows (hp : ∀ c, p c = true → isWhitespace c = false) (text : String) :
    (slipRows text).flatten.filter p = text.toList.filter p := by
  have hn : p '\n' = false := by
    by_contra h
    have := hp '\n' (by simpa using h)
    revert this
    decide
  have hr : p '\r' = false := by
    by_contra h
    have := hp '\r' (by simpa using h)
    revert this
    decide
  rw [← filter_textLines hn hr text.toList, slipRows]
  generalize textLines text.toList = lines
  induction lines with
  | nil => rfl
  | cons line lines ih =>
    rw [List.flatMap_cons, List.flatten_append, wrap_flatten, List.filter_append, ih,
      filter_trimEnd hp, List.flatten_cons, List.filter_append]

end Filter

lemma isWhitespace_slipChar (c : Char) :
    isWhitespace (slipChar c) = (isWhitespace c || isControl c || isSlipFormat c) := by
  unfold slipChar
  split
  · rename_i h
    rw [Bool.or_assoc, h, Bool.or_true]
    decide
  · rename_i h
    rw [Bool.or_assoc, Bool.not_eq_true _ |>.mp h, Bool.or_false]

/-- No line is sent when nothing of the text stays. -/
lemma slipLines_eq_nil_iff (text : String) : slipLines text = [] ↔ ¬HasText text := by
  have hblank : slipLines text = [] ↔
      ∀ row ∈ slipRows text, ∀ c ∈ row, isWhitespace (slipChar c) = true := by
    rw [slipLines_eq, List.map_eq_nil_iff, List.take_eq_nil_iff, List.rdropWhile_eq_nil_iff]
    simp [SLIP_MAX_LINES, trimEnd, List.rdropWhile_eq_nil_iff]
  have htext : ∀ c, isWhitespace c = false →
      (c ∈ text.toList ↔ ∃ row ∈ slipRows text, c ∈ row) := by
    intro c hc
    have hfilter := filter_slipRows (p := fun c => !isWhitespace c) (by simp) text
    have hmem := congrArg (c ∈ ·) hfilter
    simpa [hc] using hmem.symm
  rw [hblank, HasText]
  constructor
  · rintro h ⟨c, hc, hws, hcontrol, hformat⟩
    obtain ⟨row, hrow, hcrow⟩ := (htext c hws).mp hc
    have := h row hrow c hcrow
    simp [isWhitespace_slipChar, hws, hcontrol, hformat] at this
  · intro h row hrow c hc
    rw [isWhitespace_slipChar]
    by_contra hkept
    simp only [Bool.not_eq_true, Bool.or_eq_false_iff] at hkept
    obtain ⟨⟨hws, hcontrol⟩, hformat⟩ := hkept
    exact h ⟨c, (htext c hws).mpr ⟨row, hrow, hc⟩, hws, hcontrol, hformat⟩

/-- Where the tables agree the lines are what they should be. -/
lemma kept_of_agree {text : String} (hagree : TablesAgree text) : ∃ k,
    (slipLines text).map String.toList ++ List.replicate k [] =
      ((slipRows text).map fun row => trimEnd (row.map blankOut)).take SLIP_MAX_LINES := by
  obtain ⟨k, hk⟩ := slipLines_kept text
  refine ⟨k, hk.trans ?_⟩
  rw [← List.map_take, ← List.map_take]
  refine List.map_congr_left fun row hrow => ?_
  rw [List.map_congr_left fun c hc => slipChar_eq_blankOut (hagree row hrow c hc)]

lemma filter_blankOut (row : List Char) :
    (row.map blankOut).filter shows = row.filter shows := by
  induction row with
  | nil => rfl
  | cons c row ih =>
    have hblank : shows ' ' = false := by decide
    rw [List.map_cons, List.filter_cons, List.filter_cons, ih]
    cases hs : special c with
    | true =>
      have hc : shows c = false := by simp [shows, hs]
      rw [show blankOut c = ' ' by simp [blankOut, hs], hblank, hc, if_neg (by simp),
        if_neg (by simp)]
    | false => rw [show blankOut c = c by simp [blankOut, hs]]

/-- What is kept of a text that is not cut has all that shows. -/
lemma shown_of_kept {text : String} {k : ℕ}
    (hkept : (slipLines text).map String.toList ++ List.replicate k [] =
      ((slipRows text).map fun row => trimEnd (row.map blankOut)).take SLIP_MAX_LINES)
    (hshort : (slipRows text).length ≤ SLIP_MAX_LINES) :
    ((slipLines text).map String.toList).flatten.filter shows = text.toList.filter shows := by
  have hshows : ∀ c, shows c = true → isWhitespace c = false := by
    intro c hc
    simp only [shows, Bool.and_eq_true, Bool.not_eq_true'] at hc
    exact hc.1
  have hflat := congrArg (fun rows => rows.flatten.filter shows) hkept
  rw [List.take_of_length_le (by simpa using hshort)] at hflat
  simp only [List.flatten_append, List.flatten_replicate_nil, List.append_nil] at hflat
  rw [hflat, ← filter_slipRows hshows]
  generalize slipRows text = rows
  induction rows with
  | nil => rfl
  | cons row rows ih =>
    rw [List.map_cons, List.flatten_cons, List.flatten_cons, List.filter_append, List.filter_append,
      filter_trimEnd hshows, filter_blankOut, ih]

/-! ### When a slip prints -/

/-- A format character that the slips do not know stands in a line, and the line is refused. -/
lemma refused_of_missed {text : String} {row : List Char} {c : Char}
    (hrow : row ∈ (slipRows text).take SLIP_MAX_LINES) (hc : c ∈ row)
    (hformat : isFormatChar c = true) (hmissed : isSlipFormat c = false) {title : String}
    (htitle : titleProblems (slipPayload title []) = []) :
    checkPrintTextPayload (slipPayload title (slipLines text)) ≠ .ok () := by
  intro hok
  obtain ⟨-, -, hrows⟩ := (accepted_slip_iff htitle _).mp hok
  have hsame : slipChar c = c := by simp [slipChar, isControl_of_isFormatChar hformat, hmissed]
  obtain ⟨line, hline, hmem⟩ :=
    mem_slipLines hrow hc (isWhitespace_of_isFormatChar hformat) hsame
  have := (hrows line hline).plain c hmem
  simp [special, hformat] at this

/-- A character that the slips take for a format character is lost. -/
lemma lost_of_mistaken {text : String} {row : List Char} {c : Char}
    (hrow : row ∈ (slipRows text).take SLIP_MAX_LINES) (hc : c ∈ row)
    (hformat : isFormatChar c = false) (hmistaken : isSlipFormat c = true) (k : ℕ) :
    (slipLines text).map String.toList ++ List.replicate k [] ≠
      ((slipRows text).map fun row => trimEnd (row.map blankOut)).take SLIP_MAX_LINES := by
  intro hkept
  have hsame : blankOut c = c := by
    simp [blankOut, special, isControl_of_isSlipFormat hmistaken, hformat]
  have hin : c ∈ trimEnd (row.map blankOut) :=
    mem_trimEnd (List.mem_map.mpr ⟨c, hc, hsame⟩) (isWhitespace_of_isSlipFormat hmistaken)
  have hmem : trimEnd (row.map blankOut) ∈
      (slipLines text).map String.toList ++ List.replicate k [] := by
    rw [hkept, ← List.map_take]
    exact List.mem_map_of_mem (f := fun row => trimEnd (row.map blankOut)) hrow
  rcases List.mem_append.mp hmem with hmem | hmem
  · -- the lines hold only characters that the slips let through
    obtain ⟨line, hline, heq⟩ := List.mem_map.mp hmem
    obtain ⟨row', -, heq'⟩ := row_of_slipLines hline
    rw [← heq, heq'] at hin
    obtain ⟨d, -, hd⟩ := List.mem_map.mp (trimEnd_subset _ hin)
    have := isSlipFormat_slipChar d
    rw [hd, hmistaken] at this
    cases this
  · rw [(List.mem_replicate.mp hmem).2] at hin
    cases hin

/-- A slip prints, and shows what it should, exactly when the two tables agree on the rows that
are printed and something of the text stays. -/
theorem slip_prints_iff (text : String) : SlipPrints text ↔ TablesAgree text ∧ HasText text := by
  have hcard : CARDHOLDER_SLIP_TITLE ∈
      [CARDHOLDER_SLIP_TITLE, MERCHANT_SLIP_TITLE, COPY_SLIP_TITLE] := by simp
  constructor
  · rintro ⟨haccepted, ⟨k, hkept⟩, -⟩
    constructor
    · intro row hrow c hc
      cases hslip : isSlipFormat c <;> cases hformat : isFormatChar c
      · rfl
      · exact absurd (haccepted _ hcard)
          (refused_of_missed hrow hc hformat hslip (slipTitle_ok _ hcard))
      · exact absurd hkept (lost_of_mistaken hrow hc hformat hslip k)
      · rfl
    · by_contra hnone
      have hlines := (slipLines_eq_nil_iff text).mpr hnone
      exact ((accepted_slip_iff (slipTitle_ok _ hcard) _).mp (haccepted _ hcard)).1 hlines
  · rintro ⟨hagree, htext⟩
    obtain ⟨k, hkept⟩ := kept_of_agree hagree
    refine ⟨fun title htitle => ?_, ⟨k, hkept⟩, shown_of_kept hkept⟩
    refine (accepted_slip_iff (slipTitle_ok title htitle) _).mpr ⟨?_, ?_, ?_⟩
    · exact fun hnil => (slipLines_eq_nil_iff text).mp hnil htext
    · rw [slipLines_eq, List.length_map]
      exact List.length_take_le _ _
    · exact fun line hline => printable_of_agree hagree hline

/-- A slip with an Arabic letter mark is refused. -/
theorem slip_with_letter_mark_refused :
    (∃ c ∈ "a\u061C".toList, shows c = true) ∧ ¬SlipPrints "a\u061C" := by
  refine ⟨⟨'a', by decide, by decide⟩, fun h => ?_⟩
  have hrows : slipRows "a\u061C" = [['a', '\u061C']] := by
    have hlines : textLines "a\u061C".toList = [['a', '\u061C']] := by decide
    have hcut : Chunks.cut (SLIP_WIDTH - 1) ['a', '\u061C'] 0 = [⟨0, ['a', '\u061C']⟩] := by
      rw [Chunks.cut_of_lt (by decide), Chunks.cut_of_le (by decide)]
      rfl
    have htrim : trimEnd ['a', '\u061C'] = ['a', '\u061C'] := by decide
    rw [slipRows, hlines]
    simp [htrim, wrap, hcut]
  have hrow : ['a', '\u061C'] ∈ (slipRows "a\u061C").take SLIP_MAX_LINES := by
    rw [hrows]
    decide
  exact refused_of_missed hrow (c := '\u061C') (by decide) (by decide) (by decide)
    (slipTitle_ok CARDHOLDER_SLIP_TITLE (by simp)) (h.accepted _ (by simp))

end Tim

end DevBridge

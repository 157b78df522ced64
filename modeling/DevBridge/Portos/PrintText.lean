import DevBridge.Portos.Payload
import DevBridge.Text

/-!
# Printed texts

A `fiscal.print_text` job carries a title, lines, and whether the paper is cut.  The check looks
at every field and collects what is wrong with it; the body of the request is built from the
same fields by a reader that takes what it finds.  What the check lets through, the body holds
row by row, and no row can bring a command to the printer.
-/

namespace DevBridge

/-! ### The check -/

/-- The widest title or line. -/
def PRINT_TEXT_WIDTH : ℕ := 40

/-- The most lines. -/
def PRINT_TEXT_MAX_LINES : ℕ := 80

/-- `is_format_char`: the Unicode category Cf. -/
def isFormatChar (c : Char) : Bool :=
  let n := c.toNat
  n == 0xAD || (0x600 ≤ n && n ≤ 0x605) || n == 0x61C || n == 0x6DD || n == 0x70F ||
    (0x890 ≤ n && n ≤ 0x891) || n == 0x8E2 || n == 0x180E || (0x200B ≤ n && n ≤ 0x200F) ||
    (0x202A ≤ n && n ≤ 0x202E) || (0x2060 ≤ n && n ≤ 0x2064) || (0x2066 ≤ n && n ≤ 0x206F) ||
    n == 0xFEFF || (0xFFF9 ≤ n && n ≤ 0xFFFB) || n == 0x110BD || n == 0x110CD ||
    (0x13430 ≤ n && n ≤ 0x1343F) || (0x1BCA0 ≤ n && n ≤ 0x1BCA3) ||
    (0x1D173 ≤ n && n ≤ 0x1D17A) || n == 0xE0001 || (0xE0020 ≤ n && n ≤ 0xE007F)

/-- What is wrong with a printed line. -/
def printLineProblem (line : String) : Option String :=
  if PRINT_TEXT_WIDTH < line.length then
    let width := PRINT_TEXT_WIDTH
    some s!"must have at most {width} characters"
  else if line.toList.any fun c => isControl c || isFormatChar c then
    some "must not contain control or format characters"
  else none

/-- `Checker::only_keys`. -/
def onlyKeys (fields : List (String × Json)) (path : String) (allowed : List String) :
    List String :=
  (fields.map Prod.fst).filterMap fun key =>
    if allowed.contains key then none else some s!"{path}.{key} is not allowed"

/-- The problems of the title. -/
def titleProblems (obj : Json) : List String :=
  match obj.get "title" with
  | none | some .null => ["payload.title is required"]
  | some (.str title) =>
    if isBlank title then ["payload.title must not be empty"]
    else (printLineProblem title).toList.map ("payload.title " ++ ·)
  | some _ => ["payload.title must be a string"]

/-- The problems of one line. -/
def lineProblems (line : Json) (i : ℕ) : List String :=
  match line.asStr with
  | some line => (printLineProblem line).toList.map (s!"payload.lines[{i}] " ++ ·)
  | none => [s!"payload.lines[{i}] must be a string"]

/-- The problems of the lines. -/
def linesProblems (obj : Json) : List String :=
  match obj.get "lines" with
  | some (.arr lines) =>
    if lines.isEmpty then ["payload.lines must not be empty"]
    else if PRINT_TEXT_MAX_LINES < lines.length then
      let most := PRINT_TEXT_MAX_LINES
      [s!"payload.lines must have at most {most} items"]
    else (lines.zipIdx.map fun (line, i) => lineProblems line i).flatten
  | none | some .null => ["payload.lines is required"]
  | some _ => ["payload.lines must be a list"]

/-- The problems of the cut. -/
def cutProblems (obj : Json) : List String :=
  if ((obj.get "cut").bind Json.asBool).isSome then []
  else ["payload.cut must be true or false"]

/-- `check_print_text`: a title, lines and a cut, and nothing else. -/
def checkPrintText (payload : Json) (fields : List (String × Json)) : List String :=
  onlyKeys fields "payload" ["title", "lines", "cut"] ++ titleProblems payload ++
    linesProblems payload ++ cutProblems payload

/-- `check_payload` of a printed text. -/
def checkPrintTextPayload (payload : Json) : Except String Unit :=
  let problems := match payload with
    | .obj fields => checkPrintText payload fields
    | _ => ["payload must be an object"]
  if problems.isEmpty then .ok () else .error (String.intercalate "; " problems)

/-! ### What the check lets through -/

/-- A character that Portos might take for a command, or that does not show. -/
def special (c : Char) : Bool := isControl c || isFormatChar c

/-- A row that the printer prints as it stands. -/
structure PrintableRow (row : String) : Prop where
  width : row.length ≤ PRINT_TEXT_WIDTH
  plain : ∀ c ∈ row.toList, special c = false

/-- The category Cf, as ranges of code points. -/
def formatRanges : List (ℕ × ℕ) :=
  [(0xAD, 0xAD), (0x600, 0x605), (0x61C, 0x61C), (0x6DD, 0x6DD), (0x70F, 0x70F), (0x890, 0x891),
    (0x8E2, 0x8E2), (0x180E, 0x180E), (0x200B, 0x200F), (0x202A, 0x202E), (0x2060, 0x2064),
    (0x2066, 0x206F), (0xFEFF, 0xFEFF), (0xFFF9, 0xFFFB), (0x110BD, 0x110BD), (0x110CD, 0x110CD),
    (0x13430, 0x1343F), (0x1BCA0, 0x1BCA3), (0x1D173, 0x1D17A), (0xE0001, 0xE0001),
    (0xE0020, 0xE007F)]

lemma isFormatChar_iff (c : Char) :
    isFormatChar c = true ↔ ∃ r ∈ formatRanges, r.1 ≤ c.toNat ∧ c.toNat ≤ r.2 := by
  unfold isFormatChar
  simp only [formatRanges, List.mem_cons, List.not_mem_nil, or_false, exists_eq_or_imp,
    exists_eq_left, Bool.or_eq_true, Bool.and_eq_true, beq_iff_eq, decide_eq_true_eq]
  omega

/-- The control characters, as ranges of code points. -/
def controlRanges : List (ℕ × ℕ) := [(0, 0x1F), (0x7F, 0x9F)]

lemma isControl_iff (c : Char) :
    isControl c = true ↔ ∃ r ∈ controlRanges, r.1 ≤ c.toNat ∧ c.toNat ≤ r.2 := by
  unfold isControl
  simp only [controlRanges, List.mem_cons, List.not_mem_nil, or_false, exists_eq_or_imp,
    exists_eq_left, Bool.or_eq_true, Bool.and_eq_true, decide_eq_true_eq]
  omega

/-- No character of a row that is printed lies in one of these ranges. -/
lemma PrintableRow.outside {row : String} (h : PrintableRow row) {c : Char} (hc : c ∈ row.toList) :
    ∀ r ∈ controlRanges ++ formatRanges, c.toNat < r.1 ∨ r.2 < c.toNat := by
  have hplain := h.plain c hc
  rw [special, Bool.or_eq_false_iff, ← Bool.not_eq_true, ← Bool.not_eq_true, isControl_iff,
    isFormatChar_iff] at hplain
  intro r hr
  by_contra hin
  rw [not_or, not_lt, not_lt] at hin
  rcases List.mem_append.mp hr with hcontrol | hformat
  · exact hplain.1 ⟨r, hcontrol, hin⟩
  · exact hplain.2 ⟨r, hformat, hin⟩

/-- The payload names this title, these lines and this cut. -/
structure NamesText (payload : Json) (title : String) (lines : List String) (cut : Bool) :
    Prop where
  title : payload.get "title" = some (.str title)
  lines : payload.get "lines" = some (.arr (lines.map Json.str))
  cut : payload.get "cut" = some (.bool cut)

lemma printLineProblem_eq_none_iff {line : String} :
    printLineProblem line = none ↔ PrintableRow line := by
  unfold printLineProblem
  split
  · rename_i hwide
    exact iff_of_false (by simp) fun h => absurd h.width (not_le.mpr hwide)
  · rename_i hwidth
    split
    · rename_i hany
      refine iff_of_false (by simp) fun h => ?_
      obtain ⟨c, hc, hs⟩ := List.any_eq_true.mp hany
      exact absurd hs (by rw [← special, h.plain c hc]; simp)
    · rename_i hany
      refine iff_of_true rfl ⟨not_lt.mp hwidth, fun c hc => ?_⟩
      simpa [special] using fun hs => hany (List.any_eq_true.mpr ⟨c, hc, hs⟩)

lemma titleProblems_eq_nil {payload : Json} (h : titleProblems payload = []) :
    ∃ title, payload.get "title" = some (.str title) ∧ isBlank title = false ∧
      PrintableRow title := by
  unfold titleProblems at h
  split at h
  · cases h
  · cases h
  · rename_i title htitle
    split at h
    · cases h
    · rename_i hblank
      refine ⟨title, htitle, by simpa using hblank, printLineProblem_eq_none_iff.mp ?_⟩
      simpa using h
  · cases h

lemma lineProblems_eq_nil {line : Json} {i : ℕ} (h : lineProblems line i = []) :
    ∃ row, line = .str row ∧ PrintableRow row := by
  unfold lineProblems at h
  split at h
  · rename_i row hrow
    refine ⟨row, ?_, printLineProblem_eq_none_iff.mp (by simpa using h)⟩
    cases line <;> simp_all [Json.asStr]
  · cases h

lemma linesProblems_eq_nil {payload : Json} (h : linesProblems payload = []) :
    ∃ lines : List String, payload.get "lines" = some (.arr (lines.map Json.str)) ∧ lines ≠ [] ∧
      lines.length ≤ PRINT_TEXT_MAX_LINES ∧ ∀ row ∈ lines, PrintableRow row := by
  unfold linesProblems at h
  split at h
  · rename_i items hitems
    split at h
    · cases h
    · rename_i hne
      split at h
      · cases h
      · rename_i hmost
        have hrow : ∀ item ∈ items, ∃ row, item = .str row ∧ PrintableRow row := by
          intro item hitem
          obtain ⟨i, hi⟩ := List.mem_iff_getElem?.mp hitem
          have hnil := List.flatten_eq_nil_iff.mp h (lineProblems item i)
            (List.mem_map.mpr ⟨(item, i), List.mem_zipIdx_iff_getElem?.mpr hi, rfl⟩)
          exact lineProblems_eq_nil hnil
        choose! f hf using hrow
        have hmap : items = (items.map f).map Json.str := by
          rw [List.map_map]
          conv_lhs => rw [← List.map_id items]
          exact List.map_congr_left fun item hitem => (hf item hitem).1
        refine ⟨items.map f, hmap ▸ hitems, by simpa using hne, by simpa using hmost, ?_⟩
        intro row hrow
        obtain ⟨item, hitem, rfl⟩ := List.mem_map.mp hrow
        exact (hf item hitem).2
  · cases h
  · cases h
  · cases h

/-- The check of lines that are all strings. -/
lemma linesProblems_eq_nil_iff {payload : Json} {lines : List String}
    (h : payload.get "lines" = some (.arr (lines.map Json.str))) :
    linesProblems payload = [] ↔ lines ≠ [] ∧ lines.length ≤ PRINT_TEXT_MAX_LINES ∧
      ∀ row ∈ lines, PrintableRow row := by
  constructor
  · intro hnil
    obtain ⟨lines', hlines', hrest⟩ := linesProblems_eq_nil hnil
    have heq : lines.map Json.str = lines'.map Json.str := by simpa using h.symm.trans hlines'
    have hinj : Function.Injective Json.str := fun _ _ hs => by simpa using hs
    rwa [List.map_injective_iff.mpr hinj heq]
  · rintro ⟨hne, hmost, hrows⟩
    have hline : ∀ item ∈ lines.map Json.str, ∀ i, lineProblems item i = [] := by
      intro item hitem i
      obtain ⟨row, hrow, rfl⟩ := List.mem_map.mp hitem
      simp [lineProblems, Json.asStr, printLineProblem_eq_none_iff.mpr (hrows row hrow)]
    unfold linesProblems
    rw [h]
    dsimp only
    rw [if_neg (by simpa using hne), if_neg (by simpa using hmost), List.flatten_eq_nil_iff]
    intro problems hproblems
    obtain ⟨⟨item, i⟩, hitem, rfl⟩ := List.mem_map.mp hproblems
    exact hline item (List.mem_of_getElem? (List.mem_zipIdx_iff_getElem?.mp hitem)) i

lemma cutProblems_eq_nil {payload : Json} (h : cutProblems payload = []) :
    ∃ cut, payload.get "cut" = some (.bool cut) := by
  unfold cutProblems at h
  split at h
  · rename_i hcut
    obtain ⟨b, hb⟩ := Option.isSome_iff_exists.mp hcut
    obtain ⟨v, hv, hvb⟩ := Option.bind_eq_some_iff.mp hb
    cases v <;> simp_all [Json.asBool]
  · cases h

/-- A payload is accepted when it is an object without problems. -/
lemma accepted_iff {payload : Json} : checkPrintTextPayload payload = .ok () ↔
    ∃ fields, payload = .obj fields ∧ checkPrintText payload fields = [] := by
  unfold checkPrintTextPayload
  cases payload with
  | obj fields =>
    dsimp only
    constructor
    · intro h
      split at h
      · rename_i hempty
        exact ⟨fields, rfl, by simpa using hempty⟩
      · cases h
    · rintro ⟨fields', hfields, hnil⟩
      obtain rfl := Json.obj.inj hfields
      rw [if_pos (by simpa using hnil)]
  | _ => simp

/-- An accepted payload names a title, lines and a cut; each row is printable. -/
lemma names_of_accepted {payload : Json} (h : checkPrintTextPayload payload = .ok ()) :
    ∃ title lines cut, NamesText payload title lines cut ∧ lines ≠ [] ∧
      ∀ row ∈ title :: lines, PrintableRow row := by
  obtain ⟨fields, -, hnil⟩ := accepted_iff.mp h
  simp only [checkPrintText, List.append_eq_nil_iff] at hnil
  obtain ⟨⟨⟨-, htitle⟩, hlines⟩, hcut⟩ := hnil
  obtain ⟨title, ht, -, htrow⟩ := titleProblems_eq_nil htitle
  obtain ⟨lines, hl, hne, -, hrows⟩ := linesProblems_eq_nil hlines
  obtain ⟨cut, hc⟩ := cutProblems_eq_nil hcut
  refine ⟨title, lines, cut, ⟨ht, hl, hc⟩, hne, ?_⟩
  intro row hrow
  rcases List.mem_cons.mp hrow with rfl | hrow
  · exact htrow
  · exact hrows row hrow

/-! ### The body -/

/-- The text of a body. -/
def bodyText (body : Json) : Option String := (body.get "text").bind Json.asStr

/-- The rows as they are printed. -/
def printedRows (title : String) (lines : List String) : String :=
  String.intercalate "\n" (title :: lines)

/-- The command at the end. -/
def cutToken (cut : Bool) : String := if cut then PAGE_BREAK_TOKEN else ""

lemma printTextBody_of_names {payload : Json} {title : String} {lines : List String} {cut : Bool}
    (h : NamesText payload title lines cut) : printTextBody payload =
      .obj [("contentFlags", .arr []), ("text", .str (printedRows title lines ++ cutToken cut))] := by
  have hlines : (lines.map Json.str).filterMap Json.asStr = lines := by
    rw [List.filterMap_map]
    exact List.filterMap_some
  unfold printTextBody
  simp only [h.title, h.lines, h.cut, Option.bind_some, Json.asStr, Json.asArray, Json.asBool,
    Option.getD_some, hlines, Option.toList_some]
  cases cut <;> simp [printedRows, cutToken]

lemma special_lineFeed : special '\n' = true := by decide

/-- Rows without a line feed are found again between the line feeds. -/
lemma splitOn_printedRows {title : String} {lines : List String}
    (h : ∀ row ∈ title :: lines, PrintableRow row) :
    (printedRows title lines).toList.splitOn '\n' = (title :: lines).map String.toList := by
  rw [printedRows, String.toList_intercalate]
  refine List.splitOn_intercalate '\n' ?_ (by simp)
  intro l hl hmem
  obtain ⟨row, hrow, rfl⟩ := List.mem_map.mp hl
  have := (h row hrow).plain _ hmem
  rw [special_lineFeed] at this
  cases this

/-- The only special characters of the rows are the line feeds between them. -/
lemma special_printedRows {title : String} {lines : List String}
    (h : ∀ row ∈ title :: lines, PrintableRow row) :
    (printedRows title lines).toList.filter special = List.replicate lines.length '\n' := by
  have hrow : ∀ row ∈ title :: lines, row.toList.filter special = [] := fun row hrow => by
    rw [List.filter_eq_nil_iff]
    intro c hc
    simp [(h row hrow).plain c hc]
  rw [printedRows, String.toList_intercalate]
  clear h
  induction lines generalizing title with
  | nil => simpa using hrow title (by simp)
  | cons line lines ih =>
    have htail := ih fun row (hr : row ∈ line :: lines) => hrow row (List.mem_cons_of_mem _ hr)
    rw [List.map_cons, List.map_cons, List.intercalate_cons_cons, List.filter_append,
      List.filter_append, hrow title (by simp)]
    rw [List.map_cons] at htail
    rw [htail]
    rfl

/-- The special characters of the command. -/
def tokenSpecials (cut : Bool) : List Char := if cut then ['\x1a', '\x1a'] else []

lemma special_cutToken (cut : Bool) :
    (cutToken cut).toList.filter special = tokenSpecials cut := by
  cases cut <;> decide

/-- What the body of an accepted payload holds. -/
structure PrintsAsNamed (payload : Json) (title : String) (lines : List String) (cut : Bool) :
    Prop where
  names : NamesText payload title lines cut
  /-- The rows, and the command behind them. -/
  text : bodyText (printTextBody payload) = some (printedRows title lines ++ cutToken cut)
  rows : (printedRows title lines).toList.splitOn '\n' = (title :: lines).map String.toList
  printable : ∀ row ∈ title :: lines, PrintableRow row
  /-- Nothing but the line feeds between the rows and the command is special. -/
  commands : (printedRows title lines ++ cutToken cut).toList.filter special =
    List.replicate lines.length '\n' ++ tokenSpecials cut

lemma prints_of_accepted {payload : Json} (h : checkPrintTextPayload payload = .ok ()) :
    ∃ title lines cut, PrintsAsNamed payload title lines cut := by
  obtain ⟨title, lines, cut, hnames, -, hrows⟩ := names_of_accepted h
  refine ⟨title, lines, cut, hnames, ?_, splitOn_printedRows hrows, hrows, ?_⟩
  · rw [printTextBody_of_names hnames]
    rfl
  · rw [String.toList_append, List.filter_append, special_printedRows hrows, special_cutToken]

/-- The text tells the title, the lines and the cut. -/
lemma PrintsAsNamed.unique {payload payload' : Json} {title title' : String}
    {lines lines' : List String} {cut cut' : Bool} (h : PrintsAsNamed payload title lines cut)
    (h' : PrintsAsNamed payload' title' lines' cut')
    (heq : printTextBody payload = printTextBody payload') :
    title = title' ∧ lines = lines' ∧ cut = cut' := by
  have htext : printedRows title lines ++ cutToken cut =
      printedRows title' lines' ++ cutToken cut' := by
    have := h.text
    rw [heq, h'.text] at this
    exact (Option.some.inj this).symm
  -- the rows have no substitute character, so the command tells the cut
  have hcut : cut = cut' := by
    have hs := h.commands
    rw [htext, h'.commands] at hs
    have hsub := congrArg (List.count '\x1a') hs
    have hne : ('\n' == '\x1a') = false := by decide
    simp only [List.count_append, List.count_replicate, hne, Bool.false_eq_true, if_false] at hsub
    cases cut <;> cases cut' <;> simp_all [tokenSpecials]
  subst hcut
  have hrows : printedRows title lines = printedRows title' lines' := by
    have := congrArg String.toList htext
    rw [String.toList_append, String.toList_append] at this
    exact String.toList_inj.mp (List.append_cancel_right this)
  have hsplit := h.rows
  rw [hrows, h'.rows] at hsplit
  have hall : title' :: lines' = title :: lines :=
    List.map_injective_iff.mpr (fun _ _ => String.toList_inj.mp) hsplit
  obtain ⟨rfl, rfl⟩ := List.cons.inj hall
  exact ⟨rfl, rfl, rfl⟩

/-- For every payload that the check accepts: the body holds the title and the lines, row by row,
each no wider than the paper and free of control and format characters, and one command at the
end if the paper is cut; and two accepted payloads with one body name the same text. -/
theorem accepted_text_prints_as_named {payload : Json}
    (h : checkPrintTextPayload payload = .ok ()) :
    (∃ title lines cut, PrintsAsNamed payload title lines cut) ∧
      ∀ payload', checkPrintTextPayload payload' = .ok () →
        printTextBody payload = printTextBody payload' →
          ∀ field ∈ ["title", "lines", "cut"], payload.get field = payload'.get field := by
  refine ⟨prints_of_accepted h, fun payload' h' heq => ?_⟩
  obtain ⟨title, lines, cut, hp⟩ := prints_of_accepted h
  obtain ⟨title', lines', cut', hp'⟩ := prints_of_accepted h'
  obtain ⟨rfl, rfl, rfl⟩ := hp.unique hp' heq
  intro field hfield
  simp only [List.mem_cons, List.not_mem_nil, or_false] at hfield
  rcases hfield with rfl | rfl | rfl
  · rw [hp.names.title, hp'.names.title]
  · rw [hp.names.lines, hp'.names.lines]
  · rw [hp.names.cut, hp'.names.cut]

/-- A closing report of a till. -/
def closingReport : Json :=
  .obj [("cut", .bool true), ("lines", .arr [.str "NEFISKALNY DOKLAD", .str "", .str "12,40"]),
    ("title", .str "PRIEBEZNA UZAVIERKA (X)")]

theorem accepted_text_prints_as_named_report :
    (∃ title lines cut, PrintsAsNamed closingReport title lines cut) ∧
      ∀ payload', checkPrintTextPayload payload' = .ok () →
        printTextBody closingReport = printTextBody payload' →
          ∀ field ∈ ["title", "lines", "cut"], closingReport.get field = payload'.get field :=
  accepted_text_prints_as_named (by decide +kernel)

end DevBridge

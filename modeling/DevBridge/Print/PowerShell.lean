import DevBridge.Text
import DevBridge.Lib.Quoted

/-!
# The PowerShell scripts of the client

A script is built from a fixed command into which printer names and paths are inserted, each in
a single-quoted literal with its apostrophes doubled.  PowerShell ends such a literal at four
more characters, the typographic single quotes, and these are not doubled.
-/

namespace DevBridge.PowerShell

/-! ### Reading -/

def apostrophe : Char := '\x27'

/-- The characters that begin and end a single-quoted literal. -/
def isQuote (c : Char) : Bool :=
  c == apostrophe || (0x2018 ≤ c.toNat && c.toNat ≤ 0x201B)

/-- What PowerShell reads; `none`: a literal is not ended. -/
def read (script : String) : Option (List (Quoted.Piece Char)) :=
  Quoted.read isQuote none script.toList

/-! ### Writing -/

/-- `printer.replace('\'', "''")`. -/
def escapeName (name : String) : String :=
  String.ofList (Quoted.escape apostrophe name.toList)

/-- `'…'` around an escaped text. -/
def quoted (text : String) : String := "'" ++ text ++ "'"

/-- A time as `chrono` prints it. -/
structure ClockTime where
  year : ℕ
  month : ℕ
  day : ℕ
  hour : ℕ
  minute : ℕ
  second : ℕ
deriving DecidableEq, Repr

/-- A number with leading zeros. -/
def padded (width n : ℕ) : String :=
  let digits := (toString n).toList
  String.ofList (List.replicate (width - digits.length) '0' ++ digits)

/-- `%Y-%m-%dT%H:%M:%S`. -/
def ClockTime.format (t : ClockTime) : String :=
  padded 4 t.year ++ "-" ++ padded 2 t.month ++ "-" ++ padded 2 t.day ++ "T" ++
    padded 2 t.hour ++ ":" ++ padded 2 t.minute ++ ":" ++ padded 2 t.second

def PRINT_LOG : String := "Microsoft-Windows-PrintService/Operational"

/-- `spooler_events_query`. -/
def spoolerEventsQuery (printer : String) (spoolJobId : ℕ) (sinceLocal : String) : String :=
  let log := quoted PRINT_LOG
  let since := quoted sinceLocal
  let job := quoted (toString spoolJobId)
  let printer := quoted (escapeName printer)
  let zero := quoted "0"
  let line307 := quoted "307|\x7b0\x7d|\x7b1\x7d"
  let line842 := quoted "842|\x7b0\x7d|\x7b1\x7d"
  s!"$ev = Get-WinEvent -FilterHashtable @\x7bLogName={log}; Id=@(307,842); StartTime=[datetime]{since}\x7d -ErrorAction SilentlyContinue; $ev | Where-Object \x7b $_.Id -eq 307 -and [string]$_.Properties[0].Value -eq {job} -and [string]$_.Properties[4].Value -eq {printer} \x7d | Select-Object -First 1 | ForEach-Object \x7b {line307} -f $_.Properties[6].Value, $_.Properties[5].Value \x7d; $ev | Where-Object \x7b $_.Id -eq 842 -and [string]$_.Properties[0].Value -eq {job} -and [string]$_.Properties[2].Value -eq {printer} -and [string]$_.Properties[5].Value -ne {zero} \x7d | Select-Object -First 1 | ForEach-Object \x7b {line842} -f $_.Properties[5].Value, $_.Properties[1].Value \x7d"

/-- The scripts the client builds. -/
inductive Script where
  /-- The events of a RAW job. -/
  | spoolerEvents (printer : String) (spoolJobId : ℕ) (since : ClockTime)
  /-- The status of a RAW job that was not confirmed. -/
  | jobStatus (printer : String) (spoolJobId : ℕ)
  /-- `verify_eventid_307`: a printed document. -/
  | printed (printer : String) (start : ClockTime)
  /-- `verify_eventid_307`: an error after the deadline. -/
  | errors (printer : String) (start : ClockTime)
  /-- `print_pdf` without SumatraPDF. -/
  | printTo (path printer : String)
  /-- `check_printer_ready`. -/
  | printerReady (printer : String)
  /-- `verify_print_completion`. -/
  | printJobs (printer : String)
  /-- `get_print_queue`. -/
  | printQueue (printer : String)
deriving DecidableEq, Repr

namespace Script

def text : Script → String
  | spoolerEvents printer spoolJobId since =>
    spoolerEventsQuery printer spoolJobId since.format
  | jobStatus printer spoolJobId =>
    let printer := quoted (escapeName printer)
    s!"Get-PrintJob -PrinterName {printer} -ID {spoolJobId} -ErrorAction SilentlyContinue | ForEach-Object \x7b [string]$_.JobStatus \x7d"
  | printed printer start =>
    let log := quoted PRINT_LOG
    let start := quoted start.format
    let printer := quoted (escapeName printer)
    s!"Get-WinEvent -LogName {log} -MaxEvents 20 -ErrorAction SilentlyContinue | Where-Object \x7b $_.Id -eq 307 -and $_.TimeCreated -ge {start} -and $_.Message -match {printer} \x7d | Select-Object -First 1 -ExpandProperty Message"
  | errors printer start =>
    let log := quoted PRINT_LOG
    let start := quoted start.format
    let printer := quoted (escapeName printer)
    s!"Get-WinEvent -LogName {log} -MaxEvents 10 -ErrorAction SilentlyContinue | Where-Object \x7b ($_.Id -eq 372 -or $_.Id -eq 842) -and $_.TimeCreated -ge {start} -and $_.Message -match {printer} \x7d | Select-Object -First 1 -ExpandProperty Message"
  | printTo path printer =>
    let path := quoted (escapeName path)
    let printer := quoted ("\x22" ++ escapeName printer ++ "\x22")
    s!"Start-Process -FilePath {path} -Verb PrintTo -ArgumentList {printer} -Wait -WindowStyle Hidden"
  | printerReady printer =>
    let printer := quoted (escapeName printer)
    s!"Get-Printer -Name {printer} | Select-Object PrinterStatus | ConvertTo-Json"
  | printJobs printer =>
    let printer := quoted (escapeName printer)
    s!"Get-PrintJob -PrinterName {printer} -ErrorAction SilentlyContinue | Select-Object Id, JobStatus, DocumentName, Size | ConvertTo-Json"
  | printQueue printer =>
    let printer := quoted (escapeName printer)
    s!"Get-PrintJob -PrinterName {printer} | Select-Object -ExpandProperty DocumentName"

/-- The names and paths that are inserted. -/
def inserted : Script → List String
  | spoolerEvents printer _ _ | jobStatus printer _ | printed printer _ | errors printer _
  | printerReady printer | printJobs printer | printQueue printer => [printer]
  | printTo path printer => [path, printer]

end Script

/-! ### The commands -/

/-- A literal of a command, and the code that follows. -/
inductive Part where
  | fixed (text code : String)
  /-- An inserted value. -/
  | value (name code : String)
  /-- An inserted value with the same fixed text on both sides. -/
  | wrapped (around name code : String)
deriving DecidableEq, Repr

namespace Part

def slot : Part → Quoted.Slot Char
  | fixed text code => ⟨text.toList, [], [], code.toList⟩
  | value name code => ⟨[], name.toList, [], code.toList⟩
  | wrapped around name code => ⟨around.toList, name.toList, around.toList, code.toList⟩

/-- Writes it behind a text. -/
def write (text : String) : Part → String
  | fixed content code => text ++ quoted content ++ code
  | value name code => text ++ quoted (escapeName name) ++ code
  | wrapped around name code => text ++ quoted (around ++ escapeName name ++ around) ++ code

end Part

namespace Script

/-- Where a command begins. -/
def head : Script → String
  | spoolerEvents _ _ _ => "$ev = Get-WinEvent -FilterHashtable @\x7bLogName="
  | jobStatus _ _ | printJobs _ | printQueue _ => "Get-PrintJob -PrinterName "
  | printed _ _ | errors _ _ => "Get-WinEvent -LogName "
  | printTo _ _ => "Start-Process -FilePath "
  | printerReady _ => "Get-Printer -Name "

/-- The literals of a command. -/
def parts : Script → List Part
  | spoolerEvents printer spoolJobId since => [
      .fixed PRINT_LOG "; Id=@(307,842); StartTime=[datetime]",
      .fixed since.format
        "\x7d -ErrorAction SilentlyContinue; $ev | Where-Object \x7b $_.Id -eq 307 -and [string]$_.Properties[0].Value -eq ",
      .fixed (toString spoolJobId) " -and [string]$_.Properties[4].Value -eq ",
      .value printer " \x7d | Select-Object -First 1 | ForEach-Object \x7b ",
      .fixed "307|\x7b0\x7d|\x7b1\x7d"
        " -f $_.Properties[6].Value, $_.Properties[5].Value \x7d; $ev | Where-Object \x7b $_.Id -eq 842 -and [string]$_.Properties[0].Value -eq ",
      .fixed (toString spoolJobId) " -and [string]$_.Properties[2].Value -eq ",
      .value printer " -and [string]$_.Properties[5].Value -ne ",
      .fixed "0" " \x7d | Select-Object -First 1 | ForEach-Object \x7b ",
      .fixed "842|\x7b0\x7d|\x7b1\x7d" " -f $_.Properties[5].Value, $_.Properties[1].Value \x7d"]
  | jobStatus printer spoolJobId => [
      .value printer (" -ID " ++ toString spoolJobId ++
        " -ErrorAction SilentlyContinue | ForEach-Object \x7b [string]$_.JobStatus \x7d")]
  | printed printer start => [
      .fixed PRINT_LOG
        " -MaxEvents 20 -ErrorAction SilentlyContinue | Where-Object \x7b $_.Id -eq 307 -and $_.TimeCreated -ge ",
      .fixed start.format " -and $_.Message -match ",
      .value printer " \x7d | Select-Object -First 1 -ExpandProperty Message"]
  | errors printer start => [
      .fixed PRINT_LOG
        " -MaxEvents 10 -ErrorAction SilentlyContinue | Where-Object \x7b ($_.Id -eq 372 -or $_.Id -eq 842) -and $_.TimeCreated -ge ",
      .fixed start.format " -and $_.Message -match ",
      .value printer " \x7d | Select-Object -First 1 -ExpandProperty Message"]
  | printTo path printer => [
      .value path " -Verb PrintTo -ArgumentList ",
      .wrapped "\x22" printer " -Wait -WindowStyle Hidden"]
  | printerReady printer => [.value printer " | Select-Object PrinterStatus | ConvertTo-Json"]
  | printJobs printer => [.value printer
      " -ErrorAction SilentlyContinue | Select-Object Id, JobStatus, DocumentName, Size | ConvertTo-Json"]
  | printQueue printer => [.value printer " | Select-Object -ExpandProperty DocumentName"]

def form (s : Script) : Quoted.Form Char := ⟨s.head.toList, s.parts.map Part.slot⟩

/-- The command as it is meant: every inserted value is the content of one literal, or a part
of it with fixed text around it. -/
def command (s : Script) : List (Quoted.Piece Char) := s.form.pieces

end Script

/-- A name without typographic single quotes. -/
def PlainName (name : String) : Prop :=
  ∀ c ∈ name.toList, ¬ (0x2018 ≤ c.toNat ∧ c.toNat ≤ 0x201B)

instance (name : String) : Decidable (PlainName name) :=
  List.decidableBAll (fun c : Char => ¬ (0x2018 ≤ c.toNat ∧ c.toNat ≤ 0x201B)) name.toList

/-! ### The fixed texts -/

/-- A text without quotes. -/
def NoQuotes (text : String) : Prop := ∀ c ∈ text.toList, isQuote c = false

instance (text : String) : Decidable (NoQuotes text) :=
  List.decidableBAll (fun c : Char => isQuote c = false) text.toList

lemma isQuote_apostrophe : isQuote apostrophe = true := rfl

lemma noQuotes_append {text text' : String} (h : NoQuotes text) (h' : NoQuotes text') :
    NoQuotes (text ++ text') := by
  intro c hc
  rw [String.toList_append] at hc
  rcases List.mem_append.mp hc with hc | hc
  · exact h c hc
  · exact h' c hc

lemma isQuote_of_isDigit {c : Char} (h : c.isDigit) : isQuote c = false := by
  have hrange : 48 ≤ c.toNat ∧ c.toNat ≤ 57 := by
    simp only [Char.isDigit, Bool.and_eq_true, decide_eq_true_eq, UInt32.le_iff_toNat_le] at h
    exact h
  have hne : c ≠ apostrophe := by
    rintro rfl
    exact absurd hrange.1 (by decide)
  simp only [isQuote, Bool.or_eq_false_iff, beq_eq_false_iff_ne, Bool.and_eq_false_iff,
    decide_eq_false_iff_not]
  exact ⟨hne, by omega⟩

lemma isDigit_of_mem_toString {n : ℕ} {c : Char} (h : c ∈ (toString n).toList) : c.isDigit := by
  have hrepr : (toString n).toList = Nat.toDigits 10 n := by
    change (Nat.repr n).toList = _
    rw [Nat.repr, String.toList_ofList]
  rw [hrepr] at h
  exact Nat.isDigit_of_mem_toDigits (by omega) (by omega) h

lemma noQuotes_toString (n : ℕ) : NoQuotes (toString n) := fun _ hc =>
  isQuote_of_isDigit (isDigit_of_mem_toString hc)

lemma noQuotes_padded (width n : ℕ) : NoQuotes (padded width n) := by
  intro c hc
  rw [padded, String.toList_ofList] at hc
  rcases List.mem_append.mp hc with hc | hc
  · rw [List.eq_of_mem_replicate hc]
    rfl
  · exact noQuotes_toString n c hc

/-- A time is printed without quotes. -/
lemma noQuotes_format (t : ClockTime) : NoQuotes t.format := by
  have hdash : NoQuotes "-" := by decide
  have hcolon : NoQuotes ":" := by decide
  have hdate := noQuotes_append (noQuotes_append (noQuotes_append (noQuotes_append
    (noQuotes_padded 4 t.year) hdash) (noQuotes_padded 2 t.month)) hdash) (noQuotes_padded 2 t.day)
  have hhour := noQuotes_append (noQuotes_append hdate (by decide : NoQuotes "T"))
    (noQuotes_padded 2 t.hour)
  exact noQuotes_append (noQuotes_append (noQuotes_append (noQuotes_append hhour hcolon)
    (noQuotes_padded 2 t.minute)) hcolon) (noQuotes_padded 2 t.second)

/-! ### The scripts -/

/-- Some text, and no quotes. -/
def isCode (text : String) : Bool := decide (text ≠ "" ∧ NoQuotes text)

lemma isCode_spec {text : String} (h : isCode text = true) :
    text.toList ≠ [] ∧ NoQuotes text := by
  have hcode := of_decide_eq_true h
  exact ⟨fun hnil => hcode.1 (String.toList_eq_nil_iff.mp hnil), hcode.2⟩

lemma Part.fixed_plain {text code : String} (htext : NoQuotes text) (hcode : isCode code = true) :
    (Part.fixed text code).slot.Plain isQuote :=
  ⟨htext, fun _ h => (List.not_mem_nil h).elim, (isCode_spec hcode).2, (isCode_spec hcode).1⟩

lemma Part.value_plain (name : String) {code : String} (hcode : isCode code = true) :
    (Part.value name code).slot.Plain isQuote :=
  ⟨fun _ h => (List.not_mem_nil h).elim, fun _ h => (List.not_mem_nil h).elim,
    (isCode_spec hcode).2, (isCode_spec hcode).1⟩

lemma Part.wrapped_plain {around : String} (name : String) {code : String}
    (haround : NoQuotes around) (hcode : isCode code = true) :
    (Part.wrapped around name code).slot.Plain isQuote :=
  ⟨haround, haround, (isCode_spec hcode).2, (isCode_spec hcode).1⟩

lemma Script.head_plain (s : Script) : NoQuotes s.head := by
  have hheads : ∀ head ∈ ["$ev = Get-WinEvent -FilterHashtable @\x7bLogName=",
      "Get-PrintJob -PrinterName ", "Get-WinEvent -LogName ", "Start-Process -FilePath ",
      "Get-Printer -Name "], NoQuotes head := by decide +kernel
  cases s <;> exact hheads _ (by simp [head])

lemma Script.parts_plain (s : Script) :
    s.parts.Forall fun p => p.slot.Plain isQuote := by
  have hlog : NoQuotes PRINT_LOG := by decide +kernel
  cases s with
  | spoolerEvents printer spoolJobId since =>
    have hjob := noQuotes_toString spoolJobId
    exact ⟨Part.fixed_plain hlog (by decide +kernel),
      Part.fixed_plain (noQuotes_format since) (by decide +kernel),
      Part.fixed_plain hjob (by decide +kernel), Part.value_plain _ (by decide +kernel),
      Part.fixed_plain (by decide +kernel) (by decide +kernel),
      Part.fixed_plain hjob (by decide +kernel), Part.value_plain _ (by decide +kernel),
      Part.fixed_plain (by decide +kernel) (by decide +kernel),
      Part.fixed_plain (by decide +kernel) (by decide +kernel)⟩
  | jobStatus printer spoolJobId =>
    -- the number of the job stands outside the literals
    have hid : isCode " -ID " = true := by decide +kernel
    have htail : NoQuotes
        " -ErrorAction SilentlyContinue | ForEach-Object \x7b [string]$_.JobStatus \x7d" := by
      decide +kernel
    have hcode := noQuotes_append (noQuotes_append (isCode_spec hid).2
      (noQuotes_toString spoolJobId)) htail
    refine ⟨fun _ h => (List.not_mem_nil h).elim, fun _ h => (List.not_mem_nil h).elim, hcode,
      fun hnil => (isCode_spec hid).1 ?_⟩
    simp only [Part.slot, String.toList_append, List.append_eq_nil_iff,
      -String.reduceToList] at hnil
    exact hnil.1.1
  | printed printer start =>
    exact ⟨Part.fixed_plain hlog (by decide +kernel),
      Part.fixed_plain (noQuotes_format start) (by decide +kernel),
      Part.value_plain _ (by decide +kernel)⟩
  | errors printer start =>
    exact ⟨Part.fixed_plain hlog (by decide +kernel),
      Part.fixed_plain (noQuotes_format start) (by decide +kernel),
      Part.value_plain _ (by decide +kernel)⟩
  | printTo path printer =>
    exact ⟨Part.value_plain _ (by decide +kernel),
      Part.wrapped_plain _ (by decide +kernel) (by decide +kernel)⟩
  | printerReady printer => exact Part.value_plain _ (by decide +kernel)
  | printJobs printer => exact Part.value_plain _ (by decide +kernel)
  | printQueue printer => exact Part.value_plain _ (by decide +kernel)

/-- The fixed text of a command has no quotes of its own. -/
lemma Script.form_plain (s : Script) : s.form.Plain isQuote := by
  refine ⟨s.head_plain, fun x hx => ?_⟩
  obtain ⟨p, hp, rfl⟩ := List.mem_map.mp hx
  exact List.forall_iff_forall_mem.mp s.parts_plain p hp

/-- Parts that are written one after the other. -/
lemma foldl_write (parts : List Part) (head : String) :
    (parts.foldl Part.write head).toList =
      (Quoted.Form.mk head.toList (parts.map Part.slot)).text apostrophe := by
  have hquoted : ∀ text : String,
      (quoted text).toList = apostrophe :: (text.toList ++ [apostrophe]) := fun text => by
    simp [quoted, apostrophe]
  induction parts generalizing head with
  | nil => simp [Quoted.Form.text]
  | cons p parts ih =>
    rw [List.foldl_cons, ih]
    cases p <;>
      simp [Quoted.Form.text, Quoted.Slot.text, Part.write, Part.slot, hquoted, escapeName]

/-- The script is the text of its command. -/
lemma Script.text_eq (s : Script) : s.text.toList = s.form.text apostrophe := by
  have htext : s.text = s.parts.foldl Part.write s.head := by
    cases s with
    | jobStatus printer spoolJobId =>
      change _ ++ " -ID " ++ _ ++ _ = _ ++ (" -ID " ++ _ ++ _)
      rw [String.append_assoc, String.append_assoc, String.append_assoc]
      rfl
    | _ => rfl
  rw [htext]
  exact foldl_write s.parts s.head

lemma straight_iff (name : String) :
    Quoted.Straight isQuote apostrophe name.toList ↔ PlainName name := by
  refine forall₂_congr fun c _ => ?_
  simp only [isQuote, Bool.or_eq_true, beq_iff_eq, Bool.and_eq_true, decide_eq_true_eq]
  constructor
  · intro h hrange
    have := h (.inr hrange)
    subst this
    exact absurd hrange.1 (by decide)
  · rintro h (hc | hc)
    · exact hc
    · exact absurd hc h

/-- The names and paths are the values of the slots. -/
lemma Script.straight_slots (s : Script) :
    (∀ x ∈ s.form.slots, Quoted.Straight isQuote apostrophe x.value) ↔
      ∀ name ∈ s.inserted, PlainName name := by
  have hfixed : ∀ text code : String,
      Quoted.Straight isQuote apostrophe (Part.fixed text code).slot.value :=
    fun _ _ _ h => (List.not_mem_nil h).elim
  have hvalue : ∀ name code : String,
      Quoted.Straight isQuote apostrophe (Part.value name code).slot.value ↔ PlainName name :=
    fun name _ => straight_iff name
  have hwrapped : ∀ around name code : String,
      Quoted.Straight isQuote apostrophe (Part.wrapped around name code).slot.value ↔
        PlainName name := fun _ name _ => straight_iff name
  rw [form, List.forall_mem_map]
  cases s <;>
    simp only [parts, inserted, List.forall_mem_cons, List.not_mem_nil, false_implies,
      implies_true, and_true, true_and, hfixed, hvalue, hwrapped, and_self]

/-- A script is read as its fixed command, with every name and path the content of its literal,
just when no inserted name has a typographic single quote. -/
theorem names_are_data (s : Script) :
    read s.text = some s.command ↔ ∀ name ∈ s.inserted, PlainName name := by
  rw [read, s.text_eq, Script.command, Quoted.Form.read_iff isQuote_apostrophe s.form_plain,
    s.straight_slots]

/-- A printer name with typographic quotes ends its literal: what follows is a command. -/
theorem name_is_command : ¬ ∀ s : Script, read s.text = some s.command := by
  intro h
  have hread : read (Script.printerReady "Bar’; calc; ’").text ≠
      some (Script.printerReady "Bar’; calc; ’").command := by decide +kernel
  exact hread (h _)

end DevBridge.PowerShell

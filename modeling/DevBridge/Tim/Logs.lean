import DevBridge.Lib.Transition
import DevBridge.Lib.Volume
import DevBridge.Text

/-!
# The store of the terminal's log records

Every record goes to the file of its day.  The threads of the library take their time first and
the sink afterwards, so the days of the records come in any order.  When a record is of another
day than the one before, its file is opened and a housekeeping pass is started on a thread of
its own: it packs the files of the days before and deletes the packed ones that are too old.
The passes exclude each other, but not the records: a pass is a sequence of file operations,
and records are written between any two of them.

The content of a packed file is told as what it unpacks to.
-/

namespace DevBridge

namespace Tim

/-! ### File names -/

/-- Days are counted. -/
abbrev Day := ℤ

abbrev FileName := List Char

/-- What the date library does with the days that the clock can show. -/
structure Calendar where
  days : Day → Bool
  /-- `%Y-%m-%d`. -/
  format : Day → List Char
  parse : List Char → Option Day
  parse_format : ∀ day, days day = true → parse (format day) = some day
  length_format : ∀ day, days day = true → ((format day).map Char.utf8Size).sum = 10

/-- Days that a packed log is kept. -/
def retentionDays : ℤ := 100

/-- `str::strip_suffix`. -/
def stripSuffix (suf s : FileName) : Option FileName :=
  if suf.isSuffixOf s then some (s.take (s.length - suf.length)) else none

/-- `file_name`. -/
def fileName (cal : Calendar) (day : Day) : FileName :=
  "tim-".toList ++ cal.format day ++ ".log".toList

/-- The packed file of a log. -/
def gzName (name : FileName) : FileName := name ++ ".gz".toList

/-- The file that a packed file is written to first. -/
def tmpName (name : FileName) : FileName := name ++ ".gz.tmp".toList

/-- The date in a name, and whether the log is packed. -/
def nameDate (rest : FileName) : Option (FileName × Bool) :=
  match stripSuffix ".log.gz".toList rest with
  | some date => some (date, true)
  | none => (stripSuffix ".log".toList rest).map fun date => (date, false)

/-- `parse_file_name`: the day of a log, and whether it is packed. -/
def parseFileName (cal : Calendar) (name : FileName) : Option (Day × Bool) :=
  if "tim-".toList.isPrefixOf name then
    match nameDate (name.drop 4) with
    | none => none
    | some (date, gz) =>
      if (date.map Char.utf8Size).sum = 10 then (cal.parse date).map fun day => (day, gz)
      else none
  else none

/-! ### The store -/

/-- What a pass has done. -/
structure Housekeeping where
  compressed : List FileName
  deleted : List FileName
deriving DecidableEq, Repr

/-- Which operation of a pass is next. -/
inductive Stage where
  /-- The next file is looked at, and opened if it is to be packed. -/
  | looking
  /-- The new file is created. -/
  | opened (name : FileName) (date : Day) (input : ℕ)
  /-- The log is copied into it. -/
  | created (name : FileName) (date : Day) (input tmp : ℕ)
  /-- It is finished and synced. -/
  | copied (name : FileName) (date : Day) (tmp : ℕ)
  /-- It gets its name. -/
  | synced (name : FileName) (date : Day)
  /-- The log is removed. -/
  | renamed (name : FileName) (date : Day)
  /-- The packed file is removed, if it is too old. -/
  | archived (gz : FileName) (date : Day)
deriving DecidableEq, Repr

structure Pass where
  today : Day
  /-- The sink is set when it is over. -/
  installs : Bool
  /-- The names that were listed and not yet looked at. -/
  rest : List FileName
  done : Housekeeping
  stage : Stage
deriving DecidableEq, Repr

structure LogWorld where
  dir : Volume FileName Char
  /-- The sink, and the file that it has open. -/
  sink : Option (Option (Day × ℕ))
  /-- A thread holds the sink and writes this next. -/
  writing : Option (Day × List Char)
  /-- The passes that wait for their turn. -/
  waiting : List (Day × Bool)
  running : Option Pass
  /-- How many threads are about to set the sink. -/
  installing : ℕ
  /-- The records that were written, until a pass runs that is more than the retention after
  them. -/
  due : List (Day × List Char)

inductive LogStep where
  /-- `set_global_sink` begins; the directory may fail to be created. -/
  | install (today : Day) (ok : Bool)
  | setSink
  /-- A record gets the sink; its file may fail to be opened. -/
  | publish (today : Day) (line : List Char) (ok : Bool)
  /-- The record is written; `some n`: the write fails after a part of it. -/
  | write (fault : Option ℕ)
  /-- A pass gets its turn and lists the directory; `none`: that fails. -/
  | begin (place : ℕ) (names : Option (List FileName))
  /-- The pass does its next operation; `some n`: it fails, after a part of a copy. -/
  | pass (fault : Option ℕ)
  /-- The process ends. -/
  | crash

namespace LogWorld

variable (cal : Calendar) (w : LogWorld)

/-- A pass of a day runs: what is older than its retention is not due any more. -/
def expire (today : Day) : LogWorld :=
  { w with due := w.due.filter fun record => today ≤ record.1 + retentionDays }

def setPass (p : Pass) : LogWorld := { w with running := some p }

def endPass (p : Pass) : LogWorld :=
  { w with
    running := none
    installing := if p.installs then w.installing + 1 else w.installing }

/-- The next operation of `housekeep`. -/
def runPass (p : Pass) (fault : Option ℕ) : LogWorld :=
  match p.stage with
  | .looking =>
    match p.rest with
    | [] => w.endPass p
    | name :: rest =>
      match parseFileName cal name with
      | none => w.setPass { p with rest := rest }
      | some (date, true) => w.setPass { p with rest := rest, stage := .archived name date }
      | some (date, false) =>
        if date < p.today then
          match w.dir.entry name, fault with
          | some input, none =>
            w.setPass { p with rest := rest, stage := .opened name date input }
          | _, _ => w.endPass p
        else w.setPass { p with rest := rest }
  | .opened name date input =>
    match fault with
    | none =>
      { w.setPass { p with stage := .created name date input (w.dir.create (tmpName name)).2 } with
        dir := (w.dir.create (tmpName name)).1 }
    | some _ => w.endPass p
  | .created name date input tmp =>
    match fault with
    | none =>
      { w.setPass { p with stage := .copied name date tmp } with
        dir := w.dir.append tmp (w.dir.content input) }
    | some n =>
      { w.endPass p with dir := w.dir.append tmp ((w.dir.content input).take n) }
  | .copied name date _ =>
    match fault with
    | none => w.setPass { p with stage := .synced name date }
    | some _ => w.endPass p
  | .synced name date =>
    match w.dir.rename (tmpName name) (gzName name), fault with
    | some dir, none => { w.setPass { p with stage := .renamed name date } with dir := dir }
    | _, _ => w.endPass p
  | .renamed name date =>
    match w.dir.remove name, fault with
    | some dir, none =>
      { w.setPass { p with
          done := { p.done with compressed := p.done.compressed ++ [name] }
          stage := .archived (gzName name) date } with dir := dir }
    | _, _ => w.endPass p
  | .archived gz date =>
    if date < p.today - retentionDays then
      match w.dir.remove gz, fault with
      | some dir, none =>
        { w.setPass { p with
            done := { p.done with deleted := p.done.deleted ++ [gz] }
            stage := .looking } with dir := dir }
      | _, _ => w.endPass p
    else w.setPass { p with stage := .looking }

/-- `DailyLog::write` up to the write: the file of another day is opened, and a pass started. -/
def publish (today : Day) (line : List Char) (ok : Bool) (opened : Option (Day × ℕ)) : LogWorld :=
  if opened.map Prod.fst = some today then { w with writing := some (today, line) }
  else if ok then
    { w with
      dir := (w.dir.openAppend (fileName cal today)).1
      sink := some (some (today, (w.dir.openAppend (fileName cal today)).2))
      writing := some (today, line)
      waiting := (today, false) :: w.waiting }
  else { w with sink := some none }

/-- `write_all`. -/
def write (fault : Option ℕ) (day : Day) (line : List Char) (id : ℕ) : LogWorld :=
  match fault with
  | none =>
    { w with
      dir := w.dir.append id line
      writing := none
      due := (day, line) :: w.due }
  | some n => { w with dir := w.dir.append id (line.take n), writing := none }

/-- One step; `none` when it cannot happen now. -/
def step : LogStep → Option LogWorld
  | .install today ok => some (if ok then { w with waiting := (today, true) :: w.waiting } else w)
  | .setSink =>
    if 0 < w.installing ∧ w.writing = none then
      some { w with sink := some none, installing := w.installing - 1 }
    else none
  | .publish today line ok =>
    match w.writing, w.sink with
    | none, some opened =>
      if cal.days today then some (w.publish cal today line ok opened) else none
    | none, none => some w
    | some _, _ => none
  | .write fault =>
    match w.writing, w.sink with
    | some (day, line), some (some (_, id)) => some (w.write fault day line id)
    | _, _ => none
  | .begin place names =>
    match w.running, w.waiting[place]? with
    | none, some (today, installs) =>
      let begun := { w.expire today with waiting := w.waiting.eraseIdx place }
      match names with
      | none => some (begun.endPass ⟨today, installs, [], ⟨[], []⟩, .looking⟩)
      | some names =>
        if (∀ name ∈ names, (w.dir.entry name).isSome) ∧ names.Pairwise (· < ·) then
          some (begun.setPass ⟨today, installs, names, ⟨[], []⟩, .looking⟩)
        else none
    | _, _ => none
  | .pass fault => w.running.map fun p => (w.expire p.today).runPass cal p fault
  | .crash =>
    some { w with sink := none, writing := none, waiting := [], running := none, installing := 0 }

end LogWorld

/-- The log store over a directory, before the first start. -/
def logStore (cal : Calendar) (dir : Volume FileName Char) : Transition LogWorld LogStep where
  init :=
    { dir := dir
      sink := none
      writing := none
      waiting := []
      running := none
      installing := 0
      due := [] }
  step w e := w.step cal e

end Tim

end DevBridge

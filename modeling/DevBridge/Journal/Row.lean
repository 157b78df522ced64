import DevBridge.Api

/-!
# One row of the journal

Both job tables of the journal share one state machine, and every statement that changes a
single row is an `UPDATE … WHERE` with a guard on the row's state.  This file lists these
statements, with the guard and the assignments of each, and says once what any of them can
do to a row: the row's own job never changes, its state only moves forward, and the first
final outcome stays.

    received ──startExecution──> executing ──recordOutcome──> done | failed
        │                            └──────────────> indeterminate ──> done | failed
        └── refused before any device contact ──> failed
-/

namespace DevBridge

/-- A moment, in nanoseconds.  The journal stores RFC 3339 texts in UTC, whose order is the
order of the moments. -/
abbrev Time := ℕ

/-- The text a moment is stored as; equal moments have equal texts. -/
def timeText (t : Time) : String := toString t

/-- Where a journaled job stands. -/
inductive JobState where
  /-- Journaled, no device contact yet. -/
  | received
  /-- Handed to the executor: the device may be running it. -/
  | executing
  /-- The device ran it (final). -/
  | done
  /-- Nothing ran (final). -/
  | failed
  /-- Unknown whether it ran: waiting for reconciliation. -/
  | indeterminate
deriving DecidableEq, Repr

namespace JobState

def asStr : JobState → String
  | received => "received"
  | executing => "executing"
  | done => "done"
  | failed => "failed"
  | indeterminate => "indeterminate"

/-- `done` or `failed`: never changes again. -/
def isFinal : JobState → Bool
  | done | failed => true
  | _ => false

/-- `state IN OPEN_STATES`: an outcome may still be recorded. -/
def isOpen : JobState → Bool
  | received | executing | indeterminate => true
  | _ => false

/-- How far a job is: the state machine never goes back to a smaller rank. -/
def rank : JobState → ℕ
  | received => 0
  | executing => 1
  | indeterminate => 2
  | done | failed => 3

lemma isOpen_eq_not_isFinal (s : JobState) : s.isOpen = !s.isFinal := by
  cases s <;> rfl

@[simp] lemma isFinal_iff {s : JobState} : s.isFinal = true ↔ s = done ∨ s = failed := by
  cases s <;> simp [isFinal]

@[simp] lemma isOpen_iff {s : JobState} : s.isOpen = true ↔ s ≠ done ∧ s ≠ failed := by
  cases s <;> simp [isOpen]

end JobState

/-- The `indeterminate` ack of a job whose outcome is unknown. -/
inductive Report where
  | none
  | owed
  | sent
deriving DecidableEq, Repr

/-- What the device did with a job. -/
inductive Outcome where
  /-- It ran; the result is the device's answer. -/
  | done (result : Json)
  /-- The device confirmed that nothing ran. -/
  | failed (code text : String)
  /-- Unknown whether it ran. -/
  | indeterminate (reason : String)
deriving DecidableEq, Repr

/-- The outcome as its row gives it back: the result is stored as a text. -/
def Outcome.reread (read : Number → Number) : Outcome → Outcome
  | done result => done (result.reread read)
  | failed code text => failed code text
  | indeterminate reason => indeterminate reason

/-- The device's answer to the question what happened to a job. -/
inductive Reconciliation where
  | done (result : Json)
  | failed (code text : String)
  | stillUnknown (reason : String)
deriving DecidableEq, Repr

/-- One journal row. -/
structure JournalEntry where
  job : DeviceJob
  state : JobState
  /-- The device's answer (`done`). -/
  result : Option Json
  errorCode : Option String
  /-- The text of a failure, or the last reason why the outcome is unknown. -/
  errorText : Option String
  /-- Odoo accepted the final ack; in the LAN table, the report. -/
  acked : Bool
  ackNote : Option String
  report : Report
  reconcileAttempts : ℕ
  receivedAt : Time
  updatedAt : Time
  /-- When the executor was about to ask the device for the first time. -/
  deviceContactAt : Option Time
deriving DecidableEq, Repr

namespace JournalEntry

/-- The ack this row owes Odoo right now, if any. -/
def owedAck (e : JournalEntry) : Option AckRequest :=
  let text := e.errorText.getD ""
  match e.state with
  | .done => if e.acked then none else some (.done e.job.id (e.result.getD .null))
  | .failed => if e.acked then none else some (.failed e.job.id (e.errorCode.getD "") text)
  | .indeterminate =>
    if e.report = .owed then some (.indeterminate e.job.id text) else none
  | _ => none

end JournalEntry

/-- A fresh row of a job: `received`, or `failed` at once when it was refused. -/
def newEntry (job : DeviceJob) (refused : Option (String × String)) (now : Time) :
    JournalEntry where
  job
  state := if refused.isSome then .failed else .received
  result := none
  errorCode := refused.map Prod.fst
  errorText := refused.map Prod.snd
  acked := false
  ackNote := none
  report := .none
  reconcileAttempts := 0
  receivedAt := now
  updatedAt := now
  deviceContactAt := none

/-! ### The statements that change one row -/

/-- The two job tables. -/
inductive JobTable where
  | odoo
  | lan
deriving DecidableEq, Repr

namespace JobTable

/-- Set when a job becomes final: the outcome is owed to Odoo (again). -/
def oweOutcome : JobTable → JournalEntry → JournalEntry
  | odoo, e => { e with acked := false, ackNote := none }
  | lan, e => { e with acked := false, ackNote := none }

/-- Set when the outcome stays unknown: only Odoo jobs owe the `indeterminate` ack, once. -/
def oweUnknown : JobTable → JournalEntry → JournalEntry
  | odoo, e => { e with report := if e.report = .sent then .sent else .owed }
  | lan, e => e

end JobTable

/-- The statements that change at most one row. -/
inductive RowOp where
  | startExecution
  | recordOutcome (outcome : Outcome)
  | failUnstarted (code text : String)
  | markDeviceContact
  | recordStillUnknown (reason : String)
  | markAcked (note : String)
  | markReported
  | reopenAck
  /-- The device contact of a card job, set only while it executes. -/
  | cardContact
  /-- The report of a LAN job was answered. -/
  | markLanReported (note : String)
deriving DecidableEq, Repr

namespace RowOp

/-- The `WHERE` clause, next to the row's id. -/
def guard : RowOp → JournalEntry → Bool
  | startExecution, e => e.state == .received
  | recordOutcome _, e => e.state.isOpen
  | failUnstarted _ _, e => e.state == .received
  | markDeviceContact, e => e.deviceContactAt.isNone
  | recordStillUnknown _, e => e.state == .indeterminate
  | markAcked _, e => e.state.isFinal
  | markReported, e => e.state == .indeterminate
  | reopenAck, e => e.state.isFinal && e.acked
  | cardContact, e => e.deviceContactAt.isNone && e.state == .executing
  | markLanReported _, e => e.state.isFinal

/-- The `SET` clause. -/
def set (t : JobTable) (now : Time) : RowOp → JournalEntry → JournalEntry
  | startExecution, e => { e with state := .executing, updatedAt := now }
  | recordOutcome (.done result), e =>
    { t.oweOutcome e with
      state := .done, result := some result, errorCode := none, errorText := none,
      updatedAt := now }
  | recordOutcome (.failed code text), e =>
    { t.oweOutcome e with
      state := .failed, result := none, errorCode := some code, errorText := some text,
      updatedAt := now }
  | recordOutcome (.indeterminate reason), e =>
    { t.oweUnknown e with
      state := .indeterminate, errorText := some reason, updatedAt := now }
  | failUnstarted code text, e =>
    { t.oweOutcome e with
      state := .failed, errorCode := some code, errorText := some text, updatedAt := now }
  | markDeviceContact, e => { e with deviceContactAt := some now, updatedAt := now }
  | recordStillUnknown reason, e =>
    { t.oweUnknown e with
      reconcileAttempts := e.reconcileAttempts + 1, errorText := some reason,
      updatedAt := now }
  | markAcked note, e => { e with acked := true, ackNote := some note, updatedAt := now }
  | markReported, e => { e with report := .sent, updatedAt := now }
  | reopenAck, e => { e with acked := false, updatedAt := now }
  | cardContact, e => { e with deviceContactAt := some now, updatedAt := now }
  -- the time of the outcome stays: it is the report's `executed_at`
  | markLanReported note, e => { e with acked := true, ackNote := some note }

/-- One statement on one row. -/
def apply (t : JobTable) (now : Time) (op : RowOp) (e : JournalEntry) : JournalEntry :=
  if op.guard e then op.set t now e else e

end RowOp

/-- Restart recovery of one row: a job in flight is `indeterminate`, with the state it was
found in. -/
def recoverRow (now : Time) (e : JournalEntry) : JournalEntry :=
  if e.state = .received ∨ e.state = .executing then
    { e with
      errorText := some ("devbridge restarted while the job was " ++ e.state.asStr),
      state := .indeterminate, updatedAt := now }
  else e

@[simp] lemma set_job (t : JobTable) (now : Time) (op : RowOp) (e : JournalEntry) :
    (op.set t now e).job = e.job := by
  cases op with
  | recordOutcome o => cases o <;> cases t <;> rfl
  | _ => cases t <;> rfl

@[simp] lemma apply_job (t : JobTable) (now : Time) (op : RowOp) (e : JournalEntry) :
    (op.apply t now e).job = e.job := by
  unfold RowOp.apply
  split
  · exact set_job t now op e
  · rfl

@[simp] lemma recoverRow_job (now : Time) (e : JournalEntry) :
    (recoverRow now e).job = e.job := by
  unfold recoverRow
  split <;> rfl

/-! ### Well-formed rows -/

/-- A `done` row carries a result and no error code, a `failed` row an error code and no
result, and no other row carries a result. -/
structure RowWf (e : JournalEntry) : Prop where
  done : e.state = .done → e.result.isSome ∧ e.errorCode = none
  failed : e.state = .failed → e.errorCode.isSome ∧ e.result = none
  unfinished : e.state.isFinal = false → e.result = none

lemma newEntry_wf (job : DeviceJob) (refused : Option (String × String)) (now : Time) :
    RowWf (newEntry job refused now) := by
  cases refused with
  | none => exact ⟨by simp [newEntry], by simp [newEntry], by simp [newEntry]⟩
  | some r => exact ⟨by simp [newEntry], by simp [newEntry], by simp [newEntry]⟩

lemma apply_wf {t : JobTable} {now : Time} {op : RowOp} {e : JournalEntry} (h : RowWf e) :
    RowWf (op.apply t now e) := by
  obtain ⟨hdone, hfailed, hopen⟩ := h
  unfold RowOp.apply
  split
  · rename_i hg
    cases op with
    | recordOutcome o =>
      -- an open row carries no result
      have hres : e.result = none := by
        apply hopen
        simp only [RowOp.guard, JobState.isOpen_eq_not_isFinal, Bool.not_eq_true'] at hg
        exact hg
      cases o <;> cases t <;>
        exact ⟨by simp [RowOp.set], by simp [RowOp.set],
          by simp [RowOp.set, JobTable.oweUnknown, hres, JobState.isFinal]⟩
    | startExecution =>
      have hs : e.state = .received := by simpa [RowOp.guard] using hg
      have hres : e.result = none := hopen (by rw [hs]; rfl)
      exact ⟨by simp [RowOp.set], by simp [RowOp.set], fun _ => hres⟩
    | failUnstarted code text =>
      have hs : e.state = .received := by simpa [RowOp.guard] using hg
      have hres : e.result = none := hopen (by rw [hs]; rfl)
      cases t <;>
        exact ⟨by simp [RowOp.set], fun _ => ⟨rfl, hres⟩, fun _ => hres⟩
    | recordStillUnknown reason => cases t <;> exact ⟨hdone, hfailed, hopen⟩
    | markDeviceContact | markAcked _ | markReported | reopenAck | cardContact
    | markLanReported _ => exact ⟨hdone, hfailed, hopen⟩
  · exact ⟨hdone, hfailed, hopen⟩

lemma recoverRow_wf {now : Time} {e : JournalEntry} (h : RowWf e) :
    RowWf (recoverRow now e) := by
  unfold recoverRow
  split
  · rename_i hs
    have hres : e.result = none := by
      apply h.unfinished
      rcases hs with hs | hs <;> rw [hs] <;> rfl
    exact ⟨by simp, by simp, fun _ => hres⟩
  · exact h

/-! ### What a row can become -/

/-- The state, the result and the error of a row: what an ack or an answer reports. -/
def JournalEntry.verdict (e : JournalEntry) :
    JobState × Option Json × Option String × Option String :=
  (e.state, e.result, e.errorCode, e.errorText)

/-- What any run of statements can make of a row. -/
structure RowLater (e e' : JournalEntry) : Prop where
  job : e'.job = e.job
  rank : e.state.rank ≤ e'.state.rank
  /-- The first final outcome wins. -/
  verdict : e.state.isFinal = true → e'.verdict = e.verdict
  /-- The first device contact is kept. -/
  contact : ∀ t, e.deviceContactAt = some t → e'.deviceContactAt = some t
  wf : RowWf e → RowWf e'

namespace RowLater

lemma refl (e : JournalEntry) : RowLater e e := ⟨rfl, le_refl _, fun _ => rfl, fun _ h => h, id⟩

lemma trans {a b c : JournalEntry} (h : RowLater a b) (h' : RowLater b c) : RowLater a c where
  job := h'.job.trans h.job
  rank := h.rank.trans h'.rank
  verdict hf := by
    have hb := h.verdict hf
    have hs : b.state = a.state := congrArg Prod.fst hb
    exact (h'.verdict (by rw [hs]; exact hf)).trans hb
  contact t ht := h'.contact t (h.contact t ht)
  wf hw := h'.wf (h.wf hw)

/-- A final state is final for ever. -/
lemma final {e e' : JournalEntry} (h : RowLater e e') (hf : e.state.isFinal = true) :
    e'.state = e.state :=
  congrArg Prod.fst (h.verdict hf)

end RowLater

/-- One statement makes a later row. -/
lemma apply_later (t : JobTable) (now : Time) (op : RowOp) (e : JournalEntry) :
    RowLater e (op.apply t now e) := by
  have hwf := @apply_wf t now op e
  unfold RowOp.apply at hwf ⊢
  split
  · rename_i hg
    simp only [hg, if_true] at hwf
    refine ⟨set_job t now op e, ?_, ?_, ?_, hwf⟩
    · -- a guard on the state leaves one state to look at, or all open ones
      cases op with
      | recordOutcome o =>
        simp only [RowOp.guard, JobState.isOpen_iff] at hg
        cases o <;> cases t <;> cases hs : e.state <;>
          simp_all [RowOp.set, JobTable.oweOutcome, JobTable.oweUnknown, JobState.rank]
      | startExecution | failUnstarted _ _ | markDeviceContact | recordStillUnknown _
      | markAcked _ | markReported | reopenAck | cardContact | markLanReported _ =>
        cases t <;> simp_all [RowOp.guard, RowOp.set, JobTable.oweOutcome,
          JobTable.oweUnknown, JobState.rank]
    · intro hf
      rw [JobState.isFinal_iff] at hf
      cases op with
      | recordOutcome o =>
        simp only [RowOp.guard, JobState.isOpen_iff] at hg
        exact absurd hf (by tauto)
      | startExecution | failUnstarted _ _ | recordStillUnknown _ | markReported
      | cardContact =>
        exfalso
        rcases hf with hf | hf <;> simp [RowOp.guard, hf] at hg
      | markDeviceContact | markAcked _ | reopenAck | markLanReported _ => rfl
    · intro c hc
      cases op with
      | recordOutcome o => cases o <;> cases t <;> exact hc
      | markDeviceContact | cardContact => simp [RowOp.guard, hc] at hg
      | startExecution | failUnstarted _ _ | recordStillUnknown _ | markAcked _
      | markReported | reopenAck | markLanReported _ => cases t <;> exact hc
  · exact RowLater.refl e

lemma recoverRow_later (now : Time) (e : JournalEntry) : RowLater e (recoverRow now e) := by
  have hwf := @recoverRow_wf now e
  unfold recoverRow at hwf ⊢
  split
  · rename_i hs
    simp only [hs, if_true] at hwf
    refine ⟨rfl, ?_, ?_, fun _ h => h, hwf⟩
    · rcases hs with hs | hs <;> simp [hs, JobState.rank]
    · intro hf
      rcases hs with hs | hs <;> simp [hs] at hf
  · exact RowLater.refl e

end DevBridge

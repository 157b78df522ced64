import DevBridge.Journal.Effects

/-!
# The device seam

An executor drives the devices of one kind.  A call of its `execute` or `reconcile` is a
program that runs beside the rest of the bridge, so it is given by its states and its steps:
a step sees the journal, the devices and the memory that the executor's calls share, and
changes them.  What survives the process (the devices, the requests on their way to them) is
kept apart from the memory, which a crash wipes out.

An executor writes its own marks into the journal, but it never decides a job's state: that
is the law every executor carries.
-/

namespace DevBridge

/-- The store device an executor drives. -/
inductive DeviceKind where
  /-- eKasa receipts and the cash drawer: `fiscal.*` jobs. -/
  | fiscal
  /-- Card payments: `card.*` jobs. -/
  | card
deriving DecidableEq, Repr

namespace DeviceKind

/-- The kind a job type needs. -/
def forJobType (jobType : String) : Option DeviceKind :=
  if startsWith jobType "fiscal." then some fiscal
  else if startsWith jobType "card." then some card
  else none

def asStr : DeviceKind → String
  | fiscal => "fiscal"
  | card => "card"

end DeviceKind

/-- One device's serial queue. -/
structure DeviceQueue where
  kind : DeviceKind
  endpoint : String
deriving DecidableEq, Repr

namespace DeviceQueue

def toText (q : DeviceQueue) : String :=
  if q.endpoint = "" then q.kind.asStr else q.kind.asStr ++ "@" ++ q.endpoint

end DeviceQueue

/-- Why a job is refused before any device contact. -/
structure Rejection where
  code : String
  text : String
deriving DecidableEq, Repr

/-! ### Executors -/

/-- What a call of an executor sees and changes in one step. -/
structure ExecState (Dev Vol : Type) where
  journal : Journal
  /-- The devices, and what is on its way to them. -/
  dev : Dev
  /-- The memory of the process. -/
  vol : Vol

/-- The marks an executor makes in the job rows: only the device contact (with the time of
the write) changes, and the first contact is kept. -/
structure ExecutorMarks (j j' : Journal) : Prop where
  readFloat : j'.readFloat = j.readFloat
  rows : ∀ id, (j.get id = none ∧ j'.get id = none) ∨
    ∃ e contact updatedAt, j.get id = some e ∧
      j'.get id = some { e with deviceContactAt := contact, updatedAt } ∧
      ∀ t, e.deviceContactAt = some t → contact = some t

/-- An executor: its calls, their steps and the devices it drives. -/
structure Executor where
  /-- The state of one running call. -/
  Task : Type
  Dev : Type
  Vol : Type
  /-- What may happen in one step of a call. -/
  Event : Type
  /-- What may happen to the devices by themselves. -/
  DevEvent : Type
  dev₀ : Dev
  vol₀ : Vol
  /-- What the JSON library of the bridge reads of the text of a double. -/
  readFloat : Number → Number
  /-- Whether the executor drives a kind of device. -/
  drives : DeviceKind → Bool
  /-- Refuse a job before it is journaled. -/
  check : DeviceJob → Except Rejection Unit
  /-- The device address a job runs on: it depends on the job's type and till only. -/
  endpoint : DeviceJob → String
  /-- The call `execute` at its first instruction. -/
  execute : DeviceJob → Task
  /-- The call `reconcile` at its first instruction. -/
  reconcile : JournalEntry → Task
  /-- The calls that run as long as the source does. -/
  background : List Task
  /-- One step of the call with the given number. -/
  step : Time → ℕ → Event → Task → ExecState Dev Vol → Option (Task × ExecState Dev Vol)
  devStep : DevEvent → Dev → Option Dev
  /-- What `execute` returned, once it has. -/
  outcome : Task → Option Outcome
  /-- What `reconcile` returned, once it has. -/
  answer : Task → Option Reconciliation
  /-- Whether `execute` of a job may run longer than the source's guard: the executor's own
  time limits bound every other call. -/
  mayOutlastGuard : DeviceJob → Bool
  endpoint_till : ∀ a b : DeviceJob, a.jobType = b.jobType → a.kasaId = b.kasaId →
    endpoint a = endpoint b
  step_marks : ∀ {now i ev t s t' s'}, step now i ev t s = some (t', s') →
    ExecutorMarks s.journal s'.journal

namespace ExecutorMarks

variable {j j' : Journal}

lemma of_get_eq (hread : j'.readFloat = j.readFloat) (h : ∀ id, j'.get id = j.get id) :
    ExecutorMarks j j' where
  readFloat := hread
  rows id := by
    rw [h]
    cases he : j.get id with
    | none => exact Or.inl ⟨rfl, rfl⟩
    | some e => exact Or.inr ⟨e, e.deviceContactAt, e.updatedAt, rfl, rfl, fun _ h => h⟩

lemma refl (j : Journal) : ExecutorMarks j j := of_get_eq rfl fun _ => rfl

lemma trans {j₁ j₂ j₃ : Journal} (h : ExecutorMarks j₁ j₂) (h' : ExecutorMarks j₂ j₃) :
    ExecutorMarks j₁ j₃ := by
  refine ⟨h'.readFloat.trans h.readFloat, fun id => ?_⟩
  rcases h.rows id with ⟨h1, h2⟩ | ⟨e, c, u, h1, h2, hc⟩
  · rcases h'.rows id with ⟨-, h3⟩ | ⟨e', c', u', h3, -, -⟩
    · exact Or.inl ⟨h1, h3⟩
    · exact absurd (h2.symm.trans h3) (by simp)
  · rcases h'.rows id with ⟨h3, -⟩ | ⟨e', c', u', h3, h4, hc'⟩
    · exact absurd (h2.symm.trans h3) (by simp)
    · rw [h2] at h3
      cases h3
      exact Or.inr ⟨e, c', u', h1, h4, fun t ht => hc' t (hc t ht)⟩

/-- What a contact mark makes of a row. -/
def OfRow (e e' : JournalEntry) : Prop :=
  ∃ contact updatedAt, e' = { e with deviceContactAt := contact, updatedAt } ∧
    ∀ t, e.deviceContactAt = some t → contact = some t

lemma OfRow.refl (e : JournalEntry) : OfRow e e :=
  ⟨e.deviceContactAt, e.updatedAt, rfl, fun _ h => h⟩

lemma OfRow.apply {op : RowOp} (hop : op = .markDeviceContact ∨ op = .cardContact)
    (t : JobTable) (now : Time) (e : JournalEntry) : OfRow e (op.apply t now e) := by
  unfold RowOp.apply
  split
  · rename_i hg
    have hnone : e.deviceContactAt = none := by
      rcases hop with rfl | rfl <;> simp [RowOp.guard] at hg
      · exact hg
      · exact hg.1
    refine ⟨some now, now, ?_, fun t ht => ?_⟩
    · rcases hop with rfl | rfl <;> rfl
    · rw [hnone] at ht
      cases ht
  · exact OfRow.refl e

lemma of_map {f : ℤ → JournalEntry → JournalEntry} (hread : j'.readFloat = j.readFloat)
    (hf : ∀ id e, OfRow e (f id e)) (h : ∀ id, j'.get id = (j.get id).map (f id)) :
    ExecutorMarks j j' where
  readFloat := hread
  rows id := by
    rw [h]
    cases j.get id with
    | none => exact Or.inl ⟨rfl, rfl⟩
    | some e =>
      obtain ⟨c, u, heq, hc⟩ := hf id e
      exact Or.inr ⟨e, c, u, rfl, congrArg some heq, hc⟩

lemma markDeviceContact (j : Journal) (now : Time) (jobId : ℤ) :
    ExecutorMarks j (j.markDeviceContact now jobId).2 :=
  of_map (Journal.readFloat_updateRow j now jobId _) (fun id e => by
    split
    · exact OfRow.apply (Or.inl rfl) _ now e
    · exact OfRow.refl e) (Journal.get_updateRow j now jobId _)

lemma cardContactOf {now : Time} {jobId amountMinor txType : ℤ} {terminalIp : String}
    {baselineSeq targetSeq : Option ℤ} {b : Bool}
    (h : j.cardContactOf now jobId terminalIp amountMinor baselineSeq txType targetSeq =
      some (b, j')) : ExecutorMarks j j' := by
  cases b with
  | false =>
    rw [Journal.cardContactOf_false h]
    exact refl j
  | true =>
    exact of_map (Journal.readFloat_cardContactOf h) (fun id e => by
      split
      · exact OfRow.apply (Or.inr rfl) _ now e
      · exact OfRow.refl e) (Journal.cardContactOf_true h).1

lemma rowsLater (h : ExecutorMarks j j') : RowsLater j j' := fun id => by
  rcases h.rows id with h | ⟨e, c, u, he, he', hc⟩
  · exact Or.inl h
  · exact Or.inr ⟨e, _, he, he', rfl, le_refl _, fun _ => rfl, hc,
      fun hw => ⟨hw.done, hw.failed, hw.unfinished⟩⟩

/-- A mark changes neither the state nor the verdict of a job, nor what is owed for it. -/
lemma same {id : ℤ} {e e' : JournalEntry} (h : ExecutorMarks j j') (he : j.get id = some e)
    (he' : j'.get id = some e') :
    e'.job = e.job ∧ e'.state = e.state ∧ e'.verdict = e.verdict ∧ e'.acked = e.acked ∧
      e'.report = e.report := by
  rcases h.rows id with ⟨h1, -⟩ | ⟨a, c, u, h1, h2, -⟩
  · rw [h1] at he
    cases he
  · rw [h1] at he
    rw [h2] at he'
    cases he
    cases he'
    exact ⟨rfl, rfl, rfl, rfl, rfl⟩

end ExecutorMarks

namespace Executor

/-- No executor: every job of its kind is unsupported. -/
def absent : Executor where
  Task := Unit
  Dev := Unit
  Vol := Unit
  Event := Empty
  DevEvent := Empty
  dev₀ := ()
  vol₀ := ()
  readFloat := id
  drives _ := false
  check _ := .ok ()
  endpoint _ := ""
  execute _ := ()
  reconcile _ := ()
  background := []
  step _ _ ev := nomatch ev
  devStep ev := nomatch ev
  outcome _ := none
  answer _ := none
  mayOutlastGuard _ := false
  endpoint_till _ _ _ _ := rfl
  step_marks {_ _ ev} := nomatch ev

/-- An executor whose device answers at once: every job is done. -/
def prompt : Executor where
  Task := Unit
  Dev := Unit
  Vol := Unit
  Event := Empty
  DevEvent := Empty
  dev₀ := ()
  vol₀ := ()
  readFloat := id
  drives _ := true
  check _ := .ok ()
  endpoint _ := ""
  execute _ := ()
  reconcile _ := ()
  background := []
  step _ _ ev := nomatch ev
  devStep ev := nomatch ev
  outcome _ := some (.done (.obj []))
  answer _ := some (.done (.obj []))
  mayOutlastGuard _ := false
  endpoint_till _ _ _ _ := rfl
  step_marks {_ _ ev} := nomatch ev

/-- The executor of a job of the given type, of a pair of executors. -/
def isFiscal (jobType : String) : Bool := DeviceKind.forJobType jobType == some .fiscal

variable (F C : Executor)

/-- One step of a fiscal call: the card executor's devices and memory stay. -/
def stepLeft (now : Time) (i : ℕ) (ev : F.Event) (t : F.Task)
    (s : ExecState (F.Dev × C.Dev) (F.Vol × C.Vol)) :
    Option ((F.Task ⊕ C.Task) × ExecState (F.Dev × C.Dev) (F.Vol × C.Vol)) :=
  (F.step now i ev t ⟨s.journal, s.dev.1, s.vol.1⟩).map fun r =>
    (.inl r.1, ⟨r.2.journal, (r.2.dev, s.dev.2), (r.2.vol, s.vol.2)⟩)

/-- One step of a card call: the fiscal executor's devices and memory stay. -/
def stepRight (now : Time) (i : ℕ) (ev : C.Event) (t : C.Task)
    (s : ExecState (F.Dev × C.Dev) (F.Vol × C.Vol)) :
    Option ((F.Task ⊕ C.Task) × ExecState (F.Dev × C.Dev) (F.Vol × C.Vol)) :=
  (C.step now i ev t ⟨s.journal, s.dev.2, s.vol.2⟩).map fun r =>
    (.inr r.1, ⟨r.2.journal, (s.dev.1, r.2.dev), (s.vol.1, r.2.vol)⟩)

/-- The registry: a fiscal executor and a card executor, each with its own jobs. -/
@[reducible] def pair : Executor where
  Task := F.Task ⊕ C.Task
  Dev := F.Dev × C.Dev
  Vol := F.Vol × C.Vol
  Event := F.Event ⊕ C.Event
  DevEvent := F.DevEvent ⊕ C.DevEvent
  dev₀ := (F.dev₀, C.dev₀)
  vol₀ := (F.vol₀, C.vol₀)
  readFloat := F.readFloat
  drives
    | .fiscal => F.drives .fiscal
    | .card => C.drives .card
  check job := if isFiscal job.jobType then F.check job else C.check job
  endpoint job := if isFiscal job.jobType then F.endpoint job else C.endpoint job
  execute job := if isFiscal job.jobType then .inl (F.execute job) else .inr (C.execute job)
  reconcile entry :=
    if isFiscal entry.job.jobType then .inl (F.reconcile entry) else .inr (C.reconcile entry)
  background := F.background.map .inl ++ C.background.map .inr
  step now i
    | .inl ev, .inl t, s => stepLeft F C now i ev t s
    | .inr ev, .inr t, s => stepRight F C now i ev t s
    | _, _, _ => none
  devStep
    | .inl ev, dev => (F.devStep ev dev.1).map fun d => (d, dev.2)
    | .inr ev, dev => (C.devStep ev dev.2).map fun d => (dev.1, d)
  outcome
    | .inl t => F.outcome t
    | .inr t => C.outcome t
  answer
    | .inl t => F.answer t
    | .inr t => C.answer t
  mayOutlastGuard job :=
    if isFiscal job.jobType then F.mayOutlastGuard job else C.mayOutlastGuard job
  endpoint_till a b htype hkasa := by
    rw [htype, F.endpoint_till a b htype hkasa, C.endpoint_till a b htype hkasa]
  step_marks := by
    intro now i ev t s t' s' h
    split at h
    · simp only [stepLeft, Option.map_eq_some_iff] at h
      obtain ⟨r, hr, heq⟩ := h
      cases heq
      exact F.step_marks hr
    · simp only [stepRight, Option.map_eq_some_iff] at h
      obtain ⟨r, hr, heq⟩ := h
      cases heq
      exact C.step_marks hr
    · cases h

end Executor

/-! ### Refusals before any device contact -/

/-- Error code: a job type that no registered executor handles. -/
def CODE_UNSUPPORTED : String := "unsupported"
/-- Error code: a `card.purchase` whose amount is not a finite number > 0. -/
def CODE_BAD_AMOUNT : String := "bad_amount"
/-- Error code: a job that waited too long in its device queue. -/
def CODE_EXPIRED_LOCAL : String := "expired_local"

/-- The queue a job runs on; `none`: no executor for its type. -/
def Executor.queueOf (E : Executor) (job : DeviceJob) : Option DeviceQueue :=
  match DeviceKind.forJobType job.jobType with
  | some kind => if E.drives kind then some ⟨kind, E.endpoint job⟩ else none
  | none => none

lemma Executor.queueOf_till (E : Executor) {a b : DeviceJob} (htype : a.jobType = b.jobType)
    (hkasa : a.kasaId = b.kasaId) : E.queueOf a = E.queueOf b := by
  rw [queueOf, queueOf, htype, E.endpoint_till a b htype hkasa]

/-- Whether the amount of a job is a finite number > 0 (a JSON number is finite). -/
def amountOk (job : DeviceJob) : Bool :=
  ((job.payload.get "amount").bind Json.asF64).any fun a => decide (0 < a)

/-- Decide whether a job may reach a device: its own shape first, then whether an executor
exists, then the executor's own check. -/
def validate (E : Executor) (job : DeviceJob) : Except Rejection DeviceKind :=
  if job.jobType = "card.purchase" ∧ amountOk job = false then
    .error ⟨CODE_BAD_AMOUNT,
      "card.purchase amount must be a finite number > 0 - the terminal was not contacted, nothing ran"⟩
  else
    let unsupported : Except Rejection DeviceKind :=
      .error ⟨CODE_UNSUPPORTED,
        s!"devbridge has no executor for job type '{job.jobType}' - no device was contacted, nothing ran"⟩
    match DeviceKind.forJobType job.jobType with
    | some kind =>
      if E.drives kind then (E.check job).map fun _ => kind
      else unsupported
    | none => unsupported

end DevBridge

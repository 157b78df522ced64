import DevBridge.Journal.Row
import DevBridge.Lib.AutoTable

/-!
# The journal

The durable store of the bridge: the jobs of Odoo (`device_jobs`), the jobs of the tills'
LAN API (`lan_jobs`), and the card transactions and day closings that reached a terminal.
Executors, queues and the reconciler see one space of job ids: a job of Odoo keeps its
positive id, a LAN job runs under the negation of its row id.  That the two never meet is
part of the type: the rows of `device_jobs` have positive ids, those of `lan_jobs` positive
row ids.

Each operation below is one transaction of the source: it either happens as a whole or, on
an error of the store, not at all.
-/

namespace DevBridge

/-- The job id of a row of `lan_jobs`: its negation. -/
def lanJobId (rowId : ℤ) : ℤ := -rowId

/-- Whether a job id names a LAN job. -/
def isLanJob (jobId : ℤ) : Bool := decide (jobId < 0)

@[simp] lemma isLanJob_iff {id : ℤ} : isLanJob id = true ↔ id < 0 := by simp [isLanJob]

@[simp] lemma isLanJob_eq_false_iff {id : ℤ} : isLanJob id = false ↔ 0 ≤ id := by
  simp [isLanJob]

/-- A row of `lan_jobs`: its `acked` and `ackNote` are the columns `reported` and
`report_note`. -/
structure LanJob where
  entry : JournalEntry
  /-- Odoo's id of the job, once it was reported. -/
  odooJobId : Option ℤ
deriving DecidableEq, Repr

namespace LanJob

def jobId (r : LanJob) : ℤ := r.entry.job.id

def state (r : LanJob) : JobState := r.entry.state

def reported (r : LanJob) : Bool := r.entry.acked

/-- Final and not reported yet. -/
def reportOwed (r : LanJob) : Bool := r.state.isFinal && !r.reported

/-- `UNIQUE (kasa_id, client_uuid)`. -/
def key (r : LanJob) : Option (ℤ × String) :=
  r.entry.job.kasaId.map fun kasaId => (kasaId, r.entry.job.clientUuid)

/-- One statement on one row. -/
def apply (now : Time) (op : RowOp) (r : LanJob) : LanJob :=
  { r with entry := op.apply .lan now r.entry }

/-- Restart recovery of one row. -/
def recover (now : Time) (r : LanJob) : LanJob :=
  { r with entry := recoverRow now r.entry }

/-- `odoo_job_id = COALESCE(odooJobId, odoo_job_id)`. -/
def named (odooJobId : Option ℤ) (r : LanJob) : LanJob :=
  { r with odooJobId := odooJobId <|> r.odooJobId }

@[simp] lemma key_apply (now : Time) (op : RowOp) (r : LanJob) :
    (r.apply now op).key = r.key := by
  simp [key, apply]

@[simp] lemma key_recover (now : Time) (r : LanJob) : (r.recover now).key = r.key := by
  simp [key, recover]

@[simp] lemma key_named (odooJobId : Option ℤ) (r : LanJob) :
    (r.named odooJobId).key = r.key := rfl

@[simp] lemma entry_named (odooJobId : Option ℤ) (r : LanJob) :
    (r.named odooJobId).entry = r.entry := rfl

end LanJob

/-- The `phase: "authorized"` ack of a held card payment. -/
inductive AuthAck where
  | none
  | owed
  | accepted
  | refused
deriving DecidableEq, Repr

/-- A row of `card_payments`: a transaction that is about to reach its terminal. -/
structure CardPayment where
  jobId : ℤ
  terminalIp : String
  amountMinor : ℤ
  /-- The terminal's last `trans_seq` before this transaction. -/
  baselineSeq : Option ℤ
  contactAt : Time
  authorizedAt : Option Time
  transSeq : Option ℤ
  authResult : Option Json
  authAck : AuthAck
  authAckNote : Option String
  /-- When the execution ended without knowing the outcome. -/
  endedAt : Option Time
  /-- Set when the terminal cannot prove the outcome: a person decides. -/
  personReason : Option String
  /-- 1 purchase, 2 credit, 3 reversal. -/
  txType : ℤ
  /-- The `trans_seq` that a reversal reverses. -/
  targetSeq : Option ℤ
deriving DecidableEq, Repr

/-- Odoo refused the authorisation: the payment is rolled back. -/
def CardPayment.authRefused (c : CardPayment) : Bool := c.authAck == .refused

/-- The reversals of a `trans_seq` on a terminal. -/
def CardPayment.isReversalOf (c : CardPayment) (terminalIp : String) (targetSeq : ℤ) : Bool :=
  decide (c.terminalIp = terminalIp ∧ c.txType = (3 : ℤ) ∧ c.targetSeq = some targetSeq)

/-- The purchases and credits with a `trans_seq` on a terminal. -/
def CardPayment.isPaymentOf (c : CardPayment) (terminalIp : String) (transSeq : ℤ) : Bool :=
  decide (c.terminalIp = terminalIp ∧ c.transSeq = some transSeq ∧
    (c.txType = (1 : ℤ) ∨ c.txType = (2 : ℤ)))

/-- Who asked for a day closing. -/
inductive BalanceSource where
  | job
  | safety
deriving DecidableEq, Repr

/-- A row of `card_balances`: a day closing that is about to reach its terminal. -/
structure CardBalance where
  terminalIp : String
  localDate : String
  source : BalanceSource
  jobId : Option ℤ
  contactAt : Time
  /-- `done` or `failed` once known. -/
  outcome : Option String
  result : Option Json
deriving DecidableEq, Repr

/-- `UNIQUE (terminal_ip, local_date) WHERE source = 'safety'`. -/
def CardBalance.safetyKey (b : CardBalance) : Option (String × String) :=
  if b.source = .safety then some (b.terminalIp, b.localDate) else none

/-- The journal.  Its rows are what a read of them gives: a JSON value is stored as its text,
and stands in the row as it reads back. -/
structure Journal where
  /-- What the JSON library reads of the text of a double. -/
  readFloat : Number → Number
  deviceJobs : Table ℤ JournalEntry
  lanJobs : AutoTable LanJob LanJob.key
  cardPayments : Table ℤ CardPayment
  cardBalances : AutoTable CardBalance CardBalance.safetyKey
  odooIds : ∀ k e, deviceJobs.get? k = some e → 0 < k ∧ e.job.id = k
  lanIds : ∀ k r, lanJobs.get? k = some r → r.entry.job.id = lanJobId k

namespace Journal

/-- A new journal. -/
def empty (readFloat : Number → Number) : Journal where
  readFloat
  deviceJobs := Table.empty
  lanJobs := AutoTable.empty
  cardPayments := Table.empty
  cardBalances := AutoTable.empty
  odooIds k e h := by simp at h
  lanIds k r h := by simp at h

/-! ### Reading a job -/

/-- The LAN job of a (negative) job id. -/
def lanJobById (j : Journal) (jobId : ℤ) : Option LanJob :=
  j.lanJobs.get? (lanJobId jobId)

/-- The row of a job id: a job of Odoo, or a LAN job by its negative id. -/
def get (j : Journal) (jobId : ℤ) : Option JournalEntry :=
  if isLanJob jobId then (j.lanJobById jobId).map LanJob.entry else j.deviceJobs.get? jobId

/-- The LAN job of a till with a `client_uuid`. -/
def lanJob (j : Journal) (kasaId : ℤ) (clientUuid : String) : Option LanJob :=
  ((j.lanJobs.table.select fun _ r => r.key == some (kasaId, clientUuid)).head?).map Prod.snd

@[simp] lemma get_empty (readFloat : Number → Number) (id : ℤ) :
    (empty readFloat).get id = none := by
  simp [get, empty, lanJobById, AutoTable.get?, AutoTable.empty]

lemma get_of_lan (j : Journal) {id : ℤ} (h : id < 0) :
    j.get id = (j.lanJobs.get? (-id)).map LanJob.entry := by
  simp [get, lanJobById, lanJobId, h]

lemma get_of_odoo (j : Journal) {id : ℤ} (h : 0 ≤ id) : j.get id = j.deviceJobs.get? id := by
  have : isLanJob id = false := by simpa using h
  simp [get, this]

/-- The row of a job carries the job's id. -/
lemma id_of_get {j : Journal} {id : ℤ} {e : JournalEntry} (h : j.get id = some e) :
    e.job.id = id := by
  by_cases hid : id < 0
  · rw [get_of_lan j hid, Option.map_eq_some_iff] at h
    obtain ⟨r, hr, rfl⟩ := h
    simpa [lanJobId] using j.lanIds _ r hr
  · rw [get_of_odoo j (not_lt.mp hid)] at h
    exact (j.odooIds id e h).2

/-- No job has the id zero. -/
lemma ne_zero_of_get {j : Journal} {id : ℤ} {e : JournalEntry} (h : j.get id = some e) :
    id ≠ 0 := by
  rintro rfl
  rw [get_of_odoo j (le_refl 0)] at h
  exact absurd (j.odooIds 0 e h).1 (lt_irrefl 0)

/-! ### The statements that change one job -/

/-- `UPDATE device_jobs … WHERE job_id = row AND guard`. -/
def updateOdoo (j : Journal) (now : Time) (row : ℤ) (op : RowOp) : Bool × Journal :=
  (j.deviceJobs.updates row op.guard, {
    j with
    deviceJobs := j.deviceJobs.update row op.guard (op.set .odoo now)
    odooIds := by
      intro k e h
      rw [Table.get?_update, Option.map_eq_some_iff] at h
      obtain ⟨e₀, h₀, rfl⟩ := h
      refine ⟨(j.odooIds k e₀ h₀).1, ?_⟩
      rw [← (j.odooIds k e₀ h₀).2]
      split
      · rw [set_job]
      · rfl })

/-- `UPDATE lan_jobs … WHERE id = row AND guard`. -/
def updateLan (j : Journal) (now : Time) (row : ℤ) (op : RowOp) : Bool × Journal :=
  (j.lanJobs.updates row fun r => op.guard r.entry, {
    j with
    lanJobs := j.lanJobs.update row (fun r => op.guard r.entry) (LanJob.apply now op)
      (LanJob.key_apply now op)
    lanIds := by
      intro k r h
      rw [AutoTable.get?_update, Option.map_eq_some_iff] at h
      obtain ⟨r₀, h₀, rfl⟩ := h
      rw [← j.lanIds k r₀ h₀]
      split
      · simp [LanJob.apply]
      · rfl })

/-- A statement on the row that `locate` finds. -/
def updateRow (j : Journal) (now : Time) (jobId : ℤ) (op : RowOp) : Bool × Journal :=
  if isLanJob jobId then j.updateLan now (lanJobId jobId) op else j.updateOdoo now jobId op

/-- The table of a job id. -/
def tableOf (jobId : ℤ) : JobTable := if isLanJob jobId then .lan else .odoo

/-- A statement on `device_jobs` changes the row it names and no LAN job. -/
lemma get_updateOdoo (j : Journal) (now : Time) (row : ℤ) (op : RowOp) (id : ℤ) :
    (j.updateOdoo now row op).2.get id =
      (j.get id).map fun e => if id = row ∧ 0 < id then op.apply .odoo now e else e := by
  by_cases hid : id < 0
  · have : ¬ 0 < id := by omega
    rw [get_of_lan _ hid, get_of_lan _ hid]
    simp [updateOdoo, this, Function.comp_def]
  · rw [get_of_odoo _ (not_lt.mp hid), get_of_odoo _ (not_lt.mp hid)]
    simp only [updateOdoo, Table.get?_update]
    cases h : j.deviceJobs.get? id with
    | none => rfl
    | some e =>
      have hpos := (j.odooIds id e h).1
      simp only [Option.map_some, hpos, and_true, Option.some.injEq, RowOp.apply]
      by_cases hr : id = row <;> simp [hr]

/-- A statement on `lan_jobs` changes the row it names and no job of Odoo. -/
lemma get_updateLan (j : Journal) (now : Time) (row : ℤ) (op : RowOp) (id : ℤ) :
    (j.updateLan now row op).2.get id =
      (j.get id).map fun e => if -id = row ∧ id < 0 then op.apply .lan now e else e := by
  by_cases hid : id < 0
  · rw [get_of_lan _ hid, get_of_lan _ hid]
    simp only [updateLan, AutoTable.get?_update, Option.map_map]
    congr 1
    funext r
    by_cases hr : -id = row <;> by_cases hg : op.guard r.entry = true <;>
      simp [hr, hid, hg, LanJob.apply, RowOp.apply]
  · rw [get_of_odoo _ (not_lt.mp hid), get_of_odoo _ (not_lt.mp hid)]
    simp [updateLan, hid]

/-- A statement changes the row of the job it names, by the rules of that row's table, and no
other job of either table. -/
lemma get_updateRow (j : Journal) (now : Time) (jobId : ℤ) (op : RowOp) (id : ℤ) :
    (j.updateRow now jobId op).2.get id =
      (j.get id).map fun e => if id = jobId then op.apply (tableOf jobId) now e else e := by
  unfold updateRow
  by_cases hj : jobId < 0
  · have hlan : isLanJob jobId = true := by simpa using hj
    simp only [hlan, if_true, get_updateLan, tableOf]
    congr 1
    funext e
    by_cases hid : id = jobId
    · simp [hid, hj, lanJobId]
    · simp [hid, lanJobId]
  · have hodoo : isLanJob jobId = false := by simpa using hj
    simp only [hodoo, Bool.false_eq_true, if_false, get_updateOdoo, tableOf]
    cases h : j.get id with
    | none => rfl
    | some e =>
      have hne := ne_zero_of_get h
      simp only [Option.map_some, Option.some.injEq]
      by_cases hid : id = jobId
      · have : 0 < id := by omega
        simp [hid, hid ▸ this]
      · simp [hid]

lemma readFloat_updateRow (j : Journal) (now : Time) (jobId : ℤ) (op : RowOp) :
    (j.updateRow now jobId op).2.readFloat = j.readFloat := by
  unfold updateRow
  split <;> rfl

/-- Whether a statement changed a row: the guard held of it. -/
lemma updateRow_changed (j : Journal) (now : Time) (jobId : ℤ) (op : RowOp) :
    (j.updateRow now jobId op).1 = (j.get jobId).any op.guard := by
  unfold updateRow
  by_cases hj : jobId < 0
  · have hlan : isLanJob jobId = true := by simpa using hj
    simp only [hlan, if_true, updateLan, AutoTable.updates, get_of_lan j hj, lanJobId]
    cases j.lanJobs.get? (-jobId) <;> rfl
  · have hodoo : isLanJob jobId = false := by simpa using hj
    simp [hodoo, updateOdoo, Table.updates, get_of_odoo j (not_lt.mp hj)]

end Journal

end DevBridge

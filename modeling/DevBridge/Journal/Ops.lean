import DevBridge.Journal.Store

/-!
# The operations of the journal

Every method of the journal that writes, and the queries the rest of the bridge decides by.
A method that answers `Result<bool>` gives its answer and the journal after it.  An error of
the store is not a value here: a step of the bridge whose write fails leaves the journal as
it is.
-/

namespace DevBridge

/-- Acked final rows older than this are pruned. -/
def PRUNE_AFTER_DAYS : ℕ := 400

/-- `now - PRUNE_AFTER_DAYS`. -/
def pruneCutoff (now : Time) : Time := now - PRUNE_AFTER_DAYS * 86400 * 10 ^ 9

/-- `note LIKE 'refused:%'`, which ignores the case of letters. -/
def isRefusedNote (note : String) : Bool :=
  "refused:".toList.isPrefixOf (note.toList.map Char.toLower)

/-- The rows that `prune` deletes. -/
def pruned (now : Time) (e : JournalEntry) : Bool :=
  e.acked && e.state.isFinal && decide (e.updatedAt < pruneCutoff now) &&
    !(e.ackNote.any isRefusedNote)

/-- Result of an insert into `device_jobs`. -/
inductive Inserted where
  /-- Newly journaled: this caller may hand it to its device. -/
  | new
  /-- Already journaled: never executed again. -/
  | known (entry : JournalEntry)
deriving DecidableEq, Repr

/-- Result of an insert into `lan_jobs`. -/
inductive LanInserted where
  | new (jobId : ℤ)
  | known (job : LanJob)
deriving DecidableEq, Repr

namespace Journal

variable (j : Journal) (now : Time)

/-! ### Jobs -/

/-- `INSERT OR IGNORE INTO device_jobs`: a job id already present is not touched. -/
def insert (job : OdooJob) (refused : Option (String × String)) : Inserted × Journal :=
  match j.deviceJobs.get? job.job.id with
  | some known => (.known known, j)
  | none =>
    (.new, {
      j with
      deviceJobs := j.deviceJobs.insert job.job.id
        (newEntry (job.job.reread j.readFloat) refused now)
      odooIds := by
        intro k e h
        rw [Table.get?_insert] at h
        split at h
        · rename_i hk
          cases h
          exact ⟨hk.1 ▸ job.pos, hk.1.symm⟩
        · exact j.odooIds k e h })

def insertReceived (job : OdooJob) : Inserted × Journal := j.insert now job none

/-- A job refused before any device contact is `failed` in the same write. -/
def insertRefused (job : OdooJob) (code text : String) : Inserted × Journal :=
  j.insert now job (some (code, text))

/-- The row of a new LAN job: what `row_to_lan` reads of the columns that were written. -/
def lanRow (job : DeviceJob) (rowId : ℤ) : LanJob where
  entry := newEntry
    { job.reread j.readFloat with
      id := lanJobId rowId, kasaName := "", createdAt := timeText now, claimedAt := "" }
    none now
  odooJobId := none

/-- `INSERT OR IGNORE INTO lan_jobs`; `none` when the job names no till. -/
def insertLanReceived (job : DeviceJob) : Option (LanInserted × Journal) :=
  job.kasaId.bind fun kasaId =>
    match h : j.lanJobs.insert (j.lanRow now job (j.lanJobs.seq + 1)) with
    | some (rowId, t) =>
      some (.new (lanJobId rowId), {
        j with
        lanJobs := t
        lanIds := by
          intro k r hr
          obtain ⟨hid, -, -, hget⟩ := AutoTable.insert_some h
          rw [hget] at hr
          split at hr
          · rename_i hk
            cases hr
            simp [lanRow, newEntry, hk, hid]
          · exact j.lanIds k r hr })
    | none => (j.lanJob kasaId job.clientUuid).map fun known => (.known known, j)

/-- `received → executing`: the caller that gets `true` owns the one execution. -/
def startExecution (jobId : ℤ) : Bool × Journal := j.updateRow now jobId .startExecution

/-- Store an outcome of a job that is not final yet. -/
def recordOutcome (jobId : ℤ) (outcome : Outcome) : Bool × Journal :=
  j.updateRow now jobId (.recordOutcome (outcome.reread j.readFloat))

/-- Refuse a job that is still `received`. -/
def failUnstarted (jobId : ℤ) (code text : String) : Bool × Journal :=
  j.updateRow now jobId (.failUnstarted code text)

/-- The executor is about to ask the device; the first time is kept. -/
def markDeviceContact (jobId : ℤ) : Bool × Journal := j.updateRow now jobId .markDeviceContact

/-- A reconcile attempt could not tell. -/
def recordStillUnknown (jobId : ℤ) (reason : String) : Bool × Journal :=
  j.updateRow now jobId (.recordStillUnknown reason)

/-- Restart recovery: what was in flight in the previous process is `indeterminate`. -/
def recoverAfterRestart : Journal where
  readFloat := j.readFloat
  deviceJobs := j.deviceJobs.map fun _ e => recoverRow now e
  lanJobs := j.lanJobs.map (fun _ r => r.recover now) fun _ r => r.key_recover now
  cardPayments := j.cardPayments
  cardBalances := j.cardBalances
  odooIds k e h := by
    rw [Table.get?_map, Option.map_eq_some_iff] at h
    obtain ⟨e₀, h₀, rfl⟩ := h
    simpa using j.odooIds k e₀ h₀
  lanIds k r h := by
    rw [AutoTable.get?_map, Option.map_eq_some_iff] at h
    obtain ⟨r₀, h₀, rfl⟩ := h
    simpa [LanJob.recover] using j.lanIds k r₀ h₀

/-- Odoo answered the final ack. -/
def markAcked (jobId : ℤ) (note : String) : Bool × Journal :=
  j.updateOdoo now jobId (.markAcked note)

/-- Odoo accepted the `indeterminate` report. -/
def markReported (jobId : ℤ) : Bool × Journal := j.updateOdoo now jobId .markReported

/-- Odoo still lists a job whose final ack was accepted: owe it again. -/
def reopenAck (jobId : ℤ) : Bool × Journal := j.updateOdoo now jobId .reopenAck

/-- Odoo answered the report of a LAN job, and perhaps named its own id of it. -/
def markLanReported (jobId : ℤ) (odooJobId : Option ℤ) (note : String) : Bool × Journal :=
  let (changed, j') := j.updateLan now (lanJobId jobId) (.markLanReported note)
  (changed, {
    j' with
    lanJobs := j'.lanJobs.update (lanJobId jobId) (fun r => r.entry.state.isFinal)
      (LanJob.named odooJobId) (LanJob.key_named odooJobId)
    lanIds := by
      intro k r h
      rw [AutoTable.get?_update, Option.map_eq_some_iff] at h
      obtain ⟨r₀, h₀, rfl⟩ := h
      rw [← j'.lanIds k r₀ h₀]
      split <;> rfl })

/-- Rows waiting for reconciliation: jobs of Odoo, oldest first. -/
def odooIndeterminate : List JournalEntry :=
  (j.deviceJobs.select fun _ e => e.state == .indeterminate).map Prod.snd

/-- Rows waiting for reconciliation: LAN jobs, oldest first. -/
def lanIndeterminate : List JournalEntry :=
  (j.lanJobs.table.select fun _ r => r.state == .indeterminate).map fun x => x.2.entry

/-- The final outcomes and `indeterminate` reports that Odoo is owed, oldest job first. -/
def owedJobAcks : List AckRequest :=
  (j.deviceJobs.select fun _ e =>
    (e.state.isFinal && !e.acked) || (e.state == .indeterminate && e.report == .owed)).filterMap
    fun x => x.2.owedAck

/-- The final LAN jobs whose report Odoo is owed, oldest first. -/
def owedLanReports : List LanJob :=
  (j.lanJobs.table.select fun _ r => r.state.isFinal && !r.reported).map Prod.snd

/-! ### Card transactions -/

/-- A card transaction is about to be sent: its row and the device contact of its job, in one
transaction.  `some false`: the job is not executing, or its terminal was already asked.
`none`: the row could not be inserted, and nothing was changed. -/
def cardContactOf (jobId : ℤ) (terminalIp : String) (amountMinor : ℤ)
    (baselineSeq : Option ℤ) (txType : ℤ) (targetSeq : Option ℤ) : Option (Bool × Journal) :=
  match j.updateOdoo now jobId .cardContact with
  | (false, _) => some (false, j)
  | (true, j') =>
    match j'.cardPayments.get? jobId with
    | some _ => none
    | none =>
      some (true, {
        j' with
        cardPayments := j'.cardPayments.insert jobId {
          jobId, terminalIp, amountMinor, baselineSeq, contactAt := now,
          authorizedAt := none, transSeq := none, authResult := none, authAck := .none,
          authAckNote := none, endedAt := none, personReason := none, txType, targetSeq } })

/-- `card_contact_of` of a purchase. -/
def cardContact (jobId : ℤ) (terminalIp : String) (amountMinor : ℤ)
    (baselineSeq : Option ℤ) : Option (Bool × Journal) :=
  j.cardContactOf now jobId terminalIp amountMinor baselineSeq 1 none

/-- `UPDATE card_payments … WHERE job_id = jobId AND guard`. -/
def updateCard (jobId : ℤ) (guard : CardPayment → Bool) (set : CardPayment → CardPayment) :
    Bool × Journal :=
  (j.cardPayments.updates jobId guard,
    { j with cardPayments := j.cardPayments.update jobId guard set })

/-- The terminal authorised the payment: the `authorized` ack is owed. -/
def cardAuthorized (jobId transSeq : ℤ) (result : Json) : Bool × Journal :=
  j.updateCard jobId (fun c => c.authorizedAt.isNone) fun c =>
    { c with
      authorizedAt := some now, transSeq := some transSeq,
      authResult := some (result.reread j.readFloat), authAck := .owed }

/-- A one-phase transaction answered with its `trans_seq`. -/
def cardTransacted (jobId transSeq : ℤ) : Bool × Journal :=
  j.updateCard jobId (fun c => c.transSeq.isNone) fun c => { c with transSeq := some transSeq }

/-- The execution ended without knowing the outcome. -/
def cardEnded (jobId : ℤ) : Bool × Journal :=
  j.updateCard jobId (fun _ => true) fun c => { c with endedAt := some now }

/-- The terminal cannot prove the outcome; the first reason is kept. -/
def cardForPerson (jobId : ℤ) (reason : String) : Bool × Journal :=
  j.updateCard jobId (fun c => c.personReason.isNone) fun c =>
    { c with personReason := some reason }

/-- Odoo answered the `authorized` ack; a refusal rolls the payment back. -/
def markCardAuthAcked (jobId : ℤ) (note : String) : Bool × Journal :=
  j.updateCard jobId (fun c => c.authAck == .owed) fun c =>
    { c with
      authAck := if startsWith note "refused:" then .refused else .accepted,
      authAckNote := some note }

def cardPayment (jobId : ℤ) : Option CardPayment := j.cardPayments.get? jobId

/-- Another reversal of the same `trans_seq` on the terminal whose job did not fail. -/
def cardOtherReversal (terminalIp : String) (targetSeq jobId : ℤ) : Option (ℤ × JobState) :=
  (j.cardPayments.rows.filterMap fun x =>
    if x.2.isReversalOf terminalIp targetSeq && x.1 != jobId then
      match j.deviceJobs.get? x.1 with
      | some d => if d.state = .failed then none else some (x.1, d.state)
      | none => none
    else none).head?

/-- The newest purchase or credit with a `trans_seq` on a terminal. -/
def newestPayment (terminalIp : String) (transSeq : ℤ) : Option CardPayment :=
  ((j.cardPayments.select fun _ c => c.isPaymentOf terminalIp transSeq).getLast?).map Prod.snd

/-- Whether a day closing ended `done` on the terminal after the newest such payment was
sent. -/
def cardBalanceSincePayment (terminalIp : String) (transSeq : ℤ) : Bool :=
  match j.newestPayment terminalIp transSeq with
  | none => false
  | some p => j.cardBalances.table.exists? fun _ b =>
      decide (b.terminalIp = p.terminalIp ∧ b.outcome = some "done" ∧
        p.contactAt ≤ b.contactAt)

/-- The highest `trans_seq` stored for a terminal. -/
def cardLastSeq (terminalIp : String) : Option ℤ :=
  ((j.cardPayments.select fun _ c => c.terminalIp == terminalIp).filterMap
    fun x => x.2.transSeq).max?

/-- Whether another transaction was sent to the same terminal after this one. -/
def cardLaterOnTerminal (jobId : ℤ) : Bool :=
  match j.cardPayments.get? jobId with
  | none => false
  | some c => j.cardPayments.exists? fun k o =>
      decide (o.terminalIp = c.terminalIp ∧ k ≠ jobId ∧ c.contactAt ≤ o.contactAt)

/-- The `authorized` acks owed for payments that are still held, oldest first. -/
def owedCardAuthAcks : List AckRequest :=
  j.cardPayments.rows.filterMap fun x =>
    match j.deviceJobs.get? x.1, x.2.authResult with
    | some d, some result =>
      if x.2.authAck = .owed ∧ d.state = .executing then some (.authorized x.1 result) else none
    | _, _ => none

/-! ### Day closings -/

/-- A day closing is about to be sent; `none`: a safety balance of the terminal and day is
already journaled. -/
def cardBalanceContact (terminalIp localDate : String) (source : BalanceSource)
    (jobId : Option ℤ) : Option ℤ × Journal :=
  match j.cardBalances.insert
      { terminalIp, localDate, source, jobId, contactAt := now, outcome := none,
        result := none } with
  | some (id, t) => (some id, { j with cardBalances := t })
  | none => (none, j)

/-- A day closing ended. -/
def cardBalanceOutcome (id : ℤ) (outcome : String) (result : Json) : Bool × Journal :=
  (j.cardBalances.updates id fun _ => true,
    { j with
      cardBalances := j.cardBalances.update id (fun _ => true)
        (fun b => { b with
          outcome := some outcome, result := some (result.reread j.readFloat) }) fun _ => rfl })

/-- A day closing never reached its terminal: its row is dropped. -/
def cardBalanceForget (id : ℤ) : Bool × Journal :=
  (j.cardBalances.updates id fun _ => true,
    { j with cardBalances := j.cardBalances.keep fun k _ => k != id })

/-- Whether a terminal needs no safety balance on a date. -/
def cardBalanceRan (terminalIp localDate : String) : Bool :=
  j.cardBalances.table.exists? fun _ b =>
    decide (b.terminalIp = terminalIp ∧ b.localDate = localDate ∧
      (b.source = .safety ∨ b.outcome = some "done"))

/-- The day closing of a `card.balance` job. -/
def cardBalanceOfJob (jobId : ℤ) : Option CardBalance :=
  ((j.cardBalances.table.select fun _ b => b.jobId == some jobId).head?).map Prod.snd

/-- Whether an activation or deactivation of the till came after a job. -/
def cardLaterShiftJob (jobId : ℤ) (kasaId : Option ℤ) : Bool :=
  j.deviceJobs.exists? fun k e =>
    decide (e.job.kasaId = kasaId ∧ jobId < k ∧
      (e.job.jobType = "card.activate" ∨ e.job.jobType = "card.deactivate"))

/-! ### Pruning -/

/-- Drop the final, acked rows of `device_jobs` that are old enough. -/
def pruneDeviceJobs : Journal where
  readFloat := j.readFloat
  deviceJobs := j.deviceJobs.keep fun _ e => !pruned now e
  lanJobs := j.lanJobs
  cardPayments := j.cardPayments
  cardBalances := j.cardBalances
  odooIds k e h := j.odooIds k e (Table.get?_keep_some h)
  lanIds := j.lanIds

/-- Drop the final, reported rows of `lan_jobs` that are old enough. -/
def pruneLanJobs : Journal where
  readFloat := j.readFloat
  deviceJobs := j.deviceJobs
  lanJobs := j.lanJobs.keep fun _ r => !pruned now r.entry
  cardPayments := j.cardPayments
  cardBalances := j.cardBalances
  odooIds := j.odooIds
  lanIds k r h := j.lanIds k r (Table.get?_keep_some h)

/-- Card rows go with their job. -/
def pruneCardPayments : Journal :=
  { j with cardPayments := j.cardPayments.keep fun k _ => (j.deviceJobs.get? k).isSome }

/-- Day closings older than the retention. -/
def pruneCardBalances : Journal :=
  { j with cardBalances := j.cardBalances.keep fun _ b => !decide (b.contactAt < pruneCutoff now) }

/-- The statements of `prune`, each committed on its own. -/
def pruneStatements : List (Journal → Journal) :=
  [fun j => j.pruneDeviceJobs now, fun j => j.pruneLanJobs now, pruneCardPayments,
    fun j => j.pruneCardBalances now]

/-- `prune`, of whose statements the first `n` succeed. -/
def prune (n : ℕ) : Journal :=
  ((pruneStatements now).take n).foldl (fun j statement => statement j) j

end Journal

end DevBridge

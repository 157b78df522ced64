import DevBridge.Journal.Effects
import DevBridge.Lib.Transition

/-!
# Runs of journal operations

The journal on its own, used by anybody in any order: an event is an operation with the time
it happens at.  Two facts hold of every such run, whatever the callers do: the rows are well
formed, and the first final outcome of a job stays.
-/

namespace DevBridge

/-- The operations of the journal that write. -/
inductive JournalOp where
  | insertReceived (job : OdooJob)
  | insertRefused (job : OdooJob) (code text : String)
  | insertLanReceived (job : DeviceJob)
  | startExecution (jobId : ℤ)
  | recordOutcome (jobId : ℤ) (outcome : Outcome)
  | failUnstarted (jobId : ℤ) (code text : String)
  | markDeviceContact (jobId : ℤ)
  | recordStillUnknown (jobId : ℤ) (reason : String)
  | recoverAfterRestart
  | markAcked (jobId : ℤ) (note : String)
  | markReported (jobId : ℤ)
  | reopenAck (jobId : ℤ)
  | markLanReported (jobId : ℤ) (odooJobId : Option ℤ) (note : String)
  | prune (statements : ℕ)
  | cardContactOf (jobId : ℤ) (terminalIp : String) (amountMinor : ℤ)
      (baselineSeq : Option ℤ) (txType : ℤ) (targetSeq : Option ℤ)
  | cardAuthorized (jobId transSeq : ℤ) (result : Json)
  | cardTransacted (jobId transSeq : ℤ)
  | cardEnded (jobId : ℤ)
  | cardForPerson (jobId : ℤ) (reason : String)
  | markCardAuthAcked (jobId : ℤ) (note : String)
  | cardBalanceContact (terminalIp localDate : String) (source : BalanceSource)
      (jobId : Option ℤ)
  | cardBalanceOutcome (id : ℤ) (outcome : String) (result : Json)
  | cardBalanceForget (id : ℤ)

namespace JournalOp

/-- The journal after an operation; an insert that fails changes nothing. -/
def run (now : Time) (op : JournalOp) (j : Journal) : Journal :=
  match op with
  | insertReceived job => (j.insertReceived now job).2
  | insertRefused job code text => (j.insertRefused now job code text).2
  | insertLanReceived job => ((j.insertLanReceived now job).map Prod.snd).getD j
  | startExecution jobId => (j.startExecution now jobId).2
  | recordOutcome jobId outcome => (j.recordOutcome now jobId outcome).2
  | failUnstarted jobId code text => (j.failUnstarted now jobId code text).2
  | markDeviceContact jobId => (j.markDeviceContact now jobId).2
  | recordStillUnknown jobId reason => (j.recordStillUnknown now jobId reason).2
  | recoverAfterRestart => j.recoverAfterRestart now
  | markAcked jobId note => (j.markAcked now jobId note).2
  | markReported jobId => (j.markReported now jobId).2
  | reopenAck jobId => (j.reopenAck now jobId).2
  | markLanReported jobId odooJobId note => (j.markLanReported now jobId odooJobId note).2
  | prune statements => j.prune now statements
  | cardContactOf jobId ip amount baseline txType target =>
    ((j.cardContactOf now jobId ip amount baseline txType target).map Prod.snd).getD j
  | cardAuthorized jobId transSeq result => (j.cardAuthorized now jobId transSeq result).2
  | cardTransacted jobId transSeq => (j.cardTransacted jobId transSeq).2
  | cardEnded jobId => (j.cardEnded now jobId).2
  | cardForPerson jobId reason => (j.cardForPerson jobId reason).2
  | markCardAuthAcked jobId note => (j.markCardAuthAcked jobId note).2
  | cardBalanceContact ip date source jobId => (j.cardBalanceContact now ip date source jobId).2
  | cardBalanceOutcome id outcome result => (j.cardBalanceOutcome id outcome result).2
  | cardBalanceForget id => (j.cardBalanceForget id).2

/-- The job an operation is named with. -/
def target : JournalOp → Option ℤ
  | insertReceived job | insertRefused job _ _ => some job.job.id
  | startExecution id | recordOutcome id _ | failUnstarted id _ _ | markDeviceContact id
  | recordStillUnknown id _ | markAcked id _ | markReported id | reopenAck id
  | markLanReported id _ _ | cardContactOf id _ _ _ _ _ | cardAuthorized id _ _
  | cardTransacted id _ | cardEnded id | cardForPerson id _ | markCardAuthAcked id _ => some id
  | _ => none

end JournalOp

/-- The journal under any operations in any order. -/
def journalRuns (readFloat : Number → Number) : Transition Journal (Time × JournalOp) where
  init := Journal.empty readFloat
  step j e := some (e.2.run e.1 j)

/-! ### One operation -/

/-- An operation lets rows become later rows, adds one fresh row, or is a `prune`. -/
inductive OpEffect (op : JournalOp) (j j' : Journal) : Prop
  | later (h : RowsLater j j')
  | added (id : ℤ) (e : JournalEntry) (h : RowAdded j j' id e) (hwf : RowWf e)
  | dropped (n : ℕ) (hop : op = .prune n) (h : RowsDropped j j')

/-- Every operation has one of the three effects. -/
lemma JournalOp.effect (now : Time) (op : JournalOp) (j : Journal) :
    OpEffect op j (op.run now j) := by
  have hinsert : ∀ (op : JournalOp) (job : OdooJob) (refused : Option (String × String)),
      OpEffect op j (j.insert now job refused).2 := by
    intro op job refused
    cases hi : (j.insert now job refused).1 with
    | new => exact .added _ _ (RowAdded.insert hi) (newEntry_wf _ _ _)
    | known e =>
      rw [Journal.insert_known_eq hi]
      exact .later (RowsLater.refl j)
  cases op with
  | insertReceived job => exact hinsert _ job none
  | insertRefused job code text => exact hinsert _ job (some (code, text))
  | insertLanReceived job =>
    cases hi : j.insertLanReceived now job with
    | none =>
      simp only [run, hi, Option.map_none, Option.getD_none]
      exact .later (RowsLater.refl j)
    | some r =>
      obtain ⟨r, j'⟩ := r
      simp only [run, hi, Option.map_some, Option.getD_some]
      rcases Journal.get_insertLanReceived hi with ⟨id, -, -, -, hnone, hget⟩ | ⟨-, rfl⟩
      · exact .added id _ ⟨hnone, hget⟩ (newEntry_wf _ _ _)
      · exact .later (RowsLater.refl _)
  | cardContactOf jobId ip amount baseline txType target =>
    cases hc : j.cardContactOf now jobId ip amount baseline txType target with
    | none =>
      simp only [run, hc, Option.map_none, Option.getD_none]
      exact .later (RowsLater.refl j)
    | some r =>
      simp only [run, hc, Option.map_some, Option.getD_some]
      exact .later (RowsLater.cardContactOf hc)
  | prune n => exact .dropped n rfl (RowsDropped.prune j now n)
  | startExecution _ | recordOutcome _ _ | failUnstarted _ _ _ | markDeviceContact _
  | recordStillUnknown _ _ => exact .later (RowsLater.updateRow j now _ _)
  | markAcked _ _ | markReported _ | reopenAck _ =>
    exact .later (RowsLater.updateOdoo j now _ _)
  | markLanReported _ _ _ => exact .later (RowsLater.markLanReported j now _ _ _)
  | recoverAfterRestart => exact .later (RowsLater.recoverAfterRestart j now)
  | cardAuthorized _ _ _ | cardTransacted _ _ | cardEnded _ | cardForPerson _ _
  | markCardAuthAcked _ _ | cardBalanceOutcome _ _ _ | cardBalanceForget _ =>
    exact .later (RowsLater.of_get_eq fun _ => rfl)
  | cardBalanceContact ip date source jobId =>
    refine .later (RowsLater.of_get_eq fun id => ?_)
    simp only [run, Journal.cardBalanceContact]
    split <;> rfl

/-- The rows stay well formed. -/
lemma OpEffect.wf {op : JournalOp} {j j' : Journal} (heff : OpEffect op j j')
    (h : ∀ id e, j.get id = some e → RowWf e) {id : ℤ} {e : JournalEntry}
    (he : j'.get id = some e) : RowWf e := by
  cases heff with
  | later hl =>
    rcases hl id with ⟨-, h2⟩ | ⟨a, b, ha, hb, hab⟩
    · rw [h2] at he
      cases he
    · rw [hb] at he
      cases he
      exact hab.wf (h id a ha)
  | added id' e' hadd hwf =>
    rw [hadd.2] at he
    split at he
    · cases he
      exact hwf
    · exact h id e he
  | dropped n hop hd =>
    rcases hd id with h1 | ⟨h2, -⟩
    · exact h id e (h1 ▸ he)
    · rw [h2] at he
      cases he

/-- A final row keeps its verdict, or `prune` deletes it. -/
lemma OpEffect.verdict {op : JournalOp} {j j' : Journal} (heff : OpEffect op j j') {id : ℤ}
    {e : JournalEntry} (he : j.get id = some e) (hf : e.state.isFinal = true) :
    (∃ e', j'.get id = some e' ∧ e'.verdict = e.verdict) ∨
      (∃ n, op = .prune n) ∧ j'.get id = none := by
  cases heff with
  | later hl =>
    rcases hl id with ⟨h1, -⟩ | ⟨a, b, ha, hb, hab⟩
    · rw [h1] at he
      cases he
    · rw [ha] at he
      cases he
      exact Or.inl ⟨b, hb, hab.verdict hf⟩
  | added id' e' hadd hwf =>
    have hne : id ≠ id' := by
      rintro rfl
      rw [hadd.1] at he
      cases he
    exact Or.inl ⟨e, by rw [hadd.2, if_neg hne, he], rfl⟩
  | dropped n hop hd =>
    rcases hd id with h1 | ⟨h2, -⟩
    · exact Or.inl ⟨e, h1.trans he, rfl⟩
    · exact Or.inr ⟨⟨n, hop⟩, h2⟩

/-! ### Operations and the two tables -/

/-- An operation named with a LAN id leaves the jobs of Odoo alone. -/
lemma JournalOp.deviceJobs_of_lan {now : Time} {op : JournalOp} {j : Journal} {id : ℤ}
    (ht : op.target = some id) (hid : id < 0) :
    (op.run now j).deviceJobs = j.deviceJobs := by
  have hlan : isLanJob id = true := by simpa using hid
  have hodoo : ∀ rop : RowOp, (j.updateOdoo now id rop).2.deviceJobs = j.deviceJobs := by
    intro rop
    refine Table.update_eq_self _ _ ?_
    unfold Table.updates
    cases h : j.deviceJobs.get? id with
    | none => rfl
    | some e =>
      have := (j.odooIds id e h).1
      omega
  cases op with
  | insertReceived job | insertRefused job _ _ =>
    simp only [target, Option.some.injEq] at ht
    have := job.pos
    omega
  | startExecution _ | recordOutcome _ _ | failUnstarted _ _ _ | markDeviceContact _
  | recordStillUnknown _ _ =>
    simp only [target, Option.some.injEq] at ht
    subst ht
    simp only [run, Journal.startExecution, Journal.recordOutcome, Journal.failUnstarted,
      Journal.markDeviceContact, Journal.recordStillUnknown, Journal.updateRow, hlan, if_true]
    rfl
  | markAcked _ _ | markReported _ | reopenAck _ =>
    simp only [target, Option.some.injEq] at ht
    subst ht
    exact hodoo _
  | cardContactOf jobId ip amount baseline txType targetSeq =>
    simp only [target, Option.some.injEq] at ht
    subst ht
    cases hc : j.cardContactOf now jobId ip amount baseline txType targetSeq with
    | none => simp [run, hc]
    | some r =>
      obtain ⟨b, j'⟩ := r
      cases b with
      | false =>
        simp only [run, hc, Option.map_some, Option.getD_some]
        rw [Journal.cardContactOf_false hc]
      | true =>
        obtain ⟨-, ⟨e, he, -⟩, -⟩ := Journal.cardContactOf_true hc
        have := (j.odooIds jobId e he).1
        omega
  | markLanReported _ _ _ | cardAuthorized _ _ _ | cardTransacted _ _ | cardEnded _
  | cardForPerson _ _ | markCardAuthAcked _ _ => rfl
  | insertLanReceived _ | recoverAfterRestart | prune _ | cardBalanceContact _ _ _ _
  | cardBalanceOutcome _ _ _ | cardBalanceForget _ => simp [target] at ht

/-- An operation named with an id of Odoo leaves the LAN jobs alone. -/
lemma JournalOp.lanJobs_of_odoo {now : Time} {op : JournalOp} {j : Journal} {id : ℤ}
    (ht : op.target = some id) (hid : 0 ≤ id) : (op.run now j).lanJobs = j.lanJobs := by
  have hodoo : isLanJob id = false := by simpa using hid
  cases op with
  | insertReceived job | insertRefused job _ _ =>
    simp only [run, Journal.insertReceived, Journal.insertRefused, Journal.insert]
    split <;> rfl
  | startExecution _ | recordOutcome _ _ | failUnstarted _ _ _ | markDeviceContact _
  | recordStillUnknown _ _ =>
    simp only [target, Option.some.injEq] at ht
    subst ht
    simp only [run, Journal.startExecution, Journal.recordOutcome, Journal.failUnstarted,
      Journal.markDeviceContact, Journal.recordStillUnknown, Journal.updateRow, hodoo,
      Bool.false_eq_true, if_false]
    rfl
  | markAcked _ _ | markReported _ | reopenAck _ => rfl
  | cardContactOf jobId ip amount baseline txType targetSeq =>
    simp only [run, Journal.cardContactOf]
    split
    · rfl
    · rename_i j₁ hu
      have h₁ : j₁ = (j.updateOdoo now jobId .cardContact).2 := by rw [hu]
      split <;> simp [h₁, Journal.updateOdoo]
  | markLanReported jobId odooJobId note =>
    simp only [target, Option.some.injEq] at ht
    subst ht
    have hnone : j.lanJobs.get? (lanJobId jobId) = none := by
      cases h : j.lanJobs.get? (lanJobId jobId) with
      | none => rfl
      | some r =>
        have := AutoTable.pos_of_get? h
        simp only [lanJobId] at this
        omega
    simp only [run, Journal.markLanReported]
    have hfirst : (j.updateLan now (lanJobId jobId) (.markLanReported note)).2.lanJobs =
        j.lanJobs := AutoTable.update_eq_self _ _ (LanJob.key_apply now _)
          (by rw [AutoTable.updates, hnone]; rfl)
    rw [AutoTable.update_eq_self _ _ (LanJob.key_named odooJobId)
      (by rw [AutoTable.updates, hfirst, hnone]; rfl), hfirst]
  | cardAuthorized _ _ _ | cardTransacted _ _ | cardEnded _
  | cardForPerson _ _ | markCardAuthAcked _ _ => rfl
  | insertLanReceived _ | recoverAfterRestart | prune _ | cardBalanceContact _ _ _ _
  | cardBalanceOutcome _ _ _ | cardBalanceForget _ => simp [target] at ht

/-! ### Runs -/

variable {readFloat : Number → Number}

/-- Every row of every reachable journal is well formed. -/
lemma journal_rows_wf {j : Journal} (h : (journalRuns readFloat).Reach Transition.free j) :
    ∀ id e, j.get id = some e → RowWf e := by
  refine h.invariant (P := fun j => ∀ id e, j.get id = some e → RowWf e) ?_ ?_
  · intro id e he
    rw [show (journalRuns readFloat).init = Journal.empty readFloat from rfl,
      Journal.get_empty] at he
    cases he
  · rintro a ⟨now, op⟩ b - ih hstep -
    cases hstep
    exact fun id e he => (op.effect now a).wf ih he

/-- After any operations a final row still has its verdict, unless one of them was a `prune`
that deleted it. -/
lemma journal_verdict_kept {ops : List (Time × JournalOp)} {j j' : Journal}
    (hrun : (journalRuns readFloat).run j ops = some j') {id : ℤ} {e : JournalEntry}
    (he : j.get id = some e) (hf : e.state.isFinal = true) :
    (∃ e', j'.get id = some e' ∧ e'.verdict = e.verdict) ∨
      ∃ pre now n post j₁, ops = pre ++ (now, .prune n) :: post ∧
        (journalRuns readFloat).run j pre = some j₁ ∧ (∃ e₁, j₁.get id = some e₁) ∧
        (j₁.prune now n).get id = none := by
  induction ops generalizing j e with
  | nil =>
    simp only [Transition.run_nil, Option.some.injEq] at hrun
    subst hrun
    exact Or.inl ⟨e, he, rfl⟩
  | cons o ops ih =>
    obtain ⟨now, op⟩ := o
    rw [Transition.run_cons] at hrun
    simp only [journalRuns, Option.bind_some] at hrun
    rcases (op.effect now j).verdict he hf with ⟨e₁, he₁, hv⟩ | ⟨⟨n, rfl⟩, hnone⟩
    · have hs : e₁.state = e.state := congrArg Prod.fst hv
      rcases ih hrun he₁ (by rw [hs]; exact hf) with ⟨e', he', hv'⟩ | hpruned
      · exact Or.inl ⟨e', he', hv'.trans hv⟩
      · obtain ⟨pre, now', n, post, j₁, rfl, hpre, hrow, hgone⟩ := hpruned
        exact Or.inr ⟨(now, op) :: pre, now', n, post, j₁, rfl, hpre, hrow, hgone⟩
    · exact Or.inr ⟨[], now, n, ops, j, rfl, rfl, ⟨e, he⟩, hnone⟩

/-- In every journal that operations can make of a new one: a final row keeps its state,
result and error through all later operations until `prune` deletes it; the rows are well
formed; and an operation named with an id of one table leaves the other table as it is. -/
theorem first_final_outcome_wins {j : Journal}
    (h : (journalRuns readFloat).Reach Transition.free j) :
    (∀ id e, j.get id = some e → e.state.isFinal = true →
      ∀ ops j', (journalRuns readFloat).run j ops = some j' →
        (∃ e', j'.get id = some e' ∧ e'.verdict = e.verdict) ∨
          ∃ pre now n post j₁, ops = pre ++ (now, .prune n) :: post ∧
            (journalRuns readFloat).run j pre = some j₁ ∧ (∃ e₁, j₁.get id = some e₁) ∧
            (j₁.prune now n).get id = none) ∧
    (∀ id e, j.get id = some e →
      (e.state = .done → e.result.isSome ∧ e.errorCode = none) ∧
      (e.state = .failed → e.errorCode.isSome ∧ e.result = none) ∧
      (e.state.isFinal = false → e.result = none)) ∧
    (∀ (now : Time) (op : JournalOp) (id : ℤ), op.target = some id →
      (id < 0 → (op.run now j).deviceJobs = j.deviceJobs) ∧
      (0 ≤ id → (op.run now j).lanJobs = j.lanJobs)) := by
  refine ⟨fun id e he hf ops j' hrun => journal_verdict_kept hrun he hf, ?_, ?_⟩
  · intro id e he
    have hwf := journal_rows_wf h id e he
    exact ⟨hwf.done, hwf.failed, hwf.unfinished⟩
  · intro now op id ht
    exact ⟨JournalOp.deviceJobs_of_lan ht, JournalOp.lanJobs_of_odoo ht⟩

/-- A job of Odoo without any data. -/
def plainJob (id : ℤ) (jobType : String) : DeviceJob where
  id
  jobType
  clientUuid := ""
  kasaId := none
  kasaName := ""
  posOrder := .null
  payload := .obj []
  createdAt := ""
  claimedAt := ""

/-- The journal after one refused job. -/
theorem first_final_outcome_wins_refused :
    ∃ j e, (journalRuns id).Reach Transition.free j ∧ j.get 7 = some e ∧
      e.errorCode.isSome ∧ e.result = none := by
  let job : OdooJob := ⟨plainJob 7 "card.purchase", by decide⟩
  let j := (JournalOp.insertRefused job "bad_amount" "nothing ran").run 1 (Journal.empty id)
  have hrun : (journalRuns id).run (Journal.empty id)
      [(1, JournalOp.insertRefused job "bad_amount" "nothing ran")] = some j := rfl
  have hreach : (journalRuns id).Reach Transition.free j := Transition.leads_free_of_run hrun
  refine ⟨j, newEntry job.job (some ("bad_amount", "nothing ran")) 1, hreach, rfl, ?_⟩
  exact ((first_final_outcome_wins hreach).2.1 7 _ rfl).2.1 rfl

end DevBridge

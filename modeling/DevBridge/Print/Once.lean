import DevBridge.Print.Sound

/-!
# An accepted job is not sent to the printer again

From the acceptance of a page on, the receiver that waits for the task has the only copy of the
job id, until its report ends the job on the server; then there is no copy, and nothing makes
one of a job that may be printed.  So no receiver comes to start another task of the job, unless
the printer called the first page canceled or aborted.
-/

namespace DevBridge

namespace Print

open Server

open Transition (free)

variable {cfg : JobsConfig} {timeoutSecs : ℕ} {d : Server.StoredData} {w w' : PrintWorld}
  {e : PrintStep} {id : JobId} {c : ConnId} {r r' : Receiver} {n : ℕ} {t t' : PrintTask}
  {outcome : TaskOutcome} {event : Option TaskEvent} {f f' : Flow} {clients : ConnId → ℕ}

/-! ### The invariant -/

/-- The receiver waits for the task of the job, or is about to report that it need not be
resent. -/
def ReceiverStage.Holds (stage : ReceiverStage) (n : ℕ) (id : JobId) : Prop :=
  stage = .printing id n ∨ stage = .timedOut id n ∨
    ∃ report, stage = .reporting id report ∧ report.final

/-- Where an accepted job is: with the receiver of its task, or ended on the server. -/
def PrintWorld.Kept (w : PrintWorld) (n : ℕ) (id : JobId) : Prop :=
  (∃ c r, w.receivers c = some r ∧ r.stage.Holds n id) ∨
    (Tokens.Gone (w.copies id) ∧ w.server.flow.Stays JobRow.maybePrinted id)

/-- Whoever starts a task of a job finds no acceptance without a verdict. -/
def StartsOnce (history : List PrintEvent) : Prop :=
  ∀ t₁ t₂ m id n, history = t₂ ++ ⟨.started, m, id⟩ :: t₁ → ⟨.accepted, n, id⟩ ∈ t₁ →
    ⟨.verdict, n, id⟩ ∈ t₁

structure PrintWorld.Once (cfg : JobsConfig) (d : Server.StoredData) (w : PrintWorld) :
    Prop where
  server : (printServer cfg d).Reach free w.server
  attended : w.Attended
  known : ∀ c id, clientCopies w.receivers id c ≠ 0 → id < w.server.nextJob
  solo : ∀ id, Tokens.Solo (w.copies id)
  kept : ∀ n id, w.did .accepted n id → ¬ w.did .verdict n id → w.Kept n id
  once : StartsOnce w.history

/-! ### Copies at the clients -/

lemma clientCopies_some (hr : w.receivers c = some r) (id : JobId) :
    clientCopies w.receivers id c = r.copies id := by
  simp [clientCopies, hr]

lemma copies_of_job (h : r.stage.job = some id) : r.copies id = r.inbox.count id + 1 := by
  simp [Receiver.copies, h]

lemma copies_hear (r : Receiver) (id id' : JobId) :
    (r.hear id').copies id ≤ r.copies id + if id' = id then 1 else 0 := by
  unfold Receiver.hear
  split
  · exact Nat.le_add_right _ _
  · have hone : [id'].count id = if id' = id then 1 else 0 := by
      simp only [List.count_singleton, beq_iff_eq]
    simp only [Receiver.copies, List.count_append, hone]
    omega

/-- What the server puts on a stream arrives at the client, and nothing else. -/
lemma clientCopies_heard (s : ServerWorld) (id : JobId) (c : ConnId) :
    clientCopies (w.heard s) id c ≤ clientCopies w.receivers id c +
      if newlySent w.server.trace s.trace = some (c, id) then 1 else 0 := by
  unfold clientCopies PrintWorld.heard
  split
  · cases s.conns c with
    | none => simp
    | some k => simp [Receiver.copies, ReceiverStage.job]
  · cases hr : w.receivers c with
    | none =>
      split
      · split <;> simp
      · simp
    | some r =>
      split
      · rename_i c' id' hsent
        split
        · rename_i hc
          have hle := copies_hear r id id'
          simpa [hsent, hc, eq_comm] using hle
        · exact Nat.le_add_right _ _
      · exact Nat.le_add_right _ _

lemma clientCopies_set (w : PrintWorld) (c c' : ConnId) (r : Receiver) (id : JobId) :
    clientCopies (w.setReceiver c r).receivers id c' =
      if c' = c then r.copies id else clientCopies w.receivers id c' := by
  unfold clientCopies
  rw [receivers_set]
  split <;> rfl

/-- A receiver goes on without a new copy. -/
lemma copies_setReceiver_le (hr : w.receivers c = some r) (h : r'.copies id ≤ r.copies id)
    (p : Place) : (w.setReceiver c r').copies id p ≤ w.copies id p := by
  cases p with
  | client c' =>
    change clientCopies (w.setReceiver c r').receivers id c' ≤ clientCopies w.receivers id c'
    rw [clientCopies_set]
    split
    · rename_i hc
      rw [hc, clientCopies_some hr]
      exact h
    · exact le_rfl
  | _ => exact le_rfl

/-! ### Copies at the server -/

/-- A copy on the server is of a job that exists or existed. -/
lemma known_of_placed (hp : f.Placed) {p : Place} (hclient : ∀ c, p ≠ .client c)
    (h : placed f clients id p ≠ 0) : id < f.nextJob := by
  cases p with
  | pending =>
    exact (hp.pending id (List.count_pos_iff.mp (Nat.pos_of_ne_zero h))).known
  | route =>
    obtain ⟨⟨id', target⟩, hr, rfl⟩ := Multiset.mem_map.mp
      (Multiset.count_pos.mp (Nat.pos_of_ne_zero h))
    exact (hp.routes _ _ hr).known
  | line c =>
    cases hl : f.lines c with
    | none => simp [placed, hl] at h
    | some l =>
      have hpl := hp.lines c l hl
      have hcopies : l.copies id ≠ 0 := by
        intro hzero
        have hle := live_le l id
        rw [placed_line hl] at h
        omega
      by_cases hchannel : id ∈ l.channel
      · exact (hpl.channel id hchannel).known
      · have hstage : l.stage.copies id ≠ 0 := by
          rw [Line.copies, List.count_eq_zero.mpr hchannel, Nat.zero_add] at hcopies
          exact hcopies
        cases hs : l.stage with
        | draining ids =>
          rw [hs] at hstage
          have hid : id ∈ ids := List.count_pos_iff.mp (Nat.pos_of_ne_zero hstage)
          exact (hpl.selected ids hs id hid).known
        | running hand =>
          cases hand with
          | none => simp [hs, Stage.copies] at hstage
          | some id' =>
            obtain rfl : id' = id := by
              by_contra hne
              simp [hs, Stage.copies, hne] at hstage
            exact (hpl.hand id' hs).elim (fun ha => ha.known) fun ha => ha.known
        | _ => simp [hs, Stage.copies] at hstage
  | client c => exact absurd rfl (hclient c)

/-- What is put on a stream is of a job that exists or existed. -/
lemma known_of_sent {e : ServerStep} (hp : f.Placed) (hm : Flow.Move cfg f e f')
    (h : newlySent f.trace f'.trace = some (c, id)) : id < f.nextJob := by
  cases hm
  case sent c' l hl id' hstage hc =>
    rw [Flow.remember_trace, Flow.setLine_trace, newlySent_sent] at h
    obtain ⟨rfl, rfl⟩ := Prod.mk.inj (Option.some.inj h)
    exact ((hp.lines c' l hl).hand id' hstage).elim (fun ha => ha.known) fun ha => ha.known
  case routed => simp [newlySent_self] at h
  case drained => simp [newlySent_self] at h
  case pushed => cases h
  case requeued => cases h
  case reopened => cases h
  case leftFailed => cases h
  all_goals
    change newlySent f.trace f.trace = some (c, id) at h
    simp [newlySent_self] at h

/-- A completion changes jobs and retries, and no place of an id. -/
structure SamePlaces (f f' : Flow) : Prop where
  lines : f'.lines = f.lines
  pending : f'.pending = f.pending
  routes : f'.routes = f.routes
  nextJob : f'.nextJob = f.nextJob

lemma samePlaces_complete {completion : JobCompletion}
    (hm : Flow.Move cfg f (.complete completion) f') : SamePlaces f f' := by
  cases hm
  case pushed row _ _ hpush => cases hpush
  case requeued hroute => cases hroute
  case closed c l hl hstage he => simp at he
  all_goals exact ⟨rfl, rfl, rfl, rfl⟩

lemma SamePlaces.placed (h : SamePlaces f f') (clients : ConnId → ℕ) (id : JobId) :
    placed f' clients id = placed f clients id := by
  funext p
  cases p <;> simp [Print.placed, Flow.routings, h.lines, h.pending, h.routes]

/-- A job that may be printed is not queued again. -/
lemma not_cause_of_stays (hs : f.Stays JobRow.maybePrinted id) {q : Place}
    (hcause : Cause f f' id q) : False := by
  cases hcause with
  | pushed h => exact absurd h hs.known.ne
  | requeued row hrow hreq _ =>
    rw [hs.not_requeueable lasting_maybePrinted hrow] at hreq
    cases hreq
  | selected c l l' ids hl hl' hstage hstage' hid hqueued =>
    obtain ⟨row, hrow, hq, -⟩ := mem_queuedFor.mp hqueued
    have hmay := hs.row row hrow
    simp [JobRow.maybePrinted, JobRow.isIn, isQueued_iff.mp hq] at hmay

lemma not_queuedUnpaired_of_stays (hs : f.Stays JobRow.maybePrinted id) :
    id ∉ f.jobs.queuedUnpaired := by
  intro hid
  obtain ⟨row, hrow, hq, -⟩ := mem_queuedUnpaired.mp hid
  have hmay := hs.row row hrow
  simp [JobRow.maybePrinted, JobRow.isIn, isQueued_iff.mp hq] at hmay

/-- After a restart the copies are those of the clients and of the loaded default queue. -/
lemma placed_restarted (f : Flow) (clients : ConnId → ℕ) (id : JobId) (p : Place) :
    placed f.restarted clients id p = match p with
      | .pending => f.jobs.queuedUnpaired.count id
      | .client c => clients c
      | .route | .line _ => 0 := by
  cases p <;> simp [placed, Flow.routings]

/-! ### A step of the server -/

section Server

variable {s : ServerWorld} {e : ServerStep}

lemma effect_follow (hs : w.server.step cfg e = some s) (id : JobId) :
    Effect w.server.flow s.flow e id (clientCopies w.receivers id)
      (clientCopies (w.heard s) id) :=
  effect_of_move (Server.move_of_step hs) (clientCopies_heard s id)

lemma PrintWorld.Once.solo_follow (h : w.Once cfg d) (hs : w.server.step cfg e = some s)
    (hlaw : inTurn w (.server e) (w.follow s)) : Tokens.Solo ((w.follow s).copies id) := by
  rcases effect_follow hs id with hm | ⟨q, hcause, hm⟩ | ⟨rfl, hf, hle⟩
  · exact (h.solo id).moved hm
  · have hgone : Tokens.Gone (w.copies id) := by
      cases hcause with
      | pushed hid =>
        -- The id is new.
        intro p
        by_contra hp
        have hlt : id < w.server.flow.nextJob := by
          cases p with
          | client c => exact h.known c id hp
          | _ => exact known_of_placed (placed_of_reach h.server) (by simp) hp
        exact absurd hid hlt.ne
      | requeued row hrow _ htrace => exact hlaw.requeue id row hrow htrace
      | selected c l l' ids hl hl' hstage hstage' hid _ =>
        exact hlaw.drain c l l' ids hl hstage hl' hstage' id hid
    exact hgone.made hm
  · have heq : (w.follow s).copies id =
        placed w.server.flow.restarted (clientCopies (w.heard s) id) id := by
      unfold PrintWorld.copies
      change placed s.flow _ id = _
      rw [hf]
      rfl
    rw [heq]
    by_cases hid : id ∈ w.server.jobs.queuedUnpaired
    · refine Tokens.solo_of_place (q := .pending) ?_ fun p hp => ?_
      · rw [placed_restarted]
        exact List.nodup_iff_count_le_one.mp (queuedUnpaired_nodup _) id
      · rw [placed_restarted]
        cases p with
        | pending => exact absurd rfl hp
        | client c =>
          have hzero := hlaw.restart rfl id hid c
          exact Nat.le_zero.mp (hzero ▸ hle c)
        | _ => rfl
    · refine (h.solo id).fewer fun p => ?_
      rw [placed_restarted]
      cases p with
      | pending =>
        have hzero : w.server.flow.jobs.queuedUnpaired.count id = 0 := List.count_eq_zero.mpr hid
        exact hzero.le.trans (Nat.zero_le _)
      | client c => exact hle c
      | _ => exact Nat.zero_le _

/-- Nothing makes a copy of a job that may be printed. -/
lemma gone_follow (hgone : Tokens.Gone (w.copies id))
    (hstays : w.server.flow.Stays JobRow.maybePrinted id)
    (hs : w.server.step cfg e = some s) : Tokens.Gone ((w.follow s).copies id) := by
  rcases effect_follow hs id with hm | ⟨q, hcause, -⟩ | ⟨-, hf, hle⟩
  · exact hgone.moved hm
  · exact (not_cause_of_stays hstays hcause).elim
  · intro p
    have heq : (w.follow s).copies id p =
        placed w.server.flow.restarted (clientCopies (w.heard s) id) id p := by
      unfold PrintWorld.copies
      change placed s.flow _ id p = _
      rw [hf]
      rfl
    rw [heq, placed_restarted]
    cases p with
    | pending => exact List.count_eq_zero.mpr (not_queuedUnpaired_of_stays hstays)
    | client c =>
      have hzero : clientCopies w.receivers id c = 0 := hgone (.client c)
      exact Nat.le_zero.mp (hzero ▸ hle c)
    | _ => rfl

lemma PrintWorld.Kept.follow (h : w.Kept n id) (hfresh : ∀ c r, w.receivers c = some r →
    c < w.server.nextConn) (hs : w.server.step cfg e = some s) : (w.follow s).Kept n id := by
  rcases h with ⟨c, r, hr, hholds⟩ | ⟨hgone, hstays⟩
  · obtain ⟨r', hr', hstage⟩ := heard_stage (s := s) hr (hfresh c r hr)
    exact Or.inl ⟨c, r', hr', hstage ▸ hholds⟩
  · exact Or.inr ⟨gone_follow hgone hstays hs,
      hstays.move lasting_maybePrinted (Server.move_of_step hs)⟩

end Server

/-! ### A step of a receiver -/

lemma PrintWorld.Kept.setReceiver (h : w.Kept n id) (hr : w.receivers c = some r)
    (hcopies : r'.copies id ≤ r.copies id)
    (hholds : r.stage.Holds n id → r'.stage.Holds n id) : (w.setReceiver c r').Kept n id := by
  rcases h with ⟨c₀, r₀, hr₀, hholds₀⟩ | ⟨hgone, hstays⟩
  · refine Or.inl ?_
    by_cases hc : c₀ = c
    · subst hc
      obtain rfl : r = r₀ := Option.some.inj (hr.symm.trans hr₀)
      exact ⟨c₀, r', by rw [receivers_set, if_pos rfl], hholds hholds₀⟩
    · exact ⟨c₀, r₀, by rw [receivers_set, if_neg hc]; exact hr₀, hholds₀⟩
  · refine Or.inr ⟨fun p => ?_, hstays⟩
    exact Nat.le_zero.mp (hgone p ▸ copies_setReceiver_le hr hcopies p)

/-- A receiver goes on without a new copy, and does not let go of an accepted job. -/
lemma PrintWorld.Once.setReceiver (h : w.Once cfg d) (hr : w.receivers c = some r)
    (hattended : (w.setReceiver c r').Attended) (hcopies : ∀ id, r'.copies id ≤ r.copies id)
    (hholds : ∀ n id, w.did .accepted n id → ¬ w.did .verdict n id →
      r.stage.Holds n id → r'.stage.Holds n id) : (w.setReceiver c r').Once cfg d := by
  refine ⟨h.server, hattended, fun c' id hne => ?_, fun id => ?_,
    fun n id hacc hver => ?_, h.once⟩
  · refine h.known c' id fun hzero => hne ?_
    have hle := copies_setReceiver_le hr (hcopies id) (.client c')
    exact Nat.le_zero.mp (hzero ▸ hle)
  · exact (h.solo id).fewer (copies_setReceiver_le hr (hcopies id))
  · exact (h.kept n id hacc hver).setReceiver hr (hcopies id) (hholds n id hacc hver)

lemma not_holds {stage : ReceiverStage} (h : stage.task = none)
    (hreport : ∀ id report, stage ≠ .reporting id report) : ¬ stage.Holds n id := by
  rintro (rfl | rfl | ⟨report, rfl, -⟩)
  · cases h
  · cases h
  · exact hreport _ _ rfl

/-- A receiver with the same job at another stage. -/
lemma copies_setStage {stage : ReceiverStage} (h : stage.job = r.stage.job) (id : JobId) :
    ({ r with stage := stage } : Receiver).copies id ≤ r.copies id := by
  simp [Receiver.copies, h]

/-- A report that a task ended, or was given up, is final if a page was accepted. -/
lemma final_of_accepted {a v : Prop} {result : PrintResult} (h : t.Sound a v)
    (hresult : t.stage = .ended result) (ha : a) (hv : ¬ v) : (PrintReport.of result).final := by
  by_contra hnot
  obtain ⟨detail, rfl⟩ := report_final_iff.mp (eq_false_of_ne_true hnot)
  unfold PrintTask.Sound at h
  simp only [hresult, TaskStage.progress] at h
  exact hv (h.2 ⟨detail, rfl⟩ ha)

lemma flag_of_accepted {a v : Prop} (h : t.Sound a v) (ha : a)
    (hanswered : t.stage.progress ≠ .answered) : t.accepted = true := by
  unfold PrintTask.Sound at h
  cases hp : t.stage.progress <;> rw [hp] at h
  case untouched => exact absurd ha h.1
  case first => exact absurd ha h.1
  case answered => exact absurd hp hanswered
  case past => exact h.2
  case ended => exact h.1 ha

lemma final_printTimeoutError (timeoutSecs : ℕ) :
    (PrintReport.of (printTimeoutError timeoutSecs true)).final := rfl

/-- A completion with a final report leaves the job ended. -/
lemma stays_completeJob {s : ServerWorld} {completion : JobCompletion}
    (hknown : completion.jobId < s.nextJob)
    (hfinal : (completion.success || completion.unconfirmed) = true) :
    (s.completeJob completion).flow.Stays JobRow.maybePrinted completion.jobId := by
  have hfinish : ∀ state, state = .completed ∨ state = .unconfirmed →
      (s.finish completion.jobId state).flow.Stays JobRow.maybePrinted completion.jobId := by
    intro state hstate
    unfold ServerWorld.finish JobTable.updateJobState
    split_ifs with hrow
    · refine ⟨hknown, fun row' hrow' => ?_⟩
      change (s.jobs.update _ _ _).get? _ = some row' at hrow'
      rw [Table.get?_update_self] at hrow'
      obtain ⟨row, -, rfl⟩ := Option.map_eq_some_iff.mp hrow'
      rcases hstate with rfl | rfl <;> rfl
    · refine ⟨hknown, fun row hrow' => absurd ?_ hrow⟩
      simp [Table.updates, show s.jobs.get? completion.jobId = some row from hrow']
  unfold ServerWorld.completeJob
  split
  · exact hfinish _ (Or.inl rfl)
  · rename_i hsuccess
    split
    · exact hfinish _ (Or.inr rfl)
    · rename_i hunconfirmed
      simp [hsuccess, hunconfirmed] at hfinal

/-! ### One step -/

lemma StartsOnce.cons {history : List PrintEvent} {ev : PrintEvent} (h : StartsOnce history)
    (hev : ev.event = .started → ∀ n, ⟨.accepted, n, ev.jobId⟩ ∈ history →
      ⟨.verdict, n, ev.jobId⟩ ∈ history) : StartsOnce (ev :: history) := by
  intro t₁ t₂ m id n heq hacc
  rcases t₂ with _ | ⟨ev', t₂⟩
  · obtain ⟨rfl, rfl⟩ := List.cons.inj heq
    exact hev rfl n hacc
  · obtain ⟨-, heq⟩ := List.cons.inj heq
    exact h t₁ t₂ m id n heq hacc

lemma PrintWorld.Once.start (h : w.Once cfg d) (hr : w.receivers c = some r)
    (hstage : r.stage = .downloaded id) {machineId : String} :
    (((w.setStage c r (.printing id w.tasks.length)).addTask
      { machineId := machineId, jobId := id, pages := 0, stage := .rendering,
        cancelled := false, accepted := false }).remember .started w.tasks.length id).Once
          cfg d := by
  have hmine : w.copies id (.client c) ≠ 0 := by
    change clientCopies w.receivers id c ≠ 0
    rw [clientCopies_some hr, copies_of_job (by rw [hstage]; rfl)]
    exact Nat.succ_ne_zero _
  have hnone : ∀ n id, ¬ r.stage.Holds n id := fun n id =>
    not_holds (by rw [hstage]; rfl) (by simp [hstage])
  -- A job that is accepted without a verdict has its only copy elsewhere, or none.
  have hstart : ∀ n, w.did .accepted n id → w.did .verdict n id := by
    intro n hacc
    by_contra hver
    rcases h.kept n id hacc hver with ⟨c', r', hr', hholds⟩ | ⟨hgone, -⟩
    · have hother : w.copies id (.client c') ≠ 0 := by
        change clientCopies w.receivers id c' ≠ 0
        have hjob : r'.stage.job = some id := by
          rcases hholds with hs | hs | ⟨report, hs, -⟩ <;> rw [hs] <;> rfl
        rw [clientCopies_some hr', copies_of_job hjob]
        exact Nat.succ_ne_zero _
      obtain rfl := Place.client.inj ((h.solo id).place _ _ hmine hother)
      obtain rfl : r = r' := Option.some.inj (hr.symm.trans hr')
      exact hnone n id hholds
    · exact hmine (hgone _)
  have hcopies := copies_setStage (r := r)
    (show (ReceiverStage.printing id w.tasks.length).job = r.stage.job by rw [hstage]; rfl)
  refine ⟨h.server, h.attended.start hr hstage, fun c' id' hne => ?_, fun id' => ?_,
    fun n id' hacc hver => ?_, h.once.cons fun _ => hstart⟩
  · refine h.known c' id' fun hzero => hne ?_
    have hle := copies_setReceiver_le hr (hcopies id') (.client c')
    exact Nat.le_zero.mp (hzero ▸ hle)
  · exact (h.solo id').fewer (copies_setReceiver_le hr (hcopies id'))
  · have hacc' : w.did .accepted n id' := (List.mem_cons.mp hacc).resolve_left (by simp)
    have hver' : ¬ w.did .verdict n id' := fun hv =>
      hver (List.mem_cons_of_mem _ hv)
    exact (h.kept n id' hacc' hver').setReceiver hr (hcopies id')
      fun hholds => absurd hholds (hnone n id')

/-- A report that ends the job: the receiver lets its copy go, which was the only one. -/
lemma PrintWorld.Once.report (h : w.Once cfg d) {report : PrintReport}
    (hr : w.receivers c = some r) (hstage : r.stage = .reporting id report) (arrives : Bool)
    (hattended : (w.reportTo c r id report arrives).Attended)
    (harrives : report.final → arrives = true) :
    (w.reportTo c r id report arrives).Once cfg d := by
  have hcopies : ∀ id', ({ r with stage := .listening } : Receiver).copies id' ≤ r.copies id' := by
    intro id'
    simp [Receiver.copies, ReceiverStage.job]
  generalize hserver : (if arrives then w.server.completeJob (r.completion id report)
    else w.server) = s
  have hplaces : SamePlaces w.server.flow s.flow := by
    rw [← hserver]
    split
    · exact samePlaces_complete (move_complete cfg _)
    · exact ⟨rfl, rfl, rfl, rfl⟩
  have hmoved : ∀ id', w.server.flow.Stays JobRow.maybePrinted id' →
      s.flow.Stays JobRow.maybePrinted id' := by
    intro id' hstays
    rw [← hserver]
    split
    · exact hstays.move lasting_maybePrinted (move_complete cfg _)
    · exact hstays
  have hw' : w.reportTo c r id report arrives =
      ({ w with server := s } : PrintWorld).setReceiver c { r with stage := .listening } := by
    unfold PrintWorld.reportTo
    rw [hserver]
    rfl
  have hsame : ∀ id' p, (w.reportTo c r id report arrives).copies id' p =
      (w.setReceiver c { r with stage := .listening }).copies id' p := by
    intro id' p
    rw [hw']
    exact congrFun (hplaces.placed _ id') p
  have hle : ∀ id' p, (w.reportTo c r id report arrives).copies id' p ≤ w.copies id' p :=
    fun id' p => (hsame id' p).le.trans (copies_setReceiver_le hr (hcopies id') p)
  have hgone : ∀ id', Tokens.Gone (w.copies id') →
      Tokens.Gone ((w.reportTo c r id report arrives).copies id') := fun id' hg p =>
    Nat.le_zero.mp (hg p ▸ hle id' p)
  have hnext : s.nextJob = w.server.nextJob := hplaces.nextJob
  refine ⟨?_, hattended, fun c' id' hne => ?_, fun id' => (h.solo id').fewer (hle id'),
    fun n id' hacc hver => ?_, ?_⟩
  · rw [hw']
    change (printServer cfg d).Reach free s
    rw [← hserver]
    split
    · exact h.server.move ⟨.complete _, rfl, trivial⟩
    · exact h.server
  · rw [hw']
    refine (h.known c' id' fun hzero => hne ?_).trans_eq hnext.symm
    have hclient := hle id' (.client c')
    exact Nat.le_zero.mp (hzero ▸ hclient)
  · rw [hw'] at hacc hver
    rcases h.kept n id' hacc hver with ⟨c₀, r₀, hr₀, hholds⟩ | ⟨hg, hstays⟩
    · by_cases hc : c₀ = c
      · subst hc
        obtain rfl : r = r₀ := Option.some.inj (hr.symm.trans hr₀)
        rcases hholds with hs | hs | ⟨report', hs, hfinal⟩
        · rw [hstage] at hs
          cases hs
        · rw [hstage] at hs
          cases hs
        · rw [hstage] at hs
          obtain ⟨rfl, rfl⟩ := ReceiverStage.reporting.inj hs
          -- The report arrives and ends the job.
          have harr := harrives hfinal
          have hmine : clientCopies w.receivers id c₀ = r.inbox.count id + 1 := by
            rw [clientCopies_some hr, copies_of_job (by rw [hstage]; rfl)]
          refine Or.inr ⟨?_, ?_⟩
          · refine (h.solo id).gone_of_taken (p := .client c₀) ?_ ?_ (hle id)
            · change clientCopies w.receivers id c₀ ≠ 0
              omega
            · rw [hsame]
              change clientCopies (w.setReceiver c₀ _).receivers id c₀ <
                clientCopies w.receivers id c₀
              rw [clientCopies_set, if_pos rfl, hmine]
              simp [Receiver.copies, ReceiverStage.job]
          · have hknown : id < w.server.nextJob := h.known c₀ id (by omega)
            rw [hw']
            change s.flow.Stays JobRow.maybePrinted id
            rw [← hserver, harr, if_pos rfl]
            exact stays_completeJob hknown hfinal
      · refine Or.inl ⟨c₀, r₀, ?_, hholds⟩
        rw [hw', receivers_set, if_neg hc]
        exact hr₀
    · refine Or.inr ⟨hgone id' hg, ?_⟩
      rw [hw']
      exact hmoved id' hstays
  · rw [hw']
    exact h.once

/-- A print task goes on: an acceptance finds the receiver of the task waiting. -/
lemma PrintWorld.Once.runTask (h : w.Once cfg d) (ht : w.tasks[n]? = some t)
    (hs : t.Steps outcome event t')
    (hattended : ({ w.setTask n t' with
        history := (event.map fun event => ⟨event, n, t.jobId⟩).toList ++ w.history } :
      PrintWorld).Attended) :
    ({ w.setTask n t' with
        history := (event.map fun event => ⟨event, n, t.jobId⟩).toList ++ w.history } :
      PrintWorld).Once cfg d := by
  have hkept : ∀ m id', w.did .accepted m id' → ¬ w.did .verdict m id' →
      ({ w.setTask n t' with
        history := (event.map fun event => ⟨event, n, t.jobId⟩).toList ++ w.history } :
      PrintWorld).Kept m id' := fun m id' hacc hver => h.kept m id' hacc hver
  refine ⟨h.server, hattended, h.known, h.solo, fun m id' hacc hver => ?_, ?_⟩
  · have hver' : ¬ w.did .verdict m id' := fun hv => hver (List.mem_append_right _ hv)
    rcases List.mem_append.mp hacc with hnew | hacc
    · obtain ⟨event', hevent, heq⟩ := Option.map_eq_some_iff.mp (Option.mem_toList.mp hnew)
      obtain ⟨rfl, rfl, rfl⟩ := PrintEvent.mk.inj heq
      cases hs with
      | accepted i printerJobId hstage =>
        rcases Nat.eq_zero_or_pos i with rfl | hi
        · have hp : t.stage.progress = .first := by rw [hstage]; rfl
          obtain ⟨c, r, hr, htask⟩ := h.attended.attached n t ht (Or.inl hp)
          obtain ⟨t₀, ht₀, hjob⟩ := h.attended.runs c r n hr htask
          obtain rfl : t = t₀ := Option.some.inj (ht.symm.trans ht₀)
          refine Or.inl ⟨c, r, hr, ?_⟩
          unfold ReceiverStage.Holds
          revert htask hjob
          cases r.stage <;> simp +contextual [ReceiverStage.task, ReceiverStage.job]
        · have hsound := h.attended.sound n t ht
          unfold PrintTask.Sound at hsound
          simp only [hstage, TaskStage.progress, hi.ne', if_false] at hsound
          exact hkept _ _ hsound.1 hver'
      | canceled i printerJobId evidence hstage =>
        split at hevent <;> cases hevent
      | _ => cases hevent
    · exact hkept m id' hacc hver'
  · cases hs with
    | posted => exact h.once.cons (by rintro ⟨⟩)
    | accepted => exact h.once.cons (by rintro ⟨⟩)
    | canceled i printerJobId evidence hstage =>
      split
      · exact h.once.cons (by rintro ⟨⟩)
      · exact h.once
    | _ => exact h.once

lemma PrintWorld.Once.move (h : w.Once cfg d) (hm : PrintWorld.Move cfg timeoutSecs w e w')
    (hlaw : inTurn w e w') : w'.Once cfg d := by
  have hattended := h.attended.move hm hlaw
  cases hm with
  | server e s hs =>
    refine ⟨h.server.move ⟨e, hs, trivial⟩, hattended, fun c id hne => ?_,
      fun id => h.solo_follow hs hlaw, fun n id hacc hver => ?_, h.once⟩
    · have hle := clientCopies_heard (w := w) s id c
      have hmove := Server.move_of_step hs
      by_cases hold : clientCopies w.receivers id c = 0
      · by_cases hsent : newlySent w.server.trace s.trace = some (c, id)
        · exact (known_of_sent (placed_of_reach h.server) hmove hsent).trans_le (nextJob_le hmove)
        · rw [if_neg hsent, hold] at hle
          exact absurd (Nat.le_zero.mp hle) hne
      · exact (h.known c id hold).trans_le (nextJob_le hmove)
    · exact (h.kept n id hacc hver).follow h.attended.fresh hs
  | received c r hr id rest hstage hinbox =>
    refine h.setReceiver hr hattended (fun id' => ?_) fun n id' _ _ hholds => ?_
    · simp only [Receiver.copies, hstage, hinbox, ReceiverStage.job, List.count_cons, beq_iff_eq,
        Option.some.injEq, reduceCtorEq, if_false]
      exact le_rfl
    · exact absurd hholds (not_holds (by rw [hstage]; rfl) (by simp [hstage]))
  | hungUp c r hr hstage =>
    refine h.setReceiver hr hattended (fun id' => ?_) fun n id' _ _ hholds => ?_
    · simp [Receiver.copies, ReceiverStage.job]
    · exact absurd hholds (not_holds (by rw [hstage]; rfl) (by simp [hstage]))
  | goesOn c r hr step id stage hstage hstage' =>
    refine h.setReceiver hr hattended (copies_setStage ?_) fun n id' _ _ hholds => ?_
    · rcases hstage with hs | hs <;> rcases hstage' with rfl | ⟨report, rfl⟩ <;> rw [hs] <;> rfl
    · refine absurd hholds (not_holds (task_of_stage hstage) fun id'' report heq => ?_)
      rcases hstage with hs | hs <;> rw [hs] at heq <;> cases heq
  | started c r hr id hstage => exact h.start hr hstage
  | finished c r hr id n hstage t ht result hresult =>
    refine h.setReceiver hr hattended (copies_setStage (by rw [hstage]; rfl))
      fun m id' hacc hver hholds => ?_
    have hjob := h.attended.runs c r n hr (by rw [hstage]; rfl)
    obtain ⟨t₀, ht₀, hid⟩ := hjob
    obtain rfl : t = t₀ := Option.some.inj (ht.symm.trans ht₀)
    rw [hstage] at hholds hid
    rcases hholds with hs | hs | ⟨report, hs, -⟩
    · obtain ⟨rfl, rfl⟩ := ReceiverStage.printing.inj hs
      obtain rfl : id = t.jobId := Option.some.inj hid
      exact Or.inr (Or.inr ⟨_, rfl,
        final_of_accepted (h.attended.sound n t ht) hresult hacc hver⟩)
    · cases hs
    · cases hs
  | timedOut c r hr id n hstage t ht =>
    have hcopies := copies_setStage (r := r)
      (show (ReceiverStage.timedOut id n).job = r.stage.job by rw [hstage]; rfl)
    refine ⟨h.server, hattended, fun c' id' hne => ?_, fun id' => ?_,
      fun m id' hacc hver => ?_, h.once⟩
    · refine h.known c' id' fun hzero => hne ?_
      have hle := copies_setReceiver_le hr (hcopies id') (.client c')
      exact Nat.le_zero.mp (hzero ▸ hle)
    · exact (h.solo id').fewer (copies_setReceiver_le hr (hcopies id'))
    · refine (h.kept m id' hacc hver).setReceiver hr
        (hcopies id') fun hholds => ?_
      rw [hstage] at hholds
      rcases hholds with hs | hs | ⟨report, hs, -⟩
      · obtain ⟨rfl, rfl⟩ := ReceiverStage.printing.inj hs
        exact Or.inr (Or.inl rfl)
      · cases hs
      · cases hs
  | decided c r hr id n hstage t ht =>
    refine h.setReceiver hr hattended (copies_setStage (by rw [hstage]; rfl))
      fun m id' hacc hver hholds => ?_
    obtain ⟨t₀, ht₀, hid⟩ := h.attended.runs c r n hr (by rw [hstage]; rfl)
    obtain rfl : t = t₀ := Option.some.inj (ht.symm.trans ht₀)
    rw [hstage] at hholds hid
    rcases hholds with hs | hs | ⟨report, hs, -⟩
    · cases hs
    · obtain ⟨rfl, rfl⟩ := ReceiverStage.timedOut.inj hs
      obtain rfl : id = t.jobId := Option.some.inj hid
      have hanswered := (hlaw.decide c r t.jobId n t rfl hr hstage ht).2
      have hflag := flag_of_accepted (h.attended.sound n t ht) hacc hanswered
      refine Or.inr (Or.inr ⟨_, rfl, ?_⟩)
      rw [hflag]
      exact final_printTimeoutError timeoutSecs
    · cases hs
  | reported c r hr id report hstage arrives =>
    exact h.report hr hstage arrives hattended fun hfinal =>
      hlaw.report c r id report arrives rfl hr hstage hfinal
  | task n t t' ht outcome event hs => exact h.runTask ht hs hattended

/-! ### Runs -/

lemma once_init (cfg : JobsConfig) (d : Server.StoredData) :
    (StoredData.withoutClients d).Once cfg d := by
  have hcopies : ∀ id p, p ≠ .pending → (StoredData.withoutClients d).copies id p = 0 := by
    intro id p hp
    cases p with
    | pending => exact absurd rfl hp
    | _ => simp [PrintWorld.copies, placed, StoredData.withoutClients, Server.StoredData.start,
        ServerWorld.restarted, ServerWorld.flow, Flow.routings, routesOf, clientCopies]
  refine ⟨Transition.Reach.init, ⟨?_, ?_, ?_, ?_, ?_, ?_⟩, fun c id hne => ?_, fun id => ?_,
    fun n id hacc => absurd hacc List.not_mem_nil, fun t₁ t₂ m id n heq => ?_⟩
  · rintro c r ⟨⟩
  · exact fun n t ht => by simp [StoredData.withoutClients] at ht
  · exact fun ev hev => absurd hev List.not_mem_nil
  · rintro c r n ⟨⟩
  · rintro c r id n t ⟨⟩
  · exact fun n t ht => by simp [StoredData.withoutClients] at ht
  · exact absurd (hcopies id (.client c) (by simp)) hne
  · refine Tokens.solo_of_place (q := .pending) ?_ (hcopies id)
    exact List.nodup_iff_count_le_one.mp (queuedUnpaired_nodup d.jobs) id
  · simp [StoredData.withoutClients] at heq

lemma once_of_reach (h : (printing cfg timeoutSecs d).Reach inTurn w) : w.Once cfg d :=
  h.invariant (P := fun v => v.Once cfg d) (once_init cfg d) fun _ _ _ _ hv hstep hlaw =>
    hv.move (PrintWorld.move_of_step hstep) hlaw

/-- As long as the steps are in turn, no print task that starts after a page of the job was
accepted sends a Print-Job, unless the printer called the first page of that attempt canceled or
aborted. -/
theorem accepted_not_sent_again (h : (printing cfg timeoutSecs d).Reach inTurn w)
    {t₁ t₂ : List PrintEvent} {m : ℕ} (hstart : w.history = t₂ ++ ⟨.started, m, id⟩ :: t₁)
    (haccepted : ⟨.accepted, n, id⟩ ∈ t₁) :
    ⟨.posted, m, id⟩ ∈ t₂ → ⟨.verdict, n, id⟩ ∈ t₁ := fun _ =>
  (once_of_reach h).once t₁ t₂ m id n hstart haccepted

/-! ### Two runs -/

/-- Whether there is no copy of the id, on the connections so far. -/
def PrintWorld.noCopies (w : PrintWorld) (id : JobId) : Bool :=
  w.copies id .pending == 0 && w.copies id .route == 0 &&
    (List.range w.server.nextConn).all fun c =>
      w.copies id (.line c) == 0 && w.copies id (.client c) == 0

lemma gone_of_noCopies (h : w.Once cfg d) (htest : w.noCopies id = true) :
    Tokens.Gone (w.copies id) := by
  simp only [PrintWorld.noCopies, Bool.and_eq_true, beq_iff_eq, List.all_eq_true,
    List.mem_range] at htest
  obtain ⟨⟨hpending, hroute⟩, hconns⟩ := htest
  intro p
  cases p with
  | pending => exact hpending
  | route => exact hroute
  | line c =>
    by_cases hc : c < w.server.nextConn
    · exact (hconns c hc).1
    · cases hl : w.server.flow.lines c with
      | none => simp [PrintWorld.copies, placed, hl]
      | some l => exact absurd ((placed_of_reach h.server).fresh c l hl) hc
  | client c =>
    by_cases hc : c < w.server.nextConn
    · exact (hconns c hc).2
    · cases hr : w.receivers c with
      | none => simp [PrintWorld.copies, placed, clientCopies, hr]
      | some r => exact absurd (h.attended.fresh c r hr) hc

/-- A requeue finds no copy, and a drain selects nothing. -/
def tidyServer (w w' : PrintWorld) : Bool :=
  (match w'.server.trace with
    | .queued id false :: rest => rest.length != w.server.trace.length ||
      (w.server.jobs.get? id).isNone || w.noCopies id
    | _ => true) &&
    (List.range w.server.nextConn).all fun c => (w'.server.flow.lines c).all fun l =>
      match l.stage with
      | .draining ids => ids == []
      | _ => true

/-- The steps of clients that keep the condition, and a server that does not restart. -/
def tidyStep (w : PrintWorld) : PrintStep → Bool
  | .server e => e != .restart
  | .receiver c .decide => (w.receivers c).all fun r =>
    match r.stage with
    | .timedOut _ n => (w.tasks[n]?).all fun t =>
      t.stage.progress != .first && t.stage.progress != .answered
    | _ => true
  | .receiver c (.report arrives) => (w.receivers c).all fun r =>
    match r.stage with
    | .reporting _ report => !report.final || arrives
    | _ => true
  | .receiver _ _ => true
  | .task n (.fails _) => (w.tasks[n]?).all fun t =>
    match t.stage with
    | .acknowledged 0 _ => false
    | _ => true
  | .task _ _ => true

def tidy (w : PrintWorld) (e : PrintStep) (w' : PrintWorld) : Bool :=
  tidyStep w e && tidyServer w w'

lemma inTurn_of_tidy (h : w.Once cfg d) (htest : tidy w e w' = true) : inTurn w e w' := by
  rw [tidy, Bool.and_eq_true] at htest
  obtain ⟨hstep, hserver⟩ := htest
  simp only [tidyServer, Bool.and_eq_true, List.all_eq_true, List.mem_range] at hserver
  obtain ⟨hqueue, hdrain⟩ := hserver
  refine ⟨?_, ?_, ?_, fun id row hrow htrace => ?_, fun c l l' ids hl _ hl' hstage id hid => ?_, ?_⟩
  · rintro c r id n t rfl hr hstage ht
    simpa [tidyStep, hr, hstage, ht] using hstep
  · rintro n t printerJobId detail rfl ht hstage
    simp [tidyStep, ht, hstage] at hstep
  · rintro c r id report arrives rfl hr hstage hfinal
    simpa [tidyStep, hr, hstage, hfinal] using hstep
  · rw [htrace] at hqueue
    simp only [bne_self_eq_false, hrow, Option.isNone_some, Bool.or_self, Bool.false_or]
      at hqueue
    exact gone_of_noCopies h hqueue
  · have hc := (placed_of_reach h.server).fresh c l hl
    have hempty := hdrain c hc
    simp only [hl', Option.all_some, hstage, beq_iff_eq] at hempty
    rw [hempty] at hid
    cases hid
  · rintro rfl
    simp [tidyStep] at hstep

/-- The client `store` is connected, and a job for it is put on its stream. -/
def storeIsSent : List ServerStep :=
  storeConnects ++ [.push (printRequest "kasa"), .task 0, .loop 0, .loop 0, .loop 0, .loop 0,
    .loop 0]

/-- The job is sent, and taken by the client. -/
def firstAttempt : List PrintStep :=
  storeIsSent.map PrintStep.server ++
    [.receiver 0 .receive, .receiver 0 (.download none), .receiver 0 .start]

/-- The document has one page, whose Print-Job is sent. -/
def sendsPage (n : ℕ) : List PrintStep :=
  [.task n (.rendered 1), .task n .goesOn, .task n .goesOn]

/-- The failure that was reported is looked up and requeued, and the job is sent and taken
again. -/
def secondAttempt : List PrintStep :=
  [.server (.task 0), .server (.task 0), .server (.task 0)] ++
    [.server (.loop 0), .server (.loop 0), .server (.loop 0), .server (.loop 0),
      .server (.loop 0), .receiver 0 .receive, .receiver 0 (.download none), .receiver 0 .start]

/-- The printer accepts the page and aborts it later; the job fails, and is printed again. -/
def abortedThenRepeated : List PrintStep :=
  firstAttempt ++ sendsPage 0 ++ [.task 0 (.accepts 7), .task 0 .goesOn, .task 0 .goesOn,
    .task 0 (.canceled "IPP job-state=8 (aborted), job-id=7, reasons=none"),
    .receiver 0 .finish, .receiver 0 (.report true)] ++ secondAttempt ++ sendsPage 1

/-- The timeout fires while the page is on its way, and the printer accepts it after that. -/
def acceptedTooLate : List PrintStep :=
  firstAttempt ++ sendsPage 0 ++ [.receiver 0 .timeout, .receiver 0 .decide,
    .receiver 0 (.report true), .task 0 (.accepts 7), .task 0 .goesOn, .task 0 .goesOn,
    .task 0 (.loses "print cancelled by the outer timeout while polling, last state=5")] ++
    secondAttempt ++ sendsPage 1

/-- The printer aborts the job of the first attempt, so the second one may send it. -/
theorem accepted_not_sent_again_aborted : ∃ (w : PrintWorld) (t₁ t₂ : List PrintEvent),
    (printing ⟨3, 30⟩ 1800 .empty).Reach inTurn w ∧ w.history = t₂ ++ ⟨.started, 1, 0⟩ :: t₁ ∧
      ⟨.accepted, 0, 0⟩ ∈ t₁ ∧ ⟨.posted, 1, 0⟩ ∈ t₂ ∧ ⟨.verdict, 0, 0⟩ ∈ t₁ := by
  obtain ⟨w, hw, hgoal⟩ := (printing ⟨3, 30⟩ 1800 .empty).reach_of_sound_tests inTurn
    abortedThenRepeated
    (fun w => w.history == [⟨.posted, 1, 0⟩, ⟨.started, 1, 0⟩, ⟨.verdict, 0, 0⟩,
      ⟨.accepted, 0, 0⟩, ⟨.posted, 0, 0⟩, ⟨.started, 0, 0⟩])
    (fun _ _ _ hreach _ htest => inTurn_of_tidy (once_of_reach hreach) htest)
    (by decide +kernel) (by decide +kernel)
  have hhistory : w.history = [⟨.posted, 1, 0⟩] ++ ⟨.started, 1, 0⟩ ::
      [⟨.verdict, 0, 0⟩, ⟨.accepted, 0, 0⟩, ⟨.posted, 0, 0⟩, ⟨.started, 0, 0⟩] :=
    beq_iff_eq.mp hgoal
  exact ⟨w, _, _, hw, hhistory, by simp, by simp,
    accepted_not_sent_again hw hhistory (by simp) (by simp)⟩

/-- The timeout fires while the Print-Job is unanswered, and the receiver reports a plain
failure; the printer accepts the job, and the requeue sends it a second time. -/
theorem accepted_sent_again : ∃ (w : PrintWorld) (t₁ t₂ : List PrintEvent),
    (printing ⟨3, 30⟩ 1800 .empty).Reach free w ∧ w.history = t₂ ++ ⟨.started, 1, 0⟩ :: t₁ ∧
      ⟨.accepted, 0, 0⟩ ∈ t₁ ∧ ⟨.posted, 1, 0⟩ ∈ t₂ ∧ ∀ n, ⟨.verdict, n, 0⟩ ∉ w.history := by
  obtain ⟨w, hw, hgoal⟩ := (printing ⟨3, 30⟩ 1800 .empty).reach_of_run acceptedTooLate
    (fun w => w.history == [⟨.posted, 1, 0⟩, ⟨.started, 1, 0⟩, ⟨.accepted, 0, 0⟩,
      ⟨.posted, 0, 0⟩, ⟨.started, 0, 0⟩]) (by decide +kernel)
  have hhistory := beq_iff_eq.mp hgoal
  refine ⟨w, [⟨.accepted, 0, 0⟩, ⟨.posted, 0, 0⟩, ⟨.started, 0, 0⟩], [⟨.posted, 1, 0⟩], hw,
    hhistory, by simp, by simp, fun n => ?_⟩
  rw [hhistory]
  simp

end Print

end DevBridge

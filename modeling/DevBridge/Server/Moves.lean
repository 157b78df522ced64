import DevBridge.Server.Flow

/-!
# Every step of the server is a move of the flow

The operations of the server are followed into the flow, one by one; then each step is one of
the moves.
-/

namespace DevBridge

namespace Server

/-! ### The operations on the flow -/

section Projections

variable {w : ServerWorld} {c : ConnId} {k : Connection} {id : JobId}

lemma stage_eq_closed {phase : Phase} : phase.stage = .closed ↔ phase = .closed := by
  cases phase <;> simp [Phase.stage]

lemma lines_of_conns (hk : w.conns c = some k) : w.flow.lines c = some k.line := by
  simp [ServerWorld.flow, hk]

lemma flow_setConn : (w.setConn c k).flow = w.flow.setLine c k.line := by
  have hlines : (fun c' => (Function.update w.conns c (some k) c').map Connection.line) =
      Function.update (fun c' => (w.conns c').map Connection.line) c (some k.line) := by
    funext c'
    by_cases h : c' = c
    · subst h
      simp
    · simp [h]
  simp only [ServerWorld.flow, ServerWorld.setConn, Flow.setLine, hlines]

lemma flow_setPhase (phase : Phase) :
    (w.setPhase c k phase).flow = w.flow.setLine c { k.line with stage := phase.stage } :=
  flow_setConn

/-- A step within a stage is not seen in the flow. -/
lemma flow_setPhase_of_stage (hk : w.conns c = some k) {phase : Phase}
    (h : phase.stage = k.phase.stage) : (w.setPhase c k phase).flow = w.flow := by
  have hline : { k.line with stage := phase.stage } = k.line := by
    rw [h]
    rfl
  rw [flow_setPhase, hline, Flow.setLine, ← lines_of_conns hk, Function.update_eq_self]

lemma flow_deliver (ids : List JobId) : (w.deliver c ids).flow = w.flow.deliver c ids := by
  unfold ServerWorld.deliver Flow.deliver
  cases hk : w.conns c with
  | none => simp [ServerWorld.flow, hk]
  | some k =>
    simp only [lines_of_conns hk]
    have hclosed : k.line.stage = .closed ↔ k.phase = .closed := stage_eq_closed
    by_cases h : k.phase = .closed
    · rw [if_pos h, if_pos (hclosed.mpr h)]
    · rw [if_neg h, if_neg fun hl => h (hclosed.mp hl)]
      exact flow_setConn

lemma flow_deliverTo (machineId : String) (ids : List JobId) :
    (w.deliverTo machineId ids).flow = w.flow.deliverTo machineId ids := by
  unfold ServerWorld.deliverTo Flow.deliverTo
  cases hr : w.registry machineId with
  | none => simp [ServerWorld.flow, hr]
  | some c =>
    have hr' : w.flow.registry machineId = some c := hr
    rw [hr']
    exact flow_deliver ids

lemma flow_registerClient (machineId : String) :
    (w.registerClient machineId).flow = w.flow.opened machineId := by
  have hlines : (w.registerClient machineId).flow.lines = (w.flow.opened machineId).lines := by
    funext c'
    by_cases h : c' = w.nextConn
    · subst h
      simp [ServerWorld.flow, ServerWorld.registerClient, Flow.opened, Connection.line,
        Phase.stage]
    · simp [ServerWorld.flow, ServerWorld.registerClient, Flow.opened, h]
  simp only [ServerWorld.flow, ServerWorld.registerClient, Flow.opened, Flow.mk.injEq, true_and,
    and_true] at hlines ⊢
  exact hlines

end Projections

/-! ### Every step is a move -/

section Moves

variable {cfg : JobsConfig} {w w' : ServerWorld} {c : ConnId} {k : Connection}

lemma isQueued_iff {row : JobRow} : row.isQueued = true ↔ row.state = .known .queued := by
  simp [JobRow.isQueued, JobRow.isIn]

lemma read_eq_queued_iff {row : JobRow} : row.state.read = .queued ↔ row.isQueued = true := by
  rw [isQueued_iff]
  cases row.state <;> simp [StateText.read]

lemma flow_addTask (task : Task) (h : task.routing = none) (hretry : task.isRetry = false) :
    (w.addTask task).flow = w.flow := by
  simp [ServerWorld.flow, ServerWorld.addTask, routesOf, retriesOf, h, hretry]

lemma flow_goOn (rest : List (JobId × ℕ)) : (w.goOn rest).flow = w.flow := by
  unfold ServerWorld.goOn
  split
  · rfl
  · exact flow_addTask _ rfl rfl

/-- A task that runs is taken off the list. -/
lemma perm_eraseIdx {α : Type*} {tasks : List α} {place : ℕ} {task : α}
    (h : tasks[place]? = some task) : tasks.Perm (task :: tasks.eraseIdx place) := by
  obtain ⟨hlt, rfl⟩ := List.getElem?_eq_some_iff.mp h
  exact (List.getElem_cons_eraseIdx_perm hlt).symm

lemma routesOf_perm {tasks tasks' : List Task} (h : tasks.Perm tasks') :
    routesOf tasks = routesOf tasks' :=
  Multiset.coe_eq_coe.mpr (h.filterMap _)

lemma retriesOf_perm {tasks tasks' : List Task} (h : tasks.Perm tasks') :
    retriesOf tasks = retriesOf tasks' :=
  Multiset.coe_eq_coe.mpr (h.filter _)

lemma finished_iff {row : JobRow} : row.finished = true ↔ ¬ row.inProgress = true := by
  simp [JobRow.finished]

/-- A write to one row that queues nothing. -/
lemma wrote_update {jobs : JobTable} {id : JobId} (p : JobRow → Bool) (write : JobRow → JobRow)
    (h : ∀ row, jobs.get? id = some row → p row → RowWrite row (write row)) :
    Wrote jobs (jobs.update id p write) := by
  intro id' row' hrow'
  rw [Table.get?_update, Option.map_eq_some_iff] at hrow'
  obtain ⟨row, hrow, rfl⟩ := hrow'
  refine ⟨row, hrow, ?_⟩
  split
  · rename_i hp
    obtain ⟨rfl, hp⟩ := hp
    exact h row hrow hp
  · exact ⟨rfl, rfl, fun hq => hq, fun hf => hf, fun hm => hm⟩

lemma finished_of_maybePrinted {row : JobRow} (h : row.maybePrinted) : row.finished := by
  rw [finished_iff]
  simp only [JobRow.maybePrinted, JobRow.inProgress, JobRow.isIn, List.any_cons, List.any_nil,
    Bool.or_false, Bool.or_eq_true, beq_iff_eq] at h ⊢
  rcases h with h | h <;> simp [h]

lemma InProgress.update {jobs : JobTable} {id id' : JobId} {p : JobRow → Bool}
    {write : JobRow → JobRow} (h : InProgress jobs id)
    (hwrite : id = id' → ∀ row, row.inProgress → p row → (write row).inProgress) :
    InProgress (jobs.update id' p write) id := by
  intro row' hrow'
  rw [Table.get?_update, Option.map_eq_some_iff] at hrow'
  obtain ⟨row, hrow, rfl⟩ := hrow'
  split
  · rename_i hp
    exact hwrite hp.1 row (h row hrow) hp.2
  · exact h row hrow

lemma inProgress_withState {state : JobState} (now : Time) (row : JobRow)
    (h : state ∉ [.completed, .cancelled, .unconfirmed]) :
    (row.withState now state).inProgress := by
  cases state <;> simp at h <;> rfl

/-- A state other than `queued` is written to a job in progress, or it says that the job may
be printed. -/
lemma rowWrite_withState {row : JobRow} (now : Time) {state : JobState} (hne : state ≠ .queued)
    (h : row.inProgress ∨ state = .completed ∨ state = .unconfirmed) :
    RowWrite row (row.withState now state) := by
  have hnot : row.finished → state = .completed ∨ state = .unconfirmed := fun hf =>
    h.resolve_left (finished_iff.mp hf)
  refine ⟨rfl, rfl, fun hq => ?_, fun hf => ?_, fun hm => ?_⟩
  · exact absurd (StateText.known.inj (isQueued_iff.mp hq)) hne
  · rcases hnot hf with rfl | rfl <;> rfl
  · rcases hnot (finished_of_maybePrinted hm) with rfl | rfl <;> rfl

lemma requeueJob_eq {jobs jobs' : JobTable} {now : Time} {id : JobId} {errorDetail : String}
    (h : jobs.requeueJob now id errorDetail = some (true, jobs')) :
    ∃ row, jobs.get? id = some row ∧ row.requeueable ∧
      jobs' = jobs.update id (fun _ => true) (JobRow.requeued now errorDetail) := by
  unfold JobTable.requeueJob at h
  split at h
  · cases h
  · rename_i row hrow
    split at h
    · rename_i hreq
      simp only [Option.some.injEq, Prod.mk.injEq, true_and] at h
      exact ⟨row, hrow, hreq, h.symm⟩
    · simp at h

lemma updateUnlessTerminal_eq {jobs jobs' : JobTable} {now : Time} {id : JobId}
    {state : JobState} (h : jobs.updateUnlessTerminal now id state = some (true, jobs')) :
    ∃ row, jobs.get? id = some row ∧ row.inProgress ∧
      jobs' = jobs.update id (fun _ => true) (JobRow.withState now state) := by
  unfold JobTable.updateUnlessTerminal at h
  split at h
  · cases h
  · rename_i row hrow
    split at h
    · rename_i hin
      simp only [Option.some.injEq, Prod.mk.injEq, true_and] at h
      exact ⟨row, hrow, hin, h.symm⟩
    · simp at h

/-- A requeue changes the job and adds its routing, or does nothing. -/
lemma flow_requeue (id : JobId) (errorDetail : String) (rest : List (JobId × ℕ)) :
    (∃ row, w.jobs.get? id = some row ∧ row.requeueable ∧ (w.requeue id errorDetail rest).flow =
        w.flow.requeued id w.now errorDetail row.targetClientId) ∨
      ((∀ row, w.jobs.get? id = some row → row.requeueable = false) ∧
        (w.requeue id errorDetail rest).flow = w.flow) := by
  unfold ServerWorld.requeue
  split
  · rename_i jobs hjobs
    obtain ⟨row, hrow, hreq, rfl⟩ := requeueJob_eq hjobs
    have htarget : ((w.jobs.update id (fun _ => true) (JobRow.requeued w.now errorDetail)).get?
        id).bind JobRow.targetClientId = row.targetClientId := by
      rw [Table.get?_update_self, hrow]
      rfl
    rw [htarget]
    exact Or.inl ⟨row, hrow, hreq, rfl⟩
  · rename_i hno
    refine Or.inr ⟨fun row hrow => ?_, flow_goOn _⟩
    by_contra hreq
    have heq : w.jobs.requeueJob w.now id errorDetail =
        some (true, w.jobs.update id (fun _ => true) (JobRow.requeued w.now errorDetail)) := by
      simp only [JobTable.requeueJob, hrow]
      exact if_pos (Bool.of_not_eq_false hreq)
    exact hno _ heq

/-- A requeue whose job is not read back changes the job, and routes it to no client. -/
lemma flow_requeueUnread {id : JobId} {errorDetail : String} {rest : List (JobId × ℕ)}
    (h : w.requeueUnread id errorDetail rest = some w') :
    ∃ row, w.jobs.get? id = some row ∧ row.requeueable ∧
      w'.flow = w.flow.requeued id w.now errorDetail none := by
  unfold ServerWorld.requeueUnread at h
  split at h
  · rename_i jobs hjobs
    obtain ⟨row, hrow, hreq, rfl⟩ := requeueJob_eq hjobs
    obtain rfl := Option.some.inj h
    exact ⟨row, hrow, hreq, rfl⟩
  · cases h

lemma move_status (update : JobStatusUpdate) :
    Flow.Move cfg w.flow (.status update) (w.applyStatusUpdate update).flow := by
  unfold ServerWorld.applyStatusUpdate
  generalize hstate : statusUpdateState (protoStateToCore update.state) update.stage = state
  simp only
  split
  · rename_i jobs hjobs
    obtain ⟨row, hrow, hin, rfl⟩ := updateUnlessTerminal_eq hjobs
    split
    · rename_i hq
      obtain ⟨rfl, hnot⟩ := hq
      have hqueued : row.isQueued = false := by
        simpa [Table.updates, hrow] using hnot
      exact .reopened update row w.now hrow hin hqueued hstate
    · rename_i hq
      refine .wrote _ _ (wrote_update _ _ fun row' hrow' _ => ?_) fun id hid hends =>
        hid.update fun heq row' _ _ => inProgress_withState _ _ fun hmem => hends ⟨heq.symm, ?_⟩
      rotate_left
      · rw [hstate]
        exact hmem
      obtain rfl : row = row' := Option.some.inj (hrow.symm.trans hrow')
      by_cases hstate' : state = .queued
      · -- A queued job is written as queued again.
        have hqueued : row.isQueued := by
          by_contra hnot
          exact hq ⟨hstate', by simpa [Table.updates, hrow] using hnot⟩
        have hmay : ¬ row.maybePrinted = true := by
          simp [JobRow.maybePrinted, JobRow.isIn, isQueued_iff.mp hqueued]
        exact ⟨rfl, rfl, fun _ => hqueued, fun hf => absurd hin (finished_iff.mp hf),
          fun hm => absurd hm hmay⟩
      · exact rowWrite_withState _ hstate' (Or.inl hin)
  · exact .quiet _

lemma move_complete (cfg : JobsConfig) (completion : JobCompletion) :
    Flow.Move cfg w.flow (.complete completion) (w.completeJob completion).flow := by
  have hfinish : ∀ state, state = .completed ∨ state = .unconfirmed →
      (completion.success = true ∨ completion.unconfirmed = true) →
        Flow.Move cfg w.flow (.complete completion) (w.finish completion.jobId state).flow := by
    intro state hstate hends
    unfold ServerWorld.finish JobTable.updateJobState
    split_ifs with hrow
    · refine .wrote _ _ (wrote_update _ _ fun row _ _ => ?_) fun id hid hnot =>
        hid.update fun heq _ _ _ => absurd ⟨heq.symm, hends⟩ hnot
      exact rowWrite_withState _ (by rcases hstate with rfl | rfl <;> simp) (Or.inr hstate)
    · exact .quiet _
  unfold ServerWorld.completeJob
  split
  · rename_i hsuccess
    exact hfinish _ (Or.inl rfl) (Or.inl hsuccess)
  rename_i hsuccess
  split
  · rename_i hunconfirmed
    exact hfinish _ (Or.inr rfl) (Or.inr hunconfirmed)
  rename_i hunconfirmed
  split
  · rename_i jobs hjobs
    obtain ⟨row, hrow, hin, rfl⟩ := updateUnlessTerminal_eq hjobs
    exact .leftFailed completion row w.now (eq_false_of_ne_true hsuccess)
      (eq_false_of_ne_true hunconfirmed) hrow hin
  · rw [flow_addTask _ rfl rfl]
    exact .quiet _
  · exact .quiet _

section Tasks

variable {place : ℕ} {task : Task}

lemma flow_erase (h : w.tasks[place]? = some task) (hr : task.routing = none)
    (hretry : task.isRetry = false) :
    ({ w with tasks := w.tasks.eraseIdx place }).flow = w.flow := by
  have hroutes := routesOf_perm (perm_eraseIdx h)
  have hretries := retriesOf_perm (perm_eraseIdx h)
  simp only [routesOf, List.filterMap_cons_none hr] at hroutes
  simp only [retriesOf, List.filter_cons, hretry, Bool.false_eq_true, if_false] at hretries
  simp only [ServerWorld.flow, hroutes, hretries, routesOf, retriesOf]

/-- A task of a retry that runs. -/
lemma flow_erase_retry (h : w.tasks[place]? = some task) (hretry : task.isRetry = true) :
    ∃ retries, w.flow.retries = task ::ₘ retries ∧
      ({ w with tasks := w.tasks.eraseIdx place }).flow = w.flow.withRetries retries := by
  have hr : task.routing = none := by
    cases task <;> simp [Task.isRetry, Task.routing] at hretry ⊢
  have hroutes := routesOf_perm (perm_eraseIdx h)
  have hretries := retriesOf_perm (perm_eraseIdx h)
  simp only [routesOf, List.filterMap_cons_none hr] at hroutes
  simp only [retriesOf, List.filter_cons, hretry, if_true] at hretries
  refine ⟨retriesOf (w.tasks.eraseIdx place), hretries, ?_⟩
  simp only [ServerWorld.flow, Flow.withRetries, hroutes, routesOf]

lemma flow_erase_route {id : JobId} {target : Option String} {rest : List (JobId × ℕ)}
    (h : w.tasks[place]? = some (.route id target rest)) :
    ∃ routes, w.flow.routes = (id, target) ::ₘ routes ∧
      ({ w with tasks := w.tasks.eraseIdx place }).flow = w.flow.withRoutes routes := by
  have hroutes := routesOf_perm (perm_eraseIdx h)
  have hretries := retriesOf_perm (perm_eraseIdx h)
  simp only [retriesOf, List.filter_cons, Task.isRetry, Bool.false_eq_true, if_false] at hretries
  refine ⟨routesOf (w.tasks.eraseIdx place), hroutes, ?_⟩
  simp only [ServerWorld.flow, Flow.withRoutes, hretries, retriesOf]

lemma move_marked {id : JobId} {errorDetail : String}
    (h : w.tasks[place]? = some (.marked id errorDetail)) :
    Flow.Move cfg w.flow (.task place)
      ({ w with tasks := w.tasks.eraseIdx place }.scheduleRetry cfg id errorDetail).flow := by
  obtain ⟨retries, hretries, hflow⟩ := flow_erase_retry h rfl
  generalize hv : ({ w with tasks := w.tasks.eraseIdx place } : ServerWorld) = v
  have hjobs : v.jobs = w.flow.jobs := by rw [← hv]; rfl
  rw [hv] at hflow
  unfold ServerWorld.scheduleRetry
  split
  · rename_i row hrow
    rw [hjobs] at hrow
    split
    · rename_i hlt
      have hadd : (v.addTask (.delayed id row.retryCount errorDetail)).flow =
          v.flow.withRetries (.delayed id row.retryCount errorDetail ::ₘ v.flow.retries) := rfl
      rw [hadd, hflow]
      exact .retry place _ (.scheduled id errorDetail row retries hretries hrow hlt)
    · rename_i hge
      rw [hflow]
      refine .retry place _ (.givenUp id errorDetail retries hretries fun row' hrow' => ?_)
      obtain rfl : row = row' := Option.some.inj (hrow.symm.trans hrow')
      exact not_lt.mp hge
  · rename_i hnone
    rw [hflow]
    refine .retry place _ (.givenUp id errorDetail retries hretries fun row hrow => ?_)
    rw [hjobs] at hnone
    simp [hnone] at hrow

lemma move_delayed {id : JobId} {attempt : ℕ} {errorDetail : String}
    (h : w.tasks[place]? = some (.delayed id attempt errorDetail)) :
    Flow.Move cfg w.flow (.task place)
      ({ w with tasks := w.tasks.eraseIdx place }.requeue id errorDetail []).flow := by
  obtain ⟨retries, hretries, hflow⟩ := flow_erase_retry h rfl
  rcases flow_requeue (w := { w with tasks := w.tasks.eraseIdx place }) id errorDetail [] with
    ⟨row, hrow, hreq, heq⟩ | ⟨hno, heq⟩
  · rw [heq, hflow]
    exact .requeued _ id row _ w.now errorDetail retries hrow hreq (Or.inr ⟨attempt, hretries⟩)
      (.readBack place row hrow)
  · rw [heq, hflow]
    exact .retry place _ (.lapsed id attempt errorDetail retries hretries hno)

lemma move_reap {rest : List (JobId × ℕ)} (h : w.tasks[place]? = some (.reap rest)) :
    Flow.Move cfg w.flow (.task place)
      ({ w with tasks := w.tasks.eraseIdx place }.reapNext cfg rest).flow := by
  have hflow := flow_erase h rfl rfl
  rcases rest with _ | ⟨⟨id, retryCount⟩, rest⟩
  · rw [ServerWorld.reapNext, hflow]
    exact .quiet _
  · simp only [ServerWorld.reapNext]
    split
    · rcases flow_requeue (w := { w with tasks := w.tasks.eraseIdx place }) id
        "stale: stuck in progress" rest with ⟨row, hrow, hreq, heq⟩ | ⟨hno, heq⟩
      · rw [heq, hflow]
        exact .requeued _ id row _ w.now _ w.flow.retries hrow hreq (Or.inl rfl)
          (.readBack place row hrow)
      · rw [heq, hflow]
        exact .quiet _
    · rw [flow_goOn, hflow]
      exact .quiet _

lemma move_route {id : JobId} {target : Option String} {rest : List (JobId × ℕ)}
    (h : w.tasks[place]? = some (.route id target rest)) :
    Flow.Move cfg w.flow (.task place)
      (({ w with tasks := w.tasks.eraseIdx place }.route id target).goOn rest).flow := by
  obtain ⟨routes, hroutes, hflow⟩ := flow_erase_route h
  have hmove : Flow.Move cfg w.flow (.task place)
      ((w.flow.withRoutes routes).routed id target) := .routed place id target routes hroutes
  rw [← hflow] at hmove
  rw [flow_goOn]
  cases target with
  | none => exact hmove
  | some client =>
    rw [ServerWorld.route, flow_deliverTo]
    exact hmove

lemma move_unmarked {id : JobId} (h : w.tasks[place]? = some (.unmarked id)) :
    Flow.Move cfg w.flow (.task place)
      ({ w with tasks := w.tasks.eraseIdx place }.runTask cfg (.unmarked id)).flow := by
  rw [← flow_erase h rfl rfl]
  refine .wrote _ _ (wrote_update _ _ fun row _ _ =>
    rowWrite_withState _ (by simp) (Or.inr (Or.inr rfl))) fun id' hid' _ =>
    hid'.update fun _ row hin hcompleted => ?_
  have hmay : row.maybePrinted := by
    simp only [JobRow.isIn, List.any_cons, List.any_nil, Bool.or_false] at hcompleted
    simp [JobRow.maybePrinted, JobRow.isIn, hcompleted]
  exact absurd hin (finished_iff.mp (finished_of_maybePrinted hmay))

lemma move_task (h : w.tasks[place]? = some task) :
    Flow.Move cfg w.flow (.task place)
      ({ w with tasks := w.tasks.eraseIdx place }.runTask cfg task).flow := by
  cases task with
  | checkPairing machineId =>
    rw [← flow_erase h rfl rfl]
    simp only [ServerWorld.runTask, ServerWorld.checkPairing]
    split
    · exact .quiet _
    · rw [flow_addTask _ rfl rfl]
      exact .quiet _
  | register machineId =>
    rw [← flow_erase h rfl rfl, ServerWorld.runTask, flow_registerClient]
    exact .opened place machineId
  | route id target rest => exact move_route h
  | notifyDefault =>
    rw [← flow_erase h rfl rfl]
    exact .quiet _
  | notifyPairing =>
    rw [← flow_erase h rfl rfl]
    exact .quiet _
  | marked id errorDetail => exact move_marked h
  | unmarked id => exact move_unmarked h
  | delayed id attempt errorDetail => exact move_delayed h
  | reap rest => exact move_reap h

lemma move_failTask (h : w.tasks[place]? = some task)
    (hfail : ({ w with tasks := w.tasks.eraseIdx place } : ServerWorld).failTask cfg task =
      some w') : Flow.Move cfg w.flow (.taskFails place) w'.flow := by
  cases task with
  | checkPairing machineId =>
    obtain rfl := Option.some.inj hfail
    rw [flow_addTask _ rfl rfl, flow_erase h rfl rfl]
    exact .quiet _
  | marked id errorDetail =>
    obtain rfl := Option.some.inj hfail
    obtain ⟨retries, hretries, hflow⟩ := flow_erase_retry h rfl
    exact hflow ▸ .retryFailed place _ retries hretries
  | unmarked id =>
    obtain rfl := Option.some.inj hfail
    rw [flow_erase h rfl rfl]
    exact .quiet _
  | delayed id attempt errorDetail =>
    obtain rfl := Option.some.inj hfail
    obtain ⟨retries, hretries, hflow⟩ := flow_erase_retry h rfl
    exact hflow ▸ .retryFailed place _ retries hretries
  | reap rest =>
    rcases rest with _ | ⟨⟨id, retryCount⟩, rest⟩
    · cases hfail
    · simp only [ServerWorld.failTask] at hfail
      split at hfail
      · obtain rfl := Option.some.inj hfail
        rw [flow_goOn, flow_erase h rfl rfl]
        exact .quiet _
      · cases hfail
  | register _ | route _ _ _ | notifyDefault | notifyPairing => cases hfail

lemma move_failReadBack (h : w.tasks[place]? = some task)
    (hfail : ({ w with tasks := w.tasks.eraseIdx place } : ServerWorld).failReadBack cfg task =
      some w') : Flow.Move cfg w.flow (.requeueUnread place) w'.flow := by
  cases task with
  | delayed id attempt errorDetail =>
    obtain ⟨retries, hretries, hflow⟩ := flow_erase_retry h rfl
    obtain ⟨row, hrow, hreq, heq⟩ := flow_requeueUnread hfail
    rw [heq, hflow]
    exact .requeued _ id row none w.now errorDetail retries hrow hreq
      (Or.inr ⟨attempt, hretries⟩) (.unread place)
  | reap rest =>
    rcases rest with _ | ⟨⟨id, retryCount⟩, rest⟩
    · cases hfail
    · simp only [ServerWorld.failReadBack] at hfail
      split at hfail
      · obtain ⟨row, hrow, hreq, heq⟩ := flow_requeueUnread hfail
        rw [heq, flow_erase h rfl rfl]
        exact .requeued _ id row none w.now _ w.flow.retries hrow hreq (Or.inl rfl) (.unread place)
      · cases hfail
  | checkPairing _ | register _ | route _ _ _ | notifyDefault | notifyPairing | marked _ _
  | unmarked _ => cases hfail

end Tasks

/-! ### Failing storage calls

They leave all but the tasks, the jobs of a requeue and the phase of a loop as it is. -/

lemma failTask_eq (h : w.failTask cfg task = some w') :
    w' = { w with tasks := w'.tasks } := by
  have hgoOn : ∀ rest, w.goOn rest = { w with tasks := (w.goOn rest).tasks } := by
    intro rest
    unfold ServerWorld.goOn
    split <;> rfl
  unfold ServerWorld.failTask at h
  split at h
  · obtain rfl := Option.some.inj h
    rfl
  · exact Option.some.inj h ▸ rfl
  · exact Option.some.inj h ▸ rfl
  · exact Option.some.inj h ▸ rfl
  · split at h
    · obtain rfl := Option.some.inj h
      exact hgoOn _
    · cases h
  · cases h

lemma requeueUnread_eq {id : JobId} {errorDetail : String} {rest : List (JobId × ℕ)}
    (h : w.requeueUnread id errorDetail rest = some w') :
    w' = { w with jobs := w'.jobs, tasks := w'.tasks, trace := w'.trace } := by
  unfold ServerWorld.requeueUnread at h
  split at h
  · obtain rfl := Option.some.inj h
    rfl
  · cases h

lemma failReadBack_eq (h : w.failReadBack cfg task = some w') :
    w' = { w with jobs := w'.jobs, tasks := w'.tasks, trace := w'.trace } := by
  unfold ServerWorld.failReadBack at h
  split at h
  · exact requeueUnread_eq h
  · split at h
    · exact requeueUnread_eq h
    · cases h
  · cases h

lemma failLoop_eq (h : w.failLoop c k = some w') :
    (k.phase = .peerRecorded ∧ w' = w.setPhase c k .setOnline) ∨
      (k.phase = .counted ∧ w' = w.setPhase c k .gate) ∨
        (k.phase = .gate ∧ w' = w.setPhase c k .unapproved) ∨
          (∃ id, k.phase = .holding id ∧ w' = w.setPhase c k .gate) ∨
            (k.phase = .unregistered ∧ w' = w.setPhase c k .closed) := by
  unfold ServerWorld.failLoop at h
  split at h
  case h_1 hp => exact Or.inl ⟨hp, (Option.some.inj h).symm⟩
  case h_2 hp => exact Or.inr (Or.inl ⟨hp, (Option.some.inj h).symm⟩)
  case h_3 hp => exact Or.inr (Or.inr (Or.inl ⟨hp, (Option.some.inj h).symm⟩))
  case h_4 id hp => exact Or.inr (Or.inr (Or.inr (Or.inl ⟨id, hp, (Option.some.inj h).symm⟩)))
  case h_5 hp => exact Or.inr (Or.inr (Or.inr (Or.inr ⟨hp, (Option.some.inj h).symm⟩)))
  case h_6 => cases h

lemma move_takeRouted (hk : w.conns c = some k) (hstage : k.phase.stage = .running none)
    (h : w.takeRouted c k = some w') : Flow.Move cfg w.flow (.loop c) w'.flow := by
  unfold ServerWorld.takeRouted at h
  split at h
  · rename_i id rest hid
    obtain rfl := Option.some.inj h
    rw [flow_setConn]
    exact .taken c k.line (lines_of_conns hk) hstage id rest hid
  · cases h

lemma move_loop (hk : w.conns c = some k) (h : w.runLoop c k = some w') :
    Flow.Move cfg w.flow (.loop c) w'.flow := by
  have hline := lines_of_conns hk
  have hquiet : ∀ (v : ServerWorld) (phase : Phase), v.conns = w.conns → v.flow = w.flow →
      phase.stage = k.phase.stage → Flow.Move cfg w.flow (.loop c) (v.setPhase c k phase).flow := by
    intro v phase hconns hflow hstage
    rw [flow_setPhase_of_stage (hconns ▸ hk) hstage, hflow]
    exact .quiet _
  cases hp : k.phase <;> simp only [ServerWorld.runLoop, hp, Option.some.injEq, reduceCtorEq] at h
  case registered => exact h ▸ hquiet _ _ rfl rfl (by simp [hp, Phase.stage])
  case peerRecorded => exact h ▸ hquiet _ _ rfl rfl (by simp [hp, Phase.stage])
  case setOnline => exact h ▸ hquiet _ _ rfl rfl (by simp [hp, Phase.stage])
  case counted =>
    subst h
    rw [flow_setPhase]
    exact .selected c k.line hline (by simp [Connection.line, hp, Phase.stage])
  case draining ids =>
    subst h
    rw [flow_deliverTo, flow_setPhase]
    exact .drained c k.line hline ids (by simp [Connection.line, hp, Phase.stage])
  case gate =>
    refine h ▸ hquiet _ _ rfl rfl ?_
    rw [hp]
    unfold ServerWorld.gate
    split
    · split <;> rfl
    · rfl
  case unapproved => exact h ▸ hquiet _ _ rfl rfl (by simp [hp, Phase.stage])
  case approved => exact h ▸ hquiet _ _ rfl rfl (by simp [hp, Phase.stage])
  case waitPairing seen =>
    split at h
    · obtain rfl := Option.some.inj h
      exact hquiet _ _ rfl rfl (by simp [hp, Phase.stage])
    · cases h
  case polling takesDefaultQueue seen =>
    subst h
    cases ht : w.takeRouted c k with
    | none => exact hquiet _ _ rfl rfl (by simp [hp, Phase.stage])
    | some w₁ => exact move_takeRouted hk (by simp [hp, Phase.stage]) ht
  case tryDefault takesDefaultQueue seen =>
    subst h
    unfold ServerWorld.takeDefault
    split
    · rename_i id rest hid
      rw [flow_setPhase]
      exact .popped c k.line hline (by simp [Connection.line, hp, Phase.stage]) id rest hid
    · exact hquiet _ _ rfl rfl (by simp [hp, Phase.stage])
  case waiting => exact move_takeRouted hk (by simp [hp, Phase.stage]) h
  case holding id =>
    subst h
    have hstage : k.line.stage = .running (some id) := by
      simp [Connection.line, hp, Phase.stage]
    unfold ServerWorld.lookUp
    split
    · rename_i row hrow
      split
      · exact hquiet _ _ rfl rfl (by simp [hp, Phase.stage])
      · rename_i hnot
        rw [flow_setPhase]
        refine .dropped c k.line hline id hstage fun row' hrow' => ?_
        obtain rfl : row = row' := Option.some.inj (hrow.symm.trans hrow')
        simpa [read_eq_queued_iff] using hnot
    · rename_i hnone
      rw [flow_setPhase]
      exact .dropped c k.line hline id hstage fun row hrow => by
        simp [ServerWorld.flow, hnone] at hrow
  case sending id retryCount =>
    subst h
    have hstage : k.line.stage = .running (some id) := by
      simp [Connection.line, hp, Phase.stage]
    unfold ServerWorld.sendJob
    split
    · rename_i hc
      have hflow : ((w.setPhase c k .gate).remember (.sent c id (w.stateOf id))).flow =
          (w.setPhase c k .gate).flow.remember (.sent c id (w.stateOf id)) := rfl
      rw [hflow, flow_setPhase]
      exact .sent c k.line hline id hstage hc
    · rename_i hc
      rw [flow_setPhase]
      exact .failed c k.line hline id hstage (eq_false_of_ne_true hc)
  case leaving => exact h ▸ hquiet _ _ rfl rfl (by simp [hp, Phase.stage])
  case uncounted =>
    subst h
    unfold ServerWorld.forgetPeer
    split
    · exact hquiet _ _ rfl rfl (by simp [hp, Phase.stage])
    · exact hquiet _ _ rfl rfl (by simp [hp, Phase.stage])
  case peerForgotten =>
    subst h
    split
    · exact hquiet _ _ rfl rfl (by simp [hp, Phase.stage])
    · rw [flow_setPhase]
      exact .closed _ c k.line hline (by simp [Connection.line, hp, Phase.stage]) (Or.inl rfl)
  case active =>
    subst h
    unfold ServerWorld.unregisterClient
    split
    · rename_i hc
      have hmove : Flow.Move cfg w.flow (.loop c) (w.flow.unregistered k.machineId) :=
        .unregistered c k.line hline (by simp [Connection.line, hp, Phase.stage]) hc
      let v := { w with registry := Function.update w.registry k.machineId none }
      have hkept : (v.setPhase c k .unregistered).flow = v.flow :=
        flow_setPhase_of_stage (w := v) hk (by rw [hp]; rfl)
      exact hkept ▸ hmove
    · exact hquiet _ _ rfl rfl (by simp [hp, Phase.stage])
  case unregistered =>
    subst h
    rw [flow_setPhase]
    exact .closed _ c k.line hline (by simp [Connection.line, hp, Phase.stage]) (Or.inl rfl)

lemma move_failLoop (hk : w.conns c = some k) (h : w.failLoop c k = some w') :
    Flow.Move cfg w.flow (.loopFails c) w'.flow := by
  have hline := lines_of_conns hk
  rcases failLoop_eq h with ⟨hp, rfl⟩ | ⟨hp, rfl⟩ | ⟨hp, rfl⟩ | ⟨id, hp, rfl⟩ | ⟨hp, rfl⟩
  · rw [flow_setPhase_of_stage hk (by simp [hp, Phase.stage])]
    exact .quiet _
  · rw [flow_setPhase]
    exact .undrained c k.line hline (by simp [Connection.line, hp, Phase.stage])
  · rw [flow_setPhase_of_stage hk (by simp [hp, Phase.stage])]
    exact .quiet _
  · rw [flow_setPhase]
    exact .unseen c k.line hline id (by simp [Connection.line, hp, Phase.stage])
  · rw [flow_setPhase]
    exact .closed _ c k.line hline (by simp [Connection.line, hp, Phase.stage]) (Or.inr rfl)

/-- The server refines the flow: every step of it is a move. -/
theorem move_of_step {e : ServerStep} (h : w.step cfg e = some w') :
    Flow.Move cfg w.flow e w'.flow := by
  cases e <;> simp only [ServerWorld.step, Option.some.injEq, Option.map_eq_some_iff,
    Option.bind_eq_some_iff] at h
  case clock => exact h ▸ .quiet _
  case setPrinters => exact h ▸ .quiet _
  case setPairing =>
    obtain ⟨row, -, rfl⟩ := h
    rw [flow_addTask _ rfl rfl]
    exact .quiet _
  case push job => exact h ▸ .pushed (.push job) (w.newRow job) rfl rfl trivial
  case subscribe =>
    subst h
    rw [flow_addTask _ rfl rfl]
    exact .quiet _
  case ping => exact h ▸ .quiet _
  case task place =>
    obtain ⟨task, htask, rfl⟩ := h
    exact move_task htask
  case loop c =>
    obtain ⟨k, hk, hrun⟩ := h
    exact move_loop hk hrun
  case notified c =>
    obtain ⟨k, hk, hwake⟩ := h
    unfold ServerWorld.wakeUp at hwake
    split at hwake
    · rename_i seen hp
      split at hwake
      · obtain rfl := Option.some.inj hwake
        rw [flow_setPhase_of_stage hk (by simp [hp, Phase.stage])]
        exact .quiet _
      · cases hwake
    · cases hwake
  case disconnect c =>
    obtain ⟨k, hk, rfl⟩ := h
    rw [flow_setConn]
    exact .disconnected c k.line (lines_of_conns hk)
  case status update => exact h ▸ move_status update
  case complete completion => exact h ▸ move_complete cfg completion
  case reap =>
    subst h
    rw [flow_goOn]
    exact .quiet _
  case clearJobs =>
    subst h
    have hnone : ∀ id row, (Table.empty : JobTable).get? id ≠ some row := by simp
    exact .wrote _ _ (fun id row hrow => absurd hrow (hnone id row))
      fun id _ _ row hrow => absurd hrow (hnone id row)
  case restart => exact h ▸ .restarted
  case pushUnresolved job =>
    exact h ▸ .pushed (.pushUnresolved job)
      { w.newRow job with targetClientId := job.targetClientId } rfl rfl trivial
  case subscribeUnwritten =>
    subst h
    rw [flow_addTask _ rfl rfl]
    exact .quiet _
  case taskFails place =>
    obtain ⟨task, htask, hfail⟩ := h
    exact move_failTask htask hfail
  case requeueUnread place =>
    obtain ⟨task, htask, hfail⟩ := h
    exact move_failReadBack htask hfail
  case loopFails c =>
    obtain ⟨k, hk, hfail⟩ := h
    exact move_failLoop hk hfail

end Moves

end Server

end DevBridge

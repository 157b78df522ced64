import DevBridge.Server.Moves

/-!
# Finished jobs stay finished

A write either leaves a finished job alone or says that the printer may have printed it, and a
requeue changes only a job that is failed or with a client.  So no run takes a finished job
back into the queue, and none of its requeues is routed.
-/

namespace DevBridge

namespace Server

open Transition (free)

variable {cfg : JobsConfig} {d : StoredData} {w w' : ServerWorld} {f f' : Flow}
  {e : ServerStep} {id : JobId}

/-! ### The rows -/

lemma finished_not_requeueable {row : JobRow} (h : row.finished) : row.requeueable = false := by
  rw [finished_iff] at h
  simp only [JobRow.inProgress, JobRow.requeueable, JobRow.isIn, List.any_cons, List.any_nil,
    Bool.or_false, Bool.or_eq_true, not_or, Bool.not_eq_true] at h ⊢
  simp [h]

/-- The jobs of the table have ids that new jobs do not get. -/
def Flow.Known (f : Flow) : Prop := ∀ id row, f.jobs.get? id = some row → id < f.nextJob

/-- A kind of finished rows that every write keeps. -/
structure Lasting (p : JobRow → Bool) : Prop where
  finished : ∀ row, p row → row.finished
  kept : ∀ row row', RowWrite row row' → p row → p row'

lemma lasting_finished : Lasting JobRow.finished :=
  ⟨fun _ h => h, fun _ _ hw h => hw.finished h⟩

lemma lasting_maybePrinted : Lasting JobRow.maybePrinted :=
  ⟨fun _ h => finished_of_maybePrinted h, fun _ _ hw h => hw.printed h⟩

/-- The job existed, and its row is of this kind unless it was deleted. -/
structure Flow.Stays (p : JobRow → Bool) (f : Flow) (id : JobId) : Prop where
  known : id < f.nextJob
  row : ∀ row, f.jobs.get? id = some row → p row

/-- How many routings of the job are under way. -/
def Flow.routings (f : Flow) (id : JobId) : ℕ := (f.routes.map Prod.fst).count id

/-- The row of a job after a write to it. -/
lemma get?_written {jobs : JobTable} {id : JobId} {row row' : JobRow} {write : JobRow → JobRow}
    (hrow : jobs.get? id = some row)
    (hrow' : (jobs.update id (fun _ => true) write).get? id = some row') : row' = write row := by
  rw [Table.get?_update_self, hrow] at hrow'
  exact (Option.some.inj hrow').symm

lemma known_of_update {jobs : JobTable} {next : JobId} {p : JobRow → Bool}
    {write : JobRow → JobRow} (h : ∀ id row, jobs.get? id = some row → id < next) :
    ∀ id' row', (jobs.update id p write).get? id' = some row' → id' < next := by
  intro id' row' hrow'
  rw [Table.get?_update, Option.map_eq_some_iff] at hrow'
  obtain ⟨row, hrow, -⟩ := hrow'
  exact h id' row hrow

/-! ### One move -/

lemma Flow.Known.move (hk : f.Known) (h : Flow.Move cfg f e f') : f'.Known := by
  cases h
  case pushed row _ _ _ =>
    intro id row' hrow'
    rw [Flow.pushed_jobs, JobTable.insertJob, Table.get?_insert] at hrow'
    rw [Flow.pushed_nextJob]
    split at hrow'
    · rename_i hid
      rw [hid.1]
      exact Nat.lt_succ_self _
    · exact (hk id row' hrow').trans (Nat.lt_succ_self _)
  case requeued => exact known_of_update hk
  case reopened => exact known_of_update hk
  case leftFailed => exact known_of_update hk
  case wrote jobs hwrote _ =>
    intro id row' hrow'
    obtain ⟨row, hrow, -⟩ := hwrote id row' hrow'
    exact hk id row hrow
  case routed => simpa [Flow.Known] using hk
  case drained => simpa [Flow.Known] using hk
  all_goals exact hk

variable {p : JobRow → Bool}

lemma Flow.Stays.not_inProgress (hp : Lasting p) (hs : f.Stays p id) {row : JobRow}
    (hrow : f.jobs.get? id = some row) : row.inProgress = false := by
  have hfin := finished_iff.mp (hp.finished row (hs.row row hrow))
  exact Bool.eq_false_of_not_eq_true hfin

lemma Flow.Stays.not_requeueable (hp : Lasting p) (hs : f.Stays p id) {row : JobRow}
    (hrow : f.jobs.get? id = some row) : row.requeueable = false :=
  finished_not_requeueable (hp.finished row (hs.row row hrow))

/-- A move leaves a finished job finished. -/
lemma Flow.Stays.move (hp : Lasting p) (hs : f.Stays p id) (h : Flow.Move cfg f e f') :
    f'.Stays p id := by
  have hother : ∀ {id' : JobId} {write : JobRow → JobRow}, id' ≠ id →
      ∀ row', (f.jobs.update id' (fun _ => true) write).get? id = some row' → p row' := by
    intro id' write hne row' hrow'
    rw [Table.get?_update_of_ne _ _ _ hne.symm] at hrow'
    exact hs.row row' hrow'
  cases h
  case pushed row _ _ _ =>
    refine ⟨hs.known.trans (Nat.lt_succ_self _), fun row' hrow' => ?_⟩
    rw [Flow.pushed_jobs, JobTable.insertJob, Table.get?_insert_of_ne _ _ hs.known.ne] at hrow'
    exact hs.row row' hrow'
  case requeued id' row target now detail retries hrow hreq _ _ =>
    refine ⟨hs.known, hother ?_⟩
    rintro rfl
    exact absurd hreq (by simp [hs.not_requeueable hp hrow])
  case reopened update row now hrow hin hnot _ =>
    refine ⟨hs.known, hother ?_⟩
    rintro rfl
    exact absurd hin (by simp [hs.not_inProgress hp hrow])
  case leftFailed completion row now _ _ hrow hin =>
    refine ⟨hs.known, hother ?_⟩
    rintro rfl
    exact absurd hin (by simp [hs.not_inProgress hp hrow])
  case wrote jobs hwrote _ =>
    refine ⟨hs.known, fun row' hrow' => ?_⟩
    obtain ⟨row, hrow, hw⟩ := hwrote id row' hrow'
    exact hp.kept row row' hw (hs.row row hrow)
  case routed => exact ⟨by simpa using hs.known, by simpa using hs.row⟩
  case drained => exact ⟨by simpa using hs.known, by simpa using hs.row⟩
  all_goals exact ⟨hs.known, hs.row⟩

/-- Nothing queues the job between two states of a run. -/
structure Flow.Unqueued (id : JobId) (f f' : Flow) : Prop where
  trace : ∃ t : List ServerEvent, f'.trace = t ++ f.trace ∧ ∀ b, .queued id b ∉ t
  routings : f'.routings id ≤ f.routings id

lemma Flow.Unqueued.refl (f : Flow) : Flow.Unqueued id f f :=
  ⟨⟨[], rfl, fun _ h => nomatch h⟩, le_rfl⟩

lemma Flow.Unqueued.trans {f'' : Flow} (h : Flow.Unqueued id f f')
    (h' : Flow.Unqueued id f' f'') : Flow.Unqueued id f f'' := by
  obtain ⟨t, ht, hnot⟩ := h.trace
  obtain ⟨t', ht', hnot'⟩ := h'.trace
  refine ⟨⟨t' ++ t, by rw [ht', ht, List.append_assoc], fun b hb => ?_⟩,
    h'.routings.trans h.routings⟩
  rcases List.mem_append.mp hb with hb | hb
  · exact hnot' b hb
  · exact hnot b hb

/-- What is remembered of a move that queues another job or none. -/
lemma unqueued_of_event {event : ServerEvent} (htrace : f'.trace = event :: f.trace)
    (hevent : ∀ b, event ≠ .queued id b) (hroutings : f'.routings id ≤ f.routings id) :
    Flow.Unqueued id f f' := by
  refine ⟨⟨[event], htrace, fun b hb => ?_⟩, hroutings⟩
  exact hevent b (List.mem_singleton.mp hb).symm

lemma routings_cons_of_ne {id' : JobId} {target : Option String}
    {routes : Multiset (JobId × Option String)} (h : id' ≠ id) :
    (((id', target) ::ₘ routes).map Prod.fst).count id = (routes.map Prod.fst).count id := by
  rw [Multiset.map_cons, Multiset.count_cons_of_ne h.symm]

/-- No move queues or routes a finished job. -/
lemma Flow.Stays.unqueued (hp : Lasting p) (hs : f.Stays p id) (h : Flow.Move cfg f e f') :
    Flow.Unqueued id f f' := by
  cases h
  case pushed row _ _ _ =>
    have hne : f.nextJob ≠ id := hs.known.ne'
    exact unqueued_of_event rfl (by simp [hne]) (routings_cons_of_ne hne).le
  case requeued id' row target now detail retries hrow hreq _ _ =>
    have hne : id' ≠ id := by
      rintro rfl
      exact absurd hreq (by simp [hs.not_requeueable hp hrow])
    exact unqueued_of_event rfl (by simp [hne]) (routings_cons_of_ne hne).le
  case reopened update row now hrow hin hnot _ =>
    have hne : update.jobId ≠ id := by
      rintro rfl
      exact absurd hin (by simp [hs.not_inProgress hp hrow])
    exact unqueued_of_event rfl (by simp [hne]) le_rfl
  case sent => exact unqueued_of_event rfl (by simp) le_rfl
  case leftFailed => exact unqueued_of_event rfl (by simp) le_rfl
  case routed place id' target routes hroutes =>
    refine ⟨⟨[], by simp, fun _ h => nomatch h⟩, ?_⟩
    simp only [Flow.routings, Flow.routed_routes, Flow.withRoutes_routes, hroutes,
      Multiset.map_cons]
    exact Multiset.count_le_count_cons _ _ _
  case drained => exact ⟨⟨[], by simp, fun _ h => nomatch h⟩, by simp [Flow.routings]⟩
  case restarted => exact ⟨⟨[], rfl, fun _ h => nomatch h⟩, by simp [Flow.routings]⟩
  all_goals exact ⟨⟨[], rfl, fun _ h => nomatch h⟩, le_rfl⟩

/-! ### Runs -/

lemma known_of_reach (h : (printServer cfg d).Reach free w) : w.flow.Known :=
  h.invariant (P := fun v => v.flow.Known) d.fresh fun _ _ _ _ hk hstep _ =>
    hk.move (move_of_step hstep)

lemma stays_of_leads (hp : Lasting p) (h : (printServer cfg d).Reach free w)
    (hl : (printServer cfg d).Leads free w w') {row : JobRow}
    (hrow : w.jobs.get? id = some row) (hrow' : p row) :
    w'.flow.Stays p id ∧ Flow.Unqueued id w.flow w'.flow := by
  have hstays : w.flow.Stays p id := by
    refine ⟨known_of_reach h id row hrow, fun row' h' => ?_⟩
    obtain rfl : row = row' := Option.some.inj (hrow.symm.trans h')
    exact hrow'
  refine hl.keeps h (P := fun v => v.flow.Stays p id ∧ Flow.Unqueued id w.flow v.flow)
    ⟨hstays, Flow.Unqueued.refl _⟩ fun _ _ _ _ hk hstep _ => ?_
  have hmove := move_of_step hstep
  exact ⟨hk.1.move hp hmove, hk.2.trans (hk.1.unqueued hp hmove)⟩

/-- Whatever the clients report, whenever the retries, the reaper and the drains run and however
often the server restarts, a job that is completed, cancelled, unconfirmed or in a state that
cannot be read is in no other kind of state later; a completed one can only become unconfirmed;
and no requeue of it succeeds or is routed. -/
theorem finished_stays_finished (h : (printServer cfg d).Reach free w)
    (hl : (printServer cfg d).Leads free w w') {row : JobRow}
    (hrow : w.jobs.get? id = some row) (hfinished : row.finished) :
    (∀ row', w'.jobs.get? id = some row' → row'.finished ∧
        (row.state = .known .completed →
          row'.state = .known .completed ∨ row'.state = .known .unconfirmed)) ∧
      (∃ t : List ServerEvent, w'.trace = t ++ w.trace ∧ ∀ b, .queued id b ∉ t) ∧
      w'.flow.routings id ≤ w.flow.routings id := by
  obtain ⟨hstays, hunqueued⟩ := stays_of_leads lasting_finished h hl hrow hfinished
  refine ⟨fun row' hrow' => ⟨hstays.row row' hrow', fun hcompleted => ?_⟩, hunqueued.trace,
    hunqueued.routings⟩
  have hprinted := stays_of_leads lasting_maybePrinted h hl hrow
    (by simp [JobRow.maybePrinted, JobRow.isIn, hcompleted])
  simpa [JobRow.maybePrinted, JobRow.isIn] using hprinted.1.row row' hrow'

/-- A failure that comes late changes nothing but this: a completed job becomes unconfirmed, at
the second lock of the call. -/
theorem late_failure_unconfirms {completion : JobCompletion} {row : JobRow}
    (hfailure : completion.success = false ∧ completion.unconfirmed = false)
    (hrow : w.jobs.get? completion.jobId = some row) (hfinished : row.finished) :
    w.completeJob completion = w.addTask (.unmarked completion.jobId) ∧
      (w.runTask cfg (.unmarked completion.jobId)).jobs.get? completion.jobId =
        some (if row.state = .known .completed then row.withState w.now .unconfirmed
          else row) := by
  have hin : row.inProgress = false := by simpa [JobRow.finished] using hfinished
  constructor
  · simp [ServerWorld.completeJob, hfailure.1, hfailure.2, JobTable.updateUnlessTerminal, hrow,
      hin]
  · simp [ServerWorld.runTask, ServerWorld.setJobs, JobTable.unconfirmCompleted, hrow,
      JobRow.isIn]

/-- A print request of a printer that is not paired, or of a given printer. -/
def printRequest (targetPrinter : String) : NewJob where
  document :=
    { documentName := "", copies := 1, paperSize := "iso_a4_210x297mm", duplex := false,
      color := false, payloadSize := 1, payloadSha256 := "" }
  targetPrinter := targetPrinter
  targetClientId := none

/-- The end of a job as a client reports it. -/
def completionOf (id : JobId) (success unconfirmed : Bool) : JobCompletion where
  jobId := id
  clientId := "store"
  success := success
  unconfirmed := unconfirmed
  errorDetail := ""

/-- Whether the row of a job is in a state. -/
def ServerWorld.hasState (w : ServerWorld) (id : JobId) (state : JobState) : Bool :=
  w.jobs.updates id (JobRow.isIn · [state])

lemma row_of_hasState {state : JobState} (h : w.hasState id state = true) :
    ∃ row, w.jobs.get? id = some row ∧ row.state = .known state := by
  unfold ServerWorld.hasState Table.updates at h
  rw [Option.any_eq_true] at h
  obtain ⟨row, hrow, hin⟩ := h
  exact ⟨row, hrow, by simpa [JobRow.isIn] using hin⟩

/-- A job is completed; then come a failure, a late `printing` and a pass of the reaper. -/
theorem finished_stays_finished_late : ∃ w w' : ServerWorld,
    (printServer ⟨3, 30⟩ .empty).Reach free w ∧ w.hasState 0 .completed = true ∧
      (printServer ⟨3, 30⟩ .empty).Leads free w w' ∧ w'.hasState 0 .unconfirmed = true ∧
      (∀ row', w'.jobs.get? 0 = some row' → row'.finished) ∧
      w'.flow.routings 0 ≤ w.flow.routings 0 := by
  obtain ⟨w, w', hw, hl, hstates⟩ := (printServer ⟨3, 30⟩ .empty).leads_of_runs
    [.push (printRequest ""), .task 0, .complete (completionOf 0 true false)]
    [.complete (completionOf 0 false false), .status ⟨0, .printing, none⟩, .task 0,
      .clock (10 ^ 12), .reap]
    (fun w w' => w.hasState 0 .completed && w'.hasState 0 .unconfirmed) (by decide +kernel)
  rw [Bool.and_eq_true] at hstates
  obtain ⟨row, hrow, hcompleted⟩ := row_of_hasState hstates.1
  have hstays := finished_stays_finished hw hl hrow
    (by simp [JobRow.finished, JobRow.inProgress, JobRow.isIn, hcompleted])
  exact ⟨w, w', hw, hstates.1, hl, hstates.2, fun row' h' => (hstays.1 row' h').1,
    hstays.2.2⟩

end Server

end DevBridge

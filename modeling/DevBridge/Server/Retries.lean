import DevBridge.Server.Streamed

/-!
# When retries keep their discipline

A delayed requeue holds a job id and sleeps.  It does not know of the reaper, of late status
updates, of other failures reported for the same attempt or of a restart, and the requeue it
ends with asks only for a state that may be requeued.  While none of these comes in between,
each failed job has the one retry it is owed, which finds it in the attempt that failed.
-/

namespace DevBridge

namespace Server

open Transition (free)

variable {cfg : JobsConfig} {d : StoredData} {w w' : ServerWorld} {f f' : Flow}
  {e : ServerStep} {id : JobId}

/-! ### Retries and their history -/

/-- The task is on the way to a delayed requeue of the job. -/
def Task.retries (id : JobId) : Task → Bool
  | .marked id' _ => id' == id
  | .delayed id' _ _ => id' == id
  | _ => false

/-- How many retries of the job are outstanding. -/
def Flow.outstanding (f : Flow) (id : JobId) : ℕ := f.retries.countP (Task.retries id ·)

/-- A failure of `complete_job` left the job failed, and it was not queued since. -/
def leftFailed (id : JobId) : List ServerEvent → Bool
  | [] => false
  | .leftFailed id' :: t => id' == id || leftFailed id t
  | .queued id' _ :: t => id' != id && leftFailed id t
  | .sent _ _ _ :: t => leftFailed id t

/-- A failure of `complete_job` left the job failed, and it was neither queued nor sent
since. -/
def undisturbed (id : JobId) : List ServerEvent → Bool
  | [] => false
  | .leftFailed id' :: t => id' == id || undisturbed id t
  | .queued id' _ :: t => id' != id && undisturbed id t
  | .sent _ id' _ :: t => id' != id && undisturbed id t

/-! ### The condition -/

/-- The server does not restart while a retry is outstanding.  A failure is reported for a job
only while it has no retry outstanding and no loop is about to send it, and a status update
queues a job only while it has no retry outstanding.  The reaper requeues a job only while it
has none and is below the limit.  No storage call of an outstanding retry fails. -/
structure ServerWorld.RetriesInTurn (cfg : JobsConfig) (w : ServerWorld) (e : ServerStep) :
    Prop where
  restart : e = .restart → w.flow.retries = 0
  failure : ∀ completion, e = .complete completion → completion.success = false →
    completion.unconfirmed = false → w.flow.outstanding completion.jobId = 0 ∧
      ∀ c, ¬ w.Sending c completion.jobId
  reopen : ∀ update, e = .status update →
    statusUpdateState (protoStateToCore update.state) update.stage = .queued →
      w.flow.outstanding update.jobId = 0
  reaper : ∀ place id retryCount rest row, e = .task place ∨ e = .requeueUnread place →
    w.tasks[place]? = some (.reap ((id, retryCount) :: rest)) →
      retryCount < cfg.maxRetries → w.jobs.get? id = some row → row.requeueable →
        w.flow.outstanding id = 0 ∧ row.retryCount < cfg.maxRetries
  stored : ∀ place task, e = .taskFails place → w.tasks[place]? = some task → task.isRetry = false

def retriesInTurn (cfg : JobsConfig) : Transition.Law ServerWorld ServerStep := fun w e _ =>
  w.RetriesInTurn cfg e

/-- The same of the flow, where a requeue of the reaper is one that uses up no retry. -/
structure Flow.RetriesInTurn (cfg : JobsConfig) (f : Flow) (e : ServerStep) (f' : Flow) :
    Prop where
  restart : e = .restart → f.retries = 0
  failure : ∀ completion, e = .complete completion → completion.success = false →
    completion.unconfirmed = false → f.outstanding completion.jobId = 0
  reopen : ∀ update, e = .status update →
    statusUpdateState (protoStateToCore update.state) update.stage = .queued →
      f.outstanding update.jobId = 0
  reaper : ∀ place id row, e = .task place ∨ e = .requeueUnread place →
    f.jobs.get? id = some row → row.requeueable → f'.trace = .queued id false :: f.trace →
      f'.retries = f.retries → f.outstanding id = 0 ∧ row.retryCount < cfg.maxRetries
  stored : ∀ place, e = .taskFails place → f'.retries = f.retries

/-! ### The invariant -/

structure Flow.Retried (cfg : JobsConfig) (f : Flow) : Prop where
  limit : ∀ id row, f.jobs.get? id = some row → row.retryCount ≤ cfg.maxRetries
  single : ∀ id, f.outstanding id ≤ 1
  attempt : ∀ id attempt errorDetail, .delayed id attempt errorDetail ∈ f.retries →
    attempt < cfg.maxRetries ∧ ∀ row, f.jobs.get? id = some row → row.retryCount = attempt
  held : ∀ id, f.outstanding id ≠ 0 → id < f.nextJob ∧ undisturbed id f.trace ∧
    ∀ row, f.jobs.get? id = some row → row.isQueued = false
  owed : ∀ id row, leftFailed id f.trace → f.jobs.get? id = some row → row.inProgress →
    row.retryCount < cfg.maxRetries → f.outstanding id ≠ 0

lemma outstanding_pos {task : Task} (h : task ∈ f.retries) (hid : task.retries id = true) :
    f.outstanding id ≠ 0 := by
  intro hzero
  exact Multiset.countP_eq_zero.mp hzero task h hid

/-- What a move that leaves the retries alone may do to the row of a job. -/
def RowKept (f f' : Flow) (id : JobId) (row' : JobRow) : Prop :=
  ∃ row, f.jobs.get? id = some row ∧ row'.retryCount = row.retryCount ∧
    (f.outstanding id ≠ 0 → row'.isQueued → row.isQueued) ∧
      (leftFailed id f'.trace → row'.inProgress → row.inProgress)

/-- A move that leaves the retries alone: a row is kept in this sense, or it is the row of a
job without retries. -/
lemma Flow.Retried.of_jobs (h : f.Retried cfg) (hnext : f.nextJob ≤ f'.nextJob)
    (hretries : f'.retries = f.retries)
    (hundisturbed : ∀ id, f.outstanding id ≠ 0 → undisturbed id f.trace →
      undisturbed id f'.trace)
    (hleft : ∀ id, leftFailed id f'.trace → leftFailed id f.trace)
    (hrow : ∀ id row', f'.jobs.get? id = some row' → RowKept f f' id row' ∨
      (f.outstanding id = 0 ∧ leftFailed id f'.trace = false ∧
        row'.retryCount ≤ cfg.maxRetries)) : f'.Retried cfg := by
  have hout : ∀ id, f'.outstanding id = f.outstanding id := by simp [Flow.outstanding, hretries]
  refine ⟨fun id row' hrow' => ?_, fun id => hout id ▸ h.single id,
    fun id attempt errorDetail hmem => ?_, fun id hid => ?_,
    fun id row' hl hrow' hin hlt => ?_⟩
  · rcases hrow id row' hrow' with ⟨row, hr, hcount, -⟩ | ⟨-, -, hlimit⟩
    · exact hcount ▸ h.limit id row hr
    · exact hlimit
  · rw [hretries] at hmem
    have hpos : f.outstanding id ≠ 0 := outstanding_pos hmem (by simp [Task.retries])
    obtain ⟨hlt, hcounts⟩ := h.attempt id attempt errorDetail hmem
    refine ⟨hlt, fun row' hrow' => ?_⟩
    rcases hrow id row' hrow' with ⟨row, hr, hcount, -⟩ | ⟨hzero, -⟩
    · exact hcount.trans (hcounts row hr)
    · exact absurd hzero hpos
  · rw [hout] at hid
    obtain ⟨hlt, hund, hqueued⟩ := h.held id hid
    refine ⟨hlt.trans_le hnext, hundisturbed id hid hund, fun row' hrow' => ?_⟩
    rcases hrow id row' hrow' with ⟨row, hr, -, hq, -⟩ | ⟨hzero, -⟩
    · by_contra hqueued'
      have hbefore := hq hid (Bool.of_not_eq_false hqueued')
      simp [hqueued row hr] at hbefore
    · exact absurd hzero hid
  · rw [hout]
    rcases hrow id row' hrow' with ⟨row, hr, hcount, -, hprogress⟩ | ⟨-, hnot, -⟩
    · exact h.owed id row (hleft id hl) hr (hprogress hl hin) (hcount ▸ hlt)
    · simp [hnot] at hl

/-- A move that has nothing to do with jobs or retries. -/
lemma Flow.Retried.of_same (h : f.Retried cfg) (hjobs : f'.jobs = f.jobs)
    (hnext : f.nextJob ≤ f'.nextJob) (htrace : f'.trace = f.trace)
    (hretries : f'.retries = f.retries) : f'.Retried cfg := by
  refine h.of_jobs hnext hretries (fun id _ hu => htrace ▸ hu) (fun id hl => htrace ▸ hl)
    fun id row hrow => Or.inl ⟨row, hjobs ▸ hrow, rfl, fun _ hq => hq, fun _ hin => hin⟩

/-! ### One move -/

/-- The job is requeued: its retry, if it had one, is used up. -/
lemma Flow.Retried.requeued (h : f.Retried cfg) {row : JobRow} {retries : Multiset Task}
    {now : Time} {errorDetail : String} {target : Option String} (hrow : f.jobs.get? id = some row)
    (hlimit : row.retryCount < cfg.maxRetries) (hzero : retries.countP (Task.retries id ·) = 0)
    (hother : ∀ id', id' ≠ id → retries.countP (Task.retries id' ·) = f.outstanding id')
    (hsub : ∀ task ∈ retries, task ∈ f.retries) :
    ((f.withRetries retries).requeued id now errorDetail target).Retried cfg := by
  have hjobs : ∀ id', id' ≠ id → (f.jobs.update id (fun _ => true)
      (JobRow.requeued now errorDetail)).get? id' = f.jobs.get? id' := fun id' hne =>
    Table.get?_update_of_ne _ _ _ hne
  have hout : ∀ id', ((f.withRetries retries).requeued id now errorDetail target).outstanding id' =
      retries.countP (Task.retries id' ·) := fun _ => rfl
  refine ⟨fun id' row' hrow' => ?_, fun id' => ?_, fun id' attempt detail hmem => ?_,
    fun id' hid' => ?_, fun id' row' hleft hrow' hin hlt => ?_⟩
  · rcases eq_or_ne id' id with rfl | hne
    · obtain rfl := get?_written hrow hrow'
      exact hlimit
    · exact h.limit id' row' ((hjobs id' hne).symm.trans hrow')
  · rw [hout]
    rcases eq_or_ne id' id with rfl | hne
    · omega
    · rw [hother id' hne]
      exact h.single id'
  · have hne : id' ≠ id := by
      rintro rfl
      exact Multiset.countP_eq_zero.mp hzero _ hmem (by simp [Task.retries])
    obtain ⟨hlt, hcounts⟩ := h.attempt id' attempt detail (hsub _ hmem)
    exact ⟨hlt, fun row' hrow' => hcounts row' ((hjobs id' hne).symm.trans hrow')⟩
  · rw [hout] at hid'
    have hne : id' ≠ id := by
      rintro rfl
      exact hid' hzero
    rw [hother id' hne] at hid'
    obtain ⟨hlt, hund, hqueued⟩ := h.held id' hid'
    exact ⟨hlt, by simpa [undisturbed, hne.symm] using hund,
      fun row' hrow' => hqueued row' ((hjobs id' hne).symm.trans hrow')⟩
  · have hne : id' ≠ id := by
      rintro rfl
      simp [leftFailed] at hleft
    rw [hout, hother id' hne]
    exact h.owed id' row' (by simpa [leftFailed, hne.symm] using hleft)
      ((hjobs id' hne).symm.trans hrow') hin hlt

/-- One retry is taken off. -/
lemma outstanding_cons {task : Task} {retries : Multiset Task} (h : f.retries = task ::ₘ retries)
    (id : JobId) : f.outstanding id =
      retries.countP (Task.retries id ·) + if task.retries id then 1 else 0 := by
  rw [Flow.outstanding, h, Multiset.countP_cons]

/-- A retry ends without a requeue: the job is not owed one. -/
lemma Flow.Retried.ended (h : f.Retried cfg) {task : Task} {retries : Multiset Task}
    (hretry : f.retries = task ::ₘ retries)
    (howed : ∀ id, task.retries id → ∀ row, leftFailed id f.trace →
      f.jobs.get? id = some row → row.inProgress → cfg.maxRetries ≤ row.retryCount) :
    (f.withRetries retries).Retried cfg := by
  have hout : ∀ id, f.outstanding id = (f.withRetries retries).outstanding id +
      if task.retries id then 1 else 0 := outstanding_cons hretry
  have hsub : ∀ t ∈ retries, t ∈ f.retries := fun t ht => by
    rw [hretry]
    exact Multiset.mem_cons_of_mem ht
  refine ⟨h.limit, fun id => ?_, fun id attempt detail hmem => h.attempt id attempt detail
    (hsub _ hmem), fun id hid => ?_, fun id row hleft hrow hin hlt => ?_⟩
  · have hone := h.single id
    have heq := hout id
    omega
  · refine h.held id ?_
    have heq := hout id
    omega
  · have hpos := h.owed id row hleft hrow hin hlt
    have heq := hout id
    by_cases htask : task.retries id = true
    · exact absurd (howed id htask row hleft hrow hin) (not_le.mpr hlt)
    · rw [if_neg htask] at heq
      omega

lemma Flow.Retried.retry (h : f.Retried cfg) {retries : Multiset Task}
    (hm : f.Retry cfg retries) : (f.withRetries retries).Retried cfg := by
  cases hm with
  | lapsed id attempt errorDetail retries hretry hno =>
    refine h.ended hretry fun id' hid' row hleft hrow hin => ?_
    -- A job that is held and in progress can be requeued.
    obtain rfl : id = id' := by simpa [Task.retries] using hid'
    have hpos : f.outstanding id ≠ 0 := by
      rw [outstanding_cons hretry, if_pos hid']
      omega
    have hqueued := (h.held id hpos).2.2 row hrow
    have hreq := hno row hrow
    simp only [JobRow.isQueued, JobRow.requeueable, JobRow.inProgress, JobRow.isIn,
      List.any_cons, List.any_nil, Bool.or_false, Bool.or_eq_true, Bool.or_eq_false_iff]
      at hqueued hreq hin
    simp [hqueued, hreq] at hin
  | scheduled id errorDetail row retries hretry hrow hlt =>
    have hout : ∀ id', (f.withRetries (.delayed id row.retryCount errorDetail ::ₘ
        retries)).outstanding id' = f.outstanding id' := by
      intro id'
      rw [outstanding_cons hretry, Flow.outstanding, Flow.withRetries_retries,
        Multiset.countP_cons]
      rfl
    refine ⟨h.limit, fun id' => hout id' ▸ h.single id', fun id' attempt detail hmem => ?_,
      fun id' hid' => h.held id' (hout id' ▸ hid'), fun id' row' hleft hrow' hin hlt' => ?_⟩
    · rcases Multiset.mem_cons.mp hmem with heq | hmem
      · obtain ⟨rfl, rfl, -⟩ := Task.delayed.inj heq
        refine ⟨hlt, fun row' hrow' => ?_⟩
        rw [Option.some.inj (Eq.trans (Eq.symm hrow) hrow')]
      · refine h.attempt id' attempt detail ?_
        rw [hretry]
        exact Multiset.mem_cons_of_mem hmem
    · rw [hout]
      exact h.owed id' row' hleft hrow' hin hlt'
  | givenUp id errorDetail retries hretry hlimit =>
    refine h.ended hretry fun id' hid' row _ hrow _ => ?_
    obtain rfl : id = id' := by simpa [Task.retries] using hid'
    exact hlimit row hrow

/-- A failure is reported for a job without retries: it is owed one now. -/
lemma Flow.Retried.failure (hk : f.Known) (h : f.Retried cfg) {row : JobRow} {now : Time}
    {errorDetail : String} (hrow : f.jobs.get? id = some row) (hzero : f.outstanding id = 0) :
    (((f.withJobs (f.jobs.update id (fun _ => true) (JobRow.withState now .failed))).remember
      (.leftFailed id)).withRetries (.marked id errorDetail ::ₘ f.retries)).Retried cfg := by
  generalize hf' : ((f.withJobs (f.jobs.update id (fun _ => true)
    (JobRow.withState now .failed))).remember (.leftFailed id)).withRetries _ = f'
  have hout : ∀ id', f'.outstanding id' = f.outstanding id' + if id = id' then 1 else 0 := by
    intro id'
    rw [← hf', Flow.outstanding, Flow.withRetries_retries, Multiset.countP_cons]
    simp [Task.retries, Flow.outstanding]
  have hjobs : ∀ id', id' ≠ id → f'.jobs.get? id' = f.jobs.get? id' := by
    intro id' hne
    rw [← hf']
    exact Table.get?_update_of_ne _ _ _ hne
  have hself : ∀ row', f'.jobs.get? id = some row' → row' = row.withState now .failed := by
    intro row' hrow'
    rw [← hf'] at hrow'
    exact get?_written hrow hrow'
  have htrace : f'.trace = .leftFailed id :: f.trace := by rw [← hf']; rfl
  have hnext : f'.nextJob = f.nextJob := by rw [← hf']; rfl
  refine ⟨fun id' row' hrow' => ?_, fun id' => ?_, fun id' attempt detail hmem => ?_,
    fun id' hid' => ?_, fun id' row' hleft hrow' hin hlt => ?_⟩
  · rcases eq_or_ne id' id with rfl | hne
    · rw [hself row' hrow']
      exact h.limit id' row hrow
    · exact h.limit id' row' (hjobs id' hne ▸ hrow')
  · rw [hout]
    split
    · rename_i hid
      rw [← hid, hzero]
    · exact h.single id'
  · have hmem' : .delayed id' attempt detail ∈ f.retries := by
      rw [← hf'] at hmem
      exact (Multiset.mem_cons.mp hmem).resolve_left (by simp)
    have hne : id' ≠ id := by
      rintro rfl
      exact outstanding_pos hmem' (by simp [Task.retries]) hzero
    obtain ⟨hlt, hcounts⟩ := h.attempt id' attempt detail hmem'
    exact ⟨hlt, fun row' hrow' => hcounts row' (hjobs id' hne ▸ hrow')⟩
  · rw [htrace, hnext]
    rcases eq_or_ne id' id with rfl | hne
    · refine ⟨hk id' row hrow, by simp [undisturbed], fun row' hrow' => ?_⟩
      rw [hself row' hrow']
      rfl
    · rw [hout, if_neg hne.symm] at hid'
      obtain ⟨hlt, hund, hqueued⟩ := h.held id' hid'
      exact ⟨hlt, by simp [undisturbed, hund],
        fun row' hrow' => hqueued row' (hjobs id' hne ▸ hrow')⟩
  · rw [hout]
    rcases eq_or_ne id' id with rfl | hne
    · simp
    · rw [htrace] at hleft
      have hpos := h.owed id' row' (by simpa [leftFailed, hne.symm] using hleft)
        (hjobs id' hne ▸ hrow') hin hlt
      omega

lemma Flow.Retried.move (hk : f.Known) (h : f.Retried cfg) (hm : Flow.Move cfg f e f')
    (hlaw : f.RetriesInTurn cfg e f')
    (hsent : ∀ c id state, f'.trace = .sent c id state :: f.trace → f.outstanding id = 0) :
    f'.Retried cfg := by
  have hupdate : ∀ {id' : JobId} {write : JobRow → JobRow} {id : JobId} {row' : JobRow},
      (f.jobs.update id' (fun _ => true) write).get? id = some row' → id ≠ id' →
        f.jobs.get? id = some row' := by
    intro id' write id row' hrow' hne
    rwa [Table.get?_update_of_ne _ _ _ hne] at hrow'
  cases hm
  case pushed row _ hcount _ =>
    refine h.of_jobs (Nat.le_succ _) rfl (fun id hid hu => ?_) (fun id hl => ?_)
      fun id row' hrow' => ?_
    · have hne : f.nextJob ≠ id := (h.held id hid).1.ne'
      simp [undisturbed, hne, hu]
    · simp only [Flow.pushed_trace, leftFailed, Bool.and_eq_true] at hl
      exact hl.2
    · rw [Flow.pushed_jobs, JobTable.insertJob, Table.get?_insert] at hrow'
      split at hrow'
      · rename_i hid
        obtain rfl := Option.some.inj hrow'
        refine Or.inr ⟨?_, by simp [leftFailed, hid.1], by omega⟩
        by_contra hpos
        exact absurd (h.held id hpos).1 (by simp [hid.1])
      · exact Or.inl ⟨row', hrow', rfl, fun _ hq => hq, fun _ hin => hin⟩
  case requeued id row target now detail retries hrow hreq hretries hroute =>
    rcases hretries with rfl | ⟨attempt, hretry⟩
    · have he : ∃ place, e = .task place ∨ e = .requeueUnread place := by
        cases hroute with
        | readBack place => exact ⟨place, Or.inl rfl⟩
        | unread place => exact ⟨place, Or.inr rfl⟩
      obtain ⟨place, he⟩ := he
      obtain ⟨hzero, hlt⟩ := hlaw.reaper place id row he hrow hreq rfl rfl
      exact h.requeued hrow hlt hzero (fun _ _ => rfl) fun _ ht => ht
    · have hmem : .delayed id attempt detail ∈ f.retries := by
        rw [hretry]
        exact Multiset.mem_cons_self _ _
      obtain ⟨hlt, hcounts⟩ := h.attempt id attempt detail hmem
      have hout := outstanding_cons hretry
      refine h.requeued hrow (hcounts row hrow ▸ hlt) ?_ (fun id' hne => ?_) fun t ht => ?_
      · have hone := h.single id
        have heq := hout id
        rw [if_pos (by simp [Task.retries])] at heq
        omega
      · have heq := hout id'
        rw [if_neg (by simp [Task.retries, hne.symm])] at heq
        omega
      · rw [hretry]
        exact Multiset.mem_cons_of_mem ht
  case retry place retries hretry => exact h.retry hretry
  case retryFailed place task retries hretry =>
    -- A retry less is not what the law allows.
    have hcard := congrArg Multiset.card ((hlaw.stored place rfl).trans hretry)
    simp at hcard
  case routed => exact h.of_same (by simp) (by simp) (by simp) (by simp)
  case drained => exact h.of_same (by simp) (by simp) (by simp) (by simp)
  case sent c l hl id₀ hstage hc =>
    have hzero := hsent c id₀ _ rfl
    refine h.of_jobs le_rfl rfl (fun id hid hu => ?_) (fun id hl => by simpa [leftFailed] using hl)
      fun id row hrow => Or.inl ⟨row, hrow, rfl, fun _ hq => hq, fun _ hin => hin⟩
    have hne : id₀ ≠ id := by
      rintro rfl
      exact hid hzero
    simp [undisturbed, hne, hu]
  case reopened update row now hrow hin hnot hstate =>
    have hzero := hlaw.reopen update rfl hstate
    refine h.of_jobs le_rfl rfl (fun id hid hu => ?_) (fun id hl => ?_) fun id row' hrow' => ?_
    · have hne : update.jobId ≠ id := by
        rintro rfl
        exact hid hzero
      simp [undisturbed, hne, hu]
    · simp only [Flow.remember_trace, Flow.withJobs_trace, leftFailed, Bool.and_eq_true] at hl
      exact hl.2
    · rcases eq_or_ne id update.jobId with rfl | hne
      · obtain rfl := get?_written hrow hrow'
        exact Or.inr ⟨hzero, by simp [leftFailed], h.limit _ row hrow⟩
      · exact Or.inl ⟨row', hupdate hrow' hne, rfl, fun _ hq => hq, fun _ hin => hin⟩
  case wrote jobs hwrote _ =>
    refine h.of_jobs le_rfl rfl (fun _ _ hu => hu) (fun _ hl => hl) fun id row' hrow' => ?_
    obtain ⟨row, hrow, hw⟩ := hwrote id row' hrow'
    refine Or.inl ⟨row, hrow, hw.count, fun _ => hw.queued, fun _ hin => ?_⟩
    by_contra hfin
    exact finished_iff.mp (hw.finished (finished_iff.mpr hfin)) hin
  case leftFailed completion row now hsuccess hunconfirmed hrow hin =>
    exact h.failure hk hrow (hlaw.failure completion rfl hsuccess hunconfirmed)
  case restarted => exact h.of_same rfl le_rfl rfl (hlaw.restart rfl).symm
  all_goals exact h.of_same rfl le_rfl rfl rfl

/-! ### Steps of the server -/

/-- A job has a retry outstanding only since a failure was reported for it. -/
lemma outstanding_of_move (hm : Flow.Move cfg f e f') (h : f'.outstanding id ≠ 0) :
    f.outstanding id ≠ 0 ∨ ∃ completion, e = .complete completion ∧
      completion.success = false ∧ completion.unconfirmed = false ∧ completion.jobId = id := by
  have hle : ∀ retries, retries ≤ f.retries → retries.countP (Task.retries id ·) ≠ 0 →
      f.outstanding id ≠ 0 := by
    intro retries hle hne hzero
    have hcount : retries.countP (Task.retries id ·) ≤ f.outstanding id :=
      Multiset.countP_le_of_le _ hle
    omega
  cases hm
  case requeued id' row target now detail retries hrow hreq hretries hroute =>
    refine Or.inl (hle retries ?_ h)
    rcases hretries with heq | ⟨attempt, heq⟩
    · exact heq.ge
    · rw [heq]
      exact Multiset.le_cons_self _ _
  case retry retries hretry =>
    left
    cases hretry with
    | lapsed id' attempt errorDetail retries hretry hno =>
      exact hle retries (hretry ▸ Multiset.le_cons_self _ _) h
    | scheduled id' errorDetail row retries hretry hrow hlt =>
      rw [outstanding_cons hretry]
      rwa [Flow.outstanding, Flow.withRetries_retries, Multiset.countP_cons] at h
    | givenUp id' errorDetail retries hretry hlimit =>
      exact hle retries (hretry ▸ Multiset.le_cons_self _ _) h
  case retryFailed task retries hretry =>
    exact Or.inl (hle retries (hretry ▸ Multiset.le_cons_self _ _) h)
  case leftFailed completion row now hsuccess hunconfirmed hrow hin =>
    rw [Flow.outstanding, Flow.withRetries_retries, Multiset.countP_cons] at h
    by_cases hid : completion.jobId = id
    · exact Or.inr ⟨completion, rfl, hsuccess, hunconfirmed, hid⟩
    · rw [if_neg (by simpa [Task.retries] using hid)] at h
      exact Or.inl h
  case routed => exact Or.inl (by simpa [Flow.outstanding] using h)
  case drained => exact Or.inl (by simpa [Flow.outstanding] using h)
  case restarted => exact absurd rfl h
  all_goals exact Or.inl h

/-- A requeue remembers the job it requeues. -/
lemma trace_requeue {id' : JobId} {errorDetail : String} {rest : List (JobId × ℕ)}
    (h : (w.requeue id' errorDetail rest).trace = .queued id false :: w.trace) : id' = id := by
  rcases flow_requeue (w := w) id' errorDetail rest with ⟨row, -, -, heq⟩ | ⟨-, heq⟩
  · have htrace : (w.requeue id' errorDetail rest).trace = .queued id' false :: w.trace :=
      congrArg Flow.trace heq
    exact (ServerEvent.queued.inj (List.cons.inj (htrace.symm.trans h)).1).1
  · have htrace : (w.requeue id' errorDetail rest).trace = w.trace := congrArg Flow.trace heq
    exact absurd (htrace.symm.trans h) List.ne_cons_self

lemma retries_requeue {id' : JobId} {errorDetail : String} {rest : List (JobId × ℕ)} :
    (w.requeue id' errorDetail rest).flow.retries = w.flow.retries := by
  rcases flow_requeue (w := w) id' errorDetail rest with ⟨row, -, -, heq⟩ | ⟨-, heq⟩
  · rw [heq]
    rfl
  · rw [heq]

/-- Among the tasks only the reaper requeues a job and uses up no retry. -/
lemma reap_of_requeued {place : ℕ} (hstep : w.step cfg (.task place) = some w')
    (htrace : w'.trace = .queued id false :: w.trace)
    (hretries : w'.flow.retries = w.flow.retries) :
    ∃ retryCount rest, w.tasks[place]? = some (.reap ((id, retryCount) :: rest)) ∧
      retryCount < cfg.maxRetries := by
  obtain ⟨task, htask, rfl⟩ := Option.map_eq_some_iff.mp hstep
  have hgoOn : ∀ (v : ServerWorld) rest, (v.goOn rest).trace = v.trace := by
    intro v rest
    exact congrArg Flow.trace (flow_goOn rest)
  have hquiet : (ServerWorld.runTask cfg { w with tasks := w.tasks.eraseIdx place } task).trace =
      w.trace → False := fun hsame => absurd (hsame.symm.trans htrace) List.ne_cons_self
  cases task with
  | checkPairing machineId =>
    refine absurd ?_ hquiet
    simp only [ServerWorld.runTask, ServerWorld.checkPairing]
    split <;> rfl
  | register machineId => exact absurd rfl hquiet
  | route id' target rest =>
    refine absurd ((hgoOn _ rest).trans ?_) hquiet
    cases target with
    | none => rfl
    | some client =>
      exact (congrArg Flow.trace (flow_deliverTo client [id'])).trans Flow.deliverTo_trace
  | notifyDefault => exact absurd rfl hquiet
  | notifyPairing => exact absurd rfl hquiet
  | marked id' errorDetail =>
    refine absurd ?_ hquiet
    simp only [ServerWorld.runTask, ServerWorld.scheduleRetry]
    split
    · split <;> rfl
    · rfl
  | unmarked id' => exact absurd rfl hquiet
  | delayed id' attempt errorDetail =>
    -- The delayed requeue is gone, so the retries are not what they were.
    obtain ⟨retries, hbefore, hafter⟩ := flow_erase_retry htask rfl
    rw [ServerWorld.runTask, retries_requeue, hafter, hbefore] at hretries
    have hcard := congrArg Multiset.card hretries
    simp at hcard
  | reap rest =>
    rcases rest with _ | ⟨⟨id', retryCount⟩, rest⟩
    · exact absurd rfl hquiet
    · simp only [ServerWorld.runTask, ServerWorld.reapNext] at htrace
      split at htrace
      · rename_i hlt
        obtain rfl := trace_requeue htrace
        exact ⟨retryCount, rest, htask, hlt⟩
      · rw [hgoOn] at htrace
        exact absurd htrace List.ne_cons_self

/-- The same of a requeue whose read-back fails. -/
lemma reap_of_unread {place : ℕ} (hstep : w.step cfg (.requeueUnread place) = some w')
    (htrace : w'.trace = .queued id false :: w.trace)
    (hretries : w'.flow.retries = w.flow.retries) :
    ∃ retryCount rest, w.tasks[place]? = some (.reap ((id, retryCount) :: rest)) ∧
      retryCount < cfg.maxRetries := by
  obtain ⟨task, htask, hfail⟩ := Option.bind_eq_some_iff.mp hstep
  cases task with
  | delayed id' attempt errorDetail =>
    obtain ⟨retries, hbefore, hafter⟩ := flow_erase_retry htask rfl
    obtain ⟨row, -, -, hflow⟩ := flow_requeueUnread hfail
    rw [hflow, hafter, hbefore] at hretries
    have hcard := congrArg Multiset.card hretries
    simp at hcard
  | reap rest =>
    rcases rest with _ | ⟨⟨id', retryCount⟩, rest⟩
    · cases hfail
    · simp only [ServerWorld.failReadBack] at hfail
      split at hfail
      · rename_i hlt
        obtain ⟨row, -, -, hflow⟩ := flow_requeueUnread hfail
        have hqueued : w'.trace = .queued id' false :: w.trace := congrArg Flow.trace hflow
        obtain rfl := (ServerEvent.queued.inj (List.cons.inj (hqueued.symm.trans htrace)).1).1
        exact ⟨retryCount, rest, htask, hlt⟩
      · cases hfail
  | checkPairing _ | register _ | route _ _ _ | notifyDefault | notifyPairing | marked _ _
  | unmarked _ => cases hfail

/-- A task that is on its way to no requeue fails. -/
lemma retries_failTask {place : ℕ} {task : Task} (htask : w.tasks[place]? = some task)
    (hnot : task.isRetry = false)
    (hfail : ({ w with tasks := w.tasks.eraseIdx place } : ServerWorld).failTask cfg task =
      some w') : w'.flow.retries = w.flow.retries := by
  cases task with
  | marked id errorDetail => cases hnot
  | delayed id attempt errorDetail => cases hnot
  | checkPairing machineId =>
    obtain rfl := Option.some.inj hfail
    rw [flow_addTask _ rfl rfl, flow_erase htask rfl rfl]
  | unmarked id =>
    obtain rfl := Option.some.inj hfail
    rw [flow_erase htask rfl rfl]
  | reap rest =>
    rcases rest with _ | ⟨⟨id, retryCount⟩, rest⟩
    · cases hfail
    · simp only [ServerWorld.failTask] at hfail
      split at hfail
      · obtain rfl := Option.some.inj hfail
        rw [flow_goOn, flow_erase htask rfl rfl]
      · cases hfail
  | register _ | route _ _ _ | notifyDefault | notifyPairing => cases hfail

lemma ServerWorld.RetriesInTurn.flow (h : w.RetriesInTurn cfg e)
    (hstep : w.step cfg e = some w') : w.flow.RetriesInTurn cfg e w'.flow := by
  refine ⟨h.restart, fun completion he hs hu => (h.failure completion he hs hu).1, h.reopen,
    fun place id row he hrow hreq htrace hretries => ?_, fun place he => ?_⟩
  · have hreap : ∃ retryCount rest, w.tasks[place]? = some (.reap ((id, retryCount) :: rest)) ∧
        retryCount < cfg.maxRetries := by
      rcases he with rfl | rfl
      · exact reap_of_requeued hstep htrace hretries
      · exact reap_of_unread hstep htrace hretries
    obtain ⟨retryCount, rest, htask, hlt⟩ := hreap
    exact h.reaper place id retryCount rest row he htask hlt hrow hreq
  · subst he
    obtain ⟨task, htask, hfail⟩ := Option.bind_eq_some_iff.mp hstep
    exact retries_failTask htask (h.stored place task rfl htask) hfail

/-- No loop is about to send a job that has a retry outstanding. -/
structure ServerWorld.Retried (cfg : JobsConfig) (w : ServerWorld) : Prop where
  flow : w.flow.Retried cfg
  idle : ∀ id, w.flow.outstanding id ≠ 0 → ∀ c, ¬ w.Sending c id

lemma ServerWorld.Retried.step (hk : w.flow.Known) (h : w.Retried cfg)
    (hstep : w.step cfg e = some w') (hlaw : w.RetriesInTurn cfg e) : w'.Retried cfg := by
  have hm := move_of_step hstep
  have hflow : w'.flow.Retried cfg := h.flow.move hk hm (hlaw.flow hstep) fun c id state hnew => by
    by_contra hpos
    exact h.idle id hpos c (sending_of_sent hstep hnew).1
  refine ⟨hflow, fun id hpos c hsending => ?_⟩
  rcases sending_of_step hstep hsending with hbefore | ⟨hjobs, row, hrow, hqueued⟩
  · rcases outstanding_of_move hm hpos with hpos | ⟨completion, he, hs, hu, rfl⟩
    · exact h.idle id hpos c hbefore
    · exact (hlaw.failure completion he hs hu).2 c hbefore
  · -- The job was found queued, and a job with a retry outstanding is not.
    have hrow' : w'.flow.jobs.get? id = some row := (congrArg (Table.get? · id) hjobs).trans hrow
    have hnot := (hflow.held id hpos).2.2 row hrow'
    simp [hqueued] at hnot

/-! ### Runs -/

/-- The stored retry counts are within the limit. -/
def StoredData.WithinLimit (cfg : JobsConfig) (d : StoredData) : Prop :=
  ∀ id row, d.jobs.get? id = some row → row.retryCount ≤ cfg.maxRetries

lemma retried_of_reach (hd : d.WithinLimit cfg)
    (h : (printServer cfg d).Reach (retriesInTurn cfg) w) : w.Retried cfg := by
  refine h.invariant (P := fun v => v.Retried cfg) ⟨?_, ?_⟩ fun v e v' hv hr hstep hlaw =>
    hr.step (known_of_reach (hv.mono fun _ _ _ _ => trivial)) hstep hlaw
  · refine ⟨hd, fun id => Nat.zero_le _, fun id attempt errorDetail hmem => ?_, fun id hpos => ?_,
      fun id row hleft => ?_⟩
    · exact absurd hmem (Multiset.notMem_zero _)
    · exact absurd rfl hpos
    · cases hleft
  · rintro id hpos c ⟨k, retryCount, hk, -⟩
    cases hk

lemma outstanding_eq (w : ServerWorld) (id : JobId) :
    w.flow.outstanding id = w.tasks.countP (Task.retries id) := by
  change (retriesOf w.tasks).countP _ = _
  rw [retriesOf, Multiset.coe_countP, List.countP_filter]
  refine List.countP_congr fun task _ => ?_
  cases task <;> simp [Task.retries, Task.isRetry]

/-- A requeue changes no other job. -/
lemma requeue_get?_of_ne {id' : JobId} {errorDetail : String} {rest : List (JobId × ℕ)}
    (hne : id ≠ id') : (w.requeue id' errorDetail rest).jobs.get? id = w.jobs.get? id := by
  have hjobs : (w.requeue id' errorDetail rest).flow.jobs.get? id = w.jobs.get? id := by
    rcases flow_requeue (w := w) id' errorDetail rest with ⟨row, -, -, heq⟩ | ⟨-, heq⟩
    · rw [heq]
      exact Table.get?_update_of_ne _ _ _ hne
    · rw [heq]
      rfl
  exact hjobs

lemma requeueUnread_get?_of_ne {id' : JobId} {errorDetail : String} {rest : List (JobId × ℕ)}
    (h : w.requeueUnread id' errorDetail rest = some w') (hne : id ≠ id') :
    w'.jobs.get? id = w.jobs.get? id := by
  obtain ⟨row, -, -, hflow⟩ := flow_requeueUnread h
  have hjobs := congrArg (fun f => Table.get? (Flow.jobs f) id) hflow
  exact hjobs.trans (Table.get?_update_of_ne _ _ _ hne)

/-- In a run in which nothing crosses an outstanding retry: a delayed requeue changes only its
own job, and only in the attempt that failed; the retry counts stay within the limit; and a
job that `complete_job` left failed, below the limit, has exactly one retry outstanding. -/
theorem retry_discipline (hd : d.WithinLimit cfg)
    (h : (printServer cfg d).Reach (retriesInTurn cfg) w) :
    (∀ place id attempt errorDetail e w' id',
        w.tasks[place]? = some (.delayed id attempt errorDetail) →
          e = .task place ∨ e = .requeueUnread place → w.step cfg e = some w' →
            w'.jobs.get? id' ≠ w.jobs.get? id' →
              id' = id ∧ undisturbed id w.trace ∧
                ∀ row, w.jobs.get? id = some row → row.retryCount = attempt) ∧
      (∀ id row, w.jobs.get? id = some row → row.retryCount ≤ cfg.maxRetries) ∧
      ∀ id row, leftFailed id w.trace → w.jobs.get? id = some row →
        row.state = .known .failed → row.retryCount < cfg.maxRetries →
          w.tasks.countP (Task.retries id) = 1 := by
  have hr := (retried_of_reach hd h).flow
  refine ⟨fun place id attempt errorDetail e w' id' htask he hstep hchanged => ?_, hr.limit,
    fun id row hleft hrow hstate hlt => ?_⟩
  · have hmem : .delayed id attempt errorDetail ∈ w.flow.retries := by
      obtain ⟨retries, hretries, -⟩ := flow_erase_retry htask rfl
      rw [hretries]
      exact Multiset.mem_cons_self _ _
    have hpos : w.flow.outstanding id ≠ 0 := outstanding_pos hmem (by simp [Task.retries])
    refine ⟨?_, (hr.held id hpos).2.1, (hr.attempt id attempt errorDetail hmem).2⟩
    by_contra hne
    rcases he with rfl | rfl
    · obtain ⟨task, htask', rfl⟩ := Option.map_eq_some_iff.mp hstep
      obtain rfl := Option.some.inj (htask.symm.trans htask')
      exact hchanged (requeue_get?_of_ne hne)
    · obtain ⟨task, htask', hfail⟩ := Option.bind_eq_some_iff.mp hstep
      obtain rfl := Option.some.inj (htask.symm.trans htask')
      have hsame := requeueUnread_get?_of_ne (w := { w with tasks := w.tasks.eraseIdx place })
        hfail hne
      exact hchanged hsame
  · have hpos := hr.owed id row hleft hrow (by simp [JobRow.inProgress, JobRow.isIn, hstate]) hlt
    have hone := hr.single id
    rw [outstanding_eq] at hpos hone
    omega

/-! ### Two runs -/

/-- A test that nothing crosses an outstanding retry; the reaper stays out of it. -/
def keepsRetries (w : ServerWorld) (e : ServerStep) (_ : ServerWorld) : Bool :=
  match e with
  | .restart => w.tasks.all fun task => !task.isRetry
  | .complete completion => completion.success || completion.unconfirmed ||
      (w.tasks.all (!·.retries completion.jobId) &&
        (List.range w.nextConn).all fun c => (w.conns c).all fun k =>
          match k.phase with
          | .sending _ _ => false
          | _ => true)
  | .status update =>
      statusUpdateState (protoStateToCore update.state) update.stage != .queued
  | .task place | .requeueUnread place => w.tasks[place]?.all fun task =>
      match task with
      | .reap _ => false
      | _ => true
  | .taskFails place => w.tasks[place]?.all (!·.isRetry)
  | _ => true

lemma retriesInTurn_of_keeps (hv : (printServer cfg d).Reach (retriesInTurn cfg) w)
    (v : ServerWorld) (h : keepsRetries w e v = true) : w.RetriesInTurn cfg e := by
  refine ⟨?_, ?_, ?_, ?_, ?_⟩
  · rintro rfl
    refine (Multiset.coe_eq_zero _).mpr (List.filter_eq_nil_iff.mpr fun task htask => ?_)
    simpa using List.all_eq_true.mp h task htask
  · rintro completion rfl hsuccess hunconfirmed
    simp only [keepsRetries, hsuccess, hunconfirmed, Bool.false_or, Bool.and_eq_true] at h
    refine ⟨?_, ?_⟩
    · rw [outstanding_eq, List.countP_eq_zero]
      intro task htask
      simpa using List.all_eq_true.mp h.1 task htask
    · rintro c ⟨k, retryCount, hk, hphase⟩
      have hfresh := (placed_of_reach (hv.mono fun _ _ _ _ => trivial)).fresh c _
        (lines_of_conns hk)
      have hnot := List.all_eq_true.mp h.2 c (List.mem_range.mpr hfresh)
      simp [hk, hphase] at hnot
  · rintro update rfl hqueued
    simp [keepsRetries, hqueued] at h
  · rintro place id retryCount rest row (rfl | rfl) htask
    · simp [keepsRetries, htask] at h
    · simp [keepsRetries, htask] at h
  · rintro place task rfl htask
    simpa [keepsRetries, htask] using h

/-- The paper is stuck, and the job is requeued after a while. -/
theorem retry_discipline_delayed : ∃ w : ServerWorld,
    (printServer ⟨3, 30⟩ .empty).Reach (retriesInTurn ⟨3, 30⟩) w ∧
      w.tasks[0]? = some (.delayed 0 0 "paper jam") ∧ undisturbed 0 w.trace ∧
        w.tasks.countP (Task.retries 0) = 1 := by
  obtain ⟨w, hw, hgoal⟩ := (printServer ⟨3, 30⟩ .empty).reach_of_sound_tests (retriesInTurn ⟨3, 30⟩)
    (storeConnects ++ [.push (printRequest "kasa"), .task 0] ++ List.replicate 5 (.loop 0) ++
      [.complete ⟨0, "store", false, false, "paper jam"⟩, .task 0])
    (fun w => w.tasks[0]? == some (.delayed 0 0 "paper jam") && leftFailed 0 w.trace &&
      w.hasState 0 .failed && w.jobs.updates 0 (fun row => row.retryCount < 3) &&
      ((w.step ⟨3, 30⟩ (.task 0)).any fun w' => w'.hasState 0 .queued))
    (fun _ _ v hv _ => retriesInTurn_of_keeps hv v) (by decide +kernel) (by decide +kernel)
  simp only [Bool.and_eq_true, Option.any_eq_true, beq_iff_eq] at hgoal
  obtain ⟨⟨⟨⟨htask, hleft⟩, hfailed⟩, hlt⟩, w', hstep, hqueued⟩ := hgoal
  have hdiscipline := retry_discipline (d := .empty) (fun _ _ hrow => nomatch hrow) hw
  obtain ⟨row, hrow, hstate⟩ := row_of_hasState hfailed
  obtain ⟨row', hrow', hstate'⟩ := row_of_hasState hqueued
  refine ⟨w, hw, htask, ?_, ?_⟩
  · refine (hdiscipline.1 0 0 0 "paper jam" _ w' 0 htask (Or.inl rfl) hstep fun hsame => ?_).2.1
    rw [hrow, hrow'] at hsame
    obtain rfl := Option.some.inj hsame
    rw [hstate] at hstate'
    cases hstate'
  · refine hdiscipline.2.2 0 row hleft hrow hstate ?_
    simpa [Table.updates, hrow] using hlt

/-- A late update revives a failed job, the reaper requeues it, and it is sent again; the
delayed requeue of the first attempt then requeues the job while it is being printed. -/
theorem retry_hits_later_attempt : ∃ w w' : ServerWorld,
    (printServer ⟨3, 30⟩ .empty).Reach free w ∧
      w.tasks[0]? = some (.delayed 0 0 "paper jam") ∧ undisturbed 0 w.trace = false ∧
        w.hasState 0 .printing ∧ w.step ⟨3, 30⟩ (.task 0) = some w' ∧ w'.hasState 0 .queued := by
  obtain ⟨w, hw, hgoal⟩ := (printServer ⟨3, 30⟩ .empty).reach_of_run
    (storeConnects ++ [.push (printRequest "kasa"), .task 0] ++ List.replicate 5 (.loop 0) ++
      [.complete ⟨0, "store", false, false, "paper jam"⟩, .task 0,
        .status ⟨0, .printing, none⟩, .clock (10 ^ 12), .reap, .task 0, .task 0] ++
      List.replicate 5 (.loop 0) ++ [.status ⟨0, .printing, none⟩])
    (fun w => w.tasks[0]? == some (.delayed 0 0 "paper jam") && !undisturbed 0 w.trace &&
      w.hasState 0 .printing &&
      ((w.step ⟨3, 30⟩ (.task 0)).any fun w' => w'.hasState 0 .queued)) (by decide +kernel)
  simp only [Bool.and_eq_true, Option.any_eq_true, beq_iff_eq, Bool.not_eq_true'] at hgoal
  obtain ⟨⟨⟨htask, hdisturbed⟩, hprinting⟩, w', hstep, hqueued⟩ := hgoal
  exact ⟨w, w', hw, htask, hdisturbed, hprinting, hstep, hqueued⟩

end Server

end DevBridge

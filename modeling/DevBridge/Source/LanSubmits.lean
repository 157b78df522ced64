import DevBridge.Source.Acks
import DevBridge.Source.Calls

/-!
# LAN submits of one till and `client_uuid`

However the LAN calls, the tasks, the crashes and the restarts are ordered, `lan_jobs` has at
most one row for a till and a `client_uuid`; a call that is about to queue a job, or that waits
for one, holds the id of that row; and a row is there for ever until its report was answered.
So one process queues the job at most once, every call is answered from the one row, and no
final job is lost to Odoo.
-/

namespace DevBridge

variable {E : Executor} {timing : Timing} {w w' : World E} {j j' : Journal}
  {key : ℤ × String} {id : ℤ} {e : JournalEntry}

/-! ### The row of a till and a `client_uuid` -/

/-- The row of a LAN job with its till and its `client_uuid`. -/
structure LanRow (j : Journal) (key : ℤ × String) (id : ℤ) (e : JournalEntry) : Prop where
  neg : id < 0
  row : j.get id = some e
  kasaId : e.job.kasaId = some key.1
  clientUuid : e.job.clientUuid = key.2

/-- The row of `lan_jobs` behind it. -/
lemma LanRow.stored (h : LanRow j key id e) :
    ∃ r, j.lanJobs.get? (-id) = some r ∧ r.entry = e ∧ r.key = some key := by
  have hrow := h.row
  rw [Journal.get_of_lan j h.neg, Option.map_eq_some_iff] at hrow
  obtain ⟨r, hr, rfl⟩ := hrow
  refine ⟨r, hr, rfl, ?_⟩
  rw [LanJob.key, h.kasaId, h.clientUuid]
  rfl

lemma LanRow.of_stored {r : LanJob} (hr : j.lanJobs.get? id = some r) (hkey : r.key = some key) :
    LanRow j key (-id) r.entry := by
  have hpos := AutoTable.pos_of_get? hr
  obtain ⟨kasaId, hkasa, hpair⟩ := Option.map_eq_some_iff.mp hkey
  refine ⟨by omega, ?_, ?_, ?_⟩
  · rw [Journal.get_of_lan j (by omega), neg_neg, hr]
    rfl
  · rw [hkasa, ← hpair]
  · rw [← hpair]

/-- There is one row at most. -/
lemma LanRow.unique {id' : ℤ} {e' : JournalEntry} (h : LanRow j key id e)
    (h' : LanRow j key id' e') : id' = id := by
  obtain ⟨r, hr, -, hkey⟩ := h.stored
  obtain ⟨r', hr', -, hkey'⟩ := h'.stored
  have heq := j.lanJobs.unique _ r _ r' key hr hr' hkey hkey'
  omega

/-- What the look-up finds. -/
lemma LanRow.of_lanJob {r : LanJob} (h : j.lanJob key.1 key.2 = some r) :
    LanRow j key r.jobId r.entry := by
  unfold Journal.lanJob at h
  obtain ⟨⟨k, r'⟩, hhead, rfl⟩ := Option.map_eq_some_iff.mp h
  obtain ⟨hr, hkey⟩ := Table.mem_select.mp (List.mem_of_head? hhead)
  have hrow := LanRow.of_stored hr (by simpa using hkey)
  have hid := j.lanIds k r' hr
  rw [LanJob.jobId, hid, lanJobId]
  exact hrow

/-- It finds a row under its id. -/
lemma Journal.get_of_lanJob {kasaId : ℤ} {clientUuid : String} {r : LanJob}
    (h : j.lanJob kasaId clientUuid = some r) : j.lanJobById r.jobId = some r := by
  unfold Journal.lanJob at h
  obtain ⟨⟨k, r'⟩, hhead, rfl⟩ := Option.map_eq_some_iff.mp h
  obtain ⟨hr, -⟩ := Table.mem_select.mp (List.mem_of_head? hhead)
  have hid : r'.jobId = lanJobId k := j.lanIds k r' hr
  rw [Journal.lanJobById, hid, lanJobId, lanJobId, neg_neg]
  exact hr

/-- The look-up finds the row if there is one. -/
lemma LanRow.lanJob (h : LanRow j key id e) :
    ∃ r, j.lanJob key.1 key.2 = some r ∧ r.jobId = id ∧ r.entry = e := by
  obtain ⟨r, hr, rfl, hkey⟩ := h.stored
  have hmem : (-id, r) ∈ j.lanJobs.table.select fun _ r => r.key == some (key.1, key.2) :=
    Table.mem_select.mpr ⟨hr, by simp [hkey]⟩
  rcases hfound : j.lanJob key.1 key.2 with _ | r'
  · unfold Journal.lanJob at hfound
    rw [Option.map_eq_none_iff, List.head?_eq_none_iff] at hfound
    rw [hfound] at hmem
    cases hmem
  · have hrow := LanRow.of_lanJob hfound
    have hid := h.unique hrow
    have hget := hrow.row
    rw [hid, h.row] at hget
    refine ⟨r', rfl, hid, (Option.some.inj hget).symm⟩

/-- A job is inserted only if the till and the `client_uuid` had no row. -/
lemma LanRow.not_of_insert {request : LanRequest} {now : Time}
    (h : j.insertLanReceived now request.toJob = some (.new id, j')) (e : JournalEntry)
    (id' : ℤ) : ¬ LanRow j request.key id' e := by
  intro hrow
  obtain ⟨r, hr, -, hkey⟩ := hrow.stored
  unfold Journal.insertLanReceived at h
  obtain ⟨kasaId, -, h⟩ := Option.bind_eq_some_iff.mp h
  split at h
  · rename_i rowId t hinsert
    have hsome : j.lanJobs.insert (j.lanRow now request.toJob (j.lanJobs.seq + 1)) ≠
        none := by
      rw [hinsert]
      exact nofun
    exact hsome (AutoTable.insert_none_iff.mpr (AutoTable.indexed_iff.mpr ⟨_, r, hr, hkey⟩))
  · obtain ⟨known, -, heq⟩ := Option.map_eq_some_iff.mp h
    cases heq

/-- The job of a row is the one a call asked for: the very same for a replay, and as it reads back
for the call that stored it. -/
structure LanRequest.RunsAs (read : Number → Number) (request : LanRequest) (replay : Bool)
    (job : DeviceJob) : Prop where
  jobType : job.jobType = request.jobType
  payload : job.payload = if replay then request.payload else request.payload.reread read

/-- The row of a job that was inserted. -/
lemma LanRow.of_insert {request : LanRequest} {now : Time}
    (h : j.insertLanReceived now request.toJob = some (.new id, j')) :
    ∃ e, LanRow j' request.key id e ∧ request.RunsAs j.readFloat false e.job := by
  rcases Journal.get_insertLanReceived h with ⟨id', hid, hneg, -, -, hget⟩ | ⟨⟨k, hk⟩, -⟩
  · cases hid
    have hseq := j.lanJobs.seq_nonneg
    exact ⟨_, ⟨by omega, (hget id).trans (if_pos rfl), rfl, rfl⟩, ⟨rfl, rfl⟩⟩
  · cases hk

/-- A job that was not inserted is known. -/
lemma LanRow.of_known {request : LanRequest} {now : Time} {stored : LanJob}
    (h : j.insertLanReceived now request.toJob = some (.known stored, j')) :
    j.lanJob request.kasaId request.clientUuid = some stored := by
  unfold Journal.insertLanReceived at h
  obtain ⟨kasaId, hkasa, h⟩ := Option.bind_eq_some_iff.mp h
  obtain rfl : request.kasaId = kasaId := Option.some.inj hkasa
  split at h
  · cases h
  · obtain ⟨known, hknown, heq⟩ := Option.map_eq_some_iff.mp h
    cases heq
    exact hknown

/-- A job of a till is inserted or known. -/
lemma LanRow.insert_ne_none {request : LanRequest} {now : Time} :
    j.insertLanReceived now request.toJob ≠ none := by
  intro h
  unfold Journal.insertLanReceived at h
  have hbind := Option.bind_eq_none_iff.mp h request.kasaId rfl
  split at hbind
  · cases hbind
  · rename_i hnone
    have hindexed := (AutoTable.insert_none_iff (t := j.lanJobs)
      (a := j.lanRow now request.toJob (j.lanJobs.seq + 1))).mp hnone
    obtain ⟨k, r, hr, hkey⟩ := (AutoTable.indexed_iff (b := request.key)).mp hindexed
    have hrow : LanRow j request.key (-k) r.entry := LanRow.of_stored hr hkey
    obtain ⟨r', hr', -⟩ := hrow.lanJob
    rw [Option.map_eq_none_iff] at hbind
    exact absurd (hr'.symm.trans hbind) nofun

/-! ### The calls and their rows -/

/-- A row stays while the process runs. -/
lemma JobsEffect.row_stays (h : JobsEffect w w') (hup : w.up = true)
    (he : w.journal.get id = some e) :
    ∃ e', w'.journal.get id = some e' ∧ RowLater e e' := by
  have hlater : RowsLater w.journal w'.journal →
      ∃ e', w'.journal.get id = some e' ∧ RowLater e e' := fun hr => by
    rcases hr id with ⟨h1, -⟩ | ⟨e₁, e', h1, h2, hle⟩
    · rw [h1] at he
      cases he
    · rw [h1] at he
      cases he
      exact ⟨e', h2, hle⟩
  cases h with
  | later hr => exact hlater hr
  | executed _ _ _ hr => exact hlater hr
  | added id' e' hadd =>
    have hne : id ≠ id' := by
      rintro rfl
      rw [hadd.1] at he
      cases he
    exact ⟨e, by rw [hadd.2, if_neg hne, he], RowLater.refl e⟩
  | restarted _ _ _ _ hdown =>
    rw [hup] at hdown
    cases hdown

lemma LanRow.step (h : LanRow w.journal key id e) (heff : JobsEffect w w') (hup : w.up = true) :
    ∃ e', LanRow w'.journal key id e' ∧ e'.job = e.job := by
  obtain ⟨e', he', hlater⟩ := heff.row_stays hup h.row
  exact ⟨e', ⟨h.neg, he', hlater.job ▸ h.kasaId, hlater.job ▸ h.clientUuid⟩, hlater.job⟩

/-- A LAN row comes only from a call that inserts it. -/
lemma LanRow.before (h : LanRow w'.journal key id e) (heff : JobsEffect w w')
    (hnone : ∀ i request job, w.proc.lan i = .insert request →
      w'.proc.lan i ≠ .enqueue request job) :
    ∃ e₀, LanRow w.journal key id e₀ := by
  have hlater : ∀ e₀, w.journal.get id = some e₀ → RowLater e₀ e →
      ∃ e₀, LanRow w.journal key id e₀ := fun e₀ he₀ hlater =>
    ⟨e₀, h.neg, he₀, hlater.job ▸ h.kasaId, hlater.job ▸ h.clientUuid⟩
  have hrows : RowsLater w.journal w'.journal → ∃ e₀, LanRow w.journal key id e₀ := fun hr => by
    rcases hr id with ⟨-, h2⟩ | ⟨e₀, e₁, h1, h2, hle⟩
    · exact absurd (h2.symm.trans h.row) nofun
    · obtain rfl := Option.some.inj (h2.symm.trans h.row)
      exact hlater e₀ h1 hle
  cases heff with
  | later hr => exact hrows hr
  | executed _ _ _ hr => exact hrows hr
  | added id' e' hadd _ _ _ hlan =>
    by_cases hid : id = id'
    · obtain ⟨i, request, job, hpc, hpc'⟩ := hlan (hid ▸ h.neg)
      exact absurd hpc' (hnone i request job hpc)
    · have hrow := h.row
      rw [hadd.2, if_neg hid] at hrow
      exact hlater e hrow (RowLater.refl e)
  | restarted hr =>
    obtain ⟨e₀, he₀, rfl⟩ := hr id e h.row
    exact hlater e₀ he₀ (recoverRow_later _ e₀)

/-- The row of a call: the one of its till and `client_uuid`, with its operation. -/
def CallRow (w : World E) (request : LanRequest) (jobId : ℤ) (replay : Bool) : Prop :=
  ∃ e, LanRow w.journal request.key jobId e ∧ request.RunsAs E.readFloat replay e.job

lemma CallRow.step {request : LanRequest} {replay : Bool} (h : CallRow w request id replay)
    (heff : JobsEffect w w') (hup : w.up = true) : CallRow w' request id replay := by
  obtain ⟨e, hrow, hruns⟩ := h
  obtain ⟨e', hrow', hjob⟩ := hrow.step heff hup
  exact ⟨e', hrow', hjob ▸ hruns⟩

/-- A row stays that of the call as long as it is there. -/
lemma CallRow.kept {request : LanRequest} {replay : Bool} (h : CallRow w request id replay)
    (heff : JobsEffect w w') (hkept : RowKept id w ev w') : CallRow w' request id replay := by
  obtain ⟨e, hrow, hruns⟩ := h
  obtain ⟨e', he'⟩ := Option.ne_none_iff_exists'.mp (hkept (by simp [hrow.row]))
  have hjob := (heff.rowLater hrow.row he').job
  exact ⟨e', ⟨hrow.neg, he', hjob ▸ hrow.kasaId, hjob ▸ hrow.clientUuid⟩, hjob ▸ hruns⟩

/-- The test of a replay. -/
lemma sameOperation_iff {stored : DeviceJob} {request : LanRequest} :
    sameOperation stored request = true ↔
      stored.jobType = request.jobType ∧ stored.payload = request.payload := by
  simp [sameOperation]

/-- What holds of the LAN calls. -/
structure LanInv (w : World E) : Prop where
  enqueue : ∀ i request job, w.proc.lan i = .enqueue request job → CallRow w request job.id false
  wait : ∀ i request jobId replay, w.proc.lan i = .wait request jobId replay →
    CallRow w request jobId replay
  /-- One call is about to queue the job of a till and a `client_uuid`. -/
  one : ∀ i i' request request' job job', w.proc.lan i = .enqueue request job →
    w.proc.lan i' = .enqueue request' job' → request'.key = request.key → i' = i
  /-- No call is under way when the process is down. -/
  down : w.up = false → ∀ i, w.proc.lan i = .idle

namespace LanInv

lemma of_idle (h : ∀ i, w.proc.lan i = .idle) : LanInv w where
  enqueue i request job hpc := by
    rw [h] at hpc
    cases hpc
  wait i request jobId replay hpc := by
    rw [h] at hpc
    cases hpc
  one i i' request request' job job' hpc := by
    rw [h] at hpc
    cases hpc
  down _ := h

/-- One call moves on to a state that is covered, and is not about to queue. -/
lemma of_move (h : LanInv w) (heff : JobsEffect w w') (hup : w.up = true) (hup' : w'.up = true)
    (i : ℕ) (pc : LanPc) (hlan : w'.proc.lan = Function.update w.proc.lan i pc)
    (henqueue : ∀ request job, pc ≠ .enqueue request job)
    (hwait : ∀ request jobId replay, pc = .wait request jobId replay →
      CallRow w request jobId replay) : LanInv w' := by
  have hold : ∀ k, k ≠ i → w'.proc.lan k = w.proc.lan k := fun k hk => by
    rw [hlan, Function.update_of_ne hk]
  have hself : w'.proc.lan i = pc := by rw [hlan, Function.update_self]
  have hne : ∀ k request job, w'.proc.lan k = .enqueue request job → k ≠ i := by
    rintro k request job hpc rfl
    exact henqueue request job (hself.symm.trans hpc)
  refine ⟨fun k request job hpc => ?_, fun k request jobId replay hpc => ?_,
    fun k k' request request' job job' hpc hpc' hkey => ?_, fun hdown => ?_⟩
  · have hk := hne k request job hpc
    exact (h.enqueue k request job (hold k hk ▸ hpc)).step heff hup
  · by_cases hk : k = i
    · subst hk
      exact (hwait request jobId replay (hself.symm.trans hpc)).step heff hup
    · exact (h.wait k request jobId replay (hold k hk ▸ hpc)).step heff hup
  · have hk := hne k request job hpc
    have hk' := hne k' request' job' hpc'
    exact h.one k k' request request' job job' (hold k hk ▸ hpc) (hold k' hk' ▸ hpc') hkey
  · rw [hup'] at hdown
    cases hdown

/-- The calls stay as they are. -/
lemma of_same (h : LanInv w) (heff : JobsEffect w w') (hlan : w'.proc.lan = w.proc.lan)
    (hup : w'.up = w.up) : LanInv w' := by
  by_cases hw : w.up = true
  · refine ⟨fun i request job hpc => ?_, fun i request jobId replay hpc => ?_,
      fun i i' request request' job job' hpc hpc' => ?_, fun hdown => ?_⟩
    · rw [hlan] at hpc
      exact (h.enqueue i request job hpc).step heff hw
    · rw [hlan] at hpc
      exact (h.wait i request jobId replay hpc).step heff hw
    · rw [hlan] at hpc hpc'
      exact h.one i i' request request' job job' hpc hpc'
    · rw [hup, hw] at hdown
      cases hdown
  · exact of_idle fun i => by rw [hlan, h.down (by simpa using hw) i]

/-- A job is journaled: no other call is about to queue one under its till and
`client_uuid`. -/
lemma of_inserted (h : LanInv w) (hup : w.up = true)
    (hread : w.journal.readFloat = E.readFloat) {i : ℕ} {request : LanRequest} {jobId : ℤ}
    (hj : w.journal.insertLanReceived w.clock request.toJob = some (.new jobId, j))
    (heff : JobsEffect w (((w.noteJournaled jobId).withJournal j).withLan i
      (.enqueue request { request.toJob with id := jobId }))) :
    LanInv (((w.noteJournaled jobId).withJournal j).withLan i
      (.enqueue request { request.toJob with id := jobId })) := by
  set w' := ((w.noteJournaled jobId).withJournal j).withLan i
    (.enqueue request { request.toJob with id := jobId }) with hw'
  have hold : ∀ k, k ≠ i → w'.proc.lan k = w.proc.lan k := fun k hk =>
    Function.update_of_ne hk _ _
  have hself : w'.proc.lan i = .enqueue request { request.toJob with id := jobId } :=
    Function.update_self _ _ _
  have hfresh : ∀ k r job, k ≠ i → w'.proc.lan k = .enqueue r job → r.key ≠ request.key := by
    intro k r job hk hpc hkey
    obtain ⟨e, hrow, -⟩ := h.enqueue k r job (hold k hk ▸ hpc)
    exact LanRow.not_of_insert hj e _ (hkey ▸ hrow)
  refine ⟨fun k r job hpc => ?_, fun k r id replay hpc => ?_,
    fun k k' r r' job job' hpc hpc' hkey => ?_, fun hdown => ?_⟩
  · by_cases hk : k = i
    · subst hk
      rw [hself] at hpc
      cases hpc
      obtain ⟨e, hrow, hruns⟩ := LanRow.of_insert hj
      exact ⟨e, hrow, hread ▸ hruns⟩
    · exact (h.enqueue k r job (hold k hk ▸ hpc)).step heff hup
  · have hk : k ≠ i := by
      rintro rfl
      rw [hself] at hpc
      cases hpc
    exact (h.wait k r id replay (hold k hk ▸ hpc)).step heff hup
  · by_cases hk : k = i
    · subst hk
      rw [hself] at hpc
      cases hpc
      by_contra hne
      exact hfresh k' r' job' hne hpc' hkey
    · by_cases hk' : k' = i
      · subst hk'
        rw [hself] at hpc'
        cases hpc'
        exact absurd hkey.symm (hfresh k r job hk hpc)
      · exact h.one k k' r r' job job' (hold k hk ▸ hpc) (hold k' hk' ▸ hpc') hkey
  · have hup' : w'.up = true := hup
    rw [hup'] at hdown
    cases hdown

lemma of_lanMove (h : LanInv w) {i : ℕ} {ev : LanEvent} (hmove : LanMove w i ev w')
    (heff : JobsEffect w w') (hup : w.up = true) (hread : w.journal.readFloat = E.readFloat) :
    LanInv w' := by
  have hanswer : ∀ request answer, JobsEffect w (w.answerLan i request answer) →
      LanInv (w.answerLan i request answer) := fun request answer heff =>
    h.of_move heff hup hup i .idle rfl (fun _ _ h => (nomatch h)) fun _ _ _ h => (nomatch h)
  have hwait : ∀ (v : World E) request jobId replay, v.proc.lan = w.proc.lan → v.up = true →
      CallRow w request jobId replay → JobsEffect w (v.withLan i (.wait request jobId replay)) →
      LanInv (v.withLan i (.wait request jobId replay)) := by
    intro v request jobId replay hlan hv hrow heff
    refine h.of_move heff hup hv i (.wait request jobId replay) ?_ (fun _ _ h => (nomatch h)) ?_
    · rw [← hlan]
      rfl
    · rintro _ _ _ ⟨⟩
      exact hrow
  have hreplayed : ∀ request stored,
      w.journal.lanJob request.kasaId request.clientUuid = some stored →
      JobsEffect w (w.replayed i request stored) → LanInv (w.replayed i request stored) := by
    intro request stored hrow heff
    unfold World.replayed at heff ⊢
    split
    · rename_i hsame
      rw [if_pos hsame] at heff
      have hstored : LanRow w.journal request.key stored.jobId stored.entry :=
        LanRow.of_lanJob hrow
      exact hwait w request stored.jobId true rfl hup
        ⟨_, hstored, (sameOperation_iff.mp hsame).1, (sameOperation_iff.mp hsame).2⟩ heff
    · rename_i hsame
      rw [if_neg hsame] at heff
      exact hanswer request _ heff
  cases hmove with
  | known request stored hpc hrow => exact hreplayed request stored hrow heff
  | raced request stored j hpc hj => exact hreplayed request stored (LanRow.of_known hj) heff
  | admitted request hpc hrow hwhy =>
    exact h.of_move heff hup hup i (.insert request) rfl (fun _ _ h => (nomatch h))
      fun _ _ _ h => (nomatch h)
  | inserted request jobId j hpc hj => exact h.of_inserted hup hread hj heff
  | queued request job q ok hpc hq =>
    exact hwait ((w.push q _).noteQueued request) request job.id false rfl hup
      (h.enqueue i request job hpc) heff
  | noWorker request job sent ok hpc =>
    exact hwait (w.write ok _) request job.id false rfl hup (h.enqueue i request job hpc) heff
  | waiting request jobId replay late job hpc hrow hnow => exact h
  | _ => exact hanswer _ _ heff

end LanInv

lemma lanInv_of_reach {law : Transition.Law (World E) (Event E)}
    (h : (source E timing).Reach law w) : LanInv w := by
  refine h.invariant (P := LanInv) (LanInv.of_idle fun _ => rfl) ?_
  intro a ev b ha ih hstep _
  have heff := (Shape.of_step hstep).jobs
  rcases World.tills_of_step hstep with ⟨i, lev, rfl, hlan⟩ | ⟨rev, rfl, hrep⟩ | ⟨-, rfl⟩ |
    ⟨n, rfl, -, rfl⟩ | ⟨hsame, -⟩
  · have hup : a.up = true := by
      simp only [source, World.step] at hstep
      by_contra hdown
      rw [if_neg hdown] at hstep
      cases hstep
    exact ih.of_lanMove (lanMove_of_step hlan) heff hup (readFloat_of_reach ha)
  · have hsame := (World.talk_of_reporterStep hrep).2
    exact ih.of_same heff (congrArg (fun x => x.2.1) hsame) (congrArg Prod.fst hsame)
  · exact LanInv.of_idle fun _ => rfl
  · exact LanInv.of_idle fun _ => rfl
  · exact ih.of_same heff (congrArg (fun x => x.2.1) hsame) (congrArg Prod.fst hsame)

/-! ### One process queues a job once -/

/-- The process runs before and after the step. -/
def SameProcess : Transition.Law (World E) (Event E) := fun w _ w' => w.up = true ∧ w'.up = true

/-- A job of the till and the `client_uuid` may still be queued by this process: a call is about
to do so, or there is no row yet. -/
def CanQueue (w : World E) (key : ℤ × String) : Prop :=
  (∃ i request job, w.proc.lan i = .enqueue request job ∧ request.key = key) ∨
    ∀ id e, ¬ LanRow w.journal key id e

/-- What a step does to the number of times it was queued. -/
def QueueMove (key : ℤ × String) (w w' : World E) : Prop :=
  w'.log.queued.count key = w.log.queued.count key ∧ (CanQueue w' key → CanQueue w key) ∨
    w'.log.queued.count key = w.log.queued.count key + 1 ∧ CanQueue w key ∧ ¬ CanQueue w' key

namespace QueueMove

/-- No row goes while the process runs. -/
lemma no_row (heff : JobsEffect w w') (hup : w.up = true)
    (h : ∀ id e, ¬ LanRow w'.journal key id e) (id : ℤ) (e : JournalEntry) :
    ¬ LanRow w.journal key id e := by
  intro hrow
  obtain ⟨e', hrow', -⟩ := hrow.step heff hup
  exact h id e' hrow'

/-- No call comes to be about to queue. -/
lemma of_calls (heff : JobsEffect w w') (hup : w.up = true)
    (hqueued : w'.log.queued = w.log.queued)
    (hcalls : ∀ i request job, w'.proc.lan i = .enqueue request job →
      w.proc.lan i = .enqueue request job) : QueueMove key w w' := by
  refine Or.inl ⟨by rw [hqueued], ?_⟩
  rintro (⟨i, request, job, hpc, hkey⟩ | hnone)
  · exact Or.inl ⟨i, request, job, hcalls i request job hpc, hkey⟩
  · exact Or.inr (no_row heff hup hnone)

/-- One call moves on and is not about to queue. -/
lemma of_update (heff : JobsEffect w w') (hup : w.up = true) (i : ℕ) (pc : LanPc)
    (hqueued : w'.log.queued = w.log.queued)
    (hlan : w'.proc.lan = Function.update w.proc.lan i pc)
    (hpc : ∀ request job, pc ≠ .enqueue request job) : QueueMove key w w' := by
  refine of_calls heff hup hqueued fun k request job hk => ?_
  by_cases hne : k = i
  · subst hne
    rw [hlan, Function.update_self] at hk
    exact absurd hk (hpc request job)
  · rwa [hlan, Function.update_of_ne hne] at hk

/-- A job is journaled: there was no row. -/
lemma of_inserted (hup : w.up = true) {i : ℕ} {request : LanRequest} {jobId : ℤ}
    (hj : w.journal.insertLanReceived w.clock request.toJob = some (.new jobId, j))
    (heff : JobsEffect w (((w.noteJournaled jobId).withJournal j).withLan i
      (.enqueue request { request.toJob with id := jobId }))) :
    QueueMove key w (((w.noteJournaled jobId).withJournal j).withLan i
      (.enqueue request { request.toJob with id := jobId })) := by
  refine Or.inl ⟨rfl, fun hcan => ?_⟩
  by_cases hkey : request.key = key
  · exact Or.inr fun id e hrow => LanRow.not_of_insert hj e id (hkey ▸ hrow)
  · rcases hcan with ⟨k, r, job, hk, hkey'⟩ | hnone
    · have hne : k ≠ i := by
        rintro rfl
        have hself := (Function.update_self _ _ _).symm.trans hk
        cases hself
        exact hkey hkey'
      exact Or.inl ⟨k, r, job, (Function.update_of_ne hne _ _).symm.trans hk, hkey'⟩
    · exact Or.inr (no_row heff hup hnone)

/-- A job is queued: its row is there, and no other call is about to queue it. -/
lemma of_queued (h : LanInv w) (hup : w.up = true) {i : ℕ} {request : LanRequest}
    {job : DeviceJob} {q : DeviceQueue} (hpc : w.proc.lan i = .enqueue request job)
    (heff : JobsEffect w (((w.push q (.execute job.id w.instant)).noteQueued request).withLan i
      (.wait request job.id false))) :
    QueueMove key w (((w.push q (.execute job.id w.instant)).noteQueued request).withLan i
      (.wait request job.id false)) := by
  set w' := ((w.push q (.execute job.id w.instant)).noteQueued request).withLan i
    (.wait request job.id false) with hw'
  have hqueued : w'.log.queued = request.key :: w.log.queued := rfl
  have hold : ∀ k r job', w'.proc.lan k = .enqueue r job' →
      k ≠ i ∧ w.proc.lan k = .enqueue r job' := by
    intro k r job' hk
    have hne : k ≠ i := by
      rintro rfl
      have hself := (Function.update_self _ _ _).symm.trans hk
      cases hself
    exact ⟨hne, (Function.update_of_ne hne _ _).symm.trans hk⟩
  by_cases hkey : request.key = key
  · refine Or.inr ⟨?_, Or.inl ⟨i, request, job, hpc, hkey⟩, ?_⟩
    · rw [hqueued, hkey, List.count_cons_self]
    · rintro (⟨k, r, job', hk, hkey'⟩ | hnone)
      · obtain ⟨hne, hpc'⟩ := hold k r job' hk
        exact hne (h.one i k request r job job' hpc hpc' (hkey'.trans hkey.symm))
      · obtain ⟨e, hrow, -⟩ := (h.enqueue i request job hpc).step heff hup
        exact hnone _ e (hkey ▸ hrow)
  · refine Or.inl ⟨by rw [hqueued, List.count_cons_of_ne hkey], ?_⟩
    rintro (⟨k, r, job', hk, hkey'⟩ | hnone)
    · exact Or.inl ⟨k, r, job', (hold k r job' hk).2, hkey'⟩
    · exact Or.inr (no_row heff hup hnone)

lemma of_lanMove (h : LanInv w) {i : ℕ} {ev : LanEvent} (hmove : LanMove w i ev w')
    (heff : JobsEffect w w') (hup : w.up = true) : QueueMove key w w' := by
  have hanswer : ∀ request answer, JobsEffect w (w.answerLan i request answer) →
      QueueMove key w (w.answerLan i request answer) := fun _ _ heff =>
    of_update heff hup i .idle rfl rfl fun _ _ h => (nomatch h)
  have hreplayed : ∀ request stored, JobsEffect w (w.replayed i request stored) →
      QueueMove key w (w.replayed i request stored) := by
    intro request stored heff
    rcases w.replayed_eq i request stored with heq | heq
    · rw [heq] at heff ⊢
      exact of_update heff hup i _ rfl rfl fun _ _ h => (nomatch h)
    · rw [heq] at heff ⊢
      exact hanswer request _ heff
  cases hmove with
  | known request stored hpc hrow => exact hreplayed request stored heff
  | raced request stored j hpc hj => exact hreplayed request stored heff
  | admitted request hpc hrow hwhy =>
    exact of_update heff hup i _ rfl rfl fun _ _ h => (nomatch h)
  | inserted request jobId j hpc hj => exact of_inserted hup hj heff
  | queued request job q ok hpc hq => exact of_queued h hup hpc heff
  | noWorker request job sent ok hpc =>
    exact of_update heff hup i _ rfl rfl fun _ _ h => (nomatch h)
  | waiting request jobId replay late job hpc hrow hnow =>
    exact Or.inl ⟨rfl, fun hcan => hcan⟩
  | _ => exact hanswer _ _ heff

lemma of_step (h : LanInv w) {ev : Event E} (hstep : w.step timing ev = some w')
    (hup : w.up = true) (hup' : w'.up = true) : QueueMove key w w' := by
  have heff := (Shape.of_step hstep).jobs
  have hsame : w'.tills = w.tills → QueueMove key w w' := fun hs => by
    have hlan : w'.proc.lan = w.proc.lan := congrArg (fun x => x.2.1) hs
    have hqueued : w'.log.queued = w.log.queued := congrArg (fun x => x.2.2.1) hs
    exact of_calls heff hup hqueued fun i request job hpc => by rwa [hlan] at hpc
  rcases World.tills_of_step hstep with ⟨i, lev, rfl, hlan⟩ | ⟨rev, rfl, hrep⟩ | ⟨-, rfl⟩ |
    ⟨n, rfl, hdown, rfl⟩ | ⟨hs, -⟩
  · exact of_lanMove h (lanMove_of_step hlan) heff hup
  · exact hsame (World.talk_of_reporterStep hrep).2
  · cases hup'
  · rw [hup] at hdown
    cases hdown
  · exact hsame hs

end QueueMove

/-- In one process the job of a till and a `client_uuid` is queued at most once. -/
lemma queued_once (hw : (source E timing).Reach Transition.free w)
    (hl : (source E timing).Leads SameProcess w w') :
    w'.log.queued.count key ≤ w.log.queued.count key + 1 := by
  have hall : (source E timing).Reach Transition.free w' ∧
      (w'.log.queued.count key = w.log.queued.count key ∨
        w'.log.queued.count key = w.log.queued.count key + 1 ∧ ¬ CanQueue w' key) := by
    induction hl with
    | refl => exact ⟨hw, Or.inl rfl⟩
    | tail _ hm ih =>
      obtain ⟨ev, hstep, hup, hup'⟩ := hm
      obtain ⟨hreach, hcount⟩ := ih
      refine ⟨hreach.move ⟨ev, hstep, trivial⟩, ?_⟩
      have hmove : QueueMove key _ _ :=
        QueueMove.of_step (lanInv_of_reach hreach) hstep hup hup'
      rcases hmove with ⟨hsame, hcan⟩ | ⟨hone, hcan, hnot⟩
      · exact hcount.imp (fun h => hsame.trans h)
          fun h => ⟨hsame.trans h.1, fun h' => h.2 (hcan h')⟩
      · rcases hcount with h | ⟨-, hno⟩
        · exact Or.inr ⟨by rw [hone, h], hnot⟩
        · exact absurd hcan hno
  rcases hall.2 with h | ⟨h, -⟩
  · omega
  · omega

/-! ### The answers -/

/-- An answer that a LAN call may get in a step: the row of the till and the `client_uuid` if it
runs the operation of the call, a conflict if its type or payload is another one, a refusal if
there is no row; the journal is as before.  The other two answers come only when the journal
fails. -/
def LanAnswer.Fits (w : World E) (ev : LanEvent) (w' : World E) (request : LanRequest) :
    LanAnswer → Prop
  | .job r replay => w.journal.lanJob request.kasaId request.clientUuid = some r ∧
      request.RunsAs E.readFloat replay r.entry.job ∧ w'.journal = w.journal
  | .conflict r => w.journal.lanJob request.kasaId request.clientUuid = some r ∧
      ¬ (r.entry.job.jobType = request.jobType ∧ r.entry.job.payload = request.payload) ∧
      w'.journal = w.journal
  | .refused code text => w.journal.lanJob request.kasaId request.clientUuid = none ∧
      lanRefusal E request.toJob = some (code, text) ∧ w'.journal = w.journal
  | .bridgeError => (ev = .submit request false ∨ ev = .insert false) ∧ w'.journal = w.journal
  | .stateUnknown => (∃ late, ev = .look false late) ∧ w'.journal = w.journal

/-- The row that a waiting call reads is the one of its till and `client_uuid`. -/
lemma CallRow.stored {request : LanRequest} {replay : Bool} (h : CallRow w request id replay) :
    ∃ r, w.journal.lanJob request.kasaId request.clientUuid = some r ∧ r.jobId = id ∧
      w.journal.lanJobById id = some r ∧ request.RunsAs E.readFloat replay r.entry.job := by
  obtain ⟨e, hrow, hruns⟩ := h
  obtain ⟨r, hr, rfl, rfl⟩ := hrow.lanJob
  exact ⟨r, hr, rfl, Journal.get_of_lanJob hr, hruns⟩

lemma answers_fit (h : LanInv w) {i : ℕ} {ev : LanEvent} (hmove : LanMove w i ev w')
    {request : LanRequest} {answer : LanAnswer}
    (hanswers : w'.log.answers = (request, answer) :: w.log.answers) :
    answer.Fits w ev w' request := by
  have hnone : w'.log.answers ≠ w.log.answers := fun heq => by
    have hlength := congrArg List.length (heq.symm.trans hanswers)
    simp at hlength
  have hanswer : ∀ r a, w' = w.answerLan i r a → r = request ∧ a = answer := by
    rintro r a rfl
    obtain ⟨hhead, -⟩ := List.cons.inj hanswers
    exact ⟨congrArg Prod.fst hhead, congrArg Prod.snd hhead⟩
  have hreplayed : ∀ r stored, w' = w.replayed i r stored →
      w.journal.lanJob r.kasaId r.clientUuid = some stored → answer.Fits w ev w' request := by
    intro r stored hw' hrow
    unfold World.replayed at hw'
    split at hw'
    · exact absurd (by rw [hw']; rfl) hnone
    · rename_i hsame
      obtain ⟨rfl, rfl⟩ := hanswer r _ hw'
      exact ⟨hrow, fun heq => hsame (sameOperation_iff.mpr heq), by rw [hw']; rfl⟩
  cases hmove with
  | known r stored hpc hrow => exact hreplayed r stored rfl hrow
  | raced r stored j hpc hj => exact hreplayed r stored rfl (LanRow.of_known hj)
  | unread r hpc =>
    obtain ⟨rfl, rfl⟩ := hanswer r _ rfl
    exact ⟨Or.inl rfl, rfl⟩
  | refused r code text hpc hrow hwhy =>
    obtain ⟨rfl, rfl⟩ := hanswer r _ rfl
    exact ⟨hrow, hwhy, rfl⟩
  | unwritten r hpc =>
    obtain ⟨rfl, rfl⟩ := hanswer r _ rfl
    exact ⟨Or.inr rfl, rfl⟩
  | neither r hpc hj => exact absurd hj LanRow.insert_ne_none
  | unreadable r jobId replay late hpc =>
    obtain ⟨rfl, rfl⟩ := hanswer r _ rfl
    exact ⟨⟨late, rfl⟩, rfl⟩
  | vanished r jobId replay late hpc hrow =>
    obtain ⟨stored, -, -, hread, -⟩ := (h.wait i r jobId replay hpc).stored
    exact absurd (hread.symm.trans hrow) nofun
  | settled r jobId replay late job hpc hrow hnow =>
    obtain ⟨rfl, rfl⟩ := hanswer r _ rfl
    obtain ⟨stored, hstored, -, hread, hruns⟩ := (h.wait i r jobId replay hpc).stored
    obtain rfl := Option.some.inj (hread.symm.trans hrow)
    exact ⟨hstored, hruns, rfl⟩
  | admitted | inserted | queued | waiting => exact absurd rfl hnone
  | noWorker => exact absurd rfl hnone

/-! ### The reports -/

/-- What holds of the reports: one that is journaled as answered was answered. -/
structure ReportInv (w : World E) : Prop where
  marked : ∀ job odooJobId note rest, w.proc.reporter = .mark job odooJobId note rest →
    job.jobId ∈ w.log.reported
  acked : ∀ id e, id < 0 → w.journal.get id = some e → e.state.isFinal = true →
    e.acked = true → id ∈ w.log.reported

/-- What a step does to the reporter. -/
structure ReportMove (w w' : World E) : Prop where
  grows : w.log.reported ⊆ w'.log.reported
  marked : ∀ job odooJobId note rest, w'.proc.reporter = .mark job odooJobId note rest →
    w.proc.reporter = .mark job odooJobId note rest ∨ job.jobId ∈ w'.log.reported

namespace ReportMove

lemma of_same (h : w'.reports = w.reports) : ReportMove w w' := by
  have hreporter : w'.proc.reporter = w.proc.reporter := congrArg Prod.fst h
  have hreported : w'.log.reported = w.log.reported := congrArg Prod.snd h
  refine ⟨by rw [hreported]; exact fun _ h => h, fun job o note rest hpc => Or.inl ?_⟩
  rw [← hreporter, hpc]

/-- The reporter has no answer to journal. -/
lemma of_idle (hreported : w'.log.reported = w.log.reported)
    (h : ∀ job odooJobId note rest, w'.proc.reporter ≠ .mark job odooJobId note rest) :
    ReportMove w w' :=
  ⟨by rw [hreported]; exact fun _ h => h, fun job o note rest hpc =>
    absurd hpc (h job o note rest)⟩

/-- A report was answered. -/
lemma of_answered (job : LanJob) (odooJobId : Option ℤ) (note : String) (rest : List LanJob) :
    ReportMove w ((w.noteReported job.jobId).withReporter (.mark job odooJobId note rest)) := by
  refine ⟨fun id hid => List.mem_cons_of_mem _ hid, ?_⟩
  rintro _ _ _ _ ⟨⟩
  exact Or.inr List.mem_cons_self

lemma of_reporterStep {e : ReporterEvent} (h : w.reporterStep e = some w') :
    ReportMove w w' := by
  unfold World.reporterStep at h
  split at h
  · cases h
    exact of_idle rfl fun _ _ _ _ h => (nomatch h)
  · cases h
    exact of_idle rfl fun _ _ _ _ h => (nomatch h)
  · split at h
    · cases h
      exact of_idle rfl fun _ _ _ _ h => (nomatch h)
    · cases h
      exact of_idle rfl fun _ _ _ _ h => (nomatch h)
  · cases h
    exact of_answered _ _ _ _
  · split at h
    · cases h
      exact of_answered _ _ _ _
    · split at h
      · cases h
        exact of_idle rfl fun _ _ _ _ h => (nomatch h)
      · cases h
        exact of_idle rfl fun _ _ _ _ h => (nomatch h)
  · split at h
    · cases h
      exact of_idle rfl fun _ _ _ _ h => (nomatch h)
    · cases h
      exact of_idle rfl fun _ _ _ _ h => (nomatch h)
  · cases h

lemma of_step {ev : Event E} (h : w.step timing ev = some w') : ReportMove w w' := by
  rcases World.tills_of_step h with ⟨i, lev, rfl, hlan⟩ | ⟨rev, rfl, hrep⟩ | ⟨-, rfl⟩ |
    ⟨n, rfl, hdown, rfl⟩ | ⟨-, hs⟩
  · exact of_same (World.talk_of_lanStep hlan).2
  · exact of_reporterStep hrep
  · exact of_idle rfl fun _ _ _ _ h => (nomatch h)
  · exact of_idle rfl fun _ _ _ _ h => (nomatch h)
  · exact of_same hs

end ReportMove

lemma reportInv_of_reach {law : Transition.Law (World E) (Event E)}
    (h : (source E timing).Reach law w) : ReportInv w := by
  refine h.invariant (P := ReportInv) ?_ ?_
  · refine ⟨fun _ _ _ _ h => (nomatch h), fun id e _ he => ?_⟩
    rw [show (source E timing).init.journal = Journal.empty E.readFloat from rfl,
      Journal.get_empty] at he
    cases he
  · intro a ev b _ ih hstep _
    have hmove := ReportMove.of_step hstep
    refine ⟨fun job o note rest hpc => ?_, fun id e hid he hf hacked => ?_⟩
    · rcases hmove.marked job o note rest hpc with hold | hnew
      · exact hmove.grows (ih.marked job o note rest hold)
      · exact hnew
    · rcases (Shape.of_step hstep).ackedBefore with hb | ⟨ack, note, rest, -, -, hj⟩ |
        ⟨job, odooJobId, note, rest, hpc, hj⟩
      · obtain ⟨e₀, he₀, hf₀, ha₀⟩ := hb id e he hf hacked
        exact hmove.grows (ih.acked id e₀ hid he₀ hf₀ ha₀)
      · -- an ack is about a job of Odoo
        rw [hj, Journal.get_updateOdoo, Option.map_eq_some_iff] at he
        obtain ⟨e₀, he₀, heq⟩ := he
        rw [if_neg (by omega)] at heq
        subst heq
        exact hmove.grows (ih.acked id e₀ hid he₀ hf hacked)
      · rw [hj, Journal.get_markLanReported, Option.map_eq_some_iff] at he
        obtain ⟨e₀, he₀, heq⟩ := he
        by_cases hrow : id = job.jobId
        · rw [hrow]
          exact hmove.grows (ih.marked job odooJobId note rest hpc)
        · rw [if_neg (by tauto)] at heq
          subst heq
          exact hmove.grows (ih.acked id e₀ hid he₀ hf hacked)

lemma recoverRow_of_final {now : Time} (hf : e.state.isFinal = true) : recoverRow now e = e := by
  unfold recoverRow
  split
  · rename_i hs
    rcases hs with hs | hs <;> simp [hs] at hf
  · rfl

/-- A final row stays until its report was answered. -/
lemma final_kept (h : ReportInv w) (hshape : Shape timing w ev w') (hid : id < 0)
    (he : w.journal.get id = some e) (hf : e.state.isFinal = true) :
    (∃ e', w'.journal.get id = some e' ∧ e'.verdict = e.verdict) ∨ id ∈ w.log.reported := by
  rcases hshape.row_kept he with ⟨e', he', hlater⟩ | ⟨n, rfl⟩
  · exact Or.inl ⟨e', he', hlater.verdict hf⟩
  · have hrec : (w.journal.recoverAfterRestart w.clock).get id = some e := by
      rw [Journal.get_recoverAfterRestart, he]
      exact congrArg some (recoverRow_of_final hf)
    rcases Journal.prune_pruned (w.journal.recoverAfterRestart w.clock) w.clock n id with
      hk | ⟨-, e₁, he₁, hp⟩
    · exact Or.inl ⟨e, hk.trans hrec, rfl⟩
    · obtain rfl := Option.some.inj (hrec.symm.trans he₁)
      simp only [pruned, Bool.and_eq_true] at hp
      exact Or.inr (h.acked id e hid he hf hp.1.1.1)

/-- A final LAN job is owed to Odoo until a report of it was answered. -/
lemma report_owed (hw : (source E timing).Reach Transition.free w)
    (hl : (source E timing).Leads Transition.free w w') (hid : id < 0)
    (he : w.journal.get id = some e) (hf : e.state.isFinal = true) :
    (∃ r ∈ w'.journal.owedLanReports, r.jobId = id ∧ r.entry.verdict = e.verdict) ∨
      id ∈ w'.log.reported := by
  have hall : (∃ e', w'.journal.get id = some e' ∧ e'.verdict = e.verdict) ∨
      id ∈ w'.log.reported := by
    refine hl.keeps hw (P := fun v => (∃ e', v.journal.get id = some e' ∧
      e'.verdict = e.verdict) ∨ id ∈ v.log.reported) (Or.inl ⟨e, he, rfl⟩) ?_
    intro a ev b ha ih hstep _
    have hgrows := (ReportMove.of_step hstep).grows
    rcases ih with ⟨e', he', hverdict⟩ | hreported
    · have hstate : e'.state = e.state := congrArg Prod.fst hverdict
      rcases final_kept (reportInv_of_reach ha) (Shape.of_step hstep) hid he'
        (by rw [hstate]; exact hf) with ⟨e₁, he₁, hv⟩ | hreported
      · exact Or.inl ⟨e₁, he₁, hv.trans hverdict⟩
      · exact Or.inr (hgrows hreported)
    · exact Or.inr (hgrows hreported)
  rcases hall with ⟨e', he', hverdict⟩ | hreported
  · have hfinal : e'.state.isFinal = true := by
      rw [show e'.state = e.state from congrArg Prod.fst hverdict]
      exact hf
    by_cases hacked : e'.acked = true
    · exact Or.inr ((reportInv_of_reach (hw.leads hl)).acked id e' hid he' hfinal hacked)
    · rw [Journal.get_of_lan _ hid, Option.map_eq_some_iff] at he'
      obtain ⟨r, hr, rfl⟩ := he'
      have hrid := w'.journal.lanIds _ r hr
      refine Or.inl ⟨r, ?_, ?_, hverdict⟩
      · refine List.mem_map.mpr ⟨(-id, r), Table.mem_select.mpr ⟨hr, ?_⟩, rfl⟩
        simp [LanJob.state, LanJob.reported, hfinal, hacked]
      · rw [LanJob.jobId, hrid, lanJobId, neg_neg]
  · exact Or.inr hreported

/-! ### Submits -/

/-- The step in which a call meets a row of its `client_uuid`: when the request arrives, and when
it comes to be journaled. -/
def LanEvent.Meets (w : World E) (i : ℕ) (request : LanRequest) : LanEvent → Prop
  | .submit request' ok => request' = request ∧ ok = true
  | .insert ok => w.proc.lan i = .insert request ∧ ok = true
  | _ => False

/-- What holds of the LAN submits of a till and a `client_uuid` in a state of a run. -/
structure LanIdempotent (timing : Timing) (w : World E) (key : ℤ × String) : Prop where
  /-- The journal has at most one row. -/
  oneRow : ∀ id r id' r', w.journal.lanJobs.get? id = some r →
    w.journal.lanJobs.get? id' = some r' → r.key = some key → r'.key = some key → id = id'
  /-- From here the same process queues it at most once. -/
  queuedOnce : ∀ w', (source E timing).Leads SameProcess w w' →
    w'.log.queued.count key ≤ w.log.queued.count key + 1
  /-- A call is answered as its request and the row say. -/
  answered : ∀ ev w', (source E timing).step w ev = some w' → ∀ request answer,
    w'.log.answers = (request, answer) :: w.log.answers →
      ∃ i lev, ev = .lan i lev ∧ answer.Fits w lev w' request
  /-- A submit that meets the row waits for it if it has the type and the payload of the row, and
  is a conflict at once if it has not. -/
  submitted : ∀ i ev request w' r, request.key = key → ev.Meets w i request →
    (source E timing).step w (.lan i ev) = some w' → w.journal.lanJob key.1 key.2 = some r →
      if r.entry.job.jobType = request.jobType ∧ r.entry.job.payload = request.payload then
        w'.proc.lan i = .wait request r.jobId true
      else w'.log.answers = (request, .conflict r) :: w.log.answers
  /-- A waiting call gets the row with its operation once it is settled. -/
  waiting : ∀ i request jobId replay, request.key = key →
    w.proc.lan i = .wait request jobId replay →
      ∃ r, w.journal.lanJob key.1 key.2 = some r ∧ r.jobId = jobId ∧
        request.RunsAs E.readFloat replay r.entry.job ∧
        ∀ late, answerNow r.state late = true →
          ∃ w', (source E timing).step w (.lan i (.look true late)) = some w' ∧
            w'.log.answers = (request, .job r replay) :: w.log.answers
  /-- A final job is owed to Odoo until a report of it was answered. -/
  reported : ∀ w', (source E timing).Leads Transition.free w w' → ∀ id r,
    w.journal.lanJobs.get? id = some r → r.key = some key → r.state.isFinal = true →
      (∃ r' ∈ w'.journal.owedLanReports, r'.jobId = r.jobId ∧
        r'.entry.verdict = r.entry.verdict) ∨ r.jobId ∈ w'.log.reported

/-- The steps of the calls, if the process runs. -/
lemma World.step_lan (timing : Timing) (hup : w.up = true) (i : ℕ) (ev : LanEvent) :
    w.step timing (.lan i ev) = w.lanStep i ev := by
  simp [World.step, hup]

lemma World.lanStep_of_step {i : ℕ} {ev : LanEvent}
    (h : (source E timing).step w (.lan i ev) = some w') : w.lanStep i ev = some w' := by
  simp only [source, World.step] at h
  split at h
  · exact h
  · cases h

/-- A call that is under way is one of a running process. -/
lemma LanInv.up (h : LanInv w) {i : ℕ} (hi : w.proc.lan i ≠ .idle) : w.up = true := by
  by_contra hdown
  exact hi (h.down (by simpa using hdown) i)

lemma waiting_answered (h : LanInv w) {i : ℕ} {request : LanRequest} {jobId : ℤ}
    {replay : Bool} (hpc : w.proc.lan i = .wait request jobId replay) :
    ∃ r, w.journal.lanJob request.kasaId request.clientUuid = some r ∧ r.jobId = jobId ∧
      request.RunsAs E.readFloat replay r.entry.job ∧
      ∀ late, answerNow r.state late = true →
        ∃ w', (source E timing).step w (.lan i (.look true late)) = some w' ∧
          w'.log.answers = (request, .job r replay) :: w.log.answers := by
  obtain ⟨r, hr, hid, hread, hruns⟩ := (h.wait i request jobId replay hpc).stored
  have hup := h.up (i := i) (by rw [hpc]; exact nofun)
  refine ⟨r, hr, hid, hruns, fun late hnow => ⟨w.answerLan i request (.job r replay), ?_, rfl⟩⟩
  have hlan : w.lanStep i (.look true late) = some (w.answerLan i request (.job r replay)) := by
    simp [World.lanStep, hpc, hread, hnow]
  exact (World.step_lan timing hup i _).trans hlan

/-- A call that meets a row compares it with its request. -/
lemma lanStep_meets {i : ℕ} {ev : LanEvent} {request : LanRequest} {r : LanJob}
    (hmeets : ev.Meets w i request) (hstep : w.lanStep i ev = some w')
    (hr : w.journal.lanJob request.kasaId request.clientUuid = some r) :
    w' = w.replayed i request r := by
  have hrow : LanRow w.journal request.key r.jobId r.entry := LanRow.of_lanJob hr
  cases lanMove_of_step hstep with
  | known request' stored hpc hstored =>
    obtain ⟨rfl, -⟩ := hmeets
    rw [Option.some.inj (hr.symm.trans hstored)]
  | raced request' stored j hpc hj =>
    obtain ⟨hpc', -⟩ := hmeets
    obtain rfl := LanPc.insert.inj (hpc'.symm.trans hpc)
    rw [Option.some.inj (hr.symm.trans (LanRow.of_known hj))]
  | inserted request' jobId j hpc hj =>
    obtain ⟨hpc', -⟩ := hmeets
    obtain rfl := LanPc.insert.inj (hpc'.symm.trans hpc)
    exact absurd hrow (LanRow.not_of_insert hj _ _)
  | neither request' hpc hj => exact absurd hj LanRow.insert_ne_none
  | refused request' code text hpc hnone | admitted request' hpc hnone =>
    obtain ⟨rfl, -⟩ := hmeets
    rw [hnone] at hr
    cases hr
  | unread request' hpc | unwritten request' hpc =>
    obtain ⟨-, hok⟩ := hmeets
    cases hok
  | _ => exact hmeets.elim

/-- What comes of a request beside a row. -/
lemma replayed_spec (w : World E) (i : ℕ) (request : LanRequest) (r : LanJob) :
    if r.entry.job.jobType = request.jobType ∧ r.entry.job.payload = request.payload then
      (w.replayed i request r).proc.lan i = .wait request r.jobId true
    else (w.replayed i request r).log.answers = (request, .conflict r) :: w.log.answers := by
  unfold World.replayed
  by_cases hsame : r.entry.job.jobType = request.jobType ∧ r.entry.job.payload = request.payload
  · rw [if_pos hsame, if_pos (sameOperation_iff.mpr hsame)]
    exact Function.update_self _ _ _
  · rw [if_neg hsame, if_neg fun h => hsame (sameOperation_iff.mp h)]
    rfl

/-! ### The stored payload -/

/-- A step of a call leaves the others as they are. -/
lemma LanMove.others {i k : ℕ} {ev : LanEvent} (h : LanMove w i ev w') (hk : k ≠ i) :
    w'.proc.lan k = w.proc.lan k := by
  cases h with
  | known request stored | raced request stored =>
    rcases w.replayed_eq i request stored with heq | heq <;> rw [heq] <;>
      exact Function.update_of_ne hk _ _
  | waiting => rfl
  | _ => exact Function.update_of_ne hk _ _

/-- Only finitely many calls are under way. -/
lemma idle_of_reach {law : Transition.Law (World E) (Event E)}
    (h : (source E timing).Reach law w) : ∃ n, ∀ i, n ≤ i → w.proc.lan i = .idle := by
  refine h.invariant (P := fun w => ∃ n, ∀ i, n ≤ i → w.proc.lan i = .idle) ⟨0, fun _ _ => rfl⟩ ?_
  intro a ev b _ ih hstep _
  obtain ⟨n, hidle⟩ := ih
  rcases World.tills_of_step hstep with ⟨i, lev, rfl, hlan⟩ | ⟨rev, rfl, hrep⟩ | ⟨-, rfl⟩ |
    ⟨m, rfl, -, rfl⟩ | ⟨hsame, -⟩
  · refine ⟨max n (i + 1), fun k hk => ?_⟩
    rw [(lanMove_of_step hlan).others (by omega)]
    exact hidle k (by omega)
  · have hsame := (World.talk_of_reporterStep hrep).2
    exact ⟨n, fun k hk => (congrFun (congrArg (fun x => x.2.1) hsame) k).trans (hidle k hk)⟩
  · exact ⟨0, fun _ _ => rfl⟩
  · exact ⟨0, fun _ _ => rfl⟩
  · exact ⟨n, fun k hk => (congrFun (congrArg (fun x => x.2.1) hsame) k).trans (hidle k hk)⟩

/-- A submit of the journaled request's `client_uuid` is a replay if it has the type and the
payload of that request, and a conflict if it has not. -/
def AnsweredBy (timing : Timing) (request₀ : LanRequest) (w : World E) : Prop :=
  ∀ i ev request w' r, request.key = request₀.key → ev.Meets w i request →
    (source E timing).step w (.lan i ev) = some w' →
    w.journal.lanJob request.kasaId request.clientUuid = some r →
      if request.jobType = request₀.jobType ∧ request.payload = request₀.payload then
        w'.proc.lan i = .wait request r.jobId true
      else w'.log.answers = (request, .conflict r) :: w.log.answers

/-- While the row holds the journaled request as it is, every submit is answered by it. -/
lemma CallRow.answeredBy {request₀ : LanRequest} (h : CallRow w request₀ id false)
    (hsame : request₀.payload.reread E.readFloat = request₀.payload) :
    AnsweredBy timing request₀ w := by
  intro i ev request w' r hkey hmeets hstep hr
  obtain ⟨r₀, hr₀, -, -, hruns⟩ := h.stored
  obtain ⟨hkasa, huuid⟩ := Prod.mk.inj hkey
  obtain rfl : r₀ = r := Option.some.inj (hr₀.symm.trans (by rw [← hr, hkasa, huuid]))
  obtain rfl := lanStep_meets hmeets (World.lanStep_of_step hstep) hr
  have hpayload : r₀.entry.job.payload = request₀.payload := hruns.payload.trans hsame
  have hspec := replayed_spec w i request r₀
  rw [hruns.jobType, hpayload] at hspec
  by_cases hop : request.jobType = request₀.jobType ∧ request.payload = request₀.payload
  · rw [if_pos hop]
    rwa [if_pos ⟨hop.1.symm, hop.2.symm⟩] at hspec
  · rw [if_neg hop]
    rwa [if_neg fun h => hop ⟨h.1.symm, h.2.symm⟩] at hspec

/-- The same request once more is a replay only if its payload reads back as it was written. -/
lemma CallRow.reads_back {request₀ : LanRequest} (h : CallRow w request₀ id false)
    (hup : w.up = true) (hidle : ∃ i, w.proc.lan i = .idle)
    (hanswered : AnsweredBy timing request₀ w) :
    request₀.payload.reread E.readFloat = request₀.payload := by
  obtain ⟨i, hi⟩ := hidle
  obtain ⟨r, hr, -, -, hruns⟩ := h.stored
  have hlan : w.lanStep i (.submit request₀ true) = some (w.replayed i request₀ r) := by
    simp [World.lanStep, hi, hr]
  have hwait := hanswered i (.submit request₀ true) request₀ _ r rfl ⟨rfl, rfl⟩
    ((World.step_lan timing hup i _).trans hlan) hr
  rw [if_pos ⟨rfl, rfl⟩] at hwait
  unfold World.replayed at hwait
  split at hwait
  · rename_i hsame
    exact hruns.payload.symm.trans (sameOperation_iff.mp hsame).2
  · -- a conflict does not wait
    exact absurd ((Function.update_self _ _ _).symm.trans hwait) nofun

/-- The submits after one that was journaled, as long as its row is there. -/
lemma answeredBy_iff (h : (source E timing).Reach Transition.free w) {i : ℕ}
    {request : LanRequest} {job : DeviceJob}
    (hstep : (source E timing).step w (.lan i (.insert true)) = some w')
    (hnew : w'.proc.lan i = .enqueue request job) :
    (∀ w₁, (source E timing).Leads (RowKept job.id) w' w₁ → AnsweredBy timing request w₁) ↔
      request.payload.reread E.readFloat = request.payload := by
  have hreach : (source E timing).Reach Transition.free w' := h.move ⟨_, hstep, trivial⟩
  have hinv := lanInv_of_reach hreach
  have hrow : CallRow w' request job.id false := hinv.enqueue i request job hnew
  constructor
  · intro hall
    obtain ⟨n, hidle⟩ := idle_of_reach hreach
    exact hrow.reads_back (hinv.up (i := i) (by rw [hnew]; exact nofun)) ⟨n, hidle n le_rfl⟩
      (hall w' Relation.ReflTransGen.refl)
  · intro hsame w₁ hl
    have hrow₁ : CallRow w₁ request job.id false := by
      induction hl with
      | refl => exact hrow
      | tail _ hm ih =>
        obtain ⟨ev, hstep, hkept⟩ := hm
        exact ih.kept (Shape.of_step hstep).jobs hkept
    exact hrow₁.answeredBy hsame

/-- A drawer is to be opened. -/
def openDrawer (clientUuid : String) (reason : String) : LanRequest :=
  ⟨1, clientUuid, "fiscal.open_drawer", .obj [("reason", .str reason)], none⟩

/-- Two submits of one operation are looked up, and one of them is journaled. -/
def runUntilJournaled : List (Event Executor.prompt) :=
  [.start 4, .lan 0 (.submit (openDrawer "a" "change") true),
    .lan 1 (.submit (openDrawer "a" "change") true)]

/-- The other one races in and a third one is of another operation; the job is done, answered
twice and reported. -/
def runWithReplays : List (Event Executor.prompt) :=
  let q : DeviceQueue := ⟨.fiscal, ""⟩
  runUntilJournaled ++ [.lan 1 (.insert true),
    .lan 0 (.insert true), .lan 2 (.submit (openDrawer "a" "float") true),
    .lan 1 (.enqueue true true), .worker q (.take true), .worker q (.start true),
    .worker q (.join true), .lan 0 (.look true false), .lan 1 (.look true false),
    .reporter .begin, .reporter .send, .reporter (.accepted (some 7) true),
    .reporter (.mark true)]

/-- A double as the JSON library reads it from a text: the digits over their power of ten, each
rounded. -/
def digitsOver (digits : ℤ) (places : ℕ) : ℚ :=
  F64.div (F64.ofInt digits) (F64.round (10 ^ places))

/-- The double of the text 8.540024568589683e-08, which prints as another text. -/
def scale : Number := .float (digitsOver 8540024568589683 23) "8.540024568589684e-8"

/-- The double of the text that `scale` prints as. -/
def scaleReread : Number := .float (digitsOver 8540024568589684 23) "8.540024568589685e-8"

/-- An executor that does every job, beside the library that reads so. -/
def promptReading : Executor :=
  { Executor.prompt with readFloat := fun n => if n = scale then scaleReread else n }

/-- A sale to be printed with an option of Portos. -/
def scaledSale : LanRequest where
  kasaId := 1
  clientUuid := "a"
  jobType := "fiscal.cash_register"
  payload := .obj [("data", .obj [("cashRegisterCode", .str "88812345678900001"),
      ("items", .arr [.obj [("name", .str "Voda"), ("price", .ofInt 1),
        ("quantity", .obj [("amount", .ofInt 1), ("unit", .str "ks")]), ("type", .str "positive"),
        ("unitPrice", .ofInt 1), ("vatRate", .null)]])]),
    ("print", .obj [("options", .obj [("scale", .num scale)]), ("printerName", .str "pos")])]
  posOrderId := none

end DevBridge

import DevBridge.Server.Copies

/-!
# A job is streamed once per queueing

The loop looks a job up before it sends it, and waits for room in the stream in between.  If no
report ends the job meanwhile, it is sent while it is in progress; and with one copy of its id
it is sent once.
-/

namespace DevBridge

namespace Server

open Transition (free)

variable {cfg : JobsConfig} {d : StoredData} {w w' : ServerWorld} {f f' : Flow}
  {e : ServerStep} {id : JobId} {machineId : String} {c : ConnId}

/-! ### A job that is about to be sent -/

/-- Only a report that ends a job takes it out of progress. -/
lemma InProgress.move (h : InProgress f.jobs id) (hnext : id < f.nextJob)
    (hm : Flow.Move cfg f e f') (hends : ¬ e.ends id) : InProgress f'.jobs id := by
  cases hm
  case pushed job row _ _ =>
    intro row' hrow'
    rw [Flow.pushed_jobs, JobTable.insertJob, Table.get?_insert_of_ne _ _ hnext.ne] at hrow'
    exact h row' hrow'
  case requeued => exact h.update fun _ _ _ _ => rfl
  case reopened => exact h.update fun _ _ _ _ => rfl
  case leftFailed => exact h.update fun _ _ _ _ => rfl
  case wrote jobs _ hwrote => exact hwrote id h hends
  case routed => simpa [InProgress] using h
  case drained => simpa [InProgress] using h
  all_goals exact h

/-- The loop of the connection has looked the job up and not yet sent it. -/
def ServerWorld.Sending (w : ServerWorld) (c : ConnId) (id : JobId) : Prop :=
  ∃ k retryCount, w.conns c = some k ∧ k.phase = .sending id retryCount

lemma sending_setConn {c' : ConnId} {k : Connection} (h : (w.setConn c' k).Sending c id) :
    (c = c' ∧ ∃ retryCount, k.phase = .sending id retryCount) ∨ w.Sending c id := by
  obtain ⟨k', retryCount, hk', hphase⟩ := h
  change Function.update w.conns c' (some k) c = some k' at hk'
  by_cases hc : c = c'
  · subst hc
    rw [Function.update_self] at hk'
    obtain rfl := Option.some.inj hk'
    exact Or.inl ⟨rfl, retryCount, hphase⟩
  · rw [Function.update_of_ne hc] at hk'
    exact Or.inr ⟨k', retryCount, hk', hphase⟩

lemma sending_deliverTo {ids : List JobId} (h : (w.deliverTo machineId ids).Sending c id) :
    w.Sending c id := by
  unfold ServerWorld.deliverTo ServerWorld.deliver at h
  split at h
  · split at h
    · rename_i k hk
      split at h
      · exact h
      · rcases sending_setConn h with ⟨rfl, retryCount, hphase⟩ | h
        · exact ⟨k, retryCount, hk, hphase⟩
        · exact h
    · exact h
  · exact h

lemma sending_setPhase {c' : ConnId} {k : Connection} {phase : Phase}
    (h : (w.setPhase c' k phase).Sending c id) :
    (∃ retryCount, phase = .sending id retryCount) ∨ w.Sending c id :=
  (sending_setConn h).imp_left And.right

/-- Connections that stay as they are. -/
lemma Sending.congr (hconns : w'.conns = w.conns) (h : w'.Sending c id) : w.Sending c id := by
  unfold ServerWorld.Sending at h ⊢
  rwa [hconns] at h

lemma conns_requeue {rest : List (JobId × ℕ)} {id' : JobId} {errorDetail : String} :
    (w.requeue id' errorDetail rest).conns = w.conns := by
  unfold ServerWorld.requeue ServerWorld.goOn
  split
  · rfl
  · split <;> rfl

lemma sending_runTask {task : Task} (h : (w.runTask cfg task).Sending c id) :
    w.Sending c id := by
  cases task with
  | checkPairing machineId =>
    refine Sending.congr ?_ h
    simp only [ServerWorld.runTask, ServerWorld.checkPairing]
    split <;> rfl
  | register machineId =>
    obtain ⟨k, retryCount, hk, hphase⟩ := h
    change Function.update w.conns w.nextConn _ c = some k at hk
    by_cases hc : c = w.nextConn
    · subst hc
      rw [Function.update_self] at hk
      obtain rfl := Option.some.inj hk
      cases hphase
    · rw [Function.update_of_ne hc] at hk
      exact ⟨k, retryCount, hk, hphase⟩
  | route id' target rest =>
    have hgoOn : ∀ v : ServerWorld, (v.goOn rest).conns = v.conns := by
      intro v
      unfold ServerWorld.goOn
      split <;> rfl
    have hroute := Sending.congr (hgoOn _) h
    cases target with
    | none => exact hroute
    | some client => exact sending_deliverTo hroute
  | notifyDefault => exact h
  | notifyPairing => exact h
  | marked id' errorDetail =>
    refine Sending.congr ?_ h
    simp only [ServerWorld.runTask, ServerWorld.scheduleRetry]
    split
    · split <;> rfl
    · rfl
  | unmarked id' => exact h
  | delayed id' attempt errorDetail => exact Sending.congr conns_requeue h
  | reap rest =>
    refine Sending.congr ?_ h
    cases rest with
    | nil => rfl
    | cons job rest =>
      simp only [ServerWorld.runTask, ServerWorld.reapNext]
      split
      · exact conns_requeue
      · unfold ServerWorld.goOn
        split <;> rfl

lemma sending_runLoop {c' : ConnId} {k : Connection} (hrun : w.runLoop c' k = some w')
    (h : w'.Sending c id) :
    w.Sending c id ∨ (w'.jobs = w.jobs ∧ ∃ row, w.jobs.get? id = some row ∧ row.isQueued) := by
  have hother : ∀ (v : ServerWorld) (phase : Phase), v.conns = w.conns →
      (∀ retryCount, phase ≠ .sending id retryCount) → (v.setPhase c' k phase).Sending c id →
        w.Sending c id := by
    intro v phase hconns hphase hs
    rcases sending_setPhase hs with ⟨retryCount, heq⟩ | hs
    · exact absurd heq (hphase retryCount)
    · exact Sending.congr hconns hs
  have htaken : ∀ v, w.takeRouted c' k = some v → v.Sending c id → w.Sending c id := by
    intro v hv hs
    unfold ServerWorld.takeRouted at hv
    split at hv
    · obtain rfl := Option.some.inj hv
      exact (sending_setConn hs).resolve_left (by simp)
    · cases hv
  cases hp : k.phase <;>
    simp only [ServerWorld.runLoop, hp, Option.some.injEq, reduceCtorEq] at hrun
  case registered => exact Or.inl (hother _ _ rfl (by simp) (hrun ▸ h))
  case peerRecorded => exact Or.inl (hother _ _ rfl (by simp) (hrun ▸ h))
  case setOnline => exact Or.inl (hother _ _ rfl (by simp) (hrun ▸ h))
  case counted => exact Or.inl (hother _ _ rfl (by simp) (hrun ▸ h))
  case draining ids => exact Or.inl (hother _ _ rfl (by simp) (sending_deliverTo (hrun ▸ h)))
  case gate =>
    refine Or.inl (hother _ _ rfl (fun retryCount => ?_) (hrun ▸ h))
    unfold ServerWorld.gate
    split
    · split <;> simp
    · simp
  case unapproved => exact Or.inl (hother _ _ rfl (by simp) (hrun ▸ h))
  case approved => exact Or.inl (hother _ _ rfl (by simp) (hrun ▸ h))
  case waitPairing seen =>
    split at hrun
    · obtain rfl := Option.some.inj hrun
      exact Or.inl (hother _ _ rfl (by simp) h)
    · cases hrun
  case polling takesDefaultQueue seen =>
    subst hrun
    cases ht : w.takeRouted c' k with
    | none =>
      rw [ht] at h
      exact Or.inl (hother _ _ rfl (by simp) h)
    | some v =>
      rw [ht] at h
      exact Or.inl (htaken v ht h)
  case tryDefault takesDefaultQueue seen =>
    subst hrun
    unfold ServerWorld.takeDefault at h
    split at h
    · exact Or.inl (hother _ _ rfl (by simp) h)
    · exact Or.inl (hother _ _ rfl (by simp) h)
  case waiting => exact Or.inl (htaken w' hrun h)
  case holding id' =>
    subst hrun
    rcases sending_setPhase h with ⟨retryCount, heq⟩ | h
    · refine Or.inr ⟨rfl, ?_⟩
      unfold ServerWorld.lookUp at heq
      split at heq
      · rename_i row hrow
        split at heq
        · rename_i hqueued
          obtain ⟨rfl, -⟩ := Phase.sending.inj heq
          exact ⟨row, hrow, read_eq_queued_iff.mp hqueued⟩
        · cases heq
      · cases heq
    · exact Or.inl h
  case sending id' retryCount =>
    subst hrun
    unfold ServerWorld.sendJob at h
    split at h
    · refine Or.inl (hother w .gate rfl (by simp) ?_)
      exact h
    · exact Or.inl (hother _ _ rfl (by simp) h)
  case leaving => exact Or.inl (hother _ _ rfl (by simp) (hrun ▸ h))
  case uncounted =>
    subst hrun
    refine Or.inl (hother _ _ ?_ (by simp) h)
    unfold ServerWorld.forgetPeer
    split <;> rfl
  case peerForgotten =>
    subst hrun
    refine Or.inl (hother _ _ rfl (fun retryCount => ?_) h)
    split <;> simp
  case active =>
    subst hrun
    refine Or.inl (hother _ _ ?_ (by simp) h)
    unfold ServerWorld.unregisterClient
    split <;> rfl
  case unregistered => exact Or.inl (hother _ _ rfl (by simp) (hrun ▸ h))

/-- A loop is about to send a job only since it looked it up and found it queued. -/
lemma sending_of_step (hstep : w.step cfg e = some w') (h : w'.Sending c id) :
    w.Sending c id ∨ (w'.jobs = w.jobs ∧ ∃ row, w.jobs.get? id = some row ∧ row.isQueued) := by
  cases e <;> simp only [ServerWorld.step, Option.some.injEq, Option.map_eq_some_iff,
    Option.bind_eq_some_iff] at hstep
  case clock => exact Or.inl (Sending.congr (by rw [← hstep]) h)
  case setPrinters => exact Or.inl (Sending.congr (by rw [← hstep]) h)
  case setPairing =>
    obtain ⟨row, -, rfl⟩ := hstep
    exact Or.inl (Sending.congr rfl h)
  case push => exact Or.inl (Sending.congr (by rw [← hstep]; rfl) h)
  case subscribe => exact Or.inl (Sending.congr (by rw [← hstep]; rfl) h)
  case task place =>
    obtain ⟨task, htask, rfl⟩ := hstep
    have hs := sending_runTask h
    exact Or.inl (Sending.congr (w := w) rfl hs)
  case loop c' =>
    obtain ⟨k, hk, hrun⟩ := hstep
    exact sending_runLoop hrun h
  case notified c' =>
    obtain ⟨k, hk, hwake⟩ := hstep
    unfold ServerWorld.wakeUp at hwake
    split at hwake
    · split at hwake
      · obtain rfl := Option.some.inj hwake
        exact Or.inl ((sending_setPhase h).resolve_left (by simp))
      · cases hwake
    · cases hwake
  case disconnect c' =>
    obtain ⟨k, hk, rfl⟩ := hstep
    rcases sending_setConn h with ⟨rfl, retryCount, hphase⟩ | h
    · exact Or.inl ⟨k, retryCount, hk, hphase⟩
    · exact Or.inl h
  case status update =>
    refine Or.inl (Sending.congr ?_ h)
    rw [← hstep]
    unfold ServerWorld.applyStatusUpdate
    simp only
    split
    · split <;> rfl
    · rfl
  case complete completion =>
    refine Or.inl (Sending.congr ?_ h)
    rw [← hstep]
    unfold ServerWorld.completeJob ServerWorld.finish
    split
    · split <;> rfl
    · split
      · split <;> rfl
      · split <;> rfl
  case reap =>
    refine Or.inl (Sending.congr ?_ h)
    rw [← hstep]
    unfold ServerWorld.goOn
    split <;> rfl
  case ping => exact Or.inl (Sending.congr (by rw [← hstep]; rfl) h)
  case clearJobs => exact Or.inl (Sending.congr (by rw [← hstep]; rfl) h)
  case restart =>
    obtain ⟨k, retryCount, hk, -⟩ := h
    rw [← hstep] at hk
    cases hk
  case pushUnresolved => exact Or.inl (Sending.congr (by rw [← hstep]; rfl) h)
  case subscribeUnwritten => exact Or.inl (Sending.congr (by rw [← hstep]; rfl) h)
  case taskFails place =>
    obtain ⟨task, -, hfail⟩ := hstep
    refine Or.inl (Sending.congr ?_ h)
    rw [failTask_eq hfail]
  case requeueUnread place =>
    obtain ⟨task, -, hfail⟩ := hstep
    refine Or.inl (Sending.congr ?_ h)
    rw [failReadBack_eq hfail]
  case loopFails c' =>
    obtain ⟨k, -, hfail⟩ := hstep
    rcases failLoop_eq hfail with ⟨-, rfl⟩ | ⟨-, rfl⟩ | ⟨-, rfl⟩ | ⟨id', -, rfl⟩ | ⟨-, rfl⟩
    all_goals exact Or.inl ((sending_setPhase h).resolve_left (by simp))

/-! ### Runs -/

lemma inProgress_of_reach (h : (printServer cfg d).Reach inTurn w) :
    ∀ c id, w.Sending c id → InProgress w.jobs id := by
  refine h.invariant (P := fun v => ∀ c id, v.Sending c id → InProgress v.jobs id) ?_
    fun v e v' hv hs hstep hlaw c id hsending => ?_
  · rintro c id ⟨k, retryCount, hk, -⟩
    cases hk
  · rcases sending_of_step hstep hsending with hbefore | ⟨hjobs, row, hrow, hqueued⟩
    · obtain ⟨k, retryCount, hk, hphase⟩ := hbefore
      have hplaced := placed_of_reach (hv.mono fun _ _ _ _ => trivial)
      have hknown : id < v.nextJob := by
        rcases (hplaced.lines c k.line (lines_of_conns hk)).hand id
          (by simp [Connection.line, hphase, Phase.stage]) with ha | ha
        · exact ha.known
        · exact ha.known
      exact (hs c id ⟨k, retryCount, hk, hphase⟩).move hknown (move_of_step hstep)
        (hlaw.2.1 c k id retryCount hk hphase)
    · intro row' hrow'
      rw [hjobs] at hrow'
      obtain rfl : row = row' := Option.some.inj (hrow.symm.trans hrow')
      simp [JobRow.inProgress, JobRow.isIn, isQueued_iff.mp hqueued]

/-- The event is a send of the job on the connection. -/
def ServerEvent.sends (c : ConnId) (id : JobId) : ServerEvent → Bool
  | .sent c' id' _ => c' == c && id' == id
  | _ => false

lemma countP_sends_le {t t' : List ServerEvent} (h : ∀ b, .queued id b ∉ t) :
    t.countP (ServerEvent.sends c id) ≤ sentCount c id (t ++ t') := by
  induction t with
  | nil => exact Nat.zero_le _
  | cons event t ih =>
    have ht := ih fun b hb => h b (List.mem_cons_of_mem _ hb)
    rw [List.countP_cons, List.cons_append]
    cases event with
    | sent c' id' state =>
      simp only [ServerEvent.sends, sentCount, Bool.and_eq_true, beq_iff_eq]
      omega
    | queued id' byStatus =>
      have hne : id' ≠ id := by
        rintro rfl
        exact h byStatus List.mem_cons_self
      simpa [ServerEvent.sends, sentCount, hne] using ht
    | leftFailed id' => simpa [ServerEvent.sends, sentCount] using ht

/-- The job was not finished when it was put on the stream. -/
def ServerEvent.Timely : ServerEvent → Prop
  | .sent _ _ state => state ≠ some .completed ∧ state ≠ some .cancelled ∧
      state ≠ some .unconfirmed
  | _ => True

lemma read_of_inProgress {row : JobRow} (h : row.inProgress) :
    row.state.read ≠ .completed ∧ row.state.read ≠ .cancelled ∧
      row.state.read ≠ .unconfirmed := by
  obtain ⟨state, hstate⟩ : ∃ state, row.state = .known state := by
    cases hs : row.state with
    | known state => exact ⟨state, rfl⟩
    | unknown => simp [JobRow.inProgress, JobRow.isIn, hs] at h
  cases state <;> simp [JobRow.inProgress, JobRow.isIn, hstate] at h <;>
    simp [hstate, StateText.read]

/-- Only a loop with a job in its hands adds a send to the history. -/
lemma Flow.Move.sent_of_trace {state : Option JobState} (hm : Flow.Move cfg f e f')
    (hnew : f'.trace = .sent c id state :: f.trace) :
    e = .loop c ∧ (∃ l, f.lines c = some l ∧ l.stage = .running (some id)) ∧
      state = (f.jobs.get? id).map fun row => row.state.read := by
  have hsame : f'.trace ≠ f.trace := by
    rw [hnew]
    exact List.cons_ne_self _ _
  cases hm
  case sent c' l hl id' hstage hc =>
    obtain ⟨rfl, rfl, rfl⟩ := ServerEvent.sent.inj (List.cons.inj hnew).1
    exact ⟨rfl, ⟨l, hl, hstage⟩, rfl⟩
  case pushed => cases (List.cons.inj hnew).1
  case requeued => cases (List.cons.inj hnew).1
  case reopened => cases (List.cons.inj hnew).1
  case leftFailed => cases (List.cons.inj hnew).1
  case routed => exact absurd (by simp) hsame
  case drained => exact absurd (by simp) hsame
  all_goals exact absurd rfl hsame

/-- A move adds at most one event to the history. -/
lemma Flow.Move.trace_eq (hm : Flow.Move cfg f e f') :
    f'.trace = f.trace ∨ ∃ event, f'.trace = event :: f.trace := by
  cases hm
  case sent => exact Or.inr ⟨_, rfl⟩
  case pushed => exact Or.inr ⟨_, rfl⟩
  case requeued => exact Or.inr ⟨_, rfl⟩
  case reopened => exact Or.inr ⟨_, rfl⟩
  case leftFailed => exact Or.inr ⟨_, rfl⟩
  case routed => exact Or.inl (by simp)
  case drained => exact Or.inl (by simp)
  all_goals exact Or.inl rfl

/-- A job is sent by a loop that has looked it up. -/
lemma sending_of_sent {state : Option JobState} (hstep : w.step cfg e = some w')
    (hnew : w'.trace = .sent c id state :: w.trace) :
    w.Sending c id ∧ state = w.stateOf id := by
  obtain ⟨rfl, ⟨l, hl, hstage⟩, hstate⟩ := (move_of_step hstep).sent_of_trace hnew
  refine ⟨?_, hstate⟩
  obtain ⟨k, hk, rfl⟩ := Option.map_eq_some_iff.mp hl
  obtain ⟨k', hk', hrun⟩ := Option.bind_eq_some_iff.mp hstep
  obtain rfl : k = k' := Option.some.inj (hk.symm.trans hk')
  change k.phase.stage = .running (some id) at hstage
  cases hp : k.phase <;> simp [hp, Phase.stage] at hstage
  case holding id' =>
    -- A lookup sends nothing.
    simp only [ServerWorld.runLoop, hp, Option.some.injEq] at hrun
    subst hrun
    exact absurd hnew List.ne_cons_self
  case sending id' retryCount => exact ⟨k, retryCount, hk, hstage ▸ hp⟩

lemma timely_of_step (hin : ∀ c id, w.Sending c id → InProgress w.jobs id)
    (hstep : w.step cfg e = some w') (ht : ∀ event ∈ w.trace, event.Timely) :
    ∀ event ∈ w'.trace, event.Timely := by
  rcases (move_of_step hstep).trace_eq with hsame | ⟨event, hnew⟩
  · change w'.trace = w.trace at hsame
    rw [hsame]
    exact ht
  · change w'.trace = event :: w.trace at hnew
    rw [hnew]
    refine List.forall_mem_cons.mpr ⟨?_, ht⟩
    rcases event with ⟨id, byStatus⟩ | ⟨c, id, state⟩ | id
    · trivial
    · obtain ⟨hsending, rfl⟩ := sending_of_sent hstep hnew
      cases hrow : w.jobs.get? id with
      | none => simp [ServerEvent.Timely, ServerWorld.stateOf, hrow]
      | some row =>
        have hread := read_of_inProgress (hin c id hsending row hrow)
        simpa [ServerEvent.Timely, ServerWorld.stateOf, hrow] using hread
    · trivial

lemma timely_of_reach (h : (printServer cfg d).Reach inTurn w) :
    ∀ event ∈ w.trace, event.Timely :=
  h.invariant (P := fun v => ∀ event ∈ v.trace, event.Timely) (fun _ h => nomatch h)
    fun _ _ _ hv ht hstep _ => timely_of_step (inProgress_of_reach hv) hstep ht

/-- In a run in which no push or requeue overlaps with a registration and drain, and no report
ends a job that is about to be sent: between two queueings a job is sent at most once on one
stream, and no job is sent that is completed, cancelled or unconfirmed. -/
theorem job_streamed_once (h : (printServer cfg d).Reach inTurn w) :
    (∀ (c : ConnId) (id : JobId) (t₁ t₂ t₃ : List ServerEvent), w.trace = t₁ ++ t₂ ++ t₃ →
        (∀ b, .queued id b ∉ t₂) → t₂.countP (ServerEvent.sends c id) ≤ 1) ∧
      ∀ c id state, .sent c id state ∈ w.trace →
        state ≠ some .completed ∧ state ≠ some .cancelled ∧ state ≠ some .unconfirmed := by
  refine ⟨fun c id t₁ t₂ t₃ htrace hnot => ?_, fun c id state hs => timely_of_reach h _ hs⟩
  have hsuffix : t₂ ++ t₃ <:+ w.flow.trace := by
    rw [show w.flow.trace = t₁ ++ t₂ ++ t₃ from htrace, List.append_assoc]
    exact List.suffix_append _ _
  exact (countP_sends_le hnot).trans ((single_of_reach h).once _ hsuffix c id)

/-! ### Two runs -/

/-- Whether no stream is between its registration and the end of its drain. -/
def ServerWorld.noneOpening (w : ServerWorld) : Bool :=
  (List.range w.nextConn).all fun c => (w.conns c).all fun k =>
    match k.phase.stage with
    | .opening | .draining _ => false
    | _ => true

/-- Whether no id waits to be routed, in the default queue or on a stream. -/
def ServerWorld.noneWaiting (w : ServerWorld) : Bool :=
  w.defaultPending == [] && (w.tasks.all fun task => task.routing == none) &&
    (List.range w.nextConn).all fun c => (w.conns c).all fun k =>
      k.channel == [] && k.phase.stage == .running none

/-- A test that everything comes in turn: jobs are pushed while no stream opens, jobs are requeued
and fail while moreover no id waits, and streams register while moreover no job is about to be
routed. -/
def turns (w : ServerWorld) (e : ServerStep) (w' : ServerWorld) : Bool :=
  match e with
  | .push _ => w.noneOpening
  | .task _ => (w'.trace == w.trace || w.noneOpening && w.noneWaiting) &&
      (w'.nextConn == w.nextConn ||
        (w.noneOpening && w.tasks.all fun task => task.routing == none))
  | .complete _ => w.noneOpening && w.noneWaiting
  | .status _ | .pushUnresolved _ | .requeueUnread _ => false
  | _ => true

lemma not_opening (hp : w.flow.Placed) (h : w.noneOpening = true) :
    ¬ w.flow.Opening machineId := by
  rintro ⟨c, l, hl, -, hopen⟩
  obtain ⟨k, hk, rfl⟩ := Option.map_eq_some_iff.mp hl
  have hc : c ∈ List.range w.nextConn := List.mem_range.mpr (hp.fresh c _ hl)
  have hk' := List.all_eq_true.mp h c hc
  rw [hk] at hk'
  rcases hopen with hopen | ⟨ids, hopen⟩ <;>
    · change k.phase.stage = _ at hopen
      simp [hopen] at hk'

/-- Only a registration gives a client another connection. -/
lemma nextConn_of_registry (hm : Flow.Move cfg f e f') (hr : f'.registry machineId = some c)
    (hnot : f.registry machineId ≠ some c) : f'.nextConn ≠ f.nextConn := by
  cases hm
  case opened => exact Nat.succ_ne_self _
  case routed => exact absurd hr (by simpa using hnot)
  case drained => exact absurd hr (by simpa using hnot)
  case unregistered c' l hl hstage hc =>
    rw [Flow.unregistered_registry] at hr
    by_cases hm : machineId = l.machineId
    · rw [hm, Function.update_self] at hr
      cases hr
    · rw [Function.update_of_ne hm] at hr
      exact absurd hr hnot
  case restarted => cases hr
  all_goals exact absurd hr hnot

lemma noOverlap_of_quiet (hm : Flow.Move cfg f e f') (hpush : ¬ e.pushes)
    (htask : ∀ place, e ≠ .task place ∧ e ≠ .requeueUnread place) : f.NoOverlap f' := by
  refine ⟨fun id htrace => ?_, fun c machineId hr hnot => ?_⟩
  · cases hm
    case pushed hp => exact absurd hp hpush
    case requeued id' row target now detail retries hrow hreq hretries hroute =>
      cases hroute with
      | readBack place => exact absurd rfl (htask place).1
      | unread place => exact absurd rfl (htask place).2
    case routed => exact absurd rfl (htask _).1
    case drained => exact absurd htrace (by simp)
    all_goals first
      | exact absurd htrace List.ne_cons_self
      | simp at htrace
  · refine absurd ?_ (nextConn_of_registry hm hr hnot)
    cases hm
    case opened => exact absurd rfl (htask _).1
    case routed => simp
    case drained => simp
    all_goals rfl

/-- No copy waits of an id that is not in use yet. -/
lemma Flow.Placed.not_waits (hp : f.Placed) : ¬ f.Waits f.nextJob := by
  have hlt : ∀ {target}, ¬ f.Aims f.nextJob target := fun ha => absurd ha.known (lt_irrefl _)
  rintro (hid | ⟨target, hid⟩ | ⟨c, l, hl, -, hcopies⟩)
  · exact hlt (hp.pending _ hid)
  · exact hlt (hp.routes _ _ hid)
  · have hpl := hp.lines c l hl
    refine hcopies ?_
    rw [Line.copies, List.count_eq_zero.mpr fun hid => hlt (hpl.channel _ hid), Nat.zero_add]
    cases hstage : l.stage with
    | draining ids => exact List.count_eq_zero.mpr fun hid => hlt (hpl.selected ids hstage _ hid)
    | running hand =>
      cases hand with
      | none => rfl
      | some id =>
        refine if_neg ?_
        rintro rfl
        exact (hpl.hand _ hstage).elim hlt hlt
    | _ => rfl

lemma not_waits_of (hp : w.flow.Placed) (h : w.noneWaiting = true) : ¬ w.flow.Waits id := by
  simp only [ServerWorld.noneWaiting, Bool.and_eq_true, beq_iff_eq] at h
  obtain ⟨⟨hpending, htasks⟩, hconns⟩ := h
  rintro (hid | ⟨target, hid⟩ | ⟨c, l, hl, -, hcopies⟩)
  · change id ∈ w.defaultPending at hid
    rw [hpending] at hid
    cases hid
  · obtain ⟨rest, htask⟩ := mem_routesOf.mp hid
    have hnone := List.all_eq_true.mp htasks _ htask
    simp [Task.routing] at hnone
  · obtain ⟨k, hk, rfl⟩ := Option.map_eq_some_iff.mp hl
    have hline := List.all_eq_true.mp hconns c (List.mem_range.mpr (hp.fresh c _ hl))
    simp only [hk, Option.all_some, Bool.and_eq_true, beq_iff_eq] at hline
    refine hcopies ?_
    simp [Line.copies, Connection.line, hline.1, hline.2, Stage.copies]

lemma not_sending_of (hp : w.flow.Placed) (h : w.noneWaiting = true) : ¬ w.Sending c id := by
  simp only [ServerWorld.noneWaiting, Bool.and_eq_true, beq_iff_eq] at h
  rintro ⟨k, retryCount, hk, hphase⟩
  have hc := hp.fresh c _ (lines_of_conns hk)
  have hline := List.all_eq_true.mp h.2 c (List.mem_range.mpr hc)
  simp [hk, hphase, Phase.stage] at hline

lemma inTurn_of_turns (hv : (printServer cfg d).Reach inTurn w)
    (hstep : w.step cfg e = some w') (h : turns w e w' = true) : inTurn w e w' := by
  have hp := placed_of_reach (hv.mono fun _ _ _ _ => trivial)
  have hm := move_of_step hstep
  have hread : (∀ place, e ≠ .requeueUnread place) → ∀ id, w.flow.ReadsBack id e w'.flow :=
    fun hno id place row he => absurd he (hno place)
  cases e with
  | push job =>
    obtain rfl := Option.some.inj hstep
    refine ⟨⟨fun id htrace => ?_, fun c machineId hr hnot => absurd hr hnot⟩,
      fun _ _ _ _ _ _ hends => hends, hread (by simp)⟩
    obtain ⟨rfl, -⟩ := ServerEvent.queued.inj (List.cons.inj htrace).1
    exact ⟨hp.not_waits, fun machineId _ => not_opening hp h⟩
  | task place =>
    simp only [turns, Bool.and_eq_true, Bool.or_eq_true, beq_iff_eq] at h
    obtain ⟨htrace, hconn⟩ := h
    refine ⟨⟨fun id hqueued => ?_, fun c machineId hr hnot => ?_⟩,
      fun _ _ _ _ _ _ hends => hends, hread (by simp)⟩
    · rcases htrace with htrace | ⟨hopening, hwaiting⟩
      · change w'.trace = _ :: w.trace at hqueued
        rw [htrace] at hqueued
        exact absurd hqueued List.ne_cons_self
      · exact ⟨not_waits_of hp hwaiting, fun machineId _ => not_opening hp hopening⟩
    · obtain ⟨hopening, htasks⟩ := hconn.resolve_left (nextConn_of_registry hm hr hnot)
      refine ⟨not_opening hp hopening, fun id hid => ?_⟩
      obtain ⟨rest, htask⟩ := mem_routesOf.mp hid
      have hnone := List.all_eq_true.mp htasks _ htask
      simp [Task.routing] at hnone
  | complete completion =>
    simp only [turns, Bool.and_eq_true] at h
    refine ⟨noOverlap_of_quiet hm (by simp [ServerStep.pushes]) (by simp), ?_, hread (by simp)⟩
    intro c k id retryCount hk hphase
    exact absurd ⟨k, retryCount, hk, hphase⟩ (not_sending_of hp h.2)
  | status | pushUnresolved | requeueUnread => cases h
  | _ =>
    exact ⟨noOverlap_of_quiet hm (by simp [ServerStep.pushes]) (by simp),
      fun _ _ _ _ _ _ hends => hends, hread (by simp)⟩

/-- A job fails at its client, is requeued and sent once more. -/
theorem job_streamed_once_sent : ∃ w : ServerWorld,
    (printServer ⟨3, 30⟩ .empty).Reach inTurn w ∧
      w.trace = [.sent 0 0 (some .queued), .queued 0 false, .leftFailed 0,
        .sent 0 0 (some .queued), .queued 0 false] ∧
        ∀ t₁ t₂ t₃ : List ServerEvent, w.trace = t₁ ++ t₂ ++ t₃ →
          (∀ b, .queued 0 b ∉ t₂) → t₂.countP (ServerEvent.sends 0 0) ≤ 1 := by
  obtain ⟨w, hw, htrace⟩ := (printServer ⟨3, 30⟩ .empty).reach_of_sound_tests inTurn
    (storeConnects ++ [.push (printRequest "kasa"), .task 0] ++ List.replicate 9 (.loop 0) ++
      [.complete ⟨0, "store", false, false, "out of paper"⟩, .task 0, .task 0, .task 0] ++
      List.replicate 5 (.loop 0))
    (fun w => w.trace == [.sent 0 0 (some .queued), .queued 0 false, .leftFailed 0,
      .sent 0 0 (some .queued), .queued 0 false])
    (fun _ _ _ => inTurn_of_turns) (by decide +kernel) (by decide +kernel)
  exact ⟨w, hw, beq_iff_eq.mp htrace, (job_streamed_once hw).1 0 0⟩

/-- A client registers between the insertion of a job and its routing: the drain selects the
job, the routing delivers it too, and it is sent twice on one stream. -/
theorem job_streamed_twice : ∃ w : ServerWorld,
    (printServer ⟨3, 30⟩ .empty).Reach free w ∧
      w.trace = [.sent 0 0 (some .queued), .sent 0 0 (some .queued), .queued 0 false] := by
  obtain ⟨w, hw, htrace⟩ := (printServer ⟨3, 30⟩ .empty).reach_of_run
    ([.setPrinters pairedPrinter, .subscribe "store" none, .task 0,
      .setPairing "store" .approved, .task 0, .push (printRequest "kasa"), .task 1] ++
      List.replicate 4 (.loop 0) ++ [.task 0] ++ List.replicate 11 (.loop 0))
    (fun w => w.trace == [.sent 0 0 (some .queued), .sent 0 0 (some .queued), .queued 0 false])
    (by decide +kernel)
  exact ⟨w, hw, beq_iff_eq.mp htrace⟩

end Server

end DevBridge

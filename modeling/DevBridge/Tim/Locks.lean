import DevBridge.Lib.Locks
import DevBridge.Source.AtMostOnce
import DevBridge.Tim.Errands
import DevBridge.Tim.Runs

/-!
# A terminal serves one session

Every call that talks to a terminal does so inside a session, which it enters when it takes the
terminal's session lock and leaves when it gives the lock back.  So whatever the calls, the
crashes and the restarts, what passes between the bridge and a terminal in a step belongs to one
call, and no other call is in the middle of a session with that terminal.
-/

namespace DevBridge.Tim

/-! ### Inside a session -/

/-- The terminal whose session lock a session holds. -/
def Session.inside (x : Session) : Option String :=
  match x.pc with
  | .waiting | .ended _ => none
  | _ => some x.spec.ip

namespace TimTask

/-- The terminal whose session a call is inside. -/
def inside : TimTask → Option String
  | twoPhase _ _ (.running spec _ _) => some spec.ip
  | op _ (.session x) | reconcile _ (.reading _ x) | reconcile _ (.running x)
  | safety (.session x _ _ _) => x.inside
  | _ => none

/-- The job of a call. -/
def jobId : TimTask → Option ℤ
  | twoPhase job _ _ | settle job _ _ | op job _ => some job.id
  | reconcile entry _ => some entry.job.id
  | safety _ => none

/-- A call that begins is inside no session. -/
lemma inside_executeCard (job : DeviceJob) : (executeCard job).inside = none := by
  unfold executeCard
  split
  · rfl
  · split_ifs <;> rfl

end TimTask

namespace TerminalEvent

def ip : TerminalEvent → String
  | sent ip _ _ _ | answered ip _ _ _ => ip

def jobId : TerminalEvent → Option ℤ
  | sent _ jobId _ _ | answered _ jobId _ _ => jobId

end TerminalEvent

/-- All that passes with a terminal in a step belongs to one job. -/
def Talks (ip : String) (jobId : Option ℤ) (s s' : TimState) : Prop :=
  ∃ new, s'.dev.log = new ++ s.dev.log ∧ ∀ m ∈ new, m.ip = ip ∧ m.jobId = jobId

namespace Talks

variable {ip : String} {jobId : Option ℤ} {s s₁ s₂ : TimState}

lemma of_dev (h : s₁.dev = s.dev) : Talks ip jobId s s₁ := ⟨[], by rw [h]; rfl, by simp⟩

lemma trans (h : Talks ip jobId s s₁) (h' : Talks ip jobId s₁ s₂) : Talks ip jobId s s₂ := by
  obtain ⟨new, hlog, hnew⟩ := h
  obtain ⟨new', hlog', hnew'⟩ := h'
  refine ⟨new' ++ new, by rw [hlog', hlog, List.append_assoc], fun m hm => ?_⟩
  rcases List.mem_append.mp hm with hm | hm
  · exact hnew' m hm
  · exact hnew m hm

lemma send (h : Talks ip jobId s s₁) (call : TerminalCall) (settles : Option DeviceJob) :
    Talks ip jobId s (s₁.send ip jobId call settles) := by
  refine h.trans ⟨[.sent ip jobId call settles], rfl, fun m hm => ?_⟩
  rw [List.mem_singleton.mp hm]
  exact ⟨rfl, rfl⟩

lemma heard (h : Talks ip jobId s s₁) (call : TerminalCall) (a : CallAnswer) :
    Talks ip jobId s (s₁.heard ip jobId call a) := by
  refine h.trans ⟨[.answered ip jobId call a], rfl, fun m hm => ?_⟩
  rw [List.mem_singleton.mp hm]
  exact ⟨rfl, rfl⟩

end Talks

/-! ### The steps of a session -/

namespace Session

variable {cfg : TimConfig} {now : Time} {i : ℕ} {jobId : Option ℤ} {x x' : Session}
  {ev : TimEvent} {s s' : TimState}

/-- A step of a session takes or gives back the terminal's lock, or leaves the locks alone. -/
structure Guarded (x x' : Session) (i : ℕ) (jobId : Option ℤ) (s s' : TimState) : Prop where
  spec : x'.spec = x.spec
  errand : x'.errand = x.errand
  locks : Locks.Step s.vol.sessions s'.vol.sessions i x.inside x'.inside
  talks : Talks x.spec.ip jobId s s'
  inside : x.inside = some x.spec.ip ∨ x'.inside = some x.spec.ip

lemma listen_guarded (x : Session) (jobId : Option ℤ) (ev : TimEvent) (s : TimState) :
    (x.listen jobId ev s).vol.sessions = s.vol.sessions ∧
      Talks x.spec.ip jobId s (x.listen jobId ev s) := by
  unfold listen
  split
  · exact ⟨rfl, (Talks.of_dev rfl).heard _ _⟩
  · exact ⟨rfl, Talks.of_dev rfl⟩

/-- A call is sent from inside. -/
lemma Guarded.ask {s₁ : TimState} {pc : SessionPc} {call : TerminalCall}
    (hin : x.inside = some x.spec.ip) (hpc : ({ x with pc } : Session).inside = some x.spec.ip)
    (hsessions : s₁.vol.sessions = s.vol.sessions) (htalks : Talks x.spec.ip jobId s s₁) :
    Guarded x (x.ask jobId pc call s₁).1 i jobId s (x.ask jobId pc call s₁).2 where
  spec := rfl
  errand := rfl
  locks := by
    rw [hin, show (x.ask jobId pc call s₁).1.inside = some x.spec.ip from hpc]
    exact .kept _ hsessions
  talks := htalks.send call none
  inside := Or.inl hin

lemma Guarded.stay {s₁ : TimState} {pc : SessionPc} (hin : x.inside = some x.spec.ip)
    (hpc : ({ x with pc } : Session).inside = some x.spec.ip)
    (hsessions : s₁.vol.sessions = s.vol.sessions) (htalks : Talks x.spec.ip jobId s s₁) :
    Guarded x { x with pc } i jobId s s₁ where
  spec := rfl
  errand := rfl
  locks := by
    rw [hin, hpc]
    exact .kept _ hsessions
  talks := htalks
  inside := Or.inl hin

/-- The lock is given back. -/
lemma Guarded.leave {s₁ : TimState} {r : Except SessionFail ErrandEnd}
    (hin : x.inside = some x.spec.ip) (hsessions : s₁.vol.sessions = s.vol.sessions)
    (htalks : Talks x.spec.ip jobId s s₁) :
    Guarded x { x with pc := .ended r } i jobId s (s₁.lock x.spec.ip none) where
  spec := rfl
  errand := rfl
  locks := by
    rw [hin]
    refine .freed _ ?_
    rw [← hsessions]
    rfl
  talks := htalks
  inside := Or.inl hin

lemma Guarded.of_step (h : x.step cfg now i jobId ev s = some (x', s')) :
    Guarded x x' i jobId s s' := by
  obtain ⟨spec, errand, pc⟩ := x
  obtain ⟨hsessions, htalks⟩ := listen_guarded ⟨spec, errand, pc⟩ jobId ev s
  unfold step at h
  simp only at h
  split at h
  · -- the lock was free
    split at h
    · rename_i hfree
      cases h
      have htalks₁ : Talks spec.ip jobId s (s.lock spec.ip (some i)) := .of_dev rfl
      exact ⟨rfl, rfl, .taken spec.ip hfree rfl, htalks₁.send .create none, Or.inr rfl⟩
    · cases h
  · cases h
    exact .leave rfl hsessions htalks
  · cases h
    exact .ask rfl rfl hsessions htalks
  · cases h
    exact .leave rfl hsessions htalks
  · cases h
    exact .ask rfl rfl hsessions htalks
  · cases h
    exact .ask rfl rfl hsessions htalks
  · cases h
    exact .ask rfl rfl hsessions htalks
  · cases h
    exact .ask rfl rfl hsessions htalks
  · simp only [Option.some.injEq, identified] at h
    split at h
    · split at h
      · cases h
        exact .stay rfl rfl hsessions htalks
      · cases h
        exact .ask rfl rfl hsessions htalks
    · cases h
      exact .stay rfl rfl hsessions htalks
  · -- an errand only writes the journal
    rw [Option.map_eq_some_iff] at h
    obtain ⟨r, hr, heq⟩ := h
    obtain ⟨j, hj⟩ := errandStep_writes hr
    have hsessions' : r.state.vol.sessions = s.vol.sessions := by
      rw [hj]
      exact hsessions
    have htalks' : Talks spec.ip jobId s r.state := by
      rw [hj]
      exact htalks.trans (Talks.of_dev rfl)
    unfold worked at heq
    split at heq <;> cases heq
    · exact .ask rfl rfl hsessions' htalks'
    · exact .stay rfl rfl hsessions' htalks'
    · exact .ask rfl rfl hsessions' htalks'
  · cases h
    exact .ask rfl rfl hsessions htalks
  · cases h
    exact .ask rfl rfl hsessions htalks
  · cases h
    exact .leave rfl hsessions htalks
  · cases h
    exact .leave rfl hsessions htalks
  · cases h

end Session

/-! ### The steps of a call -/

/-- A step of a call takes or gives back one session lock at most, and talks to the terminal
whose lock it has before or after it. -/
structure CallGuarded (t t' : TimTask) (i : ℕ) (s s' : TimState) : Prop where
  jobId : t'.jobId = t.jobId
  locks : Locks.Step s.vol.sessions s'.vol.sessions i t.inside t'.inside
  talks : ∃ new, s'.dev.log = new ++ s.dev.log ∧
    ∀ m ∈ new, m.jobId = t.jobId ∧ (t.inside = some m.ip ∨ t'.inside = some m.ip)

namespace CallGuarded

variable {t t' : TimTask} {i : ℕ} {s s' : TimState}

/-- The call talks to no terminal. -/
lemma of_quiet (hjob : t'.jobId = t.jobId) (hin : t'.inside = t.inside)
    (hsessions : s'.vol.sessions = s.vol.sessions) (hdev : s'.dev = s.dev) :
    CallGuarded t t' i s s' where
  jobId := hjob
  locks := by
    rw [hin]
    exact .kept _ hsessions
  talks := ⟨[], by rw [hdev]; rfl, by simp⟩

lemma of_session {x x' : Session} {jobId : Option ℤ} (h : Session.Guarded x x' i jobId s s')
    (hjob : t'.jobId = t.jobId) (hid : t.jobId = jobId) (hin : t.inside = x.inside)
    (hin' : t'.inside = x'.inside) : CallGuarded t t' i s s' where
  jobId := hjob
  locks := by
    rw [hin, hin']
    exact h.locks
  talks := by
    obtain ⟨new, hlog, hnew⟩ := h.talks
    refine ⟨new, hlog, fun m hm => ?_⟩
    obtain ⟨hip, hm⟩ := hnew m hm
    rw [hid, hm, hip, hin, hin']
    exact ⟨rfl, h.inside⟩

end CallGuarded

section Calls

variable {cfg : TimConfig} {now : Time} {i : ℕ} {ev : TimEvent} {s s' : TimState}

lemma InputMove.guarded {job : DeviceJob} {spec : TerminalSpec} {req : PurchaseRequest}
    {pc : PurchasePc} {input : PurchaseInput} {settles : Option DeviceJob}
    (h : InputMove cfg now i job spec req s pc ev input s' settles) :
    s'.vol.sessions = s.vol.sessions ∧ Talks spec.ip (some job.id) s s' := by
  cases h with
  | answered pc call a hcall => exact ⟨rfl, (Talks.of_dev rfl).heard _ _⟩
  | contacted | stored | received | quiet => exact ⟨rfl, Talks.of_dev rfl⟩

lemma applyActs_talks (ip : String) (jobId : ℤ) (settles : Option DeviceJob)
    (acts : List PurchaseAct) (s : TimState) :
    Talks ip (some jobId) s (acts.foldl (applyAct ip jobId settles) s) := by
  have hacts := @applyActs_log ip jobId settles acts s
  obtain ⟨new, hlog, hnew⟩ := hacts
  refine ⟨new, hlog, fun m hm => ?_⟩
  obtain ⟨call, -, rfl⟩ := hnew m hm
  exact ⟨rfl, rfl⟩

lemma TwoPhaseMove.guarded {job : DeviceJob} {kind : TwoPhase} {pc pc' : TwoPhasePc}
    (h : TwoPhaseMove cfg now i job kind s pc ev pc' s') :
    CallGuarded (.twoPhase job kind pc) (.twoPhase job kind pc') i s s' := by
  cases h with
  | begin | refused => exact .of_quiet rfl rfl rfl rfl
  | unavailable =>
    have hframe := closeChannel_frame ((s.withHolder job.id (some i)).withChannel i (some [])) i
    exact .of_quiet rfl rfl hframe.2.2.2.2 hframe.2.1
  | noted why _ j hj => exact .of_quiet rfl rfl rfl rfl
  | locked spec req hfree => exact ⟨rfl, .taken spec.ip hfree rfl, ⟨[], rfl, by simp⟩⟩
  | ran spec req pc pc' _ input s₁ settles acts hinput hstep =>
    obtain ⟨hsessions, htalks⟩ := hinput.guarded
    refine ⟨rfl, .kept _ ((applyActs_frame acts s₁).2.2.trans hsessions), ?_⟩
    obtain ⟨new, hlog, hnew⟩ := htalks.trans (applyActs_talks spec.ip job.id settles acts s₁)
    refine ⟨new, hlog, fun m hm => ?_⟩
    obtain ⟨hip, hjob⟩ := hnew m hm
    exact ⟨hjob, Or.inl (by rw [hip]; rfl)⟩
  | finished spec req pc _ input s₁ settles acts e hinput hstep =>
    obtain ⟨hsessions, htalks⟩ := hinput.guarded
    have hframe := closeChannel_frame (acts.foldl (applyAct spec.ip job.id settles) s₁) i
    have hout : (TimTask.twoPhase job kind (afterPurchase cfg e)).inside = none := by
      cases e <;> rfl
    refine ⟨rfl, ?_, ?_⟩
    · rw [hout]
      refine .freed spec.ip ?_
      rw [← hsessions, ← (applyActs_frame acts s₁).2.2, ← hframe.2.2.2.2]
      rfl
    · obtain ⟨new, hlog, hnew⟩ := htalks.trans (applyActs_talks spec.ip job.id settles acts s₁)
      refine ⟨new, (congrArg Terminals.log hframe.2.1).trans hlog, fun m hm => ?_⟩
      obtain ⟨hip, hjob⟩ := hnew m hm
      exact ⟨hjob, Or.inl (by rw [hip]; rfl)⟩

/-- A session that has not begun, or is over, is inside nothing. -/
lemma inside_oneSession (job job' : DeviceJob) (spec : TerminalSpec) (errand : Errand) :
    (TimTask.op job (oneSession cfg job' spec errand)).inside = none := by
  unfold oneSession
  split <;> rfl

lemma inside_beginOp (job : DeviceJob) (stored : String → Option ℤ) :
    (TimTask.op job (beginOp cfg now job stored)).inside = none := by
  unfold beginOp
  split
  · split
    · exact inside_oneSession _ _ _ _
    · rfl
  · split
    · split <;> rfl
    · split
      · split
        · exact inside_oneSession _ _ _ _
        · rfl
      · rfl

lemma inside_copyCard (job : DeviceJob) (spec : TerminalSpec) (target : ℤ)
    (entry : JournalEntry) (card : Option CardPayment) :
    (TimTask.op job (copyCard cfg job spec target entry card)).inside = none := by
  unfold copyCard
  split
  · split
    · rfl
    · split
      · rfl
      · exact inside_oneSession _ _ _ _
  · rfl

lemma inside_afterSession (job : DeviceJob) (errand : Errand)
    (r : Except SessionFail ErrandEnd) :
    (TimTask.op job (afterSession job errand r)).inside = none := by
  unfold afterSession
  split <;> try rfl
  split <;> rfl

lemma opTaskStep_guarded {job : DeviceJob} {pc pc' : OpPc}
    (h : opTaskStep cfg now i job s pc ev = some (pc', s')) :
    CallGuarded (.op job pc) (.op job pc') i s s' := by
  have hquiet : ∀ {pc pc' : OpPc} {j : Journal}, (TimTask.op job pc).inside = none →
      (TimTask.op job pc').inside = none →
      CallGuarded (.op job pc) (.op job pc') i s (s.withJournal j) := fun hin hin' =>
    .of_quiet rfl (hin'.trans hin.symm) rfl rfl
  cases OpTaskMove.of_step h with
  | begin _ stored => exact hquiet rfl (inside_beginOp job stored)
  | copied => exact hquiet rfl (inside_copyCard _ _ _ _ _)
  | session x x' _ _ hx => exact .of_session (.of_step hx) rfl rfl rfl rfl
  | finished x r hr =>
    refine hquiet ?_ (inside_afterSession _ _ _)
    rw [TimTask.inside, Session.inside, hr]
  | found | transacted | noted | recorded | printed | refused => exact hquiet rfl rfl

/-- A reconcile talks to a terminal in its two sessions only. -/
lemma CallGuarded.reconcile_quiet {entry : JournalEntry} {pc pc' : ReconcilePc}
    (hin : (TimTask.reconcile entry pc).inside = none)
    (hin' : (TimTask.reconcile entry pc').inside = none)
    (hsessions : s'.vol.sessions = s.vol.sessions) (hdev : s'.dev = s.dev) :
    CallGuarded (.reconcile entry pc) (.reconcile entry pc') i s s' :=
  .of_quiet rfl (hin'.trans hin.symm) hsessions hdev

lemma inside_answered (entry : JournalEntry) (a : Reconciliation) :
    (TimTask.reconcile entry (.answered a)).inside = none := rfl

lemma inside_beginReconcile (entry : JournalEntry) :
    (TimTask.reconcile entry (beginReconcile entry)).inside = none := by
  unfold beginReconcile
  simp only
  split
  · split <;> rfl
  · split
    · split
      · rfl
      · split <;> rfl
    · split
      · split <;> rfl
      · rfl

lemma inside_mayAsk (now started : Time) (entry : JournalEntry) (card : CardPayment) :
    (TimTask.reconcile entry (mayAsk cfg now started entry.job card)).inside = none := by
  unfold mayAsk
  simp only
  split
  · rfl
  · split
    · rfl
    · split <;> rfl

lemma inside_afterReading (entry : JournalEntry) (card : CardPayment)
    (r : Except SessionFail ErrandEnd) :
    (TimTask.reconcile entry (afterReading card r)).inside = none := by
  unfold afterReading
  split <;> rfl

lemma inside_judge (entry : JournalEntry) (card : CardPayment) (tid : Option String)
    (last : LastTransaction) (later : Bool) :
    (TimTask.reconcile entry (judge card tid last later)).inside = none := by
  unfold judge
  split
  · rfl
  · split <;> rfl
  · rfl

lemma inside_shiftAgain (entry : JournalEntry) (op : TerminalOp) (later : Bool) :
    (TimTask.reconcile entry (shiftAgain cfg entry.job op later)).inside = none := by
  unfold shiftAgain
  split
  · rfl
  · split
    · rfl
    · split <;> rfl

lemma inside_afterRerun (entry : JournalEntry) (r : Except SessionFail ErrandEnd) :
    (TimTask.reconcile entry (afterRerun r)).inside = none := by
  unfold afterRerun
  split <;> rfl

lemma reconcileStep_guarded {entry : JournalEntry} {pc pc' : ReconcilePc}
    (h : reconcileStep cfg now i entry s pc ev = some (pc', s')) :
    CallGuarded (.reconcile entry pc) (.reconcile entry pc') i s s' := by
  cases ReconcileMove.of_step h with
  | begin => exact .reconcile_quiet rfl (inside_beginReconcile _) rfl rfl
  | told _ _ _ hpc =>
    refine .reconcile_quiet ?_ (inside_answered _ _) rfl rfl
    rcases hpc with rfl | ⟨op, target, rfl⟩ | ⟨op, target, row, rfl⟩ <;> rfl
  | asked => exact .reconcile_quiet rfl (inside_mayAsk _ _ _ _) rfl rfl
  | reading _ _ _ _ _ hx => exact .of_session (.of_step hx) rfl rfl rfl rfl
  | running _ _ _ _ hx => exact .of_session (.of_step hx) rfl rfl rfl rfl
  | read _ x r hr =>
    refine .reconcile_quiet ?_ (inside_afterReading _ _ _) rfl rfl
    rw [TimTask.inside, Session.inside, hr]
  | reran x r hr =>
    refine .reconcile_quiet ?_ (inside_afterRerun _ _) rfl rfl
    rw [TimTask.inside, Session.inside, hr]
  | judged => exact .reconcile_quiet rfl (inside_judge _ _ _ _ _) rfl rfl
  | shift => exact .reconcile_quiet rfl (inside_shiftAgain _ _ _) rfl rfl
  | charged | person => exact .reconcile_quiet rfl (inside_answered _ _) rfl rfl
  | found | settled => exact .reconcile_quiet rfl rfl rfl rfl

lemma safetyLoopStep_guarded {pc pc' : SafetyPc}
    (h : safetyLoopStep cfg now i s pc ev = some (pc', s')) :
    CallGuarded (.safety pc) (.safety pc') i s s' := by
  cases SafetyLoopMove.of_step h with
  | slept _ _ hpc =>
    refine .of_quiet rfl ?_ rfl rfl
    rcases hpc with rfl | ⟨date, midnight, rfl⟩ <;> rfl
  | session _ _ _ _ _ _ _ hx => exact .of_session (.of_step hx) rfl rfl rfl rfl
  | finished x r _ _ _ hr =>
    refine .of_quiet rfl ?_ rfl rfl
    have hout : x.inside = none := by rw [Session.inside, hr]
    rw [TimTask.inside, hout]
    unfold afterSafety
    split <;> rfl
  | woke | skipped | began | recorded => exact .of_quiet rfl rfl rfl rfl

lemma TimMove.guarded {t t' : TimTask} (h : TimMove cfg now i s t ev t' s') :
    CallGuarded t t' i s s' := by
  cases h with
  | elapsed => exact .of_quiet rfl rfl rfl rfl
  | twoPhase _ _ _ _ _ _ hmove => exact hmove.guarded
  | settle job op pc pc' _ _ hmove => cases hmove <;> exact .of_quiet rfl rfl rfl rfl
  | op _ _ _ _ _ hstep => exact opTaskStep_guarded hstep
  | reconcile _ _ _ _ _ hstep => exact reconcileStep_guarded hstep
  | safety _ _ _ _ hstep => exact safetyLoopStep_guarded hstep

end Calls

/-! ### Runs -/

variable {F : Executor} {cfg : TimConfig} {timing : Timing}

/-- The terminal whose session the call `i` is inside. -/
def inside (w : World (cardWith F cfg)) (i : ℕ) : Option String :=
  match w.proc.tasks i with
  | some (.inr t) => t.inside
  | _ => none

lemma inside_some {w : World (cardWith F cfg)} {i : ℕ} {ip : String} (h : inside w i = some ip) :
    ∃ t, w.proc.tasks i = some (.inr t) ∧ t.inside = some ip := by
  unfold inside at h
  split at h
  · rename_i t ht
    exact ⟨t, ht, h⟩
  · cases h

lemma inside_task {w : World (cardWith F cfg)} {i : ℕ} {t : TimTask}
    (h : w.proc.tasks i = some (.inr t)) : inside w i = t.inside := by
  rw [inside, h]

/-- Whoever is inside a session holds the lock of its terminal. -/
lemma held_of_reach {law : Transition.Law (World (cardWith F cfg)) (Event (cardWith F cfg))}
    {w : World (cardWith F cfg)} (h : (source (cardWith F cfg) timing).Reach law w) :
    Locks.Held w.proc.vol.2.sessions (inside w) := by
  refine h.invariant (P := fun w => Locks.Held w.proc.vol.2.sessions (inside w)) ?_ ?_
  · exact Locks.Held.of_none fun _ => rfl
  · intro a e b _ ih hstep _
    cases CardMove.of_step hstep with
    | other hdev hvol htasks =>
      rw [hvol]
      refine ih.mono fun i ip hi => ?_
      obtain ⟨t, ht, hin⟩ := inside_some hi
      rcases htasks i t ht with hold | hnew
      · rw [inside_task hold, hin]
      · cases hnew with
        | execute q entry =>
          rw [TimTask.inside_executeCard] at hin
          cases hin
        | reconcile => cases hin
    | wiped hdev hvol htasks =>
      refine Locks.Held.of_none fun i => ?_
      by_contra hne
      obtain ⟨ip, hi⟩ := Option.ne_none_iff_exists'.mp hne
      obtain ⟨t, ht, hin⟩ := inside_some hi
      rw [htasks i t ht] at hin
      cases hin
    | stepped i ev t t' he htask hmove htasks =>
      have hself : b.proc.tasks i = some (.inr t') := by rw [htasks, Function.update_self]
      refine ih.step (i := i) ?_ fun j hj => ?_
      · rw [inside_task htask, inside_task hself]
        exact hmove.guarded.locks
      · rw [inside, inside, htasks, Function.update_of_ne hj]

/-- Whatever the calls, the crashes and the restarts: no two calls are inside a session with one
terminal, and all that passes with a terminal in a step belongs to the job of a call inside,
while no other call is. -/
theorem terminal_serves_one_session (F : Executor) (cfg : TimConfig) (timing : Timing)
    {w : World (cardWith F cfg)} (h : (source (cardWith F cfg) timing).Reach Transition.free w) :
    (∀ i j ip, inside w i = some ip → inside w j = some ip → i = j) ∧
    ∀ e w', (source (cardWith F cfg) timing).step w e = some w' →
      ∃ new, w'.dev.2.log = new ++ w.dev.2.log ∧ ∀ m ∈ new, ∃ i t,
        w.proc.tasks i = some (.inr t) ∧ m.jobId = t.jobId ∧
        (inside w i = some m.ip ∨ inside w' i = some m.ip) ∧
        ∀ j, j ≠ i → inside w j ≠ some m.ip ∧ inside w' j ≠ some m.ip := by
  refine ⟨fun i j ip hi hj => (held_of_reach h).exclusive hi hj, fun e w' hstep => ?_⟩
  have h' : (source (cardWith F cfg) timing).Reach Transition.free w' :=
    h.move ⟨e, hstep, trivial⟩
  cases CardMove.of_step hstep with
  | other hdev => exact ⟨[], by rw [hdev]; rfl, by simp⟩
  | wiped hdev => exact ⟨[], by rw [hdev]; rfl, by simp⟩
  | stepped i ev t t' he htask hmove htasks =>
    have hself : w'.proc.tasks i = some (.inr t') := by rw [htasks, Function.update_self]
    obtain ⟨new, hlog, hnew⟩ := hmove.guarded.talks
    refine ⟨new, hlog, fun m hm => ?_⟩
    obtain ⟨hjob, hin⟩ := hnew m hm
    rw [← inside_task htask, ← inside_task hself] at hin
    refine ⟨i, t, htask, hjob, hin, fun j hj => ?_⟩
    have hsame : inside w' j = inside w j := by
      rw [inside, inside, htasks, Function.update_of_ne hj]
    rw [hsame, and_self]
    intro hin'
    rcases hin with hin | hin
    · exact hj ((held_of_reach h).exclusive hin' hin)
    · exact hj ((held_of_reach h').exclusive (hsame.trans hin') hin)

/-- One till with one terminal. -/
def oneTerminal : TimConfig where
  terminals := [⟨1, "10.0.0.7", none, 60⟩]
  libraryLoaded := true
  hasPrinter := false
  deadline := 30000
  localTime _ := ⟨"2026-01-05", 600, 1000⟩
  jsonText _ := ""
  floatText _ := ""
  readFloat := id
  nodup := by simp

/-- A reply of Odoo to `next` that hands out a reversal. -/
def replyWithReversal (id : ℤ) : Reply :=
  .ok (.obj [("job", .obj [("client_uuid", .str "u1"), ("id", Json.ofInt id),
      ("kasa", .obj [("id", Json.ofInt 1)]),
      ("payload", .obj [("amount", Json.ofInt 5), ("trans_seq", Json.ofInt 41)]),
      ("type", .str "card.reversal")]),
    ("ok", .bool true)])

/-- The events from the start of the process until a reversal is sent to a terminal that does not
tell its last transaction. -/
def runUntilReversal (F : Executor) (first : ℕ) (id : ℤ) :
    List (Event (cardWith F oneTerminal)) :=
  let q : DeviceQueue := ⟨.card, "10.0.0.7"⟩
  [.start 4, .control .poll, .odoo (.answerPending (replyWithPending [])),
    .control (.arrive true), .control (.entry true), .control .poll,
    .odoo (.answerNext (replyWithReversal id)), .control (.arrive true),
    .control (.enqueue true true), .worker q (.take true), .worker q (.start true)] ++
  [.go, .go, .answer .done, .answer .done, .answer .done, .answer (.tid (some "t1")), .go,
    .answer (.failed ⟨"last", 14⟩), .go, .go].map fun ev => .task first (.inr ev)

/-- While the reversal is under way nobody else is inside a session. -/
theorem terminal_serves_one_session_reversal :
    ∃ w, (source (cardWith Executor.absent oneTerminal) Timing.default).Reach Transition.free w ∧
      w.dev.2.log.head? = some (.sent "10.0.0.7" (some 7) (.reversal 41) none) ∧
      inside w 1 = some "10.0.0.7" ∧ ∀ i, inside w i = some "10.0.0.7" → i = 1 := by
  obtain ⟨w, hreach, hw⟩ := Transition.reach_of_run
    (source (cardWith Executor.absent oneTerminal) Timing.default)
    (runUntilReversal Executor.absent 1 7)
    (fun w => decide (w.dev.2.log.head? = some (.sent "10.0.0.7" (some 7) (.reversal 41) none)) &&
      decide (inside w 1 = some "10.0.0.7")) (by decide +kernel)
  simp only [Bool.and_eq_true, decide_eq_true_eq] at hw
  have hmain := terminal_serves_one_session Executor.absent oneTerminal Timing.default hreach
  exact ⟨w, hreach, hw.1, hw.2, fun i hi => hmain.1 i 1 _ hi hw.2⟩

end DevBridge.Tim

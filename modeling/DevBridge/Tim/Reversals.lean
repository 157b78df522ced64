import DevBridge.Portos.Calls
import DevBridge.Tim.Contacts
import DevBridge.Tim.Jobs

/-!
# The contacts of reversals

The steps of the session of a reversal, and of the job around it: when its contact is journaled
and when it is sent.  In the bridge the contact of a reversal is journaled by the call of that
very reversal, in the step that sends it.
-/

namespace DevBridge

/-- A card contact is the first one of a job that is executing. -/
lemma Journal.contact_of_cardContactOf {j j' : Journal} {now : Time} {jobId amountMinor txType : ℤ}
    {ip : String} {base target : Option ℤ}
    (h : j.cardContactOf now jobId ip amountMinor base txType target = some (true, j')) :
    ∃ e e', j.get jobId = some e ∧ e.state = .executing ∧ e.deviceContactAt = none ∧
      j'.get jobId = some e' ∧ e'.job = e.job ∧ e'.state = .executing ∧
      e'.deviceContactAt.isSome := by
  obtain ⟨hget, ⟨d, hd, hstate, hnone⟩, -⟩ := cardContactOf_true h
  have hpos := (j.odooIds jobId d hd).1
  have hrow : j.get jobId = some d := by rw [get_of_odoo _ hpos.le, hd]
  have hset : RowOp.cardContact.apply .odoo now d = RowOp.cardContact.set .odoo now d := by
    simp [RowOp.apply, RowOp.guard, hnone, hstate]
  refine ⟨d, _, hrow, hstate, hnone, by rw [hget, hrow]; rfl, ?_⟩
  dsimp only
  rw [if_pos ⟨rfl, hpos⟩, hset]
  exact ⟨rfl, hstate, rfl⟩

namespace Tim

/-! ### Reversals of a payment -/

/-- The job asks the terminal to reverse a payment. -/
def Reverses (cfg : TimConfig) (job : DeviceJob) (ip : String) (seq : ℤ) : Prop :=
  job.jobType = JOB_REVERSAL ∧ ∃ spec amount, jobSpec cfg job = some spec ∧ spec.ip = ip ∧
    reversalTarget job = some (seq, amount)

/-- A job reverses one payment at most. -/
lemma Reverses.target {cfg : TimConfig} {job : DeviceJob} {ip ip' : String} {seq seq' : ℤ}
    (h : Reverses cfg job ip seq) (h' : Reverses cfg job ip' seq') : ip = ip' ∧ seq = seq' := by
  obtain ⟨-, spec, amount, hspec, rfl, htarget⟩ := h
  obtain ⟨-, spec', amount', hspec', rfl, htarget'⟩ := h'
  rw [hspec] at hspec'
  rw [htarget] at htarget'
  cases hspec'
  cases htarget'
  exact ⟨rfl, rfl⟩

/-- In this state of its session a reversal was sent. -/
def SessionPc.Sent : SessionPc → Prop
  | working _ .calling | working _ (.closed _) => True
  | pc => ∃ facts tid, pc.result = some (.ok (.reversal (.done facts tid)))

/-- The same of its call. -/
def OpPc.Sent : OpPc → Prop
  | session x => x.pc.Sent
  | transacted _ _ | returned (.done _) => True
  | _ => False

/-- The errand of a reversal is its own. -/
lemma Errand.Of.reversal {cfg : TimConfig} {job : DeviceJob} {spec : TerminalSpec} {x : Errand}
    (h : x.Of cfg job spec) (htype : job.jobType = JOB_REVERSAL) : ∃ run, x = .reversal run := by
  cases x with
  | reversal run => exact ⟨run, rfl⟩
  | op o jobId date =>
    have ho := h.1
    rw [htype] at ho
    cases ho
  | copy jobId transSeq =>
    have hcopy := h.1
    rw [htype] at hcopy
    exact absurd hcopy (by decide)
  | readLast | rerun _ | safety _ _ => exact h.elim

section Steps

variable {cfg : TimConfig} {now : Time} {i : ℕ} {ev : TimEvent} {s s' : TimState}

/-- What one step of the session of a reversal can do. -/
inductive ReversalSession (run : ReversalRun) (now : Time) (jobId : Option ℤ) (x : Session)
    (s : TimState) : Session → TimState → Prop
  | sends (tid : Option String) (base : Option ℤ) (j : Journal)
      (hpc : x.pc = .working tid (.contact base))
      (h : s.journal.cardContactOf now run.jobId x.spec.ip run.amountMinor base
        TRANSACTION_TYPE_REVERSAL (some run.transSeq) = some (true, j)) :
    ReversalSession run now jobId x s { x with pc := .working tid .calling }
      ((s.withJournal j).send x.spec.ip jobId (.reversal run.transSeq) none)
  /-- The journal has no other reversal of the payment that did not fail. -/
  | alone (tid : Option String) (base : Option ℤ) (s' : TimState)
      (hpc : x.pc = .working tid (.others base))
      (h : s.journal.cardOtherReversal x.spec.ip run.transSeq run.jobId = none)
      (hj : s'.journal = s.journal) (hdev : s'.dev = s.dev) :
    ReversalSession run now jobId x s { x with pc := .working tid (.contact base) } s'
  | rests (x' : Session) (s' : TimState) (hj : s'.journal = s.journal)
      (hpc : ∀ tid base, x'.pc ≠ .working tid (.contact base))
      (hsent : x'.pc.Sent → x.pc.Sent)
      (hasks : AsksOnly (fun call => ∀ seq, call ≠ .reversal seq) s s') :
    ReversalSession run now jobId x s x' s'

lemma sent_of_result {pc : SessionPc} {facts : TxFacts} {tid : Option String}
    (h : pc.result = some (.ok (.reversal (.done facts tid)))) : pc.Sent := by
  cases pc with
  | working _ _ => cases h
  | waiting | creating | connecting | loggingIn | readingId => cases h
  | loggingOut _ | disconnecting _ | ended _ => exact ⟨facts, tid, h⟩

lemma notReversal_of_ofSession {call : TerminalCall} (h : call.ofSession = true) (seq : ℤ) :
    call ≠ .reversal seq := by
  rintro rfl
  cases h

lemma listen_go (x : Session) (jobId : Option ℤ) (s : TimState) : x.listen jobId .go s = s := by
  unfold Session.listen
  cases x.callOf <;> rfl

lemma ReversalSession.of_move {run : ReversalRun} {jobId : Option ℤ} {x x' : Session}
    (hx : x.errand = .reversal run) (h : SessionMove cfg now jobId x s ev x' s') :
    ReversalSession run now jobId x s x' s' := by
  cases h with
  | around pc _ hj hasks hbegin hresult =>
    refine .rests _ _ hj ?_ ?_ (hasks.mono fun _ => notReversal_of_ofSession)
    · rintro tid base rfl
      cases hbegin tid _ rfl
    · intro hsent
      cases pc with
      | working tid p =>
        obtain rfl := hbegin tid p rfl
        obtain ⟨facts, tid', hr⟩ := hsent
        cases hr
      | waiting | creating | connecting | loggingIn | readingId =>
        obtain ⟨facts, tid', hr⟩ := hsent
        cases hr
      | loggingOut _ | disconnecting _ | ended _ =>
        obtain ⟨facts, tid', hr⟩ := hsent
        exact sent_of_result (hresult _ hr)
  | worked tid pc r hpc hr =>
    rw [hx] at hr
    obtain ⟨hj, -, hlisten⟩ := x.listen_frame jobId ev s
    have hasks : AsksOnly (fun call => ∀ seq, call ≠ .reversal seq) s (x.listen jobId ev s) :=
      hlisten.mono fun _ => notReversal_of_ofSession
    cases ReversalMove.of_step hr with
    | sent base j hcontact =>
      rw [listen_go] at hcontact ⊢
      exact .sends tid base j hpc hcontact
    | alone base hnone =>
      rw [hj] at hnone
      rw [listen_go]
      exact .alone tid base s hpc hnone rfl rfl
    | asked =>
      exact .rests _ _ hj (by rintro _ _ ⟨⟩) (by rintro ⟨_, _, ⟨⟩⟩)
        (hasks.send _ _ (by rintro _ ⟨⟩) _)
    | read a base =>
      exact .rests _ _ hj (by rintro _ _ ⟨⟩) (by rintro ⟨_, _, ⟨⟩⟩) hasks
    | known base =>
      exact .rests _ _ hj (by rintro _ _ ⟨⟩) (by rintro ⟨_, _, ⟨⟩⟩)
        (hasks.send _ _ (by rintro _ ⟨⟩) _)
    | answered facts =>
      exact .rests _ _ hj (by rintro _ _ ⟨⟩) (fun _ => by rw [hpc]; trivial)
        (hasks.send _ _ (by rintro _ ⟨⟩) _)
    | failed e =>
      exact .rests _ _ hj (by rintro _ _ ⟨⟩) (fun _ => by rw [hpc]; trivial) hasks
    | closed e _ proven =>
      exact .rests _ _ hj (by rintro _ _ ⟨⟩) (fun _ => by rw [hpc]; trivial)
        (hasks.send _ _ (by rintro _ ⟨⟩) _)
    | refused _ _ code text =>
      exact .rests _ _ hj (by rintro _ _ ⟨⟩) (by rintro ⟨_, _, ⟨⟩⟩)
        (hasks.send _ _ (by rintro _ ⟨⟩) _)

/-- Before its session a reversal was not sent. -/
lemma not_sent_oneSession (job : DeviceJob) (spec : TerminalSpec) (errand : Errand) :
    ¬ (oneSession cfg job spec errand).Sent := by
  unfold oneSession
  split
  · rintro ⟨_, _, ⟨⟩⟩
  · exact id

lemma not_sent_beginOp (job : DeviceJob) (stored : String → Option ℤ) :
    ¬ (beginOp cfg now job stored).Sent := by
  unfold beginOp
  split
  · split
    · exact not_sent_oneSession _ _ _
    · exact id
  · split
    · split <;> exact id
    · split
      · split
        · exact not_sent_oneSession _ _ _
        · exact id
      · exact id

/-- A reversal goes on to `done` only if it was sent. -/
lemma sent_of_afterSession {job : DeviceJob} {run : ReversalRun}
    {r : Except SessionFail ErrandEnd} (hends : ∀ e, r = .ok e → (Errand.reversal run).Ends e)
    (h : (afterSession job (.reversal run) r).Sent) :
    ∃ facts tid, r = .ok (.reversal (.done facts tid)) := by
  unfold afterSession at h
  split at h
  · rename_i e
    rcases e with _ | _ | _ <;> exact h.elim
  · exact ⟨_, _, rfl⟩
  · exact h.elim
  · exact h.elim
  · exact h.elim
  · exact (hends _ rfl).elim
  · exact (hends _ rfl).elim
  · exact h.elim

/-- A step after which a reversal was sent: it was sent before, or is sent now. -/
lemma sent_of_opTaskMove {job : DeviceJob} {pc pc' : OpPc} (hok : OpOk cfg job pc)
    (htype : job.jobType = JOB_REVERSAL) (h : OpTaskMove cfg now i job s pc ev pc' s')
    (hsent : pc'.Sent) :
    pc.Sent ∨ ∃ e, s'.journal.get job.id = some e ∧ e.deviceContactAt.isSome := by
  cases h with
  | begin _ stored => exact absurd hsent (not_sent_beginOp job stored)
  | found => exact hsent.elim
  | copied =>
    cases hok with
    | copyCard _ _ _ hcopy =>
      rw [htype] at hcopy
      exact absurd hcopy (by decide)
  | session x x' _ _ hx =>
    cases hok with
    | session _ herrand _ =>
      obtain ⟨run, hrun⟩ := herrand.reversal htype
      rw [hrun] at herrand
      cases ReversalSession.of_move hrun (.of_step hx) with
      | sends tid base j hpc hcontact =>
        rw [herrand.2.2.1] at hcontact
        obtain ⟨-, e', -, -, -, he', -, -, hc⟩ := Journal.contact_of_cardContactOf hcontact
        exact Or.inr ⟨e', he', hc⟩
      | alone =>
        obtain ⟨_, _, ⟨⟩⟩ := hsent
      | rests _ _ _ _ hbefore => exact Or.inl (hbefore hsent)
  | finished x r hr =>
    cases hok with
    | session _ herrand hends =>
      obtain ⟨run, hrun⟩ := herrand.reversal htype
      rw [hrun] at hsent hends
      obtain ⟨facts, tid, rfl⟩ := sent_of_afterSession (fun e he => hends e (by rw [hr, he]; rfl))
        hsent
      have hres : x.pc.result = some (.ok (.reversal (.done facts tid))) := by
        rw [hr]
        rfl
      exact Or.inl (sent_of_result hres)
  | transacted => exact Or.inl trivial
  | noted => exact hsent.elim
  | recorded =>
    cases hok with
    | recording _ _ hop =>
      rw [htype] at hop
      cases hop
  | printed =>
    cases hok with
    | printing _ _ _ hcopy =>
      rw [htype] at hcopy
      exact absurd hcopy (by decide)
  | refused _ _ _ outcome hnot =>
    cases outcome with
    | done result => exact absurd rfl (hnot result)
    | failed _ _ | indeterminate _ => exact hsent.elim

/-- Only the session of a reversal asks for one. -/
lemma errand_of_mayAsk {x : Errand} {seq : ℤ} (h : x.MayAsk (.reversal seq)) :
    ∃ run, x = .reversal run := by
  rcases h with h | h | ⟨h, -⟩
  · cases h
  · cases x with
    | reversal run => exact ⟨run, rfl⟩
    | op o _ _ | rerun o => cases o <;> cases h
    | readLast | copy _ _ | safety _ _ => cases h
  · cases h

/-- A call that sends a reversal has just journaled its contact. -/
lemma sent_reversal {t t' : TimTask} (hok : t.Ok cfg) (h : TimMove cfg now i s t ev t' s')
    {new : List TerminalEvent} (hlog : s'.dev.log = new ++ s.dev.log) {ip : String}
    {jobId : Option ℤ} {seq : ℤ} {settles : Option DeviceJob}
    (hsent : .sent ip jobId (.reversal seq) settles ∈ new) :
    ∃ job x run tid base, t = .op job (.session x) ∧ x.errand = .reversal run ∧
      x.pc = .working tid (.contact base) ∧ ip = x.spec.ip ∧ jobId = some job.id ∧
      seq = run.transSeq ∧
      s.journal.cardContactOf now run.jobId x.spec.ip run.amountMinor base
        TRANSACTION_TYPE_REVERSAL (some run.transSeq) = some (true, s'.journal) := by
  -- nothing is sent where the terminals stay as they are
  have hquiet : s'.dev = s.dev → False := by
    intro hdev
    rw [hdev, List.self_eq_append_left] at hlog
    rw [hlog] at hsent
    exact List.not_mem_nil hsent
  have hasks : t.MayAsk (.reversal seq) := by
    obtain ⟨new', hlog', hnew'⟩ := h.asks
    rw [hlog, List.append_cancel_right_eq] at hlog'
    subst hlog'
    exact hnew' _ hsent _ rfl
  cases h with
  | elapsed => exact (hquiet rfl).elim
  | twoPhase => cases hasks
  | settle => exact hasks.elim
  | op job pc pc' _ _ hop =>
    cases OpTaskMove.of_step hop with
    | session x x' _ _ hx =>
      obtain ⟨run, hrun⟩ : ∃ run, x.errand = .reversal run := by
        rcases hasks with hsession | hmay
        · cases hsession
        · exact errand_of_mayAsk hmay
      cases ReversalSession.of_move hrun (.of_step hx) with
      | sends tid base j hpc hcontact =>
        have hnew : new = [.sent x.spec.ip (some job.id) (.reversal run.transSeq) none] :=
          List.append_cancel_right (hlog.symm.trans rfl)
        rw [hnew, List.mem_singleton] at hsent
        cases hsent
        exact ⟨job, x, run, tid, base, rfl, hrun, hpc, rfl, rfl, rfl, hcontact⟩
      | alone _ _ _ _ _ _ hdev => exact (hquiet hdev).elim
      | rests _ _ _ _ _ hnot =>
        obtain ⟨new', hlog', hnew'⟩ := hnot
        rw [hlog, List.append_cancel_right_eq] at hlog'
        subst hlog'
        exact absurd rfl (hnew' _ hsent _ rfl seq)
    | begin | found | copied | finished | transacted | noted | recorded | printed | refused =>
      exact (hquiet rfl).elim
  | reconcile entry pc =>
    have hlooks := hok.1
    cases pc with
    | reading card x =>
      rcases hasks with hsession | hmay
      · cases hsession
      · obtain ⟨run, hrun⟩ := errand_of_mayAsk hmay
        rw [ReconcilePc.Looks, hrun] at hlooks
        cases hlooks
    | running x =>
      rcases hasks with hsession | hmay
      · cases hsession
      · obtain ⟨run, hrun⟩ := errand_of_mayAsk hmay
        rw [ReconcilePc.Looks, hrun] at hlooks
        obtain ⟨o, ⟨⟩⟩ := hlooks
    | start | card | asking _ | judging _ _ _ | charged _ _ _ | person _ | settleRow _ _
    | settleCard _ _ _ | shift _ | answered _ => exact hasks.elim
  | safety pc =>
    cases pc with
    | session x rest date midnight =>
      rcases hasks with hsession | hmay
      · cases hsession
      · obtain ⟨run, hrun⟩ := errand_of_mayAsk hmay
        have hday : x.errand = .safety date midnight := hok
        rw [hrun] at hday
        cases hday
    | idle | day _ _ _ | recording _ _ _ _ _ => exact hasks.elim

end Steps

/-! ### Contacts of the bridge -/

variable {p : PortosConfig} {cfg : TimConfig} {timing : Timing}
  {w w' : World (bridgeOf p cfg)} {e : Event (bridgeOf p cfg)}

/-- What a step of the bridge can do to the device contacts. -/
inductive ContactMove (w : World (bridgeOf p cfg)) (w' : World (bridgeOf p cfg)) : Prop
  | quiet (h : CardsLater (fun _ => False) w.journal w'.journal)
  | fiscal (i : ℕ) (job : DeviceJob) (pc : PortosPc)
      (htask : w.proc.tasks i = some (.inl (.execute job pc)))
      (h : CardsLater (· = job.id) w.journal w'.journal)
  | card (i : ℕ) (ev : TimEvent) (t t' : TimTask) (s : TimState)
      (htask : w.proc.tasks i = some (.inr t))
      (hmove : TimMove cfg w.clock i (cards w) t ev t' s) (hj : w'.journal = s.journal)

lemma ContactMove.of_step (h : w.step timing e = some w') : ContactMove w w' := by
  rcases (Shape.of_step h).cardsLater with ⟨i, ev, t, t', s, -, htask, hstep, hj⟩ | hquiet
  · cases ev with
    | inl ev =>
      cases t with
      | inr u => cases hstep
      | inl t =>
        simp only [Executor.stepLeft, Option.map_eq_some_iff, Prod.mk.injEq] at hstep
        obtain ⟨⟨t₁, s₁⟩, hstep, rfl, rfl⟩ := hstep
        cases PortosMove.of_step hstep with
        | contacted job kind key =>
          refine .fiscal i job _ htask ?_
          rw [hj]
          exact .markDeviceContact _ _ _
        | plan | decided | notFound | notContacted | sent | answered | controlled | planReconcile
        | reconciled | absent | listed =>
          refine .quiet ?_
          rw [hj]
          exact .refl _
    | inr ev =>
      cases t with
      | inl t => cases hstep
      | inr t =>
        simp only [Executor.stepRight, Option.map_eq_some_iff, Prod.mk.injEq] at hstep
        obtain ⟨⟨t₁, s₁⟩, hstep, rfl, rfl⟩ := hstep
        exact .card i ev t t₁ _ htask (TimMove.of_step hstep).1 hj
  · exact .quiet hquiet

/-- What a card row says stays as long as the row of its job does. -/
lemma ContactMove.cards (h : ContactMove w w') {id : ℤ} {c : CardPayment}
    (hc : w.journal.cardPayment id = some c) (hrow : (w'.journal.deviceJobs.get? id).isSome) :
    ∃ c', w'.journal.cardPayment id = some c' ∧ c.SameTarget c' := by
  cases h with
  | quiet h => exact h.cards id c hc hrow
  | fiscal i job pc htask h => exact h.cards id c hc hrow
  | card i ev t t' s htask hmove hj =>
    rw [hj] at hrow ⊢
    exact hmove.cardsLater.cards id c hc hrow

/-- The call `i` is a reversal whose session is in this state. -/
structure InReversal (w : World (bridgeOf p cfg)) (i : ℕ) (job : DeviceJob) (x : Session)
    (run : ReversalRun) (tid : Option String) (pc : ErrandPc) : Prop where
  task : w.proc.tasks i = some (.inr (.op job (.session x)))
  errand : x.errand = .reversal run
  pc : x.pc = .working tid pc

/-- What the journal knows of a reversal in its session. -/
structure KnownReversal (cfg : TimConfig) (j : Journal) (job : DeviceJob) (x : Session)
    (run : ReversalRun) : Prop where
  jobId : run.jobId = job.id
  reverses : Reverses cfg job x.spec.ip run.transSeq
  row : ∃ e, j.get job.id = some e ∧ e.job = job

section Reach

variable {law : Transition.Law (World (bridgeOf p cfg)) (Event (bridgeOf p cfg))}

lemma InReversal.known (h : (source (bridgeOf p cfg) timing).Reach law w) {i : ℕ}
    {job : DeviceJob} {x : Session} {run : ReversalRun} {tid : Option String} {pc : ErrandPc}
    (hi : InReversal w i job x run tid pc) : KnownReversal cfg w.journal job x run := by
  have hok : OpOk cfg job (.session x) := ok_of_reach h hi.task
  cases hok with
  | session _ herrand _ =>
    rw [hi.errand] at herrand
    obtain ⟨htype, hspec, hid, htarget⟩ := herrand
    exact ⟨hid, ⟨htype, _, _, hspec, rfl, htarget⟩, row_of_executes h hi.task rfl⟩

/-- A call whose next contact is that of a reversal is the session of that reversal. -/
lemma contacts_reversal (h : (source (bridgeOf p cfg) timing).Reach law w) {i : ℕ} {t : TimTask}
    (ht : w.proc.tasks i = some (.inr t)) {id : ℤ} (hid : t.contacts = some id)
    (hrow : ∀ e₀, w.journal.get id = some e₀ → e₀.job.jobType = JOB_REVERSAL) :
    ∃ job x run tid base, t = .op job (.session x) ∧
      InReversal w i job x run tid (.contact base) ∧ run.jobId = id := by
  have hok := ok_of_reach h ht
  -- a job that executes has its own row
  have htype : ∀ {job : DeviceJob}, t.executes = some job → job.id = id →
      job.jobType = JOB_REVERSAL := fun hjob hid => by
    obtain ⟨e₀, he₀, rfl⟩ := row_of_executes h ht hjob
    exact hrow e₀ (hid ▸ he₀)
  cases t with
  | twoPhase job kind pc =>
    cases hid
    have hkind : TwoPhase.ofJob job.jobType = some kind := hok
    rw [htype rfl rfl] at hkind
    cases hkind
  | settle job op pc => cases hid
  | op job pc =>
    cases hok with
    | session x herrand hends =>
      obtain ⟨spec, errand, pc⟩ := x
      cases pc with
      | working tid pc =>
        cases errand with
        | reversal run =>
          cases pc with
          | contact base =>
            cases hid
            exact ⟨job, _, run, tid, base, rfl, ⟨ht, rfl, rfl⟩, rfl⟩
          | begin | reading | calling | others _ | balanceRow | balancing _ | closed _
          | forget _ _ => cases hid
        | op o jobId date =>
          obtain ⟨ho, -, rfl⟩ := herrand
          cases pc with
          | begin =>
            cases hid
            rw [htype rfl rfl] at ho
            cases ho
          | contact _ | reading | calling | others _ | balanceRow | balancing _ | closed _
          | forget _ _ => cases hid
        | copy jobId transSeq =>
          obtain ⟨hcopy, rfl⟩ := herrand
          cases pc with
          | begin =>
            cases hid
            rw [htype rfl rfl] at hcopy
            exact absurd hcopy (by decide)
          | contact _ | reading | calling | others _ | balanceRow | balancing _ | closed _
          | forget _ _ => cases hid
        | readLast | rerun _ | safety _ _ => exact herrand.elim
      | waiting | creating | connecting | loggingIn | readingId | loggingOut _
      | disconnecting _ | ended _ => cases hid
    | start | copyRow | copyCard | transacted | ended | recording | printing | returned =>
      cases hid
  | reconcile entry pc =>
    -- a reconcile only looks
    have hlooks := hok.1
    cases pc with
    | reading card x =>
      obtain ⟨spec, errand, pc⟩ := x
      obtain rfl : errand = .readLast := hlooks
      cases pc with
      | working tid pc => cases pc <;> cases hid
      | waiting | creating | connecting | loggingIn | readingId | loggingOut _
      | disconnecting _ | ended _ => cases hid
    | running x =>
      obtain ⟨spec, errand, pc⟩ := x
      obtain ⟨o, rfl⟩ : ∃ o, errand = .rerun o := hlooks
      cases pc with
      | working tid pc => cases pc <;> cases hid
      | waiting | creating | connecting | loggingIn | readingId | loggingOut _
      | disconnecting _ | ended _ => cases hid
    | start | card | asking _ | judging _ _ _ | charged _ _ _ | person _ | settleRow _ _
    | settleCard _ _ _ | shift _ | answered _ => cases hid
  | safety pc =>
    cases pc with
    | session x rest date midnight =>
      obtain ⟨spec, errand, pc⟩ := x
      obtain rfl : errand = .safety date midnight := hok
      cases pc with
      | working tid pc => cases pc <;> cases hid
      | waiting | creating | connecting | loggingIn | readingId | loggingOut _
      | disconnecting _ | ended _ => cases hid
    | idle | day _ _ _ | recording _ _ _ _ _ => cases hid

/-- The contact of a reversal is journaled by its own call only. -/
lemma new_contact (h : (source (bridgeOf p cfg) timing).Reach law w)
    (hstep : w.step timing e = some w') {id : ℤ} {e' : JournalEntry}
    (he' : w'.journal.get id = some e') (htype : e'.job.jobType = JOB_REVERSAL)
    (hc : e'.deviceContactAt.isSome) :
    (∃ e₀, w.journal.get id = some e₀ ∧ e₀.deviceContactAt.isSome) ∨
    ∃ i job x run tid base, InReversal w i job x run tid (.contact base) ∧ run.jobId = id ∧
      w.journal.cardContactOf w.clock run.jobId x.spec.ip run.amountMinor base
        TRANSACTION_TYPE_REVERSAL (some run.transSeq) = some (true, w'.journal) := by
  have hrow : ∀ e₀, w.journal.get id = some e₀ → e₀.job.jobType = JOB_REVERSAL := fun e₀ he₀ => by
    rw [← htype, ((Shape.of_step hstep).jobs.rowLater he₀ he').job]
  cases ContactMove.of_step hstep with
  | quiet hl => exact Or.inl ((hl.contact id e' he' hc).resolve_left not_false)
  | fiscal i job pc htask hl =>
    refine Or.inl ((hl.contact id e' he' hc).resolve_left ?_)
    rintro rfl
    -- a receipt is no reversal
    obtain ⟨hfis, -⟩ := execute_called h htask
    obtain ⟨e₀, he₀, rfl, -⟩ := executing_of_running h htask
    rw [hrow e₀ he₀] at hfis
    cases hfis
  | card i ev t t' s htask hmove hj =>
    rw [hj] at he'
    rcases hmove.cardsLater.contact id e' he' hc with hnew | hold
    · obtain ⟨job, x, run, tid, base, rfl, hin, rfl⟩ := contacts_reversal h htask hnew hrow
      have hquiet : s.journal = w.journal → ∃ e₀, w.journal.get run.jobId = some e₀ ∧
          e₀.deviceContactAt.isSome := fun hs => ⟨e', by rw [← hs]; exact he', hc⟩
      cases hmove with
      | elapsed => exact Or.inl (hquiet rfl)
      | op _ _ pc' _ _ hop =>
        cases OpTaskMove.of_step hop with
        | session _ x' _ _ hx =>
          cases ReversalSession.of_move hin.errand (.of_step hx) with
          | sends tid' base' j hpc hcontact =>
            refine Or.inr ⟨i, job, x, run, tid', base', ⟨hin.task, hin.errand, hpc⟩, rfl, ?_⟩
            rw [hj]
            exact hcontact
          | alone tid' base' s' hpc =>
            rw [hin.pc] at hpc
            cases hpc
          | rests x' s' hs => exact Or.inl (hquiet hs)
        | finished _ r hr =>
          rw [hin.pc] at hr
          cases hr
    · exact Or.inl hold

/-- A call that begins was not sent. -/
lemma sent_of_begun {job : DeviceJob} {pc : OpPc} (h : Begun w w' (.op job pc)) : ¬ pc.Sent := by
  generalize ht : TimTask.op job pc = t at h
  cases h with
  | execute q entry =>
    unfold executeCard at ht
    split at ht
    · cases ht
    · split_ifs at ht
      cases ht
      exact id
  | reconcile => cases ht

end Reach

end Tim

end DevBridge

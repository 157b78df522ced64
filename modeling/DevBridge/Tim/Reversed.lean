import DevBridge.Portos.Failed
import DevBridge.Tim.Locks
import DevBridge.Tim.Reversals

/-!
# A payment is reversed once

A reversal is sent inside a session of its terminal: first the journal is asked for another
reversal of the payment, then the contact is journaled.  These are two steps, and between them
other calls write the journal; but no other reversal of the payment can be sent, since that
takes the session of the same terminal.
-/

namespace DevBridge.Tim

variable {p : PortosConfig} {cfg : TimConfig} {timing : Timing}
  {w w' : World (bridgeOf p cfg)} {e : Event (bridgeOf p cfg)}

section Reach

variable {law : Transition.Law (World (bridgeOf p cfg)) (Event (bridgeOf p cfg))}

/-! ### The invariant -/

/-- Every other reversal of the payment whose terminal was asked has failed. -/
def OnlyReversal (cfg : TimConfig) (j : Journal) (ip : String) (seq own : ℤ) : Prop :=
  ∀ id e, id ≠ own → j.get id = some e → Reverses cfg e.job ip seq →
    e.deviceContactAt.isSome → e.state = .failed

lemma inside_of_begun {t : TimTask} (h : Begun w w' t) : t.inside = none := by
  cases h with
  | execute q entry => exact TimTask.inside_executeCard entry.job
  | reconcile => rfl

/-- What the journal says of the reversals, and what their calls know. -/
structure ReversalInv (w : World (bridgeOf p cfg)) : Prop where
  /-- A reversal that reached its terminal has its card row. -/
  rows : ∀ id e, w.journal.get id = some e → e.job.jobType = JOB_REVERSAL →
    e.deviceContactAt.isSome → 0 < id ∧ ∃ c ip seq, w.journal.cardPayment id = some c ∧
      Reverses cfg e.job ip seq ∧ c.isReversalOf ip seq = true
  /-- Before it is sent the contact is journaled. -/
  sent : ∀ i job pc, w.proc.tasks i = some (.inr (.op job pc)) → job.jobType = JOB_REVERSAL →
    pc.Sent → ∃ e, w.journal.get job.id = some e ∧ e.deviceContactAt.isSome
  alone : ∀ i job x run tid base, InReversal w i job x run tid (.contact base) →
    OnlyReversal cfg w.journal x.spec.ip run.transSeq run.jobId
  done : ∀ id e, w.journal.get id = some e → e.job.jobType = JOB_REVERSAL → e.state = .done →
    e.deviceContactAt.isSome

/-- A reversal that nobody else asked for is the only one. -/
lemma onlyReversal_of_none {j : Journal} {ip : String} {seq own : ℤ}
    (hrows : ∀ id e, j.get id = some e → e.job.jobType = JOB_REVERSAL →
      e.deviceContactAt.isSome → 0 < id ∧ ∃ c ip seq, j.cardPayment id = some c ∧
        Reverses cfg e.job ip seq ∧ c.isReversalOf ip seq = true)
    (hnone : j.cardOtherReversal ip seq own = none) : OnlyReversal cfg j ip seq own := by
  intro id e hne he hrev hc
  obtain ⟨hpos, c, ip', seq', hcard, hrev', hc'⟩ := hrows id e he hrev.1 hc
  obtain ⟨rfl, rfl⟩ := hrev.target hrev'
  by_contra hstate
  unfold Journal.cardOtherReversal at hnone
  rw [List.head?_eq_none_iff, List.filterMap_eq_nil_iff] at hnone
  have hrow := hnone (id, c) (Table.mem_rows_iff.mpr hcard)
  rw [Journal.get_of_odoo j hpos.le] at he
  simp [hc', hne, he, hstate] at hrow

namespace ReversalInv

lemma rows_step (ih : ReversalInv w) (h : (source (bridgeOf p cfg) timing).Reach law w)
    (hstep : w.step timing e = some w') {id : ℤ} {e' : JournalEntry}
    (he' : w'.journal.get id = some e') (htype : e'.job.jobType = JOB_REVERSAL)
    (hc : e'.deviceContactAt.isSome) :
    0 < id ∧ ∃ c ip seq, w'.journal.cardPayment id = some c ∧ Reverses cfg e'.job ip seq ∧
      c.isReversalOf ip seq = true := by
  have hjobs := (Shape.of_step hstep).jobs
  rcases new_contact h hstep he' htype hc with
    ⟨e₀, he₀, hc₀⟩ | ⟨i, job, x, run, tid, base, hin, rfl, hcontact⟩
  · have hjob := (hjobs.rowLater he₀ he').job
    obtain ⟨hpos, c, ip, seq, hcard, hrev, hof⟩ := ih.rows id e₀ he₀ (hjob ▸ htype) hc₀
    have hrow : (w'.journal.deviceJobs.get? id).isSome := by
      rw [← Journal.get_of_odoo _ hpos.le, he']
      rfl
    obtain ⟨c', hcard', hip, htx, hseq⟩ := (ContactMove.of_step hstep).cards hcard hrow
    refine ⟨hpos, c', ip, seq, hcard', hjob ▸ hrev, ?_⟩
    rw [CardPayment.isReversalOf, hip, htx, hseq]
    exact hof
  · obtain ⟨hid, hrev, e₀, he₀, rfl⟩ := hin.known h
    obtain ⟨hget, ⟨d, hd, -⟩, -, hcards, -⟩ := Journal.cardContactOf_true hcontact
    have hjob := (hjobs.rowLater (hid ▸ he₀) he').job
    refine ⟨(w.journal.odooIds _ _ hd).1, _, x.spec.ip, run.transSeq,
      (hcards run.jobId).trans (if_pos rfl), hjob ▸ hrev, ?_⟩
    simp [CardPayment.isReversalOf, TRANSACTION_TYPE_REVERSAL]

/-- While the process runs no contact is lost. -/
lemma contact_kept (hstep : w.step timing e = some w') {id : ℤ} {e₀ : JournalEntry}
    (he : w.journal.get id = some e₀) (hc : e₀.deviceContactAt.isSome) :
    (∃ e', w'.journal.get id = some e' ∧ e'.deviceContactAt.isSome) ∨ ∃ n, w' = w.start n := by
  refine ((Shape.of_step hstep).row_kept he).imp_left ?_
  rintro ⟨e', he', hle⟩
  obtain ⟨t, ht⟩ := Option.isSome_iff_exists.mp hc
  exact ⟨e', he', by rw [hle.contact t ht]; rfl⟩

/-- No session with the terminal but one that reverses another payment can come between. -/
lemma only_step (h : (source (bridgeOf p cfg) timing).Reach law w)
    (hstep : w.step timing e = some w') {i : ℕ} {ip : String} {seq own : ℤ}
    (hin : inside w i = some ip)
    (hown : ∀ job x run tid base, InReversal w i job x run tid (.contact base) → run.jobId = own)
    (honly : OnlyReversal cfg w.journal ip seq own) :
    OnlyReversal cfg w'.journal ip seq own := by
  intro id e' hne he' hrev hc
  have hjobs := (Shape.of_step hstep).jobs
  rcases new_contact h hstep he' hrev.1 hc with
    ⟨e₀, he₀, hc₀⟩ | ⟨k, job, x, run, tid, base, hk, rfl, -⟩
  · have hle := hjobs.rowLater he₀ he'
    have hfailed := honly id e₀ hne he₀ (hle.job ▸ hrev) hc₀
    rw [hle.final (by rw [hfailed]; rfl), hfailed]
  · -- the one that is sent now is inside a session with the same terminal
    obtain ⟨hid, hrev', e₀, he₀, rfl⟩ := hk.known h
    have hjob := (hjobs.rowLater (hid ▸ he₀) he').job
    obtain ⟨rfl, rfl⟩ := hrev.target (hjob ▸ hrev')
    have hkin : inside w k = some x.spec.ip := by
      rw [inside_task hk.task, TimTask.inside, Session.inside, hk.pc]
    obtain rfl := (held_of_reach h).exclusive hkin hin
    exact absurd (hown _ _ _ _ _ hk) hne

/-- A reversal that was sent has its contact. -/
lemma sent_step (ih : ReversalInv w) (h : (source (bridgeOf p cfg) timing).Reach law w)
    (hstep : w.step timing e = some w') {i : ℕ} {job : DeviceJob} {pc : OpPc}
    (ht : w'.proc.tasks i = some (.inr (.op job pc))) (htype : job.jobType = JOB_REVERSAL)
    (hsent : pc.Sent) : ∃ e, w'.journal.get job.id = some e ∧ e.deviceContactAt.isSome := by
  -- it was sent before
  have hold : ∀ {pc₀}, w.proc.tasks i = some (.inr (.op job pc₀)) → pc₀.Sent →
      ∃ e, w'.journal.get job.id = some e ∧ e.deviceContactAt.isSome := by
    intro pc₀ ht₀ hsent₀
    obtain ⟨e₀, he₀, hc₀⟩ := ih.sent i job pc₀ ht₀ htype hsent₀
    rcases contact_kept hstep he₀ hc₀ with hkept | ⟨n, rfl⟩
    · exact hkept
    · cases background_inr ht
  cases CardMove.of_step hstep with
  | other hdev hvol htasks =>
    rcases htasks i _ ht with hsame | hnew
    · exact hold hsame hsent
    · exact (sent_of_begun hnew hsent).elim
  | wiped hdev hvol htasks => cases htasks i _ ht
  | stepped k ev t t' he htask hmove htasks =>
    rw [htasks] at ht
    by_cases hik : i = k
    · subst hik
      rw [Function.update_self] at ht
      cases ht
      generalize hs : cards w' = s' at hmove
      cases hmove with
      | elapsed => exact hold htask hsent
      | op _ pc₀ _ _ _ hop =>
        rcases sent_of_opTaskMove (ok_of_reach h htask) htype (OpTaskMove.of_step hop) hsent with
          hbefore | hnow
        · exact hold htask hbefore
        · rw [← hs] at hnow
          exact hnow
    · rw [Function.update_of_ne hik] at ht
      exact hold ht hsent

/-- Before a reversal is sent it is known to be the only one. -/
lemma alone_step (ih : ReversalInv w) (h : (source (bridgeOf p cfg) timing).Reach law w)
    (hstep : w.step timing e = some w') {i : ℕ} {job : DeviceJob} {x : Session}
    {run : ReversalRun} {tid : Option String} {base : Option ℤ}
    (hi : InReversal w' i job x run tid (.contact base)) :
    OnlyReversal cfg w'.journal x.spec.ip run.transSeq run.jobId := by
  -- it was known before
  have hold : InReversal w i job x run tid (.contact base) →
      OnlyReversal cfg w'.journal x.spec.ip run.transSeq run.jobId := by
    intro hi₀
    refine only_step h hstep (i := i) ?_ ?_ (ih.alone i job x run tid base hi₀)
    · rw [inside_task hi₀.task, TimTask.inside, Session.inside, hi₀.pc]
    · intro job' x' run' tid' base' hi'
      have htask := hi'.task
      rw [hi₀.task] at htask
      cases htask
      have herrand := hi'.errand
      rw [hi₀.errand] at herrand
      cases herrand
      rfl
  have hin : (TimTask.op job (.session x)).inside ≠ none := by
    rw [TimTask.inside, Session.inside, hi.pc]
    rintro ⟨⟩
  have ht := hi.task
  cases CardMove.of_step hstep with
  | other hdev hvol htasks =>
    rcases htasks i _ ht with hsame | hnew
    · exact hold ⟨hsame, hi.errand, hi.pc⟩
    · exact absurd (inside_of_begun hnew) hin
  | wiped hdev hvol htasks => cases htasks i _ ht
  | stepped k ev t t' he htask hmove htasks =>
    rw [htasks] at ht
    by_cases hik : i = k
    · subst hik
      rw [Function.update_self] at ht
      cases ht
      generalize hs : cards w' = s' at hmove
      cases hmove with
      | elapsed => exact hold ⟨htask, hi.errand, hi.pc⟩
      | op _ pc₀ _ _ _ hop =>
        have hmove := OpTaskMove.of_step hop
        generalize hpc' : OpPc.session x = pc' at hmove
        cases hmove with
        | begin => exact absurd (hpc' ▸ inside_beginOp _ _) hin
        | copied => exact absurd (hpc' ▸ inside_copyCard _ _ _ _ _) hin
        | finished => exact absurd (hpc' ▸ inside_afterSession _ _ _) hin
        | session x₀ x' _ _ hx =>
          cases hpc'
          have herrand : x₀.errand = .reversal run := by
            rw [← (SessionMove.of_step hx).keeps.1]
            exact hi.errand
          cases ReversalSession.of_move herrand (.of_step hx) with
          | sends => cases hi.pc
          | alone tid' base' _ hpc hnone hj =>
            rw [← hs] at hj
            change OnlyReversal cfg (cards w').journal _ _ _
            rw [hj]
            exact onlyReversal_of_none ih.rows hnone
          | rests _ _ hj hpc => exact absurd hi.pc (hpc tid base)
        | found | transacted | noted | recorded | printed | refused => cases hpc'
    · rw [Function.update_of_ne hik] at ht
      exact hold ⟨ht, hi.errand, hi.pc⟩

/-- A reversal that is `done` reached its terminal. -/
lemma done_step (ih : ReversalInv w) (h : (source (bridgeOf p cfg) timing).Reach law w)
    (hstep : w.step timing e = some w') {id : ℤ} {e' : JournalEntry}
    (he' : w'.journal.get id = some e') (htype : e'.job.jobType = JOB_REVERSAL)
    (hdone : e'.state = .done) : e'.deviceContactAt.isSome := by
  have hshape := Shape.of_step hstep
  cases hget : w.journal.get id with
  | none => exact absurd hdone (hshape.new_row hget he')
  | some e₀ =>
    have hle := hshape.jobs.rowLater hget he'
    rw [hle.job] at htype
    have hkept : e₀.deviceContactAt.isSome → e'.deviceContactAt.isSome := by
      intro hc
      obtain ⟨t, ht⟩ := Option.isSome_iff_exists.mp hc
      rw [hle.contact t ht]
      rfl
    by_cases hs : e₀.state = .done
    · exact hkept (ih.done id e₀ hget htype hs)
    have hcalls := callInv_of_reach h
    have htasks := taskInv_of_reach (cardStates (portos p) cfg) h
    cases hshape.done_cause hget he' hs hdone with
    | joined q task job t result hcall hid htask hout =>
      obtain ⟨-, e₁, he₁, rfl, -⟩ := hcalls.executing q task job hcall
      rw [hid, hget] at he₁
      cases he₁
      obtain ⟨t', ht', hof⟩ := htasks.called q task _ hcall
      rw [htask] at ht'
      cases ht'
      cases t with
      | inl u =>
        have hfis : Executor.isFiscal e₀.job.jobType = true := hof
        rw [htype] at hfis
        cases hfis
      | inr t =>
        have hok := ok_of_reach h htask
        obtain ⟨-, hof⟩ := hof
        cases t with
        | twoPhase job kind pc =>
          obtain ⟨rfl, hkind⟩ := hof
          rw [htype] at hkind
          cases hkind
        | settle job op pc =>
          obtain ⟨rfl, -⟩ := hof
          have hsettle : e₀.job.jobType = JOB_COMMIT ∨ e₀.job.jobType = JOB_ROLLBACK := hok
          rw [htype] at hsettle
          exact absurd hsettle (by decide)
        | op job pc =>
          obtain ⟨rfl, -⟩ := hof
          cases pc with
          | returned outcome =>
            obtain rfl : outcome = .done result := Option.some.inj hout
            obtain ⟨e₁, he₁, hc₁⟩ := ih.sent task e₀.job _ htask htype trivial
            rw [hid, hget] at he₁
            cases he₁
            exact hkept hc₁
          | start | copyRow | copyCard | session | transacted | ended | recording | printing =>
            cases hout
        | reconcile | safety => exact hof.elim
    | answered q task entry t result hcall hid htask hout =>
      obtain ⟨-, -, e₁, he₁, hle₁⟩ := hcalls.reconciling q task entry hcall
      rw [hid, hget] at he₁
      cases he₁
      obtain ⟨t', ht', hof⟩ := htasks.called q task _ hcall
      rw [htask] at ht'
      cases ht'
      cases t with
      | inl u =>
        have hfis : Executor.isFiscal entry.job.jobType = true := hof
        rw [← hle₁.job, htype] at hfis
        cases hfis
      | inr t =>
        have hok := ok_of_reach h htask
        obtain ⟨-, hof⟩ := hof
        cases t with
        | reconcile entry' pc =>
          obtain rfl : entry' = entry := hof
          cases pc with
          | answered answer =>
            obtain rfl : answer = .done result := Option.some.inj hout
            obtain ⟨t, ht⟩ := Option.isSome_iff_exists.mp (hok.2 (hle₁.job ▸ htype))
            exact hkept (by rw [hle₁.contact t ht]; rfl)
          | start | card | asking _ | reading _ _ | judging _ _ _ | charged _ _ _ | person _
          | settleRow _ _ | settleCard _ _ _ | shift _ | running _ => cases hout
        | twoPhase | settle | op | safety => exact hof.elim

end ReversalInv

lemma reversalInv_of_reach (h : (source (bridgeOf p cfg) timing).Reach law w) :
    ReversalInv w := by
  refine h.invariant (P := ReversalInv) ?_ ?_
  · have hempty : ∀ id, (source (bridgeOf p cfg) timing).init.journal.get id = none :=
      Journal.get_empty _
    refine ⟨?_, ?_, ?_, ?_⟩
    · rintro id e he
      rw [hempty] at he
      cases he
    · rintro _ _ _ ⟨⟩
    · rintro _ _ _ _ _ _ ⟨⟨⟩⟩
    · rintro id e he
      rw [hempty] at he
      cases he
  · intro a ev b ha ih hstep _
    exact ⟨fun _ _ he' htype hc => ih.rows_step ha hstep he' htype hc,
      fun _ _ _ ht htype hsent => ih.sent_step ha hstep ht htype hsent,
      fun _ _ _ _ _ _ hi => ih.alone_step ha hstep hi,
      fun _ _ he' htype hdone => ih.done_step ha hstep he' htype hdone⟩

/-- The job may have reversed the payment: its terminal was asked, and it did not fail. -/
def MayHaveReversed (cfg : TimConfig) (j : Journal) (ip : String) (seq id : ℤ) : Prop :=
  ∃ e, j.get id = some e ∧ Reverses cfg e.job ip seq ∧ e.deviceContactAt.isSome ∧
    e.state ≠ .failed

lemma OnlyReversal.not_mayHaveReversed {j : Journal} {ip : String} {seq own id : ℤ}
    (h : OnlyReversal cfg j ip seq own) (hne : id ≠ own) : ¬ MayHaveReversed cfg j ip seq id := by
  rintro ⟨e, he, hrev, hc, hstate⟩
  exact hstate (h id e hne he hrev hc)

/-- A step after which a job may have reversed a payment: it may have before, or its reversal is
sent now, and then nobody may have. -/
lemma mayHaveReversed_step (h : (source (bridgeOf p cfg) timing).Reach law w)
    (hstep : w.step timing e = some w') {ip : String} {seq id : ℤ}
    (hnow : MayHaveReversed cfg w'.journal ip seq id) :
    MayHaveReversed cfg w.journal ip seq id ∨
      ∀ id', id' ≠ id → ¬ MayHaveReversed cfg w'.journal ip seq id' := by
  obtain ⟨e', he', hrev, hc, hstate⟩ := hnow
  have hjobs := (Shape.of_step hstep).jobs
  rcases new_contact h hstep he' hrev.1 hc with
    ⟨e₀, he₀, hc₀⟩ | ⟨i, job, x, run, tid, base, hin, rfl, -⟩
  · have hle := hjobs.rowLater he₀ he'
    refine Or.inl ⟨e₀, he₀, hle.job ▸ hrev, hc₀, fun hfailed => hstate ?_⟩
    rw [hle.final (by rw [hfailed]; rfl), hfailed]
  · refine Or.inr fun id' hne => ?_
    obtain ⟨hid, hrev', e₀, he₀, rfl⟩ := hin.known h
    have hjob := (hjobs.rowLater (hid ▸ he₀) he').job
    obtain ⟨rfl, rfl⟩ := hrev.target (hjob ▸ hrev')
    have hinside : inside w i = some x.spec.ip := by
      rw [inside_task hin.task, TimTask.inside, Session.inside, hin.pc]
    refine (ReversalInv.only_step h hstep hinside ?_
      ((reversalInv_of_reach h).alone _ _ _ _ _ _ hin)).not_mayHaveReversed hne
    intro job' x' run' tid' base' hi'
    have htask := hi'.task
    rw [hin.task] at htask
    cases htask
    have herrand := hi'.errand
    rw [hin.errand] at herrand
    cases herrand
    rfl

/-- No two jobs may have reversed one payment. -/
lemma mayHaveReversed_unique (h : (source (bridgeOf p cfg) timing).Reach law w) {ip : String}
    {seq id id' : ℤ} (hid : MayHaveReversed cfg w.journal ip seq id)
    (hid' : MayHaveReversed cfg w.journal ip seq id') : id = id' := by
  refine h.invariant (P := fun w : World (bridgeOf p cfg) => ∀ id id',
    MayHaveReversed cfg w.journal ip seq id → MayHaveReversed cfg w.journal ip seq id' →
      id = id') ?_ ?_ id id' hid hid'
  · rintro id id' ⟨e, he, -⟩
    rw [show (source (bridgeOf p cfg) timing).init.journal = Journal.empty p.readFloat from rfl,
      Journal.get_empty] at he
    cases he
  · intro a ev b ha ih hstep _ id id' hid hid'
    by_contra hne
    rcases mayHaveReversed_step ha hstep hid with hold | hnew
    · rcases mayHaveReversed_step ha hstep hid' with hold' | hnew'
      · exact hne (ih id id' hold hold')
      · exact hnew' id hne hid
    · exact hnew id' (Ne.symm hne) hid'

end Reach

/-- Whatever the jobs, the answers, the crashes and the restarts: of all jobs that reverse a
payment at most one may have carried the reversal out, a reversal that is `done` is that one, and
a reversal is sent only while nobody may have, for a job that is executing and may have from then
on. -/
theorem payment_reversed_once (p : PortosConfig) (cfg : TimConfig) (timing : Timing)
    {w : World (bridgeOf p cfg)} (h : (source (bridgeOf p cfg) timing).Reach Transition.free w) :
    (∀ ip seq id id', MayHaveReversed cfg w.journal ip seq id →
      MayHaveReversed cfg w.journal ip seq id' → id = id') ∧
    (∀ id e ip seq, w.journal.get id = some e → Reverses cfg e.job ip seq → e.state = .done →
      MayHaveReversed cfg w.journal ip seq id) ∧
    ∀ e w' new ip jobId seq settles, (source (bridgeOf p cfg) timing).step w e = some w' →
      w'.dev.2.log = new ++ w.dev.2.log → .sent ip jobId (.reversal seq) settles ∈ new →
      (∀ id, ¬ MayHaveReversed cfg w.journal ip seq id) ∧
      ∃ id e₀, jobId = some id ∧ w.journal.get id = some e₀ ∧ e₀.state = .executing ∧
        MayHaveReversed cfg w'.journal ip seq id := by
  refine ⟨fun _ _ _ _ => mayHaveReversed_unique h, ?_, ?_⟩
  · intro id e ip seq he hrev hdone
    refine ⟨e, he, hrev, (reversalInv_of_reach h).done id e he hrev.1 hdone, ?_⟩
    rw [hdone]
    rintro ⟨⟩
  · intro e w' new ip jobId seq settles hstep hlog hsent
    have hquiet : w'.dev.2 = w.dev.2 → False := by
      intro hdev
      rw [hdev, List.self_eq_append_left] at hlog
      rw [hlog] at hsent
      exact List.not_mem_nil hsent
    cases CardMove.of_step hstep with
    | other hdev => exact (hquiet hdev).elim
    | wiped hdev => exact (hquiet hdev).elim
    | stepped i ev t t' he htask hmove htasks =>
      obtain ⟨job, x, run, tid, base, rfl, hrun, hpc, rfl, rfl, rfl, hcontact⟩ :=
        sent_reversal (ok_of_reach h htask) hmove hlog hsent
      have hin : InReversal w i job x run tid (.contact base) := ⟨htask, hrun, hpc⟩
      obtain ⟨hid, hrev, e₀, he₀, rfl⟩ := hin.known h
      obtain ⟨d, d', hd, hstate, hnone, hd', hjob, hstate', hc⟩ :=
        Journal.contact_of_cardContactOf hcontact
      obtain rfl : e₀ = d := Option.some.inj (he₀.symm.trans (hid ▸ hd))
      refine ⟨fun id => ?_, e₀.job.id, e₀, rfl, he₀, hstate, d', hid ▸ hd', hjob ▸ hrev, hc, ?_⟩
      · by_cases hne : id = run.jobId
        · rintro ⟨e₁, he₁, -, hc₁, -⟩
          obtain rfl : e₁ = e₀ := Option.some.inj (he₁.symm.trans (hne ▸ hd))
          rw [hnone] at hc₁
          cases hc₁
        · exact ((reversalInv_of_reach h).alone _ _ _ _ _ _ hin).not_mayHaveReversed hne
      · rw [hstate']
        rintro ⟨⟩

/-- Job 7 reverses the payment 41: nobody had before, and it is the only one that may have. -/
theorem payment_reversed_once_seven :
    ∃ w e w', (source (bridgeOf oneServer oneTerminal) Timing.default).Reach Transition.free w ∧
      (source (bridgeOf oneServer oneTerminal) Timing.default).step w e = some w' ∧
      (∀ id, ¬ MayHaveReversed oneTerminal w.journal "10.0.0.7" 41 id) ∧
      ∃ id, MayHaveReversed oneTerminal w'.journal "10.0.0.7" 41 id ∧
        ∀ id', MayHaveReversed oneTerminal w'.journal "10.0.0.7" 41 id' → id' = id := by
  obtain ⟨w, hreach, hw⟩ := Transition.reach_of_run
    (source (bridgeOf oneServer oneTerminal) Timing.default)
    (runUntilReversal (portos oneServer) 1 7).dropLast
    (fun w => decide (((source (bridgeOf oneServer oneTerminal) Timing.default).step w
      (.task 1 (.inr .go))).map (fun w' => w'.dev.2.log) =
        some (.sent "10.0.0.7" (some 7) (.reversal 41) none :: w.dev.2.log))) (by decide +kernel)
  simp only [decide_eq_true_eq, Option.map_eq_some_iff] at hw
  obtain ⟨w', hstep, hlog⟩ := hw
  obtain ⟨hbefore, id, e₀, -, -, -, hafter⟩ :=
    (payment_reversed_once oneServer oneTerminal Timing.default hreach).2.2 _ w' [_] _ _ _ _ hstep
      hlog (List.mem_singleton.mpr rfl)
  have hreach' := hreach.move ⟨_, hstep, trivial⟩
  exact ⟨w, _, w', hreach, hstep, hbefore, id, hafter, fun id' hid' =>
    (payment_reversed_once oneServer oneTerminal Timing.default hreach').1 _ _ _ _ hid' hafter⟩

end DevBridge.Tim

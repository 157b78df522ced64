import DevBridge.Portos.Executor
import DevBridge.Source.Calls

/-!
# The Portos calls of the source

The source with the Portos executor beside any card executor.  A running fiscal call belongs
to the worker of its Portos' queue, so no two calls talk to one Portos at the same time.
-/

namespace DevBridge

variable {cfg : PortosConfig} {C : Executor} {timing : Timing}

/-- The executors of the bridge: Portos and some card executor. -/
abbrev fiscalWith (cfg : PortosConfig) (C : Executor) : Executor := Executor.pair (portos cfg) C

/-! ### The states of a call -/

/-- The receipt that a call of `execute` is about, once it has asked for it. -/
def PortosPc.receipt : PortosPc → Option (ReceiptKind × ReceiptKey)
  | lookup kind key | contact kind key | send kind key | posting kind key _ => some (kind, key)
  | _ => none

/-- What holds in the states of a call of `execute`. -/
def PortosPc.Ok (cfg : PortosConfig) (job : DeviceJob) (pc : PortosPc) : Prop :=
  ∀ kind key, pc.receipt = some (kind, key) →
    FiscalOp.forJobType job.jobType = some (.register kind) ∧
      cfg.receiptKey job (.register kind) = some key

/-- What holds in the states of a call of `reconcile`: a receipt is answered `failed` only
when its device contact was not journaled. -/
def PortosReconcilePc.Ok (cfg : PortosConfig) (entry : JournalEntry) :
    PortosReconcilePc → Prop
  | start | unprocessed _ => True
  | lookup key => ∃ kind, FiscalOp.forJobType entry.job.jobType = some (.register kind) ∧
      cfg.receiptKey entry.job (.register kind) = some key
  | answered (.failed _ _) => entry.deviceContactAt = none ∨
      ∀ kind, FiscalOp.forJobType entry.job.jobType ≠ some (.register kind)
  | answered _ => True

/-- What a call was called with, and its states. -/
def fiscalOf (cfg : PortosConfig) (C : Executor) :
    DeviceJob ⊕ JournalEntry → PortosTask ⊕ C.Task → Prop
  | .inl job, .inl t =>
    Executor.isFiscal job.jobType = true ∧ ∃ pc, t = .execute job pc ∧ pc.Ok cfg job
  | .inr entry, .inl t =>
    Executor.isFiscal entry.job.jobType = true ∧ ∃ pc, t = .reconcile entry pc ∧ pc.Ok cfg entry
  | .inl job, .inr _ => Executor.isFiscal job.jobType = false
  | .inr entry, .inr _ => Executor.isFiscal entry.job.jobType = false

lemma plan_ok (cfg : PortosConfig) (job : DeviceJob) : (cfg.plan job).Ok cfg job := by
  intro kind key h
  unfold PortosConfig.plan at h
  split at h
  · rename_i kind' hop
    split at h
    · cases h
    · rename_i key' hkey
      cases h
      exact ⟨hop, hkey⟩
  · cases h
  · cases h

lemma planReconcile_ok (cfg : PortosConfig) (entry : JournalEntry) :
    (cfg.planReconcile entry.job).Ok cfg entry := by
  unfold PortosConfig.planReconcile
  split
  · rename_i kind hop
    split
    · trivial
    · rename_i key hkey
      exact ⟨kind, hop, hkey⟩
  · rename_i op hkind hop
    refine Or.inr fun kind hk => ?_
    rw [hop] at hk
    exact hkind kind (Option.some.inj hk)
  · trivial

lemma lookupAnswer_ne_failed {key : ReceiptKey} {l : Lookup} {code text : String} :
    lookupAnswer key l ≠ some (.failed code text) := by
  cases l with
  | found body =>
    simp only [lookupAnswer, ne_eq, Option.some.injEq]
    split <;> simp
  | notFound | unreachable _ | failed _ => simp [lookupAnswer]

/-- A step of a call keeps what it was called with, and its states well-formed. -/
lemma PortosMove.fiscalOf {now : Time} {ev : PortosEvent} {t t' : PortosTask}
    {s s' : PortosState} (h : PortosMove cfg now s t ev t' s') {c : DeviceJob ⊕ JournalEntry}
    (hc : fiscalOf cfg C c (.inl t)) : fiscalOf cfg C c (.inl t') := by
  cases c with
  | inl job =>
    obtain ⟨hfis, pc, rfl, hok⟩ := hc
    refine ⟨hfis, ?_⟩
    cases h with
    | plan => exact ⟨_, rfl, plan_ok cfg job⟩
    | notFound | contacted | sent => exact ⟨_, rfl, hok⟩
    | decided | notContacted | answered | controlled =>
      exact ⟨_, rfl, fun _ _ h => nomatch h⟩
  | inr entry =>
    obtain ⟨hfis, pc, rfl, hok⟩ := hc
    refine ⟨hfis, ?_⟩
    cases h with
    | planReconcile => exact ⟨_, rfl, planReconcile_ok cfg entry⟩
    | reconciled _ key reply answer hanswer =>
      refine ⟨_, rfl, ?_⟩
      cases answer with
      | failed code text => exact absurd hanswer lookupAnswer_ne_failed
      | done _ | stillUnknown _ => trivial
    | absent _ key reply =>
      refine ⟨_, rfl, ?_⟩
      unfold PortosConfig.reconcileNotFound
      split
      · trivial
      · rename_i hnone
        exact Or.inl (by simpa using hnone)
    | listed => exact ⟨_, rfl, trivial⟩

/-- The states of the calls of the two executors. -/
lemma fiscalStates (cfg : PortosConfig) (C : Executor) :
    CallStates (fiscalWith cfg C) (fiscalOf cfg C) (fun t => ∃ u, t = .inr u) where
  execute job := by
    unfold fiscalWith
    cases h : Executor.isFiscal job.jobType with
    | true =>
      simp only [h, if_true]
      exact ⟨h, .start, rfl, by rintro _ _ ⟨⟩⟩
    | false =>
      simp only [h]
      exact h
  reconcile entry := by
    unfold fiscalWith
    cases h : Executor.isFiscal entry.job.jobType with
    | true =>
      simp only [h, if_true]
      exact ⟨h, .start, rfl, trivial⟩
    | false =>
      simp only [h]
      exact h
  background t ht := by
    simp only [List.map_nil, List.nil_append, List.mem_map] at ht
    obtain ⟨u, -, rfl⟩ := ht
    exact ⟨u, rfl⟩
  step := by
    intro now i ev t s t' s' h
    cases ev with
    | inl ev =>
      cases t with
      | inr u => cases h
      | inl t =>
        simp only [Executor.stepLeft, Option.map_eq_some_iff, Prod.mk.injEq] at h
        obtain ⟨⟨t₁, s₁⟩, hstep, rfl, -⟩ := h
        exact ⟨fun c hc => (PortosMove.of_step hstep).fiscalOf hc, by rintro ⟨u, ⟨⟩⟩⟩
    | inr ev =>
      cases t with
      | inl t => cases h
      | inr u =>
        simp only [Executor.stepRight, Option.map_eq_some_iff, Prod.mk.injEq] at h
        obtain ⟨r, -, rfl, -⟩ := h
        refine ⟨fun c hc => ?_, fun _ => ⟨_, rfl⟩⟩
        cases c <;> exact hc

/-! ### The calls in a run -/

section Reach

variable {law : Transition.Law (World (fiscalWith cfg C)) (Event (fiscalWith cfg C))}
  {w : World (fiscalWith cfg C)}

/-- A running fiscal call belongs to the worker of its queue. -/
lemma fiscal_owned (h : (source (fiscalWith cfg C) timing).Reach law w) {i : ℕ} {t : PortosTask}
    (ht : w.proc.tasks i = some (.inl t)) :
    ∃ q c, w.call q = some (i, c) ∧ fiscalOf cfg C c (.inl t) := by
  have hinv := taskInv_of_reach (fiscalStates cfg C) h
  rcases hinv.owned i _ ht with ⟨u, hu⟩ | ⟨q, c, hc⟩ | ⟨job, hguard, hfis, -⟩
  · cases hu
  · obtain ⟨t', ht', hof⟩ := hinv.called q i c hc
    rw [ht] at ht'
    cases ht'
    exact ⟨q, c, hc, hof⟩
  · -- a fiscal job never outlasts its guard
    simp only [hfis, if_true] at hguard
    cases hguard

lemma execute_called (h : (source (fiscalWith cfg C) timing).Reach law w) {i : ℕ}
    {job : DeviceJob} {pc : PortosPc} (ht : w.proc.tasks i = some (.inl (.execute job pc))) :
    Executor.isFiscal job.jobType = true ∧ pc.Ok cfg job ∧
      ∃ q, w.call q = some (i, .inl job) := by
  obtain ⟨q, c, hc, hof⟩ := fiscal_owned h ht
  cases c with
  | inl job' =>
    obtain ⟨hfis, pc', heq, hok⟩ := hof
    cases heq
    exact ⟨hfis, hok, q, hc⟩
  | inr entry =>
    obtain ⟨-, _, heq, -⟩ := hof
    cases heq

lemma reconcile_called (h : (source (fiscalWith cfg C) timing).Reach law w) {i : ℕ}
    {entry : JournalEntry} {pc : PortosReconcilePc}
    (ht : w.proc.tasks i = some (.inl (.reconcile entry pc))) :
    Executor.isFiscal entry.job.jobType = true ∧ pc.Ok cfg entry ∧
      ∃ q, w.call q = some (i, .inr entry) := by
  obtain ⟨q, c, hc, hof⟩ := fiscal_owned h ht
  cases c with
  | inl job =>
    obtain ⟨-, _, heq, -⟩ := hof
    cases heq
  | inr entry' =>
    obtain ⟨hfis, pc', heq, hok⟩ := hof
    cases heq
    exact ⟨hfis, hok, q, hc⟩

/-- The job of a running execution is `executing`. -/
lemma executing_of_running (h : (source (fiscalWith cfg C) timing).Reach law w) {i : ℕ}
    {job : DeviceJob} {pc : PortosPc} (ht : w.proc.tasks i = some (.inl (.execute job pc))) :
    ∃ e, w.journal.get job.id = some e ∧ e.job = job ∧ e.state = .executing := by
  obtain ⟨hfis, -, q, hc⟩ := execute_called h ht
  obtain ⟨-, e, he, hjob, -, hstate⟩ := (callInv_of_reach h).executing q i job hc
  exact ⟨e, he, hjob, hstate (by simp [hfis])⟩

lemma queueOf_fiscal {job : DeviceJob} {q : DeviceQueue}
    (hfis : Executor.isFiscal job.jobType = true)
    (hq : (fiscalWith cfg C).queueOf job = some q) :
    q = ⟨.fiscal, cfg.urlFor job.kasaId⟩ := by
  have htype : DeviceKind.forJobType job.jobType = some .fiscal := by
    simpa [Executor.isFiscal] using hfis
  simpa [Executor.queueOf, htype, fiscalWith, hfis, eq_comm] using hq

/-- No two executions run on one Portos. -/
lemma register_serial (h : (source (fiscalWith cfg C) timing).Reach law w) {i i' : ℕ}
    {job job' : DeviceJob} {pc pc' : PortosPc}
    (ht : w.proc.tasks i = some (.inl (.execute job pc)))
    (ht' : w.proc.tasks i' = some (.inl (.execute job' pc')))
    (hbase : cfg.urlFor job'.kasaId = cfg.urlFor job.kasaId) : i' = i := by
  obtain ⟨hfis, -, q, hc⟩ := execute_called h ht
  obtain ⟨hfis', -, q', hc'⟩ := execute_called h ht'
  have hinv := callInv_of_reach h
  have hq := queueOf_fiscal hfis (hinv.executing q i job hc).1
  have hq' := queueOf_fiscal hfis' (hinv.executing q' i' job' hc').1
  rw [hq', hbase, ← hq, hc] at hc'
  cases hc'
  rfl

end Reach

/-! ### What a step does to the fiscal calls -/

lemma execute_inl {job : DeviceJob} {t : PortosTask}
    (h : (fiscalWith cfg C).execute job = .inl t) : t = .execute job .start := by
  unfold fiscalWith at h
  simp only at h
  split at h
  · exact (Sum.inl.inj h).symm
  · cases h

lemma reconcile_inl {entry : JournalEntry} {t : PortosTask}
    (h : (fiscalWith cfg C).reconcile entry = .inl t) : t = .reconcile entry .start := by
  unfold fiscalWith at h
  simp only at h
  split at h
  · exact (Sum.inl.inj h).symm
  · cases h

/-- What a step of the source does to the fiscal calls and to Portos. -/
inductive FiscalMove (w : World (fiscalWith cfg C)) (e : Event (fiscalWith cfg C))
    (w' : World (fiscalWith cfg C)) : Prop
  /-- Portos and the fiscal calls stay; a call may begin, and calls may be over. -/
  | other (hdev : w'.dev.1 = w.dev.1)
      (htasks : ∀ i t, w'.proc.tasks i = some (.inl t) → w.proc.tasks i = some (.inl t) ∨
        (∃ job, t = .execute job .start ∧ w'.log.executed = job.id :: w.log.executed) ∨
        ∃ entry, t = .reconcile entry .start)
  /-- Portos registers a receipt. -/
  | carried (number : ℕ) (receipt : String × Json)
      (he : e = .dev (.inl (.carryOut number receipt)))
      (hdev : Portos.devStep (.carryOut number receipt) w.dev.1 = some w'.dev.1)
      (hj : w'.journal = w.journal) (htasks : w'.proc.tasks = w.proc.tasks)
      (hcalls : ∀ q, w'.call q = w.call q) (hlog : w'.log = w.log)
  /-- A fiscal call takes a step. -/
  | stepped (i : ℕ) (ev : PortosEvent) (t t' : PortosTask) (he : e = .task i (.inl ev))
      (htask : w.proc.tasks i = some (.inl t))
      (hmove : PortosMove cfg w.clock ⟨w.journal, w.dev.1, ()⟩ t ev t'
        ⟨w'.journal, w'.dev.1, ()⟩)
      (htasks : w'.proc.tasks = Function.update w.proc.tasks i (some (.inl t')))
      (hcalls : ∀ q, w'.call q = w.call q) (hlog : w'.log = w.log)

namespace FiscalMove

variable {w w' : World (fiscalWith cfg C)} {e : Event (fiscalWith cfg C)}

lemma of_step (h : w.step timing e = some w') : FiscalMove w e w' := by
  have hshape := Shape.of_step h
  have hsame : w'.dev = w.dev → w'.proc.tasks = w.proc.tasks → FiscalMove w e w' :=
    fun hd ht => .other (by rw [hd]) fun i t h => Or.inl (ht ▸ h)
  have hdrop : ∀ task, w'.dev = w.dev →
      w'.proc.tasks = Function.update w.proc.tasks task none → FiscalMove w e w' := by
    intro task hd ht
    refine .other (by rw [hd]) fun i t h => Or.inl ?_
    rw [ht] at h
    by_cases hi : i = task
    · subst hi
      rw [Function.update_self] at h
      cases h
    · rwa [Function.update_of_ne hi] at h
  have hspawn : ∀ t₀, w'.dev = w.dev →
      w'.proc.tasks = Function.update w.proc.tasks w.proc.nextTask (some t₀) →
      (∀ t, t₀ = .inl t →
        (∃ job, t = .execute job .start ∧ w'.log.executed = job.id :: w.log.executed) ∨
        ∃ entry, t = .reconcile entry .start) → FiscalMove w e w' := by
    intro t₀ hd ht hnew
    refine .other (by rw [hd]) fun i t h => ?_
    rw [ht] at h
    by_cases hi : i = w.proc.nextTask
    · subst hi
      rw [Function.update_self] at h
      exact Or.inr (hnew t (Option.some.inj h))
    · rw [Function.update_of_ne hi] at h
      exact Or.inl h
  cases hshape with
  | quiet f | expired f | noWorker f | guarded f | noted f | acked f | authAcked f
  | reported f => exact hsame f.dev f.tasks
  | inserted _ _ f => exact hsame f.dev f.tasks
  | lanInserted _ _ f => exact hsame f.dev f.tasks
  | clock _ h =>
    subst h
    exact hsame rfl rfl
  | dev ev d hev hd h =>
    subst h
    cases ev with
    | inl ev =>
      simp only [Option.map_eq_some_iff] at hd
      obtain ⟨d₁, hd₁, rfl⟩ := hd
      cases ev with
      | carryOut number receipt => exact .carried number receipt hev hd₁ rfl rfl (fun _ => rfl) rfl
    | inr ev =>
      simp only [Option.map_eq_some_iff] at hd
      obtain ⟨d₂, -, rfl⟩ := hd
      exact .other rfl fun i t h => Or.inl h
  | execute q entry queuedAt hpc hrow h =>
    subst h
    exact hspawn _ rfl rfl fun t ht => Or.inl ⟨entry.job, execute_inl ht, rfl⟩
  | reconcile q jobId rest entry hpc hq hrow hstate h =>
    subst h
    exact hspawn _ rfl rfl fun t ht => Or.inr ⟨entry, reconcile_inl ht⟩
  | detached _ _ _ _ _ _ h =>
    subst h
    exact hsame rfl rfl
  | joined _ _ task _ _ _ _ _ _ _ _ h =>
    subst h
    exact hdrop task rfl rfl
  | answered _ _ task _ _ _ _ _ _ h =>
    subst h
    exact hdrop task rfl rfl
  | task i ev t t' s hev htask hstep h =>
    subst h
    cases ev with
    | inl ev =>
      cases t with
      | inr u => cases hstep
      | inl t =>
        simp only [Executor.stepLeft, Option.map_eq_some_iff, Prod.mk.injEq] at hstep
        obtain ⟨⟨t₁, s₁⟩, hstep, rfl, rfl⟩ := hstep
        exact .stepped i ev t t₁ hev htask (PortosMove.of_step hstep) rfl (fun _ => rfl) rfl
    | inr ev =>
      cases t with
      | inl t => cases hstep
      | inr u =>
        simp only [Executor.stepRight, Option.map_eq_some_iff, Prod.mk.injEq] at hstep
        obtain ⟨⟨t₁, s₁⟩, hstep, rfl, rfl⟩ := hstep
        refine .other rfl fun k t hk => Or.inl ?_
        change Function.update w.proc.tasks i (some (.inr t₁)) k = _ at hk
        by_cases hki : k = i
        · subst hki
          rw [Function.update_self] at hk
          cases hk
        · rwa [Function.update_of_ne hki] at hk
  | crash h =>
    subst h
    exact .other rfl (by rintro i t ⟨⟩)
  | start n hup h =>
    subst h
    refine .other rfl fun i t ht => ?_
    obtain ⟨u, hu⟩ := (fiscalStates cfg C).background _ (List.mem_of_getElem? ht)
    cases hu

end FiscalMove

end DevBridge

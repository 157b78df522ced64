import DevBridge.Tim.Moves
import DevBridge.Source.Calls

/-!
# The card calls in a run of the bridge

The source with the card executor beside any fiscal executor.  A step of the bridge is a step of
one card call, or it leaves the terminals and what the card calls share alone; only a crash and
a start wipe the shared memory out.
-/

namespace DevBridge

/-- The executors of the bridge: some fiscal executor and the terminals. -/
abbrev cardWith (F : Executor) (cfg : TimConfig) : Executor := Executor.pair F (tim cfg)

namespace Tim

variable {F : Executor} {cfg : TimConfig} {timing : Timing}

/-! ### The states of a call -/

/-- What a card call was called with, and its states. -/
def callOf : DeviceJob ⊕ JournalEntry → TimTask → Prop
  | .inl job, .twoPhase job' kind _ => job' = job ∧ TwoPhase.ofJob job.jobType = some kind
  | .inl job, .settle job' _ _ => job' = job ∧ TwoPhase.ofJob job.jobType = none
  | .inl job, .op job' _ => job' = job ∧ TwoPhase.ofJob job.jobType = none
  | .inr entry, .reconcile entry' _ => entry' = entry
  | _, _ => False

/-- The same for the calls of both executors. -/
def cardOf (F : Executor) : DeviceJob ⊕ JournalEntry → F.Task ⊕ TimTask → Prop
  | .inl job, .inl _ => Executor.isFiscal job.jobType = true
  | .inr entry, .inl _ => Executor.isFiscal entry.job.jobType = true
  | .inl job, .inr t => Executor.isFiscal job.jobType = false ∧ callOf (.inl job) t
  | .inr entry, .inr t => Executor.isFiscal entry.job.jobType = false ∧ callOf (.inr entry) t

lemma callOf_execute (job : DeviceJob) : callOf (.inl job) (executeCard job) := by
  unfold executeCard
  split
  · rename_i kind hkind
    exact ⟨rfl, hkind⟩
  · rename_i hnone
    split_ifs
    · exact ⟨rfl, hnone⟩
    · exact ⟨rfl, hnone⟩
    · exact ⟨rfl, hnone⟩

/-- A step of a call keeps what it was called with. -/
lemma TimMove.callOf {now : Time} {i : ℕ} {ev : TimEvent} {t t' : TimTask} {s s' : TimState}
    (h : TimMove cfg now i s t ev t' s') {c : DeviceJob ⊕ JournalEntry} (hc : callOf c t) :
    callOf c t' := by
  rcases c with job | entry <;> cases h <;> exact hc

/-- A call in the background: the safety balance, or one of the fiscal executor. -/
def Background (F : Executor) : F.Task ⊕ TimTask → Prop
  | .inl _ => True
  | .inr t => ∃ pc, t = .safety pc

/-- The states of the calls of both executors. -/
lemma cardStates (F : Executor) (cfg : TimConfig) :
    CallStates (cardWith F cfg) (cardOf F) (Background F) where
  execute job := by
    unfold cardWith
    cases h : Executor.isFiscal job.jobType with
    | true =>
      simp only [h, if_true]
      exact h
    | false =>
      simp only [h]
      exact ⟨h, callOf_execute job⟩
  reconcile entry := by
    unfold cardWith
    cases h : Executor.isFiscal entry.job.jobType with
    | true =>
      simp only [h, if_true]
      exact h
    | false =>
      simp only [h]
      exact ⟨h, rfl⟩
  background t ht := by
    rcases List.mem_append.mp ht with ht | ht
    · obtain ⟨u, -, rfl⟩ := List.mem_map.mp ht
      trivial
    · obtain ⟨u, hu, rfl⟩ := List.mem_map.mp ht
      exact ⟨_, List.mem_singleton.mp hu⟩
  step := by
    intro now i ev t s t' s' h
    cases ev with
    | inl ev =>
      cases t with
      | inr u => cases h
      | inl t =>
        simp only [Executor.stepLeft, Option.map_eq_some_iff, Prod.mk.injEq] at h
        obtain ⟨r, -, rfl, -⟩ := h
        refine ⟨fun c hc => ?_, fun _ => trivial⟩
        cases c <;> exact hc
    | inr ev =>
      cases t with
      | inl t => cases h
      | inr t =>
        simp only [Executor.stepRight, Option.map_eq_some_iff, Prod.mk.injEq] at h
        obtain ⟨⟨t₁, s₁⟩, hstep, rfl, -⟩ := h
        have hmove := (TimMove.of_step hstep).1
        refine ⟨fun c hc => ?_, ?_⟩
        · cases c <;> exact ⟨hc.1, hmove.callOf hc.2⟩
        · rintro ⟨pc, rfl⟩
          cases hmove with
          | elapsed => exact ⟨_, rfl⟩
          | safety pc pc' => exact ⟨_, rfl⟩

/-! ### Steps -/

/-- What the card calls see of a state. -/
def cards (w : World (cardWith F cfg)) : TimState := ⟨w.journal, w.dev.2, w.proc.vol.2⟩

/-- A card call that begins in a step. -/
inductive Begun (w w' : World (cardWith F cfg)) : TimTask → Prop
  | execute (q : DeviceQueue) (entry : JournalEntry) (queuedAt : ℕ)
      (hpc : w.proc.workers q = .starting entry queuedAt)
      (hj : w'.journal = (w.journal.startExecution w.clock entry.job.id).2) :
    Begun w w' (executeCard entry.job)
  | reconcile (id : ℤ) (entry : JournalEntry) (hrow : w.journal.get id = some entry)
      (hstate : entry.state = .indeterminate) (hj : w'.journal = w.journal) :
    Begun w w' (.reconcile entry .start)

/-- What a step of the bridge does to the card calls and to what they share. -/
inductive CardMove (w : World (cardWith F cfg)) (e : Event (cardWith F cfg))
    (w' : World (cardWith F cfg)) : Prop
  /-- No card call takes a step. -/
  | other (hdev : w'.dev.2 = w.dev.2) (hvol : w'.proc.vol.2 = w.proc.vol.2)
      (htasks : ∀ i t, w'.proc.tasks i = some (.inr t) →
        w.proc.tasks i = some (.inr t) ∨ Begun w w' t)
  /-- The process died, or begins. -/
  | wiped (hdev : w'.dev.2 = w.dev.2) (hvol : w'.proc.vol.2 = TimVol.init)
      (htasks : ∀ i t, w'.proc.tasks i = some (.inr t) → t = .safety .idle)
  /-- A card call takes a step. -/
  | stepped (i : ℕ) (ev : TimEvent) (t t' : TimTask) (he : e = .task i (.inr ev))
      (htask : w.proc.tasks i = some (.inr t))
      (hmove : TimMove cfg w.clock i (cards w) t ev t' (cards w'))
      (htasks : w'.proc.tasks = Function.update w.proc.tasks i (some (.inr t')))

lemma execute_inr {job : DeviceJob} {t : TimTask}
    (h : (cardWith F cfg).execute job = .inr t) : t = executeCard job := by
  unfold cardWith at h
  simp only at h
  split at h
  · cases h
  · exact (Sum.inr.inj h).symm

lemma reconcile_inr {entry : JournalEntry} {t : TimTask}
    (h : (cardWith F cfg).reconcile entry = .inr t) : t = .reconcile entry .start := by
  unfold cardWith at h
  simp only at h
  split at h
  · cases h
  · exact (Sum.inr.inj h).symm

lemma background_inr {i : ℕ} {t : TimTask}
    (h : (cardWith F cfg).background[i]? = some (.inr t)) : t = .safety .idle := by
  rcases List.mem_append.mp (List.mem_of_getElem? h) with ht | ht
  · obtain ⟨u, -, hu⟩ := List.mem_map.mp ht
    cases hu
  · obtain ⟨u, hu, heq⟩ := List.mem_map.mp ht
    cases heq
    exact List.mem_singleton.mp hu

lemma CardMove.of_step {w w' : World (cardWith F cfg)} {e : Event (cardWith F cfg)}
    (h : w.step timing e = some w') : CardMove w e w' := by
  have hsame : w'.dev = w.dev → w'.proc.vol = w.proc.vol → w'.proc.tasks = w.proc.tasks →
      CardMove w e w' := fun hd hv ht =>
    .other (by rw [hd]) (by rw [hv]) fun i t h => .inl (ht ▸ h)
  -- a call is over, or begins
  have hset : ∀ k t₀, w'.dev = w.dev → w'.proc.vol = w.proc.vol →
      w'.proc.tasks = Function.update w.proc.tasks k t₀ →
      (∀ t, t₀ = some (.inr t) → Begun w w' t) → CardMove w e w' := by
    intro k t₀ hd hv ht hnew
    refine .other (by rw [hd]) (by rw [hv]) fun i t h => ?_
    rw [ht] at h
    by_cases hi : i = k
    · subst hi
      rw [Function.update_self] at h
      exact .inr (hnew t h)
    · rw [Function.update_of_ne hi] at h
      exact .inl h
  cases Shape.of_step h with
  | quiet f | expired f | noWorker f | guarded f | noted f | acked f | authAcked f
  | reported f => exact hsame f.dev f.vol f.tasks
  | inserted _ _ f => exact hsame f.dev f.vol f.tasks
  | lanInserted _ _ f => exact hsame f.dev f.vol f.tasks
  | clock _ h | detached _ _ _ _ _ _ h =>
    subst h
    exact hsame rfl rfl rfl
  | dev ev d hev hd h =>
    subst h
    cases ev with
    | inl ev =>
      simp only [Option.map_eq_some_iff] at hd
      obtain ⟨d₁, -, rfl⟩ := hd
      exact .other rfl rfl fun i t h => .inl h
    | inr ev => cases ev
  | execute q entry queuedAt hpc hrow h =>
    subst h
    refine hset _ _ rfl rfl rfl fun t ht => ?_
    rw [execute_inr (Option.some.inj ht)]
    exact .execute q entry queuedAt hpc rfl
  | reconcile q jobId rest entry hpc hq hrow hstate h =>
    subst h
    refine hset _ _ rfl rfl rfl fun t ht => ?_
    rw [reconcile_inr (Option.some.inj ht)]
    exact .reconcile jobId entry hrow hstate rfl
  | joined _ _ task _ _ _ _ _ _ _ _ h =>
    subst h
    exact hset task none rfl rfl rfl (by rintro t ⟨⟩)
  | answered _ _ task _ _ _ _ _ _ h =>
    subst h
    exact hset task none rfl rfl rfl (by rintro t ⟨⟩)
  | task i ev t t' s hev htask hstep h =>
    subst h
    cases ev with
    | inl ev =>
      cases t with
      | inr u => cases hstep
      | inl t =>
        simp only [Executor.stepLeft, Option.map_eq_some_iff, Prod.mk.injEq] at hstep
        obtain ⟨⟨t₁, s₁⟩, -, rfl, rfl⟩ := hstep
        refine .other rfl rfl fun k t hk => .inl ?_
        change Function.update w.proc.tasks i (some (.inl t₁)) k = _ at hk
        by_cases hki : k = i
        · subst hki
          rw [Function.update_self] at hk
          cases hk
        · rwa [Function.update_of_ne hki] at hk
    | inr ev =>
      cases t with
      | inl t => cases hstep
      | inr t =>
        simp only [Executor.stepRight, Option.map_eq_some_iff, Prod.mk.injEq] at hstep
        obtain ⟨⟨t₁, s₁⟩, hstep, rfl, rfl⟩ := hstep
        exact .stepped i ev t t₁ hev htask (TimMove.of_step hstep).1 rfl
  | crash h =>
    subst h
    exact .wiped rfl rfl (by rintro i t ⟨⟩)
  | start n hup h =>
    subst h
    exact .wiped rfl rfl fun i t ht => background_inr ht

end Tim

end DevBridge

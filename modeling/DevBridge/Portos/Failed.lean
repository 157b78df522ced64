import DevBridge.Portos.Calls
import DevBridge.Source.Acks

/-!
# A `failed` receipt was not registered

A register request of a job is sent at most once, and only after its device contact is
journaled.  So a job can become `failed` only before the request is sent, by an answer to it
that refuses it, or by a reconcile of a job without a device contact, which never sent one.
-/

namespace DevBridge

variable {cfg : PortosConfig} {C : Executor} {timing : Timing}

/-! ### The register requests of a job -/

namespace Portos

variable (p : Portos) (id : ℤ)

/-- The register requests of a job: their numbers and what came back. -/
def attempts : List (ℕ × Option PortosReply) :=
  (p.posts.filter fun post => post.jobId = id).map fun post => (post.number, post.reply)

lemma attempts_send (jobId : ℤ) (key : ReceiptKey) (path : String) (body : Json) :
    (p.send jobId key path body).attempts id =
      if jobId = id then (p.posts.length, none) :: p.attempts id else p.attempts id := by
  unfold attempts send
  rw [List.filter_cons]
  by_cases h : jobId = id <;> simp [h]

lemma attempts_answer (number : ℕ) (reply : PortosReply) :
    (p.answer number reply).attempts id =
      (p.attempts id).map fun a => if a.1 = number then (a.1, some reply) else a := by
  unfold attempts answer
  simp only [List.filter_map, List.map_map]
  have hfilter : ((fun post : ReceiptPost => decide (post.jobId = id)) ∘ fun post =>
      if post.number = number then { post with reply := some reply } else post) =
      fun post => decide (post.jobId = id) := by
    funext post
    by_cases h : post.number = number <;> simp [h]
  rw [hfilter]
  refine List.map_congr_left fun post _ => ?_
  by_cases h : post.number = number <;> simp [h]

/-- A change that keeps the jobs, numbers and answers of the requests. -/
lemma attempts_map {f : ReceiptPost → ReceiptPost}
    (hf : ∀ post, (f post).jobId = post.jobId ∧ (f post).number = post.number ∧
      (f post).reply = post.reply) :
    (Portos.mk (p.posts.map f)).attempts id = p.attempts id := by
  unfold attempts
  simp only [List.filter_map, List.map_map]
  have hfilter : ((fun post : ReceiptPost => decide (post.jobId = id)) ∘ f) =
      fun post => decide (post.jobId = id) := by
    funext post
    simp [(hf post).1]
  rw [hfilter]
  refine List.map_congr_left fun post _ => ?_
  simp [(hf post).2.1, (hf post).2.2]

lemma attempts_overtake (key : ReceiptKey) : (p.overtake key).attempts id = p.attempts id :=
  p.attempts_map id fun post => by split <;> exact ⟨rfl, rfl, rfl⟩

lemma attempts_carryOut (number : ℕ) (receipt : String × Json) :
    (p.carryOut number receipt).attempts id = p.attempts id :=
  p.attempts_map id fun post => by split <;> exact ⟨rfl, rfl, rfl⟩

end Portos

/-- An answer that proves that nothing was registered. -/
def Refused (a : ℕ × Option PortosReply) : Prop := ∃ r, a.2 = some r ∧ r.refuses = true

/-- The register requests that a job may have in a state of its execution. -/
def PortosPc.Sent (attempts : List (ℕ × Option PortosReply)) : PortosPc → Prop
  | posting _ _ number => ∀ a ∈ attempts, a.1 = number
  | returned (.failed _ _) => ∀ a ∈ attempts, Refused a
  | returned _ => True
  | start | lookup _ _ | contact _ _ | send _ _ | control _ => attempts = []

/-- What is known of the register requests of a job. -/
structure AttemptInv (id : ℤ) (w : World (fiscalWith cfg C)) : Prop where
  once : (w.dev.1.attempts id).length ≤ 1
  executed : w.dev.1.attempts id ≠ [] → id ∈ w.log.executed
  numbers : ∀ a ∈ w.dev.1.attempts id, a.1 < w.dev.1.posts.length
  running : ∀ i job pc, w.proc.tasks i = some (.inl (.execute job pc)) → job.id = id →
    id ∈ w.log.executed ∧ pc.Sent (w.dev.1.attempts id)
  /-- An answer that another job waits for is not one to this job's request. -/
  others : ∀ i job kind key number,
    w.proc.tasks i = some (.inl (.execute job (.posting kind key number))) →
    number < w.dev.1.posts.length ∧
      (job.id ≠ id → ∀ a ∈ w.dev.1.attempts id, a.1 ≠ number)
  /-- The device contact is journaled before the request is sent. -/
  contacted : ∀ e, w.journal.get id = some e → e.deviceContactAt = none →
    w.dev.1.attempts id = [] ∧ ∀ i job kind key,
      w.proc.tasks i = some (.inl (.execute job (.send kind key))) → job.id ≠ id
  reconciling : ∀ q i entry, w.call q = some (i, .inr entry) → entry.job.id = id →
    entry.deviceContactAt = none → w.dev.1.attempts id = []

section Steps

variable {id : ℤ} {w w' : World (fiscalWith cfg C)}

/-- A job that was never executed has no requests. -/
lemma AttemptInv.none_of_not_executed (h : AttemptInv id w) (hx : id ∉ w.log.executed) :
    w.dev.1.attempts id = [] := by
  by_contra hne
  exact hx (h.executed hne)

/-- A job whose row appears in this step was not executed. -/
lemma not_executed_of_fresh (h : (source (fiscalWith cfg C) timing).Reach (NotReissued id) w)
    (hfresh : id ∉ w.log.journaled) : id ∉ w.log.executed := by
  intro hx
  rcases spent_of_executed h with h0 | ⟨-, hs⟩
  · exact List.count_eq_zero.mp h0 hx
  · exact hfresh hs.1

lemma not_executed_of_received
    (h : (source (fiscalWith cfg C) timing).Reach (NotReissued id) w) {e : JournalEntry}
    (he : w.journal.get id = some e) (hs : e.state = .received) : id ∉ w.log.executed := by
  intro hx
  rcases spent_of_executed h with h0 | ⟨-, hspent⟩
  · exact List.count_eq_zero.mp h0 hx
  · exact hspent.2 e he hs

lemma executed_mono {E : Executor} {w w' : World E} (h : JobsEffect w w') {id : ℤ}
    (hx : id ∈ w.log.executed) : id ∈ w'.log.executed := by
  cases h with
  | later _ _ hx' | added _ _ _ _ hx' | restarted _ _ hx' => exact hx' ▸ hx
  | executed _ _ _ _ _ hx' => exact hx' ▸ List.mem_cons_of_mem _ hx

/-- A row without a device contact had none before, or is new. -/
lemma JobsEffect.contact_none {E : Executor} {w w' : World E} (h : JobsEffect w w') {id : ℤ}
    {e' : JournalEntry} (he' : w'.journal.get id = some e') (hc : e'.deviceContactAt = none) :
    w.journal.get id = none ∨ ∃ e, w.journal.get id = some e ∧ e.deviceContactAt = none := by
  cases he : w.journal.get id with
  | none => exact Or.inl rfl
  | some e =>
    refine Or.inr ⟨e, rfl, ?_⟩
    cases hce : e.deviceContactAt with
    | none => rfl
    | some t =>
      rw [(h.rowLater he he').contact t hce] at hc
      cases hc

/-- After `mark_device_contact` the row has a device contact. -/
lemma markDeviceContact_contact {j : Journal} {now : Time} {id : ℤ} {e' : JournalEntry}
    (he' : (j.markDeviceContact now id).2.get id = some e') :
    ∃ t, e'.deviceContactAt = some t := by
  rw [Journal.markDeviceContact, Journal.get_updateRow, Option.map_eq_some_iff] at he'
  obtain ⟨e, -, he⟩ := he'
  rw [if_pos rfl] at he
  unfold RowOp.apply at he
  split at he
  · rw [← he]
    exact ⟨now, rfl⟩
  · rename_i hg
    rw [← he]
    exact Option.isSome_iff_exists.mp (by simpa [RowOp.guard, ← Option.isSome_iff_ne_none] using hg)

/-- A step that leaves the register requests alone. -/
lemma AttemptInv.of_other {e : Event (fiscalWith cfg C)}
    (hreach : (source (fiscalWith cfg C) timing).Reach (NotReissued id) w)
    (ih : AttemptInv id w) (hstep : w.step timing e = some w') (hlaw : NotReissued id w e w')
    (hdev : w'.dev.1 = w.dev.1)
    (htasks : ∀ i t, w'.proc.tasks i = some (.inl t) → w.proc.tasks i = some (.inl t) ∨
      (∃ job, t = .execute job .start ∧ w'.log.executed = job.id :: w.log.executed) ∨
      ∃ entry, t = .reconcile entry .start) : AttemptInv id w' := by
  have hshape := Shape.of_step hstep
  have hjobs := hshape.jobs
  have hreach' : (source (fiscalWith cfg C) timing).Reach (NotReissued id) w' :=
    hreach.move ⟨e, hstep, hlaw⟩
  constructor
  case once => rw [hdev]; exact ih.once
  case executed =>
    intro hne
    rw [hdev] at hne
    exact executed_mono hjobs (ih.executed hne)
  case numbers => rw [hdev]; exact ih.numbers
  case running =>
    intro i job pc ht hid
    rw [hdev]
    rcases htasks i _ ht with hold | ⟨job', heq, hx⟩ | ⟨entry, heq⟩
    · obtain ⟨hex, hs⟩ := ih.running i job pc hold hid
      exact ⟨executed_mono hjobs hex, hs⟩
    · -- the execution begins: it is the only one
      cases heq
      rw [hid] at hx
      refine ⟨by rw [hx]; exact List.mem_cons_self, ih.none_of_not_executed fun hmem => ?_⟩
      have hcount := List.one_le_count_iff.mpr hmem
      rcases spent_of_executed hreach' with h0 | ⟨h1, -⟩
      · rw [hx, List.count_cons_self] at h0
        omega
      · rw [hx, List.count_cons_self] at h1
        omega
    · cases heq
  case others =>
    intro i job kind key number ht
    rw [hdev]
    rcases htasks i _ ht with hold | ⟨_, heq, -⟩ | ⟨_, heq⟩
    · exact ih.others i job kind key number hold
    · cases heq
    · cases heq
  case contacted =>
    intro e' he' hc
    rw [hdev]
    have hsend : ∀ i job kind key,
        w'.proc.tasks i = some (.inl (.execute job (.send kind key))) →
        w.proc.tasks i = some (.inl (.execute job (.send kind key))) := by
      intro i job kind key ht
      rcases htasks i _ ht with hold | ⟨_, heq, -⟩ | ⟨_, heq⟩
      · exact hold
      · cases heq
      · cases heq
    rcases hjobs.contact_none he' hc with hnone | ⟨e₀, he₀, hc₀⟩
    · have hx := not_executed_of_fresh hreach (hlaw hnone (by rw [he']; simp))
      refine ⟨ih.none_of_not_executed hx, fun i job kind key ht hid => ?_⟩
      exact hx (ih.running i job _ (hsend i job kind key ht) hid).1
    · obtain ⟨h1, h2⟩ := ih.contacted e₀ he₀ hc₀
      exact ⟨h1, fun i job kind key ht => h2 i job kind key (hsend i job kind key ht)⟩
  case reconciling =>
    intro q i entry hcall hid hc
    rw [hdev]
    rcases hshape.calls hcall with hold | ⟨_, _, _, heq, -⟩ | ⟨entry', heq, -, -, hget, -⟩
    · exact ih.reconciling q i entry hold hid hc
    · cases heq
    · cases heq
      rw [hid] at hget
      exact (ih.contacted entry hget hc).1

/-- A fiscal call takes a step. -/
structure Stepped (w w' : World (fiscalWith cfg C)) (i : ℕ) (t t' : PortosTask) : Prop where
  task : w.proc.tasks i = some (.inl t)
  tasks : w'.proc.tasks = Function.update w.proc.tasks i (some (.inl t'))
  calls : ∀ q, w'.call q = w.call q
  log : w'.log = w.log
  marks : ExecutorMarks w.journal w'.journal

namespace Stepped

variable {i : ℕ} {t t' : PortosTask}

/-- A call after the step is the one that took it, or another one as before. -/
lemma cases (h : Stepped w w' i t t') {k : ℕ} {u : PortosTask}
    (hu : w'.proc.tasks k = some (.inl u)) :
    (k = i ∧ u = t') ∨ (k ≠ i ∧ w.proc.tasks k = some (.inl u)) := by
  rw [h.tasks] at hu
  by_cases hk : k = i
  · subst hk
    rw [Function.update_self] at hu
    exact Or.inl ⟨rfl, (Sum.inl.inj (Option.some.inj hu)).symm⟩
  · rw [Function.update_of_ne hk] at hu
    exact Or.inr ⟨hk, hu⟩

lemma contact_none (h : Stepped w w' i t t') {e' : JournalEntry}
    (he' : w'.journal.get id = some e') (hc : e'.deviceContactAt = none) :
    ∃ e, w.journal.get id = some e ∧ e.deviceContactAt = none := by
  rcases h.marks.rows id with ⟨-, h2⟩ | ⟨e, c, u, h1, h2, hkeep⟩
  · rw [h2] at he'
    cases he'
  · rw [h2] at he'
    cases he'
    refine ⟨e, h1, ?_⟩
    cases hce : e.deviceContactAt with
    | none => rfl
    | some time =>
      rw [hkeep time hce] at hc
      cases hc

end Stepped

/-- A step of a call that neither sends a register request nor has one answered. -/
lemma AttemptInv.of_quiet {i : ℕ} {t t' : PortosTask} (ih : AttemptInv id w)
    (hs : Stepped w w' i t t') (hatt : w'.dev.1.attempts id = w.dev.1.attempts id)
    (hlen : w'.dev.1.posts.length = w.dev.1.posts.length)
    (hpc : ∀ job pc', t' = .execute job pc' → ∃ pc, t = .execute job pc ∧
      (job.id = id → pc.Sent (w.dev.1.attempts id) → pc'.Sent (w.dev.1.attempts id)) ∧
      (∀ kind key number, pc' ≠ .posting kind key number) ∧
      ∀ kind key, pc' = .send kind key → job.id = id →
        ∀ e', w'.journal.get id = some e' → e'.deviceContactAt ≠ none) :
    AttemptInv id w' := by
  constructor
  case once => rw [hatt]; exact ih.once
  case executed => rw [hatt, hs.log]; exact ih.executed
  case numbers => rw [hatt, hlen]; exact ih.numbers
  case running =>
    intro k job pc' ht hid
    rw [hatt, hs.log]
    rcases hs.cases ht with ⟨rfl, heq⟩ | ⟨-, hold⟩
    · obtain ⟨pc, rfl, hsent, -⟩ := hpc job pc' heq.symm
      obtain ⟨hx, hpcs⟩ := ih.running k job pc hs.task hid
      exact ⟨hx, hsent hid hpcs⟩
    · exact ih.running k job pc' hold hid
  case others =>
    intro k job kind key number ht
    rw [hatt, hlen]
    rcases hs.cases ht with ⟨rfl, heq⟩ | ⟨-, hold⟩
    · obtain ⟨-, -, -, hno, -⟩ := hpc job _ heq.symm
      exact absurd rfl (hno kind key number)
    · exact ih.others k job kind key number hold
  case contacted =>
    intro e' he' hc
    rw [hatt]
    obtain ⟨e, he, hce⟩ := hs.contact_none he' hc
    obtain ⟨h1, h2⟩ := ih.contacted e he hce
    refine ⟨h1, fun k job kind key ht hid => ?_⟩
    rcases hs.cases ht with ⟨rfl, heq⟩ | ⟨-, hold⟩
    · obtain ⟨-, -, -, -, hsend⟩ := hpc job _ heq.symm
      exact hsend kind key rfl hid e' he' hc
    · exact h2 k job kind key hold hid
  case reconciling =>
    intro q k entry hcall hid hc
    rw [hatt]
    exact ih.reconciling q k entry (hs.calls q ▸ hcall) hid hc

/-- While an execution of the job runs, no other one does, its row is not `failed` and no
reconcile of it runs. -/
lemma running_alone {law : Transition.Law (World (fiscalWith cfg C)) (Event (fiscalWith cfg C))}
    (hreach : (source (fiscalWith cfg C) timing).Reach law w) {i : ℕ} {job : DeviceJob}
    {pc : PortosPc} (ht : w.proc.tasks i = some (.inl (.execute job pc))) :
    (∀ k job' pc', w.proc.tasks k = some (.inl (.execute job' pc')) → job'.id = job.id →
      k = i) ∧
    (∀ e, w.journal.get job.id = some e → e.state = .executing) ∧
    ∀ q k entry, w.call q = some (k, .inr entry) → entry.job.id ≠ job.id := by
  obtain ⟨e, he, hjob, hstate⟩ := executing_of_running hreach ht
  refine ⟨fun k job' pc' hk hid => ?_, fun e' he' => ?_, fun q k entry hcall hid => ?_⟩
  · obtain ⟨e', he', hjob', -⟩ := executing_of_running hreach hk
    rw [hid, he] at he'
    cases he'
    exact register_serial hreach ht hk (by rw [← hjob', ← hjob])
  · rw [he] at he'
    cases he'
    exact hstate
  · obtain ⟨hind, -, e', he', hle⟩ := (callInv_of_reach hreach).reconciling q k entry hcall
    rw [hid, he] at he'
    cases he'
    have hrank := hle.rank
    rw [hind, hstate] at hrank
    simp [JobState.rank] at hrank

/-- The register request of a job leaves the bridge. -/
lemma AttemptInv.of_sent {law : Transition.Law (World (fiscalWith cfg C))
      (Event (fiscalWith cfg C))} (hreach : (source (fiscalWith cfg C) timing).Reach law w)
    {i : ℕ} {job : DeviceJob} {kind : ReceiptKind} {key : ReceiptKey} {path : String}
    {body : Json} (ih : AttemptInv id w)
    (hs : Stepped w w' i (.execute job (.send kind key))
      (.execute job (.posting kind key w.dev.1.posts.length)))
    (hdev : w'.dev.1 = w.dev.1.send job.id key path body) : AttemptInv id w' := by
  have hlen : w'.dev.1.posts.length = w.dev.1.posts.length + 1 := by rw [hdev]; rfl
  by_cases hid : job.id = id
  · subst hid
    obtain ⟨halone, -, hnorec⟩ := running_alone hreach hs.task
    obtain ⟨hx, hnil⟩ := ih.running i job _ hs.task rfl
    have hatt : w'.dev.1.attempts job.id = [(w.dev.1.posts.length, none)] := by
      rw [hdev, Portos.attempts_send, if_pos rfl, show w.dev.1.attempts job.id = [] from hnil]
    constructor
    case once => rw [hatt]; rfl
    case executed => rw [hs.log]; exact fun _ => hx
    case numbers =>
      rw [hatt, hlen]
      intro a ha
      cases List.mem_singleton.mp ha
      simp
    case running =>
      intro k job' pc' ht hid
      rw [hatt, hs.log]
      rcases hs.cases ht with ⟨rfl, heq⟩ | ⟨hk, hold⟩
      · cases heq
        refine ⟨hx, fun a ha => ?_⟩
        cases List.mem_singleton.mp ha
        rfl
      · exact absurd (halone k job' pc' hold hid) hk
    case others =>
      intro k job' kind' key' number ht
      rw [hlen]
      rcases hs.cases ht with ⟨rfl, heq⟩ | ⟨hk, hold⟩
      · cases heq
        exact ⟨by omega, fun hne => absurd rfl hne⟩
      · obtain ⟨hlt, -⟩ := ih.others k job' kind' key' number hold
        refine ⟨by omega, fun _ a ha => ?_⟩
        rw [hatt] at ha
        cases List.mem_singleton.mp ha
        simp only
        omega
    case contacted =>
      intro e' he' hc
      obtain ⟨e, he, hce⟩ := hs.contact_none he' hc
      exact absurd rfl ((ih.contacted e he hce).2 i job kind key hs.task)
    case reconciling =>
      intro q k entry hcall hid
      exact absurd hid (hnorec q k entry (hs.calls q ▸ hcall))
  · have hatt : w'.dev.1.attempts id = w.dev.1.attempts id := by
      rw [hdev, Portos.attempts_send, if_neg hid]
    constructor
    case once => rw [hatt]; exact ih.once
    case executed => rw [hatt, hs.log]; exact ih.executed
    case numbers =>
      rw [hatt, hlen]
      exact fun a ha => (ih.numbers a ha).trans (Nat.lt_succ_self _)
    case running =>
      intro k job' pc' ht hid'
      rw [hatt, hs.log]
      rcases hs.cases ht with ⟨rfl, heq⟩ | ⟨-, hold⟩
      · cases heq
        exact absurd hid' hid
      · exact ih.running k job' pc' hold hid'
    case others =>
      intro k job' kind' key' number ht
      rw [hatt, hlen]
      rcases hs.cases ht with ⟨rfl, heq⟩ | ⟨-, hold⟩
      · cases heq
        exact ⟨by omega, fun _ a ha => (ih.numbers a ha).ne⟩
      · obtain ⟨hlt, hne⟩ := ih.others k job' kind' key' number hold
        exact ⟨by omega, hne⟩
    case contacted =>
      intro e' he' hc
      rw [hatt]
      obtain ⟨e, he, hce⟩ := hs.contact_none he' hc
      obtain ⟨h1, h2⟩ := ih.contacted e he hce
      refine ⟨h1, fun k job' kind' key' ht => ?_⟩
      rcases hs.cases ht with ⟨rfl, heq⟩ | ⟨-, hold⟩
      · cases heq
      · exact h2 k job' kind' key' hold
    case reconciling =>
      intro q k entry hcall
      rw [hatt]
      exact ih.reconciling q k entry (hs.calls q ▸ hcall)

/-- The answer to a register request arrives. -/
lemma AttemptInv.of_answered {law : Transition.Law (World (fiscalWith cfg C))
      (Event (fiscalWith cfg C))} (hreach : (source (fiscalWith cfg C) timing).Reach law w)
    {i number : ℕ} {job : DeviceJob} {kind : ReceiptKind} {key : ReceiptKey}
    {reply : PortosReply} (ih : AttemptInv id w)
    (hs : Stepped w w' i (.execute job (.posting kind key number))
      (.execute job (.returned (registerOutcome reply kind key.ext))))
    (hdev : w'.dev.1 = w.dev.1.answer number reply) : AttemptInv id w' := by
  have hlen : w'.dev.1.posts.length = w.dev.1.posts.length := by
    rw [hdev]
    exact List.length_map _
  have hatt := w.dev.1.attempts_answer id number reply
  rw [← hdev] at hatt
  by_cases hid : job.id = id
  · subst hid
    obtain ⟨halone, -, -⟩ := running_alone hreach hs.task
    obtain ⟨hx, hnumber⟩ := ih.running i job _ hs.task rfl
    have hmem : ∀ a ∈ w'.dev.1.attempts job.id, a.2 = some reply ∧
        a.1 < w.dev.1.posts.length := by
      intro a ha
      rw [hatt, List.mem_map] at ha
      obtain ⟨b, hb, rfl⟩ := ha
      rw [if_pos (hnumber b hb)]
      exact ⟨rfl, ih.numbers b hb⟩
    constructor
    case once => rw [hatt, List.length_map]; exact ih.once
    case executed => rw [hs.log]; exact fun _ => hx
    case numbers => rw [hlen]; exact fun a ha => (hmem a ha).2
    case running =>
      intro k job' pc' ht hid
      rw [hs.log]
      rcases hs.cases ht with ⟨rfl, heq⟩ | ⟨hk, hold⟩
      · cases heq
        refine ⟨hx, ?_⟩
        cases hout : registerOutcome reply kind key.ext with
        | failed code text =>
          have hrefuses := (registerOutcome_failed_iff reply kind key.ext).mp ⟨code, text, hout⟩
          exact fun a ha => ⟨reply, (hmem a ha).1, hrefuses⟩
        | done _ | indeterminate _ => trivial
      · exact absurd (halone k job' pc' hold hid) hk
    case others =>
      intro k job' kind' key' number' ht
      rw [hlen]
      rcases hs.cases ht with ⟨rfl, heq⟩ | ⟨-, hold⟩
      · cases heq
      · obtain ⟨hlt, hne⟩ := ih.others k job' kind' key' number' hold
        refine ⟨hlt, fun hid a ha => ?_⟩
        rw [hatt, List.mem_map] at ha
        obtain ⟨b, hb, rfl⟩ := ha
        rw [if_pos (hnumber b hb)]
        exact hne hid b hb
    case contacted =>
      intro e' he' hc
      obtain ⟨e, he, hce⟩ := hs.contact_none he' hc
      obtain ⟨h1, h2⟩ := ih.contacted e he hce
      refine ⟨by rw [hatt, h1]; rfl, fun k job' kind' key' ht => ?_⟩
      rcases hs.cases ht with ⟨rfl, heq⟩ | ⟨-, hold⟩
      · cases heq
      · exact h2 k job' kind' key' hold
    case reconciling =>
      intro q k entry hcall hid hc
      rw [hatt, ih.reconciling q k entry (hs.calls q ▸ hcall) hid hc]
      rfl
  · -- the answer is not one to a request of this job
    have hsame : w'.dev.1.attempts id = w.dev.1.attempts id := by
      rw [hatt]
      refine (List.map_congr_left fun a ha => ?_).trans (List.map_id _)
      rw [if_neg ((ih.others i job kind key number hs.task).2 hid a ha)]
      rfl
    refine ih.of_quiet hs hsame hlen fun job' pc' heq => ?_
    cases heq
    exact ⟨_, rfl, fun h => absurd h hid, fun _ _ _ h => (nomatch h), fun _ _ h => (nomatch h)⟩

lemma AttemptInv.step {e : Event (fiscalWith cfg C)}
    (hreach : (source (fiscalWith cfg C) timing).Reach (NotReissued id) w)
    (ih : AttemptInv id w) (hstep : w.step timing e = some w') (hlaw : NotReissued id w e w') :
    AttemptInv id w' := by
  cases FiscalMove.of_step hstep with
  | other hdev htasks => exact ih.of_other hreach hstep hlaw hdev htasks
  | carried number receipt he hdev hj htasks hcalls hlog =>
    simp only [Portos.devStep, Option.ite_none_right_eq_some, Option.some.injEq] at hdev
    have hatt : w'.dev.1.attempts id = w.dev.1.attempts id := by
      rw [← hdev.2, Portos.attempts_carryOut]
    have hlen : w'.dev.1.posts.length = w.dev.1.posts.length := by
      rw [← hdev.2]
      exact List.length_map _
    exact ⟨by rw [hatt]; exact ih.once, by rw [hatt, hlog]; exact ih.executed,
      by rw [hatt, hlen]; exact ih.numbers, by rw [hatt, hlog, htasks]; exact ih.running,
      by rw [hatt, hlen, htasks]; exact ih.others,
      by rw [hatt, hj, htasks]; exact ih.contacted,
      fun q i entry hc => by rw [hatt]; exact ih.reconciling q i entry (hcalls q ▸ hc)⟩
  | stepped i ev t t' he htask hmove htasks hcalls hlog =>
    have hs : Stepped w w' i t t' := ⟨htask, htasks, hcalls, hlog, hmove.marks⟩
    generalize hs' : (⟨w'.journal, w'.dev.1, ()⟩ : PortosState) = s' at hmove
    have hdev : w'.dev.1 = s'.dev := by rw [← hs']
    have hj : w'.journal = s'.journal := by rw [← hs']
    have hexec : ∀ {job : DeviceJob} {pc pc' : PortosPc}, t = .execute job pc →
        t' = .execute job pc' → s'.dev = w.dev.1 ∨ (∃ key, s'.dev = w.dev.1.overtake key) →
        (pc.Sent (w.dev.1.attempts id) → pc'.Sent (w.dev.1.attempts id)) →
        (∀ kind key number, pc' ≠ .posting kind key number) →
        (∀ kind key, pc' = .send kind key → job.id = id →
          ∀ e', w'.journal.get id = some e' → e'.deviceContactAt ≠ none) →
        AttemptInv id w' := by
      rintro job pc pc' rfl rfl hd hsent hno hsend
      have hatt : w'.dev.1.attempts id = w.dev.1.attempts id := by
        rcases hd with hd | ⟨key, hd⟩ <;> rw [hdev, hd]
        rw [Portos.attempts_overtake]
      have hlen : w'.dev.1.posts.length = w.dev.1.posts.length := by
        rcases hd with hd | ⟨key, hd⟩ <;> rw [hdev, hd]
        exact List.length_map _
      refine ih.of_quiet hs hatt hlen fun job' pc'' heq => ?_
      cases heq
      exact ⟨pc, rfl, fun _ => hsent, hno, hsend⟩
    have hrec : ∀ {entry : JournalEntry} {pc' : PortosReconcilePc}, t' = .reconcile entry pc' →
        s'.dev = w.dev.1 ∨ (∃ key, s'.dev = w.dev.1.overtake key) → AttemptInv id w' := by
      rintro entry pc' rfl hd
      have hatt : w'.dev.1.attempts id = w.dev.1.attempts id := by
        rcases hd with hd | ⟨key, hd⟩ <;> rw [hdev, hd]
        rw [Portos.attempts_overtake]
      have hlen : w'.dev.1.posts.length = w.dev.1.posts.length := by
        rcases hd with hd | ⟨key, hd⟩ <;> rw [hdev, hd]
        exact List.length_map _
      exact ih.of_quiet hs hatt hlen fun _ _ heq => nomatch heq
    cases hmove with
    | plan job =>
      refine hexec rfl rfl (Or.inl rfl) (fun h => ?_) ?_ ?_
      · unfold PortosConfig.plan
        repeat' split
        all_goals first | exact h | exact fun a ha => by rw [show _ = [] from h] at ha; cases ha
      · unfold PortosConfig.plan
        repeat' split
        all_goals exact fun _ _ _ h => nomatch h
      · intro kind key h
        unfold PortosConfig.plan at h
        repeat' split at h
        all_goals cases h
    | decided job kind key reply outcome hout =>
      refine hexec rfl rfl (Or.inl rfl) (fun h => ?_) (fun _ _ _ h => (nomatch h))
        (fun _ _ h => (nomatch h))
      cases outcome with
      | failed code text => exact fun a ha => by rw [show _ = [] from h] at ha; cases ha
      | done _ | indeterminate _ => trivial
    | notFound job kind key reply =>
      exact hexec rfl rfl (Or.inr ⟨key, rfl⟩) (fun h => h) (fun _ _ _ h => (nomatch h))
        (fun _ _ h => (nomatch h))
    | contacted job kind key =>
      refine hexec rfl rfl (Or.inl rfl) (fun h => h) (fun _ _ _ h => (nomatch h)) ?_
      rintro kind' key' - rfl e' he' hnone
      rw [hj] at he'
      obtain ⟨c, hc⟩ := markDeviceContact_contact he'
      rw [hnone] at hc
      cases hc
    | notContacted job kind key error code text =>
      exact hexec rfl rfl (Or.inl rfl)
        (fun h a ha => by rw [show _ = [] from h] at ha; cases ha) (fun _ _ _ h => (nomatch h))
        (fun _ _ h => (nomatch h))
    | sent job kind key body => exact ih.of_sent hreach hs hdev
    | answered job kind key number reply => exact ih.of_answered hreach hs hdev
    | controlled job op reply =>
      refine hexec rfl rfl (Or.inl rfl) (fun h => ?_) (fun _ _ _ h => (nomatch h))
        (fun _ _ h => (nomatch h))
      cases controlOutcome reply op with
      | failed code text => exact fun a ha => by rw [show _ = [] from h] at ha; cases ha
      | done _ | indeterminate _ => trivial
    | planReconcile entry => exact hrec rfl (Or.inl rfl)
    | reconciled entry key reply answer => exact hrec rfl (Or.inl rfl)
    | absent entry key reply => exact hrec rfl (Or.inr ⟨key, rfl⟩)
    | listed entry key reply text => exact hrec rfl (Or.inl rfl)

lemma attemptInv_of_reach (h : (source (fiscalWith cfg C) timing).Reach (NotReissued id) w) :
    AttemptInv id w := by
  refine h.invariant (P := AttemptInv id) ?_ fun a e b ha ih hstep hlaw => ih.step ha hstep hlaw
  exact ⟨by simp [source, World.init, Portos.attempts], fun h => absurd rfl h,
    fun _ h => (nomatch h), fun _ _ _ h => (nomatch h), fun _ _ _ _ _ h => (nomatch h),
    fun _ _ _ => ⟨rfl, fun _ _ _ _ h => (nomatch h)⟩, fun _ _ _ h => (nomatch h)⟩

/-! ### The rows -/

/-- A step that touches the register requests of a job takes place in an execution of it. -/
lemma AttemptInv.attempts_step {e : Event (fiscalWith cfg C)} (ih : AttemptInv id w)
    (hstep : w.step timing e = some w') :
    w'.dev.1.attempts id = w.dev.1.attempts id ∨
      (∀ row row', w.journal.get id = some row → w'.journal.get id = some row' →
        row'.state = row.state) ∧
        ∃ i job pc, w.proc.tasks i = some (.inl (.execute job pc)) ∧ job.id = id := by
  cases FiscalMove.of_step hstep with
  | other hdev => exact Or.inl (by rw [hdev])
  | carried number receipt he hdev =>
    simp only [Portos.devStep, Option.ite_none_right_eq_some, Option.some.injEq] at hdev
    exact Or.inl (by rw [← hdev.2, Portos.attempts_carryOut])
  | stepped i ev t t' he htask hmove =>
    have hrows : ∀ row row', w.journal.get id = some row → w'.journal.get id = some row' →
        row'.state = row.state := fun _ _ hr hr' => (hmove.marks.same hr hr').2.1
    generalize hs' : (⟨w'.journal, w'.dev.1, ()⟩ : PortosState) = s' at hmove
    have hdev : w'.dev.1 = s'.dev := by rw [← hs']
    rw [hdev]
    cases hmove with
    | plan | decided | contacted | notContacted | controlled | planReconcile | reconciled
    | listed => exact Or.inl rfl
    | notFound _ _ key | absent _ key => exact Or.inl (Portos.attempts_overtake _ _ key)
    | sent job kind key body =>
      by_cases hid : job.id = id
      · exact Or.inr ⟨hrows, i, job, _, htask, hid⟩
      · exact Or.inl (by simp only [Portos.attempts_send, if_neg hid])
    | answered job kind key number reply =>
      by_cases hid : job.id = id
      · exact Or.inr ⟨hrows, i, job, _, htask, hid⟩
      · refine Or.inl ?_
        simp only [Portos.attempts_answer]
        refine (List.map_congr_left fun a ha => ?_).trans (List.map_id _)
        rw [if_neg ((ih.others i job kind key number htask).2 hid a ha)]
        rfl

/-- The register requests of a job whose receipt is `failed` were refused. -/
def FailedInv (id : ℤ) (w : World (fiscalWith cfg C)) : Prop :=
  ∀ e kind, w.journal.get id = some e → FiscalOp.forJobType e.job.jobType = some (.register kind) →
    e.state = .failed → ∀ a ∈ w.dev.1.attempts id, Refused a

lemma isFiscal_of_register {jobType : String} {kind : ReceiptKind}
    (h : FiscalOp.forJobType jobType = some (.register kind)) :
    Executor.isFiscal jobType = true := by
  unfold FiscalOp.forJobType at h
  repeat' split at h
  all_goals first | (subst jobType; rfl) | cases h

/-- Why a receipt becomes `failed`. -/
lemma refused_of_failed {e : Event (fiscalWith cfg C)}
    (hreach : (source (fiscalWith cfg C) timing).Reach (NotReissued id) w)
    (hstep : w.step timing e = some w') {row row' : JournalEntry} {kind : ReceiptKind}
    (hrow : w.journal.get id = some row) (hrow' : w'.journal.get id = some row')
    (hne : row'.state ≠ row.state) (hfailed : row'.state = .failed)
    (hkind : FiscalOp.forJobType row.job.jobType = some (.register kind)) :
    ∀ a ∈ w.dev.1.attempts id, Refused a := by
  have hinv := attemptInv_of_reach hreach
  have hcalls := callInv_of_reach hreach
  have htasks := taskInv_of_reach (fiscalStates cfg C) hreach
  have hfis := isFiscal_of_register hkind
  have hnil : w.dev.1.attempts id = [] → ∀ a ∈ w.dev.1.attempts id, Refused a := fun h a ha => by
    rw [h] at ha
    cases ha
  have hreceived : row.state = .received → ∀ a ∈ w.dev.1.attempts id, Refused a := fun hs =>
    hnil (hinv.none_of_not_executed (not_executed_of_received hreach hrow hs))
  cases (Shape.of_step hstep).state hrow hrow' hne with
  | executing q entry h hid hs hs' | guarded q task job hcall hid hguard hs' | restarted n h hs' =>
    rw [hs'] at hfailed
    cases hfailed
  | expired q entry h hid hs hs' => exact hreceived hs
  | noWorker call job h hid hgone =>
    obtain ⟨e₀, he₀, -, hs⟩ := hcalls.enqueue call job h
    rw [hid, hrow] at he₀
    cases he₀
    exact hreceived hs
  | joined q i job t outcome hcall hid htask hout hgone he' =>
    -- the execution was over with `failed`
    obtain ⟨-, e₀, he₀, hjob, -⟩ := hcalls.executing q i job hcall
    rw [hid, hrow] at he₀
    cases he₀
    obtain ⟨t₁, ht₁, hof⟩ := htasks.called q i _ hcall
    rw [htask] at ht₁
    cases ht₁
    cases t with
    | inr u =>
      rw [hjob] at hfis
      rw [show Executor.isFiscal job.jobType = false from hof] at hfis
      cases hfis
    | inl t =>
      obtain ⟨-, pc, rfl, -⟩ := hof
      obtain ⟨-, hsent⟩ := hinv.running i job pc htask hid
      have hstate : outcome.state = .failed := by
        rw [he'] at hfailed hne
        exact (RowOp.state_recordOutcome hne).symm.trans hfailed
      cases pc <;> cases hout
      cases outcome with
      | failed code text => exact hsent
      | done _ | indeterminate _ => cases hstate
  | answered q i entry t answer outcome hcall hid htask hout hanswer hgone he' =>
    obtain ⟨-, -, e₀, he₀, hle⟩ := hcalls.reconciling q i entry hcall
    rw [hid, hrow] at he₀
    cases he₀
    rw [hle.job] at hkind hfis
    obtain ⟨t₁, ht₁, hof⟩ := htasks.called q i _ hcall
    rw [htask] at ht₁
    cases ht₁
    cases t with
    | inr u =>
      rw [show Executor.isFiscal entry.job.jobType = false from hof] at hfis
      cases hfis
    | inl t =>
      obtain ⟨-, pc, rfl, hok⟩ := hof
      have hstate : outcome.state = .failed := by
        rw [he'] at hfailed hne
        exact (RowOp.state_recordOutcome hne).symm.trans hfailed
      cases pc <;> cases hout
      cases answer with
      | done result =>
        cases hanswer
        cases hstate
      | stillUnknown reason => cases hanswer
      | failed code text =>
        rcases hok with hcontact | hno
        · exact hnil (hinv.reconciling q i entry hcall hid hcontact)
        · exact absurd hkind (hno kind)

lemma failedInv_of_reach (h : (source (fiscalWith cfg C) timing).Reach (NotReissued id) w) :
    FailedInv id w := by
  refine h.invariant (P := FailedInv id) ?_ ?_
  · intro e kind he
    rw [show (source (fiscalWith cfg C) timing).init.journal = Journal.empty cfg.readFloat from rfl,
      Journal.get_empty] at he
    cases he
  · intro a ev b ha ih hstep hlaw row' kind hrow' hkind hfailed
    have hinv := attemptInv_of_reach ha
    rcases hinv.attempts_step hstep with hatt | ⟨hrows, k, job, pc, htask, hid⟩
    · rw [hatt]
      cases hrow : a.journal.get id with
      | none =>
        have hfresh := hlaw hrow (by rw [hrow']; simp)
        rw [hinv.none_of_not_executed (not_executed_of_fresh ha hfresh)]
        exact fun _ h => nomatch h
      | some row =>
        have hjob := ((Shape.of_step hstep).jobs.rowLater hrow hrow').job
        rw [hjob] at hkind
        by_cases hs : row'.state = row.state
        · exact ih row kind hrow hkind (hs ▸ hfailed)
        · exact refused_of_failed ha hstep hrow hrow' hs hfailed hkind
    · -- while the execution takes a step the job is `executing`
      subst hid
      obtain ⟨row, hrow, -, hs⟩ := executing_of_running ha htask
      rw [hrows row row' hrow hrow', hs] at hfailed
      cases hfailed

/-- What was journaled stays journaled. -/
lemma journaled_mono {E : Executor} {w w' : World E} (h : JobsEffect w w') {id : ℤ}
    (hid : id ∈ w.log.journaled) : id ∈ w'.log.journaled := by
  cases h with
  | later _ hj | executed _ _ _ _ hj | restarted _ hj => exact hj ▸ hid
  | added _ _ _ hj => exact hj ▸ List.mem_cons_of_mem _ hid

/-- A job that was `indeterminate` once sends no register request any more. -/
lemma attempts_of_indeterminate
    (hreach : (source (fiscalWith cfg C) timing).Reach (NotReissued id) w) {e : JournalEntry}
    (he : w.journal.get id = some e) (hs : e.state = .indeterminate)
    (hleads : (source (fiscalWith cfg C) timing).Leads (NotReissued id) w w') :
    w'.dev.1.attempts id = w.dev.1.attempts id := by
  refine (hleads.keeps hreach (P := fun v => v.dev.1.attempts id = w.dev.1.attempts id ∧
    id ∈ v.log.journaled ∧ ∀ e, v.journal.get id = some e → 2 ≤ e.state.rank) ?_ ?_).1
  · refine ⟨rfl, journaled_of_row hreach he, fun e' he' => ?_⟩
    rw [he] at he'
    cases he'
    rw [hs]
    exact le_refl _
  · rintro a ev b ha ⟨hatt, hj, hrank⟩ hstep hlaw
    have hjobs := (Shape.of_step hstep).jobs
    refine ⟨?_, journaled_mono hjobs hj, fun e' he' => ?_⟩
    · rcases (attemptInv_of_reach ha).attempts_step hstep with h | ⟨-, i, job, pc, ht, hid⟩
      · exact h.trans hatt
      · obtain ⟨row, hrow, -, hexec⟩ := executing_of_running ha ht
        have := hrank row (hid ▸ hrow)
        rw [hexec] at this
        simp [JobState.rank] at this
    · cases hrow : a.journal.get id with
      | none => exact absurd hj (hlaw hrow (by rw [he']; simp))
      | some row => exact (hrank row hrow).trans (hjobs.rowLater hrow he').rank

/-- Whatever Portos answers and however the steps, the lost answers, the crashes and the
restarts are ordered: a receipt job sends at most one register request, it is `failed` only
when it sent none or the one it sent was refused, with every other answer it is executing
still or `indeterminate` or `done`, and once `indeterminate` it sends no request any more. -/
theorem failed_receipt_never_registered (cfg : PortosConfig) (C : Executor) (timing : Timing)
    (id : ℤ) {w : World (fiscalWith cfg C)}
    (h : (source (fiscalWith cfg C) timing).Reach (NotReissued id) w) :
    (w.dev.1.attempts id).length ≤ 1 ∧
    ∀ e kind, w.journal.get id = some e →
      FiscalOp.forJobType e.job.jobType = some (.register kind) →
      (e.state = .failed → ∀ a ∈ w.dev.1.attempts id, Refused a) ∧
      (∀ a ∈ w.dev.1.attempts id, ¬ Refused a →
        e.state = .executing ∨ e.state = .indeterminate ∨ e.state = .done) ∧
      (e.state = .indeterminate → ∀ w',
        (source (fiscalWith cfg C) timing).Leads (NotReissued id) w w' →
        w'.dev.1.attempts id = w.dev.1.attempts id) := by
  have hinv := attemptInv_of_reach h
  refine ⟨hinv.once, fun e kind he hkind => ⟨?_, ?_, ?_⟩⟩
  · exact failedInv_of_reach h e kind he hkind
  · intro a ha hno
    cases hs : e.state with
    | executing => exact Or.inl rfl
    | indeterminate => exact Or.inr (Or.inl rfl)
    | done => exact Or.inr (Or.inr rfl)
    | received =>
      rw [hinv.none_of_not_executed (not_executed_of_received h he hs)] at ha
      cases ha
    | failed => exact absurd (failedInv_of_reach h e kind he hkind hs a ha) hno
  · exact fun hs w' hleads => attempts_of_indeterminate h he hs hleads

end Steps

/-- A bridge with one Portos that any payload suits. -/
def oneServer : PortosConfig where
  defaultUrl := "http://portos"
  kasy := []
  sha256Hex s := s
  checkPayload _ _ := .ok ()
  readFloat := id

/-- A reply of Odoo to `next` that hands out a receipt. -/
def replyWithReceipt (id : ℤ) : Reply :=
  .ok (.obj [("job", .obj [("client_uuid", .str "u1"), ("id", Json.ofInt id),
      ("kasa", .obj [("id", Json.ofInt 1)]),
      ("payload", .obj [("data", .obj [("cashRegisterCode", .str "88")])]),
      ("type", .str "fiscal.cash_register")]),
    ("ok", .bool true)])

/-- The events from the start of the process until the receipt of a job is sent. -/
def runUntilSent (id : ℤ) : List (Event (fiscalWith oneServer Executor.absent)) :=
  let q : DeviceQueue := ⟨.fiscal, "http://portos"⟩
  [.start 4, .control .poll, .odoo (.answerPending (replyWithPending [])),
    .control (.arrive true), .control (.entry true), .control .poll,
    .odoo (.answerNext (replyWithReceipt id)), .control (.arrive true),
    .control (.enqueue true true), .worker q (.take true), .worker q (.start true),
    .task 0 (.inl .go), .task 0 (.inl (.reply (.answer 204 .null))), .task 0 (.inl .go),
    .task 0 (.inl .go)]

/-- Job 7 is `failed` after Portos asked for a login: its one request was refused. -/
theorem failed_receipt_never_registered_login :
    ∃ w e, (source (fiscalWith oneServer Executor.absent) Timing.default).Reach
        (NotReissued 7) w ∧
      w.journal.get 7 = some e ∧ e.state = .failed ∧ w.dev.1.attempts 7 ≠ [] ∧
      ∀ a ∈ w.dev.1.attempts 7, Refused a := by
  obtain ⟨w, hreach, hw⟩ := Transition.reach_of_tests
    (source (fiscalWith oneServer Executor.absent) Timing.default) (NotReissued 7)
    (runUntilSent 7 ++ [.task 0 (.inl (.reply (.answer 401 .null))),
      .worker ⟨.fiscal, "http://portos"⟩ (.join true)])
    (fun w => (w.journal.get 7).any (fun e : JournalEntry => decide (e.state = .failed) &&
        decide (FiscalOp.forJobType e.job.jobType = some (.register .cashRegister))) &&
      !(w.dev.1.attempts 7).isEmpty)
    (fun _ _ _ => notReissued_of_test) (by decide +kernel) (by decide +kernel)
  simp only [Bool.and_eq_true, Option.any_eq_true, decide_eq_true_eq, Bool.not_eq_true',
    List.isEmpty_eq_false_iff] at hw
  obtain ⟨⟨e, he, hs, hkind⟩, hne⟩ := hw
  have hmain := failed_receipt_never_registered oneServer Executor.absent Timing.default 7 hreach
  exact ⟨w, e, hreach, he, hs, hne, (hmain.2 e _ he hkind).1 hs⟩

end DevBridge

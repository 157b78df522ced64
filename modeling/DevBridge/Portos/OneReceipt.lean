import DevBridge.Portos.Failed

/-!
# One receipt for a sale

A sale may reach the bridge as any number of jobs, from Odoo and from the tills, each with an id
of its own; the key of its receipt is the same for all of them.  A register request is sent only
after Portos said that there is no receipt with the key, and by then every earlier request with
the key has either been carried out or never will be.  So at most one request with a key is ever
open, and at most one receipt is registered with it.
-/

namespace DevBridge

variable {cfg : PortosConfig} {C : Executor} {timing : Timing}

/-! ### The receipts of a key -/

/-- The request was carried out, or may still be. -/
def ReceiptPost.Open (post : ReceiptPost) : Prop :=
  post.receipt.isSome = true ∨ post.overtaken = false

namespace Portos

variable (p : Portos)

/-- The receipts that are registered with a key. -/
def registered (base ext : String) : List (String × Json) :=
  p.posts.filterMap fun post => if post.base = base ∧ post.ext = ext then post.receipt else none

/-- What an answer to a lookup tells: there is no receipt with the key, or one of them. -/
def lookupTells (key : ReceiptKey) (reply : PortosReply) : Bool :=
  match classifyLookup reply with
  | .notFound => (p.registered key.base key.ext).isEmpty
  | .found body => (receiptIdentity body).all fun receipt =>
      !externalIdMatches (body.pointer ["request", "externalId"]) key.ext .lookup ||
        (p.registered key.base key.ext).contains receipt
  | .unreachable _ | .failed _ => true

/-- What a success of a register request tells: the receipt that it registered, if any. -/
def registerTells (key : ReceiptKey) (reply : PortosReply) : Bool :=
  match reply with
  | .answer status body => !isSuccess status || (receiptIdentity body).all fun receipt =>
      !externalIdMatches (body.pointer ["request", "externalId"]) key.ext .register ||
        (p.registered key.base key.ext).contains receipt
  | .unreachable _ | .lost _ => true

/-- What an answer tells the call that waits for it. -/
def tells (reply : PortosReply) : PortosTask → Bool
  | .execute _ (.lookup _ key) => p.lookupTells key reply
  | .execute _ (.posting _ key _) => p.registerTells key reply
  | .reconcile _ (.lookup key) => p.lookupTells key reply
  | _ => true

/-- Every request has a number of its own, and of the requests with one key at most one is
open. -/
structure Sound : Prop where
  below : ∀ post ∈ p.posts, post.number < p.posts.length
  nodup : (p.posts.map ReceiptPost.number).Nodup
  one : ∀ a ∈ p.posts, ∀ b ∈ p.posts, a.base = b.base → a.ext = b.ext → a.Open → b.Open →
    a.number = b.number

/-- No request with the key is open. -/
def Clear (key : ReceiptKey) : Prop :=
  ∀ post ∈ p.posts, post.base = key.base → post.ext = key.ext → ¬ post.Open

variable {p}

lemma mem_registered {base ext : String} {receipt : String × Json} :
    receipt ∈ p.registered base ext ↔
      ∃ post ∈ p.posts, post.base = base ∧ post.ext = ext ∧ post.receipt = some receipt := by
  rw [registered, List.mem_filterMap]
  refine exists_congr fun post => and_congr_right fun _ => ?_
  constructor
  · intro h
    split at h
    · rename_i hkey
      exact ⟨hkey.1, hkey.2, h⟩
    · cases h
  · rintro ⟨hbase, hext, hreceipt⟩
    rw [if_pos ⟨hbase, hext⟩, hreceipt]

/-- Entries with numbers of their own, of which two that count have one number. -/
lemma length_filterMap_le_one {β : Type} {f : ReceiptPost → Option β} {posts : List ReceiptPost}
    (hnodup : (posts.map ReceiptPost.number).Nodup)
    (hone : ∀ a ∈ posts, ∀ b ∈ posts, (f a).isSome → (f b).isSome → a.number = b.number) :
    (posts.filterMap f).length ≤ 1 := by
  induction posts with
  | nil => simp
  | cons a posts ih =>
    rw [List.map_cons, List.nodup_cons] at hnodup
    have htail := ih hnodup.2 fun b hb c hc =>
      hone b (List.mem_cons_of_mem _ hb) c (List.mem_cons_of_mem _ hc)
    rcases hfa : f a with _ | r
    · rwa [List.filterMap_cons_none hfa]
    · rw [List.filterMap_cons_some hfa]
      -- no other entry counts
      have hnone : posts.filterMap f = [] := by
        rw [List.filterMap_eq_nil_iff]
        intro b hb
        by_contra hfb
        have hnumber := hone a List.mem_cons_self b (List.mem_cons_of_mem _ hb) (by simp [hfa])
          (Option.isSome_iff_ne_none.mpr hfb)
        exact hnodup.1 (hnumber ▸ List.mem_map_of_mem hb)
      simp [hnone]

namespace Sound

/-- At most one receipt is registered with a key. -/
lemma length_registered (h : p.Sound) (base ext : String) :
    (p.registered base ext).length ≤ 1 := by
  refine length_filterMap_le_one h.nodup fun a ha b hb hsome hsome' => ?_
  split at hsome
  · rename_i hkey
    split at hsome'
    · rename_i hkey'
      exact h.one a ha b hb (hkey.1.trans hkey'.1.symm) (hkey.2.trans hkey'.2.symm)
        (Or.inl hsome) (Or.inl hsome')
    · cases hsome'
  · cases hsome

/-- A change that keeps the numbers and the keys, and opens no request. -/
lemma map (h : p.Sound) {f : ReceiptPost → ReceiptPost}
    (hf : ∀ post ∈ p.posts, (f post).number = post.number ∧ (f post).base = post.base ∧
      (f post).ext = post.ext ∧ ((f post).Open → post.Open)) :
    (Portos.mk (p.posts.map f)).Sound := by
  constructor
  · intro post hpost
    obtain ⟨post', hpost', rfl⟩ := List.mem_map.mp hpost
    rw [(hf post' hpost').1, List.length_map]
    exact h.below post' hpost'
  · rw [List.map_map]
    have hsame : p.posts.map (ReceiptPost.number ∘ f) = p.posts.map ReceiptPost.number :=
      List.map_congr_left fun post hpost => (hf post hpost).1
    rw [hsame]
    exact h.nodup
  · intro a ha b hb hbase hext hopen hopen'
    obtain ⟨a', ha', rfl⟩ := List.mem_map.mp ha
    obtain ⟨b', hb', rfl⟩ := List.mem_map.mp hb
    obtain ⟨hna, hba, hea, hoa⟩ := hf a' ha'
    obtain ⟨hnb, hbb, heb, hob⟩ := hf b' hb'
    rw [hna, hnb]
    rw [hba, hbb] at hbase
    rw [hea, heb] at hext
    exact h.one a' ha' b' hb' hbase hext (hoa hopen) (hob hopen')

end Sound

lemma Clear.map {key : ReceiptKey} (h : p.Clear key) {f : ReceiptPost → ReceiptPost}
    (hf : ∀ post ∈ p.posts, (f post).number = post.number ∧ (f post).base = post.base ∧
      (f post).ext = post.ext ∧ ((f post).Open → post.Open)) :
    (Portos.mk (p.posts.map f)).Clear key := by
  intro post hpost hbase hext hopen
  obtain ⟨post', hpost', rfl⟩ := List.mem_map.mp hpost
  obtain ⟨-, hb, he, ho⟩ := hf post' hpost'
  exact h post' hpost' (hb ▸ hbase) (he ▸ hext) (ho hopen)

/-! ### What happens to the requests -/

/-- An answer to a request opens none. -/
lemma answer_keeps (number : ℕ) (reply : PortosReply) (post : ReceiptPost) :
    let f := fun post : ReceiptPost =>
      if post.number = number then { post with reply := some reply } else post
    (f post).number = post.number ∧ (f post).base = post.base ∧ (f post).ext = post.ext ∧
      ((f post).Open → post.Open) := by
  dsimp only
  split <;> exact ⟨rfl, rfl, rfl, fun h => h⟩

/-- Neither does a lookup. -/
lemma overtake_keeps (key : ReceiptKey) (post : ReceiptPost) :
    let f := fun post : ReceiptPost =>
      if post.base = key.base ∧ post.ext = key.ext then { post with overtaken := true } else post
    (f post).number = post.number ∧ (f post).base = post.base ∧ (f post).ext = post.ext ∧
      ((f post).Open → post.Open) := by
  dsimp only
  split
  · refine ⟨rfl, rfl, rfl, fun h => ?_⟩
    rcases h with h | h
    · exact Or.inl h
    · cases h
  · exact ⟨rfl, rfl, rfl, fun h => h⟩

/-- A request that is carried out was open. -/
lemma carryOut_keeps (number : ℕ) (receipt : String × Json) (post : ReceiptPost)
    (h : post.number = number → post.overtaken = false) :
    let f := fun post : ReceiptPost =>
      if post.number = number then { post with receipt := some receipt } else post
    (f post).number = post.number ∧ (f post).base = post.base ∧ (f post).ext = post.ext ∧
      ((f post).Open → post.Open) := by
  dsimp only
  split
  · rename_i hnumber
    exact ⟨rfl, rfl, rfl, fun _ => Or.inr (h hnumber)⟩
  · exact ⟨rfl, rfl, rfl, fun h => h⟩

/-- Once Portos has said that there is no receipt with a key, no request with it is open. -/
lemma clear_overtake {key : ReceiptKey} (h : p.registered key.base key.ext = []) :
    (p.overtake key).Clear key := by
  intro post hpost hbase hext hopen
  obtain ⟨post', hpost', rfl⟩ := List.mem_map.mp hpost
  have hkey : post'.base = key.base ∧ post'.ext = key.ext := by
    split at hbase
    · assumption
    · rename_i hne
      rw [if_neg hne] at hext
      exact ⟨hbase, hext⟩
  rw [if_pos hkey] at hopen
  rcases hopen with hopen | hopen
  · obtain ⟨receipt, hreceipt⟩ := Option.isSome_iff_exists.mp hopen
    have hmem := mem_registered.mpr ⟨post', hpost', hkey.1, hkey.2, hreceipt⟩
    rw [h] at hmem
    cases hmem
  · cases hopen

/-- A request is sent while none with its key is open. -/
lemma Sound.send (h : p.Sound) {key : ReceiptKey} (hclear : p.Clear key) (jobId : ℤ)
    (path : String) (body : Json) : (p.send jobId key path body).Sound := by
  constructor
  · intro post hpost
    change post.number < p.posts.length + 1
    rcases List.mem_cons.mp hpost with rfl | hpost
    · exact Nat.lt_succ_self _
    · exact (h.below post hpost).trans (Nat.lt_succ_self _)
  · refine List.nodup_cons.mpr ⟨fun hmem => ?_, h.nodup⟩
    obtain ⟨post, hpost, hnumber⟩ := List.mem_map.mp hmem
    have hlt := h.below post hpost
    change post.number = p.posts.length at hnumber
    omega
  · intro a ha b hb hbase hext hopen hopen'
    rcases List.mem_cons.mp ha with rfl | ha <;> rcases List.mem_cons.mp hb with rfl | hb
    · rfl
    · exact absurd hopen' (hclear b hb hbase.symm hext.symm)
    · exact absurd hopen (hclear a ha hbase hext)
    · exact h.one a ha b hb hbase hext hopen hopen'

lemma Clear.send {key key' : ReceiptKey} (h : p.Clear key')
    (hne : ¬ (key.base = key'.base ∧ key.ext = key'.ext)) (jobId : ℤ) (path : String)
    (body : Json) : (p.send jobId key path body).Clear key' := by
  intro post hpost hbase hext
  rcases List.mem_cons.mp hpost with rfl | hpost
  · exact absurd ⟨hbase, hext⟩ hne
  · exact h post hpost hbase hext

/-! ### Receipts stay registered -/

/-- Every receipt of one state is one of the other, under its key. -/
def Grows (p p' : Portos) : Prop :=
  ∀ base ext receipt, receipt ∈ p.registered base ext → receipt ∈ p'.registered base ext

/-- A change that keeps the keys and the receipts that there are. -/
lemma Grows.map {f : ReceiptPost → ReceiptPost}
    (hf : ∀ post ∈ p.posts, (f post).base = post.base ∧ (f post).ext = post.ext ∧
      ∀ receipt, post.receipt = some receipt → (f post).receipt = some receipt) :
    p.Grows (Portos.mk (p.posts.map f)) := by
  intro base ext receipt hmem
  obtain ⟨post, hpost, hbase, hext, hreceipt⟩ := mem_registered.mp hmem
  obtain ⟨hb, he, hr⟩ := hf post hpost
  exact mem_registered.mpr ⟨f post, List.mem_map_of_mem hpost, hb.trans hbase, he.trans hext,
    hr receipt hreceipt⟩

lemma grows_answer (number : ℕ) (reply : PortosReply) : p.Grows (p.answer number reply) :=
  Grows.map fun post _ => by split <;> exact ⟨rfl, rfl, fun _ h => h⟩

lemma grows_overtake (key : ReceiptKey) : p.Grows (p.overtake key) :=
  Grows.map fun post _ => by split <;> exact ⟨rfl, rfl, fun _ h => h⟩

lemma grows_send (jobId : ℤ) (key : ReceiptKey) (path : String) (body : Json) :
    p.Grows (p.send jobId key path body) := by
  intro base ext receipt hmem
  obtain ⟨post, hpost, hkey⟩ := mem_registered.mp hmem
  exact mem_registered.mpr ⟨post, List.mem_cons_of_mem _ hpost, hkey⟩

/-- Only a request without a receipt is carried out. -/
lemma grows_carryOut (h : p.Sound) {number : ℕ} (receipt : String × Json)
    (hwaits : ∃ post ∈ p.posts, post.number = number ∧ post.receipt = none) :
    p.Grows (p.carryOut number receipt) := by
  obtain ⟨post₀, hpost₀, hnumber₀, hnone⟩ := hwaits
  refine Grows.map fun post hpost => ?_
  split
  · rename_i hnumber
    have heq : post = post₀ :=
      List.inj_on_of_nodup_map h.nodup hpost hpost₀ (hnumber.trans hnumber₀.symm)
    refine ⟨rfl, rfl, fun r hr => ?_⟩
    rw [heq, hnone] at hr
    cases hr
  · exact ⟨rfl, rfl, fun _ h => h⟩

end Portos

/-- The result tells of a receipt that is registered with the key. -/
def TellsReceipt (p : Portos) (key : ReceiptKey) (result : Json) : Prop :=
  ∃ okp number, (okp, number) ∈ p.registered key.base key.ext ∧
    result.get "external_id" = some (.str key.ext) ∧ result.get "okp" = some (.str okp) ∧
    result.get "receipt_number" = some number

lemma TellsReceipt.grows {p p' : Portos} {key : ReceiptKey} {result : Json}
    (h : TellsReceipt p key result) (hgrows : p.Grows p') : TellsReceipt p' key result := by
  obtain ⟨okp, number, hmem, hrest⟩ := h
  exact ⟨okp, number, hgrows _ _ _ hmem, hrest⟩

/-- The result of a receipt that Portos told of. -/
lemma tellsReceipt_of_found {p : Portos} {key : ReceiptKey} {body result : Json} {via : Via}
    (hvia : via ≠ .register) {reply : PortosReply} (hfound : classifyLookup reply = .found body)
    (htells : p.lookupTells key reply = true)
    (hresult : receiptResult body key.ext via = some result) : TellsReceipt p key result := by
  obtain ⟨okp, number, hid, hmatch, hfields⟩ := receiptResult_some hresult
  refine ⟨okp, number, ?_, hfields⟩
  -- a receipt that is looked up has to name the key
  have hmatch' : externalIdMatches (body.pointer ["request", "externalId"]) key.ext .lookup =
      true := by
    rw [externalIdMatches] at hmatch ⊢
    split at hmatch
    · exact hmatch
    · exact absurd (by simpa using hmatch) hvia
  simp only [Portos.lookupTells, hfound, hid, Option.all_some, hmatch', Bool.not_true,
    Bool.false_or, List.contains_eq_mem, decide_eq_true_eq] at htells
  exact htells

lemma tellsReceipt_of_done {p : Portos} {key : ReceiptKey} {result : Json} {kind : ReceiptKind}
    {reply : PortosReply} (htells : p.registerTells key reply = true)
    (hdone : registerOutcome reply kind key.ext = .done result) : TellsReceipt p key result := by
  obtain ⟨status, body, rfl, hsuccess, hresult⟩ := registerOutcome_done hdone
  obtain ⟨okp, number, hid, hmatch, hfields⟩ := receiptResult_some hresult
  refine ⟨okp, number, ?_, hfields⟩
  simp only [Portos.registerTells, hsuccess, hid, Option.all_some, hmatch, Bool.not_true,
    Bool.false_or, List.contains_eq_mem, decide_eq_true_eq] at htells
  exact htells

/-! ### The calls -/

/-- What is assumed of Portos: a register request takes effect before a later lookup of its key
is answered or never, and its answers tell of the receipts that are registered so far. -/
def tellsTruth (w : World (fiscalWith cfg C)) : Event (fiscalWith cfg C) → Bool
  | .dev (.inl (.carryOut number _)) =>
    w.dev.1.posts.all fun post => !(post.number == number) || !post.overtaken
  | .task i (.inl (.reply reply)) =>
    match w.proc.tasks i with
    | some (.inl t) => w.dev.1.tells reply t
    | _ => true
  | _ => true

/-- The law of such a Portos. -/
def PortosTruthful : Transition.Law (World (fiscalWith cfg C)) (Event (fiscalWith cfg C)) :=
  fun w e _ => tellsTruth w e = true

/-- The result of a receipt job tells of a receipt with the key of the job. -/
def TellsOwn (cfg : PortosConfig) (p : Portos) (job : DeviceJob) (result : Json) : Prop :=
  ∀ kind key, FiscalOp.forJobType job.jobType = some (.register kind) →
    cfg.receiptKey job (.register kind) = some key → TellsReceipt p key result

/-- What is known in a state of a call. -/
def PortosTask.Knows (cfg : PortosConfig) (p : Portos) : PortosTask → Prop
  | .execute _ (.contact _ key) | .execute _ (.send _ key) => p.Clear key
  | .execute job (.control _) =>
    ∀ kind, FiscalOp.forJobType job.jobType ≠ some (.register kind)
  | .execute job (.returned (.done result)) => TellsOwn cfg p job result
  | .reconcile entry (.answered (.done result)) => TellsOwn cfg p entry.job result
  | _ => True

lemma TellsOwn.grows {p p' : Portos} {job : DeviceJob} {result : Json}
    (h : TellsOwn cfg p job result) (hgrows : p.Grows p') : TellsOwn cfg p' job result :=
  fun kind key hkind hkey => (h kind key hkind hkey).grows hgrows

/-- What is known of a call that waits stays known. -/
lemma PortosTask.Knows.later {p p' : Portos} {t : PortosTask} (h : t.Knows cfg p)
    (hclear : ∀ job kind key, t = .execute job (.contact kind key) ∨
      t = .execute job (.send kind key) → p.Clear key → p'.Clear key)
    (hgrows : p.Grows p') : t.Knows cfg p' := by
  cases t with
  | execute job pc =>
    cases pc with
    | contact kind key => exact hclear job kind key (Or.inl rfl) h
    | send kind key => exact hclear job kind key (Or.inr rfl) h
    | control op => exact h
    | returned outcome =>
      cases outcome with
      | done result => exact TellsOwn.grows h hgrows
      | failed _ _ | indeterminate _ => trivial
    | start | lookup _ _ | posting _ _ _ => trivial
  | reconcile entry pc =>
    cases pc with
    | answered answer =>
      cases answer with
      | done result => exact TellsOwn.grows h hgrows
      | failed _ _ | stillUnknown _ => trivial
    | start | lookup _ | unprocessed _ => trivial

/-- The requests and the calls of a run. -/
structure ReceiptInv (w : World (fiscalWith cfg C)) : Prop where
  sound : w.dev.1.Sound
  knows : ∀ i t, w.proc.tasks i = some (.inl t) → t.Knows cfg w.dev.1

section Steps

variable {w w' : World (fiscalWith cfg C)}

lemma base_of_receiptKey {job : DeviceJob} {op : FiscalOp} {key : ReceiptKey}
    (h : cfg.receiptKey job op = some key) : key.base = cfg.urlFor job.kasaId := by
  rw [PortosConfig.receiptKey] at h
  split at h
  · rename_i kasaId code hkasa hcode
    rw [hkasa, ← Option.some.inj h]
  · cases h

/-- Two calls that are about to send a receipt to one Portos are one call. -/
lemma sender_unique {law : Transition.Law (World (fiscalWith cfg C)) (Event (fiscalWith cfg C))}
    (hreach : (source (fiscalWith cfg C) timing).Reach law w) {i k : ℕ} {job job' : DeviceJob}
    {pc pc' : PortosPc} {kind kind' : ReceiptKind} {key key' : ReceiptKey}
    (ht : w.proc.tasks i = some (.inl (.execute job pc))) (hpc : pc.receipt = some (kind, key))
    (ht' : w.proc.tasks k = some (.inl (.execute job' pc')))
    (hpc' : pc'.receipt = some (kind', key')) (hbase : key'.base = key.base) : k = i := by
  obtain ⟨-, hok, -⟩ := execute_called hreach ht
  obtain ⟨-, hok', -⟩ := execute_called hreach ht'
  refine register_serial hreach ht ht' ?_
  rw [← base_of_receiptKey (hok' kind' key' hpc').2, hbase,
    base_of_receiptKey (hok kind key hpc).2]

/-- A call is about the receipt of its own job. -/
lemma tellsOwn_of {p : Portos} {job : DeviceJob} {kind : ReceiptKind} {key : ReceiptKey}
    {result : Json} (hkind : FiscalOp.forJobType job.jobType = some (.register kind))
    (hkey : cfg.receiptKey job (.register kind) = some key) (h : TellsReceipt p key result) :
    TellsOwn cfg p job result := by
  intro kind' key' hkind' hkey'
  have hop : FiscalOp.register kind' = .register kind := by
    rw [hkind] at hkind'
    exact (Option.some.inj hkind').symm
  rw [hop, hkey] at hkey'
  rw [← Option.some.inj hkey']
  exact h

/-- A lookup that decides a job with a result found the receipt. -/
lemma found_of_lookupOutcome {key : ReceiptKey} {l : Lookup} {result : Json}
    (h : lookupOutcome key l = some (.done result)) :
    ∃ body, l = .found body ∧ receiptResult body key.ext .lookup = some result := by
  cases l with
  | found body =>
    refine ⟨body, rfl, ?_⟩
    simp only [lookupOutcome, Option.some.injEq] at h
    split at h
    · rename_i r hr
      rw [hr, Outcome.done.inj h]
    · cases h
  | notFound | unreachable _ | failed _ => cases h

lemma found_of_lookupAnswer {key : ReceiptKey} {l : Lookup} {result : Json}
    (h : lookupAnswer key l = some (.done result)) :
    ∃ body, l = .found body ∧ receiptResult body key.ext .reconcile = some result := by
  cases l with
  | found body =>
    refine ⟨body, rfl, ?_⟩
    simp only [lookupAnswer, Option.some.injEq] at h
    split at h
    · rename_i r hr
      rw [hr, Reconciliation.done.inj h]
    · cases h
  | notFound | unreachable _ | failed _ => cases h

/-- The plan of a call is no device contact yet, and a receipt is no control request. -/
lemma plan_knows (p : Portos) (job : DeviceJob) :
    (PortosTask.execute job (cfg.plan job)).Knows cfg p := by
  rw [PortosConfig.plan]
  split
  · split <;> trivial
  · rename_i op hnot hop
    intro kind hkind
    rw [hop] at hkind
    exact hnot kind (Option.some.inj hkind)
  · trivial

lemma planReconcile_knows (p : Portos) (entry : JournalEntry) :
    (PortosTask.reconcile entry (cfg.planReconcile entry.job)).Knows cfg p := by
  rw [PortosConfig.planReconcile]
  split
  · split <;> trivial
  · trivial
  · trivial

/-- A step of a call after which what the other calls know is still known. -/
lemma ReceiptInv.of_stepped {i : ℕ} {t' : PortosTask} (ih : ReceiptInv w)
    (htasks : w'.proc.tasks = Function.update w.proc.tasks i (some (.inl t')))
    (hsound : w'.dev.1.Sound) (hgrows : w.dev.1.Grows w'.dev.1) (hown : t'.Knows cfg w'.dev.1)
    (hclear : ∀ k job kind key, k ≠ i →
      w.proc.tasks k = some (.inl (.execute job (.contact kind key))) ∨
        w.proc.tasks k = some (.inl (.execute job (.send kind key))) →
      w.dev.1.Clear key → w'.dev.1.Clear key) : ReceiptInv w' := by
  refine ⟨hsound, fun k u hu => ?_⟩
  rw [htasks] at hu
  by_cases hk : k = i
  · subst hk
    rw [Function.update_self] at hu
    cases hu
    exact hown
  · rw [Function.update_of_ne hk] at hu
    refine (ih.knows k u hu).later (fun job kind key hpc => ?_) hgrows
    rcases hpc with rfl | rfl
    · exact hclear k job kind key hk (Or.inl hu)
    · exact hclear k job kind key hk (Or.inr hu)

/-- What a step does to the receipts that are registered. -/
lemma ReceiptInv.grows {e : Event (fiscalWith cfg C)} (ih : ReceiptInv w)
    (hstep : w.step timing e = some w') : w.dev.1.Grows w'.dev.1 := by
  have hsame : Portos.Grows w.dev.1 w.dev.1 := fun _ _ _ h => h
  cases FiscalMove.of_step hstep with
  | other hdev => rwa [hdev]
  | carried number receipt he hdev =>
    simp only [Portos.devStep, Option.ite_none_right_eq_some, Option.some.injEq,
      List.any_eq_true, Bool.and_eq_true, beq_iff_eq, Option.isNone_iff_eq_none] at hdev
    rw [← hdev.2]
    exact Portos.grows_carryOut ih.sound receipt hdev.1
  | stepped i ev t t' he htask hmove =>
    generalize hs' : (⟨w'.journal, w'.dev.1, ()⟩ : PortosState) = s' at hmove
    have hdev : w'.dev.1 = s'.dev := by rw [← hs']
    rw [hdev]
    cases hmove with
    | plan | decided | contacted | notContacted | controlled | planReconcile | reconciled
    | listed => exact hsame
    | notFound _ _ key | absent _ key => exact Portos.grows_overtake key
    | sent job kind key body => exact Portos.grows_send job.id key kind.path body
    | answered _ _ _ number reply => exact Portos.grows_answer number reply

/-- No step opens a second request with one key. -/
lemma ReceiptInv.step {law : Transition.Law (World (fiscalWith cfg C)) (Event (fiscalWith cfg C))}
    {e : Event (fiscalWith cfg C)} (hreach : (source (fiscalWith cfg C) timing).Reach law w)
    (ih : ReceiptInv w) (hstep : w.step timing e = some w') (hlaw : tellsTruth w e = true) :
    ReceiptInv w' := by
  have hgrows := ih.grows hstep
  cases FiscalMove.of_step hstep with
  | other hdev htasks =>
    refine ⟨by rw [hdev]; exact ih.sound, fun k t ht => ?_⟩
    rw [hdev]
    rcases htasks k t ht with hold | ⟨job, rfl, -⟩ | ⟨entry, rfl⟩
    · exact ih.knows k t hold
    · trivial
    · trivial
  | carried number receipt he hdev hj htasks hcalls hlog =>
    subst he
    simp only [tellsTruth, List.all_eq_true, Bool.or_eq_true, Bool.not_eq_true',
      beq_eq_false_iff_ne] at hlaw
    simp only [Portos.devStep, Option.ite_none_right_eq_some, Option.some.injEq] at hdev
    have hkeeps := fun post (hpost : post ∈ w.dev.1.posts) =>
      Portos.carryOut_keeps number receipt post fun hnumber =>
        (hlaw post hpost).resolve_left (not_not.mpr hnumber)
    refine ⟨?_, fun k t ht => ?_⟩
    · rw [← hdev.2]
      exact ih.sound.map hkeeps
    · rw [htasks] at ht
      refine (ih.knows k t ht).later (fun _ _ _ _ hclear => ?_) hgrows
      rw [← hdev.2]
      exact hclear.map hkeeps
  | stepped i ev t t' he htask hmove htasks hcalls hlog =>
    subst he
    generalize hs' : (⟨w'.journal, w'.dev.1, ()⟩ : PortosState) = s' at hmove
    have hdev : w'.dev.1 = s'.dev := by rw [← hs']
    have hkept : s'.dev = w.dev.1 → t'.Knows cfg w.dev.1 → ReceiptInv w' := fun hd hown =>
      ih.of_stepped htasks (by rw [hdev, hd]; exact ih.sound) hgrows (by rwa [hdev, hd])
        fun _ _ _ _ _ _ hclear => by rwa [hdev, hd]
    have htells : ∀ reply, ev = .reply reply → w.dev.1.tells reply t = true := by
      rintro reply rfl
      simpa only [tellsTruth, htask] using hlaw
    have hovertaken : ∀ key, s'.dev = w.dev.1.overtake key →
        t'.Knows cfg (w.dev.1.overtake key) → ReceiptInv w' := fun key hd hown =>
      ih.of_stepped htasks
        (by rw [hdev, hd]; exact ih.sound.map fun post _ => Portos.overtake_keeps key post)
        hgrows (by rwa [hdev, hd]) fun _ _ _ _ _ _ hclear => by
          rw [hdev, hd]
          exact hclear.map fun post _ => Portos.overtake_keeps key post
    cases hmove with
    | plan job => exact hkept rfl (plan_knows _ job)
    | decided job kind key reply outcome hout =>
      refine hkept rfl ?_
      cases outcome with
      | done result =>
        obtain ⟨-, hok, -⟩ := execute_called hreach htask
        obtain ⟨hkind, hkey⟩ := hok kind key rfl
        obtain ⟨body, hfound, hresult⟩ := found_of_lookupOutcome hout
        exact tellsOwn_of hkind hkey
          (tellsReceipt_of_found (by decide) hfound (htells reply rfl) hresult)
      | failed _ _ | indeterminate _ => trivial
    | notFound job kind key reply hnot =>
      refine hovertaken key rfl (Portos.clear_overtake ?_)
      have := htells reply rfl
      simpa [Portos.tells, Portos.lookupTells, hnot] using this
    | contacted job kind key =>
      have hclear : w.dev.1.Clear key := ih.knows i _ htask
      exact hkept rfl hclear
    | notContacted job kind key error code text => exact hkept rfl trivial
    | sent job kind key body =>
      have hown : w.dev.1.Clear key := ih.knows i _ htask
      refine ih.of_stepped htasks (by rw [hdev]; exact ih.sound.send hown _ _ _) hgrows trivial ?_
      intro k job' kind' key' hk hpc hclear
      rw [hdev]
      refine hclear.send (fun hsame => hk ?_) _ _ _
      rcases hpc with hpc | hpc
      · exact sender_unique hreach htask rfl hpc rfl hsame.1.symm
      · exact sender_unique hreach htask rfl hpc rfl hsame.1.symm
    | answered job kind key number reply =>
      refine ih.of_stepped htasks
        (by rw [hdev]; exact ih.sound.map fun post _ => Portos.answer_keeps number reply post)
        hgrows ?_ fun _ _ _ _ _ _ hclear => by
          rw [hdev]
          exact hclear.map fun post _ => Portos.answer_keeps number reply post
      cases hout : registerOutcome reply kind key.ext with
      | done result =>
        obtain ⟨-, hok, -⟩ := execute_called hreach htask
        obtain ⟨hkind, hkey⟩ := hok kind key rfl
        refine tellsOwn_of hkind hkey ((tellsReceipt_of_done (htells reply rfl) hout).grows ?_)
        exact hgrows
      | failed _ _ | indeterminate _ => trivial
    | controlled job op reply =>
      refine hkept rfl ?_
      have hnot : ∀ kind, FiscalOp.forJobType job.jobType ≠ some (.register kind) :=
        ih.knows i _ htask
      cases controlOutcome reply op with
      | done result => exact fun kind _ hkind => absurd hkind (hnot kind)
      | failed _ _ | indeterminate _ => trivial
    | planReconcile entry => exact hkept rfl (planReconcile_knows _ entry)
    | reconciled entry key reply answer hanswer =>
      refine hkept rfl ?_
      cases answer with
      | done result =>
        obtain ⟨-, ⟨kind, hkind, hkey⟩, -⟩ := reconcile_called hreach htask
        obtain ⟨body, hfound, hresult⟩ := found_of_lookupAnswer hanswer
        exact tellsOwn_of hkind hkey
          (tellsReceipt_of_found (by decide) hfound (htells reply rfl) hresult)
      | failed _ _ | stillUnknown _ => trivial
    | absent entry key reply hnot =>
      refine hovertaken key rfl ?_
      rw [PortosConfig.reconcileNotFound]
      split <;> trivial
    | listed entry key reply text => exact hkept rfl trivial

lemma receiptInv_of_reach (h : (source (fiscalWith cfg C) timing).Reach PortosTruthful w) :
    ReceiptInv w := by
  refine h.invariant (P := ReceiptInv) ?_ fun a e b ha ih hstep hlaw => ih.step ha hstep hlaw
  exact ⟨⟨by rintro _ ⟨⟩, List.nodup_nil, by rintro _ ⟨⟩⟩, by rintro _ _ ⟨⟩⟩

/-! ### The rows -/

/-- The result of a receipt job that is `done` tells of a receipt with its key; the row has it
as it reads back. -/
def ReceiptsTold (w : World (fiscalWith cfg C)) : Prop :=
  ∀ id e kind key, w.journal.get id = some e →
    FiscalOp.forJobType e.job.jobType = some (.register kind) →
    cfg.receiptKey e.job (.register kind) = some key → e.state = .done →
    ∃ result, e.result = some (result.reread cfg.readFloat) ∧ TellsReceipt w.dev.1 key result

/-- A call of a receipt job that is over with a result. -/
lemma tells_of_doneCause
    {law : Transition.Law (World (fiscalWith cfg C)) (Event (fiscalWith cfg C))}
    (hreach : (source (fiscalWith cfg C) timing).Reach law w) (hinv : ReceiptInv w) {id : ℤ}
    {e e' : JournalEntry} {kind : ReceiptKind} {key : ReceiptKey} (he : w.journal.get id = some e)
    (hcause : DoneCause w id e')
    (hkind : FiscalOp.forJobType e.job.jobType = some (.register kind))
    (hkey : cfg.receiptKey e.job (.register kind) = some key) :
    ∃ result, e'.result = some (result.reread cfg.readFloat) ∧
      TellsReceipt w.dev.1 key result := by
  have hfis := isFiscal_of_register hkind
  have hread : w.journal.readFloat = cfg.readFloat := readFloat_of_reach hreach
  have hcalls := callInv_of_reach hreach
  have htasks := taskInv_of_reach (fiscalStates cfg C) hreach
  cases hcause with
  | joined q i job t result hcall hid htask hout hresult =>
    obtain ⟨-, e₀, he₀, hjob, -⟩ := hcalls.executing q i job hcall
    rw [hid, he] at he₀
    cases he₀
    obtain ⟨t₁, ht₁, hof⟩ := htasks.called q i _ hcall
    rw [htask] at ht₁
    cases ht₁
    cases t with
    | inr u =>
      rw [hjob, show Executor.isFiscal job.jobType = false from hof] at hfis
      cases hfis
    | inl t =>
      obtain ⟨-, pc, rfl, -⟩ := hof
      have hknows := hinv.knows i _ htask
      cases pc <;> cases hout
      exact ⟨result, hread ▸ hresult, hknows kind key (hjob ▸ hkind) (hjob ▸ hkey)⟩
  | answered q i entry t result hcall hid htask hout hresult =>
    obtain ⟨-, -, e₀, he₀, hle⟩ := hcalls.reconciling q i entry hcall
    rw [hid, he] at he₀
    cases he₀
    obtain ⟨t₁, ht₁, hof⟩ := htasks.called q i _ hcall
    rw [htask] at ht₁
    cases ht₁
    rw [hle.job] at hfis hkind hkey
    cases t with
    | inr u =>
      rw [show Executor.isFiscal entry.job.jobType = false from hof] at hfis
      cases hfis
    | inl t =>
      obtain ⟨-, pc, rfl, -⟩ := hof
      have hknows := hinv.knows i _ htask
      cases pc <;> cases hout
      exact ⟨result, hread ▸ hresult, hknows kind key hkind hkey⟩

lemma receiptsTold_of_reach (h : (source (fiscalWith cfg C) timing).Reach PortosTruthful w) :
    ReceiptsTold w := by
  refine h.invariant (P := ReceiptsTold) ?_ ?_
  · intro id e kind key he
    rw [show (source (fiscalWith cfg C) timing).init.journal = Journal.empty cfg.readFloat from rfl,
      Journal.get_empty] at he
    cases he
  · intro a ev b ha ih hstep hlaw id e' kind key he' hkind hkey hdone
    have hshape := Shape.of_step hstep
    have hinv := receiptInv_of_reach ha
    have hgrows := hinv.grows hstep
    cases he : a.journal.get id with
    | none => exact absurd hdone (hshape.new_row he he')
    | some e =>
      have hlater := hshape.jobs.rowLater he he'
      rw [hlater.job] at hkind hkey
      by_cases hs : e.state = .done
      · -- the first outcome stays
        have hverdict := hlater.verdict (by rw [hs]; rfl)
        obtain ⟨result, hresult, htells⟩ := ih id e kind key he hkind hkey hs
        have hsame : e'.result = e.result := congrArg (fun v => v.2.1) hverdict
        exact ⟨result, hsame.trans hresult, htells.grows hgrows⟩
      · obtain ⟨result, hresult, htells⟩ :=
          tells_of_doneCause ha hinv he (hshape.done_cause he he' hs hdone) hkind hkey
        exact ⟨result, hresult, htells.grows hgrows⟩

/-- However many jobs a sale has, from Odoo and from the tills, and however their steps, the lost
answers, the crashes and the restarts are ordered: at most one receipt is registered with the key
of the sale, and a job that is `done` tells of that one. -/
theorem one_receipt_per_sale (cfg : PortosConfig) (C : Executor) (timing : Timing)
    {w : World (fiscalWith cfg C)}
    (h : (source (fiscalWith cfg C) timing).Reach PortosTruthful w) :
    (∀ base ext, (w.dev.1.registered base ext).length ≤ 1) ∧
    ∀ id e kind key, w.journal.get id = some e →
      FiscalOp.forJobType e.job.jobType = some (.register kind) →
      cfg.receiptKey e.job (.register kind) = some key → e.state = .done →
      ∃ okp number result, w.dev.1.registered key.base key.ext = [(okp, number)] ∧
        e.result = some result ∧ result.get "external_id" = some (.str key.ext) ∧
        result.get "okp" = some (.str okp) ∧
        result.get "receipt_number" = some (number.reread cfg.readFloat) := by
  have hone := (receiptInv_of_reach h).sound.length_registered
  refine ⟨hone, fun id e kind key he hkind hkey hdone => ?_⟩
  obtain ⟨result, hresult, okp, number, hmem, hext, hokp, hnumber⟩ :=
    receiptsTold_of_reach h id e kind key he hkind hkey hdone
  -- a text reads back as itself
  refine ⟨okp, number, result.reread cfg.readFloat, ?_, hresult, ?_, ?_, ?_⟩
  rotate_left
  · rw [Json.get_reread, hext]
    rfl
  · rw [Json.get_reread, hokp]
    rfl
  · rw [Json.get_reread, hnumber]
    rfl
  obtain ⟨rest, hrest⟩ : ∃ rest, w.dev.1.registered key.base key.ext = [rest] :=
    List.length_eq_one_iff.mp (le_antisymm (hone _ _) (List.length_pos_of_mem hmem))
  rw [hrest] at hmem ⊢
  rw [List.mem_singleton.mp hmem]

end Steps

/-- The law of a truthful Portos, as a test. -/
def truthfulTest (w : World (fiscalWith cfg C)) (e : Event (fiscalWith cfg C))
    (_ : World (fiscalWith cfg C)) : Bool :=
  tellsTruth w e

lemma portosTruthful_of_test {w w' : World (fiscalWith cfg C)} {e : Event (fiscalWith cfg C)}
    (h : truthfulTest w e w' = true) : PortosTruthful w e w' := h

/-- The answer of Portos to a lookup: the receipt with a key. -/
def receiptAnswer (ext : String) : PortosReply :=
  .answer 200 (.obj [("request", .obj [
    ("data", .obj [("okp", .str "f0a1"), ("receiptNumber", .ofInt 5)]),
    ("externalId", .str ext)])])

/-- Job 7 sends the receipt of a sale and the process crashes; Portos registers the receipt; then
job 8 comes with the same sale. -/
def runWithTwoJobs : List (Event (fiscalWith oneServer Executor.absent)) :=
  let q : DeviceQueue := ⟨.fiscal, "http://portos"⟩
  runUntilSent 7 ++ [.crash, .dev (.inl (.carryOut 0 ("f0a1", .ofInt 5))), .start 4,
    .control .poll, .odoo (.answerPending (replyWithPending [])), .control (.arrive true),
    .control (.entry true), .control .poll, .odoo (.answerNext (replyWithReceipt 8)),
    .control (.arrive true), .control (.enqueue true true), .worker q (.take true),
    .worker q (.start true), .task 0 (.inl .go), .task 0 (.inl (.reply (receiptAnswer "dbj-1:u1"))),
    .worker q (.join true)]

/-- Job 8 sent nothing and tells of the receipt that job 7 had sent. -/
theorem one_receipt_per_sale_two_jobs :
    ∃ w e, (source (fiscalWith oneServer Executor.absent) Timing.default).Reach PortosTruthful w ∧
      w.journal.get 8 = some e ∧ e.state = .done ∧ w.dev.1.attempts 8 = [] ∧
      ∃ okp number result, w.dev.1.registered "http://portos" "dbj-1:u1" = [(okp, number)] ∧
        e.result = some result ∧ result.get "okp" = some (.str okp) := by
  obtain ⟨w, hreach, hw⟩ := Transition.reach_of_tests
    (source (fiscalWith oneServer Executor.absent) Timing.default) PortosTruthful runWithTwoJobs
    (fun w => (w.journal.get 8).any (fun e : JournalEntry => decide (e.state = .done) &&
        decide (FiscalOp.forJobType e.job.jobType = some (.register .cashRegister)) &&
        decide (oneServer.receiptKey e.job (.register .cashRegister) =
          some ⟨"http://portos", "dbj-1:u1", "88"⟩)) &&
      decide (w.dev.1.attempts 8 = []))
    (fun _ _ _ => portosTruthful_of_test) (by decide +kernel) (by decide +kernel)
  simp only [Bool.and_eq_true, Option.any_eq_true, decide_eq_true_eq] at hw
  obtain ⟨⟨e, he, ⟨hs, hkind⟩, hkey⟩, hnone⟩ := hw
  have hmain := one_receipt_per_sale oneServer Executor.absent Timing.default hreach
  obtain ⟨okp, number, result, hreg, hresult, -, hokp, -⟩ := hmain.2 8 e _ _ he hkind hkey hs
  exact ⟨w, e, hreach, he, hs, hnone, okp, number, result, hreg, hresult, hokp⟩

end DevBridge

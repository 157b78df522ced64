import DevBridge.LanApi.Routes
import DevBridge.Source.LanSubmits

/-!
# The tills are isolated

A call of the API acts for the till whose key it brought, from its first check to its answer:
that is the invariant of the calls below.  The rows that it reads are found by the till, and a
row keeps its till while the process runs, so the answer tells of the till's own rows, however
the calls and the other tasks are ordered.
-/

namespace DevBridge

namespace LanApi

open Transition (free)

variable {E : Executor} {timing : Timing} {sha256 : List UInt8 → KeyDigest} {keys : KeyTable}
  {config : ClientConfig} {r : Request} {a : Answer} {till : ℤ} {s s' : World E}

/-! ### Whose request it is -/

/-- The token of the request is the key of the till. -/
def Request.OfTill (config : ClientConfig) (till : ℤ) (r : Request) : Prop :=
  ∃ token, r.token = some token ∧ config.KeyOf till token

/-- The request has no key of a till, or the bridge key. -/
def Request.Foreign (config : ClientConfig) (r : Request) : Prop :=
  (∀ till, ¬ r.OfTill config till) ∨ r.token = some (trim config.pokladna.apiKey)

/-- The token of the request has no other digest than its own among those of the keys. -/
def Request.Clear (sha256 : List UInt8 → KeyDigest) (config : ClientConfig) (r : Request) : Prop :=
  ∀ token, r.token = some token → ¬ config.Collides sha256 token

/-- The request acts for the till. -/
def Request.ActsFor (config : ClientConfig) (till : ℤ) (r : Request) : Prop :=
  r.OfTill config till ∧ ¬ r.Foreign config

lemma actsFor_of_tillOf (hconfig : config.Accepted) (hclear : r.Clear sha256 config)
    (h : (config.keyTable sha256).tillOf sha256 r.token = some till) : r.ActsFor config till := by
  rcases htoken : r.token with _ | token
  · rw [htoken] at h
    cases h
  · rw [htoken] at h
    obtain ⟨hkey, hbridge⟩ := keyOf_of_tillOf sha256 hconfig (hclear token htoken) h
    refine ⟨⟨token, htoken, hkey⟩, ?_⟩
    rintro (hnone | hsame)
    · exact hnone till ⟨token, htoken, hkey⟩
    · exact hbridge (Option.some.inj (hsame.symm.trans htoken))

lemma Request.ActsFor.unique {till' : ℤ} (hconfig : config.Accepted) (h : r.ActsFor config till)
    (h' : r.OfTill config till') : till' = till := by
  obtain ⟨token, htoken, hkey⟩ := h.1
  obtain ⟨token', htoken', hkey'⟩ := h'
  obtain rfl := Option.some.inj (htoken.symm.trans htoken')
  exact hconfig.unique hkey' hkey

lemma checkPost_ok {token : Option String} {body : Option Json} {request : LanRequest}
    (h : checkPost sha256 keys token body = .ok request) :
    keys.tillOf sha256 token = some request.kasaId := by
  unfold checkPost at h
  rcases htill : keys.tillOf sha256 token with _ | till
  · rw [htill] at h
    cases h
  · rw [htill] at h
    rcases hparse : parseRequest body with text | parsed
    · rw [hparse] at h
      cases h
    · simp only [hparse] at h
      split at h
      next => cases h
      next heq =>
        obtain rfl := Except.ok.inj h
        rw [not_not.mp heq]

/-- What a check refuses a request with, and who is told more than that it has no key. -/
def Refusal (keys : KeyTable) (sha256 : List UInt8 → KeyDigest) (token : Option String)
    (a : Answer) : Prop :=
  a.jobs = [] ∧ (a = unauthorized ∨ ∃ till, keys.tillOf sha256 token = some till)

lemma checkPost_error {token : Option String} {body : Option Json}
    (h : checkPost sha256 keys token body = .error a) : Refusal keys sha256 token a := by
  unfold checkPost at h
  rcases htill : keys.tillOf sha256 token with _ | till
  · rw [htill] at h
    obtain rfl := Except.error.inj h
    exact ⟨rfl, Or.inl rfl⟩
  · rw [htill] at h
    rcases hparse : parseRequest body with text | parsed
    · rw [hparse] at h
      obtain rfl := Except.error.inj h
      exact ⟨rfl, Or.inr ⟨till, htill⟩⟩
    · simp only [hparse] at h
      split at h
      next =>
        obtain rfl := Except.error.inj h
        exact ⟨rfl, Or.inr ⟨till, htill⟩⟩
      next => cases h

lemma checkPath_ok {token : Option String} {kasa clientUuid : String} {kasaId : ℤ}
    (h : checkPath sha256 keys token kasa clientUuid = .ok kasaId) :
    keys.tillOf sha256 token = some kasaId := by
  unfold checkPath at h
  rcases htill : keys.tillOf sha256 token with _ | till
  · rw [htill] at h
    cases h
  · rw [htill] at h
    rcases hparse : parsePath kasa clientUuid with _ | parsed
    · rw [hparse] at h
      cases h
    · simp only [hparse] at h
      split at h
      next => cases h
      next heq =>
        obtain rfl := Except.ok.inj h
        rw [not_not.mp heq]

lemma checkPath_error {token : Option String} {kasa clientUuid : String}
    (h : checkPath sha256 keys token kasa clientUuid = .error a) :
    Refusal keys sha256 token a := by
  unfold checkPath at h
  rcases htill : keys.tillOf sha256 token with _ | till
  · rw [htill] at h
    obtain rfl := Except.error.inj h
    exact ⟨rfl, Or.inl rfl⟩
  · rw [htill] at h
    rcases hparse : parsePath kasa clientUuid with _ | parsed
    · rw [hparse] at h
      obtain rfl := Except.error.inj h
      exact ⟨rfl, Or.inr ⟨till, htill⟩⟩
    · simp only [hparse] at h
      split at h
      next =>
        obtain rfl := Except.error.inj h
        exact ⟨rfl, Or.inr ⟨till, htill⟩⟩
      next => cases h

lemma checkHealth_spec (sha256 : List UInt8 → KeyDigest) (keys : KeyTable)
    (token : Option String) :
    (∃ till, keys.tillOf sha256 token = some till ∧ checkHealth sha256 keys token = .ok ()) ∨
      checkHealth sha256 keys token = .error unauthorized := by
  unfold checkHealth
  rcases htill : keys.tillOf sha256 token with _ | till
  · exact Or.inr rfl
  · exact Or.inl ⟨till, rfl, rfl⟩

/-! ### What a LAN call of the source does -/

/-- The request that a LAN call is about. -/
def lanRequest : LanPc → Option LanRequest
  | .idle => none
  | .insert request | .enqueue request _ | .wait request _ _ => some request

/-- The journal got a row of the till, or the till's row that could not be queued is failed. -/
structure InsertsFor (till : ℤ) (j j' : Journal) : Prop where
  odoo : j'.deviceJobs = j.deviceJobs
  payments : j'.cardPayments = j.cardPayments
  balances : j'.cardBalances = j.cardBalances
  lan : ∀ id, j'.lanJobs.get? id = j.lanJobs.get? id ∨
    ∃ row, j'.lanJobs.get? id = some row ∧ row.entry.job.kasaId = some till ∧
      (j.lanJobs.get? id = none ∨
        row.state = .failed ∧ row.entry.errorCode = some CODE_BRIDGE_ERROR)

lemma InsertsFor.refl (till : ℤ) (j : Journal) : InsertsFor till j j :=
  ⟨rfl, rfl, rfl, fun _ => Or.inl rfl⟩

lemma InsertsFor.of_insert {j j' : Journal} {now : Time} {request : LanRequest} {jobId : ℤ}
    (h : j.insertLanReceived now request.toJob = some (.new jobId, j')) :
    InsertsFor request.kasaId j j' := by
  unfold Journal.insertLanReceived at h
  obtain ⟨kasaId, hkasa, h⟩ := Option.bind_eq_some_iff.mp h
  split at h
  · rename_i rowId t ht
    obtain ⟨-, rfl⟩ := Prod.mk.inj (Option.some.inj h)
    obtain ⟨-, -, hnone, hget⟩ := AutoTable.insert_some ht
    refine ⟨rfl, rfl, rfl, fun id => ?_⟩
    by_cases hid : id = rowId
    · subst hid
      exact Or.inr ⟨_, (hget id).trans (if_pos rfl), rfl, Or.inl hnone⟩
    · exact Or.inl ((hget id).trans (if_neg hid))
  · obtain ⟨known, -, heq⟩ := Option.map_eq_some_iff.mp h
    cases heq

/-- The row of a call that found no worker. -/
lemma InsertsFor.of_noWorker {request : LanRequest} {jobId : ℤ} {ok replay : Bool}
    {text : String} (h : CallRow s request jobId replay) :
    InsertsFor request.kasaId s.journal
      (s.write ok (s.journal.recordOutcome s.clock jobId
        (.failed CODE_BRIDGE_ERROR text)).2).journal := by
  obtain ⟨e, hrow, -⟩ := h
  obtain ⟨row, hget, rfl, -⟩ := hrow.stored
  cases ok with
  | false => exact .refl _ _
  | true =>
    have hlan : isLanJob jobId = true := isLanJob_iff.mpr hrow.neg
    have hjournal : (s.journal.recordOutcome s.clock jobId (.failed CODE_BRIDGE_ERROR text)).2 =
        (s.journal.updateLan s.clock (lanJobId jobId)
          (.recordOutcome (.failed CODE_BRIDGE_ERROR text))).2 := by
      rw [Journal.recordOutcome, Journal.updateRow, if_pos hlan]
      rfl
    change InsertsFor _ _ (s.journal.recordOutcome s.clock jobId (.failed CODE_BRIDGE_ERROR text)).2
    rw [hjournal]
    refine ⟨rfl, rfl, rfl, fun id => ?_⟩
    have hupdate := AutoTable.get?_update s.journal.lanJobs (lanJobId jobId) id
      (fun r => (RowOp.recordOutcome (.failed CODE_BRIDGE_ERROR text)).guard r.entry)
      (LanJob.apply s.clock (.recordOutcome (.failed CODE_BRIDGE_ERROR text)))
      (LanJob.key_apply s.clock _)
    rcases hold : s.journal.lanJobs.get? id with _ | old
    · rw [hold] at hupdate
      exact Or.inl hupdate
    · rw [hold, Option.map_some] at hupdate
      split at hupdate
      next hguard =>
        obtain ⟨rfl, hopen⟩ := hguard
        obtain rfl := Option.some.inj (hold.symm.trans hget)
        refine Or.inr ⟨_, hupdate, ?_, Or.inr ?_⟩
        · rw [LanJob.apply, apply_job]
          exact hrow.kasaId
        · have happly : RowOp.apply .lan s.clock (.recordOutcome (.failed CODE_BRIDGE_ERROR text))
              old.entry = RowOp.set .lan s.clock (.recordOutcome (.failed CODE_BRIDGE_ERROR text))
              old.entry := if_pos hopen
          rw [LanJob.state, LanJob.apply, happly]
          exact ⟨rfl, rfl⟩
      next => exact Or.inl hupdate

/-- What a step of a LAN call does for its request. -/
structure LanCallStep (s : World E) (i : ℕ) (request : LanRequest) (s' : World E) : Prop where
  up : s'.up = s.up
  others : ∀ k, k ≠ i → s'.proc.lan k = s.proc.lan k
  inserts : InsertsFor request.kasaId s.journal s'.journal
  /-- It goes on with the request, or has an answer that tells of the till's row. -/
  goes : lanRequest (s'.proc.lan i) = some request ∨
    s'.proc.lan i = .idle ∧ ∃ answer, s'.log.answers = (request, answer) :: s.log.answers ∧
      ∀ job ∈ (answerReply "" answer).jobs, job.kasaId = some request.kasaId

namespace LanCallStep

variable {i : ℕ} {ev : LanEvent} {request : LanRequest}

lemma jobs_answerReply (text text' : String) (answer : LanAnswer) :
    (answerReply text answer).jobs = (answerReply text' answer).jobs := by
  cases answer <;> rfl

/-- A row that is found by its till is a row of the till. -/
lemma kasaId_of_fits {answer : LanAnswer} (h : answer.Fits s ev s' request) :
    ∀ job ∈ (answerReply "" answer).jobs, job.kasaId = some request.kasaId := by
  cases answer with
  | job row replay | conflict row =>
    rintro job hjob
    obtain rfl := List.mem_singleton.mp hjob
    have hrow : LanRow s.journal request.key row.jobId row.entry := LanRow.of_lanJob h.1
    exact hrow.kasaId
  | refused code text | bridgeError | stateUnknown => exact fun job hjob => (nomatch hjob)

/-- The call is answered. -/
lemma of_answer {answer : LanAnswer} (hinv : LanInv s)
    (hmove : LanMove s i ev (s.answerLan i request answer)) :
    LanCallStep s i request (s.answerLan i request answer) where
  up := rfl
  others _ hk := Function.update_of_ne hk _ _
  inserts := .refl _ _
  goes := Or.inr ⟨Function.update_self _ _ _, answer, rfl,
    kasaId_of_fits (answers_fit hinv hmove rfl)⟩

/-- The call goes on. -/
lemma of_goes {pc : LanPc} (v : World E) (hup : v.up = s.up) (hlan : v.proc.lan = s.proc.lan)
    (hinserts : InsertsFor request.kasaId s.journal v.journal)
    (hpc : lanRequest pc = some request) : LanCallStep s i request (v.withLan i pc) where
  up := hup
  others k hk := by
    rw [← hlan]
    exact Function.update_of_ne hk _ _
  inserts := hinserts
  goes := Or.inl ((congrArg lanRequest (Function.update_self _ _ _)).trans hpc)

lemma of_replayed {stored : LanJob} (hinv : LanInv s)
    (hmove : LanMove s i ev (s.replayed i request stored)) :
    LanCallStep s i request (s.replayed i request stored) := by
  rcases s.replayed_eq i request stored with heq | heq
  · rw [heq]
    exact of_goes s rfl rfl (.refl _ _) rfl
  · rw [heq] at hmove ⊢
    exact of_answer hinv hmove

lemma of_lanMove (hinv : LanInv s) (hmove : LanMove s i ev s')
    (hrequest : lanRequest (s.proc.lan i) = some request ∨ ∃ ok, ev = .submit request ok) :
    LanCallStep s i request s' := by
  have hof : ∀ {pc req}, s.proc.lan i = pc → lanRequest pc = some req →
      (∀ q ok, ev ≠ .submit q ok) → req = request := by
    intro pc req hpc hreq hev
    rcases hrequest with h | ⟨ok, h⟩
    · rw [hpc, hreq] at h
      exact Option.some.inj h
    · exact absurd h (hev request ok)
  have hsubmit : ∀ {req ok}, s.proc.lan i = .idle → ev = .submit req ok → req = request := by
    intro req ok hpc hev
    rcases hrequest with h | ⟨ok', h⟩
    · rw [hpc] at h
      cases h
    · rw [hev] at h
      exact (LanEvent.submit.inj h).1
  cases hmove with
  | unread req hpc =>
    obtain rfl := hsubmit hpc rfl
    exact of_answer hinv (.unread req hpc)
  | known req stored hpc hrow =>
    obtain rfl := hsubmit hpc rfl
    exact of_replayed hinv (.known req stored hpc hrow)
  | refused req code text hpc hrow hwhy =>
    obtain rfl := hsubmit hpc rfl
    exact of_answer hinv (.refused req code text hpc hrow hwhy)
  | admitted req hpc hrow hwhy =>
    obtain rfl := hsubmit hpc rfl
    exact of_goes s rfl rfl (.refl _ _) rfl
  | unwritten req hpc =>
    obtain rfl := hof hpc rfl nofun
    exact of_answer hinv (.unwritten req hpc)
  | inserted req jobId j hpc hj =>
    obtain rfl := hof hpc rfl nofun
    exact of_goes ((s.noteJournaled jobId).withJournal j) rfl rfl (.of_insert hj) rfl
  | raced req stored j hpc hj =>
    obtain rfl := hof hpc rfl nofun
    exact of_replayed hinv (.raced req stored j hpc hj)
  | neither req hpc hj =>
    obtain rfl := hof hpc rfl nofun
    exact of_answer hinv (.neither req hpc hj)
  | queued req job q ok hpc hq =>
    obtain rfl := hof hpc rfl nofun
    exact of_goes ((s.push q _).noteQueued req) rfl rfl (.refl _ _) rfl
  | noWorker req job sent ok hpc =>
    obtain rfl := hof hpc rfl nofun
    exact of_goes (s.write ok _) rfl rfl (.of_noWorker (hinv.enqueue i req job hpc)) rfl
  | unreadable req jobId replay late hpc =>
    obtain rfl := hof hpc rfl nofun
    exact of_answer hinv (.unreadable req jobId replay late hpc)
  | vanished req jobId replay late hpc hrow =>
    obtain rfl := hof hpc rfl nofun
    exact of_answer hinv (.vanished req jobId replay late hpc hrow)
  | settled req jobId replay late job hpc hrow hnow =>
    obtain rfl := hof hpc rfl nofun
    exact of_answer hinv (.settled req jobId replay late job hpc hrow hnow)
  | waiting req jobId replay late job hpc hrow hnow =>
    obtain rfl := hof hpc rfl nofun
    exact ⟨rfl, fun _ _ => rfl, .refl _ _, Or.inl (by rw [hpc]; rfl)⟩

end LanCallStep

/-! ### The calls of the API -/

/-- A job of Odoo that is of the till. -/
def CardRow (j : Journal) (till jobId : ℤ) : Prop :=
  0 < jobId ∧ ∃ e, j.get jobId = some e ∧ e.job.kasaId = some till

/-- What a call relies on: it acts for a till, and what it has found is of the till. -/
def CallPc.Confined (config : ClientConfig) (s : World E) (i : ℕ) : CallPc → Prop
  | .idle => True
  | .post r => ∃ request, lanRequest (s.proc.lan i) = some request ∧
      r.ActsFor config request.kasaId
  | .cardEntry r jobId => ∃ till, r.ActsFor config till ∧ CardRow s.journal till jobId
  | .cardPayment r jobId entry => ∃ till, r.ActsFor config till ∧ CardRow s.journal till jobId ∧
      entry.job.kasaId = some till ∧ entry.job.id = jobId

/-- The answer says that there is no key, or tells of the till's rows. -/
def Answer.Confined (config : ClientConfig) (r : Request) (a : Answer) : Prop :=
  a = unauthorized ∨ ∃ till, r.ActsFor config till ∧ ∀ job ∈ a.jobs, job.kasaId = some till

structure ApiWorld.Inv (config : ClientConfig) (timing : Timing) (w : ApiWorld E) : Prop where
  source : (DevBridge.source E timing).Reach free w.source
  calls : ∀ i, (w.calls i).Confined config w.source i
  /-- No call is under way when the process is down. -/
  down : w.source.up = false → ∀ i, w.calls i = .idle
  answered : ∀ r a, (r, a) ∈ w.answered → a.Confined config r

namespace ApiWorld

variable {w w' : ApiWorld E} {i : ℕ}

/-- The request that a step is a part of. -/
def actor (w : ApiWorld E) : ApiEvent E → Option Request
  | .request _ r _ _ => some r
  | .post i _ _ | .card i _ =>
    match w.calls i with
    | .idle => none
    | .post r | .cardEntry r _ | .cardPayment r _ _ => some r
  | .other _ => none

/-- The steps of a request: it is sent away, or a read goes on, or its job is a step of the
source. -/
inductive CallMove (config : ClientConfig) (timing : Timing) (w : ApiWorld E) (r : Request) :
    ApiWorld E → Prop where
  | refused (i : ℕ) (a : Answer) (ha : a.Confined config r) :
      CallMove config timing w r (w.answer i r a)
  | reads (i : ℕ) (pc : CallPc) (hpc : pc.Confined config w.source i)
      (hup : w.source.up = true) (hlet : ∃ till, r.ActsFor config till) :
      CallMove config timing w r (w.withCall i pc)
  | works (i : ℕ) (ev : LanEvent) (request : LanRequest) (text : String) (s : World E)
      (hlet : r.ActsFor config request.kasaId)
      (hstep : (DevBridge.source E timing).step w.source (.lan i ev) = some s)
      (hlan : LanCallStep w.source i request s) :
      CallMove config timing w r (w.settle i r text s)

lemma withCall_self (pc : CallPc) : (w.withCall i pc).calls i = pc := Function.update_self _ _ _

lemma withCall_of_ne {k : ℕ} (hk : k ≠ i) (pc : CallPc) : (w.withCall i pc).calls k = w.calls k :=
  Function.update_of_ne hk _ _

lemma Inv.withCall {pc : CallPc} (h : w.Inv config timing) (hpc : pc.Confined config w.source i)
    (hup : w.source.up = true ∨ pc = .idle) : (w.withCall i pc).Inv config timing := by
  refine ⟨h.source, fun k => ?_, fun hdown k => ?_, h.answered⟩
  · by_cases hk : k = i
    · rw [hk, withCall_self]
      exact hpc
    · rw [withCall_of_ne hk]
      exact h.calls k
  · by_cases hk : k = i
    · rw [hk, withCall_self]
      have hdown : w.source.up = false := hdown
      rw [hdown] at hup
      exact hup.resolve_left (by decide)
    · rw [withCall_of_ne hk]
      exact h.down hdown k

lemma Inv.answer (h : w.Inv config timing) (ha : a.Confined config r) :
    (w.answer i r a).Inv config timing := by
  have hidle : (w.withCall i .idle).Inv config timing := h.withCall trivial (Or.inr rfl)
  refine ⟨hidle.source, hidle.calls, hidle.down, ?_⟩
  rintro r' a' (_ | ⟨_, hmem⟩)
  · exact ha
  · exact h.answered r' a' hmem

/-- The source makes a step that leaves the LAN calls of the API and the jobs as they are. -/
lemma Inv.withSource {s : World E} (h : w.Inv config timing)
    (hreach : (DevBridge.source E timing).Reach free s) (hup : s.up = w.source.up)
    (hrows : ∀ id e, w.source.up = true → w.source.journal.get id = some e →
      ∃ e', s.journal.get id = some e' ∧ e'.job = e.job)
    (hlan : ∀ k r, w.calls k = .post r → s.proc.lan k = w.source.proc.lan k) :
    { w with source := s }.Inv config timing := by
  have hcard : ∀ k till jobId, w.calls k ≠ .idle → CardRow w.source.journal till jobId →
      CardRow s.journal till jobId := by
    rintro k till jobId hne ⟨hpos, e, he, hkasa⟩
    have hrunning : w.source.up = true := by
      by_contra hdown
      exact hne (h.down (by simpa using hdown) k)
    obtain ⟨e', he', hjob⟩ := hrows jobId e hrunning he
    exact ⟨hpos, e', he', hjob ▸ hkasa⟩
  refine ⟨hreach, fun k => ?_, fun hdown => h.down (hup ▸ hdown), h.answered⟩
  have hk := h.calls k
  change (w.calls k).Confined config s k
  rcases hpc : w.calls k with _ | r | ⟨r, jobId⟩ | ⟨r, jobId, entry⟩
  · trivial
  · rw [hpc] at hk
    obtain ⟨request, hrequest, hlet⟩ := hk
    exact ⟨request, by rw [hlan k r hpc, hrequest], hlet⟩
  · rw [hpc] at hk
    obtain ⟨till, hlet, hrow⟩ := hk
    exact ⟨till, hlet, hcard k till jobId (by rw [hpc]; exact nofun) hrow⟩
  · rw [hpc] at hk
    obtain ⟨till, hlet, hrow, hentry⟩ := hk
    exact ⟨till, hlet, hcard k till jobId (by rw [hpc]; exact nofun) hrow, hentry⟩

/-- A row stays, with its job, while the process runs. -/
lemma job_stays {ev : Event E} (hstep : (DevBridge.source E timing).step s ev = some s') (id : ℤ)
    (e : JournalEntry) (hup : s.up = true) (he : s.journal.get id = some e) :
    ∃ e', s'.journal.get id = some e' ∧ e'.job = e.job := by
  obtain ⟨e', he', hlater⟩ := (Shape.of_step hstep).jobs.row_stays hup he
  exact ⟨e', he', hlater.job⟩

/-- A LAN call that is not idle is not answered yet. -/
lemma settle_of_goes {request : LanRequest} {text : String}
    (h : lanRequest (s.proc.lan i) = some request) :
    w.settle i r text s = { w with source := s }.withCall i (.post r) := by
  unfold settle
  rcases hpc : s.proc.lan i with _ | _ | _ | _
  · rw [hpc] at h
    cases h
  all_goals rfl

lemma settle_of_answered {text : String} {request : LanRequest} {answer : LanAnswer}
    {rest : List (LanRequest × LanAnswer)} (hpc : s.proc.lan i = .idle)
    (h : s.log.answers = (request, answer) :: rest) :
    w.settle i r text s = { w with source := s }.answer i r (answerReply text answer) := by
  unfold settle
  rw [hpc, h]

lemma Inv.works {ev : LanEvent} {request : LanRequest} {text : String}
    (h : w.Inv config timing) (hlet : r.ActsFor config request.kasaId)
    (hstep : (DevBridge.source E timing).step w.source (.lan i ev) = some s)
    (hlan : LanCallStep w.source i request s) : (w.settle i r text s).Inv config timing := by
  have hidle : (w.withCall i .idle).Inv config timing := h.withCall trivial (Or.inr rfl)
  have hsource : { w.withCall i .idle with source := s }.Inv config timing :=
    hidle.withSource (h.source.move ⟨_, hstep, trivial⟩) hlan.up (job_stays hstep)
      fun k r' hpost => hlan.others k (by
        rintro rfl
        rw [withCall_self] at hpost
        cases hpost)
  have hsame : ∀ pc, { w.withCall i .idle with source := s }.withCall i pc =
      { w with source := s }.withCall i pc := fun pc =>
    congrArg (fun calls => ApiWorld.mk s calls w.answered) (Function.update_idem _ _ _)
  have hup : s.up = true := by
    have hrun : w.source.up = true := by
      by_contra hdown
      simp only [DevBridge.source, World.step] at hstep
      rw [if_neg hdown] at hstep
      cases hstep
    rw [hlan.up, hrun]
  rcases hlan.goes with hgoes | ⟨hpc, answer, hanswers, hjobs⟩
  · rw [settle_of_goes hgoes, ← hsame]
    exact hsource.withCall ⟨request, hgoes, hlet⟩ (Or.inl hup)
  · rw [settle_of_answered hpc hanswers]
    have hconfined : (answerReply text answer).Confined config r :=
      Or.inr ⟨request.kasaId, hlet, by rwa [LanCallStep.jobs_answerReply text ""]⟩
    have hanswer := hsource.answer (i := i) hconfined
    have heq : { w.withCall i .idle with source := s }.answer i r (answerReply text answer) =
        { w with source := s }.answer i r (answerReply text answer) :=
      congrArg (fun v => { v with answered := (r, answerReply text answer) :: w.answered })
        (hsame .idle)
    rwa [heq] at hanswer

lemma Inv.callMove (h : w.Inv config timing) (hmove : CallMove config timing w r w') :
    w'.Inv config timing := by
  cases hmove with
  | refused i a ha => exact h.answer ha
  | reads i pc hpc hup hlet => exact h.withCall hpc (Or.inl hup)
  | works i ev request text s hlet hstep hlan => exact h.works hlet hstep hlan

/-! ### Every step of a request -/

lemma confined_of_refusal (hconfig : config.Accepted) (hclear : r.Clear sha256 config)
    (h : Refusal (config.keyTable sha256) sha256 r.token a) : a.Confined config r := by
  obtain ⟨hjobs, rfl | ⟨till, htill⟩⟩ := h
  · exact Or.inl rfl
  · refine Or.inr ⟨till, actsFor_of_tillOf hconfig hclear htill, fun job hjob => ?_⟩
    rw [hjobs] at hjob
    cases hjob

/-- An answer without a job. -/
lemma confined_of_jobs_nil (hlet : r.ActsFor config till) (h : a.jobs = []) :
    a.Confined config r := by
  refine Or.inr ⟨till, hlet, fun job hjob => ?_⟩
  rw [h] at hjob
  cases hjob

lemma confined_jobAnswer {fault : Option String} {j : Journal} {clientUuid : String}
    (hlet : r.ActsFor config till) :
    (jobAnswer fault (j.lanJob till clientUuid)).Confined config r := by
  rcases fault with _ | text
  · rcases hfound : j.lanJob till clientUuid with _ | row
    · exact confined_of_jobs_nil hlet rfl
    · refine Or.inr ⟨till, hlet, fun job hjob => ?_⟩
      obtain rfl := List.mem_singleton.mp hjob
      have hrow : LanRow j (till, clientUuid) row.jobId row.entry := LanRow.of_lanJob hfound
      exact hrow.kasaId
  · exact confined_of_jobs_nil hlet rfl

/-- The card job that is found is one of the till. -/
lemma cardJobId_spec {j : Journal} {clientUuid : String} {jobId : ℤ}
    (h : cardJobId j till clientUuid = some jobId) :
    CardRow j till jobId := by
  obtain ⟨⟨k, e⟩, hlast, rfl⟩ := Option.map_eq_some_iff.mp h
  obtain ⟨hget, hwhere⟩ := Table.mem_select.mp (List.mem_of_getLast? hlast)
  simp only [Bool.and_eq_true, beq_iff_eq] at hwhere
  have hpos := (j.odooIds k e hget).1
  exact ⟨hpos, e, (j.get_of_odoo hpos.le).trans hget, hwhere.1.1⟩

lemma CallMove.of_begin {fault : Option String} {portos : String} (hconfig : config.Accepted)
    (hclear : r.Clear sha256 config) (h : w.Inv config timing) (hup : w.source.up = true)
    (hstep : w.begin sha256 (config.keyTable sha256) timing i r fault portos = some w') :
    CallMove config timing w r w' := by
  have hlet : ∀ {till}, (config.keyTable sha256).tillOf sha256 r.token = some till →
      r.ActsFor config till := fun htill => actsFor_of_tillOf hconfig hclear htill
  unfold ApiWorld.begin at hstep
  rcases hroute : r.route with body | ⟨kasa, clientUuid⟩ | ⟨kasa, clientUuid⟩ | _
  · simp only [hroute] at hstep
    rcases hcheck : checkPost sha256 (config.keyTable sha256) r.token body with refusal | request
    · simp only [hcheck] at hstep
      obtain rfl := Option.some.inj hstep
      exact .refused i refusal (confined_of_refusal hconfig hclear (checkPost_error hcheck))
    · simp only [hcheck] at hstep
      obtain ⟨s, hs, rfl⟩ := Option.map_eq_some_iff.mp hstep
      have hlan := lanMove_of_step ((World.step_lan timing hup i _).symm.trans hs)
      exact .works i _ request _ s (hlet (checkPost_ok hcheck)) hs
        (LanCallStep.of_lanMove (lanInv_of_reach h.source) hlan (Or.inr ⟨_, rfl⟩))
  · simp only [hroute] at hstep
    rcases hcheck : checkPath sha256 (config.keyTable sha256) r.token kasa clientUuid with
      refusal | kasaId
    · simp only [hcheck] at hstep
      obtain rfl := Option.some.inj hstep
      exact .refused i refusal (confined_of_refusal hconfig hclear (checkPath_error hcheck))
    · simp only [hcheck] at hstep
      obtain rfl := Option.some.inj hstep
      exact .refused i _ (confined_jobAnswer (hlet (checkPath_ok hcheck)))
  · simp only [hroute] at hstep
    rcases hcheck : checkPath sha256 (config.keyTable sha256) r.token kasa clientUuid with
      refusal | kasaId
    · simp only [hcheck] at hstep
      obtain rfl := Option.some.inj hstep
      exact .refused i refusal (confined_of_refusal hconfig hclear (checkPath_error hcheck))
    · have hacts := hlet (checkPath_ok hcheck)
      simp only [hcheck] at hstep
      rcases fault with _ | text
      · rcases hfound : cardJobId w.source.journal kasaId clientUuid with _ | jobId
        · simp only [hfound] at hstep
          obtain rfl := Option.some.inj hstep
          exact .refused i _ (confined_of_jobs_nil hacts rfl)
        · simp only [hfound] at hstep
          obtain rfl := Option.some.inj hstep
          exact .reads i _ ⟨kasaId, hacts, cardJobId_spec hfound⟩ hup ⟨kasaId, hacts⟩
      · obtain rfl := Option.some.inj hstep
        exact .refused i _ (confined_of_jobs_nil hacts rfl)
  · simp only [hroute] at hstep
    rcases checkHealth_spec sha256 (config.keyTable sha256) r.token with
      ⟨till, htill, hcheck⟩ | hcheck
    · simp only [hcheck] at hstep
      obtain rfl := Option.some.inj hstep
      refine .refused i _ (confined_of_jobs_nil (hlet htill) ?_)
      cases fault <;> rfl
    · simp only [hcheck] at hstep
      obtain rfl := Option.some.inj hstep
      exact .refused i _ (Or.inl rfl)

lemma CallMove.of_post {ev : LanEvent} {text : String} (h : w.Inv config timing)
    (hpc : w.calls i = .post r)
    (hstep : (w.source.step timing (.lan i ev)).map (w.settle i r text) = some w') :
    CallMove config timing w r w' := by
  obtain ⟨s, hs, rfl⟩ := Option.map_eq_some_iff.mp hstep
  have hconfined := h.calls i
  rw [hpc] at hconfined
  obtain ⟨request, hrequest, hlet⟩ := hconfined
  have hup : w.source.up = true := by
    by_contra hdown
    rw [h.down (by simpa using hdown) i] at hpc
    cases hpc
  have hlan := lanMove_of_step ((World.step_lan timing hup i _).symm.trans hs)
  exact .works i ev request text s hlet hs
    (LanCallStep.of_lanMove (lanInv_of_reach h.source) hlan (Or.inl hrequest))

lemma CallMove.of_readCard {fault : Option String} (h : w.Inv config timing)
    (hactor : w.actor (.card i fault) = some r) (hstep : w.readCard i fault = some w') :
    CallMove config timing w r w' := by
  have hconfined := h.calls i
  have hrun : w.calls i ≠ .idle → w.source.up = true := fun hne => by
    by_contra hdown
    exact hne (h.down (by simpa using hdown) i)
  simp only [actor] at hactor
  unfold readCard at hstep
  rcases hpc : w.calls i with _ | r' | ⟨r', jobId⟩ | ⟨r', jobId, entry⟩
  · simp only [hpc] at hactor
    cases hactor
  · simp only [hpc] at hstep
    cases hstep
  · simp only [hpc] at hactor hstep
    obtain rfl := Option.some.inj hactor
    rw [hpc] at hconfined
    obtain ⟨till, hlet, hpos, e, he, hkasa⟩ := hconfined
    rcases fault with _ | text
    · simp only [he] at hstep
      obtain rfl := Option.some.inj hstep
      exact .reads i _ ⟨till, hlet, ⟨hpos, e, he, hkasa⟩, hkasa, Journal.id_of_get he⟩
        (hrun (by rw [hpc]; exact nofun)) ⟨till, hlet⟩
    · obtain rfl := Option.some.inj hstep
      exact .refused i _ (confined_of_jobs_nil hlet rfl)
  · simp only [hpc] at hactor hstep
    obtain rfl := Option.some.inj hactor
    rw [hpc] at hconfined
    obtain ⟨till, hlet, -, hkasa, -⟩ := hconfined
    rcases fault with _ | text
    · obtain rfl := Option.some.inj hstep
      refine .refused i _ (Or.inr ⟨till, hlet, fun job hjob => ?_⟩)
      obtain rfl := List.mem_singleton.mp hjob
      exact hkasa
    · obtain rfl := Option.some.inj hstep
      exact .refused i _ (confined_of_jobs_nil hlet rfl)

/-- No call is under way. -/
lemma inv_of_idle {s : World E} (hreach : (DevBridge.source E timing).Reach free s)
    (hidle : ∀ i, w.calls i = .idle)
    (hanswered : ∀ r a, (r, a) ∈ w.answered → a.Confined config r) :
    { w with source := s }.Inv config timing := by
  refine ⟨hreach, fun i => ?_, fun _ => hidle, hanswered⟩
  change (w.calls i).Confined config s i
  rw [hidle i]
  trivial

/-- A step of the source that is not one of a LAN call, a crash or a start. -/
lemma Inv.rest {ev : Event E} (h : w.Inv config timing)
    (hs : w.source.step timing ev = some s) (hlan : ∀ k e, ev ≠ .lan k e) (hcrash : ev ≠ .crash)
    (hstart : ∀ n, ev ≠ .start n) : { w with source := s }.Inv config timing := by
  have hmove : (DevBridge.source E timing).step w.source ev = some s := hs
  have htills : s.tills = w.source.tills := by
    rcases World.tills_of_step hs with ⟨k, e, heq, -⟩ | ⟨e, -, hrep⟩ | ⟨heq, -⟩ |
      ⟨n, heq, -, -⟩ | ⟨hsame, -⟩
    · exact absurd heq (hlan k e)
    · exact (World.talk_of_reporterStep hrep).2
    · exact absurd heq hcrash
    · exact absurd heq (hstart n)
    · exact hsame
  have hproc : s.proc.lan = w.source.proc.lan := congrArg (fun x => x.2.1) htills
  exact h.withSource (h.source.move ⟨_, hmove, trivial⟩) (congrArg Prod.fst htills)
    (job_stays hmove) fun k _ _ => congrFun hproc k

lemma Inv.other {ev : Event E} (h : w.Inv config timing)
    (hstep : w.step sha256 (config.keyTable sha256) timing (.other ev) = some w') :
    w'.Inv config timing := by
  cases ev with
  | lan k e => cases hstep
  | crash =>
    obtain ⟨s, hs, rfl⟩ := Option.map_eq_some_iff.mp hstep
    have hs : (DevBridge.source E timing).step w.source .crash = some s := hs
    exact inv_of_idle (w := { w with calls := fun _ => .idle }) (h.source.move ⟨_, hs, trivial⟩)
      (fun _ => rfl) h.answered
  | start n =>
    obtain ⟨s, hs, rfl⟩ := Option.map_eq_some_iff.mp hstep
    have hdown : w.source.up = false := by
      by_contra hup
      simp only [World.step] at hs
      rw [if_pos (by simpa using hup)] at hs
      cases hs
    have hs : (DevBridge.source E timing).step w.source (.start n) = some s := hs
    exact inv_of_idle (h.source.move ⟨_, hs, trivial⟩) (h.down hdown) h.answered
  | clock _ | elapse _ | dev _ | odoo _ | control _ | worker _ _ | reconciler _ | acker _
  | reporter _ | task _ _ =>
    simp only [step] at hstep
    obtain ⟨s, hs, rfl⟩ := Option.map_eq_some_iff.mp hstep
    exact h.rest hs (by rintro _ _ ⟨⟩) (by rintro ⟨⟩) (by rintro _ ⟨⟩)

/-- The tokens that arrive have no digest of another text among the keys. -/
def NoCollision (sha256 : List UInt8 → KeyDigest) (config : ClientConfig) :
    Transition.Law (ApiWorld E) (ApiEvent E) := fun _ e _ =>
  match e with
  | .request _ r _ _ => r.Clear sha256 config
  | _ => True

/-- What a step does for the request that it is a part of. -/
lemma CallMove.of_step {e : ApiEvent E} (hconfig : config.Accepted) (h : w.Inv config timing)
    (hstep : (lanApi sha256 config E timing).step w e = some w')
    (hlaw : NoCollision sha256 config w e w') (hactor : w.actor e = some r) :
    CallMove config timing w r w' := by
  change w.step sha256 (config.keyTable sha256) timing e = some w' at hstep
  cases e with
  | request i r' fault portos =>
    obtain rfl := Option.some.inj hactor
    simp only [step] at hstep
    split at hstep
    · split at hstep
      next hup => exact .of_begin hconfig hlaw h hup hstep
      next => cases hstep
    · cases hstep
  | post i ev text =>
    simp only [step] at hstep
    simp only [actor] at hactor
    rcases hpc : w.calls i with _ | r' | ⟨r', jobId⟩ | ⟨r', jobId, entry⟩
    · simp only [hpc] at hstep
      cases hstep
    · simp only [hpc] at hstep hactor
      obtain rfl := Option.some.inj hactor
      exact .of_post h hpc hstep
    · simp only [hpc] at hstep
      cases hstep
    · simp only [hpc] at hstep
      cases hstep
  | card i fault => exact .of_readCard h hactor hstep
  | other ev => cases hactor

/-- Every step of a call has a request. -/
lemma actor_or_other {e : ApiEvent E}
    (hstep : (lanApi sha256 config E timing).step w e = some w') :
    (∃ r, w.actor e = some r) ∨ ∃ ev, e = .other ev := by
  change w.step sha256 (config.keyTable sha256) timing e = some w' at hstep
  cases e with
  | request i r fault portos => exact Or.inl ⟨r, rfl⟩
  | post i ev text =>
    simp only [step] at hstep
    simp only [actor]
    rcases hpc : w.calls i with _ | r | ⟨r, jobId⟩ | ⟨r, jobId, entry⟩
    · simp only [hpc] at hstep
      cases hstep
    all_goals exact Or.inl ⟨r, rfl⟩
  | card i fault =>
    simp only [step, readCard] at hstep
    simp only [actor]
    rcases hpc : w.calls i with _ | r | ⟨r, jobId⟩ | ⟨r, jobId, entry⟩
    · simp only [hpc] at hstep
      cases hstep
    all_goals exact Or.inl ⟨r, rfl⟩
  | other ev => exact Or.inr ⟨ev, rfl⟩

lemma inv_of_reach (hconfig : config.Accepted)
    (h : (lanApi sha256 config E timing).Reach (NoCollision sha256 config) w) :
    w.Inv config timing := by
  refine h.invariant (P := Inv config timing) ?_ ?_
  · exact ⟨Transition.Reach.init, fun _ => trivial, fun _ _ => rfl, fun _ _ h => (nomatch h)⟩
  · intro a e b _ ih hstep hlaw
    rcases actor_or_other hstep with ⟨r, hactor⟩ | ⟨ev, rfl⟩
    · exact ih.callMove (.of_step hconfig ih hstep hlaw hactor)
    · exact ih.other hstep

lemma settle_source {request : LanRequest} {text : String} (h : LanCallStep w.source i request s) :
    (w.settle i r text s).source = s := by
  rcases h.goes with hgoes | ⟨hpc, answer, hanswers, -⟩
  · rw [settle_of_goes hgoes]
    rfl
  · rw [settle_of_answered hpc hanswers]
    rfl

/-- A request that acts for no till is sent away at once. -/
lemma CallMove.foreign (h : CallMove config timing w r w') (hforeign : r.Foreign config) :
    ∃ i, w' = w.answer i r unauthorized := by
  cases h with
  | refused i a ha =>
    rcases ha with rfl | ⟨till, hlet, -⟩
    · exact ⟨i, rfl⟩
    · exact absurd hforeign hlet.2
  | reads i pc hpc hup hlet =>
    obtain ⟨till, hlet⟩ := hlet
    exact absurd hforeign hlet.2
  | works i ev request text s hlet hstep hlan => exact absurd hforeign hlet.2

lemma CallMove.inserts (hconfig : config.Accepted) (h : CallMove config timing w r w')
    (hof : r.OfTill config till) : InsertsFor till w.source.journal w'.source.journal := by
  cases h with
  | refused i a ha => exact .refl _ _
  | reads i pc hpc hup hlet => exact .refl _ _
  | works i ev request text s hlet hstep hlan =>
    rw [settle_source hlan, hlet.unique hconfig hof]
    exact hlan.inserts

/-- The payment that is told belongs to the job that is told. -/
lemma payment_of_readCard {fault : Option String} {entry : JournalEntry}
    {card : Option CardPayment} (h : w.Inv config timing) (hstep : w.readCard i fault = some w')
    (hanswered : w'.answered = (r, .card entry card) :: w.answered) :
    card = w.source.journal.cardPayments.get? entry.job.id := by
  have hgrows : ∀ {pc}, w' ≠ w.withCall i pc := fun heq => by
    have hlength := congrArg List.length (hanswered.symm.trans (congrArg answered heq))
    simp [withCall] at hlength
  have hanswer : ∀ {r' a}, w' = w.answer i r' a → a = .card entry card := fun heq => by
    have hhead := hanswered.symm.trans (congrArg answered heq)
    exact (Prod.mk.inj (List.cons.inj hhead).1).2.symm
  have hconfined := h.calls i
  unfold readCard at hstep
  rcases hpc : w.calls i with _ | r' | ⟨r', jobId⟩ | ⟨r', jobId, entry'⟩
  · simp only [hpc] at hstep
    cases hstep
  · simp only [hpc] at hstep
    cases hstep
  · simp only [hpc] at hstep
    rcases fault with _ | text
    · rcases hget : w.source.journal.get jobId with _ | e
      · rw [hget] at hstep
        cases hanswer (Option.some.inj hstep).symm
      · rw [hget] at hstep
        exact absurd (Option.some.inj hstep).symm hgrows
    · cases hanswer (Option.some.inj hstep).symm
  · simp only [hpc] at hstep
    rw [hpc] at hconfined
    obtain ⟨till, -, -, -, hid⟩ := hconfined
    rcases fault with _ | text
    · obtain ⟨rfl, rfl⟩ := Answer.card.inj (hanswer (Option.some.inj hstep).symm)
      rw [hid]
    · cases hanswer (Option.some.inj hstep).symm

end ApiWorld

/-! ### Two runs -/

/-- The journals differ in rows of other tills only. -/
structure SameForTill (till : ℤ) (j j' : Journal) : Prop where
  lan : ∀ id row, row.entry.job.kasaId = some till →
    (j.lanJobs.get? id = some row ↔ j'.lanJobs.get? id = some row)
  odoo : ∀ id e, e.job.kasaId = some till →
    (j.deviceJobs.get? id = some e ↔ j'.deviceJobs.get? id = some e)
  payments : ∀ id e, j.deviceJobs.get? id = some e → e.job.kasaId = some till →
    j.cardPayments.get? id = j'.cardPayments.get? id

namespace SameForTill

variable {j j' : Journal} {clientUuid : String}

lemma lanJob (h : SameForTill till j j') :
    j.lanJob till clientUuid = j'.lanJob till clientUuid := by
  have hselect : (j.lanJobs.table.select fun _ r => r.key == some (till, clientUuid)) =
      j'.lanJobs.table.select fun _ r => r.key == some (till, clientUuid) := by
    refine Table.select_congr fun k row hrow => h.lan k row ?_
    obtain ⟨kasaId, hkasa, hpair⟩ := Option.map_eq_some_iff.mp (eq_of_beq hrow)
    rw [hkasa, (Prod.mk.inj hpair).1]
  rw [Journal.lanJob, Journal.lanJob, hselect]

lemma cardJobId (h : SameForTill till j j') :
    LanApi.cardJobId j till clientUuid = LanApi.cardJobId j' till clientUuid := by
  have hselect : (j.deviceJobs.select fun _ e => e.job.kasaId == some till &&
      e.job.clientUuid == clientUuid && isTillCardJob e.job.jobType) =
      j'.deviceJobs.select fun _ e => e.job.kasaId == some till &&
        e.job.clientUuid == clientUuid && isTillCardJob e.job.jobType := by
    refine Table.select_congr fun k e he => h.odoo k e ?_
    simp only [Bool.and_eq_true, beq_iff_eq] at he
    exact he.1.1
  rw [LanApi.cardJobId, LanApi.cardJobId, hselect]

/-- Journals without rows of Odoo, and with the same LAN rows of the till. -/
lemma of_rows (hodoo : j.deviceJobs.rows = []) (hodoo' : j'.deviceJobs.rows = [])
    (hlan : j.lanJobs.table.rows.filter (fun x => x.2.entry.job.kasaId == some till) =
      j'.lanJobs.table.rows.filter fun x => x.2.entry.job.kasaId == some till) :
    SameForTill till j j' := by
  have hnone : ∀ id e, j.deviceJobs.get? id ≠ some e := by
    intro id e he
    rw [← Table.mem_rows_iff, hodoo] at he
    cases he
  have hnone' : ∀ id e, j'.deviceJobs.get? id ≠ some e := by
    intro id e he
    rw [← Table.mem_rows_iff, hodoo'] at he
    cases he
  refine ⟨fun id row hrow => ?_, fun id e _ => ?_, fun id e he _ => absurd he (hnone id e)⟩
  · have hmem : ∀ rows : List (ℤ × LanJob), (id, row) ∈ rows ↔
        (id, row) ∈ rows.filter fun x => x.2.entry.job.kasaId == some till := by
      intro rows
      simp [hrow]
    rw [AutoTable.get?, AutoTable.get?, ← Table.mem_rows_iff, ← Table.mem_rows_iff, hmem, hlan,
      ← hmem]
  · exact iff_of_false (hnone id e) (hnone' id e)

/-- The row of a card job is the same one. -/
lemma get_of_cardRow {jobId : ℤ} (h : SameForTill till j j') (hrow : CardRow j till jobId) :
    j'.get jobId = j.get jobId ∧ j'.cardPayments.get? jobId = j.cardPayments.get? jobId := by
  obtain ⟨hpos, e, he, hkasa⟩ := hrow
  have hodoo : j.deviceJobs.get? jobId = some e := (j.get_of_odoo hpos.le).symm.trans he
  refine ⟨?_, (h.payments jobId e hodoo hkasa).symm⟩
  rw [he, j'.get_of_odoo hpos.le]
  exact (h.odoo jobId e hkasa).mp hodoo

end SameForTill

/-- A job or a card job is asked for. -/
def Route.isRead : Route → Bool
  | .getJob _ _ | .getCardJob _ _ => true
  | .postJob _ | .health => false

/-- Two steps do the same to a call, give the same answers and change nothing else. -/
def SameResult (i : ℕ) (w v : ApiWorld E) : Option (ApiWorld E) → Option (ApiWorld E) → Prop
  | some w', some v' => w'.calls i = v'.calls i ∧ w'.source = w.source ∧ v'.source = v.source ∧
      ∃ new, w'.answered = new ++ w.answered ∧ v'.answered = new ++ v.answered
  | none, none => True
  | _, _ => False

section TwoRuns

variable {w v : ApiWorld E} {i : ℕ}

lemma SameResult.of_answer : SameResult i w v (some (w.answer i r a)) (some (v.answer i r a)) :=
  ⟨(w.withCall_self (i := i) .idle).trans (v.withCall_self .idle).symm, rfl, rfl, [(r, a)], rfl,
    rfl⟩

lemma SameResult.of_withCall {pc : CallPc} :
    SameResult i w v (some (w.withCall i pc)) (some (v.withCall i pc)) :=
  ⟨(w.withCall_self (i := i) pc).trans (v.withCall_self pc).symm, rfl, rfl, [], rfl, rfl⟩

/-- The first query of a read. -/
lemma SameResult.of_begin {fault : Option String} {portos : String} (hconfig : config.Accepted)
    (hclear : r.Clear sha256 config) (hof : r.OfTill config till) (hread : r.route.isRead = true)
    (hsame : SameForTill till w.source.journal v.source.journal) :
    SameResult i w v (w.begin sha256 (config.keyTable sha256) timing i r fault portos)
      (v.begin sha256 (config.keyTable sha256) timing i r fault portos) := by
  have htill : ∀ {kasaId}, (config.keyTable sha256).tillOf sha256 r.token = some kasaId →
      kasaId = till := fun h => ((actsFor_of_tillOf hconfig hclear h).unique hconfig hof).symm
  unfold ApiWorld.begin
  rcases hroute : r.route with body | ⟨kasa, clientUuid⟩ | ⟨kasa, clientUuid⟩ | _
  · rw [hroute] at hread
    cases hread
  · rcases hcheck : checkPath sha256 (config.keyTable sha256) r.token kasa clientUuid with
      refusal | kasaId
    · simp only [hcheck]
      exact of_answer
    · simp only [hcheck]
      obtain rfl := htill (checkPath_ok hcheck)
      rw [hsame.lanJob]
      exact of_answer
  · rcases hcheck : checkPath sha256 (config.keyTable sha256) r.token kasa clientUuid with
      refusal | kasaId
    · simp only [hcheck]
      exact of_answer
    · simp only [hcheck]
      obtain rfl := htill (checkPath_ok hcheck)
      rw [hsame.cardJobId]
      rcases fault with _ | text
      · rcases cardJobId v.source.journal kasaId clientUuid with _ | jobId
        · exact of_answer
        · exact of_withCall
      · exact of_answer
  · rw [hroute] at hread
    cases hread

/-- The other queries of a read. -/
lemma SameResult.of_readCard {fault : Option String} (hconfig : config.Accepted)
    (hw : w.Inv config timing) (hcalls : w.calls i = v.calls i)
    (hactor : w.actor (.card i fault) = some r) (hof : r.OfTill config till)
    (hsame : SameForTill till w.source.journal v.source.journal) :
    SameResult i w v (w.readCard i fault) (v.readCard i fault) := by
  have hconfined := hw.calls i
  simp only [ApiWorld.actor] at hactor
  unfold ApiWorld.readCard
  rw [← hcalls]
  rcases hpc : w.calls i with _ | r' | ⟨r', jobId⟩ | ⟨r', jobId, entry⟩
  · trivial
  · trivial
  · simp only [hpc] at hactor ⊢
    obtain rfl := Option.some.inj hactor
    rw [hpc] at hconfined
    obtain ⟨till', hlet, hrow⟩ := hconfined
    obtain rfl := hlet.unique hconfig hof
    rw [(hsame.get_of_cardRow hrow).1]
    rcases fault with _ | text
    · rcases w.source.journal.get jobId with _ | e
      · exact of_answer
      · exact of_withCall
    · exact of_answer
  · simp only [hpc] at hactor ⊢
    obtain rfl := Option.some.inj hactor
    rw [hpc] at hconfined
    obtain ⟨till', hlet, hrow, -⟩ := hconfined
    obtain rfl := hlet.unique hconfig hof
    rw [(hsame.get_of_cardRow hrow).2]
    rcases fault with _ | text
    · exact of_answer
    · exact of_answer

end TwoRuns

/-! ### The tills -/

/-- What a request can see and change, in a state of a run. -/
structure TillIsolated (sha256 : List UInt8 → KeyDigest) (config : ClientConfig) (timing : Timing)
    (w : ApiWorld E) : Prop where
  /-- An answer tells of jobs of the till only. -/
  answers : ∀ r a till, (r, a) ∈ w.answered → r.OfTill config till →
    ∀ job ∈ a.jobs, job.kasaId = some till
  /-- The payment that is told is the one of the card job. -/
  payments : ∀ i fault w' r entry card,
    (lanApi sha256 config E timing).step w (.card i fault) = some w' →
    w'.answered = (r, .card entry card) :: w.answered →
      card = w.source.journal.cardPayments.get? entry.job.id
  /-- A step of a request inserts a row of the till at most. -/
  inserts : ∀ e w' r till, (lanApi sha256 config E timing).step w e = some w' →
    ApiWorld.NoCollision sha256 config w e w' → w.actor e = some r → r.OfTill config till →
      InsertsFor till w.source.journal w'.source.journal
  /-- Without a key of a till a request is sent away at once, and that is all. -/
  refused : ∀ e w' r, (lanApi sha256 config E timing).step w e = some w' →
    ApiWorld.NoCollision sha256 config w e w' → w.actor e = some r → r.Foreign config →
      ∃ i, w' = w.answer i r unauthorized

/-- What a till reads in two states whose journals differ in rows of other tills only. -/
structure SameReads (sha256 : List UInt8 → KeyDigest) (config : ClientConfig) (timing : Timing)
    (till : ℤ) (w v : ApiWorld E) : Prop where
  /-- The first query of a read. -/
  first : ∀ i r fault portos, r.OfTill config till → r.Clear sha256 config →
    r.route.isRead = true → w.calls i = v.calls i → w.source.up = v.source.up →
      SameResult i w v ((lanApi sha256 config E timing).step w (.request i r fault portos))
        ((lanApi sha256 config E timing).step v (.request i r fault portos))
  /-- The other queries of a read. -/
  next : ∀ i r fault, w.calls i = v.calls i → w.actor (.card i fault) = some r →
    r.OfTill config till →
      SameResult i w v ((lanApi sha256 config E timing).step w (.card i fault))
        ((lanApi sha256 config E timing).step v (.card i fault))

/-- However the calls of the tills and the other tasks are ordered: a request sees and changes
rows of the till whose key it brings and no others, one without such a key is sent away, and the
rows of other tills make no difference to what a till reads. -/
theorem tills_isolated (sha256 : List UInt8 → KeyDigest) (config : ClientConfig)
    (hconfig : config.Accepted) (E : Executor) (timing : Timing) :
    (∀ w, (lanApi sha256 config E timing).Reach (ApiWorld.NoCollision sha256 config) w →
      TillIsolated sha256 config timing w) ∧
    ∀ w v till, (lanApi sha256 config E timing).Reach (ApiWorld.NoCollision sha256 config) w →
      (lanApi sha256 config E timing).Reach (ApiWorld.NoCollision sha256 config) v →
      SameForTill till w.source.journal v.source.journal →
        SameReads sha256 config timing till w v := by
  refine ⟨fun w hw => ?_, fun w v till hw hv hsame => ?_⟩
  · have hinv := ApiWorld.inv_of_reach hconfig hw
    refine ⟨fun r a till hmem hof => ?_, fun i fault w' r entry card hstep =>
      ApiWorld.payment_of_readCard hinv hstep, fun e w' r till hstep hlaw hactor =>
      (ApiWorld.CallMove.of_step hconfig hinv hstep hlaw hactor).inserts hconfig,
      fun e w' r hstep hlaw hactor =>
      (ApiWorld.CallMove.of_step hconfig hinv hstep hlaw hactor).foreign⟩
    rcases hinv.answered r a hmem with rfl | ⟨till', hlet, hjobs⟩
    · exact fun job hjob => (nomatch hjob)
    · rw [hlet.unique hconfig hof]
      exact hjobs
  · have hinv := ApiWorld.inv_of_reach hconfig hw
    refine ⟨fun i r fault portos hof hclear hread hcalls hup => ?_,
      fun i r fault hcalls hactor hof =>
        SameResult.of_readCard hconfig hinv hcalls hactor hof hsame⟩
    simp only [lanApi, ApiWorld.step]
    rw [← hcalls, ← hup]
    rcases w.calls i with _ | _ | _ | _
    · by_cases hrun : w.source.up = true
      · simp only [if_pos hrun]
        exact SameResult.of_begin hconfig hclear hof hread hsame
      · simp only [if_neg hrun]
        trivial
    all_goals trivial

/-! ### A run -/

def keyOfThree : String := "till-3-lan-key-0123456789abcdefABCDEF"

def keyOfFour : String := "till-4-lan-key-0123456789abcdefABCDEF"

def bridgeKey : String := "odoo-bridge-key-0123456789abcdefABCDEF"

/-- The digests of the three keys. -/
def threeDigests (bytes : List UInt8) : KeyDigest :=
  if bytes = utf8 keyOfThree then
    #v[121, 55, 251, 226, 57, 248, 170, 138, 179, 78, 41, 84, 61, 48, 155, 108,
      182, 149, 223, 125, 172, 56, 87, 206, 98, 196, 138, 161, 33, 240, 199, 239]
  else if bytes = utf8 keyOfFour then
    #v[164, 97, 220, 61, 71, 110, 252, 17, 246, 63, 250, 25, 182, 196, 77, 193,
      141, 119, 211, 68, 80, 49, 111, 214, 27, 0, 206, 94, 24, 99, 241, 190]
  else if bytes = utf8 bridgeKey then
    #v[60, 123, 157, 144, 247, 177, 130, 87, 253, 181, 203, 88, 30, 45, 172, 210,
      67, 157, 99, 122, 141, 93, 214, 135, 150, 25, 148, 55, 200, 44, 99, 84]
  else Vector.replicate 32 0

def twoTills : ClientConfig where
  clientId := some "pc1"
  dashboardPort := 9120
  pokladna :=
    { apiKey := bridgeKey
      kasy := [⟨3, some keyOfThree⟩, ⟨4, some keyOfFour⟩]
      lanApi := ⟨true, 9443, "pc1.pos.example.sk", true⟩ }

/-- A request with a key. -/
def requestWith (key : String) (route : Route) : Request := ⟨some ("Bearer " ++ key), route⟩

/-- A drawer of the third till is to be opened. -/
def drawerOfThree : Route :=
  .postJob (some (.obj [("client_uuid", .str "a"), ("job_type", .str "fiscal.open_drawer"),
    ("kasa_id", .ofInt 3), ("payload", .obj [])]))

/-- The third till opens its drawer and asks for the job; the fourth till and the holder of the
bridge key ask for it as well. -/
def askedByThree : List (ApiEvent Executor.prompt) :=
  let q : DeviceQueue := ⟨.fiscal, ""⟩
  [.other (.start 4), .request 0 (requestWith keyOfThree drawerOfThree) none "ok",
    .post 0 (.insert true) "", .post 0 (.enqueue true true) "", .other (.worker q (.take true)),
    .other (.worker q (.start true)), .other (.worker q (.join true)),
    .post 0 (.look true false) "", .request 1 (requestWith keyOfThree (.getJob "3" "a")) none "ok",
    .request 1 (requestWith keyOfFour (.getJob "3" "a")) none "ok",
    .request 1 (requestWith bridgeKey (.getJob "3" "a")) none "ok"]

def clearTest (_ : ApiWorld Executor.prompt) (e : ApiEvent Executor.prompt)
    (_ : ApiWorld Executor.prompt) : Bool :=
  match e with
  | .request _ r _ _ => r.token.all fun token => twoTills.pokladna.lanKeys.all fun key =>
      digest threeDigests key.2 != digest threeDigests token || key.2 == token
  | _ => true

lemma noCollision_of_test {w w' : ApiWorld Executor.prompt} {e : ApiEvent Executor.prompt}
    (h : clearTest w e w' = true) : ApiWorld.NoCollision threeDigests twoTills w e w' := by
  cases e with
  | request i r fault portos =>
    rintro token htoken ⟨till, key, hkey, hdigest, hne⟩
    simp only [clearTest, htoken, Option.all_some, List.all_eq_true] at h
    have hpair := h _ (mem_lanKeys.mpr hkey)
    simp [hdigest, hne] at hpair
  | _ => trivial

/-- A drawer of the fourth till is to be opened. -/
def drawerOfFour : Route :=
  .postJob (some (.obj [("client_uuid", .str "b"), ("job_type", .str "fiscal.open_drawer"),
    ("kasa_id", .ofInt 4), ("payload", .obj [])]))

/-- The fourth till journals a job of its own besides. -/
def askedByBoth : List (ApiEvent Executor.prompt) :=
  askedByThree ++ [.request 2 (requestWith keyOfFour drawerOfFour) none "ok",
    .post 2 (.insert true) ""]

/-- What two journals have to agree on for the third till. -/
def rowsOfThree (w : ApiWorld Executor.prompt) : List (ℤ × LanJob) × Bool :=
  (w.source.journal.lanJobs.table.rows.filter (fun x => x.2.entry.job.kasaId == some 3),
    w.source.journal.deviceJobs.rows.isEmpty)

lemma sameForTill_of_rowsOfThree {w v : ApiWorld Executor.prompt}
    (hw : (rowsOfThree w).2 = true) (h : rowsOfThree w = rowsOfThree v) :
    SameForTill 3 w.source.journal v.source.journal := by
  have hv : (rowsOfThree v).2 = true := h ▸ hw
  exact .of_rows (List.isEmpty_iff.mp hw) (List.isEmpty_iff.mp hv) (Prod.mk.inj h).1

/-- The job of the third till is told to the third till, and it reads the same when the journal
has a job of the fourth till too. -/
theorem tills_isolated_two : ∃ w v,
    (lanApi threeDigests twoTills Executor.prompt Timing.default).Reach
      (ApiWorld.NoCollision threeDigests twoTills) w ∧
    (lanApi threeDigests twoTills Executor.prompt Timing.default).Reach
      (ApiWorld.NoCollision threeDigests twoTills) v ∧
    w.answered.map (fun ra => ra.2.jobs.length) = [0, 0, 1, 1] ∧
    (w.source.journal.lanJob 4 "b").isSome = false ∧
    (v.source.journal.lanJob 4 "b").isSome = true ∧
    TillIsolated threeDigests twoTills Timing.default w ∧
    SameReads threeDigests twoTills Timing.default 3 w v := by
  have hconfig : twoTills.Accepted := ⟨rfl, by decide +kernel⟩
  have hall := tills_isolated threeDigests twoTills hconfig Executor.prompt Timing.default
  let T := lanApi threeDigests twoTills Executor.prompt Timing.default
  have hfirst : (T.run T.init askedByThree).any (fun w =>
      w.answered.map (fun ra => ra.2.jobs.length) == [0, 0, 1, 1] &&
        !(w.source.journal.lanJob 4 "b").isSome && (rowsOfThree w).2) = true := by
    decide +kernel
  have hsecond : (T.run T.init askedByBoth).any (fun v =>
      (v.source.journal.lanJob 4 "b").isSome) = true := by
    decide +kernel
  have hrows : (T.run T.init askedByThree).map rowsOfThree =
      (T.run T.init askedByBoth).map rowsOfThree := by
    decide +kernel
  obtain ⟨w, hw, hgoal⟩ := (Option.any_eq_true ..).mp hfirst
  obtain ⟨v, hv, hfour⟩ := (Option.any_eq_true ..).mp hsecond
  rw [hw, hv, Option.map_some, Option.map_some, Option.some_inj] at hrows
  simp only [Bool.and_eq_true, beq_iff_eq, Bool.not_eq_true'] at hgoal
  have hclear : ∀ a e b, clearTest a e b = true →
      ApiWorld.NoCollision threeDigests twoTills a e b := fun _ _ _ => noCollision_of_test
  have hreach : T.Reach (ApiWorld.NoCollision threeDigests twoTills) w :=
    Transition.leads_of_run hclear hw (by decide +kernel)
  have hreach' : T.Reach (ApiWorld.NoCollision threeDigests twoTills) v :=
    Transition.leads_of_run hclear hv (by decide +kernel)
  exact ⟨w, v, hreach, hreach', hgoal.1.1, hgoal.1.2, hfour, hall.1 w hreach,
    hall.2 w v 3 hreach hreach' (sameForTill_of_rowsOfThree hgoal.2 hrows)⟩

end LanApi

end DevBridge

import DevBridge.Server.Paired

/-!
# When a job is streamed once

Sending does not change the state of a job, so a second copy of its id in the channel of a
connection is a second send.  Copies are made where an id is routed, and where a drain selects
it; the two overlap when a client registers in between.  As long as they do not overlap, and a
job is requeued only after its copies are gone, a connection never has more than one copy of a
job that it was not yet sent since the job was queued.
-/

namespace DevBridge

namespace Server

open Transition (free)

variable {cfg : JobsConfig} {d : StoredData} {w w' : ServerWorld} {f f' : Flow}
  {e : ServerStep} {id : JobId} {machineId : String} {c : ConnId} {l l' : Line}

/-! ### Counting copies -/

def Stage.copies (id : JobId) : Stage → ℕ
  | .draining ids => ids.count id
  | .running (some hand) => if hand = id then 1 else 0
  | .opening | .running none | .ended | .closed => 0

/-- The copies that a connection has. -/
def Line.copies (l : Line) (id : JobId) : ℕ := l.channel.count id + l.stage.copies id

/-- The copies that may still come to any connection. -/
def Flow.shared (f : Flow) (id : JobId) : ℕ := f.pending.count id + f.routings id

/-- How often the job was sent on the connection since it was queued. -/
def sentCount (c : ConnId) (id : JobId) : List ServerEvent → ℕ
  | [] => 0
  | .sent c' id' _ :: t => (if c' = c ∧ id' = id then 1 else 0) + sentCount c id t
  | .queued id' _ :: t => if id' = id then 0 else sentCount c id t
  | .leftFailed _ :: t => sentCount c id t

/-- The connection is registered, and its drain is not over. -/
def Line.opening (l : Line) : Prop := l.stage = .opening ∨ ∃ ids, l.stage = .draining ids

/-! ### The condition -/

/-- A stream of the client is registered whose drain is not over. -/
def Flow.Opening (f : Flow) (machineId : String) : Prop :=
  ∃ c l, f.lines c = some l ∧ l.machineId = machineId ∧ l.opening

/-- A copy of the id waits somewhere, other than on a stream whose client is gone. -/
def Flow.Waits (f : Flow) (id : JobId) : Prop :=
  id ∈ f.pending ∨ (∃ target, (id, target) ∈ f.routes) ∨
    ∃ c l, f.lines c = some l ∧ l.connected ∧ l.copies id ≠ 0

/-- No push or requeue of a job overlaps with the registration and drain of a stream of its
client, no two streams of a client open at once, and a job is requeued only when no copy of its
id waits. -/
structure Flow.NoOverlap (f f' : Flow) : Prop where
  queue : ∀ id, f'.trace = .queued id false :: f.trace → ¬ f.Waits id ∧
    ∀ machineId, (id, some machineId) ∈ f'.routes → ¬ f.Opening machineId
  register : ∀ c machineId, f'.registry machineId = some c → f.registry machineId ≠ some c →
    ¬ f.Opening machineId ∧ ∀ id, (id, some machineId) ∉ f.routes

/-- No overlap; no report ends a job that a loop has looked up and not yet sent; and every
requeue of a paired job can read it back. -/
def inTurn : Transition.Law ServerWorld ServerStep := fun w e w' =>
  w.flow.NoOverlap w'.flow ∧
    (∀ c k id retryCount, w.conns c = some k → k.phase = .sending id retryCount → ¬ e.ends id) ∧
    ∀ id, w.flow.ReadsBack id e w'.flow

/-! ### The invariant -/

structure Flow.Single (f : Flow) : Prop where
  shared : ∀ id, f.shared id ≤ 1
  line : ∀ c l, f.lines c = some l → l.connected → ∀ id,
    sentCount c id f.trace + l.copies id + f.shared id ≤ 1
  opening : ∀ c l, f.lines c = some l → l.opening → f.registry l.machineId = some c ∧
    l.channel = [] ∧ (∀ id, (id, some l.machineId) ∉ f.routes) ∧
      ∀ id state, .sent c id state ∉ f.trace
  fresh : ∀ c id state, .sent c id state ∈ f.trace → c < f.nextConn
  once : ∀ t, t <:+ f.trace → ∀ c id, sentCount c id t ≤ 1

lemma sentCount_eq_zero {t : List ServerEvent} (h : ∀ state, .sent c id state ∉ t) :
    sentCount c id t = 0 := by
  induction t with
  | nil => rfl
  | cons event t ih =>
    have ht := ih fun state hs => h state (List.mem_cons_of_mem _ hs)
    cases event with
    | sent c' id' state =>
      have hne : ¬ (c' = c ∧ id' = id) := by
        rintro ⟨rfl, rfl⟩
        exact h state List.mem_cons_self
      simp [sentCount, hne, ht]
    | queued id' byStatus => simp [sentCount, ht]
    | leftFailed id' => exact ht

lemma routings_eq_zero (h : ∀ target, (id, target) ∉ f.routes) : f.routings id = 0 := by
  rw [Flow.routings, Multiset.count_eq_zero]
  intro hid
  obtain ⟨⟨id', target⟩, hr, rfl⟩ := Multiset.mem_map.mp hid
  exact h target hr

/-- One connection changes. -/
lemma Flow.Single.setLine (h : f.Single) (hl : f.lines c = some l)
    (hline : l'.connected → ∀ id, sentCount c id f.trace + l'.copies id + f.shared id ≤ 1)
    (hopening : l'.opening → l.opening ∧ l'.machineId = l.machineId ∧ l'.channel = l.channel) :
    (f.setLine c l').Single := by
  refine ⟨h.shared, fun c₁ l₁ hl₁ hconn => ?_, fun c₁ l₁ hl₁ hopen => ?_, h.fresh, h.once⟩
  · rw [Flow.setLine_lines] at hl₁
    by_cases hc : c₁ = c
    · subst hc
      rw [Function.update_self] at hl₁
      obtain rfl := Option.some.inj hl₁
      exact hline hconn
    · rw [Function.update_of_ne hc] at hl₁
      exact h.line c₁ l₁ hl₁ hconn
  · rw [Flow.setLine_lines] at hl₁
    by_cases hc : c₁ = c
    · subst hc
      rw [Function.update_self] at hl₁
      obtain rfl := Option.some.inj hl₁
      obtain ⟨hopen', hm, hchannel⟩ := hopening hopen
      rw [hm, hchannel]
      exact h.opening c₁ l hl hopen'
    · rw [Function.update_of_ne hc] at hl₁
      exact h.opening c₁ l₁ hl₁ hopen

/-- A connection loses copies, or its client. -/
lemma Flow.Single.setLine_le (h : f.Single) (hl : f.lines c = some l)
    (hconn : l'.connected → l.connected) (hcopies : ∀ id, l'.copies id ≤ l.copies id)
    (hopening : l'.opening → l.opening ∧ l'.machineId = l.machineId ∧ l'.channel = l.channel) :
    (f.setLine c l').Single := by
  refine h.setLine hl (fun hconn' id => ?_) hopening
  have hbound := h.line c l hl (hconn hconn') id
  have hle := hcopies id
  omega

/-- A suffix of a longer history. -/
lemma once_cons {event : ServerEvent} {t : List ServerEvent}
    (h : ∀ t', t' <:+ t → ∀ c id, sentCount c id t' ≤ 1)
    (hnew : ∀ c id, sentCount c id (event :: t) ≤ 1) :
    ∀ t', t' <:+ event :: t → ∀ c id, sentCount c id t' ≤ 1 := by
  intro t' ht'
  rcases List.suffix_cons_iff.mp ht' with rfl | ht'
  · exact hnew
  · exact h t' ht'

/-- A job is queued: no copy of its id is left of an earlier time. -/
lemma Flow.Single.queue (h : f.Single) {id₀ : JobId} {target : Option String}
    (hwaits : ¬ f.Waits id₀) (hopening : ∀ machineId, target = some machineId →
      ¬ f.Opening machineId)
    (htrace : f'.trace = .queued id₀ false :: f.trace)
    (hroutes : f'.routes = (id₀, target) ::ₘ f.routes) (hpending : f'.pending = f.pending)
    (hlines : f'.lines = f.lines) (hregistry : f'.registry = f.registry)
    (hnext : f'.nextConn = f.nextConn) : f'.Single := by
  simp only [Flow.Waits, not_or, not_exists, not_and, ne_eq, not_not] at hwaits
  obtain ⟨hpend, hroute, hcopies⟩ := hwaits
  have hshared : ∀ id, f'.shared id = if id = id₀ then 1 else f.shared id := by
    intro id
    simp only [Flow.shared, Flow.routings, hpending, hroutes, Multiset.map_cons,
      Multiset.count_cons]
    split
    · rename_i hid
      subst hid
      have hzero := routings_eq_zero hroute
      rw [Flow.routings] at hzero
      rw [hzero, List.count_eq_zero.mpr hpend]
    · rfl
  have hsent : ∀ c id,
      sentCount c id f'.trace = if id = id₀ then 0 else sentCount c id f.trace := by
    intro c id
    rw [htrace]
    simp only [sentCount, eq_comm]
  refine ⟨fun id => ?_, fun c l hl hconn id => ?_, fun c l hl hopen => ?_, ?_, ?_⟩
  · rw [hshared]
    split
    · exact le_rfl
    · exact h.shared id
  · rw [hlines] at hl
    rw [hshared, hsent]
    split
    · rename_i hid
      subst hid
      rw [hcopies c l hl hconn]
    · exact h.line c l hl hconn id
  · rw [hlines] at hl
    obtain ⟨hr, hchannel, hnot, hnever⟩ := h.opening c l hl hopen
    refine ⟨hregistry ▸ hr, hchannel, fun id hid => ?_, fun id state hs => ?_⟩
    · rw [hroutes] at hid
      rcases Multiset.mem_cons.mp hid with heq | hid
      · exact hopening _ (Prod.mk.inj heq).2.symm ⟨c, l, hl, rfl, hopen⟩
      · exact hnot id hid
    · rw [htrace] at hs
      exact hnever id state (by simpa using hs)
  · intro c id state hs
    rw [htrace] at hs
    rw [hnext]
    exact h.fresh c id state (by simpa using hs)
  · rw [htrace]
    refine once_cons h.once fun c id => ?_
    have hnew := hsent c id
    rw [htrace] at hnew
    rw [hnew]
    split
    · exact Nat.zero_le _
    · exact h.once _ List.suffix_rfl c id

/-- The jobs change, and the history says nothing of a send or a queueing that counts. -/
lemma Flow.Single.of_jobs (h : f.Single)
    (htrace : ∀ c id, sentCount c id f'.trace ≤ sentCount c id f.trace)
    (hsent : ∀ c id state, .sent c id state ∈ f'.trace → .sent c id state ∈ f.trace)
    (honce : ∀ t, t <:+ f'.trace → ∀ c id, sentCount c id t ≤ 1)
    (hroutes : f'.routes = f.routes) (hpending : f'.pending = f.pending)
    (hlines : f'.lines = f.lines) (hregistry : f'.registry = f.registry)
    (hnext : f'.nextConn = f.nextConn) : f'.Single := by
  have hshared : ∀ id, f'.shared id = f.shared id := by
    simp [Flow.shared, Flow.routings, hroutes, hpending]
  refine ⟨fun id => hshared id ▸ h.shared id, fun c l hl hconn id => ?_,
    fun c l hl hopen => ?_, fun c id state hs => hnext ▸ h.fresh c id state (hsent c id state hs),
    honce⟩
  · have hbound := h.line c l (hlines ▸ hl) hconn id
    have hle := htrace c id
    rw [hshared]
    omega
  · obtain ⟨hr, hchannel, hnot, hnever⟩ := h.opening c l (hlines ▸ hl) hopen
    exact ⟨hregistry ▸ hr, hchannel, hroutes ▸ hnot,
      fun id state hs => hnever id state (hsent c id state hs)⟩

/-- Routings and ids of the default queue become fewer. -/
lemma Flow.Single.fewer (h : f.Single) (hshared : ∀ id, f'.shared id ≤ f.shared id)
    (hroutes : ∀ r ∈ f'.routes, r ∈ f.routes) (htrace : f'.trace = f.trace)
    (hlines : f'.lines = f.lines) (hregistry : f'.registry = f.registry)
    (hnext : f'.nextConn = f.nextConn) : f'.Single := by
  refine ⟨fun id => (hshared id).trans (h.shared id), fun c l hl hconn id => ?_,
    fun c l hl hopen => ?_, ?_, ?_⟩
  · have hbound := h.line c l (hlines ▸ hl) hconn id
    have hle := hshared id
    rw [htrace]
    omega
  · obtain ⟨hr, hchannel, hnot, hnever⟩ := h.opening c l (hlines ▸ hl) hopen
    exact ⟨hregistry ▸ hr, hchannel, fun id hid => hnot id (hroutes _ hid), htrace ▸ hnever⟩
  · rw [htrace, hnext]
    exact h.fresh
  · rw [htrace]
    exact h.once

/-! ### The selections have no repetitions -/

lemma idsByAge_nodup {rows : List (JobId × JobRow)} (h : (rows.map Prod.fst).Nodup) :
    (JobTable.idsByAge rows).Nodup := by
  unfold JobTable.idsByAge
  exact ((List.perm_insertionSort _ rows).map Prod.fst).nodup_iff.mpr h

lemma select_nodup (jobs : JobTable) (p : JobId → JobRow → Bool) :
    ((jobs.select p).map Prod.fst).Nodup := by
  have hkeys : (jobs.rows.map Prod.fst).Nodup := by
    rw [List.Nodup, List.pairwise_map]
    exact jobs.sorted.imp fun hlt => hlt.ne
  exact hkeys.sublist (List.filter_sublist.map Prod.fst)

lemma queuedFor_nodup (jobs : JobTable) (client : String) : (jobs.queuedFor client).Nodup :=
  idsByAge_nodup (select_nodup _ _)

lemma queuedUnpaired_nodup (jobs : JobTable) : jobs.queuedUnpaired.Nodup :=
  idsByAge_nodup (select_nodup _ _)

/-! ### One move -/

lemma Flow.setLine_setLine : (f.setLine c l).setLine c l' = f.setLine c l' := by
  simp [Flow.setLine]

lemma Flow.Single.opened (h : f.Single)
    (hlaw : ¬ f.Opening machineId ∧ ∀ id, (id, some machineId) ∉ f.routes) :
    (f.opened machineId).Single := by
  refine ⟨h.shared, fun c l hl hconn id => ?_, fun c l hl hopen => ?_, ?_, h.once⟩
  · rw [Flow.opened_lines] at hl
    by_cases hc : c = f.nextConn
    · subst hc
      rw [Function.update_self] at hl
      obtain rfl := Option.some.inj hl
      have hzero : sentCount f.nextConn id f.trace = 0 :=
        sentCount_eq_zero fun state hs => absurd (h.fresh _ id state hs) (lt_irrefl _)
      have hshared := h.shared id
      change sentCount f.nextConn id f.trace + 0 + f.shared id ≤ 1
      omega
    · rw [Function.update_of_ne hc] at hl
      exact h.line c l hl hconn id
  · rw [Flow.opened_lines] at hl
    rw [Flow.opened_registry]
    by_cases hc : c = f.nextConn
    · subst hc
      rw [Function.update_self] at hl
      obtain rfl := Option.some.inj hl
      exact ⟨Function.update_self .., rfl, hlaw.2,
        fun id state hs => absurd (h.fresh _ id state hs) (lt_irrefl _)⟩
    · rw [Function.update_of_ne hc] at hl
      have hne : l.machineId ≠ machineId := fun hm => hlaw.1 ⟨c, l, hl, hm, hopen⟩
      rw [Function.update_of_ne hne]
      exact h.opening c l hl hopen
  · intro c id state hs
    exact (h.fresh c id state hs).trans (Nat.lt_succ_self _)

lemma Flow.Single.selected (hp : f.Placed) (hd : ∀ id, f.OffDefault id) (h : f.Single)
    (hl : f.lines c = some l) (hstage : l.stage = .opening) :
    (f.setLine c { l with stage := .draining (f.jobs.queuedFor l.machineId) }).Single := by
  obtain ⟨-, hchannel, hnot, hnever⟩ := h.opening c l hl (Or.inl hstage)
  refine h.setLine hl (fun hconn id => ?_) fun _ => ⟨Or.inl hstage, rfl, rfl⟩
  have hbound := h.line c l hl hconn id
  simp only [Line.copies, hstage, Stage.copies, hchannel, List.count_nil] at hbound ⊢
  by_cases hid : id ∈ f.jobs.queuedFor l.machineId
  · -- a selected job is nowhere else yet
    obtain ⟨row, hrow, -, htarget⟩ := mem_queuedFor.mp hid
    obtain ⟨hpend, hnone⟩ := hd id row l.machineId hrow htarget
    have hpending : f.pending.count id = 0 := List.count_eq_zero.mpr hpend
    have hroutings : f.routings id = 0 := routings_eq_zero fun target hr => by
      rcases (hp.routes id target hr).target row hrow with rfl | hsame
      · exact hnone hr
      · rw [htarget] at hsame
        subst hsame
        exact hnot id hr
    have hzero := sentCount_eq_zero (hnever id)
    have hone := List.nodup_iff_count_le_one.mp (queuedFor_nodup f.jobs l.machineId) id
    simp only [Flow.shared, hpending, hroutings, hzero]
    omega
  · rw [List.count_eq_zero.mpr hid]
    exact hbound

lemma Flow.Single.routed (hp : f.Placed) (h : f.Single) {target : Option String}
    {routes : Multiset (JobId × Option String)} (hroutes : f.routes = (id, target) ::ₘ routes) :
    ((f.withRoutes routes).routed id target).Single := by
  have hcount : ∀ id', f.routings id' =
      (routes.map Prod.fst).count id' + if id' = id then 1 else 0 := by
    intro id'
    rw [Flow.routings, hroutes, Multiset.map_cons, Multiset.count_cons]
  have hsub : ∀ r ∈ routes, r ∈ f.routes := fun r hr => by
    rw [hroutes]
    exact Multiset.mem_cons_of_mem hr
  cases target with
  | none =>
    refine h.fewer (fun id' => ?_) hsub rfl rfl rfl rfl
    change (f.pending ++ [id]).count id' + (routes.map Prod.fst).count id' ≤ _
    rw [Flow.shared, hcount, List.count_append, List.count_singleton]
    simp only [beq_iff_eq, eq_comm (a := id)]
    omega
  | some client =>
    have hfewer : (f.withRoutes routes).Single := by
      refine h.fewer (fun id' => ?_) hsub rfl rfl rfl rfl
      simp only [Flow.shared, hcount]
      exact Nat.add_le_add_left (Nat.le_add_right _ _) _
    rcases (f.withRoutes routes).deliverTo_cases client [id] with
      heq | ⟨c, l, hr, hl, -, heq⟩
    · rw [Flow.routed, heq]
      exact hfewer
    · rw [Flow.routed, heq]
      obtain ⟨l₁, hl₁, hm⟩ := hp.registry client c hr
      obtain rfl : l = l₁ := Option.some.inj (Eq.trans (Eq.symm hl) hl₁)
      refine hfewer.setLine hl (fun hconn id' => ?_) fun hopen => ?_
      · have hbound := h.line c l hl hconn id'
        change sentCount c id' f.trace + ((l.channel ++ [id]).count id' + l.stage.copies id') +
          (f.pending.count id' + (routes.map Prod.fst).count id') ≤ 1
        rw [Line.copies, Flow.shared, hcount] at hbound
        rw [List.count_append, List.count_singleton]
        simp only [beq_iff_eq, eq_comm (a := id)]
        omega
      · -- Nothing is about to be routed to a client that opens a stream.
        refine absurd ?_ ((h.opening c l hl hopen).2.2.1 id)
        rw [hroutes, hm]
        exact Multiset.mem_cons_self _ _

lemma Flow.Single.sent (hp : f.Placed) (h : f.Single) (hl : f.lines c = some l)
    (hstage : l.stage = .running (some id)) (hconn : l.connected) (state : Option JobState) :
    ((f.setLine c { l with stage := .running none }).remember (.sent c id state)).Single := by
  have hself := h.line c l hl hconn id
  simp only [Line.copies, hstage, Stage.copies, if_true] at hself
  have hcount : ∀ c' id', sentCount c' id' (.sent c id state :: f.trace) =
      (if c' = c ∧ id' = id then 1 else 0) + sentCount c' id' f.trace := by
    intro c' id'
    simp only [sentCount, eq_comm]
  have hset : (f.setLine c { l with stage := .running none }).Single := by
    refine h.setLine_le hl (fun hc => hc) (fun id' => ?_) (by simp [Line.opening])
    exact Nat.add_le_add_left (Nat.zero_le _) _
  refine ⟨h.shared, fun c₁ l₁ hl₁ hconn₁ id' => ?_, fun c₁ l₁ hl₁ hopen => ?_,
    fun c' id' state' hs => ?_, once_cons h.once fun c' id' => ?_⟩
  · have hbound := hset.line c₁ l₁ hl₁ hconn₁ id'
    change sentCount c₁ id' (.sent c id state :: f.trace) + l₁.copies id' + f.shared id' ≤ 1
    change sentCount c₁ id' f.trace + l₁.copies id' + f.shared id' ≤ 1 at hbound
    rw [hcount]
    split
    · rename_i heq
      obtain ⟨rfl, rfl⟩ := heq
      change (Function.update f.lines c₁ _) c₁ = some l₁ at hl₁
      rw [Function.update_self] at hl₁
      obtain rfl := Option.some.inj hl₁
      simp only [Line.copies, Stage.copies]
      omega
    · omega
  · obtain ⟨hr, hchannel, hnot, hnever⟩ := hset.opening c₁ l₁ hl₁ hopen
    refine ⟨hr, hchannel, hnot, fun id' state' hs => ?_⟩
    rcases List.mem_cons.mp hs with heq | hs
    · obtain ⟨rfl, -, -⟩ := ServerEvent.sent.inj heq
      change (Function.update f.lines c₁ _) c₁ = some l₁ at hl₁
      rw [Function.update_self] at hl₁
      obtain rfl := Option.some.inj hl₁
      simp [Line.opening] at hopen
    · exact hnever id' state' hs
  · rcases List.mem_cons.mp hs with heq | hs
    · obtain ⟨rfl, -, -⟩ := ServerEvent.sent.inj heq
      exact hp.fresh c' l hl
    · exact h.fresh c' id' state' hs
  · change sentCount c' id' (.sent c id state :: f.trace) ≤ 1
    have hold := h.once _ List.suffix_rfl c' id'
    rw [hcount]
    split
    · rename_i heq
      obtain ⟨rfl, rfl⟩ := heq
      omega
    · omega

lemma Flow.Single.move (hp : f.Placed) (hd : ∀ id, f.OffDefault id) (h : f.Single)
    (hm : Flow.Move cfg f e f') (hlaw : f.NoOverlap f') : f'.Single := by
  cases hm
  case quiet => exact h
  case pushed row _ _ _ =>
    obtain ⟨hwaits, hopening⟩ := hlaw.queue f.nextJob rfl
    exact h.queue hwaits (fun machineId htarget => hopening machineId
      (by rw [← htarget]; exact Multiset.mem_cons_self _ _)) rfl rfl rfl rfl rfl rfl
  case requeued id row target now detail retries hrow hreq _ _ =>
    obtain ⟨hwaits, hopening⟩ := hlaw.queue id rfl
    exact h.queue hwaits (fun machineId htarget => hopening machineId
      (by rw [← htarget]; exact Multiset.mem_cons_self _ _)) rfl rfl rfl rfl rfl rfl
  case retry => exact ⟨h.shared, h.line, h.opening, h.fresh, h.once⟩
  case retryFailed => exact ⟨h.shared, h.line, h.opening, h.fresh, h.once⟩
  case routed place id target routes hroutes => exact h.routed hp hroutes
  case opened place machineId =>
    refine h.opened (hlaw.register f.nextConn machineId (Function.update_self ..) fun hr => ?_)
    obtain ⟨l, hl, -⟩ := hp.registry machineId f.nextConn hr
    exact absurd (hp.fresh _ l hl) (lt_irrefl _)
  case selected c l hl hstage => exact h.selected hp hd hl hstage
  case undrained c l hl hstage =>
    refine h.setLine_le hl (fun hc => hc) (fun id => ?_) (by simp [Line.opening])
    exact Nat.add_le_add_left (Nat.zero_le _) _
  case drained c l hl ids hstage =>
    obtain ⟨hr, hchannel, -⟩ := h.opening c l hl (Or.inr ⟨ids, hstage⟩)
    have hline : (f.setLine c { l with stage := .running none }).lines c =
        some { l with stage := .running none } := Function.update_self ..
    rw [Flow.deliverTo_of (f := f.setLine c _) hr hline (by simp), Flow.setLine_setLine]
    refine h.setLine_le hl (fun hc => hc) (fun id => ?_) (by simp [Line.opening])
    simp [Line.copies, hstage, Stage.copies, hchannel]
  case taken c l hl hstage id rest hid =>
    refine h.setLine_le hl (fun hc => hc) (fun id' => ?_) (by simp [Line.opening])
    simp [Line.copies, hstage, Stage.copies, hid, List.count_cons]
  case popped c l hl hstage id rest hid =>
    have hshared : ∀ id', f.shared id' =
        (f.withPending rest).shared id' + if id = id' then 1 else 0 := by
      intro id'
      change f.pending.count id' + f.routings id' = rest.count id' + f.routings id' + _
      rw [hid, List.count_cons]
      simp only [beq_iff_eq]
      omega
    have hrest : (f.withPending rest).Single :=
      h.fewer (fun id' => by rw [hshared]; exact Nat.le_add_right _ _) (fun _ hr => hr) rfl rfl
        rfl rfl
    refine hrest.setLine hl (fun hconn id' => ?_) (by simp [Line.opening])
    have hbound := h.line c l hl hconn id'
    rw [hshared] at hbound
    simp only [Line.copies, hstage, Stage.copies, Flow.withPending_trace] at hbound ⊢
    omega
  case dropped c l hl id hstage hid =>
    refine h.setLine_le hl (fun hc => hc) (fun id' => ?_) (by simp [Line.opening])
    exact Nat.add_le_add_left (Nat.zero_le _) _
  case unseen c l hl id hstage =>
    refine h.setLine_le hl (fun hc => hc) (fun id' => ?_) (by simp [Line.opening])
    exact Nat.add_le_add_left (Nat.zero_le _) _
  case sent c l hl id hstage hc => exact h.sent hp hl hstage hc _
  case failed c l hl id hstage hc =>
    refine h.setLine_le hl (fun hc' => hc') (fun id' => ?_) (by simp [Line.opening])
    exact Nat.add_le_add_left (Nat.zero_le _) _
  case unregistered c l hl hstage hc =>
    refine ⟨h.shared, h.line, fun c₁ l₁ hl₁ hopen => ?_, h.fresh, h.once⟩
    obtain ⟨hr, hrest⟩ := h.opening c₁ l₁ hl₁ hopen
    have hne : l₁.machineId ≠ l.machineId := by
      intro heq
      rw [heq, hc] at hr
      obtain rfl := Option.some.inj hr
      obtain rfl : l = l₁ := Option.some.inj (hl.symm.trans hl₁)
      simp [Line.opening, hstage] at hopen
    exact ⟨by rw [Flow.unregistered_registry, Function.update_of_ne hne]; exact hr, hrest⟩
  case closed c l hl hstage _ =>
    refine h.setLine_le hl (fun hc => hc) (fun id' => ?_) (by simp [Line.opening])
    exact Nat.add_le_add_left (Nat.zero_le _) _
  case disconnected c l hl =>
    exact h.setLine_le hl (by simp) (fun _ => le_rfl) fun hopen => ⟨hopen, rfl, rfl⟩
  case reopened update row now hrow hin hnot _ =>
    have hle : ∀ c id, sentCount c id (.queued update.jobId true :: f.trace) ≤
        sentCount c id f.trace := by
      intro c id
      rw [sentCount]
      split
      · exact Nat.zero_le _
      · exact le_rfl
    exact h.of_jobs hle (fun _ _ _ hs => by simpa using hs)
      (once_cons h.once fun c id => (hle c id).trans (h.once _ List.suffix_rfl c id))
      rfl rfl rfl rfl rfl
  case wrote jobs hwrote _ =>
    exact h.of_jobs (fun _ _ => le_rfl) (fun _ _ _ hs => hs) h.once rfl rfl rfl rfl rfl
  case leftFailed completion row now _ _ hrow hin =>
    exact h.of_jobs (fun _ _ => le_rfl) (fun _ _ _ hs => by simpa using hs)
      (once_cons h.once fun c id => h.once _ List.suffix_rfl c id) rfl rfl rfl rfl rfl
  case restarted =>
    refine ⟨fun id => ?_, by simp, by simp, h.fresh, h.once⟩
    have hone := List.nodup_iff_count_le_one.mp (queuedUnpaired_nodup f.jobs) id
    simpa [Flow.shared, Flow.routings] using hone

lemma single_of_reach (h : (printServer cfg d).Reach inTurn w) : w.flow.Single := by
  refine h.invariant (P := fun v => v.flow.Single) ?_ fun _ _ _ hv hs hstep hlaw =>
    hs.move (placed_of_reach (hv.mono fun _ _ _ _ => trivial))
      (fun _ => offDefault_of_reach hv fun _ _ _ hl => hl.2.2 _) (move_of_step hstep) hlaw.1
  refine ⟨fun id => ?_, fun c l hl => ?_, fun c l hl => ?_, fun c id state hs => ?_,
    fun t ht c id => ?_⟩
  · exact List.nodup_iff_count_le_one.mp (queuedUnpaired_nodup d.jobs) id
  · cases hl
  · cases hl
  · cases hs
  · have hnil : t = [] := List.suffix_nil.mp ht
    subst hnil
    exact Nat.zero_le _

end Server

end DevBridge

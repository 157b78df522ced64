import DevBridge.Server.Places

/-!
# A paired job reaches its client

While a job is queued for a client, its id is under way to the routing, or selected by the
drain of the current connection, or in its channel, or in the hands of its loop, or it was sent
there.  A push or a requeue writes the job before it looks at the registry, and a connection
registers before it selects: whichever comes second, finds the other.

This takes that the reads on the way succeed.  A drain that cannot read the held jobs delivers
none, a loop drops a job that it cannot look up, and a requeue that cannot read its job back
routes it as one without a client.
-/

namespace DevBridge

namespace Server

open Transition (free)

variable {cfg : JobsConfig} {d : StoredData} {w : ServerWorld} {f f' : Flow} {e : ServerStep}
  {id : JobId} {machineId : String} {c c₀ : ConnId} {l l' : Line}

/-! ### The invariant -/

/-- The job is queued for the client, by a push or a requeue. -/
def Flow.QueuedFor (f : Flow) (id : JobId) (machineId : String) : Prop :=
  (∃ row, f.jobs.get? id = some row ∧ row.isQueued ∧ row.targetClientId = some machineId) ∧
    queuedByStatus id f.trace = false

/-- Where a queued job is, if this is the current connection of its client. -/
def Flow.Delivered (f : Flow) (id : JobId) (machineId : String) (c : ConnId) (l : Line) : Prop :=
  id ∈ l.channel ∨ l.stage = .running (some id) ∨ sentSince c id f.trace ∨
    (id, some machineId) ∈ f.routes ∨ ∃ ids, l.stage = .draining ids ∧ id ∈ ids

/-- The job is not lost to this connection while it is queued for its client, and this the
current connection of the client, which has selected the held jobs. -/
def Flow.PairedKept (f : Flow) (id : JobId) (c : ConnId) : Prop :=
  ∀ machineId, f.QueuedFor id machineId → ∀ l, f.registry machineId = some c →
    f.lines c = some l → l.connected → l.stage ≠ .opening → f.Delivered id machineId c l

/-- The reads that bring the job to the connection succeed: its drain reads the held jobs, its
loop finds the job that it holds, if this is queued, and a requeue reads the job back, if this
is paired. -/
structure Flow.ReadsFor (id : JobId) (c : ConnId) (f : Flow) (e : ServerStep) (f' : Flow) :
    Prop where
  drain : ∀ l, e = .loopFails c → f.lines c = some l → l.stage = .opening → f'.lines c = some l
  lookUp : ∀ l row, e = .loopFails c → f.lines c = some l → l.stage = .running (some id) →
    f.jobs.get? id = some row → row.isQueued = false
  readBack : f.ReadsBack id e f'

def readsFor (id : JobId) (c : ConnId) : Transition.Law ServerWorld ServerStep :=
  fun w e w' => w.flow.ReadsFor id c e w'.flow

/-! ### Changes of one connection -/

/-- One connection changes: it is enough that it passes on what it has. -/
lemma Flow.PairedKept.setLine (h : f.PairedKept id c) (hl : f.lines c₀ = some l)
    (hkeep : c₀ = c → l'.connected → l'.stage ≠ .opening → ∀ machineId,
      f.QueuedFor id machineId → f.registry machineId = some c →
        (l.connected → l.stage ≠ .opening → f.Delivered id machineId c l) →
          f.Delivered id machineId c l') : (f.setLine c₀ l').PairedKept id c := by
  intro machineId hq l₁ hr hl₁ hconn hstage
  rw [Flow.setLine_lines] at hl₁
  by_cases hc : c = c₀
  · subst hc
    rw [Function.update_self] at hl₁
    obtain rfl := Option.some.inj hl₁
    exact hkeep rfl hconn hstage machineId hq hr (h machineId hq l hr hl)
  · rw [Function.update_of_ne hc] at hl₁
    exact h machineId hq l₁ hr hl₁ hconn hstage

/-- A connection that is gone needs nothing. -/
lemma Flow.PairedKept.gone (h : f.PairedKept id c) (hl : f.lines c₀ = some l)
    (hconn : l'.connected = false) : (f.setLine c₀ l').PairedKept id c :=
  h.setLine hl fun _ hconn' => by simp [hconn] at hconn'

/-- A loop goes on: what was in the channel is there or in its hands, and what was in its hands
is delivered. -/
lemma Flow.PairedKept.goOn (h : f.PairedKept id c) (hl : f.lines c₀ = some l)
    {hand : Option JobId} (hstage : l.stage = .running hand) (hconn : l'.connected = l.connected)
    (hchannel : id ∈ l.channel → id ∈ l'.channel ∨ l'.stage = .running (some id))
    (hhand : ∀ machineId, c₀ = c → hand = some id → f.QueuedFor id machineId →
      f.Delivered id machineId c l') : (f.setLine c₀ l').PairedKept id c := by
  refine h.setLine hl fun hc hconn' _ machineId hq hr hold => ?_
  rcases hold (hconn ▸ hconn') (by simp [hstage]) with hd | hd | hd | hd | ⟨ids, hids, -⟩
  · exact (hchannel hd).elim Or.inl fun hd => Or.inr (Or.inl hd)
  · exact hhand machineId hc (by simpa [hstage] using hd) hq
  · exact Or.inr (Or.inr (Or.inl hd))
  · exact Or.inr (Or.inr (Or.inr (Or.inl hd)))
  · simp [hstage] at hids

/-- What a connection has after a delivery. -/
lemma lines_deliverTo {ids : List JobId} (hl : (f.deliverTo machineId ids).lines c = some l') :
    ∃ l, f.lines c = some l ∧ l'.connected = l.connected ∧ l'.stage = l.stage ∧
      (∀ id ∈ l.channel, id ∈ l'.channel) ∧
        (f.registry machineId = some c → l.stage ≠ .closed → ∀ id ∈ ids, id ∈ l'.channel) := by
  cases hr : f.registry machineId with
  | none =>
    rw [Flow.deliverTo, hr] at hl
    exact ⟨l', hl, rfl, rfl, fun _ h => h, by simp⟩
  | some c₁ =>
    rw [Flow.deliverTo, hr] at hl
    simp only [Flow.deliver] at hl
    cases hl₁ : f.lines c₁ with
    | none =>
      rw [hl₁] at hl
      refine ⟨l', hl, rfl, rfl, fun _ h => h, ?_⟩
      rintro ⟨⟩
      simp [hl] at hl₁
    | some l₁ =>
      rw [hl₁] at hl
      simp only at hl
      split at hl
      · rename_i hclosed
        refine ⟨l', hl, rfl, rfl, fun _ h => h, ?_⟩
        rintro ⟨⟩ hopen
        obtain rfl : l₁ = l' := Option.some.inj (hl₁.symm.trans hl)
        exact absurd hclosed hopen
      · rw [Flow.setLine_lines] at hl
        by_cases hc : c = c₁
        · subst hc
          rw [Function.update_self] at hl
          obtain rfl := Option.some.inj hl
          exact ⟨l₁, hl₁, rfl, rfl, fun id hid => List.mem_append_left _ hid,
            fun _ _ id hid => List.mem_append_right _ hid⟩
        · rw [Function.update_of_ne hc] at hl
          refine ⟨l', hl, rfl, rfl, fun _ h => h, ?_⟩
          rintro ⟨⟩
          exact absurd rfl hc

lemma Flow.Delivered.mono {c : ConnId} (h : f.Delivered id machineId c l)
    (hchannel : ∀ id ∈ l.channel, id ∈ l'.channel) (hstage : l'.stage = l.stage)
    (htrace : sentSince c id f.trace → sentSince c id f'.trace)
    (hroutes : (id, some machineId) ∈ f.routes → (id, some machineId) ∈ f'.routes) :
    f'.Delivered id machineId c l' := by
  rcases h with h | h | h | h | ⟨ids, hids, h⟩
  · exact Or.inl (hchannel id h)
  · exact Or.inr (Or.inl (hstage.trans h))
  · exact Or.inr (Or.inr (Or.inl (htrace h)))
  · exact Or.inr (Or.inr (Or.inr (Or.inl (hroutes h))))
  · exact Or.inr (Or.inr (Or.inr (Or.inr ⟨ids, hstage.trans hids, h⟩)))

/-! ### Changes of the jobs -/

/-- Jobs are written: a job that is queued after that was queued before with everything it
needs, or is about to be routed. -/
lemma Flow.PairedKept.of_jobs (h : f.PairedKept id c) (hregistry : f'.registry = f.registry)
    (hlines : f'.lines = f.lines) (hroutes : ∀ r ∈ f.routes, r ∈ f'.routes)
    (hq : ∀ machineId, f'.QueuedFor id machineId → (id, some machineId) ∈ f'.routes ∨
      (f.QueuedFor id machineId ∧ ∀ c, sentSince c id f.trace → sentSince c id f'.trace)) :
    f'.PairedKept id c := by
  intro machineId hq' l hr hl hconn hstage
  rw [hregistry] at hr
  rw [hlines] at hl
  rcases hq machineId hq' with hroute | ⟨hq, hsent⟩
  · exact Or.inr (Or.inr (Or.inr (Or.inl hroute)))
  · exact (h machineId hq l hr hl hconn hstage).mono (fun _ hid => hid) rfl (hsent c) (hroutes _)

/-- A write to one job: another job is queued as it was. -/
lemma queuedFor_of_ne {id' : JobId} {write : JobRow → JobRow}
    (hjobs : f'.jobs = f.jobs.update id' (fun _ => true) write) (hne : id ≠ id')
    (htrace : queuedByStatus id f'.trace = queuedByStatus id f.trace)
    (h : f'.QueuedFor id machineId) : f.QueuedFor id machineId := by
  obtain ⟨⟨row, hrow, hqueued⟩, hstatus⟩ := h
  rw [hjobs, Table.get?_update_of_ne _ _ _ hne] at hrow
  exact ⟨⟨row, hrow, hqueued⟩, htrace ▸ hstatus⟩

/-! ### One move -/

/-- A job that is about to be routed has a task that does it. -/
lemma mem_routesOf {tasks : List Task} {target : Option String} :
    (id, target) ∈ routesOf tasks ↔ ∃ rest, .route id target rest ∈ tasks := by
  constructor
  · intro h
    obtain ⟨task, htask, hrouting⟩ := List.mem_filterMap.mp (Multiset.mem_coe.mp h)
    cases task with
    | route id' target' rest =>
      obtain ⟨rfl, rfl⟩ := Prod.mk.inj (Option.some.inj hrouting)
      exact ⟨rest, htask⟩
    | _ => simp [Task.routing] at hrouting
  · rintro ⟨rest, h⟩
    exact Multiset.mem_coe.mpr (List.mem_filterMap.mpr ⟨_, h, rfl⟩)

/-- The current connection of a client is one of its own. -/
lemma Flow.Placed.owner (hp : f.Placed) (hr : f.registry machineId = some c)
    (hl : f.lines c = some l) : l.machineId = machineId := by
  obtain ⟨l₁, hl₁, hm₁⟩ := hp.registry machineId c hr
  exact Option.some.inj (hl.symm.trans hl₁) ▸ hm₁

/-- A new job is about to be routed. -/
lemma Flow.PairedKept.pushed (hp : f.Placed) (h : f.PairedKept id c) (row : JobRow) :
    (f.pushed row).PairedKept id c := by
  refine h.of_jobs rfl rfl (fun r hr => Multiset.mem_cons_of_mem hr) fun machineId hq => ?_
  obtain ⟨⟨row', hrow', hqueued, htarget⟩, hstatus⟩ := hq
  rw [Flow.pushed_jobs, JobTable.insertJob, Table.get?_insert] at hrow'
  split at hrow'
  · rename_i hid
    obtain rfl := Option.some.inj hrow'
    refine Or.inl ?_
    rw [Flow.pushed_routes, hid.1, htarget]
    exact Multiset.mem_cons_self _ _
  · have hne : f.nextJob ≠ id := (hp.known id row' hrow').ne'
    refine Or.inr ⟨⟨⟨row', hrow', hqueued, htarget⟩, ?_⟩, fun c hs => ?_⟩
    · simpa [queuedByStatus, hne] using hstatus
    · simp [sentSince, hne, hs]

/-- And so is a job that is requeued, to its client if it is read back. -/
lemma Flow.PairedKept.requeued (h : f.PairedKept id c) {id₀ : JobId} {row : JobRow}
    {target : Option String} {now : Time} {detail : String} (hrow : f.jobs.get? id₀ = some row)
    (hroute : id = id₀ → row.targetClientId = target ∨ row.targetClientId = none) :
    (f.requeued id₀ now detail target).PairedKept id c := by
  refine h.of_jobs rfl rfl (fun r hr => Multiset.mem_cons_of_mem hr) fun machineId hq => ?_
  rcases eq_or_ne id id₀ with rfl | hne
  · obtain ⟨⟨row', hrow', hqueued, htarget⟩, hstatus⟩ := hq
    obtain rfl := get?_written hrow hrow'
    have hpaired : row.targetClientId = some machineId := htarget
    rcases hroute rfl with htarget | hnone
    · refine Or.inl ?_
      rw [Flow.requeued_routes, ← htarget, hpaired]
      exact Multiset.mem_cons_self _ _
    · rw [hnone] at hpaired
      cases hpaired
  · refine Or.inr ⟨queuedFor_of_ne rfl hne ?_ hq, fun c hs => ?_⟩
    · simp [queuedByStatus, hne.symm]
    · simp [sentSince, hne.symm, hs]

/-- A job is routed: if it is this one, it is in the channel of the current connection. -/
lemma Flow.PairedKept.routed (hp : f.Placed) (h : f.PairedKept id c) {id₀ : JobId}
    {target : Option String} {routes : Multiset (JobId × Option String)}
    (hroutes : f.routes = (id₀, target) ::ₘ routes) :
    ((f.withRoutes routes).routed id₀ target).PairedKept id c := by
  have hrest : ∀ machineId l, f.Delivered id machineId c l →
      (id, some machineId) ≠ (id₀, target) →
        (f.withRoutes routes).Delivered id machineId c l := by
    intro machineId l hd hne
    refine hd.mono (fun _ hid => hid) rfl (fun hs => hs) fun hr => ?_
    rw [hroutes] at hr
    exact (Multiset.mem_cons.mp hr).resolve_left hne
  cases target with
  | none =>
    intro machineId hq l hr hl hconn hstage
    exact hrest _ _ (h machineId hq l hr hl hconn hstage) (by simp)
  | some client =>
    intro machineId hq l' hr hl' hconn hstage
    obtain ⟨l, hl, hconn', hstage', hchannel, hnew⟩ := lines_deliverTo hl'
    rw [Flow.routed_registry] at hr
    rw [hconn'] at hconn
    rw [hstage'] at hstage
    have hopen := ((hp.lines c l hl).alive hconn).2
    -- the job itself is in the channel now; for any other one the delivery changes nothing
    by_cases heq : (id, some machineId) = (id₀, some client)
    · obtain ⟨rfl, hclient⟩ := Prod.mk.inj heq
      obtain rfl := Option.some.inj hclient
      exact Or.inl (hnew hr hopen id (List.mem_singleton_self _))
    · have hq' : f.QueuedFor id machineId := by simpa [Flow.QueuedFor] using hq
      have hd := hrest _ _ (h machineId hq' l hr hl hconn hstage) heq
      exact hd.mono hchannel hstage' (by simp) (by simp)

/-- A connection that has just registered has yet to drain. -/
lemma Flow.PairedKept.opened (hp : f.Placed) (h : f.PairedKept id c) (machineId₀ : String) :
    (f.opened machineId₀).PairedKept id c := by
  intro machineId hq l hr hl hconn hstage
  rw [Flow.opened_registry] at hr
  rw [Flow.opened_lines] at hl
  by_cases hm : machineId = machineId₀
  · rw [hm, Function.update_self] at hr
    obtain rfl := Option.some.inj hr
    rw [Function.update_self] at hl
    exact absurd (Option.some.inj hl ▸ rfl) hstage
  · rw [Function.update_of_ne hm] at hr
    obtain ⟨l₁, hl₁, -⟩ := hp.registry machineId c hr
    rw [Function.update_of_ne (hp.fresh c l₁ hl₁).ne] at hl
    exact h machineId hq l hr hl hconn hstage

/-- A drain puts what it selected into the channel of the current connection, which is its own
as far as it matters. -/
lemma Flow.PairedKept.drained (hp : f.Placed) (h : f.PairedKept id c) (hl : f.lines c₀ = some l)
    {ids : List JobId} (hstage : l.stage = .draining ids) :
    ((f.setLine c₀ { l with stage := .running none }).deliverTo l.machineId ids).PairedKept id
      c := by
  intro machineId hq l' hr hl' hconn hstage'
  rw [Flow.deliverTo_registry] at hr
  have hq' : f.QueuedFor id machineId := by simpa [Flow.QueuedFor] using hq
  obtain ⟨l₁, hl₁, hconn₁, hstage₁, hchannel, hnew⟩ := lines_deliverTo hl'
  rw [Flow.setLine_lines] at hl₁
  by_cases hc : c = c₀
  · -- Its own drain: what it selected is in the channel.
    subst hc
    rw [Function.update_self] at hl₁
    obtain rfl := Option.some.inj hl₁
    have hd := h machineId hq' l hr hl (hconn₁ ▸ hconn) (by simp [hstage])
    rcases hd with hd | hd | hd | hd | ⟨ids', hids, hd⟩
    · exact Or.inl (hchannel id hd)
    · simp [hstage] at hd
    · exact Or.inr (Or.inr (Or.inl (by simpa using hd)))
    · exact Or.inr (Or.inr (Or.inr (Or.inl (by simpa using hd))))
    · obtain rfl := Stage.draining.inj (hstage.symm.trans hids)
      exact Or.inl (hnew (hp.owner hr hl ▸ hr) (by simp) id hd)
  · rw [Function.update_of_ne hc] at hl₁
    have hd := h machineId hq' l₁ hr hl₁ (hconn₁ ▸ hconn) (hstage₁ ▸ hstage')
    exact hd.mono hchannel hstage₁ (by simp) (by simp)

/-- What is sent is not in the hands of the loop any more. -/
lemma Flow.PairedKept.sent (h : f.PairedKept id c) (hl : f.lines c₀ = some l) {id₀ : JobId}
    (hstage : l.stage = .running (some id₀)) (state : Option JobState) :
    ((f.setLine c₀ { l with stage := .running none }).remember
      (.sent c₀ id₀ state)).PairedKept id c := by
  have hremember : (f.remember (.sent c₀ id₀ state)).PairedKept id c :=
    h.of_jobs rfl rfl (fun _ hr => hr) fun machineId hq =>
      Or.inr ⟨hq, fun c' hs => by simp [sentSince, hs]⟩
  change ((f.remember (.sent c₀ id₀ state)).setLine c₀
    { l with stage := .running none }).PairedKept id c
  refine hremember.goOn hl hstage rfl Or.inl ?_
  rintro machineId rfl hhand -
  obtain rfl := Option.some.inj hhand
  exact Or.inr (Or.inr (Or.inl (by simp [sentSince])))

/-- A registry without the connection of a client asks nothing of it. -/
lemma Flow.PairedKept.unregistered (h : f.PairedKept id c) (machineId₀ : String) :
    (f.unregistered machineId₀).PairedKept id c := by
  intro machineId hq l hr hl hconn hstage
  rw [Flow.unregistered_registry] at hr
  by_cases hm : machineId = machineId₀
  · rw [hm, Function.update_self] at hr
    cases hr
  · rw [Function.update_of_ne hm] at hr
    exact h machineId hq l hr hl hconn hstage

lemma Flow.PairedKept.move (hp : f.Placed) (h : f.PairedKept id c) (hm : Flow.Move cfg f e f')
    (hlaw : f.ReadsFor id c e f') : f'.PairedKept id c := by
  cases hm
  case quiet => exact h
  case pushed row _ _ _ => exact h.pushed hp row
  case requeued id₀ row target now detail retries hrow hreq _ hroute =>
    have hkept : (f.withRetries retries).PairedKept id c := h
    refine hkept.requeued hrow ?_
    rintro rfl
    cases hroute with
    | readBack place row₁ hrow₁ =>
      obtain rfl : row = row₁ := Option.some.inj (hrow.symm.trans hrow₁)
      exact Or.inl rfl
    | unread place => exact Or.inr (hlaw.readBack place row rfl rfl hrow)
  case retry => exact h
  case retryFailed => exact h
  case routed place id₀ target routes hroutes => exact h.routed hp hroutes
  case opened place machineId₀ => exact h.opened hp machineId₀
  case selected c₀ l hl hstage =>
    refine h.setLine hl ?_
    rintro rfl - - machineId hq hr -
    refine Or.inr (Or.inr (Or.inr (Or.inr ⟨_, rfl, mem_queuedFor.mpr ?_⟩)))
    rw [hp.owner hr hl]
    exact hq.1
  case undrained c₀ l hl hstage =>
    refine h.setLine hl ?_
    rintro rfl - - machineId - - -
    -- the drain of this connection reads the held jobs
    have hkept := hlaw.drain l rfl hl hstage
    rw [Flow.setLine_lines, Function.update_self] at hkept
    rw [← Option.some.inj hkept] at hstage
    cases hstage
  case drained c₀ l hl ids hstage => exact h.drained hp hl hstage
  case taken c₀ l hl hstage id₀ rest hid₀ =>
    refine h.goOn hl hstage rfl (fun hmem => ?_) (by simp)
    rw [hid₀] at hmem
    exact (List.mem_cons.mp hmem).symm.imp_right fun heq => by rw [heq]
  case popped c₀ l hl hstage id₀ rest hid₀ =>
    have hrest : (f.withPending rest).PairedKept id c := h
    exact hrest.goOn hl hstage rfl Or.inl (by simp)
  case dropped c₀ l hl id₀ hstage hid₀ =>
    refine h.goOn hl hstage rfl Or.inl fun machineId _ hhand hq => ?_
    obtain rfl := Option.some.inj hhand
    obtain ⟨row, hrow, hqueued, -⟩ := hq.1
    simp [hid₀ row hrow] at hqueued
  case unseen c₀ l hl id₀ hstage =>
    refine h.goOn hl hstage rfl Or.inl ?_
    rintro machineId rfl hhand hq
    -- the look-up of this loop succeeds if the job is queued
    obtain rfl := Option.some.inj hhand
    obtain ⟨row, hrow, hqueued, -⟩ := hq.1
    simp [hlaw.lookUp l row rfl hl hstage hrow] at hqueued
  case sent c₀ l hl id₀ hstage hc => exact h.sent hl hstage _
  case failed c₀ l hl id₀ hstage hc => exact h.gone hl hc
  case unregistered c₀ l hl hstage hc => exact h.unregistered l.machineId
  case closed c₀ l hl hstage _ =>
    refine h.setLine hl fun _ hconn => ?_
    exact absurd hstage ((hp.lines c₀ l hl).alive hconn).1
  case disconnected c₀ l hl => exact h.gone hl rfl
  case reopened update row now hrow hin hnot _ =>
    refine h.of_jobs rfl rfl (fun _ hr => hr) fun machineId hq => Or.inr ⟨?_, fun c hs => ?_⟩
    · have hne : id ≠ update.jobId := by
        rintro rfl
        simp [Flow.QueuedFor, queuedByStatus] at hq
      exact queuedFor_of_ne rfl hne (by simp [queuedByStatus, hne.symm]) hq
    · simpa [sentSince] using hs
  case wrote jobs hwrote _ =>
    refine h.of_jobs rfl rfl (fun _ hr => hr) fun machineId hq => Or.inr ⟨?_, fun c hs => hs⟩
    obtain ⟨⟨row', hrow', hqueued, htarget⟩, hstatus⟩ := hq
    obtain ⟨row, hrow, hw⟩ := hwrote id row' hrow'
    exact ⟨⟨row, hrow, hw.queued hqueued, hw.target ▸ htarget⟩, hstatus⟩
  case leftFailed completion row now _ _ hrow hin =>
    refine h.of_jobs rfl rfl (fun _ hr => hr) fun machineId hq => Or.inr ⟨?_, fun c hs => ?_⟩
    · have hne : id ≠ completion.jobId := by
        rintro rfl
        obtain ⟨⟨row', hrow', hqueued, -⟩, -⟩ := hq
        obtain rfl := get?_written hrow hrow'
        simp [isQueued_iff, JobRow.withState] at hqueued
      exact queuedFor_of_ne rfl hne (by simp [queuedByStatus]) hq
    · simpa [sentSince] using hs
  case restarted =>
    intro machineId hq l hr
    simp at hr

/-! ### Runs -/

lemma pairedKept_of_reach (h : (printServer cfg d).Reach (readsFor id c) w) :
    w.flow.PairedKept id c := by
  refine h.invariant (P := fun v => v.flow.PairedKept id c) ?_ fun _ _ _ hv hp hstep hlaw =>
    hp.move (placed_of_reach (hv.mono fun _ _ _ _ => trivial)) (move_of_step hstep) hlaw
  intro machineId _ l hr
  simp [printServer, StoredData.start, ServerWorld.restarted, ServerWorld.flow] at hr

/-- A job with a target is only ever in channels of its target, and as long as every requeue of
it reads it back it is not in the default queue.  If it is queued, by a push or a requeue, and
the current connection of its target has drained and is still connected, then its id is in the
channel, or was sent there since it was queued, or the loop is about to send it, or the push or
requeue is about to route it; unless the connection could not read the held jobs or the job. -/
theorem paired_job_kept (h : (printServer cfg d).Reach (readsFor id c) w) {row : JobRow}
    (hrow : w.jobs.get? id = some row) (htarget : row.targetClientId = some machineId) :
    id ∉ w.defaultPending ∧
      (∀ c' k, w.conns c' = some k → id ∈ k.channel → k.machineId = machineId) ∧
      (row.isQueued → queuedByStatus id w.trace = false →
        ∀ k hand, w.registry machineId = some c → w.conns c = some k → k.connected →
          k.phase.stage = .running hand →
            id ∈ k.channel ∨ sentSince c id w.trace ∨ hand = some id ∨
              ∃ rest, .route id (some machineId) rest ∈ w.tasks) := by
  have hplaced := placed_of_reach (h.mono fun _ _ _ _ => trivial)
  refine ⟨?_, fun c' k hk hid => ?_, fun hqueued hstatus k hand hr hk hconn hstage => ?_⟩
  · exact (offDefault_of_reach h (fun _ _ _ hlaw => hlaw.readBack) row machineId hrow htarget).1
  · have haims := ((hplaced.lines c' k.line (lines_of_conns hk)).channel id hid).eq hrow
    exact Option.some.inj (haims.symm.trans htarget)
  · have hkept := pairedKept_of_reach h machineId ⟨⟨row, hrow, hqueued, htarget⟩, hstatus⟩
      k.line hr (lines_of_conns hk) hconn (by simp [Connection.line, hstage])
    have hline : k.line.stage = .running hand := hstage
    rcases hkept with hd | hd | hd | hd | ⟨ids, hids, -⟩
    · exact Or.inl hd
    · exact Or.inr (Or.inr (Or.inl (by simpa [hline] using hd)))
    · exact Or.inr (Or.inl hd)
    · exact Or.inr (Or.inr (Or.inr (mem_routesOf.mp hd)))
    · simp [hline] at hids

/-! ### Two runs -/

/-- A printer `kasa`, paired to the client `store`. -/
def pairedPrinter : PrinterTable :=
  [{ id := 1, displayName := "Kasa", ippName := "kasa", pairedClientId := some "store" }]

/-- The client `store` is approved, and its first connection drains. -/
def storeConnects : List ServerStep :=
  [.setPrinters pairedPrinter, .subscribe "store" none, .task 0, .task 0,
    .setPairing "store" .approved, .loop 0, .loop 0, .loop 0, .loop 0, .loop 0]

/-- Whether the first connection is the current one of `store`, has drained and is connected. -/
def ServerWorld.storeDrained (w : ServerWorld) (hand : Option JobId) : Bool :=
  w.registry "store" == some 0 &&
    (w.conns 0).any fun k => k.connected && k.phase.stage == .running hand

/-- Whether a job is queued for `store`. -/
def ServerWorld.queuedForStore (w : ServerWorld) (id : JobId) : Bool :=
  w.jobs.updates id (fun row => row.isQueued && row.targetClientId == some "store") &&
    !queuedByStatus id w.trace

/-- A test that no loop and no requeue fails to read. -/
def reads (_ : ServerWorld) (e : ServerStep) (_ : ServerWorld) : Bool :=
  match e with
  | .loopFails _ | .requeueUnread _ => false
  | _ => true

lemma readsFor_of_reads (w : ServerWorld) (e : ServerStep) (w' : ServerWorld)
    (h : reads w e w' = true) : readsFor id c w e w' := by
  refine ⟨?_, ?_, ?_⟩
  · rintro l rfl
    cases h
  · rintro l row rfl
    cases h
  · rintro place row rfl
    cases h

/-- A job for the connected client is routed to its channel. -/
theorem paired_job_kept_routed : ∃ w : ServerWorld,
    (printServer ⟨3, 30⟩ .empty).Reach (readsFor 0 0) w ∧
      w.queuedForStore 0 = true ∧ w.storeDrained none = true ∧
        ∃ k, w.conns 0 = some k ∧ (0 ∈ k.channel ∨ sentSince 0 0 w.trace ∨
          none = some 0 ∨ ∃ rest, .route 0 (some "store") rest ∈ w.tasks) := by
  obtain ⟨w, hw, hgoal⟩ := (printServer ⟨3, 30⟩ .empty).reach_of_tests (readsFor 0 0)
    (storeConnects ++ [.push (printRequest "kasa"), .task 0])
    (fun w => w.queuedForStore 0 && w.storeDrained none) readsFor_of_reads (by decide +kernel)
    (by decide +kernel)
  rw [Bool.and_eq_true] at hgoal
  obtain ⟨hqueued, hdrained⟩ := hgoal
  refine ⟨w, hw, hqueued, hdrained, ?_⟩
  simp only [ServerWorld.queuedForStore, Table.updates, Bool.and_eq_true, Option.any_eq_true,
    Bool.not_eq_true', beq_iff_eq] at hqueued
  simp only [ServerWorld.storeDrained, Option.any_eq_true, Bool.and_eq_true, beq_iff_eq]
    at hdrained
  obtain ⟨⟨row, hrow, hq, htarget⟩, hstatus⟩ := hqueued
  obtain ⟨hr, k, hk, hconn, hstage⟩ := hdrained
  exact ⟨k, hk, (paired_job_kept hw hrow htarget).2.2 hq hstatus k none hr hk hconn hstage⟩

/-- The loop has taken the job and not yet sent it: a job queued for a client with a drained
connection is neither in its channel nor sent. -/
theorem paired_job_in_hand : ∃ w : ServerWorld,
    (printServer ⟨3, 30⟩ .empty).Reach free w ∧
      w.queuedForStore 0 = true ∧ w.storeDrained (some 0) = true ∧
        (∀ k, w.conns 0 = some k → 0 ∉ k.channel) ∧ ∀ c state, .sent c 0 state ∉ w.trace := by
  obtain ⟨w, hw, hgoal⟩ := (printServer ⟨3, 30⟩ .empty).reach_of_run
    (storeConnects ++ [.push (printRequest "kasa"), .task 0, .loop 0, .loop 0, .loop 0])
    (fun w => w.queuedForStore 0 && w.storeDrained (some 0) &&
      ((w.conns 0).all fun k => k.channel == []) && w.trace == [.queued 0 false])
    (by decide +kernel)
  simp only [Bool.and_eq_true, Option.all_eq_true, beq_iff_eq] at hgoal
  obtain ⟨⟨⟨hqueued, hdrained⟩, hchannel⟩, htrace⟩ := hgoal
  exact ⟨w, hw, hqueued, hdrained, fun k hk => by simp [hchannel k hk], by simp [htrace]⟩

end Server

end DevBridge

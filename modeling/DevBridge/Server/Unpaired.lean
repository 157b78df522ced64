import DevBridge.Server.Paired

/-!
# When an unpaired job is lost

An id is taken out of the default queue before the job is sent, and nothing puts it back: not a
failed send, and not the end of a stream on which the client never reported.  A paired job
comes again with the next drain, an unpaired one waits in the database until a restart.  As
long as the streams that have unpaired jobs stay, none is lost.
-/

namespace DevBridge

namespace Server

open Transition (free)

variable {cfg : JobsConfig} {d : StoredData} {w w' : ServerWorld} {f f' : Flow}
  {e : ServerStep} {id : JobId} {c : ConnId} {l l' : Line}

/-! ### The condition -/

/-- The job is queued and has no target. -/
def QueuedUnpaired (jobs : JobTable) (id : JobId) : Prop :=
  ∃ row, jobs.get? id = some row ∧ row.isQueued ∧ row.targetClientId = none

/-- The job was sent on a stream that is still connected, since it was pushed or requeued. -/
def Flow.Streamed (f : Flow) (id : JobId) : Prop :=
  ∃ c l, f.lines c = some l ∧ l.connected ∧ sentSince c id f.trace

/-- No stream ends that holds a queued unpaired job or was sent one, no ended stream takes from
the default queue, a status update makes an unpaired job queued only while it was sent on a
stream that is still connected, and a loop can look up the queued unpaired job that it holds. -/
structure Flow.StreamsStay (f : Flow) (e : ServerStep) (f' : Flow) : Prop where
  disconnect : ∀ c l, e = .disconnect c → f.lines c = some l → ∀ id, QueuedUnpaired f.jobs id →
    l.stage ≠ .running (some id) ∧ sentSince c id f.trace = false
  take : ∀ c l, e = .loop c → f.lines c = some l → f'.pending ≠ f.pending → l.connected
  status : ∀ update, e = .status update → QueuedUnpaired f'.jobs update.jobId →
    QueuedUnpaired f.jobs update.jobId ∨ f.Streamed update.jobId
  lookUp : ∀ c l, e = .loopFails c → f.lines c = some l → ∀ id, QueuedUnpaired f.jobs id →
    l.stage ≠ .running (some id)

def streamsStay : Transition.Law ServerWorld ServerStep :=
  fun w e w' => w.flow.StreamsStay e w'.flow

/-! ### The invariant -/

/-- Where a queued unpaired job is. -/
def Flow.Found (f : Flow) (id : JobId) : Prop :=
  id ∈ f.pending ∨ (∃ c l, f.lines c = some l ∧ l.connected ∧ l.stage = .running (some id)) ∨
    f.Streamed id ∨ (id, none) ∈ f.routes

def Flow.UnpairedKept (f : Flow) : Prop := ∀ id, QueuedUnpaired f.jobs id → f.Found id

/-! ### Changes of one connection -/

lemma Flow.Found.mono (h : f.Found id) (hpending : ∀ id ∈ f.pending, id ∈ f'.pending)
    (hlines : ∀ c l, f.lines c = some l → ∃ l', f'.lines c = some l' ∧
      l'.connected = l.connected ∧ l'.stage = l.stage)
    (htrace : ∀ c, sentSince c id f.trace → sentSince c id f'.trace)
    (hroutes : (id, none) ∈ f.routes → (id, none) ∈ f'.routes) : f'.Found id := by
  rcases h with h | ⟨c, l, hl, hconn, hstage⟩ | ⟨c, l, hl, hconn, hsent⟩ | h
  · exact Or.inl (hpending id h)
  · obtain ⟨l', hl', hconn', hstage'⟩ := hlines c l hl
    exact Or.inr (Or.inl ⟨c, l', hl', hconn' ▸ hconn, hstage'.trans hstage⟩)
  · obtain ⟨l', hl', hconn', -⟩ := hlines c l hl
    exact Or.inr (Or.inr (Or.inl ⟨c, l', hl', hconn' ▸ hconn, htrace c hsent⟩))
  · exact Or.inr (Or.inr (Or.inr (hroutes h)))

/-- One connection changes: it is enough that it passes on the job in its hands, and stays
connected if it was sent one. -/
lemma Flow.UnpairedKept.setLine (h : f.UnpairedKept) (hl : f.lines c = some l)
    (hhand : l.connected → ∀ id, QueuedUnpaired f.jobs id → l.stage = .running (some id) →
      (f.setLine c l').Found id)
    (hsent : l.connected → ∀ id, QueuedUnpaired f.jobs id → sentSince c id f.trace →
      l'.connected) : (f.setLine c l').UnpairedKept := by
  intro id hq
  have hself : (f.setLine c l').lines c = some l' := Function.update_self ..
  have hother : ∀ {c₁ l₁}, c₁ ≠ c → f.lines c₁ = some l₁ →
      (f.setLine c l').lines c₁ = some l₁ := by
    intro c₁ l₁ hne hl₁
    rwa [Flow.setLine_lines, Function.update_of_ne hne]
  rcases h id hq with hd | ⟨c₁, l₁, hl₁, hconn, hstage⟩ | ⟨c₁, l₁, hl₁, hconn, hs⟩ | hd
  · exact Or.inl hd
  · by_cases hc : c₁ = c
    · subst hc
      obtain rfl : l = l₁ := Option.some.inj (hl.symm.trans hl₁)
      exact hhand hconn id hq hstage
    · exact Or.inr (Or.inl ⟨c₁, l₁, hother hc hl₁, hconn, hstage⟩)
  · by_cases hc : c₁ = c
    · subst hc
      obtain rfl : l = l₁ := Option.some.inj (hl.symm.trans hl₁)
      exact Or.inr (Or.inr (Or.inl ⟨c₁, l', hself, hsent hconn id hq hs, hs⟩))
    · exact Or.inr (Or.inr (Or.inl ⟨c₁, l₁, hother hc hl₁, hconn, hs⟩))
  · exact Or.inr (Or.inr (Or.inr hd))

/-- A connection with empty hands changes its channel or its stage. -/
lemma Flow.UnpairedKept.setEmpty (h : f.UnpairedKept) (hl : f.lines c = some l)
    (hempty : ∀ id, l.stage ≠ .running (some id)) (hconn : l'.connected = l.connected) :
    (f.setLine c l').UnpairedKept :=
  h.setLine hl (fun _ id _ hstage => absurd hstage (hempty id)) fun hc _ _ _ => hconn ▸ hc

lemma deliverTo_lines {machineId : String} {ids : List JobId} (hl : f.lines c = some l) :
    ∃ l', (f.deliverTo machineId ids).lines c = some l' ∧ l'.connected = l.connected ∧
      l'.stage = l.stage := by
  rcases f.deliverTo_cases machineId ids with heq | ⟨c₁, l₁, -, hl₁, -, heq⟩
  · exact ⟨l, by rw [heq]; exact hl, rfl, rfl⟩
  · rw [heq, Flow.setLine_lines]
    by_cases hc : c = c₁
    · subst hc
      obtain rfl : l = l₁ := Option.some.inj (hl.symm.trans hl₁)
      exact ⟨_, Function.update_self .., rfl, rfl⟩
    · exact ⟨l, by rw [Function.update_of_ne hc]; exact hl, rfl, rfl⟩

lemma Flow.UnpairedKept.deliverTo (h : f.UnpairedKept) (machineId : String)
    (ids : List JobId) : (f.deliverTo machineId ids).UnpairedKept := by
  intro id hq
  rw [Flow.deliverTo_jobs] at hq
  exact (h id hq).mono (by simp) (fun _ _ hl => deliverTo_lines hl) (by simp) (by simp)

/-! ### Changes of the jobs -/

lemma Flow.UnpairedKept.of_jobs (h : f.UnpairedKept) (hlines : f'.lines = f.lines)
    (hpending : f'.pending = f.pending) (hroutes : ∀ r ∈ f.routes, r ∈ f'.routes)
    (hq : ∀ id, QueuedUnpaired f'.jobs id → f'.Found id ∨
      (QueuedUnpaired f.jobs id ∧ ∀ c, sentSince c id f.trace → sentSince c id f'.trace)) :
    f'.UnpairedKept := by
  intro id hq'
  rcases hq id hq' with hfound | ⟨hq, hsent⟩
  · exact hfound
  · exact (h id hq).mono (by simp [hpending]) (fun c l hl => ⟨l, hlines ▸ hl, rfl, rfl⟩) hsent
      (hroutes _)

lemma queuedUnpaired_of_ne {jobs : JobTable} {id' : JobId} {write : JobRow → JobRow}
    (h : QueuedUnpaired (jobs.update id' (fun _ => true) write) id) (hne : id ≠ id') :
    QueuedUnpaired jobs id := by
  obtain ⟨row, hrow, hqueued⟩ := h
  rw [Table.get?_update_of_ne _ _ _ hne] at hrow
  exact ⟨row, hrow, hqueued⟩

/-! ### One move -/

/-- A new job is about to be routed. -/
lemma Flow.UnpairedKept.pushed (hp : f.Placed) (h : f.UnpairedKept) (row : JobRow) :
    (f.pushed row).UnpairedKept := by
  refine h.of_jobs rfl rfl (fun r hr => Multiset.mem_cons_of_mem hr) fun id hq => ?_
  obtain ⟨row', hrow', hqueued, htarget⟩ := hq
  rw [Flow.pushed_jobs, JobTable.insertJob, Table.get?_insert] at hrow'
  split at hrow'
  · rename_i hid
    obtain rfl := Option.some.inj hrow'
    refine Or.inl (Or.inr (Or.inr (Or.inr ?_)))
    rw [Flow.pushed_routes, hid.1, htarget]
    exact Multiset.mem_cons_self _ _
  · have hne : f.nextJob ≠ id := (hp.known id row' hrow').ne'
    exact Or.inr ⟨⟨row', hrow', hqueued, htarget⟩, fun c hs => by simp [sentSince, hne, hs]⟩

/-- And so is an unpaired job that is requeued, whether it is read back or not. -/
lemma Flow.UnpairedKept.requeued (h : f.UnpairedKept) {id₀ : JobId} {row : JobRow}
    {target : Option String} {now : Time} {detail : String} (hrow : f.jobs.get? id₀ = some row)
    (hroute : row.targetClientId = target ∨ target = none) :
    (f.requeued id₀ now detail target).UnpairedKept := by
  refine h.of_jobs rfl rfl (fun r hr => Multiset.mem_cons_of_mem hr) fun id hq => ?_
  rcases eq_or_ne id id₀ with rfl | hne
  · obtain ⟨row', hrow', hqueued, htarget⟩ := hq
    obtain rfl := get?_written hrow hrow'
    have hunpaired : row.targetClientId = none := htarget
    have hnone : target = none := by
      rcases hroute with heq | hnone
      · exact heq.symm.trans hunpaired
      · exact hnone
    refine Or.inl (Or.inr (Or.inr (Or.inr ?_)))
    rw [Flow.requeued_routes, hnone]
    exact Multiset.mem_cons_self _ _
  · exact Or.inr ⟨queuedUnpaired_of_ne hq hne, fun c hs => by
      simp [sentSince, hne.symm, hs]⟩

/-- An unpaired job that is routed is in the default queue, and another one where it was. -/
lemma Flow.UnpairedKept.routed (h : f.UnpairedKept) {id₀ : JobId} {target : Option String}
    {routes : Multiset (JobId × Option String)} (hroutes : f.routes = (id₀, target) ::ₘ routes) :
    ((f.withRoutes routes).routed id₀ target).UnpairedKept := by
  have hrest : ∀ id, (id, none) ≠ (id₀, target) → (id, none) ∈ f.routes → (id, none) ∈ routes := by
    intro id hne hr
    rw [hroutes] at hr
    exact (Multiset.mem_cons.mp hr).resolve_left hne
  cases target with
  | none =>
    intro id hq
    rcases eq_or_ne id id₀ with rfl | hne
    · exact Or.inl (List.mem_append_right _ (List.mem_singleton_self _))
    · exact (h id hq).mono (fun _ hid => List.mem_append_left _ hid)
        (fun c l hl => ⟨l, hl, rfl, rfl⟩) (fun _ hs => hs) (hrest id (by simp [hne]))
  | some client =>
    have hkept : (f.withRoutes routes).UnpairedKept := fun id hq =>
      (h id hq).mono (fun _ hid => hid) (fun c l hl => ⟨l, hl, rfl, rfl⟩) (fun _ hs => hs)
        (hrest id (by simp))
    exact hkept.deliverTo _ _

/-- What a loop takes from the default queue is in its hands, if its client is still there. -/
lemma Flow.UnpairedKept.popped (h : f.UnpairedKept) (hl : f.lines c = some l)
    (hstage : l.stage = .running none) (hconn : l.connected) {id₀ : JobId} {rest : List JobId}
    (hpending : f.pending = id₀ :: rest) :
    ((f.withPending rest).setLine c { l with stage := .running (some id₀) }).UnpairedKept := by
  intro id hq
  -- the job in the hands of the loop, or one that is still where it was
  rcases eq_or_ne id id₀ with rfl | hne
  · exact Or.inr (Or.inl ⟨c, _, Function.update_self .., hconn, rfl⟩)
  · have hset : (f.setLine c { l with stage := .running (some id₀) }).UnpairedKept :=
      h.setEmpty hl (by simp [hstage]) rfl
    rcases hset id hq with hd | hd
    · refine Or.inl ?_
      change id ∈ f.pending at hd
      rw [hpending] at hd
      exact (List.mem_cons.mp hd).resolve_left hne
    · exact Or.inr hd

/-- What is sent was sent on a stream that is connected. -/
lemma Flow.UnpairedKept.sent (h : f.UnpairedKept) (hl : f.lines c = some l) {id₀ : JobId}
    (hstage : l.stage = .running (some id₀)) (hconn : l.connected) (state : Option JobState) :
    ((f.setLine c { l with stage := .running none }).remember
      (.sent c id₀ state)).UnpairedKept := by
  have hremember : (f.remember (.sent c id₀ state)).UnpairedKept :=
    h.of_jobs rfl rfl (fun _ hr => hr) fun id hq =>
      Or.inr ⟨hq, fun c' hs => by simp [sentSince, hs]⟩
  change ((f.remember (.sent c id₀ state)).setLine c
    { l with stage := .running none }).UnpairedKept
  refine hremember.setLine hl (fun _ id hq hid => ?_) fun hc _ _ _ => hc
  obtain rfl : id₀ = id := by simpa [hstage] using hid
  exact Or.inr (Or.inr (Or.inl ⟨c, _, Function.update_self .., hconn, by simp [sentSince]⟩))

lemma Flow.UnpairedKept.move (hp : f.Placed) (h : f.UnpairedKept) (hm : Flow.Move cfg f e f')
    (hlaw : f.StreamsStay e f') : f'.UnpairedKept := by
  obtain ⟨hdisconnect, htake, hstatus, hlookUp⟩ := hlaw
  cases hm
  case quiet => exact h
  case pushed row _ _ _ => exact h.pushed hp row
  case requeued id₀ row target now detail retries hrow hreq _ hroute =>
    have hkept : (f.withRetries retries).UnpairedKept := h
    refine hkept.requeued hrow ?_
    cases hroute with
    | readBack place row₁ hrow₁ =>
      obtain rfl : row = row₁ := Option.some.inj (hrow.symm.trans hrow₁)
      exact Or.inl rfl
    | unread place => exact Or.inr rfl
  case retry => exact h
  case retryFailed => exact h
  case routed place id₀ target routes hroutes => exact h.routed hroutes
  case opened place machineId =>
    intro id hq
    refine (h id hq).mono (fun _ hid => hid) (fun c l hl => ⟨l, ?_, rfl, rfl⟩)
      (fun _ hs => hs) fun hr => hr
    rwa [Flow.opened_lines, Function.update_of_ne (hp.fresh c l hl).ne]
  case selected c l hl hstage => exact h.setEmpty hl (by simp [hstage]) rfl
  case undrained c l hl hstage => exact h.setEmpty hl (by simp [hstage]) rfl
  case drained c l hl ids hstage =>
    have hset : (f.setLine c { l with stage := .running none }).UnpairedKept :=
      h.setEmpty hl (by simp [hstage]) rfl
    exact hset.deliverTo _ _
  case taken c l hl hstage id₀ rest hid₀ => exact h.setEmpty hl (by simp [hstage]) rfl
  case popped c l hl hstage id₀ rest hid₀ =>
    exact h.popped hl hstage (htake c l rfl hl (by simp [hid₀])) hid₀
  case dropped c l hl id₀ hstage hid₀ =>
    refine h.setLine hl (fun _ id hq hid => ?_) fun hc _ _ _ => hc
    obtain rfl : id₀ = id := by simpa [hstage] using hid
    obtain ⟨row, hrow, hqueued, -⟩ := hq
    simp [hid₀ row hrow] at hqueued
  case unseen c l hl id₀ hstage =>
    exact h.setLine hl (fun _ id hq hid => absurd hid (hlookUp c l rfl hl id hq))
      fun hc _ _ _ => hc
  case sent c l hl id₀ hstage hc => exact h.sent hl hstage hc _
  case failed c l hl id₀ hstage hc =>
    exact h.setLine hl (fun hc' => by simp [hc] at hc') fun hc' => by simp [hc] at hc'
  case unregistered c l hl hstage hc => exact h
  case closed c l hl hstage _ => exact h.setEmpty hl (by simp [hstage]) rfl
  case disconnected c l hl =>
    refine h.setLine hl (fun _ id hq hid => ?_) fun _ id hq hs => ?_
    · exact absurd hid (hdisconnect c l rfl hl id hq).1
    · simp [(hdisconnect c l rfl hl id hq).2] at hs
  case reopened update row now hrow hin hnot _ =>
    refine h.of_jobs rfl rfl (fun _ hr => hr) fun id hq => ?_
    rcases eq_or_ne id update.jobId with rfl | hne
    · refine Or.inl (Or.inr (Or.inr (Or.inl ?_)))
      rcases hstatus update rfl hq with ⟨row', hrow', hqueued, -⟩ | ⟨c, l, hl, hconn, hs⟩
      · obtain rfl : row = row' := Option.some.inj (hrow.symm.trans hrow')
        simp [hnot] at hqueued
      · exact ⟨c, l, hl, hconn, by simpa [sentSince] using hs⟩
    · exact Or.inr ⟨queuedUnpaired_of_ne hq hne, fun c hs => by simpa [sentSince] using hs⟩
  case wrote jobs hwrote _ =>
    refine h.of_jobs rfl rfl (fun _ hr => hr) fun id hq => Or.inr ⟨?_, fun c hs => hs⟩
    obtain ⟨row', hrow', hqueued, htarget⟩ := hq
    obtain ⟨row, hrow, hw⟩ := hwrote id row' hrow'
    exact ⟨row, hrow, hw.queued hqueued, hw.target ▸ htarget⟩
  case leftFailed completion row now _ _ hrow hin =>
    refine h.of_jobs rfl rfl (fun _ hr => hr) fun id hq => Or.inr ⟨?_, fun c hs => ?_⟩
    · have hne : id ≠ completion.jobId := by
        rintro rfl
        obtain ⟨row', hrow', hqueued, -⟩ := hq
        obtain rfl := get?_written hrow hrow'
        simp [isQueued_iff, JobRow.withState] at hqueued
      exact queuedUnpaired_of_ne hq hne
    · simpa [sentSince] using hs
  case restarted =>
    intro id hq
    exact Or.inl (mem_queuedUnpaired.mpr hq)

/-! ### Runs -/

lemma unpairedKept_of_reach (h : (printServer cfg d).Reach streamsStay w) :
    w.flow.UnpairedKept := by
  refine h.invariant (P := fun v => v.flow.UnpairedKept) ?_ fun _ _ _ hv hk hstep hlaw =>
    hk.move (placed_of_reach (hv.mono fun _ _ _ _ => trivial)) (move_of_step hstep) hlaw
  exact fun id hq => Or.inl (mem_queuedUnpaired.mpr hq)

/-- In every run whose streams stay, a queued job without target that is not about to be routed
is in the default queue, or in the hands of a loop that is about to send it, or was sent on a
stream that is still connected. -/
theorem unpaired_job_kept (h : (printServer cfg d).Reach streamsStay w) {row : JobRow}
    (hrow : w.jobs.get? id = some row) (hqueued : row.isQueued)
    (htarget : row.targetClientId = none)
    (hrouted : ∀ target rest, .route id target rest ∉ w.tasks) :
    id ∈ w.defaultPending ∨
      (∃ c k, w.conns c = some k ∧ k.connected ∧ k.phase.stage = .running (some id)) ∨
      ∃ c k, w.conns c = some k ∧ k.connected ∧ sentSince c id w.trace := by
  have hconns : ∀ {c l}, w.flow.lines c = some l → ∃ k, w.conns c = some k ∧ k.line = l := by
    intro c l hl
    exact Option.map_eq_some_iff.mp hl
  rcases unpairedKept_of_reach h id ⟨row, hrow, hqueued, htarget⟩ with
    hd | ⟨c, l, hl, hconn, hstage⟩ | ⟨c, l, hl, hconn, hsent⟩ | hd
  · exact Or.inl hd
  · obtain ⟨k, hk, rfl⟩ := hconns hl
    exact Or.inr (Or.inl ⟨c, k, hk, hconn, hstage⟩)
  · obtain ⟨k, hk, rfl⟩ := hconns hl
    exact Or.inr (Or.inr ⟨c, k, hk, hconn, hsent⟩)
  · obtain ⟨rest, hd⟩ := mem_routesOf.mp hd
    exact absurd hd (hrouted none rest)

/-! ### Two runs -/

/-- A test that the streams stay: nothing disconnects, no status update queues a job, and no
loop fails to read. -/
def stays (w : ServerWorld) (e : ServerStep) (w' : ServerWorld) : Bool :=
  match e with
  | .disconnect _ => false
  | .loop c => (w.conns c).all (·.connected)
  | .status update => !w'.jobs.updates update.jobId JobRow.isQueued
  | .loopFails _ => false
  | _ => true

lemma streamsStay_of_stays (w : ServerWorld) (e : ServerStep) (w' : ServerWorld)
    (h : stays w e w' = true) : streamsStay w e w' := by
  refine ⟨?_, ?_, ?_, ?_⟩
  · rintro c l rfl
    cases h
  · rintro c l rfl hl _
    obtain ⟨k, hk, rfl⟩ := Option.map_eq_some_iff.mp hl
    have hconn : k.connected := by simpa [stays, hk] using h
    exact hconn
  · rintro update rfl ⟨row, hrow, hqueued, -⟩
    have hrow' : w'.jobs.get? update.jobId = some row := hrow
    simp [stays, Table.updates, hrow', hqueued] at h
  · rintro c l rfl
    cases h

/-- Whether a job is queued, has no target and is not about to be routed. -/
def ServerWorld.waitsUnpaired (w : ServerWorld) (id : JobId) : Bool :=
  w.jobs.updates id (fun row => row.isQueued && row.targetClientId == none) && w.tasks == []

lemma row_of_waitsUnpaired {id : JobId} (h : w.waitsUnpaired id = true) :
    ∃ row, w.jobs.get? id = some row ∧ row.isQueued ∧ row.targetClientId = none ∧
      w.tasks = [] := by
  simp only [ServerWorld.waitsUnpaired, Table.updates, Bool.and_eq_true, Option.any_eq_true,
    beq_iff_eq] at h
  obtain ⟨⟨row, hrow, hqueued, htarget⟩, htasks⟩ := h
  exact ⟨row, hrow, hqueued, htarget, htasks⟩

/-- The client `store` connects, and its loop takes a job of the default queue. -/
def storeTakes : List ServerStep :=
  storeConnects ++ [.task 0, .push (printRequest ""), .task 0, .task 0] ++
    List.replicate 4 (.loop 0)

/-- A job of the default queue is sent to a client that stays. -/
theorem unpaired_job_kept_sent : ∃ w : ServerWorld,
    (printServer ⟨3, 30⟩ .empty).Reach streamsStay w ∧ w.waitsUnpaired 0 = true ∧
      (0 ∈ w.defaultPending ∨
        (∃ c k, w.conns c = some k ∧ k.connected ∧ k.phase.stage = .running (some 0)) ∨
        ∃ c k, w.conns c = some k ∧ k.connected ∧ sentSince c 0 w.trace) := by
  obtain ⟨w, hw, hwaits⟩ := (printServer ⟨3, 30⟩ .empty).reach_of_tests streamsStay
    (storeTakes ++ [.loop 0, .loop 0]) (fun w => w.waitsUnpaired 0) streamsStay_of_stays
    (by decide +kernel) (by decide +kernel)
  obtain ⟨row, hrow, hqueued, htarget, htasks⟩ := row_of_waitsUnpaired hwaits
  exact ⟨w, hw, hwaits, unpaired_job_kept hw hrow hqueued htarget (by simp [htasks])⟩

/-- The client is gone when the job is sent: the job is queued and nowhere. -/
theorem unpaired_job_lost : ∃ w : ServerWorld,
    (printServer ⟨3, 30⟩ .empty).Reach free w ∧ w.waitsUnpaired 0 = true ∧
      w.defaultPending = [] ∧ w.trace = [.queued 0 false] ∧
        ∀ c k, w.conns c = some k → k.phase.stage ≠ .running (some 0) := by
  obtain ⟨w, hw, hgoal⟩ := (printServer ⟨3, 30⟩ .empty).reach_of_run
    (storeTakes ++ [.loop 0, .disconnect 0, .loop 0])
    (fun w => w.waitsUnpaired 0 && w.defaultPending == [] && w.trace == [.queued 0 false] &&
      w.nextConn == 1 && (w.conns 0).all fun k => k.phase == .leaving) (by decide +kernel)
  simp only [Bool.and_eq_true, Option.all_eq_true, beq_iff_eq] at hgoal
  obtain ⟨⟨⟨⟨hwaits, hpending⟩, htrace⟩, hnext⟩, hphase⟩ := hgoal
  refine ⟨w, hw, hwaits, hpending, htrace, fun c k hk => ?_⟩
  have hfresh : c < w.nextConn := (placed_of_reach hw).fresh c k.line (lines_of_conns hk)
  rw [hnext] at hfresh
  obtain rfl := Nat.lt_one_iff.mp hfresh
  simp [hphase k hk, Phase.stage]

end Server

end DevBridge

import DevBridge.Server.Finished

/-!
# Every copy of a job id is where it belongs

The target of a job is fixed when it is inserted.  A copy of its id that is not of the default
queue is only ever in the hands of connections of its target.  This holds in every run, and the
statements about lost and repeated jobs rest on it.

A copy in the default queue is of a job without target, as long as every requeue of a paired job
can read the job back.
-/

namespace DevBridge

namespace Server

open Transition (free)

variable {cfg : JobsConfig} {d : StoredData} {w w' : ServerWorld} {f f' : Flow}
  {e : ServerStep} {id : JobId} {target : Option String} {c : ConnId} {l l' : Line}

/-! ### The invariant -/

/-- The job existed, and has this target unless it was deleted.  A job of any target may be on
its way to the default queue. -/
structure Aims (jobs : JobTable) (next id : JobId) (target : Option String) : Prop where
  known : id < next
  target : ∀ row, jobs.get? id = some row → target = none ∨ row.targetClientId = target

abbrev Flow.Aims (f : Flow) : JobId → Option String → Prop := Server.Aims f.jobs f.nextJob

/-- What a connection may hold, if the jobs aim as given. -/
structure Line.Placed (aims : JobId → Option String → Prop) (l : Line) : Prop where
  channel : ∀ id ∈ l.channel, aims id (some l.machineId)
  selected : ∀ ids, l.stage = .draining ids → ∀ id ∈ ids, aims id (some l.machineId)
  hand : ∀ id, l.stage = .running (some id) → aims id none ∨ aims id (some l.machineId)
  /-- Only the loop of a client that is gone ends. -/
  alive : l.connected → l.stage ≠ .ended ∧ l.stage ≠ .closed

structure Flow.Placed (f : Flow) : Prop where
  known : f.Known
  routes : ∀ id target, (id, target) ∈ f.routes → f.Aims id target
  pending : ∀ id ∈ f.pending, f.Aims id none
  lines : ∀ c l, f.lines c = some l → l.Placed f.Aims
  fresh : ∀ c l, f.lines c = some l → c < f.nextConn
  registry : ∀ machineId c, f.registry machineId = some c →
    ∃ l, f.lines c = some l ∧ l.machineId = machineId

lemma Line.Placed.mono {aims aims' : JobId → Option String → Prop} (h : l.Placed aims)
    (haims : ∀ id target, aims id target → aims' id target) : l.Placed aims' :=
  ⟨fun id hid => haims _ _ (h.channel id hid),
    fun ids hids id hid => haims _ _ (h.selected ids hids id hid),
    fun id hid => (h.hand id hid).imp (haims _ _) (haims _ _), h.alive⟩

/-! ### The selections -/

lemma mem_idsByAge {rows : List (JobId × JobRow)} :
    id ∈ JobTable.idsByAge rows ↔ ∃ row, (id, row) ∈ rows := by
  simp [JobTable.idsByAge, List.mem_insertionSort]

lemma mem_queuedFor {jobs : JobTable} {client : String} :
    id ∈ jobs.queuedFor client ↔ ∃ row, jobs.get? id = some row ∧ row.isQueued ∧
      row.targetClientId = some client := by
  simp [JobTable.queuedFor, mem_idsByAge, Table.mem_select]

lemma mem_queuedUnpaired {jobs : JobTable} :
    id ∈ jobs.queuedUnpaired ↔ ∃ row, jobs.get? id = some row ∧ row.isQueued ∧
      row.targetClientId = none := by
  simp [JobTable.queuedUnpaired, mem_idsByAge, Table.mem_select]

/-! ### Reading a history -/

/-- The job was sent on the connection, and neither pushed nor requeued since. -/
def sentSince (c : ConnId) (id : JobId) : List ServerEvent → Bool
  | [] => false
  | .sent c' id' _ :: t => (c' == c && id' == id) || sentSince c id t
  | .queued id' false :: t => id' != id && sentSince c id t
  | .queued _ true :: t | .leftFailed _ :: t => sentSince c id t

/-- It was a status update that last made the job queued. -/
def queuedByStatus (id : JobId) : List ServerEvent → Bool
  | [] => false
  | .queued id' byStatus :: t => if id' = id then byStatus else queuedByStatus id t
  | .sent _ _ _ :: t | .leftFailed _ :: t => queuedByStatus id t

/-! ### The targets stay -/

lemma Flow.Aims.of_jobs (h : f.Aims id target) (hnext : f.nextJob ≤ f'.nextJob)
    (hjobs : ∀ row', f'.jobs.get? id = some row' →
      ∃ row, f.jobs.get? id = some row ∧ row'.targetClientId = row.targetClientId) :
    f'.Aims id target := by
  refine ⟨h.known.trans_le hnext, fun row' hrow' => ?_⟩
  obtain ⟨row, hrow, hsame⟩ := hjobs row' hrow'
  rw [hsame]
  exact h.target row hrow

lemma Flow.Aims.eq {machineId : String} (h : f.Aims id (some machineId)) {row : JobRow}
    (hrow : f.jobs.get? id = some row) : row.targetClientId = some machineId :=
  (h.target row hrow).resolve_left (by simp)

lemma target_of_update {jobs : JobTable} {id' : JobId} {p : JobRow → Bool}
    {write : JobRow → JobRow} (hwrite : ∀ row, (write row).targetClientId = row.targetClientId)
    {row' : JobRow} (h : (jobs.update id' p write).get? id = some row') :
    ∃ row, jobs.get? id = some row ∧ row'.targetClientId = row.targetClientId := by
  rw [Table.get?_update, Option.map_eq_some_iff] at h
  obtain ⟨row, hrow, rfl⟩ := h
  refine ⟨row, hrow, ?_⟩
  split
  · exact hwrite row
  · rfl

lemma target_withState (now : Time) (state : JobState) (row : JobRow) :
    (row.withState now state).targetClientId = row.targetClientId := rfl

lemma target_requeued (now : Time) (errorDetail : String) (row : JobRow) :
    (row.requeued now errorDetail).targetClientId = row.targetClientId := rfl

/-- No move changes the target of a job, and none gives a job the id of an earlier one. -/
lemma targetClient_of_move (h : Flow.Move cfg f e f') (hid : id ≠ f.nextJob) {row' : JobRow}
    (hrow' : f'.jobs.get? id = some row') :
    ∃ row, f.jobs.get? id = some row ∧ row'.targetClientId = row.targetClientId := by
  cases h
  case pushed row _ _ _ =>
    rw [Flow.pushed_jobs, JobTable.insertJob, Table.get?_insert_of_ne _ _ hid] at hrow'
    exact ⟨row', hrow', rfl⟩
  case requeued => exact target_of_update (target_requeued _ _) hrow'
  case reopened => exact target_of_update (target_withState _ _) hrow'
  case leftFailed => exact target_of_update (target_withState _ _) hrow'
  case wrote jobs hwrote _ =>
    obtain ⟨row, hrow, hw⟩ := hwrote id row' hrow'
    exact ⟨row, hrow, hw.target⟩
  case routed => exact ⟨row', by simpa using hrow', rfl⟩
  case drained => exact ⟨row', by simpa using hrow', rfl⟩
  all_goals exact ⟨row', hrow', rfl⟩

lemma nextJob_le (hm : Flow.Move cfg f e f') : f.nextJob ≤ f'.nextJob := by
  cases hm
  case pushed => exact Nat.le_succ _
  case routed => simp
  case drained => simp
  all_goals exact le_rfl

lemma Flow.Aims.move (ha : f.Aims id target) (h : Flow.Move cfg f e f') : f'.Aims id target :=
  ha.of_jobs (nextJob_le h) fun _ => targetClient_of_move h ha.known.ne

/-! ### One move -/

lemma Flow.Placed.setLine (h : f.Placed) (hl : f.lines c = some l)
    (hm : l'.machineId = l.machineId) (hl' : l'.Placed f.Aims) : (f.setLine c l').Placed := by
  refine ⟨h.known, h.routes, h.pending, ?_, ?_, ?_⟩
  · intro c' l₁ hc'
    rw [Flow.setLine_lines] at hc'
    by_cases hcc : c' = c
    · subst hcc
      rw [Function.update_self] at hc'
      exact Option.some.inj hc' ▸ hl'
    · rw [Function.update_of_ne hcc] at hc'
      exact h.lines c' l₁ hc'
  · intro c' l₁ hc'
    rw [Flow.setLine_lines] at hc'
    by_cases hcc : c' = c
    · exact hcc ▸ h.fresh c l hl
    · rw [Function.update_of_ne hcc] at hc'
      exact h.fresh c' l₁ hc'
  · intro machineId c' hr
    obtain ⟨l₁, hl₁, hm₁⟩ := h.registry machineId c' hr
    rw [Flow.setLine_lines]
    by_cases hcc : c' = c
    · subst hcc
      obtain rfl : l = l₁ := Option.some.inj (hl.symm.trans hl₁)
      exact ⟨l', Function.update_self .., hm.trans hm₁⟩
    · exact ⟨l₁, by rw [Function.update_of_ne hcc]; exact hl₁, hm₁⟩

/-- A move of one connection to another stage with the same channel. -/
lemma Flow.Placed.setStage (h : f.Placed) (hl : f.lines c = some l) {stage : Stage}
    (hsel : ∀ ids, stage = .draining ids → ∀ id ∈ ids, f.Aims id (some l.machineId))
    (hhand : ∀ id, stage = .running (some id) → f.Aims id none ∨ f.Aims id (some l.machineId))
    (halive : l.connected → stage ≠ .ended ∧ stage ≠ .closed) :
    (f.setLine c { l with stage := stage }).Placed :=
  h.setLine hl rfl ⟨(h.lines c l hl).channel, hsel, hhand, halive⟩

lemma Flow.Placed.deliverTo (h : f.Placed) {machineId : String} {ids : List JobId}
    (hids : ∀ id ∈ ids, f.Aims id (some machineId)) : (f.deliverTo machineId ids).Placed := by
  rcases f.deliverTo_cases machineId ids with heq | ⟨c, l, hr, hl, -, heq⟩
  · rw [heq]
    exact h
  · obtain ⟨l₁, hl₁, rfl⟩ := h.registry machineId c hr
    obtain rfl : l = l₁ := Option.some.inj (hl.symm.trans hl₁)
    have hpl := h.lines c l hl
    rw [heq]
    refine h.setLine hl rfl ⟨fun id hid => ?_, hpl.selected, hpl.hand, hpl.alive⟩
    exact (List.mem_append.mp hid).elim (hpl.channel id) (hids id)

lemma Flow.Placed.withRoutes (h : f.Placed) (routes : Multiset (JobId × Option String))
    (hsub : ∀ r ∈ routes, r ∈ f.routes) : (f.withRoutes routes).Placed :=
  ⟨h.known, fun id target hr => h.routes id target (hsub _ hr), h.pending, h.lines, h.fresh,
    h.registry⟩

lemma Flow.Placed.withPending (h : f.Placed) (pending : List JobId)
    (hp : ∀ id ∈ pending, f.Aims id none) : (f.withPending pending).Placed :=
  ⟨h.known, h.routes, hp, h.lines, h.fresh, h.registry⟩

/-- The jobs change, and at most a routing is added. -/
lemma Flow.Placed.of_jobs (h : f.Placed) (hknown : f'.Known)
    (haims : ∀ id target, f.Aims id target → f'.Aims id target)
    (hroutes : ∀ id target, (id, target) ∈ f'.routes →
      (id, target) ∈ f.routes ∨ f'.Aims id target)
    (hpending : f'.pending = f.pending) (hlines : f'.lines = f.lines)
    (hconn : f'.nextConn = f.nextConn) (hregistry : f'.registry = f.registry) : f'.Placed := by
  refine ⟨hknown, fun id target hr => ?_, ?_, ?_, ?_, ?_⟩
  · exact (hroutes id target hr).elim (fun hr => haims _ _ (h.routes id target hr)) fun ha => ha
  · exact fun id hid => haims _ _ (h.pending id (hpending ▸ hid))
  · exact fun c l hl => (h.lines c l (hlines ▸ hl)).mono haims
  · exact fun c l hl => hconn ▸ h.fresh c l (hlines ▸ hl)
  · rw [hregistry, hlines]
    exact h.registry

lemma Flow.Placed.opened (h : f.Placed) (machineId : String) : (f.opened machineId).Placed := by
  refine ⟨h.known, h.routes, h.pending, ?_, ?_, ?_⟩
  · intro c l hl
    rw [Flow.opened_lines] at hl
    by_cases hc : c = f.nextConn
    · subst hc
      rw [Function.update_self] at hl
      obtain rfl := Option.some.inj hl
      exact ⟨by simp, by simp, by simp, by simp⟩
    · rw [Function.update_of_ne hc] at hl
      exact h.lines c l hl
  · intro c l hl
    rw [Flow.opened_lines] at hl
    rw [Flow.opened_nextConn]
    by_cases hc : c = f.nextConn
    · exact hc ▸ Nat.lt_succ_self _
    · rw [Function.update_of_ne hc] at hl
      exact (h.fresh c l hl).trans (Nat.lt_succ_self _)
  · intro machineId' c hr
    rw [Flow.opened_registry] at hr
    rw [Flow.opened_lines]
    by_cases hm : machineId' = machineId
    · subst hm
      rw [Function.update_self] at hr
      exact ⟨_, by rw [← Option.some.inj hr, Function.update_self], rfl⟩
    · rw [Function.update_of_ne hm] at hr
      obtain ⟨l, hl, hl'⟩ := h.registry machineId' c hr
      exact ⟨l, by rw [Function.update_of_ne (h.fresh c l hl).ne]; exact hl, hl'⟩

lemma aims_of_row (h : f.Known) {row : JobRow} (hrow : f.jobs.get? id = some row) :
    f.Aims id row.targetClientId :=
  ⟨h id row hrow, fun row' hrow' => Or.inr (by rw [Option.some.inj (hrow.symm.trans hrow')])⟩

/-- Every move leaves the copies of the ids where they belong. -/
lemma Flow.Placed.move (h : f.Placed) (hm : Flow.Move cfg f e f') : f'.Placed := by
  have hknown : f'.Known := h.known.move hm
  have haims : ∀ id target, f.Aims id target → f'.Aims id target := fun _ _ ha => ha.move hm
  cases hm
  case quiet => exact h
  case pushed row _ _ _ =>
    refine h.of_jobs hknown haims (fun id target hr => ?_) rfl rfl rfl rfl
    rcases Multiset.mem_cons.mp hr with hr | hr
    · obtain ⟨rfl, rfl⟩ := Prod.mk.inj hr
      have hnew : (f.pushed row).jobs.get? f.nextJob = some row := by
        refine Table.get?_insert_self _ _ _ ?_
        by_contra hsome
        obtain ⟨row', hrow'⟩ := Option.ne_none_iff_exists'.mp hsome
        exact absurd (h.known _ _ hrow') (lt_irrefl _)
      exact Or.inr (aims_of_row hknown hnew)
    · exact Or.inl hr
  case requeued id row target now detail retries hrow hreq _ hroute =>
    refine h.of_jobs hknown haims (fun id' target' hr => ?_) rfl rfl rfl rfl
    rcases Multiset.mem_cons.mp hr with hr | hr
    · obtain ⟨rfl, rfl⟩ := Prod.mk.inj hr
      refine Or.inr (haims _ _ ?_)
      cases hroute with
      | readBack place row' hrow' => exact aims_of_row h.known hrow'
      | unread place => exact ⟨h.known _ row hrow, fun _ _ => Or.inl rfl⟩
    · exact Or.inl hr
  case retry =>
    exact h.of_jobs hknown haims (fun _ _ hr => Or.inl hr) rfl rfl rfl rfl
  case retryFailed =>
    exact h.of_jobs hknown haims (fun _ _ hr => Or.inl hr) rfl rfl rfl rfl
  case routed place id target routes hroutes =>
    have hsub := h.withRoutes routes fun r hr => by
      rw [hroutes]
      exact Multiset.mem_cons_of_mem hr
    have hid : f.Aims id target := by
      refine h.routes id target ?_
      rw [hroutes]
      exact Multiset.mem_cons_self _ _
    cases target with
    | none =>
      refine hsub.withPending _ fun id' hid' => ?_
      rcases List.mem_append.mp hid' with hid' | hid'
      · exact h.pending id' hid'
      · exact List.mem_singleton.mp hid' ▸ hid
    | some client =>
      exact hsub.deliverTo fun id' hid' => List.mem_singleton.mp hid' ▸ hid
  case opened place machineId => exact h.opened machineId
  case selected c l hl hstage =>
    refine h.setStage hl (fun ids hids id hid => ?_) (by simp) (by simp)
    obtain rfl := Stage.draining.inj hids
    obtain ⟨row, hrow, -, htarget⟩ := mem_queuedFor.mp hid
    exact htarget ▸ aims_of_row h.known hrow
  case undrained c l hl hstage => exact h.setStage hl (by simp) (by simp) (by simp)
  case drained c l hl ids hstage =>
    refine (h.setStage hl (by simp) (by simp) (by simp)).deliverTo ?_
    exact (h.lines c l hl).selected ids hstage
  case taken c l hl hstage id rest hid =>
    have hpl := h.lines c l hl
    refine h.setLine hl rfl ⟨fun id' hid' => ?_, by simp, fun id' hid' => ?_, by simp⟩
    · exact hpl.channel id' (hid ▸ List.mem_cons_of_mem _ hid')
    · obtain rfl := Option.some.inj (Stage.running.inj hid')
      exact Or.inr (hpl.channel id (hid ▸ List.mem_cons_self))
  case popped c l hl hstage id rest hid =>
    have hrest := h.withPending rest fun id' hid' =>
      h.pending id' (hid ▸ List.mem_cons_of_mem _ hid')
    refine hrest.setStage hl (by simp) (fun id' hid' => ?_) (by simp)
    obtain rfl := Option.some.inj (Stage.running.inj hid')
    exact Or.inl (h.pending id (hid ▸ List.mem_cons_self))
  case dropped c l hl id hstage hid => exact h.setStage hl (by simp) (by simp) (by simp)
  case unseen c l hl id hstage => exact h.setStage hl (by simp) (by simp) (by simp)
  case sent c l hl id hstage hc =>
    have hset : (f.setLine c { l with stage := .running none }).Placed :=
      h.setStage hl (by simp) (by simp) (by simp)
    exact ⟨hset.known, hset.routes, hset.pending, hset.lines, hset.fresh, hset.registry⟩
  case failed c l hl id hstage hc => exact h.setStage hl (by simp) (by simp) (by simp [hc])
  case unregistered c l hl hstage hc =>
    refine ⟨h.known, h.routes, h.pending, h.lines, h.fresh, fun machineId c' hr => ?_⟩
    rw [Flow.unregistered_registry] at hr
    by_cases hm : machineId = l.machineId
    · rw [hm, Function.update_self] at hr
      cases hr
    · rw [Function.update_of_ne hm] at hr
      exact h.registry machineId c' hr
  case closed c l hl hstage _ =>
    exact h.setStage hl (by simp) (by simp) fun hc =>
      absurd hstage ((h.lines c l hl).alive hc).1
  case disconnected c l hl =>
    have hpl := h.lines c l hl
    exact h.setLine hl rfl ⟨hpl.channel, hpl.selected, hpl.hand, by simp⟩
  case reopened => exact h.of_jobs hknown haims (fun _ _ hr => Or.inl hr) rfl rfl rfl rfl
  case wrote => exact h.of_jobs hknown haims (fun _ _ hr => Or.inl hr) rfl rfl rfl rfl
  case leftFailed => exact h.of_jobs hknown haims (fun _ _ hr => Or.inl hr) rfl rfl rfl rfl
  case restarted =>
    refine ⟨h.known, by simp, fun id hid => ?_, by simp, by simp, by simp⟩
    obtain ⟨row, hrow, -, htarget⟩ := mem_queuedUnpaired.mp hid
    exact htarget ▸ aims_of_row h.known hrow

/-! ### The default queue -/

/-- A requeue of the job can read the job back, or the job is not paired. -/
def Flow.ReadsBack (f : Flow) (id : JobId) (e : ServerStep) (f' : Flow) : Prop :=
  ∀ place row, e = .requeueUnread place → f'.trace = .queued id false :: f.trace →
    f.jobs.get? id = some row → row.targetClientId = none

/-- If the job is paired, it is not in the default queue, and not on its way there. -/
def Flow.OffDefault (f : Flow) (id : JobId) : Prop :=
  ∀ row machineId, f.jobs.get? id = some row → row.targetClientId = some machineId →
    id ∉ f.pending ∧ (id, none) ∉ f.routes

/-- A move that brings the job no nearer to the default queue. -/
lemma Flow.OffDefault.of_fewer (h : f.OffDefault id) (hm : Flow.Move cfg f e f')
    (hid : id ≠ f.nextJob) (hpending : id ∈ f'.pending → id ∈ f.pending ∨ (id, none) ∈ f.routes)
    (hroutes : (id, none) ∈ f'.routes → (id, none) ∈ f.routes) : f'.OffDefault id := by
  intro row' machineId hrow' htarget'
  obtain ⟨row, hrow, htarget⟩ := targetClient_of_move hm hid hrow'
  obtain ⟨hnot, hnone⟩ := h row machineId hrow (htarget ▸ htarget')
  exact ⟨fun hmem => (hpending hmem).elim hnot hnone, fun hr => hnone (hroutes hr)⟩

/-- The job that is pushed next has no copies yet. -/
lemma Flow.Placed.offDefault_next (hp : f.Placed) (hm : Flow.Move cfg f e f') :
    f'.OffDefault f.nextJob := by
  have hnone : ∀ {target}, ¬ f.Aims f.nextJob target := fun ha => absurd ha.known (lt_irrefl _)
  have hknown' := hp.known.move hm
  intro row' machineId hrow' htarget'
  cases hm
  case pushed row _ _ _ =>
    have hnew : (f.pushed row).jobs.get? f.nextJob = some row := by
      refine Table.get?_insert_self _ _ _ ?_
      by_contra hsome
      obtain ⟨row₀, hrow₀⟩ := Option.ne_none_iff_exists'.mp hsome
      exact absurd (hp.known _ _ hrow₀) (lt_irrefl _)
    obtain rfl : row = row' := Option.some.inj (hnew.symm.trans hrow')
    refine ⟨fun hid => hnone (hp.pending _ hid), fun hr => ?_⟩
    rcases Multiset.mem_cons.mp hr with heq | hr
    · simp [htarget'] at heq
    · exact hnone (hp.routes _ _ hr)
  all_goals exact absurd (hknown' _ _ hrow') (by simp)

lemma Flow.OffDefault.move (hp : f.Placed) (h : f.OffDefault id) (hm : Flow.Move cfg f e f')
    (hlaw : f.ReadsBack id e f') : f'.OffDefault id := by
  rcases eq_or_ne id f.nextJob with rfl | hid
  · exact hp.offDefault_next hm
  have hm' := hm
  cases hm
  case pushed row _ _ _ =>
    refine h.of_fewer hm' hid (fun hmem => Or.inl hmem) fun hr => ?_
    rcases Multiset.mem_cons.mp hr with heq | hr
    · exact absurd (Prod.mk.inj heq).1 hid
    · exact hr
  case requeued id₀ row target₀ now detail retries hrow hreq _ hroute =>
    intro row' machineId hrow' htarget'
    obtain ⟨row₁, hrow₁, hsame⟩ := targetClient_of_move hm' hid hrow'
    have hpaired : row₁.targetClientId = some machineId := hsame ▸ htarget'
    obtain ⟨hnot, hnone⟩ := h row₁ machineId hrow₁ hpaired
    refine ⟨hnot, fun hr => ?_⟩
    rcases Multiset.mem_cons.mp hr with heq | hr
    · obtain ⟨rfl, htarget⟩ := Prod.mk.inj heq
      cases hroute with
      | readBack place row₂ hrow₂ =>
        rw [Option.some.inj (hrow₂.symm.trans hrow₁), hpaired] at htarget
        cases htarget
      | unread place =>
        rw [hlaw place row₁ rfl rfl hrow₁] at hpaired
        cases hpaired
    · exact hnone hr
  case routed place id₀ target₀ routes hroutes =>
    have hsub : (id, none) ∈ routes → (id, none) ∈ f.routes := fun hr => by
      rw [hroutes]
      exact Multiset.mem_cons_of_mem hr
    refine h.of_fewer hm' hid (fun hmem => ?_) (by simpa using hsub)
    cases target₀ with
    | none =>
      rcases List.mem_append.mp hmem with hmem | hmem
      · exact Or.inl hmem
      · refine Or.inr ?_
        rw [hroutes, List.mem_singleton.mp hmem]
        exact Multiset.mem_cons_self _ _
    | some client => exact Or.inl (by simpa [Flow.routed] using hmem)
  case drained => exact h.of_fewer hm' hid (fun hmem => Or.inl (by simpa using hmem)) (by simp)
  case popped c l hl hstage id₀ rest hid₀ =>
    refine h.of_fewer hm' hid (fun hmem => Or.inl ?_) fun hr => hr
    rw [hid₀]
    exact List.mem_cons_of_mem _ hmem
  case restarted =>
    refine fun row machineId hrow htarget => ⟨fun hmem => ?_, Multiset.notMem_zero _⟩
    obtain ⟨row', hrow', -, hnone⟩ := mem_queuedUnpaired.mp hmem
    rw [Option.some.inj (hrow'.symm.trans hrow), htarget] at hnone
    cases hnone
  all_goals exact h.of_fewer hm' hid (fun hmem => Or.inl hmem) fun hr => hr

/-! ### Runs -/

lemma placed_of_reach (h : (printServer cfg d).Reach free w) : w.flow.Placed := by
  refine h.invariant (P := fun v => v.flow.Placed) ?_ fun _ _ _ _ hp hstep _ =>
    hp.move (move_of_step hstep)
  refine ⟨d.fresh, by simp [printServer, StoredData.start, ServerWorld.restarted,
    ServerWorld.flow, routesOf], fun id hid => ?_, ?_, ?_, ?_⟩
  · obtain ⟨row, hrow, -, htarget⟩ := mem_queuedUnpaired.mp hid
    exact htarget ▸ aims_of_row (f := (printServer cfg d).init.flow) d.fresh hrow
  · intro c l hl
    simp [printServer, StoredData.start, ServerWorld.restarted, ServerWorld.flow] at hl
  · intro c l hl
    simp [printServer, StoredData.start, ServerWorld.restarted, ServerWorld.flow] at hl
  · intro machineId c hr
    simp [printServer, StoredData.start, ServerWorld.restarted, ServerWorld.flow] at hr

lemma offDefault_of_reach {law : Transition.Law ServerWorld ServerStep}
    (h : (printServer cfg d).Reach law w)
    (hlaw : ∀ v e v', law v e v' → v.flow.ReadsBack id e v'.flow) : w.flow.OffDefault id := by
  refine h.invariant (P := fun v => v.flow.OffDefault id) ?_ fun _ _ _ hv hd hstep hl =>
    hd.move (placed_of_reach (hv.mono fun _ _ _ _ => trivial)) (move_of_step hstep)
      (hlaw _ _ _ hl)
  refine fun row machineId hrow htarget => ⟨fun hmem => ?_, Multiset.notMem_zero _⟩
  obtain ⟨row', hrow', -, hnone⟩ := mem_queuedUnpaired.mp hmem
  rw [Option.some.inj (hrow'.symm.trans hrow), htarget] at hnone
  cases hnone

end Server

end DevBridge

import DevBridge.Server.Streams
import DevBridge.Server.Paired

/-!
# Wake-ups of the job streams

The loop of a stream waits in two places: for a change of a pairing state, and for a job.  A
notification wakes the loops that listen when it is sent, and only these.  A loop listens to
the default queue before it looks there, so that nothing is missed.  It listens to the pairing
states only after it read them, and an approval whose notification comes in between is missed.
-/

namespace DevBridge

namespace Server

open Transition (free)

variable {cfg : JobsConfig} {d : StoredData} {w w' : ServerWorld} {s s' : Streams}
  {e : ServerStep} {c : ConnId} {k : Connection} {machineId : String} {phase : Phase}

/-! ### Waiting loops -/

/-- The stored pairing state of the client is `approved`. -/
def ServerWorld.Approved (w : ServerWorld) (machineId : String) : Prop :=
  w.streams.Approved machineId

/-- The loop waits. -/
def Phase.waits : Phase → Bool
  | .waitPairing _ | .waiting _ _ => true
  | _ => false

/-- Whether the loop takes jobs of the default queue: it read so at the gate, or would now. -/
def ServerWorld.takesDefault (w : ServerWorld) (k : Connection) : Bool :=
  match k.phase with
  | .waiting takesDefaultQueue _ => takesDefaultQueue
  | _ => (w.clients k.machineId).any ClientRow.takesDefaultQueue

/-- There is a job that the loop could take. -/
def ServerWorld.couldTake (w : ServerWorld) (k : Connection) : Bool :=
  k.channel != [] || (w.takesDefault k && w.defaultPending != [])

/-- The waiting loop was notified, has something in its channel, or a notification is due. -/
def ServerWorld.wakeUpPending (w : ServerWorld) (k : Connection) : Prop :=
  match k.phase with
  | .waitPairing seen => seen < w.pairingNotified ∨ .notifyPairing ∈ w.tasks
  | .waiting _ seen => k.channel ≠ [] ∨ seen < w.defaultNotified ∨ .notifyDefault ∈ w.tasks
  | _ => False

/-- The last pairing notification that was due comes while no loop is between its look at the
pairing state and its wait, unless its client is not approved.  Nor does that look fail then,
unless a pairing notification is due. -/
def heardPairing : Transition.Law ServerWorld ServerStep := fun w e w' =>
  (w'.pairingNotified = w.pairingNotified + 1 → .notifyPairing ∉ w'.tasks →
    ∀ c k, w.conns c = some k → k.phase = .unapproved → ¬ w.Approved k.machineId) ∧
  ∀ c k, e = .loopFails c → w.conns c = some k → k.phase = .gate → w.Approved k.machineId →
    .notifyPairing ∈ w.tasks

/-! ### The invariant -/

/-- What is due to a loop in this phase, of this client. -/
def Streams.Hears (s : Streams) (machineId : String) : Phase → Prop
  | .unapproved => s.Approved machineId → .notifyPairing ∈ s.tasks
  | .waitPairing seen => seen ≤ s.pairingNotified ∧
      (s.Approved machineId → seen < s.pairingNotified ∨ .notifyPairing ∈ s.tasks)
  | .polling _ seen | .tryDefault _ seen => seen ≤ s.defaultNotified
  | .waiting takes seen => seen ≤ s.defaultNotified ∧
      (takes = true → s.pending ≠ [] → seen < s.defaultNotified ∨ .notifyDefault ∈ s.tasks)
  | _ => True

/-- Every loop hears what is due to it. -/
def Streams.Heard (s : Streams) : Prop :=
  ∀ c k, s.conns c = some k → s.Hears k.machineId k.phase

lemma mem_streamTasks {task : Task} {tasks : List Task} (h : task.ofStreams = true) :
    task ∈ streamTasks tasks ↔ task ∈ tasks := by
  simp [streamTasks, h]

/-- Nothing is lost while the counts stay, no notification gets lost, and neither an approval
nor a job for the default queue comes without one. -/
lemma Streams.Hears.mono (h : s.Hears machineId phase)
    (happroved : s'.Approved machineId → s.Approved machineId ∨ .notifyPairing ∈ s'.tasks)
    (hpairing : s'.pairingNotified = s.pairingNotified)
    (hdefault : s'.defaultNotified = s.defaultNotified)
    (htasks : ∀ task ∈ s.tasks, task = .notifyPairing ∨ task = .notifyDefault → task ∈ s'.tasks)
    (hpending : s'.pending ≠ [] → s.pending ≠ [] ∨ .notifyDefault ∈ s'.tasks) :
    s'.Hears machineId phase := by
  have hp : .notifyPairing ∈ s.tasks → .notifyPairing ∈ s'.tasks :=
    fun hmem => htasks _ hmem (Or.inl rfl)
  have hd : .notifyDefault ∈ s.tasks → .notifyDefault ∈ s'.tasks :=
    fun hmem => htasks _ hmem (Or.inr rfl)
  unfold Streams.Hears at h ⊢
  rw [hpairing, hdefault]
  split at h
  · intro ha
    rcases happroved ha with ha | hmem
    · exact hp (h ha)
    · exact hmem
  · refine ⟨h.1, fun ha => ?_⟩
    rcases happroved ha with ha | hmem
    · exact (h.2 ha).imp_right hp
    · exact Or.inr hmem
  · exact h
  · exact h
  · refine ⟨h.1, fun htakes hne => ?_⟩
    rcases hpending hne with hne | hmem
    · exact (h.2 htakes hne).imp_right hd
    · exact Or.inr hmem
  · trivial

/-- The same without an approval, a job or a task more. -/
lemma Streams.Hears.congr (h : s.Hears machineId phase)
    (happroved : s'.Approved machineId → s.Approved machineId)
    (hpairing : s'.pairingNotified = s.pairingNotified)
    (hdefault : s'.defaultNotified = s.defaultNotified) (htasks : s'.tasks = s.tasks)
    (hpending : s'.pending ≠ [] → s.pending ≠ []) : s'.Hears machineId phase :=
  h.mono (fun ha => Or.inl (happroved ha)) hpairing hdefault (fun _ hmem _ => htasks ▸ hmem)
    fun hne => Or.inl (hpending hne)

/-- One connection changes, and the others hear what they heard. -/
lemma Streams.Heard.update (h : s.Heard)
    (hconns : s'.conns = Function.update s.conns c (some k))
    (hothers : ∀ machineId phase, s.Hears machineId phase → s'.Hears machineId phase)
    (hk : s'.Hears k.machineId k.phase) : s'.Heard := by
  intro c' k' hk'
  rw [hconns] at hk'
  by_cases hc : c' = c
  · subst hc
    rw [Function.update_self] at hk'
    obtain rfl := Option.some.inj hk'
    exact hk
  · rw [Function.update_of_ne hc] at hk'
    exact hothers _ _ (h c' k' hk')

/-- No connection changes. -/
lemma Streams.Heard.same (h : s.Heard) (hconns : s'.conns = s.conns)
    (hothers : ∀ machineId phase, s.Hears machineId phase → s'.Hears machineId phase) :
    s'.Heard :=
  fun c k hk => hothers _ _ (h c k (hconns ▸ hk))

lemma approved_setClient {row : ClientRow}
    (hrow : row.pairingState = .approved → s.Approved machineId) {m : String}
    (h : (s.setClient machineId row).Approved m) : s.Approved m := by
  obtain ⟨row', hrow', happroved⟩ := h
  by_cases hm : m = machineId
  · subst hm
    obtain rfl : row = row' := by simpa using hrow'
    exact hrow happroved
  · exact ⟨row', by simpa [hm] using hrow', happroved⟩

lemma approved_setOnline {online : Bool} {m : String} :
    (s.setOnline machineId online).Approved m ↔ s.Approved m := by
  unfold Streams.Approved
  by_cases hm : m = machineId
  · subst hm
    cases hrow : s.clients m <;> simp [hrow]
  · simp [hm]

lemma heard_deliverTo (h : s.Heard) (ids : List JobId) : (s.deliverTo machineId ids).Heard := by
  unfold Streams.deliverTo Streams.deliver
  split
  · split
    · rename_i k hk
      split
      · exact h
      · exact h.update rfl (fun _ _ hears => hears) (h _ k hk)
    · exact h
  · exact h

lemma heard_setPhase (h : s.Heard) (hphase : s.Hears k.machineId phase) :
    (s.setPhase c k phase).Heard :=
  h.update rfl (fun _ _ hears => hears) hphase

/-- A step of a loop. -/
lemma Streams.Heard.loop (h : s.Heard) (hk : s.conns c = some k) (hloop : s.Loop c k s') :
    s'.Heard := by
  have hself : s.Hears k.machineId k.phase := h c k hk
  cases hloop with
  | goes phase hgoes =>
    refine heard_setPhase h ?_
    generalize hp : k.phase = old at hgoes hself
    cases hgoes with
    | stopped hnot => exact fun ha => absurd ha hnot
    -- an approval since the look at the client has its notification to come
    | listens => exact ⟨Nat.le_refl _, fun ha => Or.inr (hself ha)⟩
    | listensDefault takes => exact Nat.le_refl _
    | noneRouted takes seen => exact hself
    | waits takes seen hempty => exact ⟨hself, fun htakes hne => absurd (hempty htakes) hne⟩
    | _ => trivial
  | peer => exact h.update rfl (fun _ _ hears => hears) trivial
  | online =>
    exact h.update rfl (fun _ _ hears => hears.congr approved_setOnline.mp rfl rfl rfl id) trivial
  | counted => exact h.update rfl (fun _ _ hears => hears) trivial
  | drained ids =>
    have hgate : (s.setPhase c k .gate).Heard := heard_setPhase h trivial
    exact heard_deliverTo hgate ids
  | taken => exact h.update rfl (fun _ _ hears => hears) trivial
  | popped seen hp id rest hid =>
    -- the queue was not empty before either
    exact h.update rfl
      (fun _ _ hears => hears.congr (fun ha => ha) rfl rfl rfl fun _ => by simp [hid]) trivial
  | sent => exact h.update rfl (fun _ _ hears => hears) trivial
  | uncounted => exact h.update rfl (fun _ _ hears => hears) trivial
  | forgot => exact h.update rfl (fun _ _ hears => hears) trivial
  | kept => exact heard_setPhase h trivial
  | unregistered => exact h.update rfl (fun _ _ hears => hears) trivial
  | overtaken => exact heard_setPhase h trivial
  | offline =>
    exact h.update rfl (fun _ _ hears => hears.congr approved_setOnline.mp rfl rfl rfl id) trivial

/-- A step of the server, if the last notification of a pairing state is heard. -/
lemma Streams.Heard.move (h : s.Heard) (hmove : s.Move e s')
    (hlaw : s'.pairingNotified = s.pairingNotified + 1 → .notifyPairing ∉ s'.tasks →
      ∀ c k, s.conns c = some k → k.phase = .unapproved → ¬ s.Approved k.machineId)
    (hread : ∀ c k, e = .loopFails c → s.conns c = some k → k.phase = .gate →
      s.Approved k.machineId → .notifyPairing ∈ s.tasks) : s'.Heard := by
  cases hmove with
  | quiet => exact h
  | paired machineId state row hrow =>
    -- whoever is approved by this is about to be notified
    exact h.same rfl fun _ _ hears => hears.mono (fun _ => Or.inr (Multiset.mem_cons_self _ _))
      rfl rfl (fun _ hmem _ => Multiset.mem_cons_of_mem hmem) Or.inl
  | subscribed machineId driver row honline hknown hnew =>
    -- a subscribe approves nobody: it keeps the state of a known client, and a new one is pending
    have happroved : row.pairingState = .approved → s.Approved machineId := by
      intro ha
      cases hold : s.clients machineId with
      | none => exact absurd (ha.symm.trans (hnew hold)) (by simp)
      | some old => exact ⟨old, hold, (hknown old hold).symm.trans ha⟩
    exact h.same rfl fun _ _ hears =>
      hears.mono (fun ha => Or.inl (approved_setClient happroved ha)) rfl rfl
        (fun _ hmem _ => Multiset.mem_cons_of_mem hmem) Or.inl
  | touched machineId =>
    exact h.same rfl fun _ _ hears => hears.congr approved_setOnline.mp rfl rfl rfl id
  | refused place machineId row tasks htask =>
    refine h.same rfl fun _ _ hears =>
      hears.mono Or.inl rfl rfl (fun task hmem hnotify => ?_) Or.inl
    rw [htask, Multiset.mem_cons] at hmem
    rcases hmem with rfl | hmem
    · simp at hnotify
    · exact hmem
  | unwritten machineId =>
    exact h.same rfl fun _ _ hears => hears.mono Or.inl rfl rfl
      (fun _ hmem _ => Multiset.mem_cons_of_mem hmem) Or.inl
  | skipped c k hk phase hskips =>
    refine heard_setPhase h ?_
    generalize hp : k.phase = old at hskips
    cases hskips with
    -- a client whose row cannot be read waits as one that is not approved
    | unread => exact fun ha => hread c k rfl hk hp ha
    | _ => trivial
  | admitted e machineId tasks htask =>
    refine h.same rfl fun _ _ hears =>
      hears.mono Or.inl rfl rfl (fun task hmem hnotify => ?_) Or.inl
    rw [htask, Multiset.mem_cons] at hmem
    rcases hmem with rfl | hmem
    · simp at hnotify
    · exact Multiset.mem_cons_of_mem hmem
  | opened place machineId tasks htask =>
    refine h.update rfl (fun _ _ hears => hears.mono Or.inl rfl rfl (fun task hmem hnotify => ?_)
      Or.inl) trivial
    rw [htask, Multiset.mem_cons] at hmem
    rcases hmem with rfl | hmem
    · simp at hnotify
    · exact hmem
  | routed place machineId ids => exact heard_deliverTo h ids
  | queued place id =>
    -- the queue is not empty any more, and its notification is to come
    exact h.same rfl fun _ _ hears => hears.mono Or.inl rfl rfl
      (fun _ hmem _ => Multiset.mem_cons_of_mem hmem) fun _ => Or.inr (Multiset.mem_cons_self _ _)
  | notifiedDefault place tasks htask =>
    -- Every loop that listens to the default queue is woken.
    have hpairing : Task.notifyPairing ∈ s.tasks → .notifyPairing ∈ tasks := fun hmem => by
      simpa [htask] using hmem
    refine h.same rfl fun machineId phase hears => ?_
    unfold Streams.Hears at hears ⊢
    split at hears
    · exact fun ha => hpairing (hears ha)
    · exact ⟨hears.1, fun ha => (hears.2 ha).imp_right hpairing⟩
    · exact Nat.le_succ_of_le hears
    · exact Nat.le_succ_of_le hears
    · exact ⟨Nat.le_succ_of_le hears.1, fun _ _ => Or.inl (Nat.lt_succ_of_le hears.1)⟩
    · trivial
  | notifiedPairing place tasks htask =>
    have hdefault : Task.notifyDefault ∈ s.tasks → .notifyDefault ∈ tasks := fun hmem => by
      simpa [htask] using hmem
    intro c k hk
    have hears := h c k hk
    have hlast := hlaw rfl
    unfold Streams.Hears at hears ⊢
    split at hears
    · -- A loop that does not listen yet has a further notification to come, by the law.
      rename_i hp
      intro ha
      by_contra hnone
      exact hlast hnone c k hk hp ha
    · exact ⟨Nat.le_succ_of_le hears.1, fun _ => Or.inl (Nat.lt_succ_of_le hears.1)⟩
    · exact hears
    · exact hears
    · exact ⟨hears.1, fun htakes hne => (hears.2 htakes hne).imp_right hdefault⟩
    · trivial
  | loop c k hk s' hloop => exact h.loop hk hloop
  | woken => exact heard_setPhase h trivial
  | disconnected c k hk => exact h.update rfl (fun _ _ hears => hears) (h c k hk)
  | restarted =>
    intro c k hk
    cases hk

/-! ### Runs -/

lemma heard_of_reach (h : (printServer cfg d).Reach heardPairing w) : w.streams.Heard := by
  refine h.invariant (P := fun w => w.streams.Heard) ?_ fun a e b _ ha hstep hlaw => ?_
  · intro c k hk
    cases hk
  · refine ha.move (stream_of_step hstep) (fun hcount hnone => hlaw.1 hcount fun hmem => ?_)
      fun c k he hk hp happroved => (mem_streamTasks rfl).mpr (hlaw.2 c k he hk hp happroved)
    exact hnone ((mem_streamTasks rfl).mpr hmem)

/-- If no approval is missed between the look at the pairing state and the wait, or by a look that
fails, no loop waits for nothing: while one waits, its client is not approved, or there is no job
it could take, or a wake-up for it is pending. -/
theorem wake_up_pending (h : (printServer cfg d).Reach heardPairing w)
    (hk : w.conns c = some k) (hwaits : k.phase.waits = true) :
    ¬ w.Approved k.machineId ∨ w.couldTake k = false ∨ w.wakeUpPending k := by
  have hears := heard_of_reach h c k hk
  unfold Streams.Hears at hears
  cases hp : k.phase <;> rw [hp] at hears hwaits <;>
    simp only [Phase.waits, Bool.false_eq_true] at hwaits
  case waitPairing seen =>
    by_cases ha : w.Approved k.machineId
    · refine Or.inr (Or.inr ?_)
      simp only [ServerWorld.wakeUpPending, hp]
      exact (hears.2 ha).imp_right (mem_streamTasks rfl).mp
    · exact Or.inl ha
  case waiting takes seen =>
    by_cases hchannel : k.channel = []
    · by_cases hdefault : takes = true ∧ w.defaultPending ≠ []
      · refine Or.inr (Or.inr ?_)
        simp only [ServerWorld.wakeUpPending, hp]
        exact Or.inr ((hears.2 hdefault.1 hdefault.2).imp_right (mem_streamTasks rfl).mp)
      · refine Or.inr (Or.inl ?_)
        simp only [ServerWorld.couldTake, ServerWorld.takesDefault, hp, hchannel]
        cases takes <;> simp at hdefault ⊢
        exact hdefault
    · refine Or.inr (Or.inr ?_)
      simp only [ServerWorld.wakeUpPending, hp]
      exact Or.inl hchannel

/-! ### Two runs -/

/-- Whether the first connection is an approved one of `store`, waits for a pairing and could
take a job. -/
def ServerWorld.storeWaits (w : ServerWorld) : Bool :=
  (w.clients "store").any (·.pairingState == .approved) &&
    (w.conns 0).any fun k => k.machineId == "store" && k.phase.waits && w.couldTake k

/-- Whether the first connection waits for a pairing of which no notification is due. -/
def ServerWorld.storeUnheard (w : ServerWorld) : Bool :=
  !w.tasks.contains .notifyPairing && (w.conns 0).any fun k =>
    match k.phase with
    | .waitPairing seen => !decide (seen < w.pairingNotified)
    | _ => false

lemma waits_of_storeWaits (h : w.storeWaits = true) : ∃ k, w.conns 0 = some k ∧
    k.phase.waits = true ∧ w.Approved k.machineId ∧ w.couldTake k = true := by
  simp only [ServerWorld.storeWaits, Bool.and_eq_true, Option.any_eq_true, beq_iff_eq] at h
  obtain ⟨⟨row, hrow, happroved⟩, k, hk, ⟨hstore, hwaits⟩, htake⟩ := h
  exact ⟨k, hk, hwaits, ⟨row, hstore ▸ hrow, happroved⟩, htake⟩

/-- A test that no pairing notification is sent and no loop fails. -/
def nonePaired (w : ServerWorld) (e : ServerStep) (w' : ServerWorld) : Bool :=
  w'.pairingNotified != w.pairingNotified + 1 &&
    match e with
    | .loopFails _ => false
    | _ => true

lemma heardPairing_of_none (h : nonePaired w e w' = true) : heardPairing w e w' := by
  simp only [nonePaired, Bool.and_eq_true, bne_iff_ne] at h
  obtain ⟨hcount, hnofail⟩ := h
  refine ⟨fun heq => absurd heq hcount, ?_⟩
  rintro c k rfl
  cases hnofail

/-- A pending client has a job routed to it and is then approved: its loop waits, and will be
woken. -/
theorem wake_up_pending_approval : ∃ (w : ServerWorld) (k : Connection),
    (printServer ⟨3, 30⟩ .empty).Reach heardPairing w ∧ w.conns 0 = some k ∧
      k.phase.waits = true ∧ w.Approved k.machineId ∧ w.couldTake k = true ∧
        w.wakeUpPending k := by
  obtain ⟨w, hw, hgoal⟩ := (printServer ⟨3, 30⟩ .empty).reach_of_tests heardPairing
    ([.setPrinters pairedPrinter, .subscribe "store" none, .task 0, .task 0] ++
      List.replicate 7 (.loop 0) ++
      [.push (printRequest "kasa"), .task 0, .setPairing "store" .approved])
    ServerWorld.storeWaits (fun _ _ _ => heardPairing_of_none) (by decide +kernel)
    (by decide +kernel)
  obtain ⟨k, hk, hwaits, happroved, htake⟩ := waits_of_storeWaits hgoal
  have hpending := (wake_up_pending hw hk hwaits).resolve_left (not_not_intro happroved)
  exact ⟨w, k, hw, hk, hwaits, happroved, htake, hpending.resolve_left (by simp [htake])⟩

/-- A client is approved, and the notification sent, after its loop read the old state and
before it listens: it waits for good, approved and with a job in its channel. -/
theorem approval_unheard : ¬ ∀ (cfg : JobsConfig) (d : StoredData) (w : ServerWorld) (c : ConnId)
    (k : Connection), (printServer cfg d).Reach free w → w.conns c = some k →
      k.phase.waits = true →
        ¬ w.Approved k.machineId ∨ w.couldTake k = false ∨ w.wakeUpPending k := by
  intro h
  obtain ⟨w, hw, hgoal⟩ := (printServer ⟨3, 30⟩ .empty).reach_of_run
    ([.setPrinters pairedPrinter, .subscribe "store" none, .task 0, .task 0] ++
      List.replicate 6 (.loop 0) ++
      [.setPairing "store" .approved, .task 0, .loop 0, .push (printRequest "kasa"), .task 0])
    (fun w => w.storeWaits && w.storeUnheard) (by decide +kernel)
  rw [Bool.and_eq_true] at hgoal
  obtain ⟨k, hk, hwaits, happroved, htake⟩ := waits_of_storeWaits hgoal.1
  have hunheard := hgoal.2
  simp only [ServerWorld.storeUnheard, Bool.and_eq_true, Bool.not_eq_true', hk,
    Option.any_some] at hunheard
  rcases h _ _ w 0 k hw hk hwaits with hnot | hnone | hpending
  · exact hnot happroved
  · exact absurd (htake.symm.trans hnone) (by simp)
  · unfold ServerWorld.wakeUpPending at hpending
    split at hpending
    · rename_i seen hp
      rw [hp] at hunheard
      rcases hpending with hseen | hmem
      · simp [hseen] at hunheard
      · simp [hmem] at hunheard
    · rename_i hp
      simp [hp] at hunheard
    · exact hpending

end Server

end DevBridge

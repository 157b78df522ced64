import DevBridge.Server.Streams
import DevBridge.Server.Streamed

/-!
# The pairing gate

The loop of a stream reads the pairing state at the top of each round.  What it may take in the
rest of the round, it may take although its client is not approved any more: whatever is routed
to a loop that is past the gate is sent.  Nothing else is.
-/

namespace DevBridge

namespace Server

open Transition (free)

variable {cfg : JobsConfig} {d : StoredData} {w w' : ServerWorld} {s s' : Streams}
  {e : ServerStep} {c : ConnId} {k k' : Connection} {id : JobId} {machineId : String}

/-! ### Jobs in reach of a loop -/

/-- The loop was let through the gate, and has no job in its hands. -/
def Phase.pastGate : Phase → Bool
  | .approved _ | .polling _ _ | .tryDefault _ _ | .waiting _ _ => true
  | _ => false

/-- The loop looks at the default queue before it is at the gate again. -/
def Phase.popsDefault : Phase → Bool
  | .approved takes | .polling takes _ | .tryDefault takes _ => takes
  | _ => false

/-- The job in the hands of a loop. -/
def Phase.hand : Phase → Option JobId
  | .holding id | .sending id _ => some id
  | _ => none

/-- The loop has the job in its hands, or can take it without passing the gate. -/
def Streams.InReach (s : Streams) (k : Connection) (id : JobId) : Prop :=
  k.phase.hand = some id ∨ (k.phase.pastGate = true ∧ id ∈ k.channel) ∨
    (k.phase.popsDefault = true ∧ id ∈ s.pending)

/-- Whether the job is available to the stream: in the hands of its loop, in its channel, or in
the default queue. -/
def ServerWorld.available (w : ServerWorld) (k : Connection) (id : JobId) : Bool :=
  k.phase.hand == some id || k.channel.contains id || w.defaultPending.contains id

/-- Nothing is routed to a loop that is past the gate while its client is not approved. -/
def gatedRouting : Transition.Law ServerWorld ServerStep := fun w _ w' =>
  ∀ c k k', w.conns c = some k → w'.conns c = some k' → ¬ w.streams.Approved k.machineId →
    k.phase.pastGate = true → (∀ id ∈ k'.channel, id ∈ k.channel) ∧
      (k.phase.popsDefault = true → ∀ id ∈ w'.defaultPending, id ∈ w.defaultPending)

/-- The client of the stream is not approved after the step. -/
def staysUnapproved (c : ConnId) : Transition.Law ServerWorld ServerStep := fun _ _ w' =>
  ∀ k, w'.conns c = some k → ¬ w'.streams.Approved k.machineId

/-! ### Steps -/

/-- A loop whose phase stays has nothing more in reach. -/
lemma inReach_of_gated (h : s'.InReach k' id) (hphase : k'.phase = k.phase)
    (hgated : k.phase.pastGate = true → (∀ id ∈ k'.channel, id ∈ k.channel) ∧
      (k.phase.popsDefault = true → ∀ id ∈ s'.pending, id ∈ s.pending)) : s.InReach k id := by
  have hpast : k.phase.popsDefault = true → k.phase.pastGate = true := by
    cases k.phase <;> simp [Phase.popsDefault, Phase.pastGate]
  unfold Streams.InReach at h ⊢
  rw [hphase] at h
  rcases h with hhand | ⟨hgate, hid⟩ | ⟨hpops, hid⟩
  · exact Or.inl hhand
  · exact Or.inr (Or.inl ⟨hgate, (hgated hgate).1 id hid⟩)
  · exact Or.inr (Or.inr ⟨hpops, (hgated (hpast hpops)).2 hpops id hid⟩)

/-- A loop in a phase in which it takes nothing and holds nothing. -/
lemma not_inReach (hhand : k.phase.hand = none) (hpast : k.phase.pastGate = false)
    (hpops : k.phase.popsDefault = false) : ¬ s.InReach k id := by
  simp [Streams.InReach, hhand, hpast, hpops]

/-- What a step leaves out of reach of a loop, and what it sends on its stream. -/
structure Streams.Withheld (s s' : Streams) (c : ConnId) (id : JobId) : Prop where
  reach : ∀ k', s'.conns c = some k' → ¬ s'.InReach k' id
  sent : s'.sent.count (c, id) = s.sent.count (c, id)

lemma withheld_of_phase (hnot : ∀ k, s.conns c = some k → ¬ s.InReach k id)
    (hconns : ∀ k', s'.conns c = some k' → ∃ k, s.conns c = some k ∧ k'.phase = k.phase)
    (hgated : ∀ k k', s.conns c = some k → s'.conns c = some k' → k.phase.pastGate = true →
      (∀ id ∈ k'.channel, id ∈ k.channel) ∧
        (k.phase.popsDefault = true → ∀ id ∈ s'.pending, id ∈ s.pending))
    (hsent : s'.sent.count (c, id) = s.sent.count (c, id)) : s.Withheld s' c id := by
  refine ⟨fun k' hk' hreach => ?_, hsent⟩
  obtain ⟨k, hk, hphase⟩ := hconns k' hk'
  exact hnot k hk (inReach_of_gated hreach hphase (hgated k k' hk hk'))

/-- The loop itself goes on, and its client is not approved. -/
lemma withheld_loop (hnot : ¬ s.InReach k id)
    (hunapproved : ¬ s.Approved k.machineId) (h : s.Loop c k s') : s.Withheld s' c id := by
  have hset : ∀ {t : Streams} (k₁ : Connection), t.conns = Function.update s.conns c (some k₁) →
      t.sent.count (c, id) = s.sent.count (c, id) → ¬ t.InReach k₁ id → s.Withheld t c id := by
    intro t k₁ hconns hsent hreach
    refine ⟨fun k' hk' => ?_, hsent⟩
    rw [hconns, Function.update_self] at hk'
    exact Option.some.inj hk' ▸ hreach
  cases h with
  | goes phase hgoes =>
    refine hset _ rfl rfl ?_
    generalize hp : k.phase = old at hgoes
    simp only [Streams.InReach, hp] at hnot
    cases hgoes with
    | admitted row hrow happroved => exact absurd ⟨row, hrow, happroved⟩ hunapproved
    | listensDefault takes => exact hnot
    | noneRouted takes seen => exact hnot
    | waits takes seen =>
      rintro (hhand | ⟨-, hid⟩ | ⟨hpops, -⟩)
      · cases hhand
      · exact hnot (Or.inr (Or.inl ⟨rfl, hid⟩))
      · cases hpops
    | looked id' retryCount => exact hnot
    | _ => exact not_inReach rfl rfl rfl
  | taken hphase id' rest hid =>
    refine hset _ rfl rfl ?_
    have hpast : k.phase.pastGate = true := by
      rcases hphase with ⟨takes, seen, hp⟩ | ⟨takes, seen, hp⟩ <;> rw [hp] <;> rfl
    rintro (hhand | ⟨hpast', -⟩ | ⟨hpops, -⟩)
    · obtain rfl : id' = id := Option.some.inj hhand
      exact hnot (Or.inr (Or.inl ⟨hpast, by simp [hid]⟩))
    · cases hpast'
    · cases hpops
  | popped seen hp id' rest hid =>
    refine hset _ rfl rfl ?_
    rintro (hhand | ⟨hpast, -⟩ | ⟨hpops, -⟩)
    · obtain rfl : id' = id := Option.some.inj hhand
      exact hnot (Or.inr (Or.inr ⟨by rw [hp]; rfl, by simp [hid]⟩))
    · cases hpast
    · cases hpops
  | sent id' retryCount hp hc =>
    refine hset _ rfl ?_ (not_inReach rfl rfl rfl)
    have hne : id' ≠ id := by
      rintro rfl
      exact hnot (Or.inl (by rw [hp]; rfl))
    exact List.count_cons_of_ne fun heq => hne (Prod.mk.inj heq).2
  | drained ids hp =>
    refine ⟨fun k' hk' => ?_, ?_⟩
    · obtain ⟨k₁, hk₁, -, hphase⟩ := conns_deliverTo hk'
      rw [Streams.setPhase_conns, Function.update_self] at hk₁
      obtain rfl := Option.some.inj hk₁
      exact not_inReach (by rw [hphase]; rfl) (by rw [hphase]; rfl) (by rw [hphase]; rfl)
    · rw [sent_deliverTo]
      rfl
  | _ => exact hset _ rfl rfl (not_inReach rfl rfl rfl)

/-- A step while the client is not approved, and nothing is routed past the gate. -/
lemma withheld_move (hmove : s.Move e s')
    (hnot : ∀ k, s.conns c = some k → ¬ s.Approved k.machineId ∧ ¬ s.InReach k id)
    (hgated : ∀ k k', s.conns c = some k → s'.conns c = some k' → k.phase.pastGate = true →
      (∀ id ∈ k'.channel, id ∈ k.channel) ∧
        (k.phase.popsDefault = true → ∀ id ∈ s'.pending, id ∈ s.pending)) :
    s.Withheld s' c id := by
  have hreach : ∀ k, s.conns c = some k → ¬ s.InReach k id := fun k hk => (hnot k hk).2
  have hsame : s'.conns = s.conns → s'.sent = s.sent → s.Withheld s' c id :=
    fun hconns hsent => withheld_of_phase hreach (fun k' hk' => ⟨k', hconns ▸ hk', rfl⟩) hgated
      (by rw [hsent])
  cases hmove with
  | opened place machineId tasks =>
    refine ⟨fun k' hk' => ?_, rfl⟩
    by_cases hc : c = s.nextConn
    · rw [Streams.opened_conns, hc, Streams.withTasks_nextConn, Function.update_self] at hk'
      obtain rfl := Option.some.inj hk'
      exact not_inReach rfl rfl rfl
    · rw [Streams.opened_conns, Streams.withTasks_nextConn, Function.update_of_ne hc] at hk'
      exact hreach k' hk'
  | routed place machineId ids =>
    refine withheld_of_phase hreach (fun k' hk' => ?_) hgated ?_
    · obtain ⟨k, hk, -, hphase⟩ := conns_deliverTo hk'
      exact ⟨k, hk, hphase⟩
    · rw [sent_deliverTo]
  | loop c₀ k₀ hk₀ s' hloop =>
    by_cases hc : c = c₀
    · subst hc
      exact withheld_loop (hnot k₀ hk₀).2 (hnot k₀ hk₀).1 hloop
    · refine withheld_of_phase hreach (fun k' hk' => ?_) hgated ?_
      · obtain ⟨k, hk, -, hphase⟩ := hloop.conns_of_ne hc hk'
        exact ⟨k, hk, hphase⟩
      · cases hloop
        case drained ids _ => rw [sent_deliverTo]; rfl
        case sent id' _ _ _ => exact List.count_cons_of_ne fun heq => hc (Prod.mk.inj heq).1.symm
        all_goals rfl
  | woken c₀ k₀ hk₀ takes seen hp =>
    refine ⟨fun k' hk' => ?_, rfl⟩
    by_cases hc : c = c₀
    · subst hc
      rw [Streams.setPhase_conns, Function.update_self] at hk'
      obtain rfl := Option.some.inj hk'
      exact not_inReach rfl rfl rfl
    · rw [Streams.setPhase_conns, Function.update_of_ne hc] at hk'
      exact hreach k' hk'
  | disconnected c₀ k₀ hk₀ =>
    refine withheld_of_phase hreach (fun k' hk' => ?_) hgated rfl
    by_cases hc : c = c₀
    · subst hc
      rw [Streams.setConn_conns, Function.update_self] at hk'
      obtain rfl := Option.some.inj hk'
      exact ⟨k₀, hk₀, rfl⟩
    · rw [Streams.setConn_conns, Function.update_of_ne hc] at hk'
      exact ⟨k', hk', rfl⟩
  | restarted => exact ⟨fun k' hk' => (nomatch hk'), rfl⟩
  | skipped c₀ k₀ hk₀ phase hskips =>
    refine ⟨fun k' hk' => ?_, rfl⟩
    by_cases hc : c = c₀
    · subst hc
      rw [Streams.setPhase_conns, Function.update_self] at hk'
      obtain rfl := Option.some.inj hk'
      generalize k₀.phase = old at hskips
      cases hskips <;> exact not_inReach rfl rfl rfl
    · rw [Streams.setPhase_conns, Function.update_of_ne hc] at hk'
      exact hreach k' hk'
  | _ => exact hsame rfl rfl

/-! ### Runs -/

/-- How often the job was put on the stream. -/
def timesSent (c : ConnId) (id : JobId) (trace : List ServerEvent) : ℕ :=
  trace.countP (ServerEvent.sends c id)

lemma timesSent_eq (c : ConnId) (id : JobId) (w : ServerWorld) :
    timesSent c id w.trace = w.streams.sent.count (c, id) := by
  unfold timesSent
  change _ = (w.trace.filterMap ServerEvent.onStream).count (c, id)
  induction w.trace with
  | nil => rfl
  | cons event trace ih =>
    cases event with
    | sent c' id' state =>
      have hevent : ServerEvent.onStream (.sent c' id' state) = some (c', id') := rfl
      rw [List.countP_cons, ih, List.filterMap_cons_some hevent, List.count_cons]
      simp [ServerEvent.sends]
    | queued id' byStatus =>
      have hevent : ServerEvent.onStream (.queued id' byStatus) = none := rfl
      rw [List.countP_cons, ih, List.filterMap_cons_none hevent]
      simp [ServerEvent.sends]
    | leftFailed id' =>
      have hevent : ServerEvent.onStream (.leftFailed id') = none := rfl
      rw [List.countP_cons, ih, List.filterMap_cons_none hevent]
      simp [ServerEvent.sends]

/-- If nothing is routed to a loop past the gate whose client is not approved, a job that is not
in reach of a stream when its client stopped being approved is not sent on it until the client
is approved again. -/
theorem none_sent_unapproved
    (hnot : ∀ k, w.conns c = some k →
      ¬ w.streams.Approved k.machineId ∧ ¬ w.streams.InReach k id)
    (hl : (printServer cfg d).Leads
      (fun w e w' => gatedRouting w e w' ∧ staysUnapproved c w e w') w w') :
    timesSent c id w'.trace = timesSent c id w.trace := by
  suffices hkept : (∀ k, w'.conns c = some k →
      ¬ w'.streams.Approved k.machineId ∧ ¬ w'.streams.InReach k id) ∧
        timesSent c id w'.trace = timesSent c id w.trace from hkept.2
  induction hl with
  | refl => exact ⟨hnot, rfl⟩
  | tail hl hm ih =>
    obtain ⟨e, hstep, hgated, hstays⟩ := hm
    obtain ⟨hnot', hcount⟩ := ih
    have hwithheld := withheld_move (stream_of_step hstep) hnot' fun k k' hk hk' =>
      hgated c k k' hk hk' (hnot' k hk).1
    refine ⟨fun k hk => ⟨hstays k hk, hwithheld.reach k hk⟩, ?_⟩
    rw [timesSent_eq, hwithheld.sent, ← timesSent_eq, hcount]

/-! ### Two runs -/

/-- A test that no loop is past the gate, and that the client of a stream is not approved after
the step. -/
def heldBack (c : ConnId) (w : ServerWorld) (_ : ServerStep) (w' : ServerWorld) : Bool :=
  ((List.range w.nextConn).all fun c => (w.conns c).all fun k => !k.phase.pastGate) &&
    (w'.conns c).all fun k => !(w'.clients k.machineId).any (·.pairingState == .approved)

lemma staysUnapproved_of_test (h : (w'.conns c).all
    (fun k => !(w'.clients k.machineId).any (·.pairingState == .approved)) = true) :
    staysUnapproved c w e w' := by
  rintro k hk ⟨row, hrow, happroved⟩
  have hrow' : w'.clients k.machineId = some row := hrow
  simp [hk, hrow', happroved] at h

lemma gated_of_heldBack (hw : (printServer cfg d).Reach free w) (h : heldBack c w e w' = true) :
    gatedRouting w e w' ∧ staysUnapproved c w e w' := by
  rw [heldBack, Bool.and_eq_true] at h
  refine ⟨fun c k k' hk _ _ hpast => ?_, staysUnapproved_of_test h.2⟩
  have hc : c ∈ List.range w.nextConn :=
    List.mem_range.mpr ((placed_of_reach hw).fresh c k.line (lines_of_conns hk))
  have hgate := List.all_eq_true.mp h.1 c hc
  simp [hk, hpast] at hgate

/-- Whether the client of the first connection is not approved and the job is not available to
it. -/
def ServerWorld.storeRevoked (w : ServerWorld) (id : JobId) : Bool :=
  (w.conns 0).all fun k =>
    !(w.clients k.machineId).any (·.pairingState == .approved) && !w.available k id

lemma withheld_of_storeRevoked (h : w.storeRevoked id = true) : ∀ k, w.conns 0 = some k →
    ¬ w.streams.Approved k.machineId ∧ w.available k id = false := by
  intro k hk
  simp only [ServerWorld.storeRevoked, hk, Option.all_some, Bool.and_eq_true,
    Bool.not_eq_true'] at h
  refine ⟨?_, h.2⟩
  rintro ⟨row, hrow, happroved⟩
  have hrow' : w.clients k.machineId = some row := hrow
  simp [hrow', happroved] at h

/-- A job that is in reach of a loop is available to its stream. -/
lemma not_inReach_of_available (h : w.available k id = false) : ¬ w.streams.InReach k id := by
  simp only [ServerWorld.available, Bool.or_eq_false_iff, beq_eq_false_iff_ne,
    List.contains_eq_mem, decide_eq_false_iff_not] at h
  obtain ⟨⟨hhand, hchannel⟩, hpending⟩ := h
  rintro (hin | ⟨-, hin⟩ | ⟨-, hin⟩)
  · exact hhand hin
  · exact hchannel hin
  · exact hpending hin

/-- A client is sent a job, and rejected before its loop is at the gate again: the next job that
is routed to it stays in the channel, although the loop wakes up for the change. -/
theorem none_sent_unapproved_revoked : ∃ (w w' : ServerWorld) (k : Connection),
    (printServer ⟨3, 30⟩ .empty).Reach free w ∧ timesSent 0 0 w.trace = 1 ∧
      (printServer ⟨3, 30⟩ .empty).Leads
        (fun w e w' => gatedRouting w e w' ∧ staysUnapproved 0 w e w') w w' ∧
        w'.conns 0 = some k ∧ k.channel = [1] ∧ timesSent 0 1 w'.trace = timesSent 0 1 w.trace := by
  obtain ⟨w, w', hw, hl, hgoal⟩ := (printServer ⟨3, 30⟩ .empty).leads_of_lawful_runs
    (fun w e w' => gatedRouting w e w' ∧ staysUnapproved 0 w e w')
    (storeConnects ++ [.push (printRequest "kasa"), .task 0] ++ List.replicate 5 (.loop 0) ++
      [.setPairing "store" .rejected])
    ([.loop 0, .loop 0, .push (printRequest "kasa"), .task 0, .task 0] ++
      List.replicate 3 (.loop 0))
    (fun w w' => w.storeRevoked 1 && timesSent 0 0 w.trace == 1 &&
      (w'.conns 0).any fun k => k.channel == [1])
    (fun _ _ _ hreach _ => gated_of_heldBack hreach) (by decide +kernel)
  simp only [Bool.and_eq_true, Option.any_eq_true, beq_iff_eq] at hgoal
  obtain ⟨⟨hrevoked, hsent⟩, k, hk, hchannel⟩ := hgoal
  refine ⟨w, w', k, hw, hsent, hl, hk, hchannel, none_sent_unapproved (fun k hk => ?_) hl⟩
  obtain ⟨hnot, havailable⟩ := withheld_of_storeRevoked hrevoked k hk
  exact ⟨hnot, not_inReach_of_available havailable⟩

/-- The loop of an approved client waits; the client is rejected, and a job is pushed and routed
to it: the waiting loop takes it and sends it. -/
theorem revoked_client_gets_job : ¬ ∀ (cfg : JobsConfig) (d : StoredData) (w w' : ServerWorld)
    (c : ConnId) (id : JobId), (printServer cfg d).Reach free w →
      (∀ k, w.conns c = some k →
        ¬ w.streams.Approved k.machineId ∧ w.available k id = false) →
      (printServer cfg d).Leads (staysUnapproved c) w w' →
        timesSent c id w'.trace = timesSent c id w.trace := by
  intro h
  obtain ⟨w, w', hw, hl, hgoal⟩ := (printServer ⟨3, 30⟩ .empty).leads_of_lawful_runs
    (staysUnapproved 0)
    (storeConnects ++ List.replicate 4 (.loop 0) ++ [.setPairing "store" .rejected])
    ([.push (printRequest "kasa"), .task 0] ++ List.replicate 3 (.loop 0))
    (fun w w' => w.storeRevoked 0 && timesSent 0 0 w.trace == 0 && timesSent 0 0 w'.trace == 1)
    (fun _ _ _ _ _ => staysUnapproved_of_test) (by decide +kernel)
  simp only [Bool.and_eq_true, beq_iff_eq] at hgoal
  obtain ⟨⟨hrevoked, hbefore⟩, hafter⟩ := hgoal
  have hequal := h _ _ w w' 0 0 hw (withheld_of_storeRevoked hrevoked) hl
  rw [hbefore, hafter] at hequal
  exact absurd hequal (by decide)

end Server

end DevBridge

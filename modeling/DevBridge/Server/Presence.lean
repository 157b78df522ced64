import DevBridge.Server.Streams
import Mathlib.Data.Finset.Range
import Mathlib.Data.Multiset.Filter

/-!
# Connections of one client

A client may have several connections, the latest one of which is current.  Four records speak
of it: the registry, the recorded peers, the flag `is_online` and the count of the connected
clients.  Each is written in a step of its own, at the beginning and at the end of the life of a
connection.  Here a connection is only how far it is in its life, and a subscribe that has not
registered yet is a task.
-/

namespace DevBridge

namespace Server

/-! ### The life of a connection -/

/-- What the handler of a connection writes next, if it writes anything. -/
inductive Life where
  /-- It records its peer. -/
  | registered
  /-- It sets the client online. -/
  | recorded
  /-- It counts itself. -/
  | online
  /-- It drains. -/
  | opening
  /-- Its loop runs. -/
  | running
  /-- It counts itself off. -/
  | leaving
  /-- It forgets its peer. -/
  | uncounted
  /-- It looks whether it is current. -/
  | forgotten
  /-- It unregisters its channel. -/
  | active
  /-- It sets the client offline. -/
  | unregistered
  | closed
deriving DecidableEq, Repr

/-- What a connection leaves out when its write or its selection fails. -/
inductive Life.Skips : Life → Life → Prop where
  | recorded : Skips .recorded .online
  | opening : Skips .opening .running
  | unregistered : Skips .unregistered .closed

def Phase.life : Phase → Life
  | .registered => .registered
  | .peerRecorded => .recorded
  | .setOnline => .online
  | .counted | .draining _ => .opening
  | .gate | .unapproved | .approved _ | .waitPairing _ | .polling _ _ | .tryDefault _ _
  | .waiting _ _ | .holding _ | .sending _ _ => .running
  | .leaving => .leaving
  | .uncounted => .uncounted
  | .peerForgotten => .forgotten
  | .active => .active
  | .unregistered => .unregistered
  | .closed => .closed

/-- A subscribe that goes on to register. -/
def Task.ofSubscribe : Task → Bool
  | .checkPairing _ | .register _ => true
  | _ => false

/-- The connections of the clients, and what is recorded of them. -/
structure Presence where
  /-- The stored flag `is_online`, of the clients that have a row. -/
  online : String → Option Bool
  registry : String → Option ConnId
  /-- The client of a connection, and how far it is. -/
  lives : ConnId → Option (String × Life)
  nextConn : ConnId
  connectedClients : ℕ
  streamPeers : String → Option ConnId
  subscribes : Multiset Task

def subscribesOf (tasks : Multiset Task) : Multiset Task :=
  tasks.filter fun task => task.ofSubscribe = true

def Connection.life (k : Connection) : String × Life := (k.machineId, k.phase.life)

def Streams.presence (s : Streams) : Presence :=
  { online := fun machineId => (s.clients machineId).map ClientRow.isOnline
    registry := s.registry
    lives := fun c => (s.conns c).map Connection.life
    nextConn := s.nextConn
    connectedClients := s.connectedClients
    streamPeers := s.streamPeers
    subscribes := subscribesOf s.tasks }

def ServerWorld.presence (w : ServerWorld) : Presence := w.streams.presence

namespace Presence

variable (p : Presence)

@[simps] def setLife (c : ConnId) (machineId : String) (life : Life) : Presence :=
  { p with lives := Function.update p.lives c (some (machineId, life)) }

@[simps] def setOnline (machineId : String) (online : Bool) : Presence :=
  { p with
    online := Function.update p.online machineId ((p.online machineId).map fun _ => online) }

@[simps] def setPeer (machineId : String) (peer : Option ConnId) : Presence :=
  { p with streamPeers := Function.update p.streamPeers machineId peer }

@[simps] def setCount (count : ℕ) : Presence := { p with connectedClients := count }

@[simps] def unregister (machineId : String) : Presence :=
  { p with registry := Function.update p.registry machineId none }

@[simps] def withSubscribes (subscribes : Multiset Task) : Presence :=
  { p with subscribes := subscribes }

/-- A client has a row and is online. -/
@[simps] def appeared (machineId : String) : Presence :=
  { p with online := Function.update p.online machineId (some true) }

@[simps] def opened (machineId : String) : Presence :=
  { p with
    registry := Function.update p.registry machineId (some p.nextConn)
    lives := Function.update p.lives p.nextConn (some (machineId, .registered))
    nextConn := p.nextConn + 1 }

@[simps] def restarted : Presence :=
  { p with
    online := fun machineId => (p.online machineId).map fun _ => false
    registry := fun _ => none
    lives := fun _ => none
    connectedClients := 0
    streamPeers := fun _ => none
    subscribes := 0 }

/-- The next write of a connection; a closed one has none. -/
def advance (c : ConnId) (machineId : String) : Life → Presence
  | .registered => (p.setPeer machineId (some c)).setLife c machineId .recorded
  | .recorded => (p.setOnline machineId true).setLife c machineId .online
  | .online => (p.setCount (p.connectedClients + 1)).setLife c machineId .opening
  | .opening => p.setLife c machineId .running
  | .running => p.setLife c machineId .leaving
  | .leaving => (p.setCount (p.connectedClients - 1)).setLife c machineId .uncounted
  | .uncounted =>
    (if p.streamPeers machineId = some c then p.setPeer machineId none else p).setLife
      c machineId .forgotten
  | .forgotten =>
    p.setLife c machineId (if p.registry machineId = some c then .active else .closed)
  | .active =>
    (if p.registry machineId = some c then p.unregister machineId else p).setLife
      c machineId .unregistered
  | .unregistered => (p.setOnline machineId false).setLife c machineId .closed
  | .closed => p

/-- What a step does to the connections. -/
inductive Move : ServerStep → Presence → Prop where
  | quiet (e : ServerStep) : Move e p
  | subscribed (machineId : String) (driver : Option String) :
      Move (.subscribe machineId driver)
        ((p.appeared machineId).withSubscribes (.checkPairing machineId ::ₘ p.subscribes))
  | touched (machineId : String) : Move (.ping machineId) (p.setOnline machineId true)
  | refused (place : ℕ) (machineId : String) (subscribes : Multiset Task)
      (htask : p.subscribes = .checkPairing machineId ::ₘ subscribes) :
      Move (.task place) (p.withSubscribes subscribes)
  | admitted (e : ServerStep) (machineId : String) (subscribes : Multiset Task)
      (htask : p.subscribes = .checkPairing machineId ::ₘ subscribes) :
      Move e (p.withSubscribes (.register machineId ::ₘ subscribes))
  | opened (place : ℕ) (machineId : String) (subscribes : Multiset Task)
      (htask : p.subscribes = .register machineId ::ₘ subscribes) :
      Move (.task place) ((p.withSubscribes subscribes).opened machineId)
  | lived (c : ConnId) (machineId : String) (life : Life)
      (hlife : p.lives c = some (machineId, life)) : Move (.loop c) (p.advance c machineId life)
  | restarted : Move .restart p.restarted
  | unwritten (machineId : String) :
      Move (.subscribeUnwritten machineId)
        (p.withSubscribes (.checkPairing machineId ::ₘ p.subscribes))
  | skipped (c : ConnId) (machineId : String) (life life' : Life)
      (hlife : p.lives c = some (machineId, life)) (h : life.Skips life') :
      Move (.loopFails c) (p.setLife c machineId life')

end Presence

/-! ### Every step is a move -/

section Moves

variable {cfg : JobsConfig} {w w' : ServerWorld} {s s' : Streams} {e : ServerStep} {c : ConnId}
  {k k' : Connection} {machineId : String}

lemma lives_of_conns (hk : s.conns c = some k) :
    s.presence.lives c = some (k.machineId, k.phase.life) := by
  simp [Streams.presence, hk, Connection.life]

/-- A connection that is as far as before is not seen. -/
lemma presence_setConn (hk : s.conns c = some k) (hlife : k'.life = k.life) :
    (s.setConn c k').presence = s.presence := by
  have hlives : (fun c' => (Function.update s.conns c (some k') c').map Connection.life) =
      fun c' => (s.conns c').map Connection.life := by
    funext c'
    by_cases hc : c' = c
    · subst hc
      simp [hk, hlife]
    · simp [hc]
  simp only [Streams.presence, Streams.setConn, hlives]

lemma presence_setPhase (c : ConnId) (k : Connection) (phase : Phase) :
    (s.setPhase c k phase).presence = s.presence.setLife c k.machineId phase.life := by
  have hlives : (fun c' => (Function.update s.conns c (some { k with phase := phase }) c').map
      Connection.life) = Function.update (fun c' => (s.conns c').map Connection.life) c
        (some (k.machineId, phase.life)) := by
    funext c'
    by_cases hc : c' = c
    · subst hc
      simp [Connection.life]
    · simp [hc]
  simp only [Streams.presence, Streams.setPhase, Streams.setConn, Presence.setLife, hlives]

lemma presence_deliverTo (ids : List JobId) :
    (s.deliverTo machineId ids).presence = s.presence := by
  unfold Streams.deliverTo Streams.deliver
  split
  · split
    · rename_i k hk
      split
      · rfl
      · exact presence_setConn hk rfl
    · rfl
  · rfl

lemma presence_setOnline (online : Bool) :
    (s.setOnline machineId online).presence = s.presence.setOnline machineId online := by
  have honline : (fun m => (Function.update s.clients machineId ((s.clients machineId).map
      fun row => { row with isOnline := online }) m).map ClientRow.isOnline) =
        Function.update (fun m => (s.clients m).map ClientRow.isOnline) machineId
          (((s.clients machineId).map ClientRow.isOnline).map fun _ => online) := by
    funext m
    by_cases hm : m = machineId
    · subst hm
      cases s.clients m <;> simp
    · simp [hm]
  simp only [Streams.presence, Streams.setOnline, Presence.setOnline, honline]

lemma presence_setClient (machineId : String) (row : ClientRow) :
    (s.setClient machineId row).presence.online =
      Function.update s.presence.online machineId (some row.isOnline) := by
  funext m
  by_cases hm : m = machineId
  · subst hm
    simp [Streams.presence]
  · simp [Streams.presence, hm]

lemma life_of_goes {phase phase' : Phase} (h : s.Goes c k phase phase') :
    phase'.life = phase.life ∨ (phase.life = .running ∧ phase'.life = .leaving) ∨
      (phase = .peerForgotten ∧
        phase'.life = if s.registry k.machineId = some c then .active else .closed) := by
  cases h with
  | failed => exact Or.inr (Or.inl ⟨rfl, rfl⟩)
  | current hc => exact Or.inr (Or.inr ⟨rfl, (if_pos hc).symm⟩)
  | replaced hc => exact Or.inr (Or.inr ⟨rfl, (if_neg hc).symm⟩)
  | _ => exact Or.inl rfl

lemma presence_of_loop (hk : s.conns c = some k) (h : s.Loop c k s') :
    s.presence.Move (.loop c) s'.presence := by
  have hlives := lives_of_conns hk
  have hlived : ∀ {life : Life}, k.phase.life = life →
      s.presence.Move (.loop c) (s.presence.advance c k.machineId life) :=
    fun hlife => .lived c k.machineId _ (hlife ▸ hlives)
  have hquiet : ∀ {t : Streams} {phase : Phase}, t.presence = s.presence →
      t.conns c = some k → phase.life = k.phase.life →
        s.presence.Move (.loop c) (t.setPhase c k phase).presence := by
    intro t phase ht hkt hlife
    have hkept : (t.setPhase c k phase).presence = t.presence :=
      presence_setConn hkt (by simp [Connection.life, hlife])
    rw [hkept, ht]
    exact .quiet _
  cases h with
  | goes phase hgoes =>
    rcases life_of_goes hgoes with hsame | ⟨hrun, hleave⟩ | ⟨hp, hlife⟩
    · exact hquiet rfl hk hsame
    · rw [presence_setPhase, hleave]
      exact hlived hrun
    · rw [presence_setPhase, hlife]
      exact hlived (by rw [hp])
  | peer hp =>
    rw [presence_setPhase]
    exact hlived (by rw [hp])
  | online hp =>
    rw [presence_setPhase, presence_setOnline]
    exact hlived (by rw [hp])
  | counted hp =>
    rw [presence_setPhase]
    exact hlived (by rw [hp])
  | drained ids hp =>
    rw [presence_deliverTo, presence_setPhase]
    exact hlived (by rw [hp])
  | taken hp id rest hid =>
    have hlife : Phase.life (.holding id) = k.phase.life := by
      rcases hp with ⟨takes, seen, hp⟩ | ⟨takes, seen, hp⟩ <;> rw [hp] <;> rfl
    rw [presence_setConn hk (by simp [Connection.life, hlife])]
    exact .quiet _
  | popped seen hp id rest hid => exact hquiet (t := s.withPending rest) rfl hk (by rw [hp]; rfl)
  | sent id retryCount hp hc =>
    exact hquiet (t := { s with sent := (c, id) :: s.sent }) rfl hk (by rw [hp]; rfl)
  | uncounted hp =>
    rw [presence_setPhase]
    exact hlived (by rw [hp])
  | forgot hp hc =>
    rw [presence_setPhase]
    have hmove := hlived (show k.phase.life = .uncounted by rw [hp]; rfl)
    simp only [Presence.advance] at hmove
    rw [if_pos (show s.presence.streamPeers k.machineId = some c from hc)] at hmove
    exact hmove
  | kept hp hc =>
    rw [presence_setPhase]
    have hmove := hlived (show k.phase.life = .uncounted by rw [hp]; rfl)
    simp only [Presence.advance] at hmove
    rw [if_neg (show ¬ s.presence.streamPeers k.machineId = some c from hc)] at hmove
    exact hmove
  | unregistered hp hc =>
    rw [presence_setPhase]
    have hmove := hlived (show k.phase.life = .active by rw [hp]; rfl)
    simp only [Presence.advance] at hmove
    rw [if_pos (show s.presence.registry k.machineId = some c from hc)] at hmove
    exact hmove
  | overtaken hp hc =>
    rw [presence_setPhase]
    have hmove := hlived (show k.phase.life = .active by rw [hp]; rfl)
    simp only [Presence.advance] at hmove
    rw [if_neg (show ¬ s.presence.registry k.machineId = some c from hc)] at hmove
    exact hmove
  | offline hp =>
    rw [presence_setPhase, presence_setOnline]
    exact hlived (by rw [hp])

lemma subscribesOf_cons {task : Task} (tasks : Multiset Task) (h : task.ofSubscribe = true) :
    subscribesOf (task ::ₘ tasks) = task ::ₘ subscribesOf tasks :=
  Multiset.filter_cons_of_pos (p := fun task : Task => task.ofSubscribe = true) tasks h

/-- A task that is no subscribe is not seen. -/
lemma subscribesOf_cons_of_not {task : Task} (tasks : Multiset Task)
    (h : task.ofSubscribe = false) : subscribesOf (task ::ₘ tasks) = subscribesOf tasks :=
  Multiset.filter_cons_of_neg (p := fun task : Task => task.ofSubscribe = true) tasks (by simp [h])

lemma presence_withTasks (tasks : Multiset Task) :
    (s.withTasks tasks).presence = s.presence.withSubscribes (subscribesOf tasks) := rfl

/-- Every move of the streams is one of the connections. -/
theorem presence_of_move (h : s.Move e s') : s.presence.Move e s'.presence := by
  cases h with
  | quiet => exact .quiet _
  | paired machineId state row hrow =>
    -- the pairing state is no part of the presence
    have hkept : (s.setClient machineId { row with pairingState := state }).presence =
        s.presence := by
      have honline := presence_setClient (s := s) machineId
        { row with pairingState := state }
      rw [Function.update_eq_self_iff.mpr (by simp [Streams.presence, hrow])] at honline
      simp only [Streams.presence, Streams.setClient, Presence.mk.injEq, and_true] at honline ⊢
      exact honline
    rw [presence_withTasks, hkept, subscribesOf_cons_of_not _ rfl]
    exact .quiet _
  | subscribed machineId driver row honline hknown hnew =>
    have happeared : (s.setClient machineId row).presence = s.presence.appeared machineId := by
      have hrow := presence_setClient (s := s) machineId row
      rw [honline] at hrow
      simp only [Streams.presence, Streams.setClient, Presence.appeared, Presence.mk.injEq,
        and_true] at hrow ⊢
      exact hrow
    rw [presence_withTasks, happeared, subscribesOf_cons _ rfl]
    exact .subscribed machineId driver
  | touched machineId =>
    rw [presence_setOnline]
    exact .touched machineId
  | refused place machineId row tasks htask =>
    exact .refused place machineId _ ((congrArg subscribesOf htask).trans (subscribesOf_cons _ rfl))
  | admitted e machineId tasks htask =>
    rw [presence_withTasks, subscribesOf_cons _ rfl]
    exact .admitted e machineId _
      ((congrArg subscribesOf htask).trans (subscribesOf_cons _ rfl))
  | opened place machineId tasks htask =>
    -- the new connection starts its life registered
    have hlives : ((s.withTasks tasks).opened machineId).presence =
        (s.presence.withSubscribes (subscribesOf tasks)).opened machineId := by
      have hl : (fun c => (Function.update s.conns s.nextConn (some
          { machineId := machineId, channel := [], phase := .registered, connected := true }) c).map
            Connection.life) = Function.update (fun c => (s.conns c).map Connection.life) s.nextConn
              (some (machineId, .registered)) := by
        funext c
        by_cases hc : c = s.nextConn
        · subst hc
          simp [Connection.life, Phase.life]
        · simp [hc]
      simp only [Streams.presence, Streams.opened, Streams.withTasks, Presence.opened,
        Presence.withSubscribes, hl]
    rw [hlives]
    exact .opened place machineId _ ((congrArg subscribesOf htask).trans (subscribesOf_cons _ rfl))
  | routed place machineId ids =>
    rw [presence_deliverTo]
    exact .quiet _
  | queued place id =>
    rw [presence_withTasks, subscribesOf_cons_of_not _ rfl]
    exact .quiet _
  | notifiedDefault place tasks htask =>
    have hkept : subscribesOf tasks = subscribesOf s.tasks := by
      rw [htask, subscribesOf_cons_of_not _ rfl]
    rw [presence_withTasks, hkept]
    exact .quiet _
  | notifiedPairing place tasks htask =>
    have hkept : subscribesOf tasks = subscribesOf s.tasks := by
      rw [htask, subscribesOf_cons_of_not _ rfl]
    rw [presence_withTasks, hkept]
    exact .quiet _
  | loop c k hk s' hloop => exact presence_of_loop hk hloop
  | woken c k hk takes seen hp =>
    rw [show (s.setPhase c k .gate).presence = s.presence from
      presence_setConn hk (by simp [Connection.life, hp, Phase.life])]
    exact .quiet _
  | disconnected c k hk =>
    rw [show (s.setConn c { k with connected := false }).presence = s.presence from
      presence_setConn hk rfl]
    exact .quiet _
  | restarted pending =>
    have hrestarted : (s.restarted pending).presence = s.presence.restarted := by
      have honline : (fun m => ((s.clients m).map fun row => { row with isOnline := false }).map
          ClientRow.isOnline) =
          fun m => ((s.clients m).map ClientRow.isOnline).map fun _ => false := by
        funext m
        cases s.clients m <;> rfl
      simp only [Streams.presence, Streams.restarted, Presence.restarted, Presence.mk.injEq,
        honline]
      simp [subscribesOf]
    rw [hrestarted]
    exact .restarted
  | unwritten machineId =>
    rw [presence_withTasks, subscribesOf_cons _ rfl]
    exact .unwritten machineId
  | skipped c k hk phase hskips =>
    -- a failed read of a client or a job does not show in the life of the connection
    have hlives := lives_of_conns hk
    generalize hp : k.phase = old at hskips hlives
    have hquiet : phase.life = old.life → (s.setPhase c k phase).presence = s.presence := by
      intro hlife
      exact presence_setConn hk (by simp [Connection.life, hp, hlife])
    cases hskips with
    | unrecorded =>
      rw [presence_setPhase]
      exact .skipped c k.machineId _ _ hlives .recorded
    | undrained =>
      rw [presence_setPhase]
      exact .skipped c k.machineId _ _ hlives .opening
    | unread =>
      rw [hquiet rfl]
      exact .quiet _
    | unseen id =>
      rw [hquiet rfl]
      exact .quiet _
    | keptOnline =>
      rw [presence_setPhase]
      exact .skipped c k.machineId _ _ hlives .unregistered

end Moves

end Server

end DevBridge

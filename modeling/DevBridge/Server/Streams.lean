import DevBridge.Server.Moves

/-!
# The job streams

Everything that decides when the loop of a stream goes on: the registry, the recorded peers,
the rows of the clients, the channels, the default queue, the two notifications, and the
handlers that change them.  Most of what happens to jobs leaves it alone.  The other steps are
the moves below, one for each phase of a stream and each handler.
-/

namespace DevBridge

namespace Server

/-- A handler that a job stream may hear of. -/
def Task.ofStreams : Task → Bool
  | .checkPairing _ | .register _ | .notifyDefault | .notifyPairing => true
  | _ => false

/-- The job that was put on a stream, and the stream. -/
def ServerEvent.onStream : ServerEvent → Option (ConnId × JobId)
  | .sent c id _ => some (c, id)
  | _ => none

/-- The part of the server that the loops of the streams look at. -/
structure Streams where
  clients : String → Option ClientRow
  registry : String → Option ConnId
  conns : ConnId → Option Connection
  nextConn : ConnId
  pending : List JobId
  defaultNotified : ℕ
  pairingNotified : ℕ
  connectedClients : ℕ
  streamPeers : String → Option ConnId
  tasks : Multiset Task
  /-- What was put on a stream, the latest first. -/
  sent : List (ConnId × JobId)

def streamTasks (tasks : List Task) : Multiset Task := (tasks.filter Task.ofStreams : List Task)

def ServerWorld.streams (w : ServerWorld) : Streams :=
  { clients := w.clients
    registry := w.registry
    conns := w.conns
    nextConn := w.nextConn
    pending := w.defaultPending
    defaultNotified := w.defaultNotified
    pairingNotified := w.pairingNotified
    connectedClients := w.connectedClients
    streamPeers := w.streamPeers
    tasks := streamTasks w.tasks
    sent := w.trace.filterMap ServerEvent.onStream }

namespace Streams

variable (s : Streams)

@[simps] def setConn (c : ConnId) (k : Connection) : Streams :=
  { s with conns := Function.update s.conns c (some k) }

@[simps!] def setPhase (c : ConnId) (k : Connection) (phase : Phase) : Streams :=
  s.setConn c { k with phase := phase }

def deliver (c : ConnId) (ids : List JobId) : Streams :=
  match s.conns c with
  | some k =>
    if k.phase = .closed then s else s.setConn c { k with channel := k.channel ++ ids }
  | none => s

def deliverTo (machineId : String) (ids : List JobId) : Streams :=
  match s.registry machineId with
  | some c => s.deliver c ids
  | none => s

@[simps] def setClient (machineId : String) (row : ClientRow) : Streams :=
  { s with clients := Function.update s.clients machineId (some row) }

@[simps] def withTasks (tasks : Multiset Task) : Streams := { s with tasks := tasks }

@[simps] def withPending (pending : List JobId) : Streams := { s with pending := pending }

@[simps] def opened (machineId : String) : Streams :=
  { s with
    registry := Function.update s.registry machineId (some s.nextConn)
    conns := Function.update s.conns s.nextConn
      (some { machineId := machineId, channel := [], phase := .registered, connected := true })
    nextConn := s.nextConn + 1 }

@[simps] def restarted (pending : List JobId) : Streams :=
  { s with
    clients := fun machineId => (s.clients machineId).map fun row => { row with isOnline := false }
    registry := fun _ => none
    conns := fun _ => none
    pending := pending
    defaultNotified := 0
    pairingNotified := 0
    connectedClients := 0
    streamPeers := fun _ => none
    tasks := 0 }

/-- The stored pairing state of the client is `approved`. -/
def Approved (machineId : String) : Prop :=
  ∃ row, s.clients machineId = some row ∧ row.pairingState = .approved

/-- The connection with another `isOnline` in the row of its client. -/
@[simps] def setOnline (machineId : String) (online : Bool) : Streams :=
  { s with
    clients := Function.update s.clients machineId
      ((s.clients machineId).map fun row => { row with isOnline := online }) }

/-- The loop goes from one phase to another, and nothing else changes. -/
inductive Goes (c : ConnId) (k : Connection) : Phase → Phase → Prop where
  | select (ids : List JobId) : Goes c k .counted (.draining ids)
  | admitted (row : ClientRow) (hrow : s.clients k.machineId = some row)
      (h : row.pairingState = .approved) : Goes c k .gate (.approved row.takesDefaultQueue)
  | stopped (h : ¬ s.Approved k.machineId) : Goes c k .gate .unapproved
  | listens : Goes c k .unapproved (.waitPairing s.pairingNotified)
  | listensDefault (takes : Bool) : Goes c k (.approved takes) (.polling takes s.defaultNotified)
  | heard (seen : ℕ) (h : seen < s.pairingNotified) : Goes c k (.waitPairing seen) .gate
  | noneRouted (takes : Bool) (seen : ℕ) (h : k.channel = []) :
      Goes c k (.polling takes seen) (.tryDefault takes seen)
  | waits (takes : Bool) (seen : ℕ) (h : takes = true → s.pending = []) :
      Goes c k (.tryDefault takes seen) (.waiting takes seen)
  | looked (id : JobId) (retryCount : ℕ) : Goes c k (.holding id) (.sending id retryCount)
  | dropped (id : JobId) : Goes c k (.holding id) .gate
  | failed (id : JobId) (retryCount : ℕ) (h : k.connected = false) :
      Goes c k (.sending id retryCount) .leaving
  | current (h : s.registry k.machineId = some c) : Goes c k .peerForgotten .active
  | replaced (h : s.registry k.machineId ≠ some c) : Goes c k .peerForgotten .closed

/-- A step of the handler of a job stream. -/
inductive Loop (c : ConnId) (k : Connection) : Streams → Prop where
  | goes (phase : Phase) (h : s.Goes c k k.phase phase) : Loop c k (s.setPhase c k phase)
  | peer (h : k.phase = .registered) :
      Loop c k ({ s with
        streamPeers := Function.update s.streamPeers k.machineId (some c) }.setPhase
          c k .peerRecorded)
  | online (h : k.phase = .peerRecorded) :
      Loop c k ((s.setOnline k.machineId true).setPhase c k .setOnline)
  | counted (h : k.phase = .setOnline) :
      Loop c k ({ s with connectedClients := s.connectedClients + 1 }.setPhase c k .counted)
  | drained (ids : List JobId) (h : k.phase = .draining ids) :
      Loop c k ((s.setPhase c k .gate).deliverTo k.machineId ids)
  | taken (h : (∃ takes seen, k.phase = .polling takes seen) ∨
        ∃ takes seen, k.phase = .waiting takes seen)
      (id : JobId) (rest : List JobId) (hid : k.channel = id :: rest) :
      Loop c k (s.setConn c { k with channel := rest, phase := .holding id })
  | popped (seen : ℕ) (h : k.phase = .tryDefault true seen) (id : JobId) (rest : List JobId)
      (hid : s.pending = id :: rest) :
      Loop c k ((s.withPending rest).setPhase c k (.holding id))
  | sent (id : JobId) (retryCount : ℕ) (h : k.phase = .sending id retryCount)
      (hc : k.connected = true) :
      Loop c k ({ s with sent := (c, id) :: s.sent }.setPhase c k .gate)
  | uncounted (h : k.phase = .leaving) :
      Loop c k ({ s with connectedClients := s.connectedClients - 1 }.setPhase c k .uncounted)
  | forgot (h : k.phase = .uncounted) (hc : s.streamPeers k.machineId = some c) :
      Loop c k ({ s with streamPeers := Function.update s.streamPeers k.machineId none }.setPhase
        c k .peerForgotten)
  | kept (h : k.phase = .uncounted) (hc : s.streamPeers k.machineId ≠ some c) :
      Loop c k (s.setPhase c k .peerForgotten)
  | unregistered (h : k.phase = .active) (hc : s.registry k.machineId = some c) :
      Loop c k ({ s with registry := Function.update s.registry k.machineId none }.setPhase
        c k .unregistered)
  | overtaken (h : k.phase = .active) (hc : s.registry k.machineId ≠ some c) :
      Loop c k (s.setPhase c k .unregistered)
  | offline (h : k.phase = .unregistered) :
      Loop c k ((s.setOnline k.machineId false).setPhase c k .closed)

/-- Where the loop goes when its storage call fails. -/
inductive Skips : Phase → Phase → Prop where
  | unrecorded : Skips .peerRecorded .setOnline
  | undrained : Skips .counted .gate
  | unread : Skips .gate .unapproved
  | unseen (id : JobId) : Skips (.holding id) .gate
  | keptOnline : Skips .unregistered .closed

/-- What a step does to the streams. -/
inductive Move : ServerStep → Streams → Prop where
  | quiet (e : ServerStep) : Move e s
  | paired (machineId : String) (state : PairingState) (row : ClientRow)
      (hrow : s.clients machineId = some row) :
      Move (.setPairing machineId state)
        ((s.setClient machineId { row with pairingState := state }).withTasks
          (.notifyPairing ::ₘ s.tasks))
  | subscribed (machineId : String) (driver : Option String) (row : ClientRow)
      (honline : row.isOnline = true)
      (hknown : ∀ old, s.clients machineId = some old → row.pairingState = old.pairingState)
      (hnew : s.clients machineId = none → row.pairingState = .pending) :
      Move (.subscribe machineId driver)
        ((s.setClient machineId row).withTasks (.checkPairing machineId ::ₘ s.tasks))
  | touched (machineId : String) : Move (.ping machineId) (s.setOnline machineId true)
  | refused (place : ℕ) (machineId : String) (row : ClientRow) (tasks : Multiset Task)
      (htask : s.tasks = .checkPairing machineId ::ₘ tasks)
      (hrow : s.clients machineId = some row) (h : row.pairingState = .rejected) :
      Move (.task place) (s.withTasks tasks)
  /-- A client whose state cannot be read is let through, too. -/
  | admitted (e : ServerStep) (machineId : String) (tasks : Multiset Task)
      (htask : s.tasks = .checkPairing machineId ::ₘ tasks) :
      Move e (s.withTasks (.register machineId ::ₘ tasks))
  | opened (place : ℕ) (machineId : String) (tasks : Multiset Task)
      (htask : s.tasks = .register machineId ::ₘ tasks) :
      Move (.task place) ((s.withTasks tasks).opened machineId)
  | routed (place : ℕ) (machineId : String) (ids : List JobId) :
      Move (.task place) (s.deliverTo machineId ids)
  | queued (place : ℕ) (id : JobId) :
      Move (.task place)
        ((s.withPending (s.pending ++ [id])).withTasks (.notifyDefault ::ₘ s.tasks))
  | notifiedDefault (place : ℕ) (tasks : Multiset Task)
      (htask : s.tasks = .notifyDefault ::ₘ tasks) :
      Move (.task place)
        ({ s with defaultNotified := s.defaultNotified + 1 }.withTasks tasks)
  | notifiedPairing (place : ℕ) (tasks : Multiset Task)
      (htask : s.tasks = .notifyPairing ::ₘ tasks) :
      Move (.task place)
        ({ s with pairingNotified := s.pairingNotified + 1 }.withTasks tasks)
  | loop (c : ConnId) (k : Connection) (hk : s.conns c = some k) (s' : Streams)
      (h : s.Loop c k s') : Move (.loop c) s'
  | woken (c : ConnId) (k : Connection) (hk : s.conns c = some k) (takes : Bool) (seen : ℕ)
      (hphase : k.phase = .waiting takes seen) (h : seen < s.defaultNotified) :
      Move (.notified c) (s.setPhase c k .gate)
  | disconnected (c : ConnId) (k : Connection) (hk : s.conns c = some k) :
      Move (.disconnect c) (s.setConn c { k with connected := false })
  | restarted (pending : List JobId) : Move .restart (s.restarted pending)
  | unwritten (machineId : String) :
      Move (.subscribeUnwritten machineId) (s.withTasks (.checkPairing machineId ::ₘ s.tasks))
  | skipped (c : ConnId) (k : Connection) (hk : s.conns c = some k) (phase : Phase)
      (h : Skips k.phase phase) : Move (.loopFails c) (s.setPhase c k phase)

end Streams

/-! ### The operations on the streams -/

section Projections

variable {cfg : JobsConfig} {w w' : ServerWorld} {c : ConnId} {k : Connection} {task : Task}
  {place : ℕ}

lemma streams_setPhase (phase : Phase) :
    (w.setPhase c k phase).streams = w.streams.setPhase c k phase := rfl

lemma streams_deliver (ids : List JobId) :
    (w.deliver c ids).streams = w.streams.deliver c ids := by
  have hconns : w.streams.conns c = w.conns c := rfl
  unfold ServerWorld.deliver Streams.deliver
  rw [hconns]
  cases w.conns c with
  | none => rfl
  | some k =>
    change (if k.phase = .closed then w else _).streams = if k.phase = .closed then _ else _
    split <;> rfl

lemma streams_deliverTo (machineId : String) (ids : List JobId) :
    (w.deliverTo machineId ids).streams = w.streams.deliverTo machineId ids := by
  have hregistry : w.streams.registry machineId = w.registry machineId := rfl
  unfold ServerWorld.deliverTo Streams.deliverTo
  rw [hregistry]
  cases w.registry machineId with
  | none => rfl
  | some c => exact streams_deliver ids

lemma streams_addTask (h : task.ofStreams = true) :
    (w.addTask task).streams = w.streams.withTasks (task ::ₘ w.streams.tasks) := by
  simp [ServerWorld.streams, ServerWorld.addTask, Streams.withTasks, streamTasks, h]

/-- A task that has nothing to do with streams is not seen. -/
lemma streams_addTask_of_job (h : task.ofStreams = false) :
    (w.addTask task).streams = w.streams := by
  simp [ServerWorld.streams, ServerWorld.addTask, streamTasks, h]

lemma streams_goOn (rest : List (JobId × ℕ)) : (w.goOn rest).streams = w.streams := by
  unfold ServerWorld.goOn
  split
  · rfl
  · exact streams_addTask_of_job rfl

lemma streams_requeue (id : JobId) (errorDetail : String) (rest : List (JobId × ℕ)) :
    (w.requeue id errorDetail rest).streams = w.streams := by
  unfold ServerWorld.requeue
  split
  · rfl
  · exact streams_goOn rest

lemma streams_erase (h : w.tasks[place]? = some task) (hjob : task.ofStreams = false) :
    ({ w with tasks := w.tasks.eraseIdx place }).streams = w.streams := by
  have hperm := (perm_eraseIdx h).filter Task.ofStreams
  rw [List.filter_cons_of_neg (by simp [hjob])] at hperm
  have htasks : streamTasks (w.tasks.eraseIdx place) = streamTasks w.tasks :=
    (Multiset.coe_eq_coe.mpr hperm).symm
  simp only [ServerWorld.streams, htasks]

lemma streams_erase_of_stream (h : w.tasks[place]? = some task) (hstream : task.ofStreams = true) :
    ∃ tasks, w.streams.tasks = task ::ₘ tasks ∧
      ({ w with tasks := w.tasks.eraseIdx place }).streams = w.streams.withTasks tasks := by
  have hperm := (perm_eraseIdx h).filter Task.ofStreams
  rw [List.filter_cons_of_pos hstream] at hperm
  exact ⟨streamTasks (w.tasks.eraseIdx place), Multiset.coe_eq_coe.mpr hperm, rfl⟩

lemma streams_applyStatusUpdate (update : JobStatusUpdate) :
    (w.applyStatusUpdate update).streams = w.streams := by
  unfold ServerWorld.applyStatusUpdate
  simp only
  split
  · split <;> rfl
  · rfl

lemma streams_completeJob (completion : JobCompletion) :
    (w.completeJob completion).streams = w.streams := by
  have hfinish : ∀ id state, (w.finish id state).streams = w.streams := fun id state => by
    unfold ServerWorld.finish
    split <;> rfl
  unfold ServerWorld.completeJob
  split
  · exact hfinish _ _
  split
  · exact hfinish _ _
  split
  · rw [streams_addTask_of_job rfl]
    rfl
  · exact streams_addTask_of_job rfl
  · rfl

end Projections

/-! ### Every step is a move -/

section Moves

variable {cfg : JobsConfig} {w w' : ServerWorld} {c : ConnId} {k : Connection} {task : Task}
  {place : ℕ}

lemma stream_of_task (h : w.tasks[place]? = some task) :
    w.streams.Move (.task place)
      ({ w with tasks := w.tasks.eraseIdx place }.runTask cfg task).streams := by
  have hjob : ∀ v : ServerWorld, v.streams = w.streams → w.streams.Move (.task place) v.streams :=
    fun v hv => hv ▸ .quiet _
  cases htask : task with
  | checkPairing machineId =>
    obtain ⟨tasks, htasks, hstreams⟩ := streams_erase_of_stream h (by rw [htask]; rfl)
    rw [htask] at htasks
    simp only [ServerWorld.runTask, ServerWorld.checkPairing]
    split
    · rename_i hrejected
      obtain ⟨row, hrow, hstate⟩ := (Option.any_eq_true _ _).mp hrejected
      rw [hstreams]
      exact .refused place machineId row tasks htasks hrow (by simpa using hstate)
    · rw [streams_addTask rfl, hstreams]
      exact .admitted _ machineId tasks htasks
  | register machineId =>
    obtain ⟨tasks, htasks, hstreams⟩ := streams_erase_of_stream h (by rw [htask]; rfl)
    rw [htask] at htasks
    have hopened : (ServerWorld.registerClient { w with tasks := w.tasks.eraseIdx place }
        machineId).streams = ({ w with tasks := w.tasks.eraseIdx place }).streams.opened
          machineId := rfl
    rw [ServerWorld.runTask, hopened, hstreams]
    exact .opened place machineId tasks htasks
  | route id target rest =>
    have hkept := streams_erase h (by rw [htask]; rfl)
    simp only [ServerWorld.runTask]
    rw [streams_goOn]
    cases target with
    | some client =>
      rw [ServerWorld.route, streams_deliverTo, hkept]
      exact .routed place client [id]
    | none =>
      have hqueued :
          (ServerWorld.route { w with tasks := w.tasks.eraseIdx place } id none).streams =
            (({ w with tasks := w.tasks.eraseIdx place }).streams.withPending
              (w.defaultPending ++ [id])).withTasks
                (.notifyDefault ::ₘ ({ w with tasks := w.tasks.eraseIdx place }).streams.tasks) :=
        rfl
      rw [hqueued, hkept]
      exact .queued place id
  | notifyDefault =>
    obtain ⟨tasks, htasks, hstreams⟩ := streams_erase_of_stream h (by rw [htask]; rfl)
    rw [htask] at htasks
    have hmove := Streams.Move.notifiedDefault (s := w.streams) place tasks htasks
    change w.streams.Move (.task place) (Streams.withTasks
      { w.streams with defaultNotified := w.streams.defaultNotified + 1 }
        (streamTasks (w.tasks.eraseIdx place)))
    have htasks' : streamTasks (w.tasks.eraseIdx place) = tasks := congrArg Streams.tasks hstreams
    rw [htasks']
    exact hmove
  | notifyPairing =>
    obtain ⟨tasks, htasks, hstreams⟩ := streams_erase_of_stream h (by rw [htask]; rfl)
    rw [htask] at htasks
    have hmove := Streams.Move.notifiedPairing (s := w.streams) place tasks htasks
    change w.streams.Move (.task place) (Streams.withTasks
      { w.streams with pairingNotified := w.streams.pairingNotified + 1 }
        (streamTasks (w.tasks.eraseIdx place)))
    have htasks' : streamTasks (w.tasks.eraseIdx place) = tasks := congrArg Streams.tasks hstreams
    rw [htasks']
    exact hmove
  | marked id errorDetail =>
    refine hjob _ ?_
    have hkept := streams_erase h (by rw [htask]; rfl)
    simp only [ServerWorld.runTask, ServerWorld.scheduleRetry]
    split
    · split
      · rw [streams_addTask_of_job rfl, hkept]
      · exact hkept
    · exact hkept
  | unmarked id => exact hjob _ (streams_erase h (by rw [htask]; rfl))
  | delayed id attempt errorDetail =>
    exact hjob _ ((streams_requeue id errorDetail []).trans (streams_erase h (by rw [htask]; rfl)))
  | reap rest =>
    -- the reaper writes jobs, and routes them by a task of its own
    refine hjob _ ?_
    have hkept := streams_erase h (by rw [htask]; rfl)
    rcases rest with _ | ⟨⟨id, retryCount⟩, rest⟩
    · exact hkept
    · simp only [ServerWorld.runTask, ServerWorld.reapNext]
      split
      · exact (streams_requeue id _ rest).trans hkept
      · exact (streams_goOn rest).trans hkept

lemma stream_of_failTask (h : w.tasks[place]? = some task)
    (hfail : ({ w with tasks := w.tasks.eraseIdx place } : ServerWorld).failTask cfg task =
      some w') : w.streams.Move (.taskFails place) w'.streams := by
  cases htask : task with
  | checkPairing machineId =>
    subst htask
    obtain rfl := Option.some.inj hfail
    obtain ⟨tasks, htasks, hstreams⟩ := streams_erase_of_stream h rfl
    rw [streams_addTask rfl, hstreams]
    exact .admitted _ machineId tasks htasks
  | reap rest =>
    subst htask
    rcases rest with _ | ⟨⟨id, retryCount⟩, rest⟩
    · cases hfail
    · simp only [ServerWorld.failTask] at hfail
      split at hfail
      · obtain rfl := Option.some.inj hfail
        rw [streams_goOn, streams_erase h rfl]
        exact .quiet _
      · cases hfail
  | marked id errorDetail | unmarked id | delayed id attempt errorDetail =>
    subst htask
    obtain rfl := Option.some.inj hfail
    rw [streams_erase h rfl]
    exact .quiet _
  | register _ | route _ _ _ | notifyDefault | notifyPairing =>
    subst htask
    cases hfail

lemma streams_requeueUnread {id : JobId} {errorDetail : String} {rest : List (JobId × ℕ)}
    (h : w.requeueUnread id errorDetail rest = some w') : w'.streams = w.streams := by
  unfold ServerWorld.requeueUnread at h
  split at h
  · obtain rfl := Option.some.inj h
    rfl
  · cases h

lemma stream_of_failReadBack (h : w.tasks[place]? = some task)
    (hfail : ({ w with tasks := w.tasks.eraseIdx place } : ServerWorld).failReadBack cfg task =
      some w') : w'.streams = w.streams := by
  unfold ServerWorld.failReadBack at hfail
  split at hfail
  · exact (streams_requeueUnread hfail).trans (streams_erase h rfl)
  · split at hfail
    · exact (streams_requeueUnread hfail).trans (streams_erase h rfl)
    · cases hfail
  · cases hfail

lemma stream_of_takeRouted (h : w.takeRouted c k = some w') :
    ∃ id rest, k.channel = id :: rest ∧
      w'.streams = w.streams.setConn c { k with channel := rest, phase := .holding id } := by
  unfold ServerWorld.takeRouted at h
  split at h
  · rename_i id rest hid
    obtain rfl := Option.some.inj h
    exact ⟨id, rest, hid, rfl⟩
  · cases h

lemma channel_of_takeRouted (h : w.takeRouted c k = none) : k.channel = [] := by
  unfold ServerWorld.takeRouted at h
  split at h
  · cases h
  · assumption

lemma stream_of_loop (h : w.runLoop c k = some w') :
    w.streams.Loop c k w'.streams := by
  have hgoes : ∀ {phase : Phase}, w.streams.Goes c k k.phase phase →
      w.streams.Loop c k (w.setPhase c k phase).streams := fun hnext => .goes _ hnext
  cases hp : k.phase <;> simp only [ServerWorld.runLoop, hp, Option.some.injEq, reduceCtorEq] at h
  all_goals rw [hp] at hgoes
  case registered => exact h ▸ .peer hp
  case peerRecorded => exact h ▸ .online hp
  case setOnline => exact h ▸ .counted hp
  case counted => exact h ▸ hgoes (.select _)
  case draining ids =>
    rw [← h, streams_deliverTo, streams_setPhase]
    exact .drained ids hp
  case gate =>
    rw [← h]
    refine hgoes ?_
    unfold ServerWorld.gate
    split
    · rename_i row hrow
      split
      · rename_i happroved
        exact .admitted row hrow happroved
      · rename_i hnot
        refine .stopped ?_
        rintro ⟨row', hrow', happroved⟩
        obtain rfl : row = row' := Option.some.inj (hrow.symm.trans hrow')
        exact hnot happroved
    · rename_i hnone
      refine .stopped ?_
      rintro ⟨row', hrow', -⟩
      exact absurd (hnone.symm.trans hrow') (by simp)
  case unapproved => exact h ▸ hgoes .listens
  case approved takes => exact h ▸ hgoes (.listensDefault takes)
  case waitPairing seen =>
    split at h
    · rename_i hseen
      obtain rfl := Option.some.inj h
      exact hgoes (.heard seen hseen)
    · cases h
  case polling takes seen =>
    subst h
    cases ht : w.takeRouted c k with
    | none => exact hgoes (.noneRouted takes seen (channel_of_takeRouted ht))
    | some w₁ =>
      obtain ⟨id, rest, hid, hstreams⟩ := stream_of_takeRouted ht
      rw [Option.getD_some, hstreams]
      exact .taken (Or.inl ⟨takes, seen, hp⟩) id rest hid
  case tryDefault takes seen =>
    rw [← h]
    unfold ServerWorld.takeDefault
    cases hpending : w.defaultPending with
    | nil => exact hgoes (.waits takes seen fun _ => hpending)
    | cons id rest =>
      cases takes with
      | false => exact hgoes (.waits false seen (by rintro ⟨⟩))
      | true => exact .popped seen hp id rest hpending
  case waiting takes seen =>
    obtain ⟨id, rest, hid, hstreams⟩ := stream_of_takeRouted h
    rw [hstreams]
    exact .taken (Or.inr ⟨takes, seen, hp⟩) id rest hid
  case holding id =>
    rw [← h]
    refine hgoes ?_
    unfold ServerWorld.lookUp
    split
    · split
      · exact .looked id _
      · exact .dropped id
    · exact .dropped id
  case sending id retryCount =>
    rw [← h]
    unfold ServerWorld.sendJob
    split
    · rename_i hc
      exact .sent id retryCount hp hc
    · rename_i hc
      exact hgoes (.failed id retryCount (eq_false_of_ne_true hc))
  case leaving => exact h ▸ .uncounted hp
  case uncounted =>
    rw [← h]
    unfold ServerWorld.forgetPeer
    split
    · rename_i hpeer
      exact .forgot hp hpeer
    · rename_i hpeer
      exact .kept hp hpeer
  case peerForgotten =>
    rw [← h]
    unfold ServerWorld.isActiveConnection
    split
    · rename_i hactive
      exact hgoes (.current (beq_iff_eq.mp hactive))
    · rename_i hactive
      exact hgoes (.replaced fun hr => hactive (beq_iff_eq.mpr hr))
  case active =>
    rw [← h]
    unfold ServerWorld.unregisterClient
    split
    · rename_i hc
      exact .unregistered hp hc
    · rename_i hc
      exact .overtaken hp hc
  case unregistered => exact h ▸ .offline hp

lemma streams_upsertClient (machineId : String) (driver : Option String) :
    ∃ row : ClientRow, row.isOnline = true ∧
      (∀ old, w.clients machineId = some old → row.pairingState = old.pairingState) ∧
      (w.clients machineId = none → row.pairingState = .pending) ∧
      (w.upsertClient machineId driver).streams = w.streams.setClient machineId row := by
  cases hrow : w.clients machineId with
  | none =>
    exact ⟨_, rfl, fun old hold => (nomatch hold), fun _ => rfl, by
      simp only [ServerWorld.upsertClient, hrow]
      rfl⟩
  | some old =>
    refine ⟨{ old with
        isOnline := true
        virtualPrinterDriver := driver <|> old.virtualPrinterDriver }, rfl,
      fun old' hold => ?_, fun hnone => (nomatch hnone), ?_⟩
    · rw [← Option.some.inj hold]
    · simp only [ServerWorld.upsertClient, hrow]
      rfl

/-- Every step of the server is a move of the streams. -/
theorem stream_of_step {e : ServerStep} (h : w.step cfg e = some w') :
    w.streams.Move e w'.streams := by
  cases e <;> simp only [ServerWorld.step, Option.some.injEq, Option.map_eq_some_iff,
    Option.bind_eq_some_iff] at h
  case clock => exact h ▸ .quiet _
  case setPrinters => exact h ▸ .quiet _
  case setPairing machineId state =>
    obtain ⟨row, hrow, rfl⟩ := h
    rw [streams_addTask rfl]
    have hclients : (w.updatePairingState machineId state).streams =
        w.streams.setClient machineId { row with pairingState := state } := by
      simp only [ServerWorld.updatePairingState, ServerWorld.updateClient, hrow]
      rfl
    rw [hclients]
    exact .paired machineId state row hrow
  case push =>
    rw [← h]
    exact .quiet _
  case subscribe machineId driver =>
    obtain ⟨row, honline, hknown, hnew, hstreams⟩ := streams_upsertClient (w := w) machineId driver
    rw [← h, streams_addTask rfl, hstreams]
    exact .subscribed machineId driver row honline hknown hnew
  case ping machineId => exact h ▸ .touched machineId
  case task place =>
    obtain ⟨task, htask, rfl⟩ := h
    exact stream_of_task htask
  case loop c =>
    obtain ⟨k, hk, hrun⟩ := h
    exact .loop c k hk _ (stream_of_loop hrun)
  case notified c =>
    obtain ⟨k, hk, hwake⟩ := h
    unfold ServerWorld.wakeUp at hwake
    split at hwake
    · rename_i takes seen hp
      split at hwake
      · rename_i hseen
        obtain rfl := Option.some.inj hwake
        exact .woken c k hk takes seen hp hseen
      · cases hwake
    · cases hwake
  case disconnect c =>
    obtain ⟨k, hk, rfl⟩ := h
    exact .disconnected c k hk
  case status update =>
    rw [← h, streams_applyStatusUpdate]
    exact .quiet _
  case complete completion =>
    rw [← h, streams_completeJob]
    exact .quiet _
  case reap =>
    rw [← h, streams_goOn]
    exact .quiet _
  case clearJobs =>
    rw [← h]
    exact .quiet _
  case restart => exact h ▸ .restarted _
  case pushUnresolved =>
    rw [← h]
    exact .quiet _
  case subscribeUnwritten machineId =>
    rw [← h, streams_addTask rfl]
    exact .unwritten machineId
  case taskFails place =>
    obtain ⟨task, htask, hfail⟩ := h
    exact stream_of_failTask htask hfail
  case requeueUnread place =>
    obtain ⟨task, htask, hfail⟩ := h
    rw [stream_of_failReadBack htask hfail]
    exact .quiet _
  case loopFails c =>
    obtain ⟨k, hk, hfail⟩ := h
    have hskipped : ∀ {phase : Phase}, Streams.Skips k.phase phase →
        w.streams.Move (.loopFails c) (w.setPhase c k phase).streams :=
      fun hskips => .skipped c k hk _ hskips
    rcases failLoop_eq hfail with ⟨hp, rfl⟩ | ⟨hp, rfl⟩ | ⟨hp, rfl⟩ | ⟨id, hp, rfl⟩ | ⟨hp, rfl⟩ <;>
      refine hskipped ?_ <;> rw [hp]
    · exact .unrecorded
    · exact .undrained
    · exact .unread
    · exact .unseen id
    · exact .keptOnline

end Moves

/-! ### What a move leaves alone -/

section Kept

variable {s s' : Streams} {c c' : ConnId} {k k' : Connection} {machineId : String}

/-- A delivery changes channels only. -/
lemma conns_deliverTo {ids : List JobId} (h : (s.deliverTo machineId ids).conns c = some k') :
    ∃ k, s.conns c = some k ∧ k'.machineId = k.machineId ∧ k'.phase = k.phase := by
  unfold Streams.deliverTo Streams.deliver at h
  split at h
  · rename_i c₀ _
    split at h
    · rename_i k₀ hk₀
      split at h
      · exact ⟨k', h, rfl, rfl⟩
      · rw [Streams.setConn_conns] at h
        by_cases hc : c = c₀
        · subst hc
          rw [Function.update_self] at h
          obtain rfl := Option.some.inj h
          exact ⟨k₀, hk₀, rfl, rfl⟩
        · rw [Function.update_of_ne hc] at h
          exact ⟨k', h, rfl, rfl⟩
    · exact ⟨k', h, rfl, rfl⟩
  · exact ⟨k', h, rfl, rfl⟩

lemma sent_deliverTo {ids : List JobId} : (s.deliverTo machineId ids).sent = s.sent := by
  unfold Streams.deliverTo Streams.deliver
  split
  · split
    · split <;> rfl
    · rfl
  · rfl

/-- The loop of one connection leaves the others where they are. -/
lemma Streams.Loop.conns_of_ne (h : s.Loop c k s') (hc : c' ≠ c) (hk' : s'.conns c' = some k') :
    ∃ k, s.conns c' = some k ∧ k'.machineId = k.machineId ∧ k'.phase = k.phase := by
  cases h
  case drained ids _ =>
    obtain ⟨k₁, hk₁, hm, hp⟩ := conns_deliverTo hk'
    rw [Streams.setPhase_conns, Function.update_of_ne hc] at hk₁
    exact ⟨k₁, hk₁, hm, hp⟩
  all_goals
    refine ⟨k', ?_, rfl, rfl⟩
    simpa [hc] using hk'

end Kept

end Server

end DevBridge

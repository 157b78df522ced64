import DevBridge.Server.Paired
import DevBridge.Server.Routes

/-!
# A document reaches the printer it was sent to

A request is routed by the map alone, which is asked for the name as it stands in the path; a
miss goes to the default printer.  While no operation on its name is in progress, a document
goes to the printer that the database has under the name, if it has one.
-/

namespace DevBridge

namespace Server

variable {cfg : JobsConfig} {ipp : IppConfig} {d : StoredPrinters} {w w' : IppWorld}
  {e : IppStep} {vp : VirtualPrinter} {name : String} {task : PrinterTask}

/-! ### The rest of the server leaves the printers alone -/

section Frame

variable {v v' : ServerWorld}

lemma printers_deliverTo (machineId : String) (ids : List JobId) :
    (v.deliverTo machineId ids).printers = v.printers := by
  unfold ServerWorld.deliverTo ServerWorld.deliver
  split
  · split
    · split <;> rfl
    · rfl
  · rfl

lemma printers_goOn (rest : List (JobId × ℕ)) : (v.goOn rest).printers = v.printers := by
  unfold ServerWorld.goOn
  split <;> rfl

lemma printers_requeue (id : JobId) (errorDetail : String) (rest : List (JobId × ℕ)) :
    (v.requeue id errorDetail rest).printers = v.printers := by
  unfold ServerWorld.requeue
  split
  · rfl
  · exact printers_goOn rest

lemma printers_runTask (task : Task) : (v.runTask cfg task).printers = v.printers := by
  cases task with
  | checkPairing machineId =>
    simp only [ServerWorld.runTask, ServerWorld.checkPairing]
    split <;> rfl
  | register => rfl
  | route id target rest =>
    rw [ServerWorld.runTask, printers_goOn]
    cases target with
    | none => rfl
    | some client => exact printers_deliverTo client [id]
  | notifyDefault => rfl
  | notifyPairing => rfl
  | marked id errorDetail =>
    simp only [ServerWorld.runTask, ServerWorld.scheduleRetry]
    split
    · split <;> rfl
    · rfl
  | unmarked => rfl
  | delayed id attempt errorDetail => exact printers_requeue id errorDetail []
  | reap rest =>
    rcases rest with _ | ⟨⟨id, retryCount⟩, rest⟩
    · rfl
    · simp only [ServerWorld.runTask, ServerWorld.reapNext]
      split
      · exact printers_requeue id _ rest
      · exact printers_goOn rest

lemma printers_takeRouted {c : ConnId} {k : Connection} (h : v.takeRouted c k = some v') :
    v'.printers = v.printers := by
  unfold ServerWorld.takeRouted at h
  split at h
  · rw [← Option.some.inj h]
    rfl
  · cases h

lemma printers_runLoop {c : ConnId} {k : Connection} (h : v.runLoop c k = some v') :
    v'.printers = v.printers := by
  cases hp : k.phase <;>
    simp only [ServerWorld.runLoop, hp, Option.some.injEq, reduceCtorEq] at h
  case waiting => exact printers_takeRouted h
  case waitPairing =>
    split at h
    · rw [← Option.some.inj h]
      rfl
    · cases h
  case draining => exact h ▸ printers_deliverTo _ _
  case polling =>
    subst h
    cases ht : v.takeRouted c k with
    | none => rfl
    | some v' => exact printers_takeRouted ht
  case tryDefault =>
    subst h
    unfold ServerWorld.takeDefault
    split <;> rfl
  case sending =>
    subst h
    unfold ServerWorld.sendJob
    split <;> rfl
  case uncounted =>
    subst h
    unfold ServerWorld.forgetPeer
    split <;> rfl
  case active =>
    subst h
    unfold ServerWorld.unregisterClient
    split <;> rfl
  all_goals exact h ▸ rfl

/-- Only `setPrinters` changes the printers. -/
lemma printers_of_step {event : ServerStep} (h : v.step cfg event = some v')
    (hnot : ∀ printers, event ≠ .setPrinters printers) : v'.printers = v.printers := by
  cases event <;> simp only [ServerWorld.step, Option.some.injEq, Option.map_eq_some_iff,
    Option.bind_eq_some_iff] at h
  case setPrinters printers => exact absurd rfl (hnot printers)
  case task =>
    obtain ⟨task, -, rfl⟩ := h
    exact printers_runTask task
  case loop =>
    obtain ⟨k, -, hrun⟩ := h
    exact printers_runLoop hrun
  case notified =>
    obtain ⟨k, -, hwake⟩ := h
    unfold ServerWorld.wakeUp at hwake
    split at hwake
    · split at hwake
      · rw [← Option.some.inj hwake]
        rfl
      · cases hwake
    · cases hwake
  case disconnect =>
    obtain ⟨k, -, rfl⟩ := h
    rfl
  case status update =>
    subst h
    unfold ServerWorld.applyStatusUpdate
    simp only
    split
    · split <;> rfl
    · rfl
  case setPairing =>
    obtain ⟨row, -, rfl⟩ := h
    rfl
  case complete completion =>
    subst h
    unfold ServerWorld.completeJob ServerWorld.finish
    split
    · split <;> rfl
    · split
      · split <;> rfl
      · split <;> rfl
  case reap => exact h ▸ printers_goOn _
  case taskFails =>
    obtain ⟨task, -, hfail⟩ := h
    rw [failTask_eq hfail]
  case requeueUnread =>
    obtain ⟨task, -, hfail⟩ := h
    rw [failReadBack_eq hfail]
  case loopFails =>
    obtain ⟨k, -, hfail⟩ := h
    rcases failLoop_eq hfail with ⟨-, rfl⟩ | ⟨-, rfl⟩ | ⟨-, rfl⟩ | ⟨id, -, rfl⟩ | ⟨-, rfl⟩ <;> rfl
  all_goals exact h ▸ rfl

end Frame

/-! ### Runs -/

lemma unique_seeded (h : w.printers.Unique) : (w.seeded ipp).Unique := by
  unfold IppWorld.seeded
  split
  · constructor <;> simp
  · exact h

lemma routed_restarted (h : w.printers.Unique) : (w.restarted ipp).Routed :=
  ⟨unique_seeded h, agrees_loaded _⟩

lemma server_step {event : ServerStep} (h : w.step cfg ipp (.server event) = some w') :
    ∃ server, w.server.step cfg event = some server ∧ server.printers = w.server.printers ∧
      w' = { w with server := server } := by
  cases event
  case setPrinters => cases h
  case restart => cases h
  all_goals
    simp only [IppWorld.step, Option.map_eq_some_iff] at h
    obtain ⟨server, hserver, rfl⟩ := h
    exact ⟨server, hserver, printers_of_step hserver (by simp), rfl⟩

/-- New requests and jobs get numbers that are not in use. -/
structure IppWorld.Fresh (w : IppWorld) : Prop where
  requests : ∀ n handler, (n, handler) ∈ w.documents → n < w.nextRequest
  jobs : w.server.flow.Known

/-- A step that writes neither the table nor the map. -/
structure IppWorld.Aside (w w' : IppWorld) : Prop where
  printers : w'.printers = w.printers
  routes : w'.routes = w.routes
  tasks : w'.tasks = w.tasks ∨ (∃ task, task.writes = [] ∧ w'.tasks = task :: w.tasks) ∨
    ∃ place task, task.writes = [] ∧ w.tasks[place]? = some task ∧
      w'.tasks = w.tasks.eraseIdx place
  requests : w.nextRequest ≤ w'.nextRequest
  documents : ∀ n handler, (n, handler) ∈ w'.documents → n < w.nextRequest →
    (n, handler) ∈ w.documents
  fresh : w.Fresh → w'.Fresh

lemma IppWorld.Aside.of_eq (h : w'.printers = w.printers ∧ w'.routes = w.routes ∧
    w'.tasks = w.tasks ∧ w'.nextRequest = w.nextRequest ∧ w'.documents = w.documents)
    (hjobs : w.server.flow.Known → w'.server.flow.Known) : w.Aside w' := by
  obtain ⟨hprinters, hroutes, htasks, hrequests, hdocuments⟩ := h
  refine ⟨hprinters, hroutes, Or.inl htasks, hrequests.ge,
    fun n handler hmem _ => hdocuments ▸ hmem, fun hf => ⟨fun n handler hmem => ?_, hjobs hf.jobs⟩⟩
  rw [hrequests]
  exact hf.requests n handler (hdocuments ▸ hmem)

lemma IppWorld.Aside.refl (w : IppWorld) : w.Aside w :=
  .of_eq ⟨rfl, rfl, rfl, rfl, rfl⟩ fun hk => hk

/-- An operation starts. -/
lemma IppWorld.Aside.addTask (hwrites : task.writes = []) : w.Aside (w.addTask task) :=
  ⟨rfl, rfl, Or.inr (Or.inl ⟨task, hwrites, rfl⟩), le_rfl, fun _ _ hmem _ => hmem,
  fun hf => ⟨hf.requests, hf.jobs⟩⟩

/-- A document is queued, with a printer's client or without one. -/
lemma IppWorld.Aside.queued {place : ℕ} {event : ServerStep} {server : ServerWorld}
    (hpush : w.server.step cfg event = some server)
    (hprinters : server.printers = w.server.printers) :
    w.Aside { w with documents := w.documents.eraseIdx place, server := server } :=
  ⟨hprinters, rfl, Or.inl rfl, le_rfl, fun _ _ hmem _ => List.mem_of_mem_eraseIdx hmem,
    fun hf => ⟨fun n handler hmem => hf.requests n handler (List.mem_of_mem_eraseIdx hmem),
      hf.jobs.move (move_of_step hpush)⟩⟩

lemma PrinterTask.writes_of_stores (h : task.stores = true) : task.writes = [] := by
  cases task with
  | rename | add | remove => cases h
  | create | update | delete | approve => rfl

/-- What a step can do: a handler goes on, the process starts again, or neither the table nor
the map is written. -/
lemma step_cases (hstep : w.step cfg ipp e = some w') :
    (∃ place built task, e = .task place built ∧ w.tasks[place]? = some task ∧
        w' = { w with tasks := w.tasks.eraseIdx place }.runTask built task) ∨
      (e = .restart ∧ w' = w.restarted ipp) ∨ w.Aside w' := by
  cases e with
  | server event =>
    obtain ⟨server, hserver, hprinters, rfl⟩ := server_step hstep
    exact Or.inr (Or.inr (.of_eq ⟨hprinters, rfl, rfl, rfl, rfl⟩ fun hk =>
      hk.move (move_of_step hserver)))
  | create displayName pairedClientId driver =>
    obtain rfl := Option.some.inj hstep
    refine Or.inr (Or.inr ?_)
    unfold IppWorld.create
    split
    · exact .refl w
    · split
      · exact .refl w
      · exact ⟨rfl, rfl, Or.inr (Or.inl ⟨_, rfl, rfl⟩), le_rfl, fun _ _ hmem _ => hmem,
          fun hf => ⟨hf.requests, hf.jobs⟩⟩
  | update id displayName pairedClientId driver =>
    obtain rfl := Option.some.inj hstep
    refine Or.inr (Or.inr ?_)
    unfold IppWorld.update
    split
    · exact .refl w
    · simp only
      split
      · exact .addTask rfl
      · exact .refl w
  | delete id =>
    obtain rfl := Option.some.inj hstep
    refine Or.inr (Or.inr ?_)
    unfold IppWorld.delete
    split
    · exact .refl w
    · exact .addTask rfl
  | approve machineId virtualPrinterName virtualPrinterDriver =>
    obtain rfl := Option.some.inj hstep
    refine Or.inr (Or.inr ?_)
    unfold IppWorld.approve
    split
    · exact .refl w
    · split
      · exact .refl w
      · exact ⟨rfl, rfl, Or.inr (Or.inl ⟨_, rfl, rfl⟩), le_rfl, fun _ _ hmem _ => hmem,
          fun hf => ⟨hf.requests, hf.jobs⟩⟩
  | task place built =>
    obtain ⟨task, htask, rfl⟩ := Option.map_eq_some_iff.mp hstep
    exact Or.inl ⟨place, built, task, rfl, htask, rfl⟩
  | listen ippName =>
    refine Or.inr (Or.inr ?_)
    simp only [IppWorld.step] at hstep
    split at hstep
    · rw [← Option.some.inj hstep]
      exact .of_eq ⟨rfl, rfl, rfl, rfl, rfl⟩ fun hk => hk
    · cases hstep
  | request path =>
    obtain ⟨handler, -, rfl⟩ := Option.map_eq_some_iff.mp hstep
    refine Or.inr (Or.inr ⟨rfl, rfl, Or.inl rfl, Nat.le_succ _, fun n handler' hmem hlt => ?_,
      fun hf => ⟨fun n handler' hmem => ?_, hf.jobs⟩⟩)
    · rcases List.mem_cons.mp hmem with heq | hmem
      · exact absurd (Prod.mk.inj heq).1 hlt.ne
      · exact hmem
    · rcases List.mem_cons.mp hmem with heq | hmem
      · rw [(Prod.mk.inj heq).1]
        exact Nat.lt_succ_self _
      · exact Nat.lt_succ_of_lt (hf.requests n handler' hmem)
  | document place document =>
    obtain ⟨received, -, rfl⟩ := Option.map_eq_some_iff.mp hstep
    have hpush : w.server.step cfg (.push (received.2.job document)) =
      some (w.server.push (received.2.job document)) := rfl
    exact Or.inr (Or.inr (.queued hpush rfl))
  | abandon place =>
    obtain ⟨received, -, rfl⟩ := Option.map_eq_some_iff.mp hstep
    exact Or.inr (Or.inr ⟨rfl, rfl, Or.inl rfl, le_rfl,
      fun _ _ hmem _ => List.mem_of_mem_eraseIdx hmem,
      fun hf => ⟨fun n handler hmem => hf.requests n handler (List.mem_of_mem_eraseIdx hmem),
        hf.jobs⟩⟩)
  | restart =>
    obtain rfl := Option.some.inj hstep
    exact Or.inr (Or.inl ⟨rfl, rfl⟩)
  | documentUnresolved place document =>
    obtain ⟨received, -, rfl⟩ := Option.map_eq_some_iff.mp hstep
    have hpush : w.server.step cfg (.pushUnresolved (received.2.job document)) =
      some (w.server.pushUnresolved (received.2.job document)) := rfl
    exact Or.inr (Or.inr (.queued hpush rfl))
  | taskFails place =>
    obtain ⟨task, htask, rfl⟩ := Option.map_eq_some_iff.mp hstep
    obtain ⟨htask, hstores⟩ := Option.filter_eq_some_iff.mp htask
    refine Or.inr (Or.inr ⟨rfl, rfl, Or.inr (Or.inr ⟨place, task, ?_, htask, rfl⟩), le_rfl,
      fun _ _ hmem _ => hmem, fun hf => ⟨hf.requests, hf.jobs⟩⟩)
    exact PrinterTask.writes_of_stores hstores

lemma IppWorld.Routed.step (h : w.Routed) (hstep : w.step cfg ipp e = some w')
    (hlaw : w.InTurn e) : w'.Routed := by
  rcases step_cases hstep with ⟨place, built, task, rfl, htask, rfl⟩ | ⟨-, rfl⟩ | haside
  · exact h.runTask hlaw htask
  · exact routed_restarted h.unique
  · refine ⟨haside.printers ▸ h.unique, ?_⟩
    rw [haside.printers, haside.routes]
    rcases haside.tasks with
      htasks | ⟨task, hwrites, htasks⟩ | ⟨place, task, hwrites, htask, htasks⟩
    · rw [htasks]
      exact h.agrees
    · rw [htasks]
      exact (Agrees.cons_iff hwrites).mpr h.agrees
    · rw [htasks]
      exact (Agrees.cons_iff hwrites).mp (h.agrees.perm (perm_eraseIdx htask))

lemma routed_of_reach (h : (ippServer cfg ipp d).Reach operationsInTurn w) : w.Routed :=
  h.invariant (P := IppWorld.Routed) (routed_restarted d.unique) fun _ _ _ _ hr hstep hlaw =>
    hr.step hstep hlaw

/-! ### Requests -/

/-- The names that the operation of the handler is about. -/
def PrinterTask.names : PrinterTask → List String
  | .create vp => [vp.ippName]
  | .update vp renamedFrom => vp.ippName :: renamedFrom.toList
  | .delete _ ippName => [ippName]
  | .approve _ vp => (vp.map VirtualPrinter.ippName).toList
  | task => task.writes

/-- No operation on the name is in progress. -/
def IppWorld.Quiet (w : IppWorld) (name : String) : Prop := ∀ task ∈ w.tasks, name ∉ task.names

lemma writes_subset_names (task : PrinterTask) : task.writes ⊆ task.names := by
  cases task <;> simp [PrinterTask.writes, PrinterTask.names]

lemma IppWorld.Quiet.clear (h : w.Quiet name) : Clear w.tasks name := fun task htask hmem =>
  h task htask (writes_subset_names task hmem)

/-- Without an operation on a name, the printer of the name stays as it is. -/
lemma printer_kept (hr : w.Routed) (hlaw : w.InTurn e) (hstep : w.step cfg ipp e = some w')
    (hquiet : w.Quiet name) (hquiet' : w'.Quiet name) (hnot : e ≠ .restart) :
    w'.printers.byIppName name = w.printers.byIppName name := by
  rcases step_cases hstep with ⟨place, built, task, rfl, htask, rfl⟩ | ⟨rfl, -⟩ | haside
  · have hnames := hquiet task (List.mem_of_getElem? htask)
    cases task with
    | create vp =>
      -- A printer that is inserted is added to the map next.
      simp only [IppWorld.runTask] at hquiet' ⊢
      split at hquiet'
      · rename_i printers hprinters
        have hadded := hquiet' (.add vp) List.mem_cons_self
        have hne : name ≠ vp.ippName := by
          simpa [PrinterTask.names, PrinterTask.writes] using hadded
        exact (PrinterTable.byIppName_insertRow hr.unique hprinters).trans (if_neg hne)
      · rfl
    | update vp renamedFrom =>
      simp only [PrinterTask.names, List.mem_cons, Option.mem_toList, not_or] at hnames
      have hwritten : ∀ printers, w.printers.updateRow vp = some printers →
          printers.byIppName name = w.printers.byIppName name := by
        intro printers hprinters
        obtain ⟨row, hrow⟩ := PrinterTable.byId_of_updateRow hprinters
        obtain ⟨hfresh, -⟩ :=
          hlaw.updated place built vp renamedFrom printers row rfl htask hprinters hrow
        have hne : name ≠ row.ippName := by
          rw [hfresh]
          cases renamedFrom with
          | none => exact hnames.1
          | some oldIppName =>
            rintro rfl
            exact hnames.2 rfl
        rw [PrinterTable.byIppName_updateRow hr.unique hrow hprinters, if_neg hnames.1,
          if_neg hne]
      simp only [IppWorld.runTask]
      split
      · rename_i printers hprinters
        cases renamedFrom with
        | none => exact hwritten printers hprinters
        | some oldIppName => exact hwritten printers hprinters
      · rfl
    | rename => rfl
    | add vp =>
      simp only [IppWorld.runTask, IppWorld.addPrinter]
      split <;> rfl
    | delete id ippName =>
      simp only [IppWorld.runTask]
      split
      · rename_i printers hprinters
        obtain ⟨row, hrow⟩ := PrinterTable.byId_of_deleteRow hprinters
        obtain ⟨rfl, -⟩ := hlaw.deleted place built id ippName row rfl htask hrow
        have hne : name ≠ row.ippName := by simpa [PrinterTask.names] using hnames
        exact (PrinterTable.byIppName_deleteRow hr.unique hrow hprinters).trans (if_neg hne)
      · rfl
    | remove => rfl
    | approve machineId vp => cases vp <;> rfl
  · exact absurd rfl hnot
  · rw [haside.printers]

/-! ### Documents on their way -/

lemma runTask_kept (built : Bool) (task : PrinterTask) :
    (w.runTask built task).documents = w.documents ∧
      (w.runTask built task).nextRequest = w.nextRequest ∧
        (w.runTask built task).server.jobs = w.server.jobs ∧
          (w.runTask built task).server.nextJob = w.server.nextJob := by
  cases task with
  | create vp =>
    simp only [IppWorld.runTask]
    split <;> exact ⟨rfl, rfl, rfl, rfl⟩
  | update vp renamedFrom =>
    simp only [IppWorld.runTask]
    split
    · split <;> exact ⟨rfl, rfl, rfl, rfl⟩
    · exact ⟨rfl, rfl, rfl, rfl⟩
  | rename oldIppName vp => exact ⟨rfl, rfl, rfl, rfl⟩
  | add vp =>
    simp only [IppWorld.runTask, IppWorld.addPrinter]
    split <;> exact ⟨rfl, rfl, rfl, rfl⟩
  | delete id ippName =>
    simp only [IppWorld.runTask]
    split <;> exact ⟨rfl, rfl, rfl, rfl⟩
  | remove ippName => exact ⟨rfl, rfl, rfl, rfl⟩
  | approve machineId vp => cases vp <;> exact ⟨rfl, rfl, rfl, rfl⟩

/-- Request numbers do not repeat, and a restart ends every request. -/
lemma received_of_step {n : ℕ} (handler : JobHandler) (hstep : w.step cfg ipp e = some w')
    (hlt : n < w.nextRequest) : n < w'.nextRequest ∧ ((n, handler) ∈ w'.documents →
      (n, handler) ∈ w.documents ∧ e ≠ .restart) := by
  rcases step_cases hstep with ⟨place, built, task, rfl, htask, rfl⟩ | ⟨-, rfl⟩ | haside
  · obtain ⟨hdocuments, hrequests, -⟩ := runTask_kept (w := { w with
      tasks := w.tasks.eraseIdx place }) built task
    rw [hdocuments, hrequests]
    exact ⟨hlt, fun hmem => ⟨hmem, by simp⟩⟩
  · exact ⟨hlt, fun hmem => absurd hmem List.not_mem_nil⟩
  · refine ⟨hlt.trans_le haside.requests, fun hmem => ⟨haside.documents n handler hmem hlt, ?_⟩⟩
    rintro rfl
    obtain rfl := Option.some.inj hstep
    exact List.not_mem_nil hmem

lemma fresh_of_reach (h : (ippServer cfg ipp d).Reach operationsInTurn w) : w.Fresh := by
  refine h.invariant (P := IppWorld.Fresh) ⟨fun _ _ hmem => absurd hmem List.not_mem_nil, d.fresh⟩
    fun v e v' _ hf hstep _ => ?_
  rcases step_cases hstep with ⟨place, built, task, -, -, rfl⟩ | ⟨-, rfl⟩ | haside
  · obtain ⟨hdocuments, hrequests, hjobs, hnext⟩ := runTask_kept (w := { v with
      tasks := v.tasks.eraseIdx place }) built task
    refine ⟨fun n handler hmem => ?_, fun id row hrow => ?_⟩
    · rw [hdocuments] at hmem
      rw [hrequests]
      exact hf.requests n handler hmem
    · change Table.get? (ServerWorld.jobs _) id = some row at hrow
      rw [hjobs] at hrow
      change id < ServerWorld.nextJob _
      rw [hnext]
      exact hf.jobs id row hrow
  · exact ⟨fun n handler hmem => absurd hmem List.not_mem_nil, hf.jobs⟩
  · exact haside.fresh hf

/-- Operations come in turn, and none is in progress on the name that a path means. -/
def quietFor (name : String) : Transition.Law IppWorld IppStep := fun w e w' =>
  w.InTurn e ∧ ∀ decoded, percentDecode name = some decoded → w.Quiet decoded ∧ w'.Quiet decoded

/-- While a document is on its way, its handler and the printer of its name stay. -/
lemma received_kept {n : ℕ} {handler : JobHandler}
    (h : (ippServer cfg ipp d).Reach operationsInTurn w)
    (hl : (ippServer cfg ipp d).Leads (quietFor name) w w') (hlt : n < w.nextRequest) :
    n < w'.nextRequest ∧ ((n, handler) ∈ w'.documents → (n, handler) ∈ w.documents ∧
      ∀ decoded, percentDecode name = some decoded →
        w'.printers.byIppName decoded = w.printers.byIppName decoded) := by
  have hreach : ∀ v, (ippServer cfg ipp d).Leads (quietFor name) w v →
      (ippServer cfg ipp d).Reach operationsInTurn v := fun v hv =>
    h.leads (hv.mono fun _ _ _ hlaw => hlaw.1)
  induction hl with
  | refl => exact ⟨hlt, fun hmem => ⟨hmem, fun _ _ => rfl⟩⟩
  | tail hl hm ih =>
    obtain ⟨e, hstep, hlaw, hquiet⟩ := hm
    have hrec := received_of_step handler hstep ih.1
    refine ⟨hrec.1, fun hmem => ?_⟩
    obtain ⟨hmem, hnot⟩ := hrec.2 hmem
    obtain ⟨hmem, hsame⟩ := ih.2 hmem
    refine ⟨hmem, fun decoded hdecoded => ?_⟩
    obtain ⟨hq, hq'⟩ := hquiet decoded hdecoded
    exact (printer_kept (routed_of_reach (hreach _ hl)) hlaw hstep hq hq' hnot).trans
      (hsame decoded hdecoded)

/-- A document was queued for the printer that the database has under the name that the path
means. -/
def IppWorld.QueuedFor (name : String) (w w' : IppWorld) : Prop :=
  ∃ decoded vp row, percentDecode name = some decoded ∧
    w.printers.byIppName decoded = some vp ∧
      w'.server.jobs.get? w.server.nextJob = some row ∧ row.isQueued ∧
        row.targetPrinter = decoded ∧ row.targetClientId = vp.pairedClientId

/-- The database has a printer under the name that the path means.  The name needs no decoding,
or the map does not have it and the printer is the default one; and it is not the empty name
of a paired printer. -/
def IppWorld.Routable (w : IppWorld) (name : String) : Prop :=
  ∃ decoded vp, percentDecode name = some decoded ∧ w.printers.byIppName decoded = some vp ∧
    (name = decoded ∨ w.routes name = none ∧ w.defaultService = some ⟨decoded⟩) ∧
      (decoded = "" → vp.pairedClientId = none)

lemma percentBytes_of_plain {cs : List Char} (h : '%' ∉ cs) :
    percentBytes cs = cs.flatMap String.utf8EncodeChar := by
  induction cs with
  | nil => rfl
  | cons c cs ih =>
    rw [List.mem_cons, not_or] at h
    rw [percentBytes, ih h.2, List.flatMap_cons]
    intro a b rest hc
    exact absurd hc.symm h.1

/-- A name without a percent sign means itself. -/
lemma percentDecode_of_plain (h : '%' ∉ name.toList) : percentDecode name = some name := by
  have hbytes : (name.toList.flatMap String.utf8EncodeChar).toByteArray = name.toByteArray := by
    have hencode := String.toByteArray_ofList (l := name.toList)
    rw [String.ofList_toList] at hencode
    rw [hencode]
    rfl
  rw [percentDecode, percentBytes_of_plain h, hbytes, String.fromUTF8?, dif_pos name.isValidUTF8]
  rfl

/-- A printer with a plain name that is not empty is found under its name. -/
lemma routable_of_plain (h : '%' ∉ name.toList) (hne : name ≠ "")
    (hvp : w.printers.byIppName name = some vp) : w.Routable name :=
  ⟨name, vp, percentDecode_of_plain h, hvp, Or.inl rfl, fun hempty => absurd hempty hne⟩

lemma service_eq {path : String} {handler : JobHandler} (hname : requestedName path = some name)
    (h : w.service path = some handler) :
    w.routes name = some handler ∨ w.routes name = none ∧ w.defaultService = some handler := by
  simp only [IppWorld.service, hname, Option.map_eq_some_iff] at h
  obtain ⟨fallback, hfallback, rfl⟩ := h
  cases hroute : w.routes name with
  | none => exact Or.inr ⟨rfl, hfallback⟩
  | some handler => exact Or.inl rfl

/-- The client of a document's job is that of the printer its handler names. -/
lemma resolveTarget_job (v : ServerWorld) (handler : JobHandler) (document : JobDocument) :
    v.resolveTarget (handler.job document) = if handler.ippName = "" then none
      else (v.printers.byIppName handler.ippName).bind VirtualPrinter.pairedClientId := by
  unfold ServerWorld.resolveTarget JobHandler.job
  split
  · rfl
  · simp

/-- No printer of the name that the path means is paired. -/
def IppWorld.Unpaired (w : IppWorld) (name : String) : Prop :=
  ∀ decoded vp, percentDecode name = some decoded → w.printers.byIppName decoded = some vp →
    vp.pairedClientId = none

/-- The handler of a request is that of the printer the path means, if the printer is found under
its name. -/
lemma handler_eq_iff {path decoded : String} {handler : JobHandler} (hr : w.Routed)
    (hname : requestedName path = some name) (hquiet : w.Quiet decoded)
    (hservice : w.service path = some handler) (hvp : w.printers.byIppName decoded = some vp) :
    handler.ippName = decoded ↔
      name = decoded ∨ w.routes name = none ∧ w.defaultService = some ⟨decoded⟩ := by
  constructor
  · intro hprinter
    rcases service_eq hname hservice with hroute | ⟨hnone, hdefault⟩
    · exact Or.inl ((hr.agrees.own name handler hroute).symm.trans hprinter)
    · refine Or.inr ⟨hnone, ?_⟩
      rw [hdefault, ← hprinter]
  · intro hway
    rcases service_eq hname hservice with hroute | ⟨hnone, hdefault⟩
    · rcases hway with rfl | ⟨hnone, -⟩
      · exact hr.agrees.own name handler hroute
      · rw [hnone] at hroute
        cases hroute
    · rcases hway with rfl | ⟨-, hdefault'⟩
      · -- The map has every printer that no operation is about.
        have hsettled := hr.agrees.settled name hquiet.clear
        rw [hnone, PrinterTable.holds, hvp] at hsettled
        cases hsettled
      · rw [hdefault] at hdefault'
        rw [Option.some.inj hdefault']

/-- A document is queued for the printer that the handler names, with the client that was found
for it. -/
lemma queuedFor_iff {w₃ : IppWorld} {job : JobRow}
    (hrow : w₃.server.jobs.get? w.server.nextJob = some job) (hqueued : job.isQueued) :
    IppWorld.QueuedFor name w w₃ ↔ ∃ decoded vp, percentDecode name = some decoded ∧
      w.printers.byIppName decoded = some vp ∧ job.targetPrinter = decoded ∧
        job.targetClientId = vp.pairedClientId := by
  constructor
  · rintro ⟨decoded, vp, row, hdecoded, hvp, hget, -, hprinter, hclient⟩
    obtain rfl := Option.some.inj (hrow.symm.trans hget)
    exact ⟨decoded, vp, hdecoded, hvp, hprinter, hclient⟩
  · rintro ⟨decoded, vp, hdecoded, hvp, hprinter, hclient⟩
    exact ⟨decoded, vp, job, hdecoded, hvp, hrow, hqueued, hprinter, hclient⟩

/-- In a run in which operations come in turn: a document for a name, on which no operation is
in progress while it is on its way, is queued for the printer that the database has under the
name exactly when it is routable; and, if the lookup of the printer fails then, not paired. -/
theorem document_reaches_printer {w₁ w₂ : IppWorld} {path : String} {place : ℕ}
    {handler : JobHandler} {document : JobDocument}
    (h : (ippServer cfg ipp d).Reach operationsInTurn w)
    (hname : requestedName path = some name)
    (hquiet : ∀ decoded, percentDecode name = some decoded → w.Quiet decoded)
    (hrequest : w.step cfg ipp (.request path) = some w₁)
    (hl : (ippServer cfg ipp d).Leads (quietFor name) w₁ w₂)
    (hplace : w₂.documents[place]? = some (w.nextRequest, handler)) :
    (∀ w₃, w₂.step cfg ipp (.document place document) = some w₃ →
      (IppWorld.QueuedFor name w₂ w₃ ↔ w.Routable name)) ∧
    ∀ w₃, w₂.step cfg ipp (.documentUnresolved place document) = some w₃ →
      (IppWorld.QueuedFor name w₂ w₃ ↔ w.Routable name ∧ w.Unpaired name) := by
  have hr := routed_of_reach h
  have hlaw : w.InTurn (.request path) := by constructor <;> simp
  have hreach : (ippServer cfg ipp d).Reach operationsInTurn w₁ :=
    h.move ⟨.request path, hrequest, hlaw⟩
  obtain ⟨handler₁, hservice, rfl⟩ := Option.map_eq_some_iff.mp hrequest
  -- The handler is the one the request got.
  obtain ⟨hmem, hsame⟩ := (received_kept hreach hl (Nat.lt_succ_self _)).2
    (List.mem_of_getElem? hplace)
  obtain rfl : handler = handler₁ := by
    rcases List.mem_cons.mp hmem with heq | hmem
    · exact (Prod.mk.inj heq).2
    · exact absurd ((fresh_of_reach h).requests _ _ hmem) (lt_irrefl _)
  have hfresh : w₂.server.jobs.get? w₂.server.nextJob = none := by
    cases hget : w₂.server.jobs.get? w₂.server.nextJob with
    | none => rfl
    | some row =>
      have hlt := (fresh_of_reach (hreach.leads (hl.mono fun _ _ _ hlaw => hlaw.1))).jobs _ row hget
      exact absurd hlt (lt_irrefl _)
  have hway : ∀ decoded vp, percentDecode name = some decoded →
      w.printers.byIppName decoded = some vp → (handler.ippName = decoded ↔
        name = decoded ∨ w.routes name = none ∧ w.defaultService = some ⟨decoded⟩) :=
    fun decoded vp hdecoded => handler_eq_iff hr hname (hquiet decoded hdecoded) hservice
  refine ⟨fun w₃ hdocument => ?_, fun w₃ hdocument => ?_⟩
  · obtain ⟨received, hreceived, rfl⟩ := Option.map_eq_some_iff.mp hdocument
    obtain rfl := Option.some.inj (hplace.symm.trans hreceived)
    have hrow : (w₂.server.push (handler.job document)).jobs.get? w₂.server.nextJob =
        some (w₂.server.newRow (handler.job document)) := Table.get?_insert_self _ _ _ hfresh
    have htarget := resolveTarget_job w₂.server handler document
    rw [queuedFor_iff hrow rfl]
    change (∃ decoded vp, _ ∧ w₂.printers.byIppName decoded = some vp ∧
      handler.ippName = decoded ∧ w₂.server.resolveTarget _ = _) ↔ _
    constructor
    · rintro ⟨decoded, vp, hdecoded, hvp, hprinter, hclient⟩
      have hvp' := (hsame decoded hdecoded).symm.trans hvp
      refine ⟨decoded, vp, hdecoded, hvp', (hway decoded vp hdecoded hvp').mp hprinter, ?_⟩
      intro hempty
      rw [← hclient, htarget, if_pos (hprinter.trans hempty)]
    · rintro ⟨decoded, vp, hdecoded, hvp, hfound, hempty⟩
      have hprinter := (hway decoded vp hdecoded hvp).mpr hfound
      have hvp₂ : w₂.server.printers.byIppName decoded = some vp :=
        (hsame decoded hdecoded).trans hvp
      refine ⟨decoded, vp, hdecoded, hvp₂, hprinter, ?_⟩
      rw [htarget, hprinter, hvp₂]
      split
      · rename_i hnoname
        exact (hempty hnoname).symm
      · rfl
  · obtain ⟨received, hreceived, rfl⟩ := Option.map_eq_some_iff.mp hdocument
    obtain rfl := Option.some.inj (hplace.symm.trans hreceived)
    have hrow : (w₂.server.pushUnresolved (handler.job document)).jobs.get? w₂.server.nextJob =
        some { w₂.server.newRow (handler.job document) with targetClientId := none } :=
      Table.get?_insert_self _ _ _ hfresh
    rw [queuedFor_iff hrow rfl]
    change (∃ decoded vp, _ ∧ w₂.printers.byIppName decoded = some vp ∧
      handler.ippName = decoded ∧ none = _) ↔ _
    constructor
    · rintro ⟨decoded, vp, hdecoded, hvp, hprinter, hclient⟩
      have hvp' := (hsame decoded hdecoded).symm.trans hvp
      refine ⟨⟨decoded, vp, hdecoded, hvp', (hway decoded vp hdecoded hvp').mp hprinter,
        fun _ => hclient.symm⟩, ?_⟩
      intro other row hother hrow
      obtain rfl := Option.some.inj (hdecoded.symm.trans hother)
      obtain rfl := Option.some.inj (hvp'.symm.trans hrow)
      exact hclient.symm
    · rintro ⟨⟨decoded, vp, hdecoded, hvp, hfound, -⟩, hunpaired⟩
      exact ⟨decoded, vp, hdecoded, (hsame decoded hdecoded).trans hvp,
        (hway decoded vp hdecoded hvp).mpr hfound, (hunpaired decoded vp hdecoded hvp).symm⟩

/-! ### Two runs -/

/-- Letters and digits of ASCII. -/
def asciiTables : UnicodeTables where
  toLowercase := fun s => String.ofList (s.toList.map Char.toLower)
  isAlphanumeric := Char.isAlphanum

def kasaPrinter : VirtualPrinter :=
  { id := 0, displayName := "Kasa", ippName := "kasa", pairedClientId := some "store" }

def skladPrinter : VirtualPrinter :=
  { id := 1, displayName := "Sklad", ippName := "sklad", pairedClientId := some "warehouse" }

/-- A database with two paired printers. -/
def twoPrinters : StoredPrinters where
  toStoredData := { StoredData.empty with printers := [kasaPrinter, skladPrinter] }
  nextPrinter := 2
  unique := by constructor <;> simp [kasaPrinter, skladPrinter]

def printRequestDocument : JobDocument := (printRequest "").document

/-- Whether no handler still has to write the name in the map. -/
def IppWorld.isClear (w : IppWorld) (name : String) : Bool :=
  w.tasks.all fun task => !task.writes.contains name

/-- A test that operations come in turn. -/
def keepsTurn (w : IppWorld) (e : IppStep) (_ : IppWorld) : Bool :=
  match e with
  | .task place built => w.tasks[place]?.all fun task =>
    match task with
    | .add _ => built
    | .create vp => w.isClear vp.ippName
    | .update vp renamedFrom => (w.printers.byId vp.id).all fun row =>
      row.ippName == renamedFrom.getD vp.ippName && w.isClear row.ippName && w.isClear vp.ippName
    | .delete id ippName => (w.printers.byId id).all fun row =>
      row.ippName == ippName && w.isClear ippName
    | _ => true
  | _ => true

lemma clear_of_isClear (h : w.isClear name = true) : Clear w.tasks name := by
  intro task htask hmem
  have hnot := List.all_eq_true.mp h task htask
  simp [hmem] at hnot

lemma inTurn_of_keeps (v : IppWorld) (h : keepsTurn w e v = true) : w.InTurn e := by
  refine ⟨?_, ?_, ?_, ?_⟩
  · rintro place vp rfl htask
    simp [keepsTurn, htask] at h
  · rintro place built vp printers rfl htask -
    simp only [keepsTurn, htask, Option.all_some] at h
    exact clear_of_isClear h
  · rintro place built vp renamedFrom printers row rfl htask - hrow
    simp only [keepsTurn, htask, hrow, Option.all_some, Bool.and_eq_true, beq_iff_eq] at h
    exact ⟨h.1.1, fun _ => ⟨clear_of_isClear h.1.2, clear_of_isClear h.2⟩⟩
  · rintro place built id ippName row rfl htask hrow
    simp only [keepsTurn, htask, hrow, Option.all_some, Bool.and_eq_true, beq_iff_eq] at h
    exact ⟨h.1, clear_of_isClear h.2⟩

/-- The printer of the warehouse gets another name, and a document for that name is queued for
the warehouse. -/
theorem document_reaches_printer_renamed : ∃ w w₁ w₂ : IppWorld,
    (ippServer ⟨3, 30⟩ ⟨asciiTables, "Pokladna"⟩ twoPrinters).Reach operationsInTurn w ∧
      w.step ⟨3, 30⟩ ⟨asciiTables, "Pokladna"⟩ (.request "/printers/velky-sklad") = some w₁ ∧
        w₁.step ⟨3, 30⟩ ⟨asciiTables, "Pokladna"⟩ (.document 0 printRequestDocument) = some w₂ ∧
          IppWorld.QueuedFor "velky-sklad" w₁ w₂ := by
  obtain ⟨w, hw, hgoal⟩ :=
    (ippServer ⟨3, 30⟩ ⟨asciiTables, "Pokladna"⟩ twoPrinters).reach_of_tests operationsInTurn
    [.listen "kasa", .update 1 (some "Velky sklad") none none, .task 0 true, .task 0 true,
      .task 0 true]
    (fun w => w.tasks == [] && w.nextRequest == 0 && w.printers.byIppName "velky-sklad" ==
      some { skladPrinter with displayName := "Velky sklad", ippName := "velky-sklad" } &&
      ((w.step ⟨3, 30⟩ ⟨asciiTables, "Pokladna"⟩ (.request "/printers/velky-sklad")).any fun w₁ =>
        w₁.documents[0]? == some (0, ⟨"velky-sklad"⟩) &&
          (w₁.step ⟨3, 30⟩ ⟨asciiTables, "Pokladna"⟩ (.document 0 printRequestDocument)).isSome))
    (fun _ _ v => inTurn_of_keeps v) (by decide +kernel) (by decide +kernel)
  simp only [Bool.and_eq_true, Option.any_eq_true, beq_iff_eq, Option.isSome_iff_exists] at hgoal
  obtain ⟨⟨⟨htasks, hnext⟩, hprinter⟩, w₁, hrequest, hplace, w₂, hdocument⟩ := hgoal
  have hdecoded : percentDecode "velky-sklad" = some "velky-sklad" := by decide +kernel
  have hplace' : w₁.documents[0]? = some (w.nextRequest, ⟨"velky-sklad"⟩) := by
    rw [hnext]
    exact hplace
  refine ⟨w, w₁, w₂, hw, hrequest, hdocument, ?_⟩
  refine ((document_reaches_printer hw (by decide +kernel) (fun decoded _ task htask => ?_) hrequest
    .refl hplace').1 w₂ hdocument).mpr ⟨_, _, hdecoded, hprinter, Or.inl rfl, by simp⟩
  simp [htasks] at htask

/-- The printer of the warehouse is deleted, and a document for it is queued for the store. -/
theorem deleted_printer_falls_back : ∃ w w₁ w₂ : IppWorld,
    (ippServer ⟨3, 30⟩ ⟨asciiTables, "Pokladna"⟩ twoPrinters).Reach operationsInTurn w ∧
      w.tasks = [] ∧ w.printers.byIppName "sklad" = none ∧
      w.step ⟨3, 30⟩ ⟨asciiTables, "Pokladna"⟩ (.request "/printers/sklad") = some w₁ ∧
        w₁.step ⟨3, 30⟩ ⟨asciiTables, "Pokladna"⟩ (.document 0 printRequestDocument) = some w₂ ∧
          ∃ row, w₂.server.jobs.get? w₁.server.nextJob = some row ∧
            row.targetPrinter = "kasa" ∧ row.targetClientId = some "store" := by
  obtain ⟨w, hw, hgoal⟩ :=
    (ippServer ⟨3, 30⟩ ⟨asciiTables, "Pokladna"⟩ twoPrinters).reach_of_tests operationsInTurn
    [.listen "kasa", .delete 1, .task 0 true, .task 0 true]
    (fun w => w.tasks == [] && w.printers.byIppName "sklad" == none &&
      ((w.step ⟨3, 30⟩ ⟨asciiTables, "Pokladna"⟩ (.request "/printers/sklad")).any fun w₁ =>
        (w₁.step ⟨3, 30⟩ ⟨asciiTables, "Pokladna"⟩ (.document 0 printRequestDocument)).any fun w₂ =>
          (w₂.server.jobs.get? w₁.server.nextJob).any fun row =>
            row.targetPrinter == "kasa" && row.targetClientId == some "store"))
    (fun _ _ v => inTurn_of_keeps v) (by decide +kernel) (by decide +kernel)
  simp only [Bool.and_eq_true, Option.any_eq_true, beq_iff_eq] at hgoal
  obtain ⟨⟨htasks, hprinter⟩, w₁, hrequest, w₂, hdocument, hrow⟩ := hgoal
  exact ⟨w, w₁, w₂, hw, htasks, hprinter, hrequest, hdocument, hrow⟩

end Server

end DevBridge

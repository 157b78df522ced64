import DevBridge.Server.IppServer
import DevBridge.Server.Moves

/-!
# The routes follow the table

The API writes a printer in the database first and in the map of the IPP server afterwards.
As long as handlers that write one name do not cross, the map agrees with the database at each
name that no handler still has to write.
-/

namespace DevBridge

namespace Server

variable {w : IppWorld} {printers printers' : PrinterTable} {vp row : VirtualPrinter} {id : ℕ}
  {name : String} {routes : String → Option JobHandler} {task : PrinterTask}
  {tasks : List PrinterTask}

/-! ### The table -/

namespace PrinterTable

lemma byIppName_eq_some (h : printers.Unique) :
    printers.byIppName name = some vp ↔ vp ∈ printers ∧ vp.ippName = name := by
  refine ⟨fun hfound => ⟨List.mem_of_find?_eq_some hfound, by simpa using List.find?_some hfound⟩,
    fun ⟨hmem, hname⟩ => ?_⟩
  cases hfound : printers.byIppName name with
  | none =>
    have hnot := List.find?_eq_none.mp hfound vp hmem
    simp [hname] at hnot
  | some vp' =>
    have hname' : vp'.ippName = name := by simpa using List.find?_some hfound
    rw [h.ippName vp' (List.mem_of_find?_eq_some hfound) vp hmem (hname'.trans hname.symm)]

lemma mem_of_byId (h : printers.byId id = some vp) : vp ∈ printers ∧ vp.id = id :=
  ⟨List.mem_of_find?_eq_some h, by simpa using List.find?_some h⟩

/-- A table after a write: the printers of some names are gone, and one may be there instead. -/
lemma byIppName_eq_of_mem_iff (h : printers.Unique) (h' : printers'.Unique)
    (hmem : ∀ vp, vp.ippName = name → (vp ∈ printers' ↔ vp ∈ printers)) :
    printers'.byIppName name = printers.byIppName name := by
  refine Option.ext fun vp => ?_
  rw [byIppName_eq_some h, byIppName_eq_some h']
  refine and_congr_left fun hname => hmem vp hname

lemma insertRow_eq (h : printers.insertRow vp = some printers') :
    printers' = printers ++ [vp] ∧ ∀ row ∈ printers, row.id ≠ vp.id ∧ row.ippName ≠ vp.ippName := by
  unfold insertRow at h
  split at h
  · cases h
  · rename_i hnew
    refine ⟨(Option.some.inj h).symm, fun row hrow => ?_⟩
    simp only [List.any_eq_true, Bool.or_eq_true, beq_iff_eq, not_exists, not_and, not_or] at hnew
    exact hnew row hrow

lemma updateRow_eq (h : printers.updateRow vp = some printers') :
    printers' = (printers.map fun row => if row.id = vp.id then vp else row) ∧
      (∀ row ∈ printers, row.id ≠ vp.id → row.ippName ≠ vp.ippName) ∧
        ∃ row ∈ printers, row.id = vp.id := by
  unfold updateRow at h
  split at h
  · cases h
  · rename_i hother
    split at h
    · rename_i hself
      refine ⟨(Option.some.inj h).symm, fun row hrow hne => ?_, ?_⟩
      · simp only [List.any_eq_true, Bool.and_eq_true, bne_iff_ne, beq_iff_eq, not_exists,
          not_and] at hother
        exact hother row hrow hne
      · simpa using hself
    · cases h

lemma deleteRow_eq (h : printers.deleteRow id = some printers') :
    printers' = printers.filter fun row => row.id != id := by
  unfold deleteRow at h
  split at h
  · exact (Option.some.inj h).symm
  · cases h

lemma byId_of_updateRow (h : printers.updateRow vp = some printers') :
    ∃ row, printers.byId vp.id = some row := by
  obtain ⟨-, -, row, hrow, hid⟩ := updateRow_eq h
  refine Option.isSome_iff_exists.mp (List.find?_isSome.mpr ⟨row, hrow, ?_⟩)
  simp [hid]

lemma byId_of_deleteRow (h : printers.deleteRow id = some printers') :
    ∃ row, printers.byId id = some row := by
  unfold deleteRow at h
  split at h
  · rename_i hany
    exact Option.isSome_iff_exists.mp (List.find?_isSome.mpr (List.any_eq_true.mp hany))
  · cases h

lemma mem_updateRow (h : printers.updateRow vp = some printers') :
    row ∈ printers' ↔ row = vp ∨ row ∈ printers ∧ row.id ≠ vp.id := by
  obtain ⟨rfl, -, old, hold, hid⟩ := updateRow_eq h
  rw [List.mem_map]
  constructor
  · rintro ⟨row', hrow', rfl⟩
    split
    · exact Or.inl rfl
    · rename_i hne
      exact Or.inr ⟨hrow', hne⟩
  · rintro (rfl | ⟨hmem, hne⟩)
    · exact ⟨old, hold, if_pos hid⟩
    · exact ⟨row, hmem, if_neg hne⟩

lemma Unique.insertRow (hu : printers.Unique) (h : printers.insertRow vp = some printers') :
    printers'.Unique := by
  obtain ⟨rfl, hnew⟩ := insertRow_eq h
  constructor
  · intro a ha b hb hid
    rcases List.mem_append.mp ha with ha | ha <;> rcases List.mem_append.mp hb with hb | hb
    · exact hu.id a ha b hb hid
    · exact absurd (hid.trans (congrArg _ (List.mem_singleton.mp hb))) (hnew a ha).1
    · exact absurd (hid.symm.trans (congrArg _ (List.mem_singleton.mp ha))) (hnew b hb).1
    · rw [List.mem_singleton.mp ha, List.mem_singleton.mp hb]
  · intro a ha b hb hname
    rcases List.mem_append.mp ha with ha | ha <;> rcases List.mem_append.mp hb with hb | hb
    · exact hu.ippName a ha b hb hname
    · exact absurd (hname.trans (congrArg _ (List.mem_singleton.mp hb))) (hnew a ha).2
    · exact absurd (hname.symm.trans (congrArg _ (List.mem_singleton.mp ha))) (hnew b hb).2
    · rw [List.mem_singleton.mp ha, List.mem_singleton.mp hb]

lemma Unique.updateRow (hu : printers.Unique) (h : printers.updateRow vp = some printers') :
    printers'.Unique := by
  obtain ⟨-, hother, -⟩ := updateRow_eq h
  constructor
  · intro a ha b hb hid
    rcases (mem_updateRow h).mp ha with rfl | ⟨ha, hane⟩ <;>
      rcases (mem_updateRow h).mp hb with rfl | ⟨hb, hbne⟩
    · rfl
    · exact absurd hid.symm hbne
    · exact absurd hid hane
    · exact hu.id a ha b hb hid
  · intro a ha b hb hname
    rcases (mem_updateRow h).mp ha with rfl | ⟨ha, hane⟩ <;>
      rcases (mem_updateRow h).mp hb with rfl | ⟨hb, hbne⟩
    · rfl
    · exact absurd hname.symm (hother b hb hbne)
    · exact absurd hname (hother a ha hane)
    · exact hu.ippName a ha b hb hname

lemma Unique.deleteRow (hu : printers.Unique) (h : printers.deleteRow id = some printers') :
    printers'.Unique := by
  obtain rfl := deleteRow_eq h
  exact ⟨fun a ha b hb => hu.id a (List.mem_of_mem_filter ha) b (List.mem_of_mem_filter hb),
    fun a ha b hb => hu.ippName a (List.mem_of_mem_filter ha) b (List.mem_of_mem_filter hb)⟩

/-- A new printer is the printer of its name. -/
lemma byIppName_insertRow (hu : printers.Unique) (h : printers.insertRow vp = some printers') :
    printers'.byIppName name = if name = vp.ippName then some vp else printers.byIppName name := by
  have hu' := hu.insertRow h
  obtain ⟨rfl, -⟩ := insertRow_eq h
  split
  · rename_i hname
    exact (byIppName_eq_some hu').mpr ⟨by simp, hname.symm⟩
  · rename_i hname
    refine byIppName_eq_of_mem_iff hu hu' fun row hrow => ?_
    have hne : row ≠ vp := by
      rintro rfl
      exact hname hrow.symm
    simp [hne]

/-- A changed printer is the printer of its name, and its old name is free. -/
lemma byIppName_updateRow (hu : printers.Unique) (hrow : printers.byId vp.id = some row)
    (h : printers.updateRow vp = some printers') :
    printers'.byIppName name = if name = vp.ippName then some vp
      else if name = row.ippName then none else printers.byIppName name := by
  have hu' := hu.updateRow h
  obtain ⟨hmem, hid⟩ := mem_of_byId hrow
  split
  · rename_i hname
    exact (byIppName_eq_some hu').mpr ⟨(mem_updateRow h).mpr (Or.inl rfl), hname.symm⟩
  rename_i hnew
  split
  · rename_i hold
    rw [Option.eq_none_iff_forall_not_mem]
    intro vp' hvp'
    obtain ⟨hmem', hname⟩ := (byIppName_eq_some hu').mp hvp'
    rcases (mem_updateRow h).mp hmem' with rfl | ⟨hmem', hne⟩
    · exact hnew hname.symm
    · rw [hu.ippName vp' hmem' row hmem (hname.trans hold)] at hne
      exact hne hid
  · rename_i hold
    refine byIppName_eq_of_mem_iff hu hu' fun vp' hvp' => ?_
    rw [mem_updateRow h]
    constructor
    · rintro (rfl | ⟨hmem', -⟩)
      · exact absurd hvp'.symm hnew
      · exact hmem'
    · intro hmem'
      refine Or.inr ⟨hmem', fun hid' => hold ?_⟩
      rw [← hvp', hu.id vp' hmem' row hmem (hid'.trans hid.symm)]

lemma byIppName_deleteRow (hu : printers.Unique) (hrow : printers.byId id = some row)
    (h : printers.deleteRow id = some printers') :
    printers'.byIppName name =
      if name = row.ippName then none else printers.byIppName name := by
  have hu' := hu.deleteRow h
  obtain ⟨hmem, hid⟩ := mem_of_byId hrow
  obtain rfl := deleteRow_eq h
  split
  · rename_i hname
    rw [Option.eq_none_iff_forall_not_mem]
    intro vp' hvp'
    obtain ⟨hmem', hname'⟩ := (byIppName_eq_some hu').mp hvp'
    obtain ⟨hmem', hne⟩ := List.mem_filter.mp hmem'
    rw [hu.ippName vp' hmem' row hmem (hname'.trans hname)] at hne
    simp [hid] at hne
  · rename_i hname
    refine byIppName_eq_of_mem_iff hu hu' fun vp' hvp' => ?_
    rw [List.mem_filter, bne_iff_ne, and_iff_left_iff_imp]
    intro hmem' hid'
    rw [hu.id vp' hmem' row hmem (hid'.trans hid.symm)] at hvp'
    exact hname hvp'.symm

end PrinterTable

/-! ### The map agrees with the table -/

/-- The names that the handler still has to write in the map. -/
def PrinterTask.writes : PrinterTask → List String
  | .rename oldIppName vp => [oldIppName, vp.ippName]
  | .add vp => [vp.ippName]
  | .remove ippName => [ippName]
  | _ => []

/-- What the table holds at the names that the handler still has to write in the map. -/
def PrinterTask.Due (held : String → Bool) : PrinterTask → Prop
  | .rename oldIppName vp => held vp.ippName ∧ (oldIppName ≠ vp.ippName → held oldIppName = false)
  | .add vp => held vp.ippName
  | .remove ippName => held ippName = false
  | _ => True

/-- The table has a printer of the name. -/
def PrinterTable.holds (printers : PrinterTable) (name : String) : Bool :=
  (printers.byIppName name).isSome

/-- No handler still has to write the name in the map. -/
def Clear (tasks : List PrinterTask) (name : String) : Prop := ∀ task ∈ tasks, name ∉ task.writes

/-- At each name that no handler still has to write, the map agrees with the table; and each
such name waits for one handler. -/
structure Agrees (held : String → Bool) (routes : String → Option JobHandler)
    (tasks : List PrinterTask) : Prop where
  own : ∀ name handler, routes name = some handler → handler.ippName = name
  settled : ∀ name, Clear tasks name → (routes name).isSome = held name
  apart : tasks.Pairwise fun task task' => task.writes.Disjoint task'.writes
  due : ∀ task ∈ tasks, task.Due held

variable {held held' : String → Bool} {tasks' : List PrinterTask} {task' : PrinterTask}

lemma clear_cons : Clear (task :: tasks) name ↔ name ∉ task.writes ∧ Clear tasks name :=
  List.forall_mem_cons

lemma clear_perm (h : tasks.Perm tasks') : Clear tasks name ↔ Clear tasks' name :=
  ⟨fun hc task htask => hc task (h.mem_iff.mpr htask),
    fun hc task htask => hc task (h.mem_iff.mp htask)⟩

lemma Agrees.perm (h : Agrees held routes tasks) (hperm : tasks.Perm tasks') :
    Agrees held routes tasks' := by
  refine ⟨h.own, fun name hclear => h.settled name ((clear_perm hperm).mpr hclear), ?_,
    fun task htask => h.due task (hperm.mem_iff.mpr htask)⟩
  refine (hperm.pairwise_iff fun {a b} hab => ?_).mp h.apart
  exact hab.symm

/-- What is due depends on the names to write only. -/
lemma PrinterTask.Due.congr (h : task.Due held)
    (hsame : ∀ name ∈ task.writes, held' name = held name) : task.Due held' := by
  cases task with
  | rename oldIppName vp =>
    have hold := hsame oldIppName (by simp [writes])
    have hnew := hsame vp.ippName (by simp [writes])
    exact ⟨hnew.trans h.1, fun hne => hold.trans (h.2 hne)⟩
  | add vp => exact (hsame vp.ippName (by simp [writes])).trans h
  | remove ippName => exact (hsame ippName (by simp [writes])).trans h
  | create => trivial
  | update => trivial
  | delete => trivial
  | approve => trivial

lemma due_of_writes (h : task.writes = []) : task.Due held := by
  cases task <;> trivial

/-- A handler that has nothing to write in the map comes or goes. -/
lemma Agrees.cons_iff (hwrites : task.writes = []) :
    Agrees held routes (task :: tasks) ↔ Agrees held routes tasks := by
  have hclear : ∀ name, Clear (task :: tasks) name ↔ Clear tasks name := by
    intro name
    rw [clear_cons, hwrites]
    simp
  constructor
  · intro h
    exact ⟨h.own, fun name hc => h.settled name ((hclear name).mpr hc), h.apart.of_cons,
      fun t ht => h.due t (List.mem_cons_of_mem _ ht)⟩
  · intro h
    refine ⟨h.own, fun name hc => h.settled name ((hclear name).mp hc), ?_, ?_⟩
    · refine List.pairwise_cons.mpr ⟨fun t _ => ?_, h.apart⟩
      rw [hwrites]
      exact List.disjoint_nil_left _
    · exact List.forall_mem_cons.mpr ⟨due_of_writes hwrites, h.due⟩

/-- A write of the table: the handler has the names that changed to write in the map next, and
no other handler has. -/
lemma Agrees.stored (h : Agrees held routes tasks) (hclear : ∀ name ∈ task.writes, Clear tasks name)
    (hsame : ∀ name, name ∉ task.writes → held' name = held name) (hdue : task.Due held') :
    Agrees held' routes (task :: tasks) := by
  refine ⟨h.own, fun name hc => ?_, List.pairwise_cons.mpr ⟨fun t ht => ?_, h.apart⟩,
    List.forall_mem_cons.mpr ⟨hdue, fun t ht => ?_⟩⟩
  · obtain ⟨hnot, hc⟩ := clear_cons.mp hc
    rw [hsame name hnot]
    exact h.settled name hc
  · intro name hname hname'
    exact hclear name hname t ht hname'
  · refine (h.due t ht).congr fun name hname => hsame name fun hname' => ?_
    exact hclear name hname' t ht hname

/-- A write of the map, and the handler goes on. -/
lemma Agrees.routed (h : Agrees held routes (task :: tasks)) {handler : Option JobHandler}
    (hown : ∀ h', handler = some h' → h'.ippName = name) (hsub : task'.writes ⊆ task.writes)
    (hrest : ∀ name' ∈ task.writes, name' ≠ name → name' ∈ task'.writes) (hdue : task'.Due held)
    (hheld : name ∉ task'.writes → handler.isSome = held name) (hname : name ∈ task.writes) :
    Agrees held (Function.update routes name handler) (task' :: tasks) := by
  have hcons := List.pairwise_cons.mp h.apart
  refine ⟨fun name' h' hroute => ?_, fun name' hc => ?_, List.pairwise_cons.mpr
    ⟨fun t ht => ?_, hcons.2⟩, List.forall_mem_cons.mpr
      ⟨hdue, fun t ht => h.due t (List.mem_cons_of_mem _ ht)⟩⟩
  · rcases eq_or_ne name' name with rfl | hne
    · rw [Function.update_self] at hroute
      exact hown h' hroute
    · rw [Function.update_of_ne hne] at hroute
      exact h.own name' h' hroute
  · obtain ⟨hnot, hc⟩ := clear_cons.mp hc
    rcases eq_or_ne name' name with rfl | hne
    · rw [Function.update_self]
      exact hheld hnot
    · rw [Function.update_of_ne hne]
      exact h.settled name' (clear_cons.mpr ⟨fun hmem => hnot (hrest name' hmem hne), hc⟩)
  · intro name' hname' hname''
    exact hcons.1 t ht (hsub hname') hname''

/-- The last write of a handler. -/
lemma Agrees.written (h : Agrees held routes (task :: tasks)) {handler : Option JobHandler}
    (hown : ∀ h', handler = some h' → h'.ippName = name) (hwrites : task.writes = [name])
    (hheld : handler.isSome = held name) :
    Agrees held (Function.update routes name handler) tasks := by
  have hdone : (PrinterTask.approve "" none).writes = [] := rfl
  refine (Agrees.cons_iff hdone).mp (h.routed hown (by simp [hdone]) ?_ trivial
    (fun _ => hheld) (by simp [hwrites]))
  intro name' hmem hne
  rw [hwrites] at hmem
  exact absurd (List.mem_singleton.mp hmem) hne

lemma loadRoutes_eq (printers : PrinterTable) (name : String) :
    IppWorld.loadRoutes printers name = if printers.holds name then some ⟨name⟩ else none := by
  have hfold : ∀ (rows : PrinterTable) (start : String → Option JobHandler),
      rows.foldl (fun (routes : String → Option JobHandler) vp =>
        Function.update routes vp.ippName (some ⟨vp.ippName⟩)) start name =
          if rows.holds name then some ⟨name⟩ else start name := by
    intro rows
    induction rows with
    | nil => intro start; rfl
    | cons vp rows ih =>
      intro start
      rw [List.foldl_cons, ih]
      by_cases hname : vp.ippName = name
      · simp [PrinterTable.holds, PrinterTable.byIppName, hname]
      · simp [PrinterTable.holds, PrinterTable.byIppName, hname,
          Function.update_of_ne (Ne.symm hname)]
  exact hfold printers _

/-- A start loads the whole table. -/
lemma agrees_loaded (printers : PrinterTable) :
    Agrees printers.holds (IppWorld.loadRoutes printers) [] := by
  refine ⟨fun name handler hroute => ?_, fun name _ => ?_, List.Pairwise.nil, by simp⟩
  · rw [loadRoutes_eq] at hroute
    split at hroute
    · rw [← Option.some.inj hroute]
    · cases hroute
  · rw [loadRoutes_eq]
    split
    · rename_i hheld
      exact hheld.symm
    · rename_i hheld
      exact (Bool.of_not_eq_true hheld).symm

/-! ### Operations in turn -/

/-- No name is written in the database while a handler still has to write it in the map, and
no printer is changed that has another name than its handler read.  `add_printer` succeeds. -/
structure IppWorld.InTurn (w : IppWorld) (e : IppStep) : Prop where
  built : ∀ place vp, e = .task place false → w.tasks[place]? ≠ some (.add vp)
  created : ∀ place built vp printers, e = .task place built →
    w.tasks[place]? = some (.create vp) → w.printers.insertRow vp = some printers →
      Clear w.tasks vp.ippName
  updated : ∀ place built vp renamedFrom printers row, e = .task place built →
    w.tasks[place]? = some (.update vp renamedFrom) → w.printers.updateRow vp = some printers →
      w.printers.byId vp.id = some row → row.ippName = renamedFrom.getD vp.ippName ∧
        (renamedFrom.isSome → Clear w.tasks row.ippName ∧ Clear w.tasks vp.ippName)
  deleted : ∀ place built id ippName row, e = .task place built →
    w.tasks[place]? = some (.delete id ippName) → w.printers.byId id = some row →
      row.ippName = ippName ∧ Clear w.tasks ippName

def operationsInTurn : Transition.Law IppWorld IppStep := fun w e _ => w.InTurn e

/-- The names in the table are unique, and the map agrees with it. -/
structure IppWorld.Routed (w : IppWorld) : Prop where
  unique : w.printers.Unique
  agrees : Agrees w.printers.holds w.routes w.tasks

lemma IppWorld.Routed.addTask (h : w.Routed) (hwrites : task.writes = []) :
    (w.addTask task).Routed :=
  ⟨h.unique, (Agrees.cons_iff hwrites).mpr h.agrees⟩

lemma holds_insertRow (hu : printers.Unique) (h : printers.insertRow vp = some printers') :
    printers'.holds = fun name => decide (name = vp.ippName) || printers.holds name := by
  funext name
  rw [PrinterTable.holds, PrinterTable.byIppName_insertRow hu h]
  split
  · rename_i hname
    simp [hname]
  · rename_i hname
    simp [hname, PrinterTable.holds]

lemma holds_updateRow (hu : printers.Unique) (hrow : printers.byId vp.id = some row)
    (h : printers.updateRow vp = some printers') :
    printers'.holds = fun name => decide (name = vp.ippName) ||
      (!decide (name = row.ippName) && printers.holds name) := by
  funext name
  rw [PrinterTable.holds, PrinterTable.byIppName_updateRow hu hrow h]
  split
  · rename_i hname
    simp [hname]
  · rename_i hname
    split
    · rename_i hold
      rw [hold] at hname
      simp [hold, hname]
    · rename_i hold
      simp [hname, hold, PrinterTable.holds]

lemma holds_deleteRow (hu : printers.Unique) (hrow : printers.byId id = some row)
    (h : printers.deleteRow id = some printers') :
    printers'.holds = fun name => !decide (name = row.ippName) && printers.holds name := by
  funext name
  rw [PrinterTable.holds, PrinterTable.byIppName_deleteRow hu hrow h]
  split
  · rename_i hname
    simp [hname]
  · rename_i hname
    simp [hname, PrinterTable.holds]

/-- The handler at a place goes on, and the others stay. -/
lemma IppWorld.Routed.runTask {place : ℕ} {built : Bool} (h : w.Routed)
    (hlaw : w.InTurn (.task place built)) (htask : w.tasks[place]? = some task) :
    ({ w with tasks := w.tasks.eraseIdx place }.runTask built task).Routed := by
  have hperm := perm_eraseIdx htask
  have hag := h.agrees.perm hperm
  have hclear : ∀ name, Clear w.tasks name → Clear (w.tasks.eraseIdx place) name :=
    fun name hc => (clear_cons.mp ((clear_perm hperm).mp hc)).2
  cases task with
  | create vp =>
    have hrest := (Agrees.cons_iff rfl).mp hag
    simp only [IppWorld.runTask]
    split
    · rename_i printers hprinters
      have hheld := holds_insertRow h.unique hprinters
      have hc := hclear _ (hlaw.created place built vp printers rfl htask hprinters)
      refine ⟨h.unique.insertRow hprinters, ?_⟩
      change Agrees printers.holds _ _
      refine hrest.stored (by simpa [PrinterTask.writes] using hc) (fun name hname => ?_) ?_
      · have hne : name ≠ vp.ippName := by simpa [PrinterTask.writes] using hname
        simp [hheld, hne]
      · simp [PrinterTask.Due, hheld]
    · exact ⟨h.unique, hrest⟩
  | update vp renamedFrom =>
    have hrest := (Agrees.cons_iff rfl).mp hag
    simp only [IppWorld.runTask]
    split
    · rename_i printers hprinters
      obtain ⟨row, hrow⟩ := PrinterTable.byId_of_updateRow hprinters
      obtain ⟨hfresh, hc⟩ :=
        hlaw.updated place built vp renamedFrom printers row rfl htask hprinters hrow
      have hheld := holds_updateRow h.unique hrow hprinters
      have hunique := h.unique.updateRow hprinters
      cases renamedFrom with
      | none =>
        refine ⟨hunique, ?_⟩
        change Agrees printers.holds _ _
        have hsame : printers.holds = w.printers.holds := by
          have hthere : w.printers.holds row.ippName = true := by
            rw [PrinterTable.holds, (PrinterTable.byIppName_eq_some h.unique).mpr
              ⟨(PrinterTable.mem_of_byId hrow).1, rfl⟩]
            rfl
          rw [hheld]
          funext name
          rw [Option.getD_none] at hfresh
          rw [← hfresh]
          by_cases hname : name = row.ippName
          · simp [hname, hthere]
          · simp [hname]
        rw [hsame]
        exact hrest
      | some oldIppName =>
        rw [Option.getD_some] at hfresh
        subst hfresh
        obtain ⟨hcold, hcnew⟩ := hc rfl
        refine ⟨hunique, ?_⟩
        change Agrees printers.holds _ _
        refine hrest.stored ?_ (fun name hname => ?_) ?_
        · simpa [PrinterTask.writes] using ⟨hclear _ hcold, hclear _ hcnew⟩
        · simp only [PrinterTask.writes, List.mem_cons, List.not_mem_nil, or_false, not_or]
            at hname
          simp [hheld, hname.1, hname.2]
        · refine ⟨by simp [hheld], fun hne => ?_⟩
          simp [hheld, hne]
    · exact ⟨h.unique, hrest⟩
  | rename oldIppName vp =>
    obtain ⟨hnew, hold⟩ := hag.due _ List.mem_cons_self
    refine ⟨h.unique, hag.routed (by simp) ?_ ?_ hnew (fun hnot => ?_) ?_⟩
    · simp [PrinterTask.writes]
    · simp [PrinterTask.writes]
    · exact (hold (by simpa [PrinterTask.writes] using hnot)).symm
    · simp [PrinterTask.writes]
  | add vp =>
    have hdue := hag.due _ List.mem_cons_self
    have hbuilt : built = true := by
      cases built with
      | false => exact absurd htask (hlaw.built place vp rfl)
      | true => rfl
    subst hbuilt
    refine ⟨h.unique, hag.written (fun h' heq => ?_) rfl hdue.symm⟩
    rw [← Option.some.inj heq]
  | delete id ippName =>
    have hrest := (Agrees.cons_iff rfl).mp hag
    simp only [IppWorld.runTask]
    split
    · rename_i printers hprinters
      obtain ⟨row, hrow⟩ := PrinterTable.byId_of_deleteRow hprinters
      obtain ⟨rfl, hc⟩ := hlaw.deleted place built id ippName row rfl htask hrow
      have hheld := holds_deleteRow h.unique hrow hprinters
      refine ⟨h.unique.deleteRow hprinters, ?_⟩
      change Agrees printers.holds _ _
      refine hrest.stored ?_ (fun name hname => ?_) ?_
      · simpa [PrinterTask.writes] using hclear _ hc
      · have hne : name ≠ row.ippName := by simpa [PrinterTask.writes] using hname
        simp [hheld, hne]
      · simp [PrinterTask.Due, hheld]
    · exact ⟨h.unique, hrest⟩
  | remove ippName =>
    have hdue := hag.due _ List.mem_cons_self
    exact ⟨h.unique, hag.written (by simp) rfl hdue.symm⟩
  | approve machineId vp =>
    have hrest := (Agrees.cons_iff rfl).mp hag
    cases vp with
    | none => exact ⟨h.unique, hrest⟩
    | some vp => exact ⟨h.unique, (Agrees.cons_iff rfl).mpr hrest⟩

end Server

end DevBridge

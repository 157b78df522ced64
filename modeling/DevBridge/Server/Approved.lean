import DevBridge.Server.Approval
import DevBridge.Server.Routes

/-!
# What an approval leaves behind

A client is approved only by the last decision of an administrator about it: nothing else writes
the pairing state of a row that is there.  But an approval may be stored and its printer not
created, because its name is taken, the storage fails, the process ends, or the client asked for
the printer between two steps of the call.  The call answers nothing of it then, and a later one
finds the client approved and does nothing.
-/

namespace DevBridge

namespace Server

variable {ipp : IppConfig} {w w' : ApprovalWorld} {m : String} {n : ℕ}

namespace ApprovalWorld

/-- A printer that is paired to the client was created by an approval. -/
def Served (w : ApprovalWorld) (m : String) : Prop := ∃ vp ∈ w.created, vp.pairedClientId = some m

/-- The call answered why there is no printer. -/
def Explained (w : ApprovalWorld) (n : ℕ) : Prop :=
  ∃ reason, (n, PairingAnswer.approved none (some reason)) ∈ w.answers

/-- An approval of the client that begins now does not stop at its look at the client. -/
def TriesAgain (w : ApprovalWorld) (m : String) : Prop := ∃ row, w.lookUp m true = .inr row

/-- Whoever is approved was approved by the last decision about it. -/
def DecidedByAdministrator (w : ApprovalWorld) : Prop :=
  ∀ m row, w.clients m = some row → row.pairingState = .approved →
    w.decisions.find? (fun d => d.1 = m) = some (m, .approved)

/-- An approved client that asked for a printer has got one, or the call that approved it
answered why not or is not over yet, or a later approval tries again. -/
def AllOrNothing (w : ApprovalWorld) : Prop :=
  ∀ m n row, w.approval m = some (n, row) → row.asks = true →
    w.Served m ∨ w.Explained n ∨ (∃ call, w.calls n = some call) ∨ w.TriesAgain m

/-- The call has approved a client that asked for a printer, and the client has none and stays
approved. -/
def Owes (w : ApprovalWorld) (n : ℕ) (m : String) : Prop :=
  (∃ row, w.approval m = some (n, row) ∧ row.asks = true) ∧ ¬ w.Served m ∧ ¬ w.TriesAgain m

/-- Nothing goes wrong between the decision and the printer: no client is the first to ask for
its printer between the look of a call and its decision; an insert that is owed finds its name
free and a storage that works; and the process does not end while a call owes a printer. -/
def careful (ipp : IppConfig) : Transition.Law ApprovalWorld ApprovalStep := fun w e _ =>
  match e with
  | .call n ok =>
    match w.calls n with
    | some (.approving m client) =>
      ∀ row, w.clients m = some row → row.asks = true → ok = true →
        client.virtualPrinterName = none → w.Served m
    | some (.creating m name _) =>
      w.Owes n m → ok = true ∧ ∀ vp ∈ w.printers, vp.ippName ≠ slugify ipp.tables name
    | _ => True
  | .restart => ∀ m n, w.Owes n m → w.calls n = none
  | _ => True

/-! ### The pairing state -/

lemma triesAgain_iff :
    w.TriesAgain m ↔ ∃ row, w.clients m = some row ∧ row.pairingState ≠ .approved := by
  unfold TriesAgain lookUp
  rcases hrow : w.clients m with _ | row
  · simp
  · by_cases happroved : row.pairingState = .approved
    · simp [happroved]
    · simp [happroved]

/-- The pairing state of a client, as far as it is stored. -/
def pairing (w : ApprovalWorld) (m : String) : Option PairingState :=
  (w.clients m).map (·.pairingState)

lemma triesAgain_iff_pairing :
    w.TriesAgain m ↔ ∃ state, w.pairing m = some state ∧ state ≠ .approved := by
  rw [triesAgain_iff]
  constructor
  · rintro ⟨row, hrow, hne⟩
    exact ⟨row.pairingState, by rw [pairing, hrow]; rfl, hne⟩
  · rintro ⟨state, hstate, hne⟩
    obtain ⟨row, hrow, rfl⟩ := Option.map_eq_some_iff.mp hstate
    exact ⟨row, hrow, hne⟩

/-- What a step does with the pairing states: it stores a decision, or only registers a new
client as pending. -/
structure PairingKept (w w' : ApprovalWorld) : Prop where
  decisions : w'.decisions = w.decisions
  pairing : ∀ m, w'.pairing m = w.pairing m ∨ (w.pairing m = none ∧ w'.pairing m = some .pending)

/-- A decision is stored. -/
structure PairingDecided (w w' : ApprovalWorld) (m : String) (state : PairingState) : Prop where
  decisions : w'.decisions = (m, state) :: w.decisions
  pairing : w'.pairing = Function.update w.pairing m (some state)

lemma pairingKept_of_clients (hclients : w'.clients = w.clients)
    (hdecisions : w'.decisions = w.decisions) : w.PairingKept w' :=
  ⟨hdecisions, fun m => Or.inl (by rw [pairing, pairing, hclients])⟩

lemma pairingKept_change {f : ClientRegistration → ClientRegistration}
    (hf : ∀ row, (f row).pairingState = row.pairingState)
    (hclients : w'.clients = w.clients.change m f)
    (hdecisions : w'.decisions = w.decisions) : w.PairingKept w' := by
  refine ⟨hdecisions, fun m' => Or.inl ?_⟩
  rw [pairing, pairing, hclients, ClientTable.change]
  by_cases hm : m' = m
  · subst hm
    rw [Function.update_self, Option.map_map]
    exact congrArg (fun g => (w.clients m').map g) (funext hf)
  · rw [Function.update_of_ne hm]

lemma pairingKept_upsert {reg : ClientRegistration} (hreg : reg.pairingState = .pending)
    (hclients : w'.clients = w.clients.upsertClient reg)
    (hdecisions : w'.decisions = w.decisions) : w.PairingKept w' := by
  refine ⟨hdecisions, fun m => ?_⟩
  rw [pairing, pairing, hclients, ClientTable.upsertClient]
  by_cases hm : m = reg.machineId
  · subst hm
    rw [Function.update_self]
    rcases w.clients reg.machineId with _ | row
    · exact Or.inr ⟨rfl, congrArg some hreg⟩
    · exact Or.inl rfl
  · rw [Function.update_of_ne hm]
    exact Or.inl rfl

lemma pairing_updatePairingState {clients : ClientTable} {state : PairingState}
    (h : w.clients.updatePairingState m state = some clients) (hclients : w'.clients = clients) :
    w'.pairing = Function.update w.pairing m (some state) := by
  obtain ⟨row, hrow, rfl⟩ := Option.map_eq_some_iff.mp h
  funext m'
  rw [pairing, hclients]
  by_cases hm : m' = m
  · subst hm
    simp
  · rw [Function.update_of_ne hm, Function.update_of_ne hm, pairing]

/-- Only the calls of administrators store a decision. -/
lemma pairing_of_runCall {call : PairingCall} {ok : Bool} :
    w.PairingKept (w.runCall ipp n ok call) ∨
      ∃ m state, w.PairingDecided (w.runCall ipp n ok call) m state := by
  have hkept : ∀ {w' : ApprovalWorld}, w'.clients = w.clients → w'.decisions = w.decisions →
      w.PairingKept w' ∨ ∃ m state, w.PairingDecided w' m state :=
    fun hclients hdecisions => Or.inl (pairingKept_of_clients hclients hdecisions)
  cases call with
  | approve m =>
    simp only [runCall]
    cases w.lookUp m ok <;> exact hkept rfl rfl
  | approving m client =>
    simp only [runCall]
    rcases w.clients m with _ | row
    · exact hkept rfl rfl
    rcases hupdate : w.clients.updatePairingState m .approved with _ | clients
    · exact hkept rfl rfl
    rcases ok with _ | _
    · exact hkept rfl rfl
    · exact Or.inr ⟨m, .approved, rfl, pairing_updatePairingState hupdate rfl⟩
  | creating m name driver =>
    simp only [runCall]
    split <;> exact hkept rfl rfl
  | adding m vp driver => exact hkept rfl rfl
  | reject m =>
    simp only [runCall]
    split
    · split <;> exact hkept rfl rfl
    · exact hkept rfl rfl
  | rejecting m =>
    simp only [runCall]
    rcases hupdate : w.clients.updatePairingState m .rejected with _ | clients
    · exact hkept rfl rfl
    rcases ok with _ | _
    · exact hkept rfl rfl
    · exact Or.inr ⟨m, .rejected, rfl, pairing_updatePairingState hupdate rfl⟩
  | answering answer => exact hkept rfl rfl

/-- No subscription, heartbeat or restart approves a client. -/
lemma pairingKept_of_step {e : ApprovalStep} (he : ∀ n ok, e ≠ .call n ok)
    (h : w.step ipp e = some w') : w.PairingKept w' := by
  cases e with
  | subscribe now identity ok =>
    obtain rfl := Option.some.inj h
    cases ok with
    | false => exact pairingKept_of_clients rfl rfl
    | true => exact pairingKept_upsert rfl rfl rfl
  | setOnline now m online =>
    obtain rfl := Option.some.inj h
    exact pairingKept_change (f := fun row => { row with isOnline := online, lastSeen := now })
      (fun _ => rfl) rfl rfl
  | heartbeat now m =>
    obtain rfl := Option.some.inj h
    exact pairingKept_change (f := fun row => { row with lastSeen := now, isOnline := true })
      (fun _ => rfl) rfl rfl
  | restart =>
    obtain rfl := Option.some.inj h
    exact ⟨rfl, fun m => Or.inl (Option.map_map ..)⟩
  | createPrinter displayName pairedClientId =>
    obtain ⟨printers, -, rfl⟩ := Option.map_eq_some_iff.mp h
    exact pairingKept_of_clients rfl rfl
  | updatePrinter vp =>
    obtain ⟨printers, -, rfl⟩ := Option.map_eq_some_iff.mp h
    exact pairingKept_of_clients rfl rfl
  | deletePrinter id =>
    obtain ⟨printers, -, rfl⟩ := Option.map_eq_some_iff.mp h
    exact pairingKept_of_clients rfl rfl
  | approve m =>
    obtain rfl := Option.some.inj h
    exact pairingKept_of_clients rfl rfl
  | reject m =>
    obtain rfl := Option.some.inj h
    exact pairingKept_of_clients rfl rfl
  | call n ok => exact absurd rfl (he n ok)

lemma pairing_of_step {e : ApprovalStep} (h : w.step ipp e = some w') :
    w.PairingKept w' ∨ ∃ m state, w.PairingDecided w' m state := by
  by_cases he : ∃ n ok, e = .call n ok
  · obtain ⟨n, ok, rfl⟩ := he
    obtain ⟨call, -, rfl⟩ := Option.map_eq_some_iff.mp h
    exact pairing_of_runCall
  · exact Or.inl (pairingKept_of_step (fun n ok heq => he ⟨n, ok, heq⟩) h)

lemma decided_step {e : ApprovalStep} (hw : w.DecidedByAdministrator)
    (h : w.step ipp e = some w') : w'.DecidedByAdministrator := by
  have hpairing : ∀ m, w.pairing m = some .approved →
      w.decisions.find? (fun d => d.1 = m) = some (m, .approved) := by
    intro m hm
    obtain ⟨row, hrow, happroved⟩ := Option.map_eq_some_iff.mp hm
    exact hw m row hrow happroved
  intro m row hrow happroved
  have hm : w'.pairing m = some .approved := by rw [pairing, hrow, Option.map_some, happroved]
  rcases pairing_of_step h with hkept | ⟨m', state, hdecided⟩
  · rw [hkept.decisions]
    rcases hkept.pairing m with hsame | ⟨-, hpending⟩
    · exact hpairing m (hsame ▸ hm)
    · rw [hpending] at hm
      cases hm
  · rw [hdecided.decisions, List.find?_cons]
    rw [hdecided.pairing] at hm
    by_cases hne : m = m'
    · subst hne
      rw [Function.update_self] at hm
      obtain rfl := Option.some.inj hm
      simp
    · rw [Function.update_of_ne hne] at hm
      simp only [Ne.symm hne, decide_false]
      exact hpairing m hm

end ApprovalWorld

/-! ### The printers that were created -/

namespace ApprovalWorld

/-- The step inserts the printer for a client. -/
def Inserts (w w' : ApprovalWorld) (vp : VirtualPrinter) : Prop :=
  w.printers.insertRow vp = some w'.printers ∧ w'.created = vp :: w.created

lemma inserts_of_runCall {call : PairingCall} {ok : Bool} :
    (w.runCall ipp n ok call).created = w.created ∨
      ∃ vp, w.Inserts (w.runCall ipp n ok call) vp := by
  cases call with
  | approve m =>
    simp only [runCall]
    cases w.lookUp m ok <;> exact Or.inl rfl
  | approving m client =>
    simp only [runCall]
    split <;> exact Or.inl rfl
  | creating m name driver =>
    simp only [runCall]
    split
    next printers hinsert => exact Or.inr ⟨w.printer ipp name (some m), hinsert, rfl⟩
    next => exact Or.inl rfl
  | adding m vp driver => exact Or.inl rfl
  | reject m =>
    simp only [runCall]
    split
    · split <;> exact Or.inl rfl
    · exact Or.inl rfl
  | rejecting m =>
    simp only [runCall]
    split <;> exact Or.inl rfl
  | answering answer => exact Or.inl rfl

/-- A printer counts as created in the very step that inserts it. -/
lemma inserts_of_step {e : ApprovalStep} (h : w.step ipp e = some w') :
    w'.created = w.created ∨ ∃ vp, w.Inserts w' vp := by
  cases e with
  | call n ok =>
    obtain ⟨call, -, rfl⟩ := Option.map_eq_some_iff.mp h
    exact inserts_of_runCall
  | createPrinter displayName pairedClientId =>
    obtain ⟨printers, -, rfl⟩ := Option.map_eq_some_iff.mp h
    exact Or.inl rfl
  | updatePrinter vp =>
    obtain ⟨printers, -, rfl⟩ := Option.map_eq_some_iff.mp h
    exact Or.inl rfl
  | deletePrinter id =>
    obtain ⟨printers, -, rfl⟩ := Option.map_eq_some_iff.mp h
    exact Or.inl rfl
  | _ =>
    obtain rfl := Option.some.inj h
    exact Or.inl rfl

/-- Every printer that counts as created was inserted into the table of the printers, and is
then it was in the table. -/
lemma inserted_of_created {law : Transition.Law ApprovalWorld ApprovalStep}
    (h : (approvalServer ipp).Reach law w) {vp : VirtualPrinter} (hvp : vp ∈ w.created) :
    ∃ v v', (approvalServer ipp).Reach law v ∧ (approvalServer ipp).Move law v v' ∧
      v.Inserts v' vp ∧ vp ∈ v'.printers := by
  refine h.invariant (P := fun w => vp ∈ w.created → ∃ v v', (approvalServer ipp).Reach law v ∧
    (approvalServer ipp).Move law v v' ∧ v.Inserts v' vp ∧ vp ∈ v'.printers) ?_ ?_ hvp
  · intro hnone
    cases hnone
  · intro v e v' hv ih hstep hlaw hmem
    rcases inserts_of_step hstep with hsame | ⟨vp', hinserts⟩
    · exact ih (hsame ▸ hmem)
    · rw [hinserts.2, List.mem_cons] at hmem
      rcases hmem with rfl | hmem
      · refine ⟨v, v', hv, ⟨e, hstep, hlaw⟩, hinserts, ?_⟩
        rw [(PrinterTable.insertRow_eq hinserts.1).1]
        exact List.mem_append_right _ (List.mem_singleton_self vp)
      · exact ih hmem

end ApprovalWorld

/-! ### What is settled -/

/-- A call that is about to create the printer of a client, or to answer why it does not. -/
def PairingCall.settles (m : String) : PairingCall → Bool
  | .creating machineId _ _ => machineId = m
  | .answering (.approved none (some _)) => true
  | _ => false

namespace ApprovalWorld

/-- The client has its printer, or the call has answered why not, or is about to do one of the
two, or a later approval tries again. -/
def SettledBy (w : ApprovalWorld) (m : String) (n : ℕ) : Prop :=
  w.Served m ∨ w.Explained n ∨ w.TriesAgain m ∨
    ∃ call, w.calls n = some call ∧ call.settles m = true

structure Settled (w : ApprovalWorld) : Prop where
  /-- The ids of printers are new. -/
  fresh : ∀ vp ∈ w.printers, vp.id < w.nextPrinter
  /-- The numbers of calls are new. -/
  numbered : ∀ n call, w.calls n = some call → n < w.nextCall
  approved : ∀ m n row, w.approval m = some (n, row) → n < w.nextCall
  settled : ∀ m n row, w.approval m = some (n, row) → row.asks = true → w.SettledBy m n

lemma allOrNothing_of_settled (h : w.Settled) : w.AllOrNothing := by
  intro m n row happroval hasks
  rcases h.settled m n row happroval hasks with hserved | hexplained | htries | ⟨call, hcall, -⟩
  · exact Or.inl hserved
  · exact Or.inr (Or.inl hexplained)
  · exact Or.inr (Or.inr (Or.inr htries))
  · exact Or.inr (Or.inr (Or.inl ⟨call, hcall⟩))

/-- What was created, answered or is left to a later approval stays so. -/
structure Grows (w w' : ApprovalWorld) : Prop where
  created : ∀ vp ∈ w.created, vp ∈ w'.created
  answers : ∀ a ∈ w.answers, a ∈ w'.answers
  tries : ∀ m, w.TriesAgain m → w'.TriesAgain m

lemma Grows.served (h : w.Grows w') (hserved : w.Served m) : w'.Served m :=
  hserved.imp fun vp hvp => ⟨h.created vp hvp.1, hvp.2⟩

lemma Grows.settledBy (h : w.Grows w') (hsettled : w.SettledBy m n)
    (hcalls : ∀ call, w.calls n = some call → call.settles m = true → w'.SettledBy m n) :
    w'.SettledBy m n := by
  rcases hsettled with hserved | ⟨reason, hreason⟩ | htries | ⟨call, hcall, hsettles⟩
  · exact Or.inl (h.served hserved)
  · exact Or.inr (Or.inl ⟨reason, h.answers _ hreason⟩)
  · exact Or.inr (Or.inr (Or.inl (h.tries m htries)))
  · exact hcalls call hcall hsettles

lemma PairingKept.tries (h : w.PairingKept w') (htries : w.TriesAgain m) : w'.TriesAgain m := by
  obtain ⟨state, hstate, hne⟩ := triesAgain_iff_pairing.mp htries
  refine triesAgain_iff_pairing.mpr ⟨state, ?_, hne⟩
  rcases h.pairing m with hsame | ⟨hnone, -⟩
  · rw [hsame, hstate]
  · rw [hnone] at hstate
    cases hstate

lemma PairingKept.grows (h : w.PairingKept w') (hcreated : ∀ vp ∈ w.created, vp ∈ w'.created)
    (hanswers : ∀ a ∈ w.answers, a ∈ w'.answers) : w.Grows w' :=
  ⟨hcreated, hanswers, fun _ htries => h.tries htries⟩

/-- A step that goes on with no call. -/
lemma settled_aside (hw : w.Settled) (hgrows : w.Grows w')
    (hfresh : ∀ vp ∈ w'.printers, vp.id < w'.nextPrinter) (hnext : w.nextCall ≤ w'.nextCall)
    (hcalls : ∀ n < w.nextCall, w'.calls n = w.calls n)
    (hnew : ∀ n call, w'.calls n = some call → n < w'.nextCall)
    (happroval : w'.approval = w.approval) : w'.Settled := by
  refine ⟨hfresh, hnew, fun m n row h => ?_, fun m n row h hasks => ?_⟩
  · rw [happroval] at h
    exact lt_of_lt_of_le (hw.approved m n row h) hnext
  · rw [happroval] at h
    refine hgrows.settledBy (hw.settled m n row h hasks) fun call hcall hsettles => ?_
    exact Or.inr (Or.inr (Or.inr ⟨call, by rw [hcalls n (hw.approved m n row h), hcall], hsettles⟩))

/-- A call goes on, and stores no approval. -/
lemma settled_goesOn (hw : w.Settled) (hgrows : w.Grows w')
    (hfresh : ∀ vp ∈ w'.printers, vp.id < w'.nextPrinter) (hnext : w'.nextCall = w.nextCall)
    (hn : n < w.nextCall) (hcalls : ∀ n', n' ≠ n → w'.calls n' = w.calls n')
    (happroval : w'.approval = w.approval)
    (hcall : ∀ m row call, w.approval m = some (n, row) → row.asks = true → w.calls n = some call →
      call.settles m = true → w'.SettledBy m n) : w'.Settled := by
  refine ⟨hfresh, fun n' call h => ?_, fun m n' row h => ?_, fun m n' row h hasks => ?_⟩
  · rw [hnext]
    by_cases hne : n' = n
    · exact hne ▸ hn
    · exact hw.numbered n' call (by rw [← hcalls n' hne, h])
  · rw [happroval] at h
    rw [hnext]
    exact hw.approved m n' row h
  · rw [happroval] at h
    refine hgrows.settledBy (hw.settled m n' row h hasks) fun call hc hsettles => ?_
    by_cases hne : n' = n
    · subst hne
      exact hcall m row call h hasks hc hsettles
    · exact Or.inr (Or.inr (Or.inr ⟨call, by rw [hcalls n' hne, hc], hsettles⟩))

/-- A call goes on, and nothing else happens. -/
lemma settled_setCall (hw : w.Settled) {call : PairingCall} (hcall : w.calls n = some call)
    (next : Option PairingCall) (hnext : ∀ m, call.settles m = true →
      (∃ row, w.approval m = some (n, row) ∧ row.asks = true) →
        (w.setCall n next).SettledBy m n) : (w.setCall n next).Settled := by
  have hkept : w.PairingKept (w.setCall n next) := pairingKept_of_clients rfl rfl
  refine settled_goesOn hw (hkept.grows (fun _ h => h) fun _ h => h) hw.fresh rfl
    (hw.numbered n call hcall) (fun n' hne => Function.update_of_ne hne _ _) rfl ?_
  intro m row call' happroval hasks hcall' hsettles
  obtain rfl := Option.some.inj (hcall.symm.trans hcall')
  exact hnext m hsettles ⟨row, happroval, hasks⟩

lemma insertRow_of_free {vp : VirtualPrinter} {printers : PrinterTable}
    (hid : ∀ row ∈ printers, row.id ≠ vp.id) (hname : ∀ row ∈ printers, row.ippName ≠ vp.ippName) :
    printers.insertRow vp = some (printers ++ [vp]) := by
  unfold PrinterTable.insertRow
  rw [if_neg]
  simp only [List.any_eq_true, Bool.or_eq_true, beq_iff_eq, not_exists, not_and, not_or]
  exact fun row hrow => ⟨hid row hrow, hname row hrow⟩

lemma fresh_append (hw : w.Settled) {vp : VirtualPrinter} (hid : vp.id = w.nextPrinter) :
    ∀ row ∈ w.printers ++ [vp], row.id < w.nextPrinter + 1 := by
  intro row hrow
  rcases List.mem_append.mp hrow with hrow | hrow
  · exact Nat.lt_succ_of_lt (hw.fresh row hrow)
  · obtain rfl := List.mem_singleton.mp hrow
    rw [hid]
    exact Nat.lt_succ_self _

/-- The insert of a printer: if it is owed, it succeeds. -/
lemma settled_creating (hw : w.Settled) {name : String} {driver : Option String} {ok : Bool}
    (hcall : w.calls n = some (.creating m name driver))
    (hlaw : w.Owes n m → ok = true ∧ ∀ vp ∈ w.printers, vp.ippName ≠ slugify ipp.tables name) :
    (w.runCall ipp n ok (.creating m name driver)).Settled := by
  simp only [runCall]
  split
  next printers hinsert =>
    obtain ⟨hprinters, -⟩ := PrinterTable.insertRow_eq hinsert
    have hkept : w.PairingKept
        { w.setCall n (some (.adding m (w.printer ipp name (some m)) driver)) with
          printers := printers
          nextPrinter := w.nextPrinter + 1
          created := w.printer ipp name (some m) :: w.created } := pairingKept_of_clients rfl rfl
    refine settled_goesOn hw (hkept.grows (fun _ h => List.mem_cons_of_mem _ h) fun _ h => h) ?_ rfl
      (hw.numbered n _ hcall) (fun n' hne => Function.update_of_ne hne _ _) rfl ?_
    · intro row hrow
      rw [hprinters] at hrow
      exact fresh_append hw rfl row hrow
    · intro m' row call _ _ hcall' hsettles
      obtain rfl := Option.some.inj (hcall.symm.trans hcall')
      obtain rfl : m = m' := by simpa [PairingCall.settles] using hsettles
      exact Or.inl ⟨_, List.mem_cons_self, rfl⟩
  next hfailed =>
    refine settled_setCall hw hcall _ fun m' hsettles happroval => ?_
    obtain rfl : m = m' := by simpa [PairingCall.settles] using hsettles
    by_contra hnot
    simp only [SettledBy, not_or] at hnot
    -- the printer is still owed, so its name is free and the storage works
    obtain ⟨rfl, hfree⟩ := hlaw ⟨happroval, hnot.1, hnot.2.2.1⟩
    exact hfailed _ (insertRow_of_free (fun row hrow => (hw.fresh row hrow).ne) hfree) rfl

/-- The approval is stored. -/
lemma settled_approving (hw : w.Settled) {client : ClientRegistration} {ok : Bool}
    (hcall : w.calls n = some (.approving m client))
    (hlaw : ∀ row, w.clients m = some row → row.asks = true → ok = true →
      client.virtualPrinterName = none → w.Served m) :
    (w.runCall ipp n ok (.approving m client)).Settled := by
  have hnone : ∀ m', (PairingCall.approving m client).settles m' = true → False :=
    fun _ h => nomatch h
  have hn := hw.numbered n _ hcall
  simp only [runCall]
  split
  next row clients hrow hupdate =>
    have hpairing : ∀ w' : ApprovalWorld, w'.clients = clients →
        w'.pairing = Function.update w.pairing m (some .approved) :=
      fun w' h => pairing_updatePairingState hupdate h
    generalize hw' : ({ w.setCall n (some (afterApproval m client)) with
      clients := clients
      decisions := (m, .approved) :: w.decisions
      approval := Function.update w.approval m (some (n, row)) } : ApprovalWorld) = w'
    have hcalls : w'.calls = Function.update w.calls n (some (afterApproval m client)) := by
      rw [← hw']
      rfl
    have happroval : w'.approval = Function.update w.approval m (some (n, row)) := by rw [← hw']
    have hothers : ∀ m', m' ≠ m → w.TriesAgain m' → w'.TriesAgain m' := by
      intro m' hne htries
      rw [triesAgain_iff_pairing] at htries ⊢
      rw [hpairing w' (by rw [← hw']), Function.update_of_ne hne]
      exact htries
    have hcreated : w'.created = w.created := by rw [← hw']; rfl
    have hanswers : w'.answers = w.answers := by rw [← hw']; rfl
    refine ⟨?_, fun n' call h => ?_, fun m' n' row' h => ?_, fun m' n' row' h hasks => ?_⟩
    · rw [← hw']
      exact hw.fresh
    · have hnext : w'.nextCall = w.nextCall := by rw [← hw']; rfl
      rw [hnext]
      by_cases hne : n' = n
      · exact hne ▸ hn
      · rw [hcalls, Function.update_of_ne hne] at h
        exact hw.numbered n' call h
    · have hnext : w'.nextCall = w.nextCall := by rw [← hw']; rfl
      rw [hnext]
      rw [happroval] at h
      by_cases hne : m' = m
      · subst hne
        rw [Function.update_self] at h
        cases h
        exact hn
      · rw [Function.update_of_ne hne] at h
        exact hw.approved m' n' row' h
    · rw [happroval] at h
      by_cases hne : m' = m
      · -- the client that is approved now
        subst hne
        rw [Function.update_self] at h
        cases h
        rcases hname : client.virtualPrinterName with _ | name
        · obtain ⟨vp, hvp, hpaired⟩ := hlaw row hrow hasks rfl hname
          exact Or.inl ⟨vp, hcreated ▸ hvp, hpaired⟩
        · refine Or.inr (Or.inr (Or.inr ⟨afterApproval m' client, ?_, ?_⟩))
          · rw [hcalls, Function.update_self]
          · simp only [afterApproval, hname]
            rcases checkDriverName client.virtualPrinterDriver with reason | driver
            · rfl
            · simp [PairingCall.settles]
      · rw [Function.update_of_ne hne] at h
        rcases hw.settled m' n' row' h hasks with hserved | ⟨reason, hreason⟩ | htries |
          ⟨call, hcall', hsettles⟩
        · obtain ⟨vp, hvp, hpaired⟩ := hserved
          exact Or.inl ⟨vp, hcreated ▸ hvp, hpaired⟩
        · exact Or.inr (Or.inl ⟨reason, hanswers ▸ hreason⟩)
        · exact Or.inr (Or.inr (Or.inl (hothers m' hne htries)))
        · refine Or.inr (Or.inr (Or.inr ⟨call, ?_, hsettles⟩))
          have hnn : n' ≠ n := by
            rintro rfl
            obtain rfl := Option.some.inj (hcall.symm.trans hcall')
            cases hsettles
          rw [hcalls, Function.update_of_ne hnn, hcall']
  next => exact settled_setCall hw hcall _ fun m' hsettles => (hnone m' hsettles).elim

/-- The rejection is stored: a later approval tries again. -/
lemma settled_rejecting (hw : w.Settled) {ok : Bool}
    (hcall : w.calls n = some (.rejecting m)) : (w.runCall ipp n ok (.rejecting m)).Settled := by
  have hnone : ∀ m', (PairingCall.rejecting m).settles m' = true → False := fun _ h => nomatch h
  simp only [runCall]
  split
  next clients hupdate =>
    have hpairing : ∀ w' : ApprovalWorld, w'.clients = clients →
        w'.pairing = Function.update w.pairing m (some .rejected) :=
      fun w' h => pairing_updatePairingState hupdate h
    refine settled_goesOn hw ⟨fun _ h => h, fun _ h => h, fun m' htries => ?_⟩ hw.fresh rfl
      (hw.numbered n _ hcall) (fun n' hne => Function.update_of_ne hne _ _) rfl ?_
    · rw [triesAgain_iff_pairing] at htries ⊢
      rw [hpairing _ rfl]
      by_cases hne : m' = m
      · subst hne
        exact ⟨.rejected, Function.update_self .., nofun⟩
      · rw [Function.update_of_ne hne]
        exact htries
    · intro m' row call _ _ hcall' hsettles
      obtain rfl := Option.some.inj (hcall.symm.trans hcall')
      exact (hnone m' hsettles).elim
  next => exact settled_setCall hw hcall _ fun m' hsettles => (hnone m' hsettles).elim

lemma settled_answering (hw : w.Settled) {answer : PairingAnswer} {ok : Bool}
    (hcall : w.calls n = some (.answering answer)) :
    (w.runCall ipp n ok (.answering answer)).Settled := by
  have hkept : w.PairingKept { w.setCall n none with answers := (n, answer) :: w.answers } :=
    pairingKept_of_clients rfl rfl
  refine settled_goesOn hw (hkept.grows (fun _ h => h) fun _ h => List.mem_cons_of_mem _ h)
    hw.fresh rfl (hw.numbered n _ hcall) (fun n' hne => Function.update_of_ne hne _ _) rfl ?_
  intro m row call _ _ hcall' hsettles
  obtain rfl := Option.some.inj (hcall.symm.trans hcall')
  -- of the answers only a reason settles
  rcases answer with _ | _ | _ | _ | ⟨_ | _, _ | reason⟩ | _ <;> try cases hsettles
  exact Or.inr (Or.inl ⟨reason, List.mem_cons_self⟩)

lemma settled_runCall (hw : w.Settled) {call : PairingCall} {ok : Bool}
    (hcall : w.calls n = some call) (hlaw : careful ipp w (.call n ok) w') :
    (w.runCall ipp n ok call).Settled := by
  cases call with
  | approve m =>
    simp only [runCall]
    split <;> exact settled_setCall hw hcall _ fun _ h => nomatch h
  | approving m client =>
    simp only [careful, hcall] at hlaw
    exact settled_approving hw hcall hlaw
  | creating m name driver =>
    simp only [careful, hcall] at hlaw
    exact settled_creating hw hcall hlaw
  | adding m vp driver => exact settled_setCall hw hcall _ fun _ h => nomatch h
  | reject m =>
    simp only [runCall]
    split
    · split <;> exact settled_setCall hw hcall _ fun _ h => nomatch h
    · exact settled_setCall hw hcall _ fun _ h => nomatch h
  | rejecting m => exact settled_rejecting hw hcall
  | answering answer => exact settled_answering hw hcall

lemma fresh_updateRow (hw : w.Settled) {vp : VirtualPrinter} {printers : PrinterTable}
    (h : w.printers.updateRow vp = some printers) : ∀ row ∈ printers, row.id < w.nextPrinter := by
  unfold PrinterTable.updateRow at h
  split at h
  · cases h
  split at h
  next hthere =>
    obtain ⟨old, hold, hid⟩ := List.any_eq_true.mp hthere
    obtain rfl := Option.some.inj h
    intro row hrow
    obtain ⟨before, hbefore, rfl⟩ := List.mem_map.mp hrow
    split
    · rw [← beq_iff_eq.mp hid]
      exact hw.fresh old hold
    · exact hw.fresh before hbefore
  next => cases h

lemma settled_step (hw : w.Settled) {e : ApprovalStep} (h : w.step ipp e = some w')
    (hlaw : careful ipp w e w') : w'.Settled := by
  have hclients : ∀ {w' : ApprovalWorld}, w.PairingKept w' → w'.created = w.created →
      w'.answers = w.answers → w'.printers = w.printers → w'.nextPrinter = w.nextPrinter →
      w'.nextCall = w.nextCall → w'.calls = w.calls → w'.approval = w.approval → w'.Settled := by
    intro w' hkept hcreated hanswers hprinters hnextPrinter hnextCall hcalls happroval
    refine settled_aside hw (hkept.grows (fun _ h => hcreated ▸ h) fun _ h => hanswers ▸ h) ?_
      hnextCall.ge (fun _ _ => by rw [hcalls]) (fun n call h => ?_) happroval
    · rw [hprinters, hnextPrinter]
      exact hw.fresh
    · rw [hcalls] at h
      rw [hnextCall]
      exact hw.numbered n call h
  have hprinters : ∀ (printers : PrinterTable) (next : ℕ), (∀ vp ∈ printers, vp.id < next) →
      ({ w with printers := printers, nextPrinter := next } : ApprovalWorld).Settled := by
    intro printers next hfresh
    have hkept : w.PairingKept { w with printers := printers, nextPrinter := next } :=
      pairingKept_of_clients rfl rfl
    exact settled_aside hw (hkept.grows (fun _ h => h) fun _ h => h) hfresh le_rfl
      (fun _ _ => rfl) hw.numbered rfl
  have hstart : ∀ call, (w.startCall call).Settled := by
    intro call
    have hkept : w.PairingKept (w.startCall call) := pairingKept_of_clients rfl rfl
    refine settled_aside hw (hkept.grows (fun _ h => h) fun _ h => h) hw.fresh (Nat.le_succ _)
      (fun n hn => Function.update_of_ne hn.ne _ _) (fun n c hc => ?_) rfl
    by_cases hn : n = w.nextCall
    · exact hn ▸ Nat.lt_succ_self _
    · change Function.update w.calls w.nextCall (some call) n = some c at hc
      rw [Function.update_of_ne hn] at hc
      exact Nat.lt_succ_of_lt (hw.numbered n c hc)
  by_cases he : ∃ n ok, e = .call n ok
  · obtain ⟨n, ok, rfl⟩ := he
    obtain ⟨call, hcall, rfl⟩ := Option.map_eq_some_iff.mp h
    exact settled_runCall hw hcall hlaw
  have hkept := pairingKept_of_step (fun n ok heq => he ⟨n, ok, heq⟩) h
  cases e with
  | subscribe now identity ok =>
    obtain rfl := Option.some.inj h
    exact hclients hkept rfl rfl rfl rfl rfl rfl rfl
  | setOnline now m online =>
    obtain rfl := Option.some.inj h
    exact hclients hkept rfl rfl rfl rfl rfl rfl rfl
  | heartbeat now m =>
    obtain rfl := Option.some.inj h
    exact hclients hkept rfl rfl rfl rfl rfl rfl rfl
  | restart =>
    obtain rfl := Option.some.inj h
    refine ⟨hw.fresh, fun n call hcall => (nomatch hcall), hw.approved,
      fun m n row happroval hasks => ?_⟩
    have hgrows := hkept.grows (fun _ h => h) fun _ h => h
    refine hgrows.settledBy (hw.settled m n row happroval hasks) fun call hcall _ => ?_
    -- the call is lost, so it owed nothing
    by_contra hnot
    simp only [SettledBy, not_or] at hnot
    have howes : w.Owes n m := ⟨⟨row, happroval, hasks⟩,
      fun hserved => hnot.1 (hgrows.served hserved),
      fun htries => hnot.2.2.1 (hgrows.tries m htries)⟩
    rw [hlaw m n howes] at hcall
    cases hcall
  | createPrinter displayName pairedClientId =>
    obtain ⟨printers, hinsert, rfl⟩ := Option.map_eq_some_iff.mp h
    obtain ⟨rfl, -⟩ := PrinterTable.insertRow_eq hinsert
    exact hprinters _ _ (fresh_append hw rfl)
  | updatePrinter vp =>
    obtain ⟨printers, hupdate, rfl⟩ := Option.map_eq_some_iff.mp h
    exact hprinters _ _ (fresh_updateRow hw hupdate)
  | deletePrinter id =>
    obtain ⟨printers, hdelete, rfl⟩ := Option.map_eq_some_iff.mp h
    refine hprinters _ _ fun vp hvp => ?_
    unfold PrinterTable.deleteRow at hdelete
    split at hdelete
    · obtain rfl := Option.some.inj hdelete
      exact hw.fresh vp (List.mem_filter.mp hvp).1
    · cases hdelete
  | approve m =>
    obtain rfl := Option.some.inj h
    exact hstart _
  | reject m =>
    obtain rfl := Option.some.inj h
    exact hstart _
  | call n ok => exact absurd ⟨n, ok, rfl⟩ he

/-! ### Runs -/

lemma settled_init : init.Settled :=
  ⟨fun _ h => (nomatch h), fun _ _ h => (nomatch h), fun _ _ _ h => (nomatch h),
    fun _ _ _ h => (nomatch h)⟩

end ApprovalWorld

/-- Whoever is approved was approved by the last decision of an administrator; and if nothing goes
wrong between a decision and its printer, an approval leaves a printer or a reason behind. -/
theorem approval_settled (ipp : IppConfig) :
    (∀ w, (approvalServer ipp).Reach Transition.free w → w.DecidedByAdministrator) ∧
      ∀ w, (approvalServer ipp).Reach (ApprovalWorld.careful ipp) w → w.AllOrNothing := by
  refine ⟨fun w hw => ?_, fun w hw => ?_⟩
  · exact hw.invariant (P := ApprovalWorld.DecidedByAdministrator) (fun _ _ h => (nomatch h))
      fun _ _ _ _ hdecided hstep _ => ApprovalWorld.decided_step hdecided hstep
  · exact ApprovalWorld.allOrNothing_of_settled (hw.invariant ApprovalWorld.settled_init
      fun _ _ _ _ hsettled hstep hlaw => ApprovalWorld.settled_step hsettled hstep hlaw)

/-! ### Two runs -/

/-- A client that asks for a printer. -/
def askingClient : ClientIdentity where
  machineId := "store"
  hostname := "host"
  printerNames := []
  clientVersion := "1"
  virtualPrinterName := "kasa"
  virtualPrinterDriver := ""

def plainNames : IppConfig := ⟨⟨id, Char.isAlphanum⟩, "printer"⟩

/-- A test that a step is careful, without asking what is owed. -/
def carefulTest (w : ApprovalWorld) (e : ApprovalStep) (_ : ApprovalWorld) : Bool :=
  match e with
  | .call n ok =>
    match w.calls n with
    | some (.approving _ client) => client.virtualPrinterName.isSome
    | some (.creating _ name _) =>
      ok && w.printers.all fun vp => vp.ippName != slugify plainNames.tables name
    | _ => true
  | .restart => false
  | _ => true

lemma careful_of_test {e : ApprovalStep} (h : carefulTest w e w' = true) :
    ApprovalWorld.careful plainNames w e w' := by
  cases e with
  | call n ok =>
    unfold carefulTest at h
    unfold ApprovalWorld.careful
    rcases hcall : w.calls n with _ | call
    · simp only [hcall]
    · cases call with
      | approving m client =>
        simp only [hcall] at h ⊢
        intro _ _ _ _ hnone
        simp [hnone] at h
      | creating m name driver =>
        simp only [hcall] at h ⊢
        intro _
        simpa using h
      | _ => simp only [hcall]
  | restart => cases h
  | _ => trivial

/-- A client is approved and gets its printer. -/
theorem approval_settled_store : ∃ w,
    (approvalServer plainNames).Reach (ApprovalWorld.careful plainNames) w ∧
      w.AllOrNothing ∧ w.created.length = 1 ∧ (w.approval "store").isSome = true := by
  obtain ⟨w, hw, hgoal⟩ := (approvalServer plainNames).reach_of_tests
    (ApprovalWorld.careful plainNames)
    ([.subscribe 0 askingClient true, .approve "store"] ++ List.replicate 5 (.call 0 true))
    (fun w => w.created.length == 1 && (w.approval "store").isSome)
    (fun _ _ _ => careful_of_test) (by decide +kernel)
    (by decide +kernel)
  simp only [Bool.and_eq_true, beq_iff_eq] at hgoal
  exact ⟨w, hw, (approval_settled plainNames).2 w hw, hgoal.1, hgoal.2⟩

/-- The name of the printer is taken: the client is approved without one, the call answers no
reason, and a later one answers that the client is approved. -/
theorem approved_without_printer : ¬ ∀ (ipp : IppConfig) (w : ApprovalWorld),
    (approvalServer ipp).Reach Transition.free w →
      w.DecidedByAdministrator ∧ w.AllOrNothing := by
  intro h
  obtain ⟨w, hw, hgoal⟩ := (approvalServer plainNames).reach_of_run
    ([.createPrinter "kasa" none, .subscribe 0 askingClient true, .approve "store"] ++
      List.replicate 4 (.call 0 true))
    (fun w => (w.approval "store").any (fun a => a.1 == 0 && a.2.asks) && w.created.isEmpty &&
      w.answers == [(0, .approved none none)] && (w.calls 0).isNone &&
      (w.lookUp "store" true).isLeft) (by decide +kernel)
  simp only [Bool.and_eq_true, beq_iff_eq, List.isEmpty_iff, Option.isNone_iff_eq_none,
    Option.any_eq_true] at hgoal
  obtain ⟨⟨⟨⟨⟨⟨n, row⟩, happroval, rfl, hasks⟩, hcreated⟩, hanswers⟩, hcall⟩, hlook⟩ := hgoal
  rcases (h plainNames w hw).2 "store" _ row happroval hasks with
    ⟨vp, hvp, -⟩ | ⟨reason, hreason⟩ | ⟨call, hsome⟩ | ⟨row', htries⟩
  · rw [hcreated] at hvp
    cases hvp
  · rw [hanswers] at hreason
    simp at hreason
  · rw [hcall] at hsome
    cases hsome
  · rw [htries] at hlook
    cases hlook

end Server

end DevBridge

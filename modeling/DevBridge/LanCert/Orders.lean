import DevBridge.LanCert.Issuer

/-!
# Certificate orders

The slot of a name against the orders of the name: it is busy as long as one of them lives, and
it keeps the time of the last certificate.  The caller of an order was looked at before, in two
earlier states of the same request.
-/

namespace DevBridge

namespace Certificates

open Transition (free)

/-! ### What is said about orders -/

/-- The names of an extension. -/
def ParsedExtension.names : ParsedExtension → List GeneralName
  | subjectAlternativeName names => names
  | other => []

/-- All subjectAltNames of a CSR, if it can be read. -/
def subjectAltNames (x509 : X509) (csrDer : List UInt8) : Option (List GeneralName) :=
  match x509 csrDer with
  | .error _ => none
  | .ok extensions => some ((extensions.getD []).flatMap ParsedExtension.names)

/-- The guard of the order lives. -/
def Order.live (o : Order) : Bool :=
  match o.phase with
  | .settled _ _ => false
  | _ => true

/-- The order ended with a certificate. -/
def Order.isIssued (o : Order) : Bool :=
  match o.phase with
  | .ended result | .settled result _ => result.isIssued
  | _ => false

variable (issuer : CertificateIssuer)

/-- A state of the same run, before. -/
def Earlier (w₀ w : World) : Prop :=
  (server (some issuer)).Reach free w₀ ∧ (server (some issuer)).Leads free w₀ w

/-- Who asked for a certificate, and for what. -/
structure Passed (w : World) (r : RequestId) (request : CertificateRequest) : Prop where
  /-- The client's stream came from the address of the request when the request read it. -/
  onItsStream : ∃ w₀ ip, Earlier issuer w₀ w ∧
    w₀.requests r = some ⟨request, some ip, .arrived⟩ ∧ w₀.peerOf request.clientId = some ip
  /-- The client was approved when the request read its row. -/
  approved : ∃ w₀ peer, Earlier issuer w₀ w ∧
    w₀.requests r = some ⟨request, peer, .peerRead true⟩ ∧
      w₀.clients request.clientId = some .approved
  ownName : nameFor issuer.zone request.clientId = some request.hostname
  csr : subjectAltNames issuer.x509 request.csrDer = some [.dnsName request.hostname]

/-- The slots of the names against the orders. -/
structure Exclusive (minInterval : ℕ) (w : World) : Prop where
  /-- Of two orders for a name the first was over when the second began; and if it got a
  certificate, then for the interval. -/
  spaced : ∀ (i j : ℕ) (o o' : Order), w.orders[i]? = some o → w.orders[j]? = some o' →
    i < j → o.name = o'.name → ∃ result time, o.phase = .settled result time ∧
      time ≤ o'.reservedAt ∧ (result.isIssued = true → time + minInterval ≤ o'.reservedAt)
  busy : ∀ name, w.slots name = some .busy ↔ ∃ o ∈ w.orders, o.name = name ∧ o.live = true
  /-- After an order without a certificate the name is free. -/
  freed : ∀ (i : ℕ) (o : Order) result time, w.orders[i]? = some o →
    o.phase = .settled result time → result.isIssued = false →
    (∀ (j : ℕ) (o' : Order), w.orders[j]? = some o' → o'.name = o.name → j ≤ i) →
      w.slots o.name = none

/-- What an order does by itself, and the clock. -/
def byItself (i : ℕ) (r : RequestId) : Transition.Law World Event := fun _ e _ =>
  (∃ d, e = .tick d) ∨ e = .spawn r ∨ e = .ask i ∨ e = .cutOff i ∨ e = .settle i

/-- The order can end without the request and the authority, and its slot is not busy then. -/
def Settles (w : World) (i : ℕ) (o : Order) : Prop :=
  ∃ w' result time, (server (some issuer)).Leads (byItself i o.request) w w' ∧
    w'.orders[i]? = some { o with phase := .settled result time } ∧
      w'.slots o.name ≠ some .busy

/-! ### Names -/

/-- Two clients get the same name only if they differ in case alone. -/
lemma lowercase_eq_of_nameFor {zone name client client' : String}
    (h : nameFor zone client = some name) (h' : nameFor zone client' = some name) :
    toAsciiLowercase client = toAsciiLowercase client' := by
  unfold nameFor at h h'
  simp only [Option.ite_none_right_eq_some, Option.some.injEq] at h h'
  have heq := congrArg String.toList (h.2.trans h'.2.symm)
  simp only [String.toList_append] at heq
  exact String.toList_injective (List.append_cancel_right (List.append_cancel_right heq))

lemma foldlM_addName {san : List GeneralName} {names names' : List String}
    (h : san.foldlM addName names = .ok names') :
    names'.map .dnsName = names.map .dnsName ++ san := by
  induction san generalizing names with
  | nil =>
    obtain rfl : names = names' := Except.ok.inj h
    simp
  | cons name san ih =>
    rw [List.foldlM_cons] at h
    rcases name with dns | shown
    · change san.foldlM addName (names ++ [dns]) = _ at h
      rw [ih h, List.map_append, List.append_assoc]
      rfl
    · cases h

lemma foldlM_addNames {extensions : List ParsedExtension} {names names' : List String}
    (h : extensions.foldlM addNames names = .ok names') :
    names'.map .dnsName = names.map .dnsName ++ extensions.flatMap ParsedExtension.names := by
  induction extensions generalizing names with
  | nil =>
    obtain rfl : names = names' := Except.ok.inj h
    simp
  | cons extension extensions ih =>
    rw [List.foldlM_cons] at h
    rcases hnames : addNames names extension with e | names₁
    · rw [hnames] at h
      cases h
    rw [hnames] at h
    have hhead : names₁.map .dnsName = names.map .dnsName ++ extension.names := by
      rcases extension with san | _
      · exact foldlM_addName hnames
      · obtain rfl : names = names₁ := Except.ok.inj hnames
        exact (List.append_nil _).symm
    rw [ih h, hhead, List.flatMap_cons, List.append_assoc]

lemma subjectAltNames_of_csrDnsNames {x509 : X509} {csrDer : List UInt8} {names : List String}
    (h : csrDnsNames x509 csrDer = .ok names) :
    subjectAltNames x509 csrDer = some (names.map .dnsName) := by
  unfold csrDnsNames at h
  unfold subjectAltNames
  rcases hread : x509 csrDer with e | extensions
  · rw [hread] at h
    cases h
  · rw [hread] at h
    change some ((extensions.getD []).flatMap ParsedExtension.names) = _
    rw [foldlM_addNames h]
    rfl

/-- What a request that passes the checks has shown. -/
lemma check_ok {request : CertificateRequest} {caller : Caller} {ownName : String}
    (h : issuer.check request caller = .ok ownName) :
    caller = ⟨true, true⟩ ∧ ownName = request.hostname ∧
      nameFor issuer.zone request.clientId = some request.hostname ∧
        subjectAltNames issuer.x509 request.csrDer = some [.dnsName request.hostname] := by
  obtain ⟨approved, onItsStream⟩ := caller
  unfold CertificateIssuer.check at h
  split at h
  · cases h
  split at h
  · cases h
  split at h
  · cases h
  rename_i happroved hstream name hname
  rw [Option.filter_eq_some_iff, beq_iff_eq] at hname
  obtain ⟨hname, rfl⟩ := hname
  split at h
  · rename_i names hnames
    split_ifs at h with heq
    obtain rfl : request.hostname = ownName := Except.ok.inj h
    rw [heq] at hnames
    exact ⟨by simp_all, rfl, hname, subjectAltNames_of_csrDnsNames hnames⟩
  · cases h

/-! ### Steps -/

/-- What one step does. -/
inductive World.Move (w : World) : World → Prop
  /-- The clock, the clients and their streams. -/
  | surroundings (w' : World) (hnow : w.now ≤ w'.now) (hslots : w'.slots = w.slots)
      (hrequests : w'.requests = w.requests) (horders : w'.orders = w.orders) : Move w w'
  | arrives (r : RequestId) (request : CertificateRequest) (peer : Option IpAddr)
      (hnew : w.requests r = none) :
      Move w { w with requests := Function.update w.requests r (some ⟨request, peer, .arrived⟩) }
  | readsPeer (r : RequestId) (q : Request) (hq : w.requests r = some q)
      (hphase : q.phase = .arrived) :
      Move w (w.setRequest r q (.peerRead (samePeer (w.peerOf q.request.clientId) q.peer)))
  | passes (r : RequestId) (q : Request) (onItsStream approved : Bool) (ownName : String)
      (hq : w.requests r = some q) (hphase : q.phase = .peerRead onItsStream)
      (happroved : approved = true → w.clients q.request.clientId = some .approved)
      (hcheck : issuer.check q.request ⟨approved, onItsStream⟩ = .ok ownName) :
      Move w (w.setRequest r q (.checked ownName))
  /-- The request is answered or dropped. -/
  | ends (r : RequestId) (q : Request) (phase : RequestPhase) (hq : w.requests r = some q)
      (hold : ∀ i, q.phase ≠ .reserved i)
      (hphase : phase = .dropped ∨ ∃ answer, phase = .answered answer) :
      Move w (w.setRequest r q phase)
  | reserves (r : RequestId) (q : Request) (ownName : String) (hq : w.requests r = some q)
      (hphase : q.phase = .checked ownName)
      (hfree : slotFree (w.slots ownName) w.now issuer.minInterval ownName = .ok ()) :
      Move w { (w.setSlot ownName (some .busy)).setRequest r q (.reserved w.orders.length) with
        orders := w.orders ++
          [⟨r, q.request.clientId, ownName, q.request.csrDer, w.now, .reserved⟩] }
  | spawns (r : RequestId) (q : Request) (i : ℕ) (o : Order) (hq : w.requests r = some q)
      (hphase : q.phase = .reserved i) (ho : w.orders[i]? = some o)
      (hreserved : o.phase = .reserved) :
      Move w ((w.setOrder i o .spawned).setRequest r q (.waiting i w.now))
  /-- The task of the order goes on. -/
  | works (i : ℕ) (o : Order) (phase : OrderPhase) (ho : w.orders[i]? = some o)
      (hold : o.live = true) (hlive : ∀ result time, phase ≠ .settled result time)
      (hphase : phase ≠ .reserved) : Move w (w.setOrder i o phase)
  | settles (i : ℕ) (o : Order) (result : OrderResult) (ho : w.orders[i]? = some o)
      (hended : o.phase = .ended result) :
      Move w ((w.setSlot o.name (if result.isIssued then some (.issued w.now) else none)).setOrder
        i o (.settled result w.now))

lemma disconnect_surroundings (w : World) (machineId connectionId : String) :
    w.Move issuer (w.disconnect machineId connectionId) := by
  unfold World.disconnect
  split <;> exact .surroundings _ le_rfl rfl rfl rfl

section Moves

variable {issuer} {w w' : World} {r : RequestId} {i : ℕ}

lemma check_move {readable : Bool} (h : w.check issuer r readable = some w') :
    w.Move issuer w' := by
  obtain ⟨q, hq, h⟩ := Option.bind_eq_some_iff.mp h
  split at h
  · rename_i onItsStream hphase
    rcases hcheck : issuer.check q.request
      ⟨readable && w.clients q.request.clientId == some .approved, onItsStream⟩ with
      refusal | ownName
    · simp only [hcheck, Option.some.injEq] at h
      exact h ▸ .ends r q _ hq (by simp [hphase]) (.inr ⟨_, rfl⟩)
    · simp only [hcheck, Option.some.injEq] at h
      refine h ▸ .passes r q onItsStream _ ownName hq hphase (fun happroved => ?_) hcheck
      rw [Bool.and_eq_true, beq_iff_eq] at happroved
      exact happroved.2
  · cases h

lemma reserve_move (h : w.reserve issuer r = some w') : w.Move issuer w' := by
  obtain ⟨q, hq, h⟩ := Option.bind_eq_some_iff.mp h
  split at h
  · rename_i ownName hphase
    rcases hfree : slotFree (w.slots ownName) w.now issuer.minInterval ownName with refusal | _
    · simp only [hfree, Option.some.injEq] at h
      exact h ▸ .ends r q _ hq (by simp [hphase]) (.inr ⟨_, rfl⟩)
    · simp only [hfree, Option.some.injEq] at h
      exact h ▸ .reserves r q ownName hq hphase hfree
  · cases h

lemma spawn_move (h : w.spawn r = some w') : w.Move issuer w' := by
  obtain ⟨q, hq, h⟩ := Option.bind_eq_some_iff.mp h
  split at h
  · rename_i i hphase
    obtain ⟨o, ho, h⟩ := Option.bind_eq_some_iff.mp h
    split at h
    · rename_i hreserved
      obtain rfl := Option.some.inj h
      exact .spawns r q i o hq hphase ho hreserved
    · cases h
  · cases h

lemma answer_move (h : w.answer r = some w') : w.Move issuer w' := by
  obtain ⟨q, hq, h⟩ := Option.bind_eq_some_iff.mp h
  split at h
  · rename_i i since hphase
    obtain ⟨o, ho, h⟩ := Option.bind_eq_some_iff.mp h
    split at h
    · obtain rfl := Option.some.inj h
      exact .ends r q _ hq (by simp [hphase]) (.inr ⟨_, rfl⟩)
    · cases h
  · cases h

lemma answerTimeout_move (h : w.answerTimeout issuer r = some w') : w.Move issuer w' := by
  obtain ⟨q, hq, h⟩ := Option.bind_eq_some_iff.mp h
  split at h
  · rename_i i since hphase
    split_ifs at h
    obtain rfl := Option.some.inj h
    exact .ends r q _ hq (by simp [hphase]) (.inr ⟨_, rfl⟩)
  · cases h

lemma drop_move (h : w.drop r = some w') : w.Move issuer w' := by
  obtain ⟨q, hq, h⟩ := Option.bind_eq_some_iff.mp h
  split at h
  · rename_i hphase
    obtain rfl := Option.some.inj h
    exact .ends r q _ hq (by simp [hphase]) (.inl rfl)
  · rename_i i since hphase
    obtain rfl := Option.some.inj h
    exact .ends r q _ hq (by simp [hphase]) (.inl rfl)
  · cases h

lemma ask_move (h : w.ask i = some w') : w.Move issuer w' := by
  obtain ⟨o, ho, h⟩ := Option.bind_eq_some_iff.mp h
  split at h
  · rename_i hphase
    obtain rfl := Option.some.inj h
    exact .works i o _ ho (by simp [Order.live, hphase]) (by simp) (by simp)
  · cases h

lemma finish_move {result : OrderResult} (h : w.finish i result = some w') :
    w.Move issuer w' := by
  obtain ⟨o, ho, h⟩ := Option.bind_eq_some_iff.mp h
  split at h
  · rename_i since hphase
    obtain rfl := Option.some.inj h
    exact .works i o _ ho (by simp [Order.live, hphase]) (by simp) (by simp)
  · cases h

lemma cutOff_move (h : w.cutOff issuer i = some w') : w.Move issuer w' := by
  obtain ⟨o, ho, h⟩ := Option.bind_eq_some_iff.mp h
  split at h
  · rename_i since hphase
    split_ifs at h
    obtain rfl := Option.some.inj h
    exact .works i o _ ho (by simp [Order.live, hphase]) (by simp) (by simp)
  · cases h

lemma settle_move (h : w.settle i = some w') : w.Move issuer w' := by
  obtain ⟨o, ho, h⟩ := Option.bind_eq_some_iff.mp h
  split at h
  · rename_i result hphase
    obtain rfl := Option.some.inj h
    exact .settles i o result ho hphase
  · cases h

lemma step_move {e : Event} (h : step (some issuer) w e = some w') : w.Move issuer w' := by
  cases e with
  | tick d =>
    obtain rfl := Option.some.inj h
    exact .surroundings _ (Nat.le_add_right _ _) rfl rfl rfl
  | setClient machineId state =>
    obtain rfl := Option.some.inj h
    exact .surroundings _ le_rfl rfl rfl rfl
  | connected machineId connectionId peer =>
    obtain rfl := Option.some.inj h
    exact .surroundings _ le_rfl rfl rfl rfl
  | disconnected machineId connectionId =>
    obtain rfl := Option.some.inj h
    exact disconnect_surroundings issuer w machineId connectionId
  | request r request peer =>
    change (if _ then _ else _) = _ at h
    split_ifs at h with hnew
    obtain rfl := Option.some.inj h
    exact .arrives r request peer (by simpa using hnew)
  | readPeer r =>
    obtain ⟨q, hq, h⟩ := Option.bind_eq_some_iff.mp h
    split at h
    · rename_i hphase
      obtain rfl := Option.some.inj h
      exact .readsPeer r q hq hphase
    · cases h
  | check r readable => exact check_move h
  | reserve r => exact reserve_move h
  | spawn r => exact spawn_move h
  | answer r => exact answer_move h
  | answerTimeout r => exact answerTimeout_move h
  | drop r => exact drop_move h
  | ask i => exact ask_move h
  | finish i result => exact finish_move h
  | cutOff i => exact cutOff_move h
  | settle i => exact settle_move h

end Moves

/-! ### The slots against the orders -/

/-- What holds of the slots and the orders in every state. -/
structure Ledger (minInterval : ℕ) (w : World) : Prop where
  spaced : ∀ (i j : ℕ) (o o' : Order), w.orders[i]? = some o → w.orders[j]? = some o' →
    i < j → o.name = o'.name → ∃ result time, o.phase = .settled result time ∧
      time ≤ o'.reservedAt ∧ (result.isIssued = true → time + minInterval ≤ o'.reservedAt)
  busy : ∀ name, w.slots name = some .busy ↔
    ∃ (i : ℕ) (o : Order), w.orders[i]? = some o ∧ o.name = name ∧ o.live = true
  /-- A slot keeps the time of the last order of its name. -/
  issued : ∀ name time, w.slots name = some (.issued time) →
    ∃ (i : ℕ) (o : Order) (chainPem : String), w.orders[i]? = some o ∧ o.name = name ∧
      o.phase = .settled (.issued chainPem) time ∧
        ∀ (j : ℕ) (o' : Order), w.orders[j]? = some o' → o'.name = name → j ≤ i
  /-- The interval after a certificate is over, or the slot still knows of it. -/
  paced : ∀ (i : ℕ) (o : Order) result time, w.orders[i]? = some o →
    o.phase = .settled result time → time ≤ w.now ∧ (result.isIssued = true →
      time + minInterval ≤ w.now ∨ ∃ later, w.slots o.name = some (.issued later) ∧ time ≤ later)

lemma Order.live_eq_false_iff {o : Order} :
    o.live = false ↔ ∃ result time, o.phase = .settled result time := by
  unfold Order.live
  split
  · rename_i result time hphase
    exact iff_of_true rfl ⟨result, time, hphase⟩
  · rename_i hphase
    exact iff_of_false (by simp) fun ⟨result, time, h⟩ => hphase result time h

lemma getElem?_set_cases {α : Type} {l : List α} {i j : ℕ} {a b : α}
    (h : (l.set i a)[j]? = some b) : (j = i ∧ b = a) ∨ (j ≠ i ∧ l[j]? = some b) := by
  rw [List.getElem?_set] at h
  split_ifs at h with hij hi
  · exact .inl ⟨hij.symm, (Option.some.inj h).symm⟩
  · exact .inr ⟨fun heq => hij heq.symm, h⟩

lemma getElem?_set_self {α : Type} {l : List α} {i : ℕ} {a o : α} (ho : l[i]? = some o) :
    (l.set i a)[i]? = some a := by
  obtain ⟨hi, -⟩ := List.getElem?_eq_some_iff.mp ho
  rw [List.getElem?_set_self hi]

lemma getElem?_append_cases {α : Type} {l : List α} {j : ℕ} {a b : α}
    (h : (l ++ [a])[j]? = some b) : (j = l.length ∧ b = a) ∨ (j < l.length ∧ l[j]? = some b) := by
  rw [List.getElem?_append] at h
  split_ifs at h with hj
  · exact .inr ⟨hj, h⟩
  · rw [List.getElem?_singleton] at h
    split_ifs at h with hzero
    exact .inl ⟨by omega, (Option.some.inj h).symm⟩

section Ledger

variable {minInterval : ℕ} {w w' : World} {i : ℕ} {o : Order}

lemma ledger_init (certificates : Option CertificateIssuer) :
    Ledger minInterval (server certificates).init := by
  constructor <;> simp [server]

lemma Ledger.congr (h : Ledger minInterval w) (horders : w'.orders = w.orders)
    (hslots : w'.slots = w.slots) (hnow : w.now ≤ w'.now) : Ledger minInterval w' := by
  constructor
  · rw [horders]
    exact h.spaced
  · rw [horders, hslots]
    exact h.busy
  · rw [horders, hslots]
    exact h.issued
  · intro i o result time ho hphase
    rw [horders] at ho
    rw [hslots]
    obtain ⟨htime, hpaced⟩ := h.paced i o result time ho hphase
    exact ⟨htime.trans hnow, fun hissued => (hpaced hissued).imp_left fun hle => hle.trans hnow⟩

/-- An order that lives is the last one of its name. -/
lemma Ledger.last (h : Ledger minInterval w) (ho : w.orders[i]? = some o)
    (hlive : o.live = true) {j : ℕ} {o' : Order} (ho' : w.orders[j]? = some o')
    (hname : o'.name = o.name) : j ≤ i := by
  by_contra hlt
  obtain ⟨result, time, hphase, -⟩ := h.spaced i j o o' ho ho' (by omega) hname.symm
  rw [Order.live_eq_false_iff.mpr ⟨result, time, hphase⟩] at hlive
  cases hlive

/-- It is the only one of its name that lives. -/
lemma Ledger.only (h : Ledger minInterval w) (ho : w.orders[i]? = some o)
    (hlive : o.live = true) {j : ℕ} {o' : Order} (ho' : w.orders[j]? = some o')
    (hname : o'.name = o.name) (hlive' : o'.live = true) : j = i :=
  le_antisymm (h.last ho hlive ho' hname) (h.last ho' hlive' ho hname.symm)

lemma Ledger.spaced_set (h : Ledger minInterval w) (ho : w.orders[i]? = some o)
    (hlive : o.live = true) (phase : OrderPhase) (j k : ℕ) (o₁ o₂ : Order)
    (h₁ : (w.orders.set i { o with phase })[j]? = some o₁)
    (h₂ : (w.orders.set i { o with phase })[k]? = some o₂) (hlt : j < k)
    (hname : o₁.name = o₂.name) : ∃ result time, o₁.phase = .settled result time ∧
      time ≤ o₂.reservedAt ∧ (result.isIssued = true → time + minInterval ≤ o₂.reservedAt) := by
  rcases getElem?_set_cases h₁ with ⟨rfl, rfl⟩ | ⟨-, h₁'⟩
  · -- an order that lives has none behind it
    rcases getElem?_set_cases h₂ with ⟨rfl, rfl⟩ | ⟨-, h₂'⟩
    · exact absurd hlt (lt_irrefl _)
    · exact absurd (h.last ho hlive h₂' hname.symm) (by omega)
  · rcases getElem?_set_cases h₂ with ⟨rfl, rfl⟩ | ⟨-, h₂'⟩
    · exact h.spaced j k o₁ o h₁' ho hlt hname
    · exact h.spaced j k o₁ o₂ h₁' h₂' hlt hname

/-- The task of an order goes on. -/
lemma Ledger.work (h : Ledger minInterval w) (ho : w.orders[i]? = some o)
    (hold : o.live = true) (phase : OrderPhase)
    (hphase : ∀ result time, phase ≠ .settled result time) :
    Ledger minInterval (w.setOrder i o phase) := by
  have hlive : ({ o with phase } : Order).live = true := by
    by_contra hfalse
    obtain ⟨result, time, heq⟩ := Order.live_eq_false_iff.mp (Bool.eq_false_iff.mpr hfalse)
    exact hphase result time heq
  have hother : ∀ {j : ℕ} {o' : Order} {result time},
      (w.orders.set i { o with phase })[j]? = some o' → o'.phase = .settled result time →
      w.orders[j]? = some o' := fun ho' hsettled => by
    rcases getElem?_set_cases ho' with ⟨rfl, rfl⟩ | ⟨-, ho'⟩
    · exact absurd hsettled (hphase _ _)
    · exact ho'
  constructor
  · exact h.spaced_set ho hold phase
  · intro name
    rw [show (w.setOrder i o phase).slots = w.slots from rfl, h.busy]
    constructor
    · rintro ⟨j, o', ho', hname, hlive'⟩
      by_cases hij : i = j
      · subst hij
        obtain rfl := Option.some.inj (ho.symm.trans ho')
        exact ⟨i, _, getElem?_set_self ho, hname, hlive⟩
      · exact ⟨j, o', by rw [← ho']; exact List.getElem?_set_ne hij, hname, hlive'⟩
    · rintro ⟨j, o', ho', hname, hlive'⟩
      rcases getElem?_set_cases ho' with ⟨rfl, rfl⟩ | ⟨-, ho'⟩
      · exact ⟨j, o, ho, hname, hold⟩
      · exact ⟨j, o', ho', hname, hlive'⟩
  · intro name time hslot
    obtain ⟨j, o', chainPem, ho', hname, hsettled, hlast⟩ := h.issued name time hslot
    have hij : i ≠ j := by
      rintro rfl
      obtain rfl := Option.some.inj (ho.symm.trans ho')
      rw [Order.live_eq_false_iff.mpr ⟨_, _, hsettled⟩] at hold
      cases hold
    refine ⟨j, o', chainPem, (List.getElem?_set_ne hij).trans ho', hname, hsettled, ?_⟩
    intro k o'' ho'' hname'
    rcases getElem?_set_cases ho'' with ⟨rfl, rfl⟩ | ⟨-, ho''⟩
    · exact hlast k o ho hname'
    · exact hlast k o'' ho'' hname'
  · intro j o' result time ho' hsettled
    exact h.paced j o' result time (hother ho' hsettled) hsettled

/-- The guard of an order is dropped. -/
lemma Ledger.settle (h : Ledger minInterval w) (ho : w.orders[i]? = some o)
    (result : OrderResult) (hended : o.phase = .ended result) :
    Ledger minInterval ((w.setSlot o.name
      (if result.isIssued then some (.issued w.now) else none)).setOrder i o
        (.settled result w.now)) := by
  have hold : o.live = true := by simp [Order.live, hended]
  have hbusy : w.slots o.name = some .busy := (h.busy o.name).mpr ⟨i, o, ho, rfl, hold⟩
  constructor
  · exact h.spaced_set ho hold _
  · intro name
    by_cases hname : name = o.name
    · subst hname
      refine iff_of_false ?_ ?_
      · change Function.update w.slots o.name _ o.name ≠ _
        rw [Function.update_self]
        split <;> simp
      · rintro ⟨j, o', ho', hname', hlive⟩
        rcases getElem?_set_cases ho' with ⟨rfl, rfl⟩ | ⟨hji, ho'⟩
        · simp [Order.live] at hlive
        · exact hji (h.only ho hold ho' hname' hlive)
    · change Function.update w.slots o.name _ name = _ ↔ _
      rw [Function.update_of_ne hname, h.busy]
      constructor
      · rintro ⟨j, o', ho', hname', hlive⟩
        have hij : i ≠ j := by
          rintro rfl
          obtain rfl := Option.some.inj (ho.symm.trans ho')
          exact hname hname'.symm
        exact ⟨j, o', (List.getElem?_set_ne hij).trans ho', hname', hlive⟩
      · rintro ⟨j, o', ho', hname', hlive⟩
        rcases getElem?_set_cases ho' with ⟨rfl, rfl⟩ | ⟨-, ho'⟩
        · exact absurd hname'.symm hname
        · exact ⟨j, o', ho', hname', hlive⟩
  · intro name time hslot
    change Function.update w.slots o.name _ name = _ at hslot
    by_cases hname : name = o.name
    · subst hname
      rw [Function.update_self] at hslot
      rcases result with chainPem | e | e
      · obtain rfl : w.now = time := Slot.issued.inj (Option.some.inj hslot)
        refine ⟨i, _, chainPem, getElem?_set_self ho, rfl, rfl, fun k o' ho' hname' => ?_⟩
        rcases getElem?_set_cases ho' with ⟨rfl, -⟩ | ⟨-, ho'⟩
        · exact le_rfl
        · exact h.last ho hold ho' hname'
      · cases hslot
      · cases hslot
    · rw [Function.update_of_ne hname] at hslot
      obtain ⟨j, o', chainPem, ho', hname', hsettled, hlast⟩ := h.issued name time hslot
      have hij : i ≠ j := by
        rintro rfl
        obtain rfl := Option.some.inj (ho.symm.trans ho')
        exact hname hname'.symm
      refine ⟨j, o', chainPem, (List.getElem?_set_ne hij).trans ho', hname', hsettled, ?_⟩
      intro k o'' ho'' hname''
      rcases getElem?_set_cases ho'' with ⟨rfl, rfl⟩ | ⟨-, ho''⟩
      · exact absurd hname''.symm hname
      · exact hlast k o'' ho'' hname''
  · intro j o' result' time ho' hsettled
    change time ≤ w.now ∧ (_ → _ ∨ ∃ later, Function.update w.slots o.name _ o'.name = _ ∧ _)
    rcases getElem?_set_cases ho' with ⟨rfl, rfl⟩ | ⟨-, ho'⟩
    · obtain ⟨rfl, rfl⟩ := OrderPhase.settled.inj hsettled
      refine ⟨le_rfl, fun hissued => .inr ⟨w.now, ?_, le_rfl⟩⟩
      rw [Function.update_self, if_pos hissued]
    · obtain ⟨htime, hpaced⟩ := h.paced j o' result' time ho' hsettled
      refine ⟨htime, fun hissued => (hpaced hissued).imp_right fun ⟨later, hslot, hle⟩ => ?_⟩
      have hname : o'.name ≠ o.name := by
        intro heq
        rw [heq, hbusy] at hslot
        cases hslot
      exact ⟨later, by rw [Function.update_of_ne hname, hslot], hle⟩

/-- A name whose slot is free has no order that lives, and the interval is over. -/
lemma Ledger.over_of_free (h : Ledger minInterval w) {name : String}
    (hfree : slotFree (w.slots name) w.now minInterval name = .ok ()) (ho : w.orders[i]? = some o)
    (hname : o.name = name) : ∃ result time, o.phase = .settled result time ∧ time ≤ w.now ∧
      (result.isIssued = true → time + minInterval ≤ w.now) := by
  have hlive : o.live = false := by
    by_contra htrue
    have hbusy := (h.busy name).mpr ⟨i, o, ho, hname, Bool.not_eq_false _ ▸ htrue⟩
    rw [hbusy] at hfree
    cases hfree
  obtain ⟨result, time, hphase⟩ := Order.live_eq_false_iff.mp hlive
  obtain ⟨htime, hpaced⟩ := h.paced i o result time ho hphase
  refine ⟨result, time, hphase, htime, fun hissued => ?_⟩
  rcases hpaced hissued with hle | ⟨later, hslot, hle⟩
  · exact hle
  · rw [hname] at hslot
    obtain ⟨j, o', chainPem, ho', -, hsettled, -⟩ := h.issued name later hslot
    have hlater := (h.paced j o' _ later ho' hsettled).1
    simp only [hslot, slotFree] at hfree
    split_ifs at hfree
    omega

/-- The slot of a name is taken for a new order. -/
lemma Ledger.reserve (h : Ledger minInterval w)
    (hfree : slotFree (w.slots o.name) w.now minInterval o.name = .ok ())
    (hreserved : o.reservedAt = w.now) (hphase : o.phase = .reserved)
    (hnow : w'.now = w.now) (hslots : w'.slots = Function.update w.slots o.name (some .busy))
    (horders : w'.orders = w.orders ++ [o]) : Ledger minInterval w' := by
  have hkept : ∀ {j : ℕ} {o' : Order}, w.orders[j]? = some o' →
      (w.orders ++ [o])[j]? = some o' := fun ho' => by
    obtain ⟨hj, -⟩ := List.getElem?_eq_some_iff.mp ho'
    rw [List.getElem?_append_left hj, ho']
  have hlive : o.live = true := by simp [Order.live, hphase]
  constructor
  · rw [horders]
    intro j k o₁ o₂ h₁ h₂ hlt hname
    rcases getElem?_append_cases h₂ with ⟨rfl, rfl⟩ | ⟨hk, h₂⟩
    · rcases getElem?_append_cases h₁ with ⟨rfl, -⟩ | ⟨-, h₁⟩
      · exact absurd hlt (lt_irrefl _)
      · rw [hreserved]
        exact h.over_of_free hfree h₁ hname
    · rcases getElem?_append_cases h₁ with ⟨rfl, -⟩ | ⟨-, h₁⟩
      · omega
      · exact h.spaced j k o₁ o₂ h₁ h₂ hlt hname
  · rw [horders, hslots]
    intro name
    by_cases hname : name = o.name
    · subst hname
      rw [Function.update_self]
      exact iff_of_true rfl ⟨w.orders.length, o, by simp, rfl, hlive⟩
    · rw [Function.update_of_ne hname, h.busy]
      constructor
      · rintro ⟨j, o', ho', hname', hlive'⟩
        exact ⟨j, o', hkept ho', hname', hlive'⟩
      · rintro ⟨j, o', ho', hname', hlive'⟩
        rcases getElem?_append_cases ho' with ⟨-, rfl⟩ | ⟨-, ho'⟩
        · exact absurd hname'.symm hname
        · exact ⟨j, o', ho', hname', hlive'⟩
  · rw [horders, hslots]
    intro name time hslot
    have hname : name ≠ o.name := by
      rintro rfl
      rw [Function.update_self] at hslot
      cases hslot
    rw [Function.update_of_ne hname] at hslot
    obtain ⟨j, o', chainPem, ho', hname', hsettled, hlast⟩ := h.issued name time hslot
    refine ⟨j, o', chainPem, hkept ho', hname', hsettled, fun k o'' ho'' hname'' => ?_⟩
    rcases getElem?_append_cases ho'' with ⟨-, rfl⟩ | ⟨-, ho''⟩
    · exact absurd hname''.symm hname
    · exact hlast k o'' ho'' hname''
  · rw [horders, hslots, hnow]
    intro j o' result time ho' hsettled
    rcases getElem?_append_cases ho' with ⟨-, rfl⟩ | ⟨-, ho'⟩
    · rw [hphase] at hsettled
      cases hsettled
    · obtain ⟨htime, hpaced⟩ := h.paced j o' result time ho' hsettled
      refine ⟨htime, fun hissued => ?_⟩
      by_cases hname : o'.name = o.name
      · obtain ⟨result', time', hphase', -, hle⟩ := h.over_of_free hfree ho' hname
        obtain ⟨rfl, rfl⟩ := OrderPhase.settled.inj (hsettled.symm.trans hphase')
        exact .inl (hle hissued)
      · rw [Function.update_of_ne hname]
        exact hpaced hissued

end Ledger

lemma Ledger.move {w w' : World} (h : Ledger issuer.minInterval w) (hm : w.Move issuer w') :
    Ledger issuer.minInterval w' := by
  cases hm with
  | surroundings w' hnow hslots hrequests horders => exact h.congr horders hslots hnow
  | reserves r q ownName hq hphase hfree =>
    exact h.reserve (o := ⟨r, _, ownName, _, w.now, .reserved⟩) hfree rfl rfl rfl rfl rfl
  | spawns r q i o hq hphase ho hreserved =>
    exact (h.work ho (by simp [Order.live, hreserved]) .spawned (by simp)).congr rfl rfl le_rfl
  | works i o phase ho hold hlive hphase => exact h.work ho hold phase hlive
  | settles i o result ho hended => exact h.settle ho result hended
  | _ => exact h.congr rfl rfl le_rfl

lemma ledger_of_reach {w : World} (h : (server (some issuer)).Reach free w) :
    Ledger issuer.minInterval w :=
  h.invariant (ledger_init _) fun _ _ _ _ hw hstep _ => hw.move issuer (step_move hstep)

lemma exclusive_of_ledger {minInterval : ℕ} {w : World} (h : Ledger minInterval w) :
    Exclusive minInterval w := by
  refine ⟨h.spaced, fun name => ?_, ?_⟩
  · rw [h.busy]
    constructor
    · rintro ⟨i, o, ho, hname, hlive⟩
      exact ⟨o, List.mem_of_getElem? ho, hname, hlive⟩
    · rintro ⟨o, hmem, hname, hlive⟩
      obtain ⟨i, ho⟩ := List.mem_iff_getElem?.mp hmem
      exact ⟨i, o, ho, hname, hlive⟩
  · intro i o result time ho hphase hfailed hlast
    rcases hslot : w.slots o.name with _ | _ | time'
    · rfl
    · -- an order that lives would be the last of its name, but this one is over
      obtain ⟨j, o', ho', hname, hlive⟩ := (h.busy o.name).mp hslot
      have hij : i = j := le_antisymm (h.last ho' hlive ho hname.symm) (hlast j o' ho' hname)
      subst hij
      obtain rfl := Option.some.inj (ho.symm.trans ho')
      rw [Order.live_eq_false_iff.mpr ⟨_, _, hphase⟩] at hlive
      cases hlive
    · obtain ⟨j, o', chainPem, ho', hname, hissued, hlast'⟩ := h.issued o.name time' hslot
      have hij : i = j := le_antisymm (hlast' i o ho rfl) (hlast j o' ho' hname)
      subst hij
      obtain rfl := Option.some.inj (ho.symm.trans ho')
      obtain ⟨rfl, -⟩ := OrderPhase.settled.inj (hphase.symm.trans hissued)
      cases hfailed

/-! ### The callers of the orders -/

/-- What the requests on their way and the orders have shown until a state. -/
structure Vetted (w : World) (requests : RequestId → Option Request) (orders : List Order) :
    Prop where
  onItsStream : ∀ r q, requests r = some q → q.phase = .peerRead true →
    ∃ w₀ ip, Earlier issuer w₀ w ∧ w₀.requests r = some ⟨q.request, some ip, .arrived⟩ ∧
      w₀.peerOf q.request.clientId = some ip
  checked : ∀ r q ownName, requests r = some q → q.phase = .checked ownName →
    ownName = q.request.hostname ∧ Passed issuer w r q.request
  passed : ∀ o ∈ orders, Passed issuer w o.request ⟨o.client, o.name, o.csrDer⟩
  /-- An order before its task is in the hands of its request. -/
  held : ∀ (i : ℕ) (o : Order), orders[i]? = some o → o.phase = .reserved →
    ∃ q, requests o.request = some q ∧ q.phase = .reserved i

section Vetted

variable {issuer} {w w' w₀ : World} {requests : RequestId → Option Request} {orders : List Order}
  {r : RequestId} {q : Request}

lemma Earlier.leads (h : Earlier issuer w₀ w)
    (hl : (server (some issuer)).Leads free w w') : Earlier issuer w₀ w' :=
  ⟨h.1, h.2.trans hl⟩

lemma Passed.leads {request : CertificateRequest} (h : Passed issuer w r request)
    (hl : (server (some issuer)).Leads free w w') : Passed issuer w' r request := by
  obtain ⟨⟨w₁, ip, h₁, hstream⟩, ⟨w₂, peer, h₂, happroved⟩, hown, hcsr⟩ := h
  exact ⟨⟨w₁, ip, h₁.leads hl, hstream⟩, ⟨w₂, peer, h₂.leads hl, happroved⟩, hown, hcsr⟩

lemma Vetted.leads (h : Vetted issuer w requests orders)
    (hl : (server (some issuer)).Leads free w w') : Vetted issuer w' requests orders := by
  refine ⟨fun r q hq hphase => ?_, fun r q ownName hq hphase => ?_, fun o ho => ?_, h.held⟩
  · obtain ⟨w₀, ip, h₀, hread⟩ := h.onItsStream r q hq hphase
    exact ⟨w₀, ip, h₀.leads hl, hread⟩
  · exact (h.checked r q ownName hq hphase).imp_right fun hpassed => hpassed.leads hl
  · exact (h.passed o ho).leads hl

lemma vetted_init (w : World) : Vetted issuer w (fun _ => none) [] := by
  constructor <;> simp

/-- A request that holds no order goes on. -/
lemma Vetted.setRequest (h : Vetted issuer w requests orders)
    (hfree : ∀ (i : ℕ) (o : Order), orders[i]? = some o → o.phase = .reserved → o.request ≠ r)
    (hstream : q.phase = .peerRead true → ∃ w₀ ip, Earlier issuer w₀ w ∧
      w₀.requests r = some ⟨q.request, some ip, .arrived⟩ ∧
        w₀.peerOf q.request.clientId = some ip)
    (hchecked : ∀ ownName, q.phase = .checked ownName →
      ownName = q.request.hostname ∧ Passed issuer w r q.request) :
    Vetted issuer w (Function.update requests r (some q)) orders := by
  have hcases : ∀ {r' q'}, Function.update requests r (some q) r' = some q' →
      (r' = r ∧ q' = q) ∨ requests r' = some q' := fun {r' q'} h => by
    by_cases hr : r' = r
    · subst hr
      rw [Function.update_self] at h
      exact .inl ⟨rfl, (Option.some.inj h).symm⟩
    · rw [Function.update_of_ne hr] at h
      exact .inr h
  refine ⟨fun r' q' hq' => ?_, fun r' q' ownName hq' => ?_, h.passed, ?_⟩
  · rcases hcases hq' with ⟨rfl, rfl⟩ | hq'
    · exact hstream
    · exact h.onItsStream r' q' hq'
  · rcases hcases hq' with ⟨rfl, rfl⟩ | hq'
    · exact hchecked ownName
    · exact h.checked r' q' ownName hq'
  · intro i o ho hreserved
    obtain ⟨q', hq', hphase⟩ := h.held i o ho hreserved
    exact ⟨q', (Function.update_of_ne (hfree i o ho hreserved) _ _).trans hq', hphase⟩

/-- A request that is not about to spawn a task holds no order. -/
lemma Vetted.not_held (h : Vetted issuer w requests orders)
    (hnone : ∀ q i, requests r = some q → q.phase ≠ .reserved i) (i : ℕ) (o : Order)
    (ho : orders[i]? = some o) (hreserved : o.phase = .reserved) : o.request ≠ r := by
  rintro rfl
  obtain ⟨q, hq, hphase⟩ := h.held i o ho hreserved
  exact hnone q i hq hphase

/-- An order goes on, and is not in the hands of its request any more. -/
lemma Vetted.setOrder (h : Vetted issuer w requests orders) {i : ℕ} {o : Order}
    {phase : OrderPhase} (ho : orders[i]? = some o) (hphase : phase ≠ .reserved) :
    Vetted issuer w requests (orders.set i { o with phase }) := by
  refine ⟨h.onItsStream, h.checked, fun o' hmem => ?_, fun j o' ho' hreserved => ?_⟩
  · rcases List.mem_or_eq_of_mem_set hmem with hmem | rfl
    · exact h.passed o' hmem
    · exact h.passed o (List.mem_of_getElem? ho)
  · rcases getElem?_set_cases ho' with ⟨rfl, rfl⟩ | ⟨-, ho'⟩
    · exact absurd hreserved hphase
    · exact h.held j o' ho' hreserved

/-- A new order in the hands of its request. -/
lemma Vetted.append (h : Vetted issuer w requests orders) {o : Order}
    (hpassed : Passed issuer w o.request ⟨o.client, o.name, o.csrDer⟩)
    (hq : requests o.request = some q) (hphase : q.phase = .reserved orders.length) :
    Vetted issuer w requests (orders ++ [o]) := by
  refine ⟨h.onItsStream, h.checked, fun o' hmem => ?_, fun j o' ho' hreserved => ?_⟩
  · rcases List.mem_append.mp hmem with hmem | hmem
    · exact h.passed o' hmem
    · exact List.mem_singleton.mp hmem ▸ hpassed
  · rcases getElem?_append_cases ho' with ⟨rfl, rfl⟩ | ⟨-, ho'⟩
    · exact ⟨q, hq, hphase⟩
    · exact h.held j o' ho' hreserved

lemma samePeer_eq_true {stream request : Option IpAddr} (h : samePeer stream request = true) :
    ∃ ip, stream = some ip ∧ request = some ip := by
  unfold samePeer at h
  split at h
  · exact ⟨_, rfl, congrArg some (decide_eq_true_eq.mp h).symm⟩
  · cases h

lemma Vetted.move (h : Vetted issuer w w.requests w.orders)
    (hreach : (server (some issuer)).Reach free w) (hm : w.Move issuer w') :
    Vetted issuer w w'.requests w'.orders := by
  have hnow : Earlier issuer w w := ⟨hreach, .refl⟩
  -- a request in a phase before the reservation holds no order
  have hfree : ∀ {r q}, w.requests r = some q → (∀ i, q.phase ≠ .reserved i) →
      ∀ (i : ℕ) (o : Order), w.orders[i]? = some o → o.phase = .reserved → o.request ≠ r :=
    fun hq hold => h.not_held fun q' i hq' => by
      obtain rfl := Option.some.inj (hq.symm.trans hq')
      exact hold i
  cases hm with
  | surroundings w' hnow hslots hrequests horders =>
    rw [hrequests, horders]
    exact h
  | arrives r request peer hnew =>
    refine h.setRequest (h.not_held fun q i hq => ?_) (by simp) (by simp)
    rw [hnew] at hq
    cases hq
  | readsPeer r q hq hphase =>
    refine h.setRequest (hfree hq (by simp [hphase])) (fun hsame => ?_) (by simp)
    obtain ⟨ip, hpeer, hip⟩ := samePeer_eq_true (RequestPhase.peerRead.inj hsame)
    exact ⟨w, ip, hnow, by rw [hq, ← hip, ← hphase], hpeer⟩
  | passes r q onItsStream approved ownName hq hphase happroved hcheck =>
    obtain ⟨hcaller, rfl, hown, hcsr⟩ := check_ok issuer hcheck
    obtain ⟨rfl, rfl⟩ := Caller.mk.inj hcaller
    refine h.setRequest (hfree hq (by simp [hphase])) (by simp) fun ownName hname => ?_
    obtain ⟨w₀, ip, hstream⟩ := h.onItsStream r q hq hphase
    exact ⟨(RequestPhase.checked.inj hname).symm, ⟨w₀, ip, hstream⟩,
      ⟨w, q.peer, hnow, by rw [hq, ← hphase], happroved rfl⟩, hown, hcsr⟩
  | ends r q phase hq hold hphase =>
    refine h.setRequest (hfree hq hold) (fun heq => ?_) (fun ownName heq => ?_) <;>
      rcases hphase with rfl | ⟨answer, rfl⟩ <;> cases heq
  | reserves r q ownName hq hphase hslot =>
    obtain ⟨rfl, hpassed⟩ := h.checked r q ownName hq hphase
    have hrequest := h.setRequest (q := { q with phase := .reserved w.orders.length })
      (hfree hq (by simp [hphase])) (by simp) (by simp)
    exact hrequest.append hpassed (Function.update_self _ _ _) rfl
  | spawns r q i o hq hphase ho hreserved =>
    have horder : Vetted issuer w w.requests (w.orders.set i { o with phase := .spawned }) :=
      h.setOrder ho (by simp)
    refine horder.setRequest (fun j o' ho' hreserved' heq => ?_) (by simp) (by simp)
    -- the request held this order only
    obtain ⟨q', hq', hphase'⟩ := horder.held j o' ho' hreserved'
    rw [heq, hq] at hq'
    obtain rfl := Option.some.inj hq'
    obtain rfl := RequestPhase.reserved.inj (hphase.symm.trans hphase')
    rw [getElem?_set_self ho] at ho'
    obtain rfl := Option.some.inj ho'
    cases hreserved'
  | works i o phase ho hold hlive hphase => exact h.setOrder ho hphase
  | settles i o result ho hended => exact h.setOrder ho (by simp)

lemma vetted_of_reach (h : (server (some issuer)).Reach free w) :
    Vetted issuer w w.requests w.orders :=
  h.invariant (P := fun w => Vetted issuer w w.requests w.orders) (vetted_init _)
    fun _ e _ hreach hw hstep _ =>
      (hw.move hreach (step_move hstep)).leads (.single ⟨e, hstep, trivial⟩)

end Vetted

/-! ### Every order can end -/

section Settles

variable {issuer} {w w' : World} {i : ℕ} {o : Order}

/-- A step of the order before the rest of its way. -/
lemma Settles.head {e : Event} {phase : OrderPhase}
    (hstep : (server (some issuer)).step w e = some w') (hown : byItself i o.request w e w')
    (h : Settles issuer w' i { o with phase }) : Settles issuer w i o := by
  obtain ⟨w₁, result, time, hl, hend⟩ := h
  exact ⟨w₁, result, time, .head ⟨e, hstep, hown⟩ hl, hend⟩

lemma settles_of_ended {result : OrderResult} (ho : w.orders[i]? = some o)
    (hphase : o.phase = .ended result) : Settles issuer w i o := by
  have hstep : (server (some issuer)).step w (.settle i) = some
      ((w.setSlot o.name (if result.isIssued then some (.issued w.now) else none)).setOrder i o
        (.settled result w.now)) := by
    simp [server, step, World.settle, ho, hphase]
  refine ⟨_, result, w.now, .single ⟨_, hstep, .inr (.inr (.inr (.inr rfl)))⟩, ?_, ?_⟩
  · exact getElem?_set_self ho
  · change Function.update w.slots o.name _ o.name ≠ _
    rw [Function.update_self]
    split <;> simp

/-- When the limit has passed the order is cut off. -/
lemma settles_of_late {since : ℕ} (ho : w.orders[i]? = some o) (hphase : o.phase = .issuing since)
    (hlate : since + issuer.orderLimit ≤ w.now) : Settles issuer w i o := by
  obtain ⟨result, hstep⟩ : ∃ result, (server (some issuer)).step w (.cutOff i) =
      some (w.setOrder i o (.ended result)) := by
    simp only [server, step, World.cutOff, ho, Option.bind_some, Option.bind_eq_bind, hphase,
      if_pos hlate]
    exact ⟨_, rfl⟩
  exact Settles.head hstep (.inr (.inr (.inr (.inl rfl))))
    (settles_of_ended (getElem?_set_self ho) rfl)

/-- An authority that does not answer is waited for no longer than the limit. -/
lemma settles_of_issuing {since : ℕ} (ho : w.orders[i]? = some o)
    (hphase : o.phase = .issuing since) : Settles issuer w i o := by
  have hstep : (server (some issuer)).step w (.tick (since + issuer.orderLimit)) =
      some { w with now := w.now + (since + issuer.orderLimit) } := rfl
  have hrest : Settles issuer { w with now := w.now + (since + issuer.orderLimit) } i
      { o with phase := o.phase } :=
    settles_of_late ho hphase (Nat.le_add_left _ _)
  exact Settles.head hstep (.inl ⟨_, rfl⟩) hrest

lemma settles_of_spawned (ho : w.orders[i]? = some o) (hphase : o.phase = .spawned) :
    Settles issuer w i o := by
  have hstep : (server (some issuer)).step w (.ask i) =
      some (w.setOrder i o (.issuing w.now)) := by
    simp [server, step, World.ask, ho, hphase]
  exact Settles.head hstep (.inr (.inr (.inl rfl)))
    (settles_of_issuing (getElem?_set_self ho) rfl)

/-- The request that holds the order goes on without anyone's doing. -/
lemma settles_of_reserved {q : Request} (ho : w.orders[i]? = some o)
    (hphase : o.phase = .reserved) (hq : w.requests o.request = some q)
    (hheld : q.phase = .reserved i) : Settles issuer w i o := by
  have hstep : (server (some issuer)).step w (.spawn o.request) = some
      ((w.setOrder i o .spawned).setRequest o.request q (.waiting i w.now)) := by
    simp [server, step, World.spawn, hq, hheld, ho, hphase]
  exact Settles.head hstep (.inr (.inl rfl)) (settles_of_spawned (getElem?_set_self ho) rfl)

lemma settles_of_reach (h : (server (some issuer)).Reach free w) (ho : w.orders[i]? = some o)
    (hlive : o.live = true) : Settles issuer w i o := by
  rcases hphase : o.phase with _ | _ | since | result | ⟨result, time⟩
  · obtain ⟨q, hq, hheld⟩ := (vetted_of_reach h).held i o ho hphase
    exact settles_of_reserved ho hphase hq hheld
  · exact settles_of_spawned ho hphase
  · exact settles_of_issuing ho hphase
  · exact settles_of_ended ho hphase
  · rw [Order.live_eq_false_iff.mpr ⟨result, time, hphase⟩] at hlive
    cases hlive

end Settles

/-! ### The orders of a run -/

/-- In every run each order is for an approved caller on its own stream, for its own name, which
is all that its CSR names.  The orders for one name follow each other, the interval after a
certificate apart; the name is busy only while an order lives, and every order can end by
itself.  Two clients get certificates for one name only if their ids differ in case alone. -/
theorem certificate_orders (w : World) (h : (server (some issuer)).Reach free w) :
    (∀ o ∈ w.orders, Passed issuer w o.request ⟨o.client, o.name, o.csrDer⟩) ∧
      Exclusive issuer.minInterval w ∧
      (∀ (i : ℕ) (o : Order), w.orders[i]? = some o → o.live = true → Settles issuer w i o) ∧
      ∀ o ∈ w.orders, ∀ o' ∈ w.orders, o.isIssued = true → o'.isIssued = true →
        o.name = o'.name → toAsciiLowercase o.client = toAsciiLowercase o'.client := by
  have hpassed := (vetted_of_reach h).passed
  refine ⟨hpassed, exclusive_of_ledger (ledger_of_reach issuer h),
    fun i o ho hlive => settles_of_reach h ho hlive, fun o ho o' ho' _ _ hname => ?_⟩
  refine lowercase_eq_of_nameFor (hpassed o ho).ownName ?_
  exact hname ▸ (hpassed o' ho').ownName

/-! ### Two clients, one name -/

/-- A CSR that names `till.pos.example.sk`. -/
def tillCsr : List UInt8 :=
  [0x30, 0x81, 0xEC, 0x30, 0x81, 0x93, 0x02, 0x01, 0x00, 0x30, 0x00, 0x30, 0x59, 0x30, 0x13, 0x06,
    0x07, 0x2A, 0x86, 0x48, 0xCE, 0x3D, 0x02, 0x01, 0x06, 0x08, 0x2A, 0x86, 0x48, 0xCE, 0x3D, 0x03,
    0x01, 0x07, 0x03, 0x42, 0x00, 0x04, 0xDC, 0x3B, 0x5D, 0xEF, 0x4A, 0x95, 0x9A, 0xED, 0xDB, 0xCA,
    0x72, 0x55, 0xD9, 0x59, 0xA1, 0x5B, 0x7E, 0x0B, 0x40, 0x00, 0x1E, 0x21, 0x53, 0x28, 0x89, 0xD0,
    0x94, 0xF4, 0xDD, 0x13, 0xA5, 0x06, 0x76, 0x4B, 0x4C, 0x21, 0xAE, 0xEF, 0x98, 0x46, 0xDD, 0xC2,
    0xEC, 0x7C, 0xD4, 0xEE, 0xD3, 0x3A, 0xCB, 0xF0, 0xBE, 0xBC, 0xDE, 0x12, 0xBB, 0xDA, 0x3B, 0x16,
    0x0D, 0xEA, 0xB1, 0xEA, 0x2B, 0x4A, 0xA0, 0x31, 0x30, 0x2F, 0x06, 0x09, 0x2A, 0x86, 0x48, 0x86,
    0xF7, 0x0D, 0x01, 0x09, 0x0E, 0x31, 0x22, 0x30, 0x20, 0x30, 0x1E, 0x06, 0x03, 0x55, 0x1D, 0x11,
    0x04, 0x17, 0x30, 0x15, 0x82, 0x13, 0x74, 0x69, 0x6C, 0x6C, 0x2E, 0x70, 0x6F, 0x73, 0x2E, 0x65,
    0x78, 0x61, 0x6D, 0x70, 0x6C, 0x65, 0x2E, 0x73, 0x6B, 0x30, 0x0A, 0x06, 0x08, 0x2A, 0x86, 0x48,
    0xCE, 0x3D, 0x04, 0x03, 0x02, 0x03, 0x48, 0x00, 0x30, 0x45, 0x02, 0x21, 0x00, 0xF0, 0xA5, 0x8F,
    0x35, 0x58, 0x0B, 0xD9, 0x67, 0xD9, 0x6A, 0xF3, 0xFC, 0x92, 0xF4, 0x4C, 0x4C, 0xE2, 0x8A, 0xEB,
    0xC8, 0xF4, 0xA6, 0xF4, 0xF4, 0x12, 0x8A, 0xB8, 0xDD, 0x10, 0x75, 0xB9, 0x12, 0x02, 0x20, 0x2D,
    0x73, 0x32, 0x9E, 0xE2, 0x04, 0x32, 0x11, 0xF1, 0x15, 0x13, 0x8B, 0xF0, 0x0D, 0xC7, 0x59, 0xAC,
    0x80, 0x6C, 0x45, 0x95, 0xD6, 0x95, 0xE0, 0xC1, 0xC4, 0x51, 0x08, 0x6A, 0x6A, 0x27, 0x51]

/-- An issuer whose reader knows that CSR alone. -/
def exampleIssuer : CertificateIssuer where
  zone := "pos.example.sk"
  x509 := fun csrDer =>
    if csrDer = tillCsr then .ok (some [.subjectAlternativeName [.dnsName "till.pos.example.sk"]])
    else .error "Error(InvalidCertificate)"
  minInterval := 3600 * 10 ^ 9
  answerTimeout := 270 * 10 ^ 9
  orderLimit := 660 * 10 ^ 9

/-- A client asks for the certificate of its name, up to the reservation. -/
def asked (r : RequestId) (clientId : String) (peer : IpAddr) : List Event :=
  [.setClient clientId (some .approved), .connected clientId "stream" (some peer),
    .request r ⟨clientId, "till.pos.example.sk", tillCsr⟩ (some peer), .readPeer r,
    .check r true, .reserve r]

/-- The order of such a request, which is the one of the same number. -/
def ordered (r : RequestId) (clientId : String) (peer : IpAddr) (result : OrderResult) :
    List Event :=
  asked r clientId peer ++ [.spawn r, .ask r, .finish r result, .settle r, .answer r]

/-- An order fails, a later one of the same name gets the certificate, and a third request for
it comes too early. -/
def retriedOrder : List Event :=
  ordered 0 "till" (.v4 1) (.failed "acme: connection refused") ++ .tick 60 ::
    ordered 1 "till" (.v4 1) (.issued "PEM") ++ .tick 60 :: asked 2 "till" (.v4 1)

theorem certificate_orders_retried : ∃ w, (∃ o o', w.orders = [o, o'] ∧ o.name = o'.name ∧
      o.isIssued = false ∧ o'.isIssued = true) ∧
    ((w.requests 2).map Request.phase =
      some (.answered (.refused (.rateLimited "till.pos.example.sk" (3600 * 10 ^ 9))))) ∧
    (∀ o ∈ w.orders, Passed exampleIssuer w o.request ⟨o.client, o.name, o.csrDer⟩) ∧
      Exclusive exampleIssuer.minInterval w := by
  obtain ⟨w, hw, hgoal⟩ := (server (some exampleIssuer)).reach_of_run retriedOrder
    (fun w => decide (w.orders.map (fun o => (o.name, o.isIssued)) =
        [("till.pos.example.sk", false), ("till.pos.example.sk", true)] ∧
      (w.requests 2).map Request.phase =
        some (.answered (.refused (.rateLimited "till.pos.example.sk" (3600 * 10 ^ 9))))))
    (by decide +kernel)
  obtain ⟨horders, htooEarly⟩ := of_decide_eq_true hgoal
  obtain ⟨hpassed, hexclusive, -⟩ := certificate_orders exampleIssuer w hw
  refine ⟨w, ?_, htooEarly, hpassed, hexclusive⟩
  simp only [List.map_eq_cons_iff, List.map_eq_nil_iff, Prod.mk.injEq] at horders
  obtain ⟨o, _, heq, ⟨hname, hfailed⟩, o', _, rfl, ⟨hname', hissued⟩, rfl⟩ := horders
  exact ⟨o, o', heq, hname.trans hname'.symm, hfailed, hissued⟩

/-- Two approved clients whose ids differ in case get certificates for one name. -/
theorem certificate_shared : ∃ w, (server (some exampleIssuer)).Reach free w ∧
    w.clients "Till" = some .approved ∧ w.clients "till" = some .approved ∧
      ∃ o ∈ w.orders, ∃ o' ∈ w.orders, o.client = "Till" ∧ o'.client = "till" ∧
        o.isIssued = true ∧ o'.isIssued = true ∧ o.name = o'.name := by
  obtain ⟨w, hw, hgoal⟩ := (server (some exampleIssuer)).reach_of_run
    (ordered 0 "Till" (.v4 1) (.issued "PEM") ++ .tick (3600 * 10 ^ 9) ::
      ordered 1 "till" (.v4 2) (.issued "PEM"))
    (fun w => w.clients "Till" == some .approved && w.clients "till" == some .approved &&
      w.orders.any fun o => w.orders.any fun o' => o.client == "Till" && o'.client == "till" &&
        o.isIssued && o'.isIssued && o.name == o'.name) (by decide +kernel)
  simp only [Bool.and_eq_true, beq_iff_eq, List.any_eq_true] at hgoal
  obtain ⟨⟨hfirst, hsecond⟩, o, ho, o', ho', ⟨⟨⟨hclient, hclient'⟩, hissued⟩, hissued'⟩, hname⟩ :=
    hgoal
  exact ⟨w, hw, hfirst, hsecond, o, ho, o', ho', hclient, hclient', hissued, hissued', hname⟩

end Certificates

end DevBridge

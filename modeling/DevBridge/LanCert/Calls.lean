import DevBridge.LanCert.Store

/-!
# What the calls leave in the directory

Whatever fails in `store`, the pair in place is the old one until the key's rename.  Whatever
fails in `finish_pending`, it leaves the pair in place alone or goes one or two renames
further; and one that answers without an error has settled what was pending.
-/

namespace DevBridge

namespace LanCert

variable {β : Type} (usable : List β → List β → Bool)

/-! ### What `store` does to the files -/

/-- The faults of a `store` that gets as far as the key's rename, or ends before it touches
a file. -/
def ReachesRename (faults : Faults) : Prop :=
  faults 0 ≠ .ok ∨ faults 1 = .crash none ∨ ∀ n < 6, faults n = .ok

/-- The files after the key's rename. -/
def renamedKey (key chain : List β) (d : Disk CertFile β) : Disk CertFile β
  | .key => some key
  | .keyNew => none
  | .cert => d .cert
  | .certNew => some chain

/-- The files after both renames. -/
def replaced (key chain : List β) : Disk CertFile β
  | .key => some key
  | .cert => some chain
  | .keyNew | .certNew => none

/-- The pair in place is as it was, and what is pending is as it was, gone or a part of what
was stored. -/
structure Staged (key chain : List β) (d d' : Disk CertFile β) : Prop where
  sameKey : d' .key = d .key
  sameCert : d' .cert = d .cert
  keyNew : ∀ k, d' .keyNew = some k → d .keyNew = some k ∨ k <+: key
  certNew : ∀ c, d' .certNew = some c → d .certNew = some c ∨ c <+: chain

/-- What `store` leaves behind. -/
inductive StoreEnd (key chain : List β) (d d' : Disk CertFile β) : Prop
  | staged (h : Staged key chain d d')
  | renamed (h : d' = renamedKey key chain d)
  | installed (h : d' = replaced key chain)

namespace Staged

variable {key chain : List β} {d d' : Disk CertFile β}

lemma refl (key chain : List β) (d : Disk CertFile β) : Staged key chain d d :=
  ⟨rfl, rfl, fun _ h => Or.inl h, fun _ h => Or.inl h⟩

lemma writeKey (h : Staged key chain d d') {k : List β} (hk : k <+: key) :
    Staged key chain d (Function.update d' .keyNew (some k)) := by
  refine ⟨by simpa using h.sameKey, by simpa using h.sameCert, fun k' hk' => ?_, fun c hc => ?_⟩
  · obtain rfl : k = k' := by simpa using hk'
    exact Or.inr hk
  · exact h.certNew c (by simpa using hc)

lemma writeCert (h : Staged key chain d d') {c : List β} (hc : c <+: chain) :
    Staged key chain d (Function.update d' .certNew (some c)) := by
  refine ⟨by simpa using h.sameKey, by simpa using h.sameCert, fun k hk => ?_, fun c' hc' => ?_⟩
  · exact h.keyNew k (by simpa using hk)
  · obtain rfl : c = c' := by simpa using hc'
    exact Or.inr hc

lemma removeKey (h : Staged key chain d d') :
    Staged key chain d (Function.update d' .keyNew none) := by
  refine ⟨by simpa using h.sameKey, by simpa using h.sameCert, fun k hk => ?_, fun c hc => ?_⟩
  · simp at hk
  · exact h.certNew c (by simpa using hc)

lemma removeCert (h : Staged key chain d d') :
    Staged key chain d (Function.update d' .certNew none) := by
  refine ⟨by simpa using h.sameKey, by simpa using h.sameCert, fun k hk => ?_, fun c hc => ?_⟩
  · exact h.keyNew k (by simpa using hk)
  · simp at hc

/-- A write that is not carried out leaves a part of the content, or what was there. -/
lemma cutKey (h : Staged key chain d d') {k : List β} (hk : k <+: key) (done : Option ℕ) :
    Staged key chain d ((FileOp.write .keyNew k).cut d' done) := by
  cases done with
  | none => exact h
  | some n => exact h.writeKey ((List.take_prefix n k).trans hk)

lemma cutCert (h : Staged key chain d d') (done : Option ℕ) :
    Staged key chain d ((FileOp.write .certNew chain).cut d' done) := by
  cases done with
  | none => exact h
  | some n => exact h.writeCert (List.take_prefix n chain)

end Staged

/-- A removal, carried out or not, of a pending file. -/
lemma remove_ensures {f : CertFile} {d : Disk CertFile β} {P : Disk CertFile β → Prop}
    (hd : P d) (hremoved : P (Function.update d f none)) :
    (removeIfPresent f : CertIo β Unit).run.Ensures (fun _ d' => P d') P d := by
  refine FileIo.ensures_attempt (FileIo.ensures_lift ?_ (fun _ => ?_) fun _ => hd)
  · rcases hf : d f with _ | content
    · simp only [FileOp.run, hf]
      exact FileIo.ensures_pure hd
    · simp only [FileOp.run, hf]
      exact FileIo.ensures_pure hremoved
  · exact FileIo.ensures_throw hd

/-- A rename that is carried out or not. -/
lemma install_ensures {source target : CertFile} {content : List β} {d : Disk CertFile β}
    {Q : Except IoError Unit → Disk CertFile β → Prop} {C : Disk CertFile β → Prop}
    (hs : d source = some content)
    (hok : Q (.ok ()) (Function.update (Function.update d source none) target (some content)))
    (hfails : Q (.error .failed) d) (hcrash : C d) :
    (install source target : CertIo β Unit).run.Ensures Q C d := by
  refine FileIo.ensures_bind (FileIo.ensures_lift ?_ (fun _ => hfails) fun _ => hcrash)
  simp only [FileOp.run, hs]
  exact FileIo.ensures_pure hok

/-- A failure in the part of `store` before the key's rename leaves the pair in place. -/
lemma stage_ensures (key chain : List β) {d d' : Disk CertFile β} (h : Staged key chain d d') :
    (stage key chain).run.Ensures
      (fun r d₁ => match r with
        | .ok _ => d₁ = renamedKey key chain d
        | .error _ => Staged key chain d d₁)
      (Staged key chain d) d' := by
  refine FileIo.ensures_bind (FileIo.ensures_bind (FileIo.ensures_lift ?_
    (fun done => h.cutKey List.nil_prefix done) fun done => h.cutKey List.nil_prefix done))
  have h₁ := h.writeKey (List.nil_prefix (l := key))
  refine FileIo.ensures_bind (FileIo.ensures_lift ?_ (fun _ => h₁) fun _ => h₁)
  refine FileIo.ensures_bind (FileIo.ensures_lift ?_
    (fun done => h₁.cutKey (List.prefix_refl key) done)
    fun done => h₁.cutKey (List.prefix_refl key) done)
  have h₂ := h₁.writeKey (List.prefix_refl key)
  refine FileIo.ensures_pure (FileIo.ensures_bind (FileIo.ensures_bind (FileIo.ensures_lift ?_
    (fun done => h₂.cutCert done) fun done => h₂.cutCert done)))
  have h₃ := h₂.writeCert (List.prefix_refl chain)
  have hstaged : Function.update (Function.update (Function.update d' .keyNew (some []))
      .keyNew (some key)) .certNew (some chain) .keyNew = some key := by simp
  refine FileIo.ensures_pure (install_ensures hstaged ?_ h₃ h₃)
  funext f
  cases f <;> simp [FileOp.run, renamedKey, h.sameCert]

/-- Nothing that `abandon` does touches the pair in place. -/
lemma abandon_ensures {e : IoError} {d : Disk CertFile β} {P : Disk CertFile β → Prop}
    (hd : P d) (hremove : ∀ d f, f = .keyNew ∨ f = .certNew → P d → P (Function.update d f none)) :
    (abandon e : CertIo β Unit).run.Ensures (fun _ d' => P d') P d := by
  refine FileIo.ensures_attempt ((remove_ensures hd (hremove d _ (Or.inl rfl) hd)).mono
    (fun _ d₁ h₁ => ?_) fun _ h => h)
  refine FileIo.ensures_attempt ((remove_ensures h₁ (hremove d₁ _ (Or.inr rfl) h₁)).mono
    (fun _ d₂ h₂ => ?_) fun _ h => h)
  exact FileIo.ensures_throw h₂

lemma store_ensures (key chain : List β) (d : Disk CertFile β) :
    (store key chain).run.Ensures (fun _ d' => StoreEnd key chain d d')
      (StoreEnd key chain d) d := by
  have h₀ := Staged.refl key chain d
  refine FileIo.ensures_bind (FileIo.ensures_lift ?_ (fun _ => .staged h₀) fun _ => .staged h₀)
  refine FileIo.ensures_attempt ((stage_ensures key chain h₀).mono ?_ fun _ h => .staged h)
  rintro (e | u) d₁ hr
  · -- the old pair is in place: what is pending is removed
    refine (abandon_ensures (P := Staged key chain d) hr ?_).mono (fun _ _ h => .staged h)
      fun _ h => .staged h
    rintro d₂ f (rfl | rfl) h₂
    · exact h₂.removeKey
    · exact h₂.removeCert
  · replace hr : d₁ = renamedKey key chain d := hr
    subst hr
    have hpending : renamedKey key chain d .certNew = some chain := rfl
    refine install_ensures hpending (.installed ?_) (.renamed rfl) (.renamed rfl)
    funext f
    cases f <;> simp [renamedKey, replaced]

/-- A `store` without a fault before the certificate's rename. -/
lemma exec_store_renamed (key chain : List β) {faults : Faults} (d : Disk CertFile β)
    (h : ∀ n < 6, faults n = .ok) :
    (store key chain).run.exec faults d =
      (install .certNew .cert : CertIo β Unit).run.exec (fun n => faults (n + 6))
        (renamedKey key chain d) := by
  refine (Prog.exec_op_ok d (h 0 (by omega))).trans ?_
  refine (Prog.exec_op_ok _ (show faults.next 0 = .ok from h 1 (by omega))).trans ?_
  refine (Prog.exec_op_ok _ (show faults.next.next 0 = .ok from h 2 (by omega))).trans ?_
  refine (Prog.exec_op_ok _ (show faults.next.next.next 0 = .ok from h 3 (by omega))).trans ?_
  refine (Prog.exec_op_ok _
    (show faults.next.next.next.next 0 = .ok from h 4 (by omega))).trans ?_
  refine (Prog.exec_op_ok _
    (show faults.next.next.next.next.next 0 = .ok from h 5 (by omega))).trans ?_
  congr 1
  funext f
  cases f <;> simp [FileOp.run, renamedKey]

/-- A `store` that reaches the key's rename, or ends before it touches a file. -/
lemma store_end_of_reachesRename {key chain : List β} {faults : Faults} (d : Disk CertFile β)
    (h : ReachesRename faults) {d' : Disk CertFile β}
    (hd' : ((store key chain).run.exec faults d).2 = d') :
    d' = d ∨ d' = renamedKey key chain d ∨ d' = replaced key chain := by
  rcases h with h | h | h
  · left
    rw [← hd']
    rcases hf : faults 0 with _ | done | done
    · exact absurd hf h
    · exact congrArg Prod.snd (Prog.exec_op_fails d hf)
    · exact congrArg Prod.snd (Prog.exec_op_crash d hf)
  · left
    rw [← hd']
    rcases hf : faults 0 with _ | done | done
    · refine (congrArg Prod.snd (Prog.exec_op_ok d hf)).trans ?_
      exact congrArg Prod.snd (Prog.exec_op_crash d (show faults.next 0 = .crash none from h))
    · exact congrArg Prod.snd (Prog.exec_op_fails d hf)
    · exact congrArg Prod.snd (Prog.exec_op_crash d hf)
  · right
    rw [← hd', exec_store_renamed key chain d h]
    have hfinal : (Function.update (Function.update (renamedKey key chain d) .certNew none) .cert
        (some chain)) = replaced key chain := by
      funext f
      cases f <;> simp [renamedKey, replaced]
    have hpending : renamedKey key chain d .certNew = some chain := rfl
    have hinstall : (install .certNew .cert : CertIo β Unit).run.Ensures
        (fun _ d' => d' = renamedKey key chain d ∨ d' = replaced key chain)
        (fun d' => d' = renamedKey key chain d ∨ d' = replaced key chain)
        (renamedKey key chain d) :=
      install_ensures hpending (Or.inr hfinal) (Or.inl rfl) (Or.inl rfl)
    replace hinstall := hinstall fun n => faults (n + 6)
    cases hres : ((install .certNew .cert : CertIo β Unit).run.exec (fun n => faults (n + 6))
      (renamedKey key chain d)).1 with
    | some a => exact hinstall.1 a hres
    | none => exact hinstall.2 hres

/-- A `store` that fails before the key's rename removes what is pending, from files whose
pair is the old one. -/
lemma exec_store_failed {key chain : List β} {faults : Faults} (d : Disk CertFile β) {n : ℕ}
    (hn : n < 5) (hbefore : ∀ m ≤ n, faults m = .ok) {done : Option ℕ}
    (hfails : faults (n + 1) = .fails done) :
    ∃ d₁ : Disk CertFile β, (d₁ .key = d .key ∧ d₁ .cert = d .cert) ∧
      (store key chain).run.exec faults d =
        (abandon .failed : CertIo β Unit).run.exec (fun m => faults (m + (n + 2))) d₁ := by
  have h₀ : faults 0 = .ok := hbefore 0 (by omega)
  have h₁ : 1 ≤ n → faults.next 0 = .ok := hbefore 1
  have h₂ : 2 ≤ n → faults.next.next 0 = .ok := hbefore 2
  have h₃ : 3 ≤ n → faults.next.next.next 0 = .ok := hbefore 3
  have h₄ : 4 ≤ n → faults.next.next.next.next 0 = .ok := hbefore 4
  interval_cases n
  · refine ⟨_, ?_, (Prog.exec_op_ok d h₀).trans
        (Prog.exec_op_fails _ (show faults.next 0 = .fails done from hfails))⟩
    cases done <;> simp [FileOp.cut, FileOp.run]
  · refine ⟨_, ?_, (Prog.exec_op_ok d h₀).trans <| (Prog.exec_op_ok _ (h₁ (by omega))).trans
        (Prog.exec_op_fails _ (show faults.next.next 0 = .fails done from hfails))⟩
    simp [FileOp.cut, FileOp.run]
  · refine ⟨_, ?_, (Prog.exec_op_ok d h₀).trans <| (Prog.exec_op_ok _ (h₁ (by omega))).trans <|
      (Prog.exec_op_ok _ (h₂ (by omega))).trans
        (Prog.exec_op_fails _ (show faults.next.next.next 0 = .fails done from hfails))⟩
    cases done <;> simp [FileOp.cut, FileOp.run]
  · refine ⟨_, ?_, (Prog.exec_op_ok d h₀).trans <| (Prog.exec_op_ok _ (h₁ (by omega))).trans <|
      (Prog.exec_op_ok _ (h₂ (by omega))).trans <| (Prog.exec_op_ok _ (h₃ (by omega))).trans
        (Prog.exec_op_fails _ (show faults.next.next.next.next 0 = .fails done from hfails))⟩
    cases done <;> simp [FileOp.cut, FileOp.run]
  · refine ⟨_, ?_, (Prog.exec_op_ok d h₀).trans <| (Prog.exec_op_ok _ (h₁ (by omega))).trans <|
      (Prog.exec_op_ok _ (h₂ (by omega))).trans <| (Prog.exec_op_ok _ (h₃ (by omega))).trans <|
      (Prog.exec_op_ok _ (h₄ (by omega))).trans
        (Prog.exec_op_fails _ (show faults.next.next.next.next.next 0 = .fails done from hfails))⟩
    cases done <;> simp [FileOp.cut, FileOp.run]

/-- Without a fault, `abandon` leaves nothing pending. -/
lemma exec_abandon {e : IoError} {faults : Faults} (d : Disk CertFile β)
    (h : ∀ n, faults n = .ok) :
    (abandon e : CertIo β Unit).run.exec faults d =
      (some (.error e), Function.update (Function.update d .keyNew none) .certNew none) := by
  have h₀ : faults 0 = .ok := h 0
  have h₁ : faults.next 0 = .ok := h 1
  have hsame : ∀ (d : Disk CertFile β) f, d f = none → Function.update d f none = d :=
    fun d f hf => by rw [← hf, Function.update_eq_self]
  rcases hk : d .keyNew with _ | key <;> rcases hc : d .certNew with _ | chain
  all_goals
    refine (Prog.exec_op_ok d h₀).trans ?_
  · simp only [FileOp.run, hk, hsame d _ hk, hsame d _ hc]
    refine (Prog.exec_op_ok _ h₁).trans ?_
    simp only [FileOp.run, hc]
    rfl
  · simp only [FileOp.run, hk, hsame d _ hk]
    refine (Prog.exec_op_ok _ h₁).trans ?_
    simp only [FileOp.run, hc]
    rfl
  · simp only [FileOp.run, hk]
    refine (Prog.exec_op_ok _ h₁).trans ?_
    have hc' : Function.update d .keyNew none .certNew = none := by simpa using hc
    simp only [FileOp.run, hc', hsame _ _ hc']
    rfl
  · simp only [FileOp.run, hk]
    refine (Prog.exec_op_ok _ h₁).trans ?_
    have hc' : Function.update d .keyNew none .certNew = some chain := by simpa using hc
    simp only [FileOp.run, hc']
    rfl

/-- A `store` that fails before the key's rename leaves the pair in place as it was; when its
removals succeed nothing is pending. -/
lemma store_failed_early {key chain : List β} {faults : Faults} (d : Disk CertFile β) {n : ℕ}
    (hn : n < 6) (hbefore : ∀ m < n, faults m = .ok) {done : Option ℕ}
    (hfails : faults n = .fails done) {d' : Disk CertFile β}
    (hd' : ((store key chain).run.exec faults d).2 = d') :
    d' .key = d .key ∧ d' .cert = d .cert ∧
      (0 < n → (∀ m, n < m → faults m = .ok) → d' .keyNew = none ∧ d' .certNew = none) := by
  rcases Nat.eq_zero_or_pos n with rfl | hpos
  · have hd : d' = d := by
      rw [← hd']
      exact congrArg Prod.snd (Prog.exec_op_fails d hfails)
    rw [hd]
    exact ⟨rfl, rfl, fun h => absurd h (lt_irrefl 0)⟩
  · obtain ⟨m, rfl⟩ : ∃ m, n = m + 1 := ⟨n - 1, by omega⟩
    obtain ⟨d₁, ⟨hk₁, hc₁⟩, hexec⟩ := @exec_store_failed _ key chain _ d m
      (by omega) (fun i hi => hbefore i (by omega)) _ hfails
    rw [hexec] at hd'
    have hpair := abandon_ensures (e := .failed) (d := d₁)
      (P := fun d₂ => d₂ .key = d₁ .key ∧ d₂ .cert = d₁ .cert) ⟨rfl, rfl⟩
      (by rintro d₂ f (rfl | rfl) h₂ <;> simpa using h₂) fun i => faults (i + (m + 2))
    have hsame : d' .key = d₁ .key ∧ d' .cert = d₁ .cert := by
      rw [← hd']
      cases hres : ((abandon .failed : CertIo β Unit).run.exec
        (fun i => faults (i + (m + 2))) d₁).1 with
      | some a => exact hpair.1 a hres
      | none => exact hpair.2 hres
    refine ⟨hsame.1.trans hk₁, hsame.2.trans hc₁, fun _ hafter => ?_⟩
    rw [exec_abandon d₁ fun i => hafter _ (by omega)] at hd'
    rw [← hd']
    exact ⟨by simp, by simp⟩

/-! ### What `finish_pending` does to the files -/

/-- The pair in place is as it was, and nothing new is pending. -/
structure Kept (d d' : Disk CertFile β) : Prop where
  sameKey : d' .key = d .key
  sameCert : d' .cert = d .cert
  keyNew : ∀ k, d' .keyNew = some k → d .keyNew = some k
  certNew : ∀ c, d' .certNew = some c → d .certNew = some c

/-- The files after the pending certificate was installed for the key in place. -/
def installedCert (chain : List β) (d : Disk CertFile β) : Disk CertFile β :=
  Function.update (Function.update d .certNew none) .cert (some chain)

/-- What `finish_pending` leaves behind. -/
inductive FinishEnd (d d' : Disk CertFile β) : Prop
  | kept (h : Kept d d')
  | renamed (key chain : List β) (hkey : d .keyNew = some key) (hchain : d .certNew = some chain)
      (husable : usable chain key = true) (h : d' = renamedKey key chain d)
  | both (key chain : List β) (hkey : d .keyNew = some key) (hchain : d .certNew = some chain)
      (husable : usable chain key = true) (h : d' = replaced key chain)
  | cert (key chain : List β) (hkey : d .key = some key) (hchain : d .certNew = some chain)
      (husable : usable chain key = true) (h : d' = installedCert chain d)

/-- Nothing is pending, or the certificate of the key in place was installed. -/
def Settled (d d' : Disk CertFile β) : Prop :=
  (d' .keyNew = none ∧ d' .certNew = none) ∨
    ∃ key chain, d .key = some key ∧ d .certNew = some chain ∧ usable chain key = true ∧
      d' = installedCert chain d

namespace Kept

variable {d d' : Disk CertFile β}

lemma refl (d : Disk CertFile β) : Kept d d := ⟨rfl, rfl, fun _ h => h, fun _ h => h⟩

lemma removeKey (h : Kept d d') : Kept d (Function.update d' .keyNew none) := by
  refine ⟨by simpa using h.sameKey, by simpa using h.sameCert, fun k hk => ?_, fun c hc => ?_⟩
  · simp at hk
  · exact h.certNew c (by simpa using hc)

lemma removeCert (h : Kept d d') : Kept d (Function.update d' .certNew none) := by
  refine ⟨by simpa using h.sameKey, by simpa using h.sameCert, fun k hk => ?_, fun c hc => ?_⟩
  · exact h.keyNew k (by simpa using hk)
  · simp at hc

end Kept

/-- A removal that answers without an error leaves no file. -/
lemma remove_ok_ensures {f : CertFile} {d : Disk CertFile β} {P : Disk CertFile β → Prop}
    (hd : P d) (hremoved : P (Function.update d f none)) :
    (removeIfPresent f : CertIo β Unit).run.Ensures
      (fun r d' => P d' ∧ (r = .ok () → d' f = none)) P d := by
  refine FileIo.ensures_attempt (FileIo.ensures_lift ?_ (fun _ => ?_) fun _ => hd)
  · rcases hf : d f with _ | content
    · simp only [FileOp.run, hf]
      exact FileIo.ensures_pure ⟨hd, fun _ => hf⟩
    · simp only [FileOp.run, hf]
      exact FileIo.ensures_pure ⟨hremoved, fun _ => Function.update_self ..⟩
  · exact FileIo.ensures_throw ⟨hd, fun h => nomatch h⟩

lemma discard_ensures {d d' : Disk CertFile β} (h : Kept d d') :
    (discardPending : CertIo β Bool).run.Ensures
      (fun r d₁ => Kept d d₁ ∧ ∀ b, r = .ok b → d₁ .keyNew = none ∧ d₁ .certNew = none)
      (Kept d) d' := by
  refine FileIo.ensures_bind ((remove_ok_ensures h h.removeKey).mono ?_ fun _ h => h)
  rintro (e | u) d₁ ⟨h₁, hkey⟩
  · exact ⟨h₁, fun b hb => nomatch hb⟩
  · have hkey : d₁ .keyNew = none := hkey rfl
    refine FileIo.ensures_bind ((remove_ok_ensures
      (P := fun d₂ => Kept d d₂ ∧ d₂ .keyNew = none) ⟨h₁, hkey⟩
      ⟨h₁.removeCert, by simpa using hkey⟩).mono ?_ fun _ h => h.1)
    rintro (e | u) d₂ ⟨⟨h₂, hkey₂⟩, hcert⟩
    · exact ⟨h₂, fun b hb => nomatch hb⟩
    · exact FileIo.ensures_pure ⟨h₂, fun _ _ => ⟨hkey₂, hcert rfl⟩⟩

/-- The certificate of the key in place is installed, or nothing happens. -/
lemma installCert_ensures {d : Disk CertFile β} {chain : List β}
    (hchain : d .certNew = some chain) :
    (do install .certNew .cert; pure true : CertIo β Bool).run.Ensures
      (fun r d' => (d' = d ∨ d' = installedCert chain d) ∧
        ∀ b, r = .ok b → d' = installedCert chain d)
      (fun d' => d' = d ∨ d' = installedCert chain d) d := by
  refine FileIo.ensures_bind (install_ensures hchain ?_ ?_ (Or.inl rfl))
  · exact FileIo.ensures_pure ⟨Or.inr rfl, fun _ _ => rfl⟩
  · exact ⟨Or.inl rfl, fun b hb => nomatch hb⟩

/-- What is left of `installPending` when there is no new key: the certificate may belong to the
key in place. -/
def installKept (chain : List β) : CertIo β Bool := do
  match ← FileIo.attempt (read .key) with
  | .ok key =>
    if usable chain key then
      install .certNew .cert
      pure true
    else discardPending
  | .error _ => discardPending

lemma installPending_ensures {d : Disk CertFile β} {chain : List β}
    (hchain : d .certNew = some chain) :
    (installPending usable chain).run.Ensures
      (fun r d' => FinishEnd usable d d' ∧ ∀ b, r = .ok b → Settled usable d d')
      (FinishEnd usable d) d := by
  have hkept : FinishEnd usable d d := .kept (Kept.refl d)
  have hdiscard : (discardPending : CertIo β Bool).run.Ensures
      (fun r d' => FinishEnd usable d d' ∧ ∀ b, r = .ok b → Settled usable d d')
      (FinishEnd usable d) d :=
    (discard_ensures (Kept.refl d)).mono
      (fun r d' h => ⟨.kept h.1, fun b hb => Or.inl (h.2 b hb)⟩) fun d' h => FinishEnd.kept h
  have hafter : (installKept usable chain).run.Ensures
      (fun r d' => FinishEnd usable d d' ∧ ∀ b, r = .ok b → Settled usable d d')
      (FinishEnd usable d) d := by
    refine FileIo.ensures_attempt (FileIo.ensures_lift ?_ (fun _ => hdiscard) fun _ => hkept)
    rcases hkey : d .key with _ | key
    · simp only [FileOp.run, hkey]
      exact hdiscard
    · simp only [FileOp.run, hkey]
      by_cases husable : usable chain key = true
      · rw [if_pos husable]
        refine (installCert_ensures hchain).mono ?_ ?_
        · rintro r d' ⟨h, hok⟩
          refine ⟨?_, fun b hb => Or.inr ⟨key, chain, hkey, hchain, husable, hok b hb⟩⟩
          rcases h with rfl | rfl
          · exact hkept
          · exact .cert key chain hkey hchain husable rfl
        · rintro d' (rfl | rfl)
          · exact hkept
          · exact .cert key chain hkey hchain husable rfl
      · rw [if_neg husable]
        exact hdiscard
  refine FileIo.ensures_attempt (FileIo.ensures_lift ?_ (fun _ => hafter) fun _ => hkept)
  rcases hkey : d .keyNew with _ | key
  · simp only [FileOp.run, hkey]
    exact hafter
  · simp only [FileOp.run, hkey]
    by_cases husable : usable chain key = true
    · rw [if_pos husable]
      have hrenamed : Function.update (Function.update d .keyNew none) .key (some key) =
          renamedKey key chain d := by
        funext f
        cases f <;> simp [renamedKey, hchain]
      have hboth : Function.update (Function.update (renamedKey key chain d) .certNew none)
          .cert (some chain) = replaced key chain := by
        funext f
        cases f <;> simp [renamedKey, replaced]
      refine FileIo.ensures_bind (install_ensures hkey ?_ ⟨hkept, fun b hb => nomatch hb⟩ hkept)
      simp only [hrenamed]
      have hend : FinishEnd usable d (renamedKey key chain d) :=
        .renamed key chain hkey hchain husable rfl
      have hpending : renamedKey key chain d .certNew = some chain := rfl
      refine FileIo.ensures_bind (install_ensures hpending ?_
        ⟨hend, fun b hb => nomatch hb⟩ hend)
      simp only [hboth]
      exact FileIo.ensures_pure
        ⟨.both key chain hkey hchain husable rfl, fun _ _ => Or.inl ⟨rfl, rfl⟩⟩
    · rw [if_neg husable]
      exact hdiscard

/-- Without a pending certificate, or with one that could not be read, the pending key is
removed. -/
lemma noCert_ensures (d : Disk CertFile β) :
    (do removeIfPresent .keyNew; pure false : CertIo β Bool).run.Ensures
      (fun r d' => (Kept d d' ∧ d' .certNew = d .certNew) ∧ ∀ b, r = .ok b → d' .keyNew = none)
      (Kept d) d := by
  refine FileIo.ensures_bind ((remove_ok_ensures
    (P := fun d' => Kept d d' ∧ d' .certNew = d .certNew) ⟨Kept.refl d, rfl⟩
    ⟨(Kept.refl d).removeKey, by simp⟩).mono ?_ fun _ h => h.1)
  rintro (e | u) d₁ ⟨h₁, hkey⟩
  · exact ⟨h₁, fun b hb => nomatch hb⟩
  · exact FileIo.ensures_pure ⟨h₁, fun _ _ => hkey rfl⟩

lemma finish_ensures (d : Disk CertFile β) :
    (finishPending usable).run.Ensures (fun _ d' => FinishEnd usable d d') (FinishEnd usable d)
      d := by
  have hkept : FinishEnd usable d d := .kept (Kept.refl d)
  have hnone : (do removeIfPresent .keyNew; pure false : CertIo β Bool).run.Ensures
      (fun _ d' => FinishEnd usable d d') (FinishEnd usable d) d :=
    (noCert_ensures d).mono (fun r d' h => .kept h.1.1) fun d' h => FinishEnd.kept h
  refine FileIo.ensures_attempt (FileIo.ensures_lift ?_ (fun _ => hnone) fun _ => hkept)
  rcases hchain : d .certNew with _ | chain
  · simp only [FileOp.run, hchain]
    exact hnone
  · simp only [FileOp.run, hchain]
    exact (installPending_ensures usable hchain).mono (fun r d' h => h.1) fun _ h => h

/-- What holds of the answer and the files of a call holds of its result. -/
lemma exec_of_ensures {α : Type} {p : CertIo β α} {Q : Except IoError α → Disk CertFile β → Prop}
    {P : Disk CertFile β → Prop} {d : Disk CertFile β} (h : p.run.Ensures Q P d)
    (hQ : ∀ r d', Q r d' → P d') (faults : Faults) : P (p.run.exec faults d).2 := by
  cases hres : (p.run.exec faults d).1 with
  | some a => exact hQ a _ ((h faults).1 a hres)
  | none => exact (h faults).2 hres

/-- A `finish_pending` that answers without an error has settled what was pending. -/
lemma finish_settled {d : Disk CertFile β} {faults : Faults} {installed : Bool}
    (hread : d .certNew ≠ none → ∀ done, faults 0 ≠ .fails done)
    (hres : ((finishPending usable).run.exec faults d).1 = some (.ok installed)) :
    Settled usable d ((finishPending usable).run.exec faults d).2 := by
  -- the script of the operations after the first read
  have hsettled : ∀ {p : CertIo β Bool} {Q : Except IoError Bool → Disk CertFile β → Prop}
      {C : Disk CertFile β → Prop}, p.run.Ensures Q C d →
      (∀ d', Q (.ok installed) d' → Settled usable d d') →
      ((finishPending usable).run.exec faults d) = p.run.exec faults.next d →
      Settled usable d ((finishPending usable).run.exec faults d).2 := by
    intro p Q C h hQ heq
    rw [heq] at hres ⊢
    exact hQ _ ((h faults.next).1 _ hres)
  have hnone : d .certNew = none → ∀ d', ((Kept d d' ∧ d' .certNew = d .certNew) ∧
      ∀ b, Except.ok (ε := IoError) installed = .ok b → d' .keyNew = none) →
      Settled usable d d' := by
    rintro hchain d' ⟨⟨-, hc⟩, hk⟩
    exact Or.inl ⟨hk installed rfl, hc.trans hchain⟩
  rcases hf : faults 0 with _ | done | done
  · rcases hchain : d .certNew with _ | chain
    · refine hsettled (noCert_ensures d) (hnone hchain) ((Prog.exec_op_ok d hf).trans ?_)
      simp only [FileOp.run, hchain]
      rfl
    · refine hsettled (installPending_ensures usable hchain)
        (fun d' h => h.2 installed rfl) ((Prog.exec_op_ok d hf).trans ?_)
      simp only [FileOp.run, hchain]
      rfl
  · by_cases hchain : d .certNew = none
    · exact hsettled (noCert_ensures d) (hnone hchain) (Prog.exec_op_fails d hf)
    · exact absurd hf (hread hchain done)
  · have hdead : ((finishPending usable).run.exec faults d).1 = none :=
      congrArg Prod.fst (Prog.exec_op_crash d hf)
    rw [hdead] at hres
    cases hres

/-- A half done `store` whose files are seen is left as it is, or its certificate is
installed. -/
lemma finish_halfDone {d : Disk CertFile β} {key chain : List β} (hkeyNew : d .keyNew = none)
    (hkey : d .key = some key) (hchain : d .certNew = some chain)
    (husable : usable chain key = true) {faults : Faults} (h₀ : ∀ done, faults 0 ≠ .fails done)
    (h₂ : ∀ done, faults 2 ≠ .fails done) :
    (((finishPending usable).run.exec faults d).2 = d ∨
      ((finishPending usable).run.exec faults d).2 = installedCert chain d) ∧
    ∀ b, ((finishPending usable).run.exec faults d).1 = some (.ok b) →
      ((finishPending usable).run.exec faults d).2 = installedCert chain d := by
  -- the process died with the files untouched
  have hdead : (finishPending usable).run.exec faults d = (none, d) →
      (((finishPending usable).run.exec faults d).2 = d ∨
        ((finishPending usable).run.exec faults d).2 = installedCert chain d) ∧
      ∀ b, ((finishPending usable).run.exec faults d).1 = some (.ok b) →
        ((finishPending usable).run.exec faults d).2 = installedCert chain d := fun h => by
    rw [h]
    exact ⟨Or.inl rfl, fun b hb => nomatch hb⟩
  -- once there is no pending key, the key in place is read
  have hread : ∀ faults' : Faults, faults' 0 = faults 2 →
      (finishPending usable).run.exec faults d = (installKept usable chain).run.exec faults' d →
      (((finishPending usable).run.exec faults d).2 = d ∨
        ((finishPending usable).run.exec faults d).2 = installedCert chain d) ∧
      ∀ b, ((finishPending usable).run.exec faults d).1 = some (.ok b) →
        ((finishPending usable).run.exec faults d).2 = installedCert chain d := by
    intro faults' hf' h
    rcases hf : faults' 0 with _ | done | done
    · replace h := h.trans (Prog.exec_op_ok d hf)
      simp only [FileOp.run, hkey] at h
      replace h : (finishPending usable).run.exec faults d =
          (if usable chain key then (do install .certNew .cert; pure true : CertIo β Bool)
            else discardPending).run.exec faults'.next d := h
      rw [if_pos husable] at h
      have hend := installCert_ensures hchain faults'.next
      rw [h]
      refine ⟨?_, fun b hb => (hend.1 _ hb).2 b rfl⟩
      exact exec_of_ensures (installCert_ensures hchain) (fun r d' h => h.1) faults'.next
    · exact absurd (hf'.symm.trans hf) (h₂ done)
    · exact hdead (h.trans (Prog.exec_op_crash d hf))
  rcases hf : faults 0 with _ | done | done
  · have hexec : (finishPending usable).run.exec faults d =
        (installPending usable chain).run.exec faults.next d := by
      refine (Prog.exec_op_ok d hf).trans ?_
      simp only [FileOp.run, hchain]
      rfl
    rcases hf₁ : faults.next 0 with _ | done | done
    · refine hread faults.next.next rfl (hexec.trans ((Prog.exec_op_ok d hf₁).trans ?_))
      simp only [FileOp.run, hkeyNew]
      rfl
    · exact hread faults.next.next rfl (hexec.trans (Prog.exec_op_fails d hf₁))
    · exact hdead (hexec.trans (Prog.exec_op_crash d hf₁))
  · exact absurd hf (h₀ done)
  · exact hdead (Prog.exec_op_crash d hf)

end LanCert

end DevBridge

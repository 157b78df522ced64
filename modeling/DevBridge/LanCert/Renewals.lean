import DevBridge.LanCert.Calls
import DevBridge.Lib.Transition

/-!
# Renewals of the certificate pair

The key and the certificate are renamed in one after the other, so between the two renames
the pair is broken and only `cert.pem.new` heals it.  A run is any sequence of `store` and
`finish_pending` calls, each with its own faults; a crash ends the call it happens in.

`finish_pending` heals every interruption of one `store`.  It does not heal a `store` that
begins while an earlier one is half done and ends before its own key is renamed: what that
`store` cleans up, or overwrites, is the only certificate of the key in place.  Nor does it
notice that a file which exists could not be read.
-/

namespace DevBridge

namespace LanCert

variable {β : Type} (usable : List β → List β → Bool)

/-- The pair in place, when it can be served: the key and the chain. -/
def served (d : Disk CertFile β) : Option (List β × List β) :=
  match d .key, d .cert with
  | some key, some chain => if usable chain key then some (key, chain) else none
  | _, _ => none

/-- A `store` is half done: `cert.pem.new` holds the certificate of `key.pem`. -/
def HalfDone (d : Disk CertFile β) : Prop :=
  ∃ chain key, d .certNew = some chain ∧ d .key = some key ∧ usable chain key = true

/-- A pair as a renewal stores it: a part of a file is of no use, and the certificate is
usable with its own key only. -/
structure FreshPair (key chain : List β) : Prop where
  fits : usable chain key = true
  own : ∀ k, usable chain k = true → k = key
  wholeKey : ∀ k, k <+: key → ∀ c, usable c k = true → k = key
  wholeChain : ∀ c, c <+: chain → ∀ k, usable c k = true → c = chain

/-- The files, and what happened to them. -/
structure CertWorld (β : Type) where
  disk : Disk CertFile β
  /-- The pairs handed to `store`. -/
  stored : List (List β × List β)
  /-- The pair that was served last. -/
  last : Option (List β × List β)

/-- A call that `maintain` makes. -/
inductive CertCall (β : Type) where
  | store (key chain : List β) (faults : Faults)
  | finish (faults : Faults)

namespace CertWorld

variable (w : CertWorld β)

/-- The files are these now. -/
def withDisk (d : Disk CertFile β) : CertWorld β :=
  { w with disk := d, last := (served usable d).or w.last }

/-- One call. -/
def step : CertCall β → CertWorld β
  | .store key chain faults =>
    { w with stored := (key, chain) :: w.stored }.withDisk usable
      ((store key chain).run.exec faults w.disk).2
  | .finish faults => w.withDisk usable ((finishPending usable).run.exec faults w.disk).2

end CertWorld

/-- The runs, from a directory with or without a key and a certificate. -/
def renewals (key cert : Option (List β)) : Transition (CertWorld β) (CertCall β) where
  init :=
    ({ disk := fun _ => none, stored := [], last := none } : CertWorld β).withDisk usable fun
      | .key => key
      | .cert => cert
      | .keyNew | .certNew => none
  step w call := some (w.step usable call)

/-- A renewal stores a fresh matching pair. -/
def FreshStores : Transition.Law (CertWorld β) (CertCall β) := fun w call _ =>
  match call with
  | .store key chain _ => FreshPair usable key chain ∧ w.disk .key ≠ some key
  | .finish _ => True

/-- The faults of a `finish_pending` that does not miss a file it needs. -/
def SeesPending (d : Disk CertFile β) (faults : Faults) : Prop :=
  (d .certNew ≠ none → ∀ done, faults 0 ≠ .fails done) ∧
    (HalfDone usable d → ∀ done, faults 2 ≠ .fails done)

/-- No `store` is broken off on top of a half done one, and no pending file is missed, once a
pair was served. -/
def RollsForward : Transition.Law (CertWorld β) (CertCall β) := fun w call _ =>
  w.last ≠ none →
    match call with
    | .store _ _ faults => HalfDone usable w.disk → ReachesRename faults
    | .finish faults => SeesPending usable w.disk faults

/-! ### The files in a run -/

section Runs

variable {usable} {w : CertWorld β}

/-- What is known of the files in a run. -/
structure CertInv (usable : List β → List β → Bool) (w : CertWorld β) : Prop where
  fresh : ∀ p ∈ w.stored, FreshPair usable p.1 p.2
  certNew : ∀ c, w.disk .certNew = some c → ∃ p ∈ w.stored, c <+: p.2
  keyNew : ∀ k, w.disk .keyNew = some k → ∃ p ∈ w.stored, k <+: p.1
  seen : ∀ p, served usable w.disk = some p → w.last ≠ none
  /-- Once a pair was served: it is in place and nothing pending belongs to its key, or the
  last `store` is half done. -/
  healed : ∀ p, w.last = some p →
    (w.disk .key = some p.1 ∧ w.disk .cert = some p.2 ∧ usable p.2 p.1 = true ∧
      ¬ HalfDone usable w.disk) ∨
    ∃ q ∈ w.stored, w.disk .key = some q.1 ∧ w.disk .certNew = some q.2 ∧
      w.disk .keyNew = none

/-- A pending certificate that is of use for a key is a whole one, and the key is its own. -/
lemma CertInv.whole (h : CertInv usable w) {chain key : List β}
    (hchain : w.disk .certNew = some chain) (husable : usable chain key = true) :
    (key, chain) ∈ w.stored := by
  obtain ⟨p, hp, hprefix⟩ := h.certNew chain hchain
  have hfresh := h.fresh p hp
  obtain rfl := hfresh.wholeChain chain hprefix key husable
  obtain rfl := hfresh.own key husable
  exact hp

lemma served_eq_some {d : Disk CertFile β} {p : List β × List β} :
    served usable d = some p ↔
      d .key = some p.1 ∧ d .cert = some p.2 ∧ usable p.2 p.1 = true := by
  unfold served
  rcases hk : d .key with _ | key <;> rcases hc : d .cert with _ | chain
  · simp
  · simp
  · simp
  · simp only [Option.some.injEq]
    constructor
    · intro h
      split at h
      · rename_i hu
        cases h
        exact ⟨rfl, rfl, hu⟩
      · cases h
    · rintro ⟨rfl, rfl, hu⟩
      rw [if_pos hu]

/-- The pair in place stays: what else a call does is to files that are pending. -/
lemma CertInv.of_kept {w' : CertWorld β} (h : CertInv usable w)
    (hstored : ∀ p ∈ w.stored, p ∈ w'.stored)
    (hfresh : ∀ p ∈ w'.stored, FreshPair usable p.1 p.2)
    (hkey : w'.disk .key = w.disk .key) (hcert : w'.disk .cert = w.disk .cert)
    (hcertNew : ∀ c, w'.disk .certNew = some c → ∃ p ∈ w'.stored, c <+: p.2)
    (hkeyNew : ∀ k, w'.disk .keyNew = some k → ∃ p ∈ w'.stored, k <+: p.1)
    (hlast : w'.last = (served usable w'.disk).or w.last)
    (hhalf : HalfDone usable w'.disk → HalfDone usable w.disk)
    (hstay : w.last ≠ none → HalfDone usable w.disk → w'.disk = w.disk) :
    CertInv usable w' := by
  have hserved : served usable w'.disk = served usable w.disk := by
    unfold served
    rw [hkey, hcert]
  rw [hserved] at hlast
  have hnone : w.last = none → w'.last = none := by
    intro hl
    rw [hlast, hl, Option.or_none]
    rcases hs : served usable w.disk with _ | p
    · rfl
    · exact absurd hl (h.seen p hs)
  have hsome : w.last ≠ none → w'.last ≠ none := by
    intro hl
    rw [hlast]
    rcases served usable w.disk with _ | p
    · simpa using hl
    · simp
  refine ⟨hfresh, hcertNew, hkeyNew, fun p hp => ?_, fun p hp => ?_⟩
  · rw [hserved] at hp
    exact hsome (h.seen p hp)
  · have hl : w.last ≠ none := fun hl => by
      rw [hnone hl] at hp
      cases hp
    obtain ⟨q, hq⟩ := Option.ne_none_iff_exists'.mp hl
    rcases h.healed q hq with ⟨h1, h2, h3, h4⟩ | ⟨r, hr, h1, h2, h3⟩
    · left
      have hs : served usable w.disk = some q := served_eq_some.mpr ⟨h1, h2, h3⟩
      obtain rfl : q = p := by
        rw [hlast, hs] at hp
        exact Option.some.inj hp
      exact ⟨hkey.trans h1, hcert.trans h2, h3, fun hh => h4 (hhalf hh)⟩
    · right
      have hd := hstay hl ⟨r.2, r.1, h2, h1, (h.fresh r hr).fits⟩
      exact ⟨r, hstored r hr, by rw [hd]; exact h1, by rw [hd]; exact h2, by rw [hd]; exact h3⟩

/-- The key was renamed in: its certificate is pending. -/
lemma CertInv.of_renamed {w' : CertWorld β} {key chain : List β} {d : Disk CertFile β}
    (hfresh : ∀ p ∈ w'.stored, FreshPair usable p.1 p.2) (hmem : (key, chain) ∈ w'.stored)
    (hd : w'.disk = renamedKey key chain d)
    (hlast : ∀ p, served usable w'.disk = some p → w'.last ≠ none) :
    CertInv usable w' := by
  refine ⟨hfresh, fun c hc => ?_, fun k hk => ?_, hlast, fun p hp => Or.inr ?_⟩
  · rw [hd] at hc
    obtain rfl : chain = c := Option.some.inj hc
    exact ⟨_, hmem, List.prefix_refl chain⟩
  · rw [hd] at hk
    cases hk
  · exact ⟨_, hmem, by rw [hd]; rfl, by rw [hd]; rfl, by rw [hd]; rfl⟩

/-- A pair was put in place and its certificate is not pending any more. -/
lemma CertInv.of_installed {w' : CertWorld β} {key chain : List β}
    (hfresh : ∀ p ∈ w'.stored, FreshPair usable p.1 p.2) (husable : usable chain key = true)
    (hkey : w'.disk .key = some key) (hcert : w'.disk .cert = some chain)
    (hcertNew : w'.disk .certNew = none)
    (hkeyNew : ∀ k, w'.disk .keyNew = some k → ∃ p ∈ w'.stored, k <+: p.1)
    (hlast : w'.last = some (key, chain)) : CertInv usable w' := by
  refine ⟨hfresh, fun c hc => ?_, hkeyNew, fun p _ => by simp [hlast], fun p hp => Or.inl ?_⟩
  · rw [hcertNew] at hc
    cases hc
  · rw [hlast] at hp
    obtain rfl := Option.some.inj hp
    refine ⟨hkey, hcert, husable, ?_⟩
    rintro ⟨c, k, hc, -, -⟩
    rw [hcertNew] at hc
    cases hc

lemma CertInv.store {key chain : List β} {faults : Faults} (ih : CertInv usable w)
    (hfresh : FreshPair usable key chain) (hnew : w.disk .key ≠ some key)
    (hlaw : w.last ≠ none → HalfDone usable w.disk → ReachesRename faults) :
    CertInv usable (w.step usable (.store key chain faults)) := by
  set w' := w.step usable (.store key chain faults) with hw'
  have hmem : ∀ p ∈ w.stored, p ∈ w'.stored := fun p hp => List.mem_cons_of_mem _ hp
  have hself : (key, chain) ∈ w'.stored := List.mem_cons_self
  have hall : ∀ p ∈ w'.stored, FreshPair usable p.1 p.2 := by
    intro p hp
    rcases List.mem_cons.mp hp with rfl | hp
    · exact hfresh
    · exact ih.fresh p hp
  have hlast : w'.last = (served usable w'.disk).or w.last := rfl
  have hseen : ∀ p, served usable w'.disk = some p → w'.last ≠ none := by
    intro p hp
    rw [hlast, hp]
    simp
  have hkept : ∀ (_ : Staged key chain w.disk w'.disk),
      (w.last ≠ none → HalfDone usable w.disk → w'.disk = w.disk) →
      CertInv usable w' := by
    intro hs hstay
    refine ih.of_kept hmem hall hs.sameKey hs.sameCert (fun c hc => ?_) (fun k hk => ?_) hlast
      ?_ hstay
    · rcases hs.certNew c hc with h | h
      · obtain ⟨p, hp, hle⟩ := ih.certNew c h
        exact ⟨p, hmem p hp, hle⟩
      · exact ⟨_, hself, h⟩
    · rcases hs.keyNew k hk with h | h
      · obtain ⟨p, hp, hle⟩ := ih.keyNew k h
        exact ⟨p, hmem p hp, hle⟩
      · exact ⟨_, hself, h⟩
    · rintro ⟨c, k, hc, hk, hu⟩
      rw [hs.sameKey] at hk
      rcases hs.certNew c hc with h | h
      · exact ⟨c, k, h, hk, hu⟩
      · -- the new certificate is of no use for the old key
        obtain rfl := hfresh.wholeChain c h k hu
        obtain rfl := hfresh.own k hu
        exact absurd hk hnew
  have hrenamed : w'.disk = renamedKey key chain w.disk → CertInv usable w' :=
    fun h => CertInv.of_renamed hall hself h hseen
  have hreplaced : w'.disk = replaced key chain → CertInv usable w' := by
    intro h
    have hs : served usable w'.disk = some (key, chain) :=
      served_eq_some.mpr ⟨by rw [h]; rfl, by rw [h]; rfl, hfresh.fits⟩
    refine CertInv.of_installed hall hfresh.fits (by rw [h]; rfl) (by rw [h]; rfl)
      (by rw [h]; rfl) (fun k hk => ?_) (by rw [hlast, hs]; rfl)
    rw [h] at hk
    cases hk
  by_cases hhalf : w.last ≠ none ∧ HalfDone usable w.disk
  · have hend : w'.disk = w.disk ∨ w'.disk = renamedKey key chain w.disk ∨
        w'.disk = replaced key chain :=
      store_end_of_reachesRename w.disk (hlaw hhalf.1 hhalf.2) rfl
    rcases hend with h | h | h
    · exact hkept (h ▸ Staged.refl key chain w.disk) fun _ _ => h
    · exact hrenamed h
    · exact hreplaced h
  · have hend : StoreEnd key chain w.disk w'.disk :=
      exec_of_ensures (store_ensures key chain w.disk) (fun _ _ h => h) faults
    rcases hend with h | h | h
    · exact hkept h fun hl hh => absurd ⟨hl, hh⟩ hhalf
    · exact hrenamed h
    · exact hreplaced h

lemma CertInv.finish {faults : Faults} (ih : CertInv usable w)
    (hlaw : w.last ≠ none → SeesPending usable w.disk faults) :
    CertInv usable (w.step usable (.finish faults)) := by
  set w' := w.step usable (.finish faults) with hw'
  have hlast : w'.last = (served usable w'.disk).or w.last := rfl
  have hseen : ∀ p, served usable w'.disk = some p → w'.last ≠ none := by
    intro p hp
    rw [hlast, hp]
    simp
  have hkept : Kept w.disk w'.disk →
      (w.last ≠ none → HalfDone usable w.disk → w'.disk = w.disk) →
      CertInv usable w' := by
    intro hs hstay
    refine ih.of_kept (fun p hp => hp) ih.fresh hs.sameKey hs.sameCert
      (fun c hc => ih.certNew c (hs.certNew c hc)) (fun k hk => ih.keyNew k (hs.keyNew k hk))
      hlast ?_ hstay
    rintro ⟨c, k, hc, hk, hu⟩
    exact ⟨c, k, hs.certNew c hc, hs.sameKey ▸ hk, hu⟩
  have hcert : ∀ key chain, w.disk .key = some key → w.disk .certNew = some chain →
      usable chain key = true → w'.disk = installedCert chain w.disk →
      CertInv usable w' := by
    intro key chain hkey hchain husable h
    have hk : w'.disk .key = some key := by rw [h]; simpa [installedCert] using hkey
    have hc : w'.disk .cert = some chain := by rw [h]; simp [installedCert]
    refine CertInv.of_installed ih.fresh husable hk hc (by rw [h]; simp [installedCert])
      (fun k hk' => ih.keyNew k ?_) ?_
    · rw [h] at hk'
      simpa [installedCert] using hk'
    · rw [hlast, (served_eq_some (p := (key, chain))).mpr ⟨hk, hc, husable⟩]
      rfl
  by_cases hhalf : w.last ≠ none ∧ HalfDone usable w.disk
  · obtain ⟨p, hp⟩ := Option.ne_none_iff_exists'.mp hhalf.1
    rcases ih.healed p hp with ⟨-, -, -, hno⟩ | ⟨q, hq, hkey, hchain, hkeyNew⟩
    · exact absurd hhalf.2 hno
    · have hsees := hlaw hhalf.1
      have husable := (ih.fresh q hq).fits
      have hend := (finish_halfDone usable hkeyNew hkey hchain husable
        (hsees.1 (by rw [hchain]; simp)) (hsees.2 hhalf.2)).1
      rcases hend with h | h
      · exact hkept (h ▸ Kept.refl w.disk) fun _ _ => h
      · exact hcert _ _ hkey hchain husable h
  · have hend : FinishEnd usable w.disk w'.disk :=
      exec_of_ensures (finish_ensures usable w.disk) (fun _ _ h => h) faults
    rcases hend with h | ⟨key, chain, hkey, hchain, husable, h⟩ |
      ⟨key, chain, hkey, hchain, husable, h⟩ | ⟨key, chain, hkey, hchain, husable, h⟩
    · exact hkept h fun hl hh => absurd ⟨hl, hh⟩ hhalf
    · exact CertInv.of_renamed ih.fresh (ih.whole hchain husable) h hseen
    · have hk : w'.disk .key = some key := by rw [h]; rfl
      have hc : w'.disk .cert = some chain := by rw [h]; rfl
      refine CertInv.of_installed ih.fresh husable hk hc (by rw [h]; rfl) (fun k hk' => ?_) ?_
      · rw [h] at hk'
        cases hk'
      · rw [hlast, (served_eq_some (p := (key, chain))).mpr ⟨hk, hc, husable⟩]
        rfl
    · exact hcert key chain hkey hchain husable h

/-- The laws of a run whose interrupted renewals are all rolled forward. -/
def Careful (usable : List β → List β → Bool) : Transition.Law (CertWorld β) (CertCall β) :=
  fun w call w' => FreshStores usable w call w' ∧ RollsForward usable w call w'

lemma certInv_of_reach {key cert : Option (List β)}
    (h : (renewals usable key cert).Reach (Careful usable) w) :
    CertInv usable w := by
  refine h.invariant (P := CertInv usable) ?_ ?_
  · have hlast : (renewals usable key cert).init.last =
        served usable (renewals usable key cert).init.disk := Option.or_none
    refine ⟨fun p hp => (nomatch hp), fun c hc => (nomatch hc), fun k hk => (nomatch hk),
      fun p hp => ?_, fun p hp => Or.inl ?_⟩
    · rw [hlast, hp]
      simp
    · have hs : served usable (renewals usable key cert).init.disk = some p := hlast ▸ hp
      obtain ⟨h1, h2, h3⟩ := served_eq_some.mp hs
      refine ⟨h1, h2, h3, ?_⟩
      rintro ⟨c, k, hc, -, -⟩
      cases hc
  · rintro a (⟨k, c, faults⟩ | faults) b - ih hstep ⟨hfresh, hlaw⟩
    · obtain rfl : a.step usable (.store k c faults) = b := Option.some.inj hstep
      exact ih.store hfresh.1 hfresh.2 hlaw
    · obtain rfl : a.step usable (.finish faults) = b := Option.some.inj hstep
      exact ih.finish hlaw

end Runs

/-- Once a pair was served, every `finish_pending` that answers without an error leaves a
pair that can be served, the one before or a stored one, and nothing pending, as long as no
`store` is broken off on top of a half done one and no pending file is missed.  And whatever
fails, a `store` that fails before the key's rename leaves the pair in place as it was, and
nothing pending when its removals succeed. -/
theorem finish_pending_heals (usable : List β → List β → Bool) (key cert : Option (List β))
    {w : CertWorld β} (h : (renewals usable key cert).Reach (Careful usable) w) :
    (∀ p, w.last = some p → ∀ faults installed, SeesPending usable w.disk faults →
      ((finishPending usable).run.exec faults w.disk).1 = some (.ok installed) →
      ∃ q, served usable ((finishPending usable).run.exec faults w.disk).2 = some q ∧
        (q = p ∨ q ∈ w.stored) ∧
        ((finishPending usable).run.exec faults w.disk).2 .keyNew = none ∧
        ((finishPending usable).run.exec faults w.disk).2 .certNew = none) ∧
    ∀ (key chain : List β) (d : Disk CertFile β) (faults : Faults) (n : ℕ) (done : Option ℕ),
      n < 6 → (∀ m < n, faults m = .ok) → faults n = .fails done →
      ((store key chain).run.exec faults d).2 .key = d .key ∧
      ((store key chain).run.exec faults d).2 .cert = d .cert ∧
      (0 < n → (∀ m, n < m → faults m = .ok) →
        ((store key chain).run.exec faults d).2 .keyNew = none ∧
        ((store key chain).run.exec faults d).2 .certNew = none) := by
  refine ⟨fun p hp faults installed hsees hres => ?_,
    fun k c d faults n done hn hbefore hfails => store_failed_early d hn hbefore hfails rfl⟩
  have hinv := certInv_of_reach h
  set d' := ((finishPending usable).run.exec faults w.disk).2 with hd'
  rcases hinv.healed p hp with ⟨hkey, hcert, husable, hno⟩ | ⟨q, hq, hkey, hchain, hkeyNew⟩
  · rcases finish_settled usable hsees.1 hres with ⟨hk', hc'⟩ | ⟨k, c, hk, hc, hu, -⟩
    · have hend : FinishEnd usable w.disk d' :=
        exec_of_ensures (finish_ensures usable w.disk) (fun _ _ h => h) faults
      rcases hend with h | ⟨k, c, hk, hc, hu, h⟩ | ⟨k, c, hk, hc, hu, h⟩ | ⟨k, c, hk, hc, hu, -⟩
      · exact ⟨p, served_eq_some.mpr ⟨h.sameKey.trans hkey, h.sameCert.trans hcert, husable⟩,
          Or.inl rfl, hk', hc'⟩
      · rw [← hd', h] at hc'
        cases hc'
      · exact ⟨(k, c), served_eq_some.mpr ⟨by rw [h]; rfl, by rw [h]; rfl, hu⟩,
          Or.inr (hinv.whole hc hu), hk', hc'⟩
      · exact absurd ⟨c, k, hc, hk, hu⟩ hno
    · exact absurd ⟨c, k, hc, hk, hu⟩ hno
  · have husable := (hinv.fresh q hq).fits
    have hhalf : HalfDone usable w.disk := ⟨q.2, q.1, hchain, hkey, husable⟩
    have h := (finish_halfDone usable hkeyNew hkey hchain husable
      (hsees.1 (by rw [hchain]; simp)) (hsees.2 hhalf)).2 installed hres
    replace h : d' = installedCert q.2 w.disk := h
    refine ⟨q, served_eq_some.mpr ⟨?_, ?_, husable⟩, Or.inr hq, ?_, ?_⟩
    · rw [h]
      simpa [installedCert] using hkey
    · rw [h]
      simp [installedCert]
    · rw [h]
      simpa [installedCert] using hkeyNew
    · rw [h]
      simp [installedCert]

/-- A key and a chain of one text that ends with 0, the end mark. -/
def sameText (chain key : List ℕ) : Bool := chain == key && chain.getLast? == some 0

lemma sameText_fresh {n : ℕ} (hn : n ≠ 0) : FreshPair sameText [n, 0] [n, 0] := by
  have hwhole : ∀ k : List ℕ, k <+: [n, 0] → k.getLast? = some 0 → k = [n, 0] := by
    rintro k ⟨t, ht⟩ hk
    rcases k with _ | ⟨a, _ | ⟨b, k⟩⟩
    · simp at hk
    · simp only [List.cons_append, List.cons.injEq] at ht
      simp only [List.getLast?_singleton, Option.some.injEq] at hk
      omega
    · simp only [List.cons_append, List.cons.injEq, List.append_eq_nil_iff] at ht
      obtain ⟨rfl, rfl, rfl, -⟩ := ht
      rfl
  refine ⟨by simp [sameText], fun k hk => ?_, fun k hle c hu => ?_, fun c hle k hu => ?_⟩
  · simp only [sameText, Bool.and_eq_true, beq_iff_eq] at hk
    exact hk.1.symm
  · simp only [sameText, Bool.and_eq_true, beq_iff_eq] at hu
    exact hwhole k hle (hu.1 ▸ hu.2)
  · simp only [sameText, Bool.and_eq_true, beq_iff_eq] at hu
    exact hwhole c hle hu.2

/-- The faults of a call in which one operation fails with nothing done. -/
def failsAt (n : ℕ) : Faults := fun m => if m = n then .fails none else .ok

/-- A directory with a served pair, after a `store` whose last rename failed. -/
def afterHalfStore : CertWorld ℕ :=
  ((renewals sameText (some [1, 0]) (some [1, 0])).init).step sameText
    (.store [2, 0] [2, 0] (failsAt 6))

/-- The next `finish_pending` installs the new pair. -/
theorem finish_pending_heals_half_store :
    ∃ w, (renewals sameText (some [1, 0]) (some [1, 0])).Reach (Careful sameText) w ∧
      w.disk .cert = some [1, 0] ∧ w.disk .key = some [2, 0] ∧
      ∃ q, served sameText ((finishPending sameText).run.exec Faults.none w.disk).2 = some q := by
  have hreach : (renewals sameText (some [1, 0]) (some [1, 0])).Reach (Careful sameText)
      afterHalfStore := by
    refine Transition.Reach.init.move ⟨.store [2, 0] [2, 0] (failsAt 6), rfl,
      ⟨sameText_fresh (by decide), by decide⟩, fun _ _ => Or.inr (Or.inr fun n hn => ?_)⟩
    have hne : n ≠ 6 := by omega
    simp [failsAt, hne]
  obtain ⟨q, hq, -⟩ := (finish_pending_heals sameText _ _ hreach).1 ([1, 0], [1, 0]) (by decide)
    Faults.none true ⟨fun _ _ h => (nomatch h), fun _ _ h => (nomatch h)⟩ (by decide)
  exact ⟨afterHalfStore, hreach, by decide, by decide, q, hq⟩

/-- The certificate's rename fails in one renewal and again in the `finish_pending` after it;
the next renewal fails at its certificate, and removes the only certificate of the key in
place.  From then on `finish_pending` answers that there is nothing to do. -/
theorem finish_pending_loses_pair :
    ∃ w, (renewals sameText (some [1, 0]) (some [1, 0])).Reach (FreshStores sameText) w ∧
      w.last = some ([1, 0], [1, 0]) ∧
      ((finishPending sameText).run.exec Faults.none w.disk).1 = some (.ok false) ∧
      served sameText ((finishPending sameText).run.exec Faults.none w.disk).2 = none := by
  have h₁ : (renewals sameText (some [1, 0]) (some [1, 0])).Reach (FreshStores sameText)
      afterHalfStore :=
    Transition.Reach.init.move ⟨.store [2, 0] [2, 0] (failsAt 6), rfl,
      sameText_fresh (by decide), by decide⟩
  have h₂ : (renewals sameText (some [1, 0]) (some [1, 0])).Reach (FreshStores sameText)
      (afterHalfStore.step sameText (.finish (failsAt 3))) :=
    h₁.move ⟨.finish (failsAt 3), rfl, trivial⟩
  have h₃ : (renewals sameText (some [1, 0]) (some [1, 0])).Reach (FreshStores sameText)
      ((afterHalfStore.step sameText (.finish (failsAt 3))).step sameText
        (.store [3, 0] [3, 0] (failsAt 4))) :=
    h₂.move ⟨.store [3, 0] [3, 0] (failsAt 4), rfl, sameText_fresh (by decide), by decide⟩
  exact ⟨_, h₃, by decide, by decide, by decide⟩

end LanCert

end DevBridge

import DevBridge.Server.Finished
import DevBridge.Server.Presence

/-!
# Reconnects

When nothing is under way any more, the registry, the recorded peer and the flag `is_online` of
a client should agree on its latest connection.  The registry always does, as a connection
removes only its own entry.  The peer and the flag are written in steps of their own, so that
they agree as long as the write of an old connection does not come after that of a newer one.
-/

namespace DevBridge

namespace Server

open Transition (free)

variable {cfg : JobsConfig} {d : StoredData} {w w' : ServerWorld} {p p' : Presence}
  {e : ServerStep} {c c' : ConnId} {m m' : String} {life life' : Life}

/-! ### What a step of a connection leaves alone -/

/-- The connection has not unregistered its channel. -/
def Life.holdsChannel : Life → Bool
  | .unregistered | .closed => false
  | _ => true

/-- The connection is in the count of the connected clients. -/
def Life.counted : Life → Bool
  | .opening | .running | .leaving => true
  | _ => false

/-- The connection recorded its peer and did not forget it. -/
def Life.recordsPeer : Life → Bool
  | .recorded | .online | .opening | .running | .leaving | .uncounted => true
  | _ => false

namespace Presence

@[simp] lemma advance_nextConn : (p.advance c m life).nextConn = p.nextConn := by
  cases life <;> simp [advance] <;> split <;> rfl

@[simp] lemma advance_subscribes : (p.advance c m life).subscribes = p.subscribes := by
  cases life <;> simp [advance] <;> split <;> rfl

lemma advance_lives_of_ne (h : c' ≠ c) : (p.advance c m life).lives c' = p.lives c' := by
  cases life <;> simp [advance, h] <;> split <;> rfl

lemma advance_registry_of_ne (h : m' ≠ m) :
    (p.advance c m life).registry m' = p.registry m' := by
  cases life <;> simp [advance] <;> split <;> simp [h]

lemma advance_streamPeers_of_ne (h : m' ≠ m) :
    (p.advance c m life).streamPeers m' = p.streamPeers m' := by
  cases life <;> simp [advance, h] <;> split <;> simp [h]

lemma advance_online_of_ne (h : m' ≠ m) : (p.advance c m life).online m' = p.online m' := by
  cases life <;> simp [advance, h] <;> split <;> rfl

lemma advance_online_eq_none : (p.advance c m life).online m' = none ↔ p.online m' = none := by
  by_cases h : m' = m
  · subst h
    cases life <;> simp [advance] <;> split <;> rfl
  · rw [advance_online_of_ne h]

end Presence

/-! ### The registry and the count -/

namespace Presence

/-- How many connections are at one of some points of their lives. -/
def countOf (p : Presence) (f : Life → Bool) : ℕ :=
  ((Finset.range p.nextConn).filter fun c => (p.lives c).any fun l => f l.2).card

/-- The registered connection of a client is its latest one, and the latest one is registered
until it unregisters. -/
structure Orderly (p : Presence) : Prop where
  fresh : ∀ c m life, p.lives c = some (m, life) → c < p.nextConn
  current : ∀ m c, p.registry m = some c →
    ∃ life, p.lives c = some (m, life) ∧ life.holdsChannel = true
  newest : ∀ m c c' life, p.registry m = some c → p.lives c' = some (m, life) → c' ≤ c
  latest : ∀ c m life, p.lives c = some (m, life) → life.holdsChannel = true →
    (∀ c' life', p.lives c' = some (m, life') → c' ≤ c) → p.registry m = some c
  count : p.connectedClients = p.countOf Life.counted

/-- One connection goes on in its life. -/
lemma countOf_update {f : Life → Bool} (hc : c < p.nextConn) (hlife : p.lives c = some (m, life))
    (hnext : p'.nextConn = p.nextConn) (hself : p'.lives c = some (m, life'))
    (hothers : ∀ c' ≠ c, p'.lives c' = p.lives c') :
    p'.countOf f + (f life).toNat = p.countOf f + (f life').toNat := by
  have hmem : c ∈ Finset.range p.nextConn := Finset.mem_range.mpr hc
  have hsum : ∀ q : Presence, ∀ l, q.lives c = some (m, l) → q.nextConn = p.nextConn →
      (∀ c' ≠ c, q.lives c' = p.lives c') → q.countOf f = (f l).toNat +
        ∑ c' ∈ (Finset.range p.nextConn).erase c,
          if (p.lives c').any (fun l => f l.2) = true then 1 else 0 := by
    intro q l hl hq hsame
    rw [countOf, hq, Finset.card_filter, ← Finset.add_sum_erase _ _ hmem, hl]
    congr 1
    · change (if f l = true then 1 else 0) = _
      cases f l <;> rfl
    · refine Finset.sum_congr rfl fun c' hc' => ?_
      rw [hsame c' (Finset.ne_of_mem_erase hc')]
  rw [hsum p' life' hself hnext hothers, hsum p life hlife rfl fun _ _ => rfl]
  omega

lemma Orderly.live (h : p.Orderly) (hlife : p.lives c = some (m, life))
    (hnext : p'.nextConn = p.nextConn)
    (hregistry : p'.registry = p.registry) (hself : p'.lives c = some (m, life'))
    (hothers : ∀ c' ≠ c, p'.lives c' = p.lives c')
    (hholds : life'.holdsChannel = true → life.holdsChannel = true)
    (hcurrent : p.registry m = some c → life'.holdsChannel = true)
    (hcount : p'.connectedClients + life.counted.toNat =
      p.connectedClients + life'.counted.toNat) : p'.Orderly := by
  have hback : ∀ c' m' l', p'.lives c' = some (m', l') → ∃ l, p.lives c' = some (m', l) ∧
      (l'.holdsChannel = true → l.holdsChannel = true) := by
    intro c' m' l' hl'
    by_cases hc : c' = c
    · subst hc
      obtain ⟨rfl, rfl⟩ := Prod.mk.inj (Option.some.inj (hself.symm.trans hl'))
      exact ⟨life, hlife, hholds⟩
    · exact ⟨l', (hothers c' hc).symm.trans hl', id⟩
  have hforth : ∀ c' m' l, p.lives c' = some (m', l) → ∃ l', p'.lives c' = some (m', l') := by
    intro c' m' l hl
    by_cases hc : c' = c
    · subst hc
      obtain ⟨rfl, rfl⟩ := Prod.mk.inj (Option.some.inj (hlife.symm.trans hl))
      exact ⟨life', hself⟩
    · exact ⟨l, (hothers c' hc).trans hl⟩
  refine ⟨fun c' m' l' hl' => ?_, fun m' c' hr => ?_, fun m' c' c'' l' hr hl' => ?_,
    fun c' m' l' hl' hholds' hlast => ?_, ?_⟩
  · obtain ⟨l, hl, -⟩ := hback c' m' l' hl'
    exact hnext ▸ h.fresh c' m' l hl
  · rw [hregistry] at hr
    obtain ⟨l, hl, hl'⟩ := h.current m' c' hr
    by_cases hc : c' = c
    · subst hc
      obtain ⟨rfl, rfl⟩ := Prod.mk.inj (Option.some.inj (hlife.symm.trans hl))
      exact ⟨life', hself, hcurrent hr⟩
    · exact ⟨l, (hothers c' hc).trans hl, hl'⟩
  · rw [hregistry] at hr
    obtain ⟨l, hl, -⟩ := hback c'' m' l' hl'
    exact h.newest m' c' c'' l hr hl
  · rw [hregistry]
    obtain ⟨l, hl, hkeeps⟩ := hback c' m' l' hl'
    refine h.latest c' m' l hl (hkeeps hholds') fun c'' l'' hl'' => ?_
    obtain ⟨l₂, hl₂⟩ := hforth c'' m' l'' hl''
    exact hlast c'' l₂ hl₂
  · have hupdate := countOf_update (f := Life.counted) (h.fresh c m life hlife) hlife hnext hself
      hothers
    have hbefore := h.count
    omega

/-- The registered connection unregisters. -/
lemma Orderly.unregister (h : p.Orderly) (hlife : p.lives c = some (m, .active))
    (hr : p.registry m = some c) :
    ((p.unregister m).setLife c m .unregistered).Orderly := by
  have hback : ∀ c' m' l', ((p.unregister m).setLife c m .unregistered).lives c' = some (m', l') →
      ∃ l, p.lives c' = some (m', l) ∧ (l'.holdsChannel = true → l' = l ∧ c' ≠ c) := by
    intro c' m' l' hl'
    by_cases hc : c' = c
    · subst hc
      obtain ⟨rfl, rfl⟩ := Prod.mk.inj (Option.some.inj ((by simp :
        ((p.unregister m).setLife c' m .unregistered).lives c' = some (m, .unregistered)).symm.trans
          hl'))
      exact ⟨.active, hlife, fun hholds => (nomatch hholds)⟩
    · rw [setLife_lives, Function.update_of_ne hc] at hl'
      exact ⟨l', hl', fun _ => ⟨rfl, hc⟩⟩
  refine ⟨fun c' m' l' hl' => ?_, fun m' c' hr' => ?_, fun m' c' c'' l' hr' hl' => ?_,
    fun c' m' l' hl' hholds' hlast => ?_, ?_⟩
  · obtain ⟨l, hl, -⟩ := hback c' m' l' hl'
    exact h.fresh c' m' l hl
  · by_cases hm : m' = m
    · subst hm
      simp at hr'
    · simp only [setLife_registry, unregister_registry, Function.update_of_ne hm] at hr'
      obtain ⟨l, hl, hl'⟩ := h.current m' c' hr'
      have hc : c' ≠ c := by
        rintro rfl
        exact hm (Prod.mk.inj (Option.some.inj (hl.symm.trans hlife))).1
      exact ⟨l, by simpa [hc] using hl, hl'⟩
  · by_cases hm : m' = m
    · subst hm
      simp at hr'
    · simp only [setLife_registry, unregister_registry, Function.update_of_ne hm] at hr'
      obtain ⟨l, hl, -⟩ := hback c'' m' l' hl'
      exact h.newest m' c' c'' l hr' hl
  · obtain ⟨l, hl, hkeeps⟩ := hback c' m' l' hl'
    obtain ⟨rfl, hc⟩ := hkeeps hholds'
    have hm : m' ≠ m := by
      -- An older connection of the same client is not the latest.
      rintro rfl
      have hle : c ≤ c' := hlast c .unregistered (by simp)
      have hge : c' ≤ c := h.newest m' c c' l' hr hl
      exact hc (Nat.le_antisymm hge hle)
    simp only [setLife_registry, unregister_registry, Function.update_of_ne hm]
    refine h.latest c' m' l' hl hholds' fun c'' l'' hl'' => ?_
    have hc'' : c'' ≠ c := by
      rintro rfl
      exact hm (Prod.mk.inj (Option.some.inj (hl''.symm.trans hlife))).1
    exact hlast c'' l'' (by simpa [hc''] using hl'')
  · have hupdate : ((p.unregister m).setLife c m .unregistered).countOf Life.counted +
        (Life.counted .active).toNat =
          p.countOf Life.counted + (Life.counted .unregistered).toNat :=
      countOf_update (h.fresh c m _ hlife) hlife rfl (by simp) fun c' hc' => by simp [hc']
    have hbefore := h.count
    simp only [Life.counted, Bool.toNat_false, Nat.add_zero] at hupdate
    change p.connectedClients = _
    omega

/-- A connection that unregistered is not the registered one. -/
lemma Orderly.not_registered (h : p.Orderly) (hlife : p.lives c = some (m, life))
    (hholds : life.holdsChannel = false) : p.registry m ≠ some c := by
  intro hr
  obtain ⟨l, hl, hl'⟩ := h.current m c hr
  obtain ⟨-, rfl⟩ := Prod.mk.inj (Option.some.inj (hlife.symm.trans hl))
  simp [hholds] at hl'

/-- What a connection leaves out is neither its registration nor its count. -/
lemma Orderly.skip (h : p.Orderly) (hlife : p.lives c = some (m, life))
    (hskips : life.Skips life') : (p.setLife c m life').Orderly := by
  have hothers : ∀ c' ≠ c, (p.setLife c m life').lives c' = p.lives c' :=
    fun c' hc' => Function.update_of_ne hc' _ _
  have hself : (p.setLife c m life').lives c = some (m, life') := Function.update_self _ _ _
  cases hskips with
  | recorded => exact h.live hlife rfl rfl hself hothers id (fun _ => rfl) rfl
  | opening => exact h.live hlife rfl rfl hself hothers id (fun _ => rfl) rfl
  | unregistered =>
    exact h.live hlife rfl rfl hself hothers id
      (fun hr => absurd hr (h.not_registered hlife rfl)) rfl

lemma Orderly.advance (h : p.Orderly) (hlife : p.lives c = some (m, life)) :
    (p.advance c m life).Orderly := by
  have hpositive : life.counted = true → 0 < p.connectedClients := by
    intro hcounted
    rw [h.count]
    refine Finset.card_pos.mpr ⟨c, Finset.mem_filter.mpr ⟨?_, by simp [hlife, hcounted]⟩⟩
    exact Finset.mem_range.mpr (h.fresh c m life hlife)
  have hlive : ∀ {life' : Life}, (p.advance c m life).registry = p.registry →
      (p.advance c m life).lives c = some (m, life') →
      (life'.holdsChannel = true → life.holdsChannel = true) →
      (p.registry m = some c → life'.holdsChannel = true) →
      (p.advance c m life).connectedClients + life.counted.toNat =
        p.connectedClients + life'.counted.toNat → (p.advance c m life).Orderly :=
    fun hregistry hself hholds hcurrent hcount => h.live hlife advance_nextConn hregistry hself
      (fun c' hc' => advance_lives_of_ne hc') hholds hcurrent hcount
  cases life with
  | registered => exact hlive rfl (Function.update_self _ _ _) id (fun _ => rfl) rfl
  | recorded => exact hlive rfl (Function.update_self _ _ _) id (fun _ => rfl) rfl
  | online => exact hlive rfl (Function.update_self _ _ _) id (fun _ => rfl) rfl
  | opening => exact hlive rfl (Function.update_self _ _ _) id (fun _ => rfl) rfl
  | running => exact hlive rfl (Function.update_self _ _ _) id (fun _ => rfl) rfl
  | leaving =>
    refine hlive rfl (Function.update_self _ _ _) id (fun _ => rfl) ?_
    have hone := hpositive rfl
    simp only [Presence.advance, setLife_connectedClients, setCount_connectedClients,
      Life.counted, Bool.toNat_true, Bool.toNat_false]
    omega
  | uncounted =>
    refine hlive ?_ (Function.update_self _ _ _) id (fun _ => rfl) ?_
    · simp only [Presence.advance]
      split <;> rfl
    · simp only [Presence.advance]
      split <;> rfl
  | forgotten =>
    by_cases hr : p.registry m = some c
    · refine hlive rfl (?_ : _ = some (m, .active)) id (fun _ => rfl) rfl
      simp [Presence.advance, hr]
    · refine hlive rfl (?_ : _ = some (m, .closed)) (fun _ => rfl) (fun h => absurd h hr) rfl
      simp [Presence.advance, hr]
  | active =>
    by_cases hr : p.registry m = some c
    · have hadvance : p.advance c m .active = (p.unregister m).setLife c m .unregistered := by
        simp [Presence.advance, hr]
      rw [hadvance]
      exact h.unregister hlife hr
    · have hself : (p.advance c m .active).lives c = some (m, .unregistered) :=
        Function.update_self _ _ _
      refine hlive ?_ hself (fun _ => rfl) (fun h => absurd h hr) ?_
      · simp only [Presence.advance, if_neg hr]
        rfl
      · simp only [Presence.advance, if_neg hr]
        rfl
  | unregistered =>
    exact hlive rfl (Function.update_self _ _ _) id
      (fun hr => absurd hr (h.not_registered hlife rfl)) rfl
  | closed => exact h

lemma Orderly.opened (h : p.Orderly) (m : String) : (p.opened m).Orderly := by
  have hnot : ∀ c' m' life, p.lives c' = some (m', life) → c' ≠ p.nextConn :=
    fun c' m' life hl => Nat.ne_of_lt (h.fresh c' m' life hl)
  have hcases : ∀ c' m' life, (p.opened m).lives c' = some (m', life) →
      (c' = p.nextConn ∧ m' = m ∧ life = .registered) ∨ p.lives c' = some (m', life) := by
    intro c' m' life hl
    by_cases hc : c' = p.nextConn
    · rw [Presence.opened_lives, hc, Function.update_self] at hl
      obtain ⟨rfl, rfl⟩ := Prod.mk.inj (Option.some.inj hl)
      exact Or.inl ⟨hc, rfl, rfl⟩
    · rw [Presence.opened_lives, Function.update_of_ne hc] at hl
      exact Or.inr hl
  refine ⟨fun c' m' life hl => ?_, fun m' c' hr => ?_, fun m' c' c'' life hr hl => ?_,
    fun c' m' life hl hholds hlast => ?_, ?_⟩
  · rcases hcases c' m' life hl with ⟨rfl, -, -⟩ | hl
    · exact Nat.lt_succ_self _
    · exact Nat.lt_succ_of_lt (h.fresh c' m' life hl)
  · by_cases hm' : m' = m
    · subst hm'
      rw [Presence.opened_registry, Function.update_self] at hr
      obtain rfl := Option.some.inj hr
      exact ⟨.registered, by simp, rfl⟩
    · rw [Presence.opened_registry, Function.update_of_ne hm'] at hr
      obtain ⟨l, hl, hl'⟩ := h.current m' c' hr
      exact ⟨l, by simpa [hnot c' m' l hl] using hl, hl'⟩
  · by_cases hm' : m' = m
    · subst hm'
      rw [Presence.opened_registry, Function.update_self] at hr
      obtain rfl := Option.some.inj hr
      rcases hcases c'' m' life hl with ⟨rfl, -, -⟩ | hl
      · exact Nat.le_refl _
      · exact Nat.le_of_lt (h.fresh c'' m' life hl)
    · rw [Presence.opened_registry, Function.update_of_ne hm'] at hr
      rcases hcases c'' m' life hl with ⟨-, rfl, -⟩ | hl
      · exact absurd rfl hm'
      · exact h.newest m' c' c'' life hr hl
  · rcases hcases c' m' life hl with ⟨rfl, rfl, -⟩ | hbefore
    · exact Function.update_self _ _ _
    · have hm' : m' ≠ m := by
        -- The connection that opens is later than this one.
        rintro rfl
        have hle : p.nextConn ≤ c' := hlast p.nextConn .registered (by simp)
        exact absurd (h.fresh c' m' life hbefore) (Nat.not_lt.mpr hle)
      rw [Presence.opened_registry, Function.update_of_ne hm']
      refine h.latest c' m' life hbefore hholds fun c'' l'' hl'' => ?_
      exact hlast c'' l'' (by simpa [hnot c'' m' l'' hl''] using hl'')
  · have hsame : ∀ c' ∈ Finset.range p.nextConn, (p.opened m).lives c' = p.lives c' :=
      fun c' hc' => Function.update_of_ne (Nat.ne_of_lt (Finset.mem_range.mp hc')) _ _
    have hcount : (p.opened m).countOf Life.counted = p.countOf Life.counted := by
      rw [countOf, Presence.opened_nextConn, Finset.range_add_one, Finset.filter_insert,
        if_neg (by simp [Life.counted])]
      exact congrArg Finset.card (Finset.filter_congr fun c' hc' => by rw [hsame c' hc'])
    rw [hcount]
    exact h.count

/-- The registry stays in order whatever comes. -/
lemma Orderly.move (h : p.Orderly) (hmove : p.Move e p') : p'.Orderly := by
  have hsame : ∀ {q : Presence}, q.lives = p.lives → q.registry = p.registry →
      q.nextConn = p.nextConn → q.connectedClients = p.connectedClients → q.Orderly := by
    intro q hlives hregistry hnext hcount
    refine ⟨?_, ?_, ?_, ?_, ?_⟩
    · rw [hlives, hnext]
      exact h.fresh
    · rw [hlives, hregistry]
      exact h.current
    · rw [hlives, hregistry]
      exact h.newest
    · rw [hlives, hregistry]
      exact h.latest
    · rw [hcount, countOf, hlives, hnext]
      exact h.count
  cases hmove with
  | quiet => exact h
  | subscribed machineId driver => exact hsame rfl rfl rfl rfl
  | touched machineId => exact hsame rfl rfl rfl rfl
  | refused place machineId subscribes htask => exact hsame rfl rfl rfl rfl
  | admitted e machineId subscribes htask => exact hsame rfl rfl rfl rfl
  | unwritten machineId => exact hsame rfl rfl rfl rfl
  | opened place machineId subscribes htask =>
    have hbefore : (p.withSubscribes subscribes).Orderly := hsame rfl rfl rfl rfl
    exact hbefore.opened machineId
  | lived c machineId life hlife => exact h.advance hlife
  | skipped c machineId life life' hlife hskips => exact h.skip hlife hskips
  | restarted =>
    refine ⟨fun _ _ _ hl => (nomatch hl), fun _ _ hr => (nomatch hr),
      fun _ _ _ _ hr => (nomatch hr), fun _ _ _ hl => (nomatch hl), ?_⟩
    simp [countOf]

/-! ### The condition -/

/-- The registered connection of the client is at one of these points of its life. -/
def CurrentAt (p : Presence) (m : String) (lives : List Life) : Prop :=
  ∃ c life, p.registry m = some c ∧ p.lives c = some (m, life) ∧ life ∈ lives

/-- A connection of the client has yet to set it offline, or a subscribe of it goes on. -/
def Unsettled (p : Presence) (m : String) : Prop :=
  (∃ c, p.lives c = some (m, .unregistered)) ∨ .checkPairing m ∈ p.subscribes ∨
    .register m ∈ p.subscribes

/-- No write of a connection comes after those of a newer one.  In each case a write that is
made good later on is let through. -/
structure InOrder (p : Presence) (e : ServerStep) (p' : Presence) : Prop where
  /-- A connection records its peer while it is registered, or a newer one has yet to do so. -/
  peer : ∀ c m, e = .loop c → p.lives c = some (m, .registered) →
    p.registry m = some c ∨ p.CurrentAt m [.registered] ∨ .register m ∈ p.subscribes
  /-- It sets its client online while the client has a registered channel. -/
  online : ∀ c m, e = .loop c → p.lives c = some (m, .recorded) →
    p.registry m ≠ none ∨ p.Unsettled m
  /-- It sets its client offline while there is no registered channel, or a newer connection has
  yet to set it online. -/
  offline : ∀ c m, e = .loop c → p.lives c = some (m, .unregistered) →
    p.registry m = none ∨ p.CurrentAt m [.registered, .recorded] ∨ .register m ∈ p.subscribes
  /-- A heartbeat, which sets its client online, comes while the client has a registered
  channel. -/
  ping : ∀ m, e = .ping m → p.registry m ≠ none ∨ p.online m ≠ some false ∨ p.Unsettled m
  /-- A subscribe, which sets its client online, is refused while the client has a registered
  channel. -/
  refused : ∀ place m, e = .task place → p.subscribes = .checkPairing m ::ₘ p'.subscribes →
    p.registry m ≠ none ∨ p.online m ≠ some true ∨ p'.Unsettled m
  /-- A subscribe whose row cannot be written is of a client that has one. -/
  unwritten : ∀ m, e = .subscribeUnwritten m → p.online m ≠ none
  /-- Setting a client online fails for a connection that is not the registered one, or while the
  client is online, or a subscribe of it is about to register. -/
  onlineFails : ∀ c m, e = .loopFails c → p.lives c = some (m, .recorded) →
    p.registry m ≠ some c ∨ p.online m = some true ∨ .register m ∈ p.subscribes
  /-- Setting a client offline fails while it has a registered channel or is offline. -/
  offlineFails : ∀ c m, e = .loopFails c → p.lives c = some (m, .unregistered) →
    p.registry m ≠ none ∨ p.online m ≠ some true ∨ p'.Unsettled m

/-! ### Rows -/

/-- A client that connects or subscribes has a row. -/
structure Rowed (p : Presence) : Prop where
  known : ∀ c m life, p.lives c = some (m, life) → p.online m ≠ none
  subscribed : ∀ m, .checkPairing m ∈ p.subscribes ∨ .register m ∈ p.subscribes →
    p.online m ≠ none

/-- Rows stay, and a client that comes has one. -/
lemma Rowed.congr (h : p.Rowed) (honline : ∀ m, p'.online m = none → p.online m = none)
    (hlives : ∀ c m life, p'.lives c = some (m, life) →
      (∃ life, p.lives c = some (m, life)) ∨ p'.online m ≠ none)
    (hsubs : ∀ m, .checkPairing m ∈ p'.subscribes ∨ .register m ∈ p'.subscribes →
      (.checkPairing m ∈ p.subscribes ∨ .register m ∈ p.subscribes) ∨ p'.online m ≠ none) :
    p'.Rowed := by
  refine ⟨fun c m life hlife => ?_, fun m hm => ?_⟩
  · rcases hlives c m life hlife with ⟨life₀, hlife₀⟩ | hsome
    · exact fun hnone => h.known c m life₀ hlife₀ (honline m hnone)
    · exact hsome
  · rcases hsubs m hm with hbefore | hsome
    · exact fun hnone => h.subscribed m hbefore (honline m hnone)
    · exact hsome

/-- One connection goes on. -/
lemma lives_of_others (hlife : p.lives c = some (m, life)) (hself : p'.lives c = some (m, life'))
    (hothers : ∀ c' ≠ c, p'.lives c' = p.lives c') {l : Life} (hl : p'.lives c' = some (m', l)) :
    ∃ l₀, p.lives c' = some (m', l₀) := by
  by_cases hc : c' = c
  · subst hc
    obtain ⟨rfl, -⟩ := Prod.mk.inj (Option.some.inj (hself.symm.trans hl))
    exact ⟨life, hlife⟩
  · exact ⟨l, (hothers c' hc).symm.trans hl⟩

/-- No connection is of two clients. -/
lemma ne_of_lives (hlife : p.lives c = some (m, life)) (hl : p.lives c' = some (m', life'))
    (hm : m' ≠ m) : c' ≠ c := by
  rintro rfl
  exact hm (Prod.mk.inj (Option.some.inj (hl.symm.trans hlife))).1

lemma Orderly.ne_of_lives (hp : p.Orderly) (hlife : p.lives c = some (m, life))
    (hc' : p.registry m' = some c') (hm : m' ≠ m) : c' ≠ c := by
  obtain ⟨l, hl, -⟩ := hp.current m' c' hc'
  exact Presence.ne_of_lives hlife hl hm

/-- A new connection is none of those there are. -/
lemma Orderly.ne_nextConn (hp : p.Orderly) (hc : p.registry m = some c) : c ≠ p.nextConn := by
  obtain ⟨life, hlife, -⟩ := hp.current m c hc
  exact Nat.ne_of_lt (hp.fresh c m life hlife)

/-- A lawful step keeps the rows of all clients. -/
lemma Rowed.move (h : p.Rowed) (hmove : p.Move e p') (hlaw : p.InOrder e p') : p'.Rowed := by
  cases hmove with
  | quiet => exact h
  | subscribed machineId driver =>
    have honline : ∀ m, (Function.update p.online machineId (some true)) m = none →
        p.online m = none := by
      intro m hnone
      by_cases hm : m = machineId
      · subst hm
        simp at hnone
      · simpa [hm] using hnone
    refine h.congr honline (fun c m life hlife => Or.inl ⟨life, hlife⟩) fun m hm => ?_
    by_cases hself : m = machineId
    · subst hself
      exact Or.inr (by simp)
    · exact Or.inl (by simpa [hself] using hm)
  | touched machineId =>
    refine h.congr (fun m hnone => ?_) (fun c m life hlife => Or.inl ⟨life, hlife⟩) fun _ => Or.inl
    by_cases hm : m = machineId
    · subst hm
      simpa using hnone
    · simpa [hm] using hnone
  | refused place machineId subscribes htask =>
    refine h.congr (fun _ => id) (fun c m life hlife => Or.inl ⟨life, hlife⟩) fun m hm => Or.inl ?_
    rw [htask]
    exact hm.imp Multiset.mem_cons_of_mem Multiset.mem_cons_of_mem
  | admitted e machineId subscribes htask =>
    refine h.congr (fun _ => id) (fun c m life hlife => Or.inl ⟨life, hlife⟩) fun m hm => Or.inl ?_
    rw [htask]
    simp only [withSubscribes_subscribes, Multiset.mem_cons, Task.register.injEq, reduceCtorEq,
      false_or, Task.checkPairing.injEq] at hm ⊢
    tauto
  | opened place machineId subscribes htask =>
    have hmem : .register machineId ∈ p.subscribes := by
      rw [htask]
      exact Multiset.mem_cons_self _ _
    refine h.congr (fun _ => id) (fun c m life hlife => ?_) fun m hm => Or.inl ?_
    · by_cases hc : c = p.nextConn
      · subst hc
        obtain ⟨rfl, -⟩ := Prod.mk.inj (Option.some.inj
          ((Function.update_self _ _ _ : Function.update p.lives p.nextConn _ _ = _).symm.trans
            hlife))
        exact Or.inr (h.subscribed machineId (Or.inr hmem))
      · exact Or.inl ⟨life, by simpa [hc] using hlife⟩
    · rw [htask]
      exact hm.imp Multiset.mem_cons_of_mem Multiset.mem_cons_of_mem
  | lived c machineId life hlife =>
    refine h.congr (fun m hnone => advance_online_eq_none.mp hnone) (fun c' m l hl => Or.inl ?_)
      fun m hm => Or.inl (by rwa [advance_subscribes] at hm)
    have hself : ∃ life', (p.advance c machineId life).lives c = some (machineId, life') := by
      cases life <;> simp [Presence.advance, hlife]
    obtain ⟨life', hself⟩ := hself
    exact lives_of_others hlife hself (fun c' hc' => advance_lives_of_ne hc') hl
  | unwritten machineId =>
    refine h.congr (fun _ => id) (fun c m life hlife => Or.inl ⟨life, hlife⟩) fun m hm => ?_
    by_cases hself : m = machineId
    · subst hself
      exact Or.inr (hlaw.unwritten m rfl)
    · exact Or.inl (by simpa [hself] using hm)
  | skipped c machineId life life' hlife hskips =>
    exact h.congr (fun _ => id)
      (fun c' m l hl => Or.inl (lives_of_others hlife (Function.update_self _ _ _)
        (fun c' hc' => Function.update_of_ne hc' _ _) hl)) fun _ => Or.inl
  | restarted =>
    refine ⟨fun c m life hl => ?_, fun m hm => ?_⟩
    · cases hl
    · simp at hm

/-! ### Peers and flags -/

/-- The recorded peer of the client is that of its registered connection, or that one is yet to
record it. -/
def PeersAgree (p : Presence) (m : String) : Prop :=
  .register m ∈ p.subscribes ∨ match p.registry m with
    | none => p.streamPeers m = none
    | some c => ∃ life, p.lives c = some (m, life) ∧
        (life = .registered ∨ p.streamPeers m = if life.recordsPeer then some c else none)

/-- The flag of the client tells whether it has a registered channel, or a write that makes it
tell so is to come. -/
structure OnlineAgrees (p : Presence) (m : String) : Prop where
  offline : p.registry m = none → p.online m = some true → p.Unsettled m
  online : p.registry m ≠ none → p.online m ≠ some true →
    p.CurrentAt m [.registered, .recorded] ∨ .register m ∈ p.subscribes

lemma PeersAgree.congr (h : p.PeersAgree m) (hregistry : p'.registry m = p.registry m)
    (hpeer : p'.streamPeers m = p.streamPeers m)
    (hlives : ∀ c, p.registry m = some c → p'.lives c = p.lives c)
    (hsubs : .register m ∈ p.subscribes → .register m ∈ p'.subscribes) : p'.PeersAgree m := by
  rcases h with hsub | h
  · exact Or.inl (hsubs hsub)
  · refine Or.inr ?_
    rw [hregistry, hpeer]
    cases hr : p.registry m with
    | none =>
      rw [hr] at h
      exact h
    | some c =>
      rw [hr] at h
      obtain ⟨life, hlife, hagrees⟩ := h
      exact ⟨life, (hlives c hr).trans hlife, hagrees⟩

/-- A connection goes on in its life, and its client's peer still agrees. -/
lemma PeersAgree.advance (h : p.PeersAgree m) (hp : p.Orderly) (hlife : p.lives c = some (m, life))
    (hpeer : life = .registered → p.registry m = some c ∨ p.CurrentAt m [.registered] ∨
      .register m ∈ p.subscribes) : (p.advance c m life).PeersAgree m := by
  rcases h with hsub | h
  · exact Or.inl (by rw [advance_subscribes]; exact hsub)
  by_cases hr : p.registry m = some c
  · -- The registered connection itself.
    rw [hr] at h
    obtain ⟨l, hl, hagrees⟩ := h
    obtain ⟨-, rfl⟩ := Prod.mk.inj (Option.some.inj (hlife.symm.trans hl))
    obtain ⟨l, hl', hholds⟩ := hp.current m c hr
    obtain ⟨-, rfl⟩ := Prod.mk.inj (Option.some.inj (hlife.symm.trans hl'))
    refine Or.inr ?_
    cases life <;> simp [Life.holdsChannel] at hholds <;>
      simp [Life.recordsPeer] at hagrees <;>
      simp [Presence.advance, hr, hagrees, Life.recordsPeer]
  · have hregistry : (p.advance c m life).registry m = p.registry m := by
      cases life <;> simp [Presence.advance, hr]
      split <;> rfl
    have hlives : ∀ c', p.registry m = some c' → (p.advance c m life).lives c' = p.lives c' :=
      fun c' hc' => advance_lives_of_ne fun heq => hr (heq ▸ hc')
    have hcurrent : p.CurrentAt m [.registered] → (p.advance c m life).PeersAgree m := by
      rintro ⟨c', l, hr', hl, hmem⟩
      obtain rfl : l = .registered := by simpa using hmem
      refine Or.inr ?_
      rw [hregistry, hr']
      exact ⟨.registered, (hlives c' hr').trans hl, Or.inl rfl⟩
    by_cases hreg : life = .registered
    · rcases hpeer hreg with hr' | hcur | hsub
      · exact absurd hr' hr
      · exact hcurrent hcur
      · exact Or.inl (by rw [advance_subscribes]; exact hsub)
    · -- An old connection forgets no peer but its own.
      have hpeers : p.streamPeers m ≠ some c →
          (p.advance c m life).streamPeers m = p.streamPeers m := by
        intro hne
        cases life <;> simp [Presence.advance, hne] at hreg ⊢
        split <;> rfl
      cases hr' : p.registry m with
      | none =>
        rw [hr'] at h
        refine Or.inr ?_
        rw [hregistry, hr', hpeers (by simp [h])]
        exact h
      | some c' =>
        rw [hr'] at h
        obtain ⟨l, hl, hagrees⟩ := h
        rcases hagrees with rfl | hagrees
        · exact hcurrent ⟨c', .registered, hr', hl, by simp⟩
        · have hne : p.streamPeers m ≠ some c := by
            rw [hagrees]
            split
            · exact fun heq => hr (hr'.trans heq)
            · simp
          refine Or.inr ?_
          rw [hregistry, hr', hpeers hne]
          exact ⟨l, (hlives c' hr').trans hl, Or.inr hagrees⟩

/-- A connection that leaves a write out has its peer recorded before and after, or not. -/
lemma PeersAgree.skip (h : p.PeersAgree m) (hlife : p.lives c = some (m, life))
    (hskips : life.Skips life') : (p.setLife c m life').PeersAgree m := by
  by_cases hr : p.registry m = some c
  · rcases h with hsub | h
    · exact Or.inl hsub
    rw [hr] at h
    obtain ⟨l, hl, hagrees⟩ := h
    obtain ⟨-, rfl⟩ := Prod.mk.inj (Option.some.inj (hlife.symm.trans hl))
    refine Or.inr ?_
    rw [setLife_registry, hr]
    refine ⟨life', Function.update_self _ _ _, Or.inr ?_⟩
    cases hskips <;> simpa [Life.recordsPeer] using hagrees
  · refine h.congr rfl rfl (fun c' hc' => Function.update_of_ne ?_ _ _) id
    rintro rfl
    exact hr hc'

/-- A lawful step keeps the peers of all clients. -/
lemma PeersAgree.move (h : ∀ m, p.PeersAgree m) (hp : p.Orderly) (hmove : p.Move e p')
    (hlaw : p.InOrder e p') (m : String) : p'.PeersAgree m := by
  cases hmove with
  | quiet => exact h m
  | subscribed machineId driver =>
    exact (h m).congr rfl rfl (fun _ _ => rfl) fun hsub => Multiset.mem_cons_of_mem hsub
  | touched machineId => exact (h m).congr rfl rfl (fun _ _ => rfl) id
  | refused place machineId subscribes htask =>
    refine (h m).congr rfl rfl (fun _ _ => rfl) fun hsub => ?_
    rw [htask] at hsub
    simpa using hsub
  | admitted e machineId subscribes htask =>
    refine (h m).congr rfl rfl (fun _ _ => rfl) fun hsub => Multiset.mem_cons_of_mem ?_
    rw [htask] at hsub
    simpa using hsub
  | unwritten machineId =>
    exact (h m).congr rfl rfl (fun _ _ => rfl) fun hsub => Multiset.mem_cons_of_mem hsub
  | skipped c machineId life life' hlife hskips =>
    by_cases hm : m = machineId
    · subst hm
      exact (h m).skip hlife hskips
    · exact (h m).congr rfl rfl
        (fun c' hc' => Function.update_of_ne (hp.ne_of_lives hlife hc' hm) _ _) id
  | opened place machineId subscribes htask =>
    by_cases hm : m = machineId
    · subst hm
      refine Or.inr ?_
      rw [opened_registry, Function.update_self]
      exact ⟨.registered, Function.update_self _ _ _, Or.inl rfl⟩
    · refine (h m).congr (Function.update_of_ne hm _ _) rfl
        (fun c hc => Function.update_of_ne (hp.ne_nextConn hc) _ _) fun hsub => ?_
      rw [htask] at hsub
      simpa [hm] using hsub
  | lived c machineId life hlife =>
    by_cases hm : m = machineId
    · subst hm
      exact (h m).advance hp hlife fun hreg => hlaw.peer c m rfl (hreg ▸ hlife)
    · exact (h m).congr (advance_registry_of_ne hm) (advance_streamPeers_of_ne hm)
        (fun c' hc' => advance_lives_of_ne (hp.ne_of_lives hlife hc' hm))
        (by rw [advance_subscribes]; exact id)
  | restarted => exact Or.inr rfl

lemma Unsettled.mono (h : p.Unsettled m)
    (hlives : ∀ c, p.lives c = some (m, .unregistered) → p'.lives c = some (m, .unregistered))
    (hsubs : ∀ task ∈ p.subscribes, task ∈ p'.subscribes ∨ p'.Unsettled m) : p'.Unsettled m := by
  rcases h with ⟨c, hc⟩ | hsub | hsub
  · exact Or.inl ⟨c, hlives c hc⟩
  · exact (hsubs _ hsub).elim (fun hmem => Or.inr (Or.inl hmem)) id
  · exact (hsubs _ hsub).elim (fun hmem => Or.inr (Or.inr hmem)) id

lemma CurrentAt.congr {lives : List Life} (h : p.CurrentAt m lives)
    (hregistry : p'.registry m = p.registry m)
    (hlives : ∀ c, p.registry m = some c → p'.lives c = p.lives c) : p'.CurrentAt m lives := by
  obtain ⟨c, life, hr, hlife, hmem⟩ := h
  exact ⟨c, life, hregistry.trans hr, (hlives c hr).trans hlife, hmem⟩

/-- A step that changes neither the flag nor the registry of a client, nor its connections. -/
lemma OnlineAgrees.congr (h : p.OnlineAgrees m) (hregistry : p'.registry m = p.registry m)
    (honline : p'.online m = p.online m)
    (hlives : ∀ c life, p.lives c = some (m, life) → p'.lives c = p.lives c)
    (hcurrent : ∀ c, p.registry m = some c → p'.lives c = p.lives c)
    (hcheck : .checkPairing m ∈ p.subscribes → p'.Unsettled m)
    (hsubs : .register m ∈ p.subscribes → .register m ∈ p'.subscribes) : p'.OnlineAgrees m := by
  refine ⟨fun hr ho => ?_, fun hr ho => ?_⟩
  · rw [hregistry] at hr
    rw [honline] at ho
    rcases h.offline hr ho with ⟨c, hc⟩ | hsub | hsub
    · exact Or.inl ⟨c, (hlives c _ hc).trans hc⟩
    · exact hcheck hsub
    · exact Or.inr (Or.inr (hsubs hsub))
  · rw [hregistry] at hr
    rw [honline] at ho
    exact (h.online hr ho).imp (fun hcur => hcur.congr hregistry hcurrent) hsubs

/-- A connection goes on in its life, and its client's flag still agrees. -/
lemma OnlineAgrees.advance (h : p.OnlineAgrees m) (hp : p.Orderly) (hrows : p.Rowed)
    (hlife : p.lives c = some (m, life))
    (hrecorded : life = .recorded → p.registry m ≠ none ∨ p.Unsettled m)
    (hunregistered : life = .unregistered → p.registry m = none ∨
      p.CurrentAt m [.registered, .recorded] ∨ .register m ∈ p.subscribes) :
    (p.advance c m life).OnlineAgrees m := by
  have hsubs : ∀ task ∈ p.subscribes, task ∈ (p.advance c m life).subscribes :=
    fun task hmem => by rw [advance_subscribes]; exact hmem
  have hunsettled : life ≠ .unregistered → p.Unsettled m → (p.advance c m life).Unsettled m := by
    intro hne hun
    refine hun.mono (fun c' hc' => ?_) fun task hmem => Or.inl (hsubs task hmem)
    refine (advance_lives_of_ne ?_).trans hc'
    rintro rfl
    exact hne (Prod.mk.inj (Option.some.inj (hlife.symm.trans hc'))).2
  have hcurrent : p.registry m ≠ some c → ∀ lives, p.CurrentAt m lives →
      (p.advance c m life).CurrentAt m lives := by
    intro hr lives hcur
    refine hcur.congr ?_ fun c' hc' => advance_lives_of_ne fun heq => hr (heq ▸ hc')
    cases life <;> simp [Presence.advance, hr]
    split <;> rfl
  have hknown := hrows.known c m life hlife
  -- All that neither write the flag nor unregister leave both records alone.
  have hquiet : life ≠ .unregistered → (p.advance c m life).registry m = p.registry m →
      (p.advance c m life).online m = p.online m →
      (p.registry m = some c → life = .registered ∨ life ∉ [.registered, .recorded]) →
        (p.advance c m life).OnlineAgrees m := by
    intro hne hregistry honline hself
    refine ⟨fun hr ho => hunsettled hne (h.offline (hregistry ▸ hr) (honline ▸ ho)),
      fun hr ho => ?_⟩
    rcases h.online (hregistry ▸ hr) (honline ▸ ho) with hcur | hsub
    · by_cases hc : p.registry m = some c
      · obtain ⟨c', l, hr', hl, hmem⟩ := hcur
        obtain rfl : c = c' := Option.some.inj (hc.symm.trans hr')
        obtain ⟨-, rfl⟩ := Prod.mk.inj (Option.some.inj (hlife.symm.trans hl))
        rcases hself hc with rfl | hnot
        · exact Or.inl ⟨c, .recorded, hregistry.trans hc, Function.update_self _ _ _, by simp⟩
        · exact absurd hmem hnot
      · exact Or.inl (hcurrent hc _ hcur)
    · exact Or.inr (hsubs _ hsub)
  cases life with
  | registered => exact hquiet (by simp) rfl rfl fun _ => Or.inl rfl
  | recorded =>
    have honline : (p.advance c m .recorded).online m = some true := by
      obtain ⟨b, hb⟩ := Option.ne_none_iff_exists'.mp hknown
      simp [Presence.advance, hb]
    -- the client is online now: if no channel is registered, someone has yet to set it offline
    refine ⟨fun hr _ => ?_, fun _ ho => absurd honline ho⟩
    exact hunsettled (by simp) ((hrecorded rfl).resolve_left (not_not_intro hr))
  | online => exact hquiet (by simp) rfl rfl fun _ => Or.inr (by simp)
  | opening => exact hquiet (by simp) rfl rfl fun _ => Or.inr (by simp)
  | running => exact hquiet (by simp) rfl rfl fun _ => Or.inr (by simp)
  | leaving => exact hquiet (by simp) rfl rfl fun _ => Or.inr (by simp)
  | uncounted =>
    refine hquiet (by simp) ?_ ?_ fun _ => Or.inr (by simp)
    · simp only [Presence.advance]
      split <;> rfl
    · simp only [Presence.advance]
      split <;> rfl
  | forgotten => exact hquiet (by simp) rfl rfl fun _ => Or.inr (by simp)
  | active =>
    by_cases hr : p.registry m = some c
    · -- The channel goes, and this connection is the one that has yet to set the client offline.
      have hnone : (p.advance c m .active).registry m = none := by
        simp [Presence.advance, hr]
      exact ⟨fun _ _ => Or.inl ⟨c, Function.update_self _ _ _⟩,
        fun hsome => absurd hnone hsome⟩
    · refine hquiet (by simp) ?_ ?_ fun h => absurd h hr
      · simp only [Presence.advance, if_neg hr]
        rfl
      · simp only [Presence.advance, if_neg hr]
        rfl
  | unregistered =>
    have hr : p.registry m ≠ some c := hp.not_registered hlife rfl
    have honline : (p.advance c m .unregistered).online m ≠ some true := by
      simp [Presence.advance]
    -- the client is offline now: if a channel is registered, a newer one has yet to set it online
    refine ⟨fun _ ho => absurd ho honline, fun hsome _ => ?_⟩
    rcases hunregistered rfl with hnone | hcur | hsub
    · exact absurd hnone hsome
    · exact Or.inl (hcurrent hr _ hcur)
    · exact Or.inr (hsubs _ hsub)
  | closed => exact h

/-- A connection leaves a write out, and its client's flag still agrees. -/
lemma OnlineAgrees.skip (h : p.OnlineAgrees m) (hp : p.Orderly) (hrows : p.Rowed)
    (hlife : p.lives c = some (m, life)) (hskips : life.Skips life')
    (honline : life = .recorded →
      p.registry m ≠ some c ∨ p.online m = some true ∨ .register m ∈ p.subscribes)
    (hoffline : life = .unregistered → p.registry m ≠ none ∨ p.online m ≠ some true ∨
      (p.setLife c m life').Unsettled m) : (p.setLife c m life').OnlineAgrees m := by
  have hcurrent : p.registry m ≠ some c → ∀ lives, p.CurrentAt m lives →
      (p.setLife c m life').CurrentAt m lives := by
    refine fun hr lives hcur => hcur.congr rfl fun c' hc' => Function.update_of_ne ?_ _ _
    rintro rfl
    exact hr hc'
  cases hskips with
  | recorded =>
    refine ⟨fun hr ho => ?_, fun hr ho => ?_⟩
    · refine (h.offline hr ho).mono (fun c' hc' => ?_) fun _ => Or.inl
      refine (Function.update_of_ne ?_ _ _).trans hc'
      rintro rfl
      cases (Prod.mk.inj (Option.some.inj (hlife.symm.trans hc'))).2
    · rcases honline rfl with hne | hon | hsub
      · exact (h.online hr ho).imp_left (hcurrent hne _)
      · exact absurd hon ho
      · exact Or.inr hsub
  | opening => exact h.advance hp hrows hlife (by simp) (by simp)
  | unregistered =>
    refine ⟨fun hr ho => ?_, fun hr ho => ?_⟩
    · rcases hoffline rfl with hsome | hoff | hun
      · exact absurd hr hsome
      · exact absurd ho hoff
      · exact hun
    · exact (h.online hr ho).imp_left (hcurrent (hp.not_registered hlife rfl) _)

/-- A heartbeat sets its client online, and the flag still agrees. -/
lemma OnlineAgrees.touched (h : p.OnlineAgrees m)
    (hping : p.registry m ≠ none ∨ p.online m ≠ some false ∨ p.Unsettled m) :
    (p.setOnline m true).OnlineAgrees m := by
  have hmono : p.Unsettled m → (p.setOnline m true).Unsettled m := id
  refine ⟨fun hr ho => ?_, fun hr ho => ?_⟩
  · rcases hping with hsome | hnot | hun
    · exact absurd hr hsome
    · -- The flag was set already, or there is no row to set it in.
      have hon : p.online m = some true := by
        cases hb : p.online m with
        | none => simp [hb] at ho
        | some b =>
          cases b with
          | false => exact absurd hb hnot
          | true => rfl
      exact hmono (h.offline hr hon)
    · exact hmono hun
  · refine h.online hr fun hon => ho ?_
    simp [hon]

/-- A subscribe is refused after it set its client online, and the flag still agrees. -/
lemma OnlineAgrees.refused {rest : Multiset Task} (h : p.OnlineAgrees m)
    (htask : p.subscribes = .checkPairing m ::ₘ rest)
    (hrefused : p.registry m ≠ none ∨ p.online m ≠ some true ∨
      (p.withSubscribes rest).Unsettled m) :
    (p.withSubscribes rest).OnlineAgrees m := by
  refine ⟨fun hr ho => ?_, fun hr ho => ?_⟩
  · rcases hrefused with hsome | hoff | hun
    · exact absurd hr hsome
    · exact absurd ho hoff
    · exact hun
  · refine (h.online hr ho).imp (fun hcur => hcur.congr rfl fun _ _ => rfl) fun hsub => ?_
    rw [htask] at hsub
    simpa using hsub

/-- A new connection is registered, and is the one that sets its client online. -/
lemma OnlineAgrees.opened : (p.opened m).OnlineAgrees m := by
  have hself : (p.opened m).registry m = some p.nextConn := Function.update_self _ _ _
  exact ⟨fun hr => absurd (hself.symm.trans hr) (by simp), fun _ _ =>
    Or.inl ⟨p.nextConn, .registered, hself, Function.update_self _ _ _, by simp⟩⟩

/-- A lawful step keeps the flags of all clients. -/
lemma OnlineAgrees.move (h : ∀ m, p.OnlineAgrees m) (hp : p.Orderly) (hrows : p.Rowed)
    (hmove : p.Move e p') (hlaw : p.InOrder e p') (m : String) : p'.OnlineAgrees m := by
  -- The client the step is of has a lemma for each step, and that of another client keeps its
  -- flag, its registry and its connections.
  cases hmove with
  | quiet => exact h m
  | subscribed machineId driver =>
    by_cases hm : m = machineId
    · subst hm
      exact ⟨fun _ _ => Or.inr (Or.inl (Multiset.mem_cons_self _ _)),
        fun _ ho => absurd (Function.update_self _ _ _) ho⟩
    · exact (h m).congr rfl (Function.update_of_ne hm _ _) (fun _ _ _ => rfl) (fun _ _ => rfl)
        (fun hsub => Or.inr (Or.inl (Multiset.mem_cons_of_mem hsub)))
        fun hsub => Multiset.mem_cons_of_mem hsub
  | touched machineId =>
    by_cases hm : m = machineId
    · subst hm
      exact (h m).touched (hlaw.ping m rfl)
    · exact (h m).congr rfl (Function.update_of_ne hm _ _) (fun _ _ _ => rfl) (fun _ _ => rfl)
        (fun hsub => Or.inr (Or.inl hsub)) id
  | refused place machineId subscribes htask =>
    by_cases hm : m = machineId
    · subst hm
      exact (h m).refused htask (hlaw.refused place m rfl htask)
    · refine (h m).congr rfl rfl (fun _ _ _ => rfl) (fun _ _ => rfl) (fun hsub => ?_) fun hsub => ?_
      · rw [htask] at hsub
        exact Or.inr (Or.inl (by simpa [hm] using hsub))
      · rw [htask] at hsub
        simpa using hsub
  | unwritten machineId =>
    exact (h m).congr rfl rfl (fun _ _ _ => rfl) (fun _ _ => rfl)
      (fun hsub => Or.inr (Or.inl (Multiset.mem_cons_of_mem hsub)))
      fun hsub => Multiset.mem_cons_of_mem hsub
  | skipped c machineId life life' hlife hskips =>
    by_cases hm : m = machineId
    · subst hm
      exact (h m).skip hp hrows hlife hskips (fun hreg => hlaw.onlineFails c m rfl (hreg ▸ hlife))
        fun hreg => hlaw.offlineFails c m rfl (hreg ▸ hlife)
    · exact (h m).congr rfl rfl
        (fun c' l hl => Function.update_of_ne (ne_of_lives hlife hl hm) _ _)
        (fun c' hc' => Function.update_of_ne (hp.ne_of_lives hlife hc' hm) _ _)
        (fun hsub => Or.inr (Or.inl hsub)) id
  | admitted e machineId subscribes htask =>
    have hsubs : .register m ∈ p.subscribes →
        .register m ∈ Task.register machineId ::ₘ subscribes := fun hsub => by
      rw [htask] at hsub
      exact Multiset.mem_cons_of_mem (by simpa using hsub)
    refine (h m).congr rfl rfl (fun _ _ _ => rfl) (fun _ _ => rfl) (fun hsub => ?_) hsubs
    by_cases hm : m = machineId
    · subst hm
      exact Or.inr (Or.inr (Multiset.mem_cons_self _ _))
    · rw [htask] at hsub
      exact Or.inr (Or.inl (Multiset.mem_cons_of_mem (by simpa [hm] using hsub)))
  | opened place machineId subscribes htask =>
    by_cases hm : m = machineId
    · subst hm
      exact OnlineAgrees.opened
    · refine (h m).congr (Function.update_of_ne hm _ _) rfl
        (fun c life hl => Function.update_of_ne (Nat.ne_of_lt (hp.fresh c m life hl)) _ _)
        (fun c hc => Function.update_of_ne (hp.ne_nextConn hc) _ _) (fun hsub => ?_) fun hsub => ?_
      · rw [htask] at hsub
        exact Or.inr (Or.inl (by simpa using hsub))
      · rw [htask] at hsub
        simpa [hm] using hsub
  | lived c machineId life hlife =>
    by_cases hm : m = machineId
    · subst hm
      exact (h m).advance hp hrows hlife (fun hreg => hlaw.online c m rfl (hreg ▸ hlife))
        fun hreg => hlaw.offline c m rfl (hreg ▸ hlife)
    · exact (h m).congr (advance_registry_of_ne hm) (advance_online_of_ne hm)
        (fun c' l hl => advance_lives_of_ne (ne_of_lives hlife hl hm))
        (fun c' hc' => advance_lives_of_ne (hp.ne_of_lives hlife hc' hm))
        (fun hsub => Or.inr (Or.inl (by rw [advance_subscribes]; exact hsub)))
        (by rw [advance_subscribes]; exact id)
  | restarted =>
    refine ⟨fun _ ho => ?_, fun hr => absurd rfl hr⟩
    simp [Presence.restarted] at ho

end Presence

/-! ### Runs -/

/-- A connection writes a record only while it is the newest one to write it. -/
def inOrder : Transition.Law ServerWorld ServerStep := fun w e w' =>
  w.presence.InOrder e w'.presence

/-- All subscribes and cleanups that were begun are over. -/
structure ServerWorld.Settled (w : ServerWorld) : Prop where
  subscribes : ∀ machineId, .checkPairing machineId ∉ w.tasks ∧ .register machineId ∉ w.tasks
  conns : ∀ c k, w.conns c = some k → k.phase.life = .running ∨ k.phase.life = .closed

/-- The records of the clients' connections agree. -/
structure ServerWorld.Agreed (w : ServerWorld) : Prop where
  peers : ∀ machineId, w.streamPeers machineId = w.registry machineId
  /-- The latest connection of a client is registered, unless it is closed. -/
  latest : ∀ c k, w.conns c = some k →
    (∀ c' k', w.conns c' = some k' → k'.machineId = k.machineId → c' ≤ c) →
      w.registry k.machineId = if k.phase.life = .closed then none else some c
  registered : ∀ machineId c, w.registry machineId = some c →
    ∃ k, w.conns c = some k ∧ k.machineId = machineId ∧ k.phase.life = .running
  online : ∀ machineId, (w.clients machineId).any ClientRow.isOnline =
    (w.registry machineId).isSome
  count : w.connectedClients = ((Finset.range w.nextConn).filter fun c =>
    (w.conns c).any fun k => k.phase.life == .running).card

lemma presence_of_step (h : w.step cfg e = some w') : w.presence.Move e w'.presence :=
  presence_of_move (stream_of_step h)

lemma orderly_of_reach {law : Transition.Law ServerWorld ServerStep}
    (h : (printServer cfg d).Reach law w) : w.presence.Orderly := by
  refine h.invariant (P := fun w => w.presence.Orderly) ?_ fun a e b _ ha hstep _ =>
    ha.move (presence_of_step hstep)
  exact ⟨fun _ _ _ hl => (nomatch hl), fun _ _ hr => (nomatch hr),
    fun _ _ _ _ hr => (nomatch hr), fun _ _ _ hl => (nomatch hl), rfl⟩

lemma rowed_of_reach (h : (printServer cfg d).Reach inOrder w) : w.presence.Rowed := by
  refine h.invariant (P := fun w => w.presence.Rowed) ?_ fun a e b _ ha hstep hlaw =>
    ha.move (presence_of_step hstep) hlaw
  refine ⟨fun _ _ _ hl => (nomatch hl), fun m hm => ?_⟩
  have hnone : (printServer cfg d).init.presence.subscribes = 0 := rfl
  simp [hnone] at hm

lemma agrees_of_reach (h : (printServer cfg d).Reach inOrder w) :
    (∀ m, w.presence.PeersAgree m) ∧ ∀ m, w.presence.OnlineAgrees m := by
  refine h.invariant (P := fun w => (∀ m, w.presence.PeersAgree m) ∧
    ∀ m, w.presence.OnlineAgrees m) ?_ fun a e b hreach ha hstep hlaw => ?_
  · refine ⟨fun _ => Or.inr rfl, fun m => ⟨fun _ ho => ?_, fun hr => absurd rfl hr⟩⟩
    change ((d.clients m).map fun row => { row with isOnline := false }).map ClientRow.isOnline =
      some true at ho
    cases hrow : d.clients m <;> simp [hrow] at ho
  · have hp := orderly_of_reach hreach
    have hmove := presence_of_step hstep
    exact ⟨Presence.PeersAgree.move ha.1 hp hmove hlaw,
      Presence.OnlineAgrees.move ha.2 hp (rowed_of_reach hreach) hmove hlaw⟩

lemma subscribes_of_settled (h : w.Settled) : w.presence.subscribes = 0 := by
  refine Multiset.eq_zero_of_forall_notMem fun task hmem => ?_
  change task ∈ Multiset.filter (fun task : Task => task.ofSubscribe = true)
    (streamTasks w.tasks) at hmem
  obtain ⟨htask, hsub⟩ := Multiset.mem_filter.mp hmem
  have hmem' : task ∈ w.tasks := (List.mem_filter.mp (Multiset.mem_coe.mp htask)).1
  cases task <;> simp [Task.ofSubscribe] at hsub
  · exact (h.subscribes _).1 hmem'
  · exact (h.subscribes _).2 hmem'

lemma life_of_settled (h : w.Settled) (hlife : w.presence.lives c = some (m, life)) :
    life = .running ∨ life = .closed := by
  obtain ⟨k, hk, heq⟩ := Option.map_eq_some_iff.mp hlife
  obtain ⟨-, rfl⟩ := Prod.mk.inj heq
  exact h.conns c k hk

/-- If no write of a connection comes after that of a newer one, then, once all that was begun
is over, the registered channel and the recorded peer of a client belong to its latest
connection, its flag tells whether it has one, and the count is that of the running loops. -/
theorem reconnects_agree (h : (printServer cfg d).Reach inOrder w) (hsettled : w.Settled) :
    w.Agreed := by
  have hp := orderly_of_reach h
  obtain ⟨hpeers, honline⟩ := agrees_of_reach h
  have hsubs := subscribes_of_settled hsettled
  have hregistered : ∀ m c, w.registry m = some c →
      ∃ life, w.presence.lives c = some (m, life) ∧ life = .running := by
    intro m c hr
    obtain ⟨life, hlife, hholds⟩ := hp.current m c hr
    rcases life_of_settled hsettled hlife with rfl | rfl
    · exact ⟨_, hlife, rfl⟩
    · cases hholds
  refine ⟨fun m => ?_, fun c k hk hlast => ?_, fun m c hr => ?_, fun m => ?_, ?_⟩
  · rcases hpeers m with hsub | hagree
    · simp [hsubs] at hsub
    · change match w.registry m with
        | none => _
        | some c => _ at hagree
      cases hr : w.registry m with
      | none =>
        rw [hr] at hagree
        exact hagree
      | some c =>
        rw [hr] at hagree
        obtain ⟨l, hl, hagree⟩ := hagree
        obtain ⟨life, hlife, rfl⟩ := hregistered m c hr
        obtain ⟨-, rfl⟩ := Prod.mk.inj (Option.some.inj (hlife.symm.trans hl))
        exact hagree.resolve_left (by simp)
  · have hlife := lives_of_conns (s := w.streams) hk
    have hlast' : ∀ c' life', w.presence.lives c' = some (k.machineId, life') → c' ≤ c := by
      intro c' life' hl'
      obtain ⟨k', hk', heq⟩ := Option.map_eq_some_iff.mp hl'
      exact hlast c' k' hk' (Prod.mk.inj heq).1
    rcases hsettled.conns c k hk with hrun | hclosed
    · rw [if_neg (by simp [hrun])]
      exact hp.latest c k.machineId _ hlife (by rw [hrun]; rfl) hlast'
    · rw [if_pos hclosed]
      by_contra hsome
      obtain ⟨c', hr⟩ := Option.ne_none_iff_exists'.mp hsome
      -- The registered connection is the latest one, and is not closed.
      obtain ⟨life, hlife', rfl⟩ := hregistered _ c' hr
      have hc : c' = c := Nat.le_antisymm (hlast' c' _ hlife') (hp.newest _ c' c _ hr hlife)
      subst hc
      have hsame := (Prod.mk.inj (Option.some.inj (hlife'.symm.trans hlife))).2
      rw [hclosed] at hsame
      cases hsame
  · obtain ⟨life, hlife, rfl⟩ := hregistered m c hr
    obtain ⟨k, hk, heq⟩ := Option.map_eq_some_iff.mp hlife
    obtain ⟨hm, hrun⟩ := Prod.mk.inj heq
    exact ⟨k, hk, hm, hrun⟩
  · have hflag : (w.clients m).any ClientRow.isOnline = true ↔ w.presence.online m = some true := by
      change _ ↔ (w.clients m).map ClientRow.isOnline = some true
      cases w.clients m <;> simp
    cases hr : w.registry m with
    | none =>
      rw [Option.isSome_none, Bool.eq_false_iff]
      intro hon
      rcases (honline m).offline hr (hflag.mp hon) with ⟨c, hc⟩ | hsub | hsub
      · rcases life_of_settled hsettled hc with hrun | hclosed
        · cases hrun
        · cases hclosed
      · simp [hsubs] at hsub
      · simp [hsubs] at hsub
    | some c =>
      rw [Option.isSome_some]
      by_contra hoff
      have hr' : w.presence.registry m ≠ none := by
        change w.registry m ≠ none
        simp [hr]
      rcases (honline m).online hr' (fun hon => hoff (hflag.mpr hon)) with hcur | hsub
      · obtain ⟨c', life, hc', hlife, hmem⟩ := hcur
        rcases life_of_settled hsettled hlife with rfl | rfl
        · simp at hmem
        · simp at hmem
      · simp [hsubs] at hsub
  · have hcount := hp.count
    refine hcount.trans (congrArg Finset.card (Finset.filter_congr fun c _ => ?_))
    change (((w.conns c).map Connection.life).any fun l => Life.counted l.2) = true ↔ _
    cases hk : w.conns c with
    | none => simp
    | some k =>
      rcases hsettled.conns c k hk with hrun | hclosed
      · simp [Connection.life, hrun, Life.counted]
      · simp [Connection.life, hclosed, Life.counted]

/-! ### Two runs -/

/-- A test that only the registered connection records its peer and sets its client online, that
a client is set offline only without a registered channel, that no subscribe is refused, no
heartbeat comes and no write fails. -/
def newestWrites (w : ServerWorld) (e : ServerStep) (w' : ServerWorld) : Bool :=
  match e with
  | .loop c => (w.conns c).all fun k =>
    match k.phase with
    | .registered => w.registry k.machineId == some c
    | .peerRecorded => (w.registry k.machineId).isSome
    | .unregistered => (w.registry k.machineId).isNone
    | _ => true
  | .task _ => w'.presence.subscribes.card + 1 != w.presence.subscribes.card ||
      w'.presence.nextConn != w.presence.nextConn
  | .ping _ | .subscribeUnwritten _ | .loopFails _ => false
  | _ => true

/-- A subscribe that is gone without a connection was refused. -/
lemma not_refused {place : ℕ} (hmove : p.Move (.task place) p')
    (hsubs : p.subscribes = .checkPairing m ::ₘ p'.subscribes) : p'.nextConn = p.nextConn := by
  cases hmove with
  | opened place machineId subscribes htask =>
    have hsame := htask.symm.trans hsubs
    rw [Presence.opened_subscribes, Presence.withSubscribes_subscribes] at hsame
    have htasks := (Multiset.cons_inj_left _).mp hsame
    cases htasks
  | _ => rfl

lemma inOrder_of_newestWrites (hstep : w.step cfg e = some w')
    (h : newestWrites w e w' = true) : inOrder w e w' := by
  have hconn : ∀ {c m life}, e = .loop c → w.presence.lives c = some (m, life) →
      ∃ k, w.conns c = some k ∧ k.machineId = m ∧ k.phase.life = life := by
    intro c m life _ hlife
    obtain ⟨k, hk, heq⟩ := Option.map_eq_some_iff.mp hlife
    obtain ⟨hm, hl⟩ := Prod.mk.inj heq
    exact ⟨k, hk, hm, hl⟩
  refine ⟨fun c m he hlife => ?_, fun c m he hlife => ?_, fun c m he hlife => ?_,
    fun m he => ?_, fun place m he hsubs => ?_, fun m he => ?_, fun c m he hlife => ?_,
    fun c m he hlife => ?_⟩
  · obtain ⟨k, hk, rfl, hl⟩ := hconn he hlife
    have hp : k.phase = .registered := by
      cases hp : k.phase <;> rw [hp] at hl <;> first | rfl | cases hl
    subst he
    refine Or.inl ?_
    change w.registry k.machineId = some c
    simpa [newestWrites, hk, hp] using h
  · obtain ⟨k, hk, rfl, hl⟩ := hconn he hlife
    have hp : k.phase = .peerRecorded := by
      cases hp : k.phase <;> rw [hp] at hl <;> first | rfl | cases hl
    subst he
    refine Or.inl fun hnone => ?_
    have hnone' : w.registry k.machineId = none := hnone
    simp [newestWrites, hk, hp, hnone'] at h
  · obtain ⟨k, hk, rfl, hl⟩ := hconn he hlife
    have hp : k.phase = .unregistered := by
      cases hp : k.phase <;> rw [hp] at hl <;> first | rfl | cases hl
    subst he
    refine Or.inl ?_
    change w.registry k.machineId = none
    simpa [newestWrites, hk, hp] using h
  · subst he
    cases h
  · subst he
    have hnext := not_refused (presence_of_step hstep) hsubs
    have hcard : w'.presence.subscribes.card + 1 = w.presence.subscribes.card := by
      rw [hsubs, Multiset.card_cons]
    simp [newestWrites, hcard, hnext] at h
  all_goals
    subst he
    cases h

/-- Whether everything that was begun is over. -/
def ServerWorld.isSettled (w : ServerWorld) : Bool :=
  w.tasks.all (fun task => !task.ofSubscribe) && (List.range w.nextConn).all fun c =>
    (w.conns c).all fun k => k.phase.life == .running || k.phase.life == .closed

lemma settled_of_isSettled {law : Transition.Law ServerWorld ServerStep}
    (hw : (printServer cfg d).Reach law w) (h : w.isSettled = true) : w.Settled := by
  rw [ServerWorld.isSettled, Bool.and_eq_true] at h
  refine ⟨fun machineId => ⟨fun hmem => ?_, fun hmem => ?_⟩, fun c k hk => ?_⟩
  · simpa [Task.ofSubscribe] using List.all_eq_true.mp h.1 _ hmem
  · simpa [Task.ofSubscribe] using List.all_eq_true.mp h.1 _ hmem
  · have hc := (orderly_of_reach hw).fresh c k.machineId k.phase.life (lives_of_conns hk)
    have hlife := List.all_eq_true.mp h.2 c (List.mem_range.mpr hc)
    simpa [hk] using hlife

/-- The client `store` is approved and connects; its client program is gone, and a job of the
default queue that cannot be sent ends the loop, up to the look at the registry. -/
def storeLeaves : List ServerStep :=
  [.subscribe "store" none, .task 0, .task 0] ++ List.replicate 5 (.loop 0) ++
    [.setPairing "store" .approved, .disconnect 0, .push (printRequest "hall"), .task 0] ++
    List.replicate 8 (.loop 0)

/-- The client connects again before its first connection is cleaned up. -/
theorem reconnects_agree_again : ∃ w : ServerWorld,
    (printServer ⟨3, 30⟩ .empty).Reach inOrder w ∧ w.Settled ∧
      w.registry "store" = some 1 ∧ w.Agreed := by
  obtain ⟨w, hw, hgoal⟩ := (printServer ⟨3, 30⟩ .empty).reach_of_sound_tests inOrder
    (storeLeaves ++ [.subscribe "store" none, .task 0, .task 0] ++ List.replicate 5 (.loop 1) ++
      [.loop 0])
    (fun w => w.isSettled && w.registry "store" == some 1)
    (fun _ _ _ _ hstep => inOrder_of_newestWrites hstep) (by decide +kernel) (by decide +kernel)
  rw [Bool.and_eq_true, beq_iff_eq] at hgoal
  have hsettled := settled_of_isSettled hw hgoal.1
  exact ⟨w, hw, hsettled, hgoal.2, reconnects_agree hw hsettled⟩

/-- The cleanup of a connection has unregistered its channel when its client connects again and
is set online; then the cleanup sets it offline. -/
theorem connected_client_offline : ¬ ∀ (cfg : JobsConfig) (d : StoredData) (w : ServerWorld),
    (printServer cfg d).Reach free w → w.Settled → w.Agreed := by
  intro h
  obtain ⟨w, hw, hgoal⟩ := (printServer ⟨3, 30⟩ .empty).reach_of_run
    (storeLeaves ++ [.loop 0, .loop 0, .subscribe "store" none, .task 0, .task 0] ++
      List.replicate 5 (.loop 1) ++ [.loop 0])
    (fun w => w.isSettled && w.registry "store" == some 1 &&
      !(w.clients "store").any ClientRow.isOnline) (by decide +kernel)
  simp only [Bool.and_eq_true, beq_iff_eq, Bool.not_eq_true'] at hgoal
  obtain ⟨⟨hsettled, hr⟩, hoff⟩ := hgoal
  have honline := (h _ _ w hw (settled_of_isSettled hw hsettled)).online "store"
  rw [hoff, hr] at honline
  cases honline

end Server

end DevBridge

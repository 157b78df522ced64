import Mathlib.Logic.Relation
import Mathlib.Tactic

/-!
# Transition systems with labelled partial steps

A system is an initial state and a step function which, for a state and an event, gives the
next state or refuses the event.  Its runs are lists of events; nothing is said about their
order, so a statement about every run is a statement about every interleaving of the parts
the events belong to.

A run may be asked to keep a *law*: a condition on each single step.  This is how an
assumption about the surroundings enters (a party that never repeats a message, a clock that
never goes back): it limits the steps, never the states.  `Reach` is reachability under a
law, and the two induction rules are the ones every result about runs is proved with: what
holds at the start and is kept by each lawful step holds in every reachable state, and a
relation between states that each step respects relates the two ends of a run.
-/

universe u v

/-- A transition system: states `σ`, events `ε`. -/
structure Transition (σ : Type u) (ε : Type v) where
  /-- Where every run starts. -/
  init : σ
  /-- One step: `none` when the event cannot happen in this state. -/
  step : σ → ε → Option σ

namespace Transition

variable {σ : Type u} {ε : Type v} (T : Transition σ ε)

/-- A condition on single steps. -/
abbrev Law (σ : Type u) (ε : Type v) := σ → ε → σ → Prop

/-- One step that keeps the law. -/
def Move (law : Law σ ε) (s s' : σ) : Prop :=
  ∃ e, T.step s e = some s' ∧ law s e s'

/-- A lawful run leads from one state to another. -/
abbrev Leads (law : Law σ ε) : σ → σ → Prop :=
  Relation.ReflTransGen (T.Move law)

/-- The states that lawful runs reach. -/
def Reach (law : Law σ ε) (s : σ) : Prop :=
  T.Leads law T.init s

/-- The law that every step keeps. -/
def free : Law σ ε := fun _ _ _ => True

variable {T} {law law' : Law σ ε} {s s' : σ}

lemma Reach.init : T.Reach law T.init := Relation.ReflTransGen.refl

lemma Reach.move (h : T.Reach law s) (hm : T.Move law s s') : T.Reach law s' :=
  Relation.ReflTransGen.tail h hm

lemma Reach.leads (h : T.Reach law s) (hl : T.Leads law s s') : T.Reach law s' :=
  Relation.ReflTransGen.trans h hl

lemma Move.mono (hlaw : ∀ a e b, law a e b → law' a e b) (h : T.Move law s s') :
    T.Move law' s s' := by
  obtain ⟨e, he, hl⟩ := h
  exact ⟨e, he, hlaw _ _ _ hl⟩

lemma Leads.mono (hlaw : ∀ a e b, law a e b → law' a e b) (h : T.Leads law s s') :
    T.Leads law' s s' :=
  Relation.ReflTransGen.mono (fun _ _ => Move.mono hlaw) _ _ h

lemma Reach.mono (hlaw : ∀ a e b, law a e b → law' a e b) (h : T.Reach law s) :
    T.Reach law' s :=
  Leads.mono hlaw h

/-- What holds at the start and is kept by each lawful step from a reachable state holds in
every reachable state. -/
lemma Reach.invariant {P : σ → Prop} (h : T.Reach law s) (hinit : P T.init)
    (hstep : ∀ a e b, T.Reach law a → P a → T.step a e = some b → law a e b → P b) : P s := by
  induction h with
  | refl => exact hinit
  | tail hreach hm ih =>
    obtain ⟨e, he, hl⟩ := hm
    exact hstep _ e _ hreach ih he hl

/-- What each lawful step from a reachable state keeps is kept by every run. -/
lemma Leads.keeps {P : σ → Prop} (h : T.Leads law s s') (hs : T.Reach law s) (hP : P s)
    (hstep : ∀ a e b, T.Reach law a → P a → T.step a e = some b → law a e b → P b) : P s' := by
  induction h with
  | refl => exact hP
  | tail hl hm ih =>
    obtain ⟨e, he, hlaw⟩ := hm
    exact hstep _ e _ (hs.leads hl) ih he hlaw

/-- A reflexive and transitive relation that each step respects relates the ends of a
run. -/
lemma Leads.relates {R : σ → σ → Prop} (h : T.Leads law s s') (hs : T.Reach law s)
    (hrefl : ∀ a, R a a) (htrans : ∀ a b c, R a b → R b c → R a c)
    (hstep : ∀ a e b, T.Reach law a → T.step a e = some b → law a e b → R a b) : R s s' :=
  h.keeps hs (P := R s) (hrefl s) fun a e b ha hsa he hl =>
    htrans _ _ _ hsa (hstep a e b ha he hl)

/-! ### Runs as lists of events -/

variable (T) in
/-- The state after a list of events, if each of them can happen in its turn. -/
def run : σ → List ε → Option σ
  | s, [] => some s
  | s, e :: es => (T.step s e).bind fun s' => run s' es

@[simp] lemma run_nil (s : σ) : T.run s [] = some s := rfl

lemma run_cons (s : σ) (e : ε) (es : List ε) :
    T.run s (e :: es) = (T.step s e).bind fun s' => T.run s' es := rfl

variable (T) in
/-- Whether every step of a list of events keeps a law given as a test. -/
def lawful (test : σ → ε → σ → Bool) : σ → List ε → Bool
  | _, [] => true
  | s, e :: es =>
    match T.step s e with
    | none => true
    | some s' => test s e s' && lawful test s' es

/-- A list of events whose steps pass the test of a law is a lawful run. -/
lemma leads_of_run {test : σ → ε → σ → Bool} (htest : ∀ a e b, test a e b = true → law a e b)
    {es : List ε} (hrun : T.run s es = some s') (hok : T.lawful test s es = true) :
    T.Leads law s s' := by
  induction es generalizing s with
  | nil =>
    simp only [run_nil, Option.some.injEq] at hrun
    subst hrun
    exact Relation.ReflTransGen.refl
  | cons e es ih =>
    rw [run_cons] at hrun
    cases hstep : T.step s e with
    | none => simp [hstep] at hrun
    | some s₁ =>
      simp only [hstep, Option.bind_some] at hrun
      simp only [lawful, hstep, Bool.and_eq_true] at hok
      exact Relation.ReflTransGen.head ⟨e, hstep, htest _ _ _ hok.1⟩ (ih hrun hok.2)

/-- Every list of events that can happen is a run of the free law. -/
lemma leads_free_of_run {es : List ε} (hrun : T.run s es = some s') : T.Leads free s s' := by
  induction es generalizing s with
  | nil =>
    simp only [run_nil, Option.some.injEq] at hrun
    subst hrun
    exact Relation.ReflTransGen.refl
  | cons e es ih =>
    rw [run_cons] at hrun
    cases hstep : T.step s e with
    | none => simp [hstep] at hrun
    | some s₁ =>
      simp only [hstep, Option.bind_some] at hrun
      exact Relation.ReflTransGen.head ⟨e, hstep, trivial⟩ (ih hrun)

variable (T) in
/-- A list of events that passes the test of a law, and whose last state passes a test, is a
run to such a state. -/
lemma leads_of_tests (law : Law σ ε) (es : List ε) (goal : σ → Bool) {test : σ → ε → σ → Bool}
    (htest : ∀ a e b, test a e b = true → law a e b) (hok : T.lawful test s es = true)
    (hgoal : (T.run s es).any goal = true) : ∃ s', T.Leads law s s' ∧ goal s' = true := by
  rw [Option.any_eq_true] at hgoal
  obtain ⟨s', hrun, hs'⟩ := hgoal
  exact ⟨s', leads_of_run htest hrun hok, hs'⟩

variable (T) in
/-- The same from the initial state. -/
lemma reach_of_tests (law : Law σ ε) (es : List ε) (goal : σ → Bool) {test : σ → ε → σ → Bool}
    (htest : ∀ a e b, test a e b = true → law a e b) (hok : T.lawful test T.init es = true)
    (hgoal : (T.run T.init es).any goal = true) : ∃ s, T.Reach law s ∧ goal s = true :=
  leads_of_tests T law es goal htest hok hgoal

variable (T) in
/-- A run that keeps no law. -/
lemma reach_of_run (es : List ε) (goal : σ → Bool) (hgoal : (T.run T.init es).any goal = true) :
    ∃ s, T.Reach free s ∧ goal s = true := by
  have hok : ∀ s es, T.lawful (fun _ _ _ => true) s es = true := by
    intro s es
    induction es generalizing s with
    | nil => rfl
    | cons e es ih =>
      rw [lawful]
      split
      · rfl
      · exact ih _
  exact reach_of_tests T free es goal (fun _ _ _ _ => trivial) (hok _ _) hgoal

/-- The test of a law may rest on what holds in the states that a run reaches, of a law that the
run keeps too. -/
lemma leads_of_sound_run {law' : Law σ ε} {test : σ → ε → σ → Bool} {es : List ε}
    (hlaw : ∀ a e b, law a e b → law' a e b)
    (htest : ∀ a e b, T.Reach law' a → T.step a e = some b → test a e b = true → law a e b)
    (hs : T.Reach law' s) (hok : T.lawful test s es = true) (hrun : T.run s es = some s') :
    T.Leads law s s' := by
  induction es generalizing s with
  | nil =>
    obtain rfl := Option.some.inj hrun
    exact Relation.ReflTransGen.refl
  | cons e es ih =>
    rw [run_cons] at hrun
    cases hstep : T.step s e with
    | none => simp [hstep] at hrun
    | some s₁ =>
      simp only [hstep, Option.bind_some] at hrun
      simp only [lawful, hstep, Bool.and_eq_true] at hok
      have hl : law s e s₁ := htest s e s₁ hs hstep hok.1
      have hs₁ : T.Reach law' s₁ := hs.move ⟨e, hstep, hlaw _ _ _ hl⟩
      exact Relation.ReflTransGen.head ⟨e, hstep, hl⟩ (ih hs₁ hok.2 hrun)

variable (T) in
/-- The same from the initial state, where the law itself is kept. -/
lemma reach_of_sound_tests (law : Law σ ε) (es : List ε) (goal : σ → Bool)
    {test : σ → ε → σ → Bool}
    (htest : ∀ a e b, T.Reach law a → T.step a e = some b → test a e b = true → law a e b)
    (hok : T.lawful test T.init es = true) (hgoal : (T.run T.init es).any goal = true) :
    ∃ s, T.Reach law s ∧ goal s = true := by
  rw [Option.any_eq_true] at hgoal
  obtain ⟨s', hrun, hs'⟩ := hgoal
  exact ⟨s', leads_of_sound_run (fun _ _ _ hl => hl) htest Reach.init hok hrun, hs'⟩

variable (T) in
/-- Two states of one run, of which the part between them passes the test of a law. -/
lemma leads_of_lawful_runs (law : Law σ ε) (es es' : List ε) (goal : σ → σ → Bool)
    {test : σ → ε → σ → Bool}
    (htest : ∀ a e b, T.Reach free a → T.step a e = some b → test a e b = true → law a e b)
    (h : ((T.run T.init es).any fun s => T.lawful test s es' && (T.run s es').any (goal s)) =
      true) : ∃ s s', T.Reach free s ∧ T.Leads law s s' ∧ goal s s' = true := by
  rw [Option.any_eq_true] at h
  obtain ⟨s, hrun, h⟩ := h
  rw [Bool.and_eq_true, Option.any_eq_true] at h
  obtain ⟨hok, s', hrun', hgoal⟩ := h
  have hs : T.Reach free s := leads_free_of_run hrun
  exact ⟨s, s', hs, leads_of_sound_run (fun _ _ _ _ => trivial) htest hs hok hrun', hgoal⟩

variable (T) in
/-- Two states of one run that keeps no law. -/
lemma leads_of_runs (es es' : List ε) (goal : σ → σ → Bool)
    (h : ((T.run T.init es).any fun s => (T.run s es').any (goal s)) = true) :
    ∃ s s', T.Reach free s ∧ T.Leads free s s' ∧ goal s s' = true := by
  rw [Option.any_eq_true] at h
  obtain ⟨s, hrun, h⟩ := h
  rw [Option.any_eq_true] at h
  obtain ⟨s', hrun', hgoal⟩ := h
  exact ⟨s, s', leads_free_of_run hrun, leads_free_of_run hrun', hgoal⟩

end Transition

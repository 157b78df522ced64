import Mathlib.Tactic

/-!
# Programs that are answered from a script

A program runs against a state and a *script*, the list of what its surroundings choose for
its operations: which statement of a store fails, what a peer answers.  Every operation takes
one choice and is carried out as a whole.  Where the script ends the process dies, so the
scripts of all lengths are the runs with all points of death.

`Scripted.Ensures` is what a program guarantees under every script, with one assertion for
its answer and one for how it stops without an answer.  Its rules follow the text of a
program: one for an operation, one for a sequence, one for each way to end.
-/

/-- Why a program has no answer. -/
inductive Stop (ε : Type) where
  /-- An error that the program did not handle. -/
  | error (e : ε)
  /-- The process died. -/
  | died
deriving DecidableEq

/-- A program with choices `κ`, states `σ`, errors `ε` and an answer in `α`. -/
abbrev Scripted (κ σ ε α : Type) := ExceptT (Stop ε) (StateM (List κ × σ)) α

namespace Scripted

variable {κ σ ε α β : Type}

/-- How a run ends, and the state after it. -/
def exec (p : Scripted κ σ ε α) (script : List κ) (s : σ) : Except (Stop ε) α × σ :=
  let r := p.run (script, s)
  (r.1, r.2.2)

/-- One operation. -/
def ask (f : κ → σ → Except ε α × σ) : Scripted κ σ ε α :=
  ExceptT.mk fun (script, s) =>
    match script with
    | [] => (.error .died, [], s)
    | c :: script =>
      match f c s with
      | (.ok a, s') => (.ok a, script, s')
      | (.error e, s') => (.error (.error e), script, s')

/-- Stop with an error. -/
def fail (e : ε) : Scripted κ σ ε α := throw (.error e)

/-- The error of a program as its answer; a death stays one. -/
def attempt (p : Scripted κ σ ε α) : Scripted κ σ ε (Except ε α) :=
  ExceptT.mk do
    match ← p.run with
    | .ok a => pure (.ok (.ok a))
    | .error (.error e) => pure (.ok (.error e))
    | .error .died => pure (.error .died)

/-- Under every script, an answer satisfies `Q` and a stop satisfies `E`, together with the
state after it. -/
def Ensures (p : Scripted κ σ ε α) (Q : α → σ → Prop) (E : Stop ε → σ → Prop) (s : σ) : Prop :=
  ∀ script, match p.run (script, s) with
    | (.ok a, _, s') => Q a s'
    | (.error e, _, s') => E e s'

variable {Q : α → σ → Prop} {E : Stop ε → σ → Prop} {s : σ}

/-- What is ensured holds of the end of each run. -/
lemma Ensures.exec {p : Scripted κ σ ε α} (h : p.Ensures Q E s) (script : List κ) :
    match p.exec script s with
    | (.ok a, s') => Q a s'
    | (.error e, s') => E e s' := by
  have hrun := h script
  simp only [Scripted.exec]
  rcases hr : p.run (script, s) with ⟨r | r, rest, s'⟩
  · rw [hr] at hrun
    exact hrun
  · rw [hr] at hrun
    exact hrun

/-- An assertion that makes no difference between the ways to end holds of the state after
each run. -/
lemma Ensures.state {p : Scripted κ σ ε α} {R : σ → Prop}
    (h : p.Ensures (fun _ => R) (fun _ => R) s) (script : List κ) : R (p.exec script s).2 := by
  have hend := h.exec script
  rcases hr : p.exec script s with ⟨r | r, s'⟩
  · rw [hr] at hend
    exact hend
  · rw [hr] at hend
    exact hend

lemma ensures_pure {a : α} (h : Q a s) : (pure a : Scripted κ σ ε α).Ensures Q E s :=
  fun _ => h

lemma ensures_fail {e : ε} (h : E (.error e) s) :
    (fail e : Scripted κ σ ε α).Ensures Q E s :=
  fun _ => h

/-- The rule of one operation. -/
lemma ensures_ask {f : κ → σ → Except ε α × σ} (hdied : E .died s)
    (h : ∀ c, match f c s with
      | (.ok a, s') => Q a s'
      | (.error e, s') => E (.error e) s') :
    (ask f).Ensures Q E s := by
  rintro (_ | ⟨c, script⟩)
  · exact hdied
  · have hc := h c
    rcases hf : f c s with ⟨r | r, s'⟩
    · rw [hf] at hc
      simpa [ask, ExceptT.run, ExceptT.mk, hf] using hc
    · rw [hf] at hc
      simpa [ask, ExceptT.run, ExceptT.mk, hf] using hc

/-- The rule of a sequence. -/
lemma ensures_bind {p : Scripted κ σ ε α} {f : α → Scripted κ σ ε β} {R : β → σ → Prop}
    (h : p.Ensures (fun a s' => (f a).Ensures R E s') E s) : (p >>= f).Ensures R E s := by
  intro script
  have hp := h script
  simp only [bind, ExceptT.bind, ExceptT.run, ExceptT.mk, StateT.bind]
  simp only [ExceptT.run] at hp
  rcases hr : p (script, s) with ⟨r | r, rest, s'⟩
  · rw [hr] at hp
    exact hp
  · rw [hr] at hp
    exact hp rest

/-- The rule of consequence. -/
lemma Ensures.mono {p : Scripted κ σ ε α} {R : α → σ → Prop} {F : Stop ε → σ → Prop}
    (h : p.Ensures Q E s) (hQ : ∀ a s', Q a s' → R a s') (hE : ∀ e s', E e s' → F e s') :
    p.Ensures R F s := by
  intro script
  have hrun := h script
  rcases hr : p.run (script, s) with ⟨r | r, rest, s'⟩
  · rw [hr] at hrun
    exact hE _ _ hrun
  · rw [hr] at hrun
    exact hQ _ _ hrun

/-- Two guarantees of one program. -/
lemma Ensures.and {p : Scripted κ σ ε α} {R : α → σ → Prop} {F : Stop ε → σ → Prop}
    (h : p.Ensures Q E s) (h' : p.Ensures R F s) :
    p.Ensures (fun a s' => Q a s' ∧ R a s') (fun e s' => E e s' ∧ F e s') s := by
  intro script
  have hrun := h script
  have hrun' := h' script
  rcases hr : p.run (script, s) with ⟨r | r, rest, s'⟩
  · rw [hr] at hrun hrun'
    exact ⟨hrun, hrun'⟩
  · rw [hr] at hrun hrun'
    exact ⟨hrun, hrun'⟩

/-- The rule of a program whose error is handled. -/
lemma ensures_attempt {p : Scripted κ σ ε α} {R : Except ε α → σ → Prop}
    (h : p.Ensures (fun a s' => R (.ok a) s')
      (fun e s' => match e with
        | .error e => R (.error e) s'
        | .died => E .died s') s) : (attempt p).Ensures R E s := by
  intro script
  have hp := h script
  simp only [attempt, bind, ExceptT.run, ExceptT.mk, StateT.bind]
  simp only [ExceptT.run] at hp
  rcases hr : p (script, s) with ⟨(e | _) | r, rest, s'⟩
  · rw [hr] at hp
    exact hp
  · rw [hr] at hp
    exact hp
  · rw [hr] at hp
    exact hp

end Scripted

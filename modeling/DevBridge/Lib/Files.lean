import Mathlib.Logic.Function.Basic
import Mathlib.Tactic

/-!
# Programs over files that may fail and may be cut short

A program is a tree of file operations: after each of them it goes on with what the operation
answered.  It is run against a script of *faults*, which says for each operation in its turn
whether it is carried out, fails, or is the one in which the process dies.  A rename and a
removal are atomic; a write that is not carried out may have written a part of its content.

`Prog.Ensures` is what a program guarantees under every script: one assertion for its answer
and one for the files that a crash leaves behind.  It has one rule for an operation and one
for a sequence of programs, so a proof follows the text of the program.
-/

universe u

/-- What happens to one file operation.  One that is not carried out may have written the
first `done` items of its content. -/
inductive Fault where
  | ok
  | fails (done : Option ℕ)
  /-- The process dies. -/
  | crash (done : Option ℕ)
deriving DecidableEq

/-- The faults of the operations of a program, in their turn. -/
abbrev Faults := ℕ → Fault

namespace Faults

/-- No operation fails. -/
def none : Faults := fun _ => .ok

/-- The faults of the operations after the first. -/
def next (faults : Faults) : Faults := fun n => faults (n + 1)

end Faults

inductive IoError where
  /-- There is no such file. -/
  | notFound
  | failed
deriving DecidableEq

/-- The contents of the files that exist. -/
abbrev Disk (F : Type u) (β : Type) := F → Option (List β)

/-- An operation on files. -/
inductive FileOp (F : Type u) (β : Type) where
  | read (f : F)
  /-- The file is created or truncated, then written. -/
  | write (f : F) (content : List β)
  | rename (source target : F)
  | remove (f : F)
  /-- A directory is made or access rights are set: no content changes. -/
  | arrange

namespace FileOp

variable {F : Type u} {β : Type} [DecidableEq F]

/-- The answer of an operation that is carried out, and the files after it. -/
def run (d : Disk F β) : FileOp F β → Except IoError (List β) × Disk F β
  | read f =>
    match d f with
    | some content => (.ok content, d)
    | none => (.error .notFound, d)
  | write f content => (.ok [], Function.update d f (some content))
  | rename source target =>
    match d source with
    | some content =>
      (.ok [], Function.update (Function.update d source none) target (some content))
    | none => (.error .notFound, d)
  | remove f =>
    match d f with
    | some _ => (.ok [], Function.update d f none)
    | none => (.error .notFound, d)
  | arrange => (.ok [], d)

/-- The files after an operation that is not carried out. -/
def cut (d : Disk F β) (done : Option ℕ) : FileOp F β → Disk F β
  | write f content =>
    match done with
    | some n => Function.update d f (some (content.take n))
    | none => d
  | _ => d

end FileOp

/-- A program over files with an answer in `α`. -/
inductive Prog (F : Type u) (β : Type) (α : Type) : Type u where
  | ret (a : α)
  | op (o : FileOp F β) (next : Except IoError (List β) → Prog F β α)

namespace Prog

variable {F : Type u} {β : Type} {α γ : Type}

/-- One program after the other. -/
def bind : Prog F β α → (α → Prog F β γ) → Prog F β γ
  | ret a, f => f a
  | op o next, f => op o fun r => (next r).bind f

instance : Monad (Prog F β) where
  pure := ret
  bind := bind

variable [DecidableEq F]

/-- The answer of a program, unless the process died in it, and the files after it. -/
def exec : Prog F β α → Faults → Disk F β → Option α × Disk F β
  | ret a, _, d => (some a, d)
  | op o next, faults, d =>
    match faults 0 with
    | .ok => (next (o.run d).1).exec faults.next (o.run d).2
    | .fails done => (next (.error .failed)).exec faults.next (o.cut d done)
    | .crash done => (none, o.cut d done)

lemma exec_op_ok {o : FileOp F β} {next : Except IoError (List β) → Prog F β α}
    {faults : Faults} (d : Disk F β) (h : faults 0 = .ok) :
    (op o next).exec faults d = (next (o.run d).1).exec faults.next (o.run d).2 := by
  simp only [exec, h]

lemma exec_op_fails {o : FileOp F β} {next : Except IoError (List β) → Prog F β α}
    {faults : Faults} {done : Option ℕ} (d : Disk F β) (h : faults 0 = .fails done) :
    (op o next).exec faults d = (next (.error .failed)).exec faults.next (o.cut d done) := by
  simp only [exec, h]

lemma exec_op_crash {o : FileOp F β} {next : Except IoError (List β) → Prog F β α}
    {faults : Faults} {done : Option ℕ} (d : Disk F β) (h : faults 0 = .crash done) :
    (op o next).exec faults d = (none, o.cut d done) := by
  simp only [exec, h]

/-- Whatever fails, an answer of the program satisfies `Q` together with the files after it,
and the files after a crash satisfy `C`. -/
def Ensures (p : Prog F β α) (Q : α → Disk F β → Prop) (C : Disk F β → Prop)
    (d : Disk F β) : Prop :=
  ∀ faults, (∀ a, (p.exec faults d).1 = some a → Q a (p.exec faults d).2) ∧
    ((p.exec faults d).1 = none → C (p.exec faults d).2)

variable {Q : α → Disk F β → Prop} {C : Disk F β → Prop} {d : Disk F β}

lemma ensures_ret {a : α} (h : Q a d) : (ret a : Prog F β α).Ensures Q C d := by
  intro faults
  refine ⟨fun b hb => ?_, fun hb => by simp [exec] at hb⟩
  obtain rfl : a = b := by simpa [exec] using hb
  exact h

/-- The rule of one operation: it is carried out, or it fails, or the process dies in it. -/
lemma ensures_op {o : FileOp F β} {next : Except IoError (List β) → Prog F β α}
    (hok : (next (o.run d).1).Ensures Q C (o.run d).2)
    (hfails : ∀ done, (next (.error .failed)).Ensures Q C (o.cut d done))
    (hcrash : ∀ done, C (o.cut d done)) : (op o next).Ensures Q C d := by
  intro faults
  rcases hf : faults 0 with _ | done | done
  · rw [exec_op_ok d hf]
    exact hok faults.next
  · rw [exec_op_fails d hf]
    exact hfails done faults.next
  · rw [exec_op_crash d hf]
    exact ⟨fun a ha => by simp at ha, fun _ => hcrash done⟩

/-- The rule of consequence. -/
lemma Ensures.mono {p : Prog F β α} {Q' : α → Disk F β → Prop} {C' : Disk F β → Prop}
    (h : p.Ensures Q C d) (hQ : ∀ a d', Q a d' → Q' a d') (hC : ∀ d', C d' → C' d') :
    p.Ensures Q' C' d := fun faults =>
  ⟨fun a ha => hQ a _ ((h faults).1 a ha), fun hn => hC _ ((h faults).2 hn)⟩

/-- The rule of a sequence. -/
lemma ensures_bind {p : Prog F β γ} {f : γ → Prog F β α} {d : Disk F β}
    (h : p.Ensures (fun a d' => (f a).Ensures Q C d') C d) : (p.bind f).Ensures Q C d := by
  induction p generalizing d with
  | ret a =>
    have ha := (h fun _ => .ok).1 a rfl
    exact ha
  | op o next ih =>
    refine ensures_op ?_ (fun done => ?_) fun done => ?_
    · refine ih _ fun faults => ?_
      have hstep := h fun n => Nat.casesOn n .ok faults
      rw [exec_op_ok d rfl] at hstep
      exact hstep
    · refine ih _ fun faults => ?_
      have hstep := h fun n => Nat.casesOn n (.fails done) faults
      rw [exec_op_fails d rfl] at hstep
      exact hstep
    · have hstep := h fun _ => .crash done
      rw [exec_op_crash d rfl] at hstep
      exact hstep.2 rfl

/-- The rule of a sequence, for the `do` notation. -/
lemma ensures_do {p : Prog F β γ} {f : γ → Prog F β α} {d : Disk F β}
    (h : p.Ensures (fun a d' => (f a).Ensures Q C d') C d) : (p >>= f).Ensures Q C d :=
  ensures_bind h

/-! ### Programs that end early -/

end Prog

/-- A program over files whose first error ends it. -/
abbrev FileIo (F : Type u) (β : Type) := ExceptT IoError (Prog F β)

namespace FileIo

variable {F : Type u} {β : Type} {α γ : Type}

/-- One operation. -/
def lift (o : FileOp F β) : FileIo F β (List β) := ExceptT.mk (.op o .ret)

/-- The error of a program as its answer. -/
def attempt (p : FileIo F β α) : FileIo F β (Except IoError α) :=
  ExceptT.mk (p.run >>= fun r => pure (.ok r))

variable [DecidableEq F] {Q : Except IoError α → Disk F β → Prop} {C : Disk F β → Prop}
  {d : Disk F β}

lemma ensures_pure {a : α} (h : Q (.ok a) d) : (pure a : FileIo F β α).run.Ensures Q C d :=
  Prog.ensures_ret h

lemma ensures_throw {e : IoError} (h : Q (.error e) d) :
    (throw e : FileIo F β α).run.Ensures Q C d :=
  Prog.ensures_ret h

/-- The rule of a sequence: the first part ends the program with its error, or it goes on. -/
lemma ensures_bind {p : FileIo F β γ} {f : γ → FileIo F β α}
    (h : p.run.Ensures (fun r d' => match r with
      | .ok a => (f a).run.Ensures Q C d'
      | .error e => Q (.error e) d') C d) : (p >>= f).run.Ensures Q C d := by
  refine Prog.ensures_bind (h.mono (fun r d' hr => ?_) fun _ hc => hc)
  cases r with
  | ok a => exact hr
  | error e => exact Prog.ensures_ret hr

lemma ensures_attempt {p : FileIo F β γ} {f : Except IoError γ → FileIo F β α}
    (h : p.run.Ensures (fun r d' => (f r).run.Ensures Q C d') C d) :
    (attempt p >>= f).run.Ensures Q C d := by
  refine ensures_bind (Prog.ensures_do (h.mono (fun r d' hr => ?_) fun _ hc => hc))
  exact Prog.ensures_ret hr

/-- The rule of one operation. -/
lemma ensures_lift {o : FileOp F β} {Q : Except IoError (List β) → Disk F β → Prop}
    (hok : Q (o.run d).1 (o.run d).2) (hfails : ∀ done, Q (.error .failed) (o.cut d done))
    (hcrash : ∀ done, C (o.cut d done)) : (lift o).run.Ensures Q C d :=
  Prog.ensures_op (Prog.ensures_ret hok) (fun done => Prog.ensures_ret (hfails done)) hcrash

end FileIo

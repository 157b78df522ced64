import DevBridge.Lib.Transition
import DevBridge.Print.Task
import Mathlib.Data.Finset.Insert

/-!
# The in-flight guard

`InFlightJobs` is a set of job ids, and a guard removes its id when it is dropped.  The guard of
a dispatch goes from `try_begin` to the closure that is spawned and stays with it to its end,
also when the dispatch gives the closure up at the outer timeout, when it panics, or when it is
dropped before it ran.  So the set holds the ids of the closures that have not ended, each once.
-/

namespace DevBridge

namespace Print

open Server (JobId)

open Transition (free)

/-! ### Guards and closures -/

/-- Where the print closure of an accepted dispatch is, and the guard with it. -/
inductive ClosureStage where
  /-- `try_begin` gave the guard; the closure is spawned next. -/
  | accepted
  /-- The blocking pool has the closure. -/
  | spawned
  | running
  /-- The closure returned, panicked or was dropped, and its guard is dropped next. -/
  | unwinding
  | ended
deriving DecidableEq, Repr

/-- What `run_print_task_with_timeout` waits for, or answered. -/
inductive Dispatch where
  | waiting
  | completed
  | timedOut
deriving DecidableEq, Repr

/-- An accepted dispatch and its closure. -/
structure PrintClosure where
  jobId : JobId
  stage : ClosureStage
  dispatch : Dispatch
  /-- The cancellation token. -/
  cancelled : Bool
deriving DecidableEq, Repr

/-- The closure holds a guard. -/
def PrintClosure.live (k : PrintClosure) : Prop := k.stage ≠ .ended

structure InFlight where
  /-- `InFlightJobs`. -/
  jobs : Finset JobId
  /-- In the order of their acceptance. -/
  closures : List PrintClosure

inductive InFlightStep where
  | dispatch (id : JobId)
  | spawn (n : ℕ)
  | run (n : ℕ)
  /-- `make_print` returns or panics. -/
  | leave (n : ℕ)
  /-- The closure is dropped before it ran. -/
  | discard (n : ℕ)
  /-- `InFlightGuard::drop`. -/
  | drop (n : ℕ)
  /-- The dispatch has the result of its closure. -/
  | complete (n : ℕ)
  /-- The outer timeout fires and cancels the closure. -/
  | timeout (n : ℕ)

namespace InFlight

variable (w : InFlight)

/-- `try_begin`: a guard, unless the job is in flight. -/
def tryBegin (id : JobId) : Option InFlight :=
  if id ∈ w.jobs then none else some { w with jobs := insert id w.jobs }

def setClosure (n : ℕ) (k : PrintClosure) : InFlight := { w with closures := w.closures.set n k }

/-- The closure goes from one stage to the next. -/
def advance (n : ℕ) (k : PrintClosure) (stage stage' : ClosureStage) : Option InFlight :=
  if k.stage = stage then some (w.setClosure n { k with stage := stage' }) else none

/-- The dispatch, up to the spawned closure; a refused one changes nothing. -/
def dispatch (id : JobId) : InFlight :=
  match w.tryBegin id with
  | some w' =>
    { w' with
      closures := w'.closures ++
        [{ jobId := id, stage := .accepted, dispatch := .waiting, cancelled := false }] }
  | none => w

/-- The guard is dropped. -/
def release (n : ℕ) (k : PrintClosure) : Option InFlight :=
  if k.stage = .unwinding then
    some { w.setClosure n { k with stage := .ended } with jobs := w.jobs.erase k.jobId }
  else none

/-- The wait for the closure ends: with its result, or by the timeout. -/
def waited (n : ℕ) (k : PrintClosure) (completes : Bool) : Option InFlight :=
  match k.dispatch, completes with
  | .waiting, true =>
    if k.stage = .ended then some (w.setClosure n { k with dispatch := .completed }) else none
  | .waiting, false => some (w.setClosure n { k with dispatch := .timedOut, cancelled := true })
  | _, _ => none

def step : InFlightStep → Option InFlight
  | .dispatch id => some (w.dispatch id)
  | .spawn n => (w.closures[n]?).bind fun k => w.advance n k .accepted .spawned
  | .run n => (w.closures[n]?).bind fun k => w.advance n k .spawned .running
  | .leave n => (w.closures[n]?).bind fun k => w.advance n k .running .unwinding
  | .discard n => (w.closures[n]?).bind fun k => w.advance n k .spawned .unwinding
  | .drop n => (w.closures[n]?).bind fun k => w.release n k
  | .complete n => (w.closures[n]?).bind fun k => w.waited n k true
  | .timeout n => (w.closures[n]?).bind fun k => w.waited n k false

end InFlight

/-- A client that starts with no job in flight. -/
def inFlightJobs : Transition InFlight InFlightStep where
  init := { jobs := ∅, closures := [] }
  step w e := w.step e

/-! ### The invariant -/

variable {w w' : InFlight} {e : InFlightStep} {n : ℕ} {k k' : PrintClosure} {id : JobId}

/-- The set has the ids of the closures that have not ended, each of one closure. -/
structure InFlight.Guarded (w : InFlight) : Prop where
  jobs : ∀ id, id ∈ w.jobs ↔ ∃ k ∈ w.closures, k.jobId = id ∧ k.live
  single : ∀ (n m : ℕ) (k k' : PrintClosure), w.closures[n]? = some k → w.closures[m]? = some k' →
    k.jobId = k'.jobId → k.live → k'.live → n = m

lemma closures_set (hk : w.closures[n]? = some k) (k' : PrintClosure) (m : ℕ) :
    (w.closures.set n k')[m]? = if m = n then some k' else w.closures[m]? := by
  obtain ⟨hn, -⟩ := List.getElem?_eq_some_iff.mp hk
  rw [List.getElem?_set]
  by_cases hm : n = m
  · simp [hm, hm ▸ hn]
  · simp [hm, Ne.symm hm]

/-- A closure of the same job at another stage or with another dispatch, live as before. -/
lemma InFlight.Guarded.setClosure (h : w.Guarded) (hk : w.closures[n]? = some k)
    (hid : k'.jobId = k.jobId) (hlive : k'.live ↔ k.live) : (w.setClosure n k').Guarded := by
  have hget : ∀ (m : ℕ) (q' : PrintClosure), (w.closures.set n k')[m]? = some q' →
      ∃ q, w.closures[m]? = some q ∧ q'.jobId = q.jobId ∧ (q'.live ↔ q.live) := by
    intro m q' hq'
    rw [closures_set hk] at hq'
    split at hq'
    · rename_i hm
      obtain rfl := Option.some.inj hq'
      exact ⟨k, hm ▸ hk, hid, hlive⟩
    · exact ⟨q', hq', rfl, Iff.rfl⟩
  refine ⟨fun id => ?_, fun m m' q q' hq hq' heq hl hl' => ?_⟩
  · rw [InFlight.setClosure, h.jobs]
    constructor
    · rintro ⟨q, hq, rfl, hl⟩
      obtain ⟨m, hm⟩ := List.mem_iff_getElem?.mp hq
      by_cases hmn : m = n
      · subst hmn
        obtain rfl : k = q := Option.some.inj (hk.symm.trans hm)
        refine ⟨k', List.mem_iff_getElem?.mpr ⟨m, ?_⟩, hid, hlive.mpr hl⟩
        rw [closures_set hk, if_pos rfl]
      · refine ⟨q, List.mem_iff_getElem?.mpr ⟨m, ?_⟩, rfl, hl⟩
        rw [closures_set hk, if_neg hmn]
        exact hm
    · rintro ⟨q', hq', rfl, hl⟩
      obtain ⟨m, hm⟩ := List.mem_iff_getElem?.mp hq'
      obtain ⟨q, hq, hsame, hlq⟩ := hget m q' hm
      exact ⟨q, List.mem_iff_getElem?.mpr ⟨m, hq⟩, hsame.symm, hlq.mp hl⟩
  · obtain ⟨p, hp, hsame, hlp⟩ := hget m q hq
    obtain ⟨p', hp', hsame', hlp'⟩ := hget m' q' hq'
    exact h.single m m' p p' hp hp' (hsame.symm.trans (heq.trans hsame')) (hlp.mp hl) (hlp'.mp hl')

/-- A closure is accepted only when no other one of the job has a guard. -/
lemma InFlight.Guarded.dispatch (h : w.Guarded) (id : JobId) : (w.dispatch id).Guarded := by
  unfold InFlight.dispatch InFlight.tryBegin
  split
  · rename_i w' hbegin
    split at hbegin
    · cases hbegin
    · rename_i hfree
      obtain rfl := Option.some.inj hbegin
      have hnone : ∀ k ∈ w.closures, k.jobId = id → ¬ k.live := fun k hk hid hl =>
        hfree ((h.jobs id).mpr ⟨k, hk, hid, hl⟩)
      refine ⟨fun id' => ?_, fun m m' q q' hq hq' heq hl hl' => ?_⟩
      · simp only [Finset.mem_insert, List.mem_append, List.mem_singleton, h.jobs]
        constructor
        · rintro (rfl | ⟨q, hq, hid, hl⟩)
          · exact ⟨_, Or.inr rfl, rfl, by simp [PrintClosure.live]⟩
          · exact ⟨q, Or.inl hq, hid, hl⟩
        · rintro ⟨q, hq | rfl, rfl, hl⟩
          · exact Or.inr ⟨q, hq, rfl, hl⟩
          · exact Or.inl rfl
      · -- The new closure is the last, and no other one of its job is live.
        have hcases : ∀ (m : ℕ) (q : PrintClosure), (w.closures ++
            [{ jobId := id, stage := .accepted, dispatch := .waiting,
               cancelled := false }])[m]? = some q →
            w.closures[m]? = some q ∨ (m = w.closures.length ∧ q.jobId = id) := by
          intro m q hq
          rw [List.getElem?_append] at hq
          split at hq
          · exact Or.inl hq
          · rename_i hm
            obtain ⟨hlt, rfl⟩ := List.getElem?_eq_some_iff.mp hq
            have hzero : m - w.closures.length = 0 := by simpa using hlt
            exact Or.inr ⟨by omega, by simp⟩
        rcases hcases m q hq with hq | ⟨rfl, hid⟩
        · rcases hcases m' q' hq' with hq' | ⟨rfl, hid'⟩
          · exact h.single m m' q q' hq hq' heq hl hl'
          · exact absurd hl (hnone q (List.mem_iff_getElem?.mpr ⟨m, hq⟩) (heq.trans hid'))
        · rcases hcases m' q' hq' with hq' | ⟨rfl, -⟩
          · exact absurd hl' (hnone q' (List.mem_iff_getElem?.mpr ⟨m', hq'⟩) (heq.symm.trans hid))
          · rfl
  · exact h

/-- A guard is dropped: its closure was the only live one of the job. -/
lemma InFlight.Guarded.release (h : w.Guarded) (hk : w.closures[n]? = some k) (hl : k.live) :
    ({ w.setClosure n { k with stage := .ended } with jobs := w.jobs.erase k.jobId } :
      InFlight).Guarded := by
  have hget : ∀ (m : ℕ) (q : PrintClosure),
      (w.closures.set n { k with stage := .ended })[m]? = some q → q.live →
        m ≠ n ∧ w.closures[m]? = some q := by
    intro m q hq hlive
    rw [closures_set hk] at hq
    split at hq
    · obtain rfl := Option.some.inj hq
      exact absurd rfl hlive
    · rename_i hm
      exact ⟨hm, hq⟩
  refine ⟨fun id => ?_, fun m m' q q' hq hq' heq hlive hlive' => ?_⟩
  · rw [Finset.mem_erase, h.jobs]
    constructor
    · rintro ⟨hne, q, hq, rfl, hlive⟩
      obtain ⟨m, hm⟩ := List.mem_iff_getElem?.mp hq
      have hmn : m ≠ n := by
        rintro rfl
        obtain rfl : k = q := Option.some.inj (hk.symm.trans hm)
        exact hne rfl
      refine ⟨q, List.mem_iff_getElem?.mpr ⟨m, ?_⟩, rfl, hlive⟩
      change (w.closures.set n _)[m]? = some q
      rw [closures_set hk, if_neg hmn]
      exact hm
    · rintro ⟨q, hq, rfl, hlive⟩
      obtain ⟨m, hm⟩ := List.mem_iff_getElem?.mp hq
      obtain ⟨hmn, hm⟩ := hget m q hm hlive
      refine ⟨fun heq => hmn (h.single m n q k hm hk heq hlive hl), q,
        List.mem_iff_getElem?.mpr ⟨m, hm⟩, rfl, hlive⟩
  · obtain ⟨-, hm⟩ := hget m q hq hlive
    obtain ⟨-, hm'⟩ := hget m' q' hq' hlive'
    exact h.single m m' q q' hm hm' heq hlive hlive'

lemma InFlight.Guarded.advance (h : w.Guarded) (hk : w.closures[n]? = some k)
    {stage stage' : ClosureStage} (hs : stage ≠ .ended) (hs' : stage' ≠ .ended)
    (hstep : w.advance n k stage stage' = some w') : w'.Guarded := by
  unfold InFlight.advance at hstep
  split at hstep
  · rename_i hstage
    obtain rfl := Option.some.inj hstep
    refine h.setClosure hk rfl ?_
    simp [PrintClosure.live, hstage, hs, hs']
  · cases hstep

lemma InFlight.Guarded.waited (h : w.Guarded) (hk : w.closures[n]? = some k) {completes : Bool}
    (hstep : w.waited n k completes = some w') : w'.Guarded := by
  unfold InFlight.waited at hstep
  split at hstep
  · split at hstep
    · obtain rfl := Option.some.inj hstep
      exact h.setClosure hk rfl Iff.rfl
    · cases hstep
  · obtain rfl := Option.some.inj hstep
    exact h.setClosure hk rfl Iff.rfl
  · cases hstep

lemma InFlight.Guarded.step (h : w.Guarded) (hstep : w.step e = some w') : w'.Guarded := by
  cases e <;> simp only [InFlight.step, Option.some.injEq, Option.bind_eq_some_iff] at hstep
  case dispatch id => exact hstep ▸ h.dispatch id
  case spawn n =>
    obtain ⟨k, hk, hadvance⟩ := hstep
    exact h.advance hk (by simp) (by simp) hadvance
  case run n =>
    obtain ⟨k, hk, hadvance⟩ := hstep
    exact h.advance hk (by simp) (by simp) hadvance
  case leave n =>
    obtain ⟨k, hk, hadvance⟩ := hstep
    exact h.advance hk (by simp) (by simp) hadvance
  case discard n =>
    obtain ⟨k, hk, hadvance⟩ := hstep
    exact h.advance hk (by simp) (by simp) hadvance
  case drop n =>
    obtain ⟨k, hk, hrelease⟩ := hstep
    unfold InFlight.release at hrelease
    split at hrelease
    · rename_i hstage
      obtain rfl := Option.some.inj hrelease
      exact h.release hk (by simp [PrintClosure.live, hstage])
    · cases hrelease
  case complete n =>
    obtain ⟨k, hk, hwaited⟩ := hstep
    exact h.waited hk hwaited
  case timeout n =>
    obtain ⟨k, hk, hwaited⟩ := hstep
    exact h.waited hk hwaited

/-- When the guard of a closure that ends is dropped, its job alone is free again. -/
lemma tryBegin_of_drop (hk : w.closures[n]? = some k) (hstep : w.step (.drop n) = some w') :
    w'.tryBegin k.jobId ≠ none ∧
      ∀ id ≠ k.jobId, (w'.tryBegin id = none ↔ w.tryBegin id = none) := by
  have hrelease : w.release n k = some w' := by
    simpa only [InFlight.step, hk, Option.bind_some] using hstep
  unfold InFlight.release at hrelease
  split at hrelease
  · obtain rfl := Option.some.inj hrelease
    unfold InFlight.tryBegin
    refine ⟨by simp, fun id hid => ?_⟩
    simp [hid]
  · cases hrelease

/-! ### Runs -/

lemma guarded_of_reach (h : inFlightJobs.Reach free w) : w.Guarded := by
  refine h.invariant (P := InFlight.Guarded) ⟨?_, ?_⟩ fun _ _ _ _ hv hstep _ => hv.step hstep
  · simp [inFlightJobs]
  · intro n m k k' hk
    simp [inFlightJobs] at hk

/-- In every order of dispatches, ends, panics and timeouts, no two closures of a job run at a
time, a dispatch is refused exactly while an accepted closure of the job has not ended, and the
set is empty once all closures have ended. -/
theorem one_live_closure (h : inFlightJobs.Reach free w) :
    (∀ (n m : ℕ) (k k' : PrintClosure), w.closures[n]? = some k → w.closures[m]? = some k' →
      k.stage = .running → k'.stage = .running → k.jobId = k'.jobId → n = m) ∧
    (∀ id, w.tryBegin id = none ↔ ∃ k ∈ w.closures, k.jobId = id ∧ k.stage ≠ .ended) ∧
    ((∀ k ∈ w.closures, k.stage = .ended) → w.jobs = ∅) := by
  have hguarded := guarded_of_reach h
  refine ⟨fun n m k k' hk hk' hs hs' heq => ?_, fun id => ?_, fun hended => ?_⟩
  · exact hguarded.single n m k k' hk hk' heq (by simp [PrintClosure.live, hs])
      (by simp [PrintClosure.live, hs'])
  · rw [InFlight.tryBegin, ite_eq_left_iff]
    simp only [reduceCtorEq, imp_false, not_not]
    exact hguarded.jobs id
  · refine Finset.eq_empty_of_forall_notMem fun id hid => ?_
    obtain ⟨k, hk, -, hlive⟩ := (hguarded.jobs id).mp hid
    exact hlive (hended k hk)

/-- Two jobs are dispatched, one is given up at the timeout and runs on, and its job is refused
a second time. -/
def givenUpAndRefused : List InFlightStep :=
  [.dispatch 0, .spawn 0, .run 0, .dispatch 1, .spawn 1, .timeout 0, .dispatch 0, .run 1]

/-- The closure that was given up ends, and its job is dispatched again. -/
def endedAndAccepted : List InFlightStep :=
  givenUpAndRefused ++ [.leave 0, .drop 0, .dispatch 0]

theorem one_live_closure_given_up :
    (∃ w : InFlight, inFlightJobs.Reach free w ∧
      w.closures.map PrintClosure.stage = [.running, .running] ∧ w.tryBegin 0 = none ∧
        ∃ k ∈ w.closures, k.jobId = 0 ∧ k.stage ≠ .ended) ∧
    ∃ w : InFlight, inFlightJobs.Reach free w ∧
      w.closures.map PrintClosure.stage = [.ended, .running, .accepted] ∧
        w.tryBegin 0 = none ∧ ∃ k ∈ w.closures, k.jobId = 0 ∧ k.stage ≠ .ended := by
  have hrefused : ∀ w : InFlight, inFlightJobs.Reach free w → 0 ∈ w.jobs →
      w.tryBegin 0 = none ∧ ∃ k ∈ w.closures, k.jobId = 0 ∧ k.stage ≠ .ended := by
    intro w hw hmem
    have hnone : w.tryBegin 0 = none := by
      rw [InFlight.tryBegin, if_pos hmem]
    exact ⟨hnone, ((one_live_closure hw).2.1 0).mp hnone⟩
  constructor
  · obtain ⟨w, hw, hgoal⟩ := inFlightJobs.reach_of_run givenUpAndRefused
      (fun w => w.closures.map PrintClosure.stage == [.running, .running] && decide (0 ∈ w.jobs))
      (by decide +kernel)
    rw [Bool.and_eq_true, beq_iff_eq, decide_eq_true_iff] at hgoal
    exact ⟨w, hw, hgoal.1, hrefused w hw hgoal.2⟩
  · obtain ⟨w, hw, hgoal⟩ := inFlightJobs.reach_of_run endedAndAccepted
      (fun w => w.closures.map PrintClosure.stage == [.ended, .running, .accepted] &&
        decide (0 ∈ w.jobs))
      (by decide +kernel)
    rw [Bool.and_eq_true, beq_iff_eq, decide_eq_true_iff] at hgoal
    exact ⟨w, hw, hgoal.1, hrefused w hw hgoal.2⟩

end Print

end DevBridge

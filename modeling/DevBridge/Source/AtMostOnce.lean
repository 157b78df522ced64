import DevBridge.Source.Jobs

/-!
# A job is executed at most once

The right to execute a job is the move of its row from `received` to `executing`, and a row
never comes back to `received`.  So once the execution was called, or the row has left
`received` for any other reason, the execution is not called again; a crash does not change
that, since restart recovery moves the row forward as well.
-/

namespace DevBridge

variable {E : Executor} {timing : Timing}

/-- The execution of a job will not be called (again): the job was journaled and its row, if
it is there, is no longer `received`. -/
def World.Spent (w : World E) (id : ℤ) : Prop :=
  id ∈ w.log.journaled ∧ ∀ e, w.journal.get id = some e → e.state ≠ .received

/-- A step keeps a spent job spent, and does not call its execution. -/
lemma JobsEffect.spent {w w' : World E} {id : ℤ} (h : JobsEffect w w')
    (hfresh : w.journal.get id = none → w'.journal.get id ≠ none → id ∉ w.log.journaled)
    (hs : w.Spent id) :
    w'.Spent id ∧ w'.log.executed.count id = w.log.executed.count id := by
  have hrow : ∀ e', w'.journal.get id = some e' → e'.state ≠ .received := by
    intro e' he'
    cases hw : w.journal.get id with
    | none => exact absurd hs.1 (hfresh hw (by rw [he']; simp))
    | some e => exact (h.rowLater hw he').ne_received (hs.2 e hw)
  cases h with
  | later _ hj hx => exact ⟨⟨hj ▸ hs.1, hrow⟩, by rw [hx]⟩
  | executed id' e e' _ hj hx he hstate he' _ =>
    refine ⟨⟨hj ▸ hs.1, hrow⟩, ?_⟩
    have hne : id' ≠ id := by
      rintro rfl
      exact hs.2 e he hstate
    rw [hx, List.count_cons_of_ne hne]
  | added id' e hadd hj hx =>
    exact ⟨⟨by rw [hj]; exact List.mem_cons_of_mem _ hs.1, hrow⟩, by rw [hx]⟩
  | restarted _ hj hx => exact ⟨⟨hj ▸ hs.1, hrow⟩, by rw [hx]⟩

/-- A spent job is never executed again. -/
lemma executed_count_of_spent {id : ℤ} {w w' : World E}
    (h : (source E timing).Leads (NotReissued id) w w')
    (hw : (source E timing).Reach (NotReissued id) w) (hs : w.Spent id) :
    w'.log.executed.count id = w.log.executed.count id := by
  have := h.keeps hw
    (P := fun v => v.Spent id ∧ v.log.executed.count id = w.log.executed.count id)
    ⟨hs, rfl⟩ fun a ev b _ ha hstep hlaw => by
      have hab := (Shape.of_step hstep).jobs.spent hlaw ha.1
      exact ⟨hab.1, hab.2.trans ha.2⟩
  exact this.2

/-- An execution that was called is the only one, and its job is spent. -/
lemma spent_of_executed {id : ℤ} {w : World E}
    (h : (source E timing).Reach (NotReissued id) w) :
    w.log.executed.count id = 0 ∨ (w.log.executed.count id = 1 ∧ w.Spent id) := by
  refine h.invariant (P := fun w => w.log.executed.count id = 0 ∨
    (w.log.executed.count id = 1 ∧ w.Spent id)) (Or.inl rfl) ?_
  intro a ev b ha ih hstep hlaw
  have heff := (Shape.of_step hstep).jobs
  rcases ih with h0 | ⟨h1, hs⟩
  · cases heff with
    | later _ _ hx | added _ _ _ _ hx | restarted _ _ hx => exact Or.inl (by rw [hx, h0])
    | executed id' e e' hr hj hx he hstate he' hs' =>
      by_cases hid : id' = id
      · subst hid
        refine Or.inr ⟨by rw [hx, List.count_cons_self, h0], ?_, ?_⟩
        · rw [hj]
          exact journaled_of_row ha he
        · intro e₁ he₁
          rw [he'] at he₁
          cases he₁
          rw [hs']
          simp
      · exact Or.inl (by rw [hx, List.count_cons_of_ne hid, h0])
  · have hab := heff.spent hlaw hs
    exact Or.inr ⟨hab.2.trans h1, hab.1⟩

/-- Restart recovery: what was in flight is `indeterminate`, and `prune` leaves it alone. -/
lemma start_indeterminate {w : World E} (n : ℕ) {id : ℤ} {e : JournalEntry}
    (he : w.journal.get id = some e) (hs : e.state = .received ∨ e.state = .executing) :
    ∃ e', (w.start n).journal.get id = some e' ∧ e'.state = .indeterminate := by
  have hrec : (w.journal.recoverAfterRestart w.clock).get id = some (recoverRow w.clock e) := by
    rw [Journal.get_recoverAfterRestart, he]
    rfl
  have hstate : (recoverRow w.clock e).state = .indeterminate := by
    simp [recoverRow, hs]
  refine ⟨recoverRow w.clock e, ?_, hstate⟩
  rcases Journal.prune_pruned (w.journal.recoverAfterRestart w.clock) w.clock n id with
    hk | ⟨-, e₁, he₁, hp⟩
  · exact hk.trans hrec
  · rw [hrec] at he₁
    cases he₁
    simp [pruned, hstate, JobState.isFinal] at hp

/-- However the tasks' steps, the crashes and the restarts are ordered, the executor is asked
to execute a job at most once as long as the job's row is kept; and a job found `received` or
`executing` at a restart becomes `indeterminate` and is never executed from then on. -/
theorem executed_at_most_once (E : Executor) (timing : Timing) (id : ℤ) {w : World E}
    (h : (source E timing).Reach (RowKept id) w) :
    w.log.executed.count id ≤ 1 ∧
    ∀ n w' e, (source E timing).step w (.start n) = some w' →
      w.journal.get id = some e → (e.state = .received ∨ e.state = .executing) →
      (∃ e', w'.journal.get id = some e' ∧ e'.state = .indeterminate) ∧
      ∀ w'', (source E timing).Leads (RowKept id) w' w'' →
        w''.log.executed.count id = w.log.executed.count id := by
  have hfresh := reach_notReissued h
  constructor
  · rcases spent_of_executed hfresh with h0 | ⟨h1, -⟩ <;> omega
  · intro n w' e hstep he hs
    have hw' : w' = w.start n := by
      simp only [source, World.step] at hstep
      split at hstep <;> cases hstep
      rfl
    subst hw'
    have hind := start_indeterminate n he hs
    refine ⟨hind, fun w'' hlead => ?_⟩
    obtain ⟨e', he', hs'⟩ := hind
    have hkept : RowKept id w (.start n) (w.start n) := fun _ => by
      rw [he']
      simp
    have hreach : (source E timing).Reach (RowKept id) (w.start n) := h.move ⟨_, hstep, hkept⟩
    -- a run that keeps the row does not hand the job out again
    have hfresh' : (source E timing).Leads (NotReissued id) (w.start n) w'' := by
      refine (hlead.keeps hreach (P := (source E timing).Leads (NotReissued id) (w.start n))
        Relation.ReflTransGen.refl ?_)
      intro a ev b ha hla hst _
      exact hla.tail ⟨ev, hst, fun hnone _ hmem => row_of_journaled ha hmem hnone⟩
    have hspent : (w.start n).Spent id := by
      refine ⟨journaled_of_row hreach he', fun e₁ he₁ => ?_⟩
      rw [he'] at he₁
      cases he₁
      rw [hs']
      simp
    exact (executed_count_of_spent hfresh' (reach_notReissued hreach) hspent).trans rfl

/-- A reply of Odoo to `next` that hands out one job. -/
def replyWithJob (id : ℤ) (jobType : String) : Reply :=
  .ok (.obj [("job", .obj [("id", Json.ofInt id), ("type", .str jobType)]),
    ("ok", .bool true)])

/-- A reply of Odoo to `pending` that lists jobs. -/
def replyWithPending (ids : List ℤ) : Reply :=
  .ok (.obj [("jobs", .arr (ids.map fun id => .obj [("id", Json.ofInt id)])),
    ("ok", .bool true)])

/-- The events from the start of the process until a worker has called `execute` of a job,
and the crash after it. -/
def runUntilCrash (id : ℤ) : List (Event Executor.prompt) :=
  let q : DeviceQueue := ⟨.fiscal, ""⟩
  [.start 4, .control .poll, .odoo (.answerPending (replyWithPending [])),
    .control (.arrive true), .control (.entry true), .control .poll,
    .odoo (.answerNext (replyWithJob id "fiscal.open_drawer")), .control (.arrive true),
    .control (.enqueue true true), .worker q (.take true), .worker q (.start true), .crash]

/-- The law of a kept row, as a test. -/
def rowKeptTest (id : ℤ) (w : World E) (_ : Event E) (w' : World E) : Bool :=
  (w.journal.get id).isNone || (w'.journal.get id).isSome

lemma rowKept_of_test {id : ℤ} {w w' : World E} {e : Event E}
    (h : rowKeptTest id w e w' = true) : RowKept id w e w' := by
  intro hne hnone
  simp [rowKeptTest, hnone] at h
  exact hne h

/-- Job 7 was executed once when the process died; after the restart it is
`indeterminate`. -/
theorem executed_at_most_once_restart :
    ∃ w w', (source Executor.prompt Timing.default).Reach (RowKept 7) w ∧
      7 ∈ w.log.executed ∧ w.log.executed.count 7 ≤ 1 ∧
      (source Executor.prompt Timing.default).step w (.start 4) = some w' ∧
      ∃ e', w'.journal.get 7 = some e' ∧ e'.state = .indeterminate := by
  have hrun : ((source Executor.prompt Timing.default).run (World.init _)
      (runUntilCrash 7)).isSome = true := by decide
  obtain ⟨w, hw⟩ := Option.isSome_iff_exists.mp hrun
  have hreach : (source Executor.prompt Timing.default).Reach (RowKept 7) w :=
    Transition.leads_of_run (fun _ _ _ => rowKept_of_test) hw (by decide)
  cases hw
  have hmain := executed_at_most_once Executor.prompt Timing.default 7 hreach
  exact ⟨_, _, hreach, by decide, hmain.1, rfl, (hmain.2 4 _ _ rfl rfl (Or.inr rfl)).1⟩

end DevBridge

import DevBridge.Source.Shape

/-!
# Who talks to Odoo

Only the control loop and the ack sender talk to Odoo about jobs.  Every other task leaves
their states, Odoo's side and the log of the acks as they are.  In the same way only the LAN
calls talk to the tills, and only the reporter reports.
-/

namespace DevBridge

variable {E : Executor} {timing : Timing}

namespace World

/-- All that belongs to the talk with Odoo. -/
def talk (w : World E) : ControlPc × AckerPc × Odoo × List AckRequest × List AckRequest :=
  (w.proc.control, w.proc.acker, w.odoo, w.log.acks, w.log.answered)

/-- All that belongs to the LAN calls, and whether the process runs. -/
def tills (w : World E) :
    Bool × (ℕ → LanPc) × List (ℤ × String) × List (LanRequest × LanAnswer) :=
  (w.up, w.proc.lan, w.log.queued, w.log.answers)

/-- All that belongs to the reports. -/
def reports (w : World E) : ReporterPc × List ℤ := (w.proc.reporter, w.log.reported)

/-- The three together. -/
def sides (w : World E) := (w.talk, w.tills, w.reports)

variable {w w' : World E}

lemma talk_of_lanStep {i : ℕ} {e : LanEvent} (h : w.lanStep i e = some w') :
    w'.talk = w.talk ∧ w'.reports = w.reports := by
  have hreplayed : ∀ request stored, (w.replayed i request stored).talk = w.talk ∧
      (w.replayed i request stored).reports = w.reports := by
    intro request stored
    rcases w.replayed_eq i request stored with heq | heq
    · rw [heq]
      exact ⟨rfl, rfl⟩
    · rw [heq]
      exact ⟨rfl, rfl⟩
  cases lanMove_of_step h with
  | known request stored hpc hrow => exact hreplayed request stored
  | raced request stored j hpc hj => exact hreplayed request stored
  | _ => exact ⟨rfl, rfl⟩

lemma sides_of_workerStep {q : DeviceQueue} {e : WorkerEvent}
    (h : w.workerStep timing q e = some w') : w'.sides = w.sides := by
  unfold workerStep at h
  split at h
  · split at h
    · cases h
    · split at h
      · split at h <;> (cases h; rfl)
      · cases h; rfl
    · split at h
      · split at h <;> (cases h; rfl)
      · cases h; rfl
  · simp only at h
    split at h
    · cases h; rfl
    · split at h
      · cases h; rfl
      · split at h <;> (cases h; rfl)
  · split at h
    · split at h <;> (cases h; rfl)
    · cases h
  · split at h
    · cases h; rfl
    · cases h
  · split at h
    · cases h; rfl
    · cases h
  · cases h

lemma sides_of_reconcilerStep {e : ReconcilerEvent} (h : w.reconcilerStep e = some w') :
    w'.sides = w.sides := by
  unfold reconcilerStep at h
  split at h
  · cases h; rfl
  · cases h; rfl
  · cases h; rfl
  · simp only at h
    split at h
    · split at h
      · cases h; rfl
      · split at h <;> (cases h; rfl)
    · split at h
      · split at h <;> (cases h; rfl)
      · cases h; rfl
  · cases h; rfl
  · cases h

lemma talk_of_reporterStep {e : ReporterEvent} (h : w.reporterStep e = some w') :
    w'.talk = w.talk ∧ w'.tills = w.tills := by
  unfold reporterStep at h
  split at h
  · cases h; exact ⟨rfl, rfl⟩
  · cases h; exact ⟨rfl, rfl⟩
  · split at h <;> (cases h; exact ⟨rfl, rfl⟩)
  · cases h; exact ⟨rfl, rfl⟩
  · split at h
    · cases h; exact ⟨rfl, rfl⟩
    · split at h <;> (cases h; exact ⟨rfl, rfl⟩)
  · split at h <;> (cases h; exact ⟨rfl, rfl⟩)
  · cases h

lemma sides_of_taskStep {i : ℕ} {e : E.Event} (h : w.taskStep i e = some w') :
    w'.sides = w.sides := by
  unfold taskStep at h
  split at h
  · simp only [Option.map_eq_some_iff] at h
    obtain ⟨r, -, rfl⟩ := h
    rfl
  · cases h

/-- The ack sender leaves the control loop and Odoo's side alone. -/
lemma control_of_ackerStep {e : AckerEvent} (h : w.ackerStep e = some w') :
    w'.proc.control = w.proc.control ∧ w'.odoo = w.odoo := by
  unfold ackerStep at h
  split at h
  · cases h; exact ⟨rfl, rfl⟩
  · cases h; exact ⟨rfl, rfl⟩
  · cases h; exact ⟨rfl, rfl⟩
  · cases h; exact ⟨rfl, rfl⟩
  · simp only at h
    split at h
    · cases h; exact ⟨rfl, rfl⟩
    · split at h
      · cases h; exact ⟨rfl, rfl⟩
      · split at h <;> (cases h; exact ⟨rfl, rfl⟩)
  · split at h <;> (cases h; exact ⟨rfl, rfl⟩)
  · cases h; exact ⟨rfl, rfl⟩
  · cases h; exact ⟨rfl, rfl⟩
  · cases h

/-- The control loop leaves the ack sender alone, and sends no ack but `not_received`. -/
lemma acker_of_controlStep {e : ControlEvent} (h : w.controlStep timing e = some w') :
    w'.proc.acker = w.proc.acker ∧ w'.log.answered = w.log.answered ∧
      (w'.log.acks = w.log.acks ∨
        ∃ p rest retryLater, w.proc.control = .missing p rest retryLater ∧
          w'.proc.control = .notReceived p rest retryLater none ∧
          w'.log.acks = .notReceived p.id :: w.log.acks) := by
  unfold controlStep at h
  split at h
  · split at h <;> (cases h; exact ⟨rfl, rfl, Or.inl rfl⟩)
  · cases h; exact ⟨rfl, rfl, Or.inl rfl⟩
  · cases h
    unfold pendingArrived
    split <;> exact ⟨rfl, rfl, Or.inl rfl⟩
  · cases h; exact ⟨rfl, rfl, Or.inl rfl⟩
  · cases h; exact ⟨rfl, rfl, Or.inl rfl⟩
  · split at h
    · cases h; exact ⟨rfl, rfl, Or.inl rfl⟩
    · split at h <;> (cases h; exact ⟨rfl, rfl, Or.inl rfl⟩)
  · rename_i p rest retryLater hpc
    cases h
    exact ⟨rfl, rfl, Or.inr ⟨p, rest, retryLater, hpc, rfl, rfl⟩⟩
  · cases h
    rename_i rest retryLater reply ok hpc
    rcases w.notReceivedArrived_eq rest retryLater (reply.bind parseAckReply) with
      heq | ⟨r, heq⟩ <;> rw [heq] <;> exact ⟨rfl, rfl, Or.inl rfl⟩
  · rename_i p rest retryLater answer error hpc
    simp only [Option.some.injEq] at h
    subst h
    let late := if answer.isNone then p.id :: w.odoo.late else w.odoo.late
    let v : World E := { w with odoo := { w.odoo with late } }
    rcases v.notReceivedArrived_eq rest retryLater (.error error) with heq | ⟨r, heq⟩
    · exact ⟨by rw [heq]; rfl, by rw [heq]; rfl, Or.inl (by rw [heq]; rfl)⟩
    · exact ⟨by rw [heq]; rfl, by rw [heq]; rfl, Or.inl (by rw [heq]; rfl)⟩
  · cases h
    unfold nextArrived
    split
    · exact ⟨rfl, rfl, Or.inl rfl⟩
    · exact ⟨rfl, rfl, Or.inl rfl⟩
    · unfold acceptJob
      split
      · exact ⟨rfl, rfl, Or.inl rfl⟩
      · split <;> split <;> exact ⟨rfl, rfl, Or.inl rfl⟩
  · cases h; exact ⟨rfl, rfl, Or.inl rfl⟩
  · split at h <;> (cases h; exact ⟨rfl, rfl, Or.inl rfl⟩)
  · split at h
    · cases h; exact ⟨rfl, rfl, Or.inl rfl⟩
    · split at h <;> (cases h; exact ⟨rfl, rfl, Or.inl rfl⟩)
  · cases h

/-- Odoo's own steps leave the ack sender and the log of the acks alone. -/
lemma acker_of_odooStep {e : OdooEvent} (h : w.odooStep e = some w') :
    w'.proc.acker = w.proc.acker ∧ w'.log.acks = w.log.acks ∧
      w'.log.answered = w.log.answered ∧ w'.journal = w.journal := by
  unfold odooStep at h
  split at h
  · cases h; exact ⟨rfl, rfl, rfl, rfl⟩
  · cases h; exact ⟨rfl, rfl, rfl, rfl⟩
  · simp only at h
    split at h <;> (cases h; exact ⟨rfl, rfl, rfl, rfl⟩)
  · split at h
    · cases h; exact ⟨rfl, rfl, rfl, rfl⟩
    · cases h
  · cases h

/-- The control loop leaves the LAN calls and the reports alone. -/
lemma tills_of_controlStep {e : ControlEvent} (h : w.controlStep timing e = some w') :
    w'.tills = w.tills ∧ w'.reports = w.reports := by
  unfold controlStep at h
  split at h
  · split at h <;> (cases h; exact ⟨rfl, rfl⟩)
  · cases h; exact ⟨rfl, rfl⟩
  · cases h
    unfold pendingArrived
    split <;> exact ⟨rfl, rfl⟩
  · cases h; exact ⟨rfl, rfl⟩
  · cases h; exact ⟨rfl, rfl⟩
  · split at h
    · cases h; exact ⟨rfl, rfl⟩
    · split at h <;> (cases h; exact ⟨rfl, rfl⟩)
  · cases h; exact ⟨rfl, rfl⟩
  · cases h
    rename_i rest retryLater reply ok hpc
    rcases w.notReceivedArrived_eq rest retryLater (reply.bind parseAckReply) with
      heq | ⟨r, heq⟩ <;> rw [heq] <;> exact ⟨rfl, rfl⟩
  · rename_i p rest retryLater answer error hpc
    simp only [Option.some.injEq] at h
    subst h
    let late := if answer.isNone then p.id :: w.odoo.late else w.odoo.late
    let v : World E := { w with odoo := { w.odoo with late } }
    rcases v.notReceivedArrived_eq rest retryLater (.error error) with heq | ⟨r, heq⟩
    · exact ⟨by rw [heq]; rfl, by rw [heq]; rfl⟩
    · exact ⟨by rw [heq]; rfl, by rw [heq]; rfl⟩
  · cases h
    unfold nextArrived
    split
    · exact ⟨rfl, rfl⟩
    · exact ⟨rfl, rfl⟩
    · unfold acceptJob
      split
      · exact ⟨rfl, rfl⟩
      · split <;> split <;> exact ⟨rfl, rfl⟩
  · cases h; exact ⟨rfl, rfl⟩
  · split at h <;> (cases h; exact ⟨rfl, rfl⟩)
  · split at h
    · cases h; exact ⟨rfl, rfl⟩
    · split at h <;> (cases h; exact ⟨rfl, rfl⟩)
  · cases h

/-- So do Odoo's own steps. -/
lemma tills_of_odooStep {e : OdooEvent} (h : w.odooStep e = some w') :
    w'.tills = w.tills ∧ w'.reports = w.reports := by
  unfold odooStep at h
  split at h
  · cases h; exact ⟨rfl, rfl⟩
  · cases h; exact ⟨rfl, rfl⟩
  · simp only at h
    split at h <;> (cases h; exact ⟨rfl, rfl⟩)
  · split at h
    · cases h; exact ⟨rfl, rfl⟩
    · cases h
  · cases h

/-- And the ack sender. -/
lemma tills_of_ackerStep {e : AckerEvent} (h : w.ackerStep e = some w') :
    w'.tills = w.tills ∧ w'.reports = w.reports := by
  unfold ackerStep at h
  split at h
  · cases h; exact ⟨rfl, rfl⟩
  · cases h; exact ⟨rfl, rfl⟩
  · cases h; exact ⟨rfl, rfl⟩
  · cases h; exact ⟨rfl, rfl⟩
  · simp only at h
    split at h
    · cases h; exact ⟨rfl, rfl⟩
    · split at h
      · cases h; exact ⟨rfl, rfl⟩
      · split at h <;> (cases h; exact ⟨rfl, rfl⟩)
  · split at h <;> (cases h; exact ⟨rfl, rfl⟩)
  · cases h; exact ⟨rfl, rfl⟩
  · cases h; exact ⟨rfl, rfl⟩
  · cases h

/-- The tasks that do not talk to Odoo about jobs. -/
def talks : Event E → Bool
  | .control _ | .odoo _ | .acker _ | .crash | .start _ => true
  | _ => false

/-- A step of any other task leaves the talk with Odoo as it is. -/
lemma talk_of_step {e : Event E} (he : talks e = false) (h : w.step timing e = some w') :
    w'.talk = w.talk := by
  cases e with
  | clock t => cases h; rfl
  | elapse n => cases h; rfl
  | dev e =>
    simp only [step, Option.map_eq_some_iff] at h
    obtain ⟨d, -, rfl⟩ := h
    rfl
  | crash | start _ | odoo _ | control _ | acker _ => cases he
  | lan i e =>
    simp only [step] at h
    split at h
    · exact (talk_of_lanStep h).1
    · cases h
  | worker q e =>
    simp only [step] at h
    split at h
    · exact congrArg Prod.fst (sides_of_workerStep h)
    · cases h
  | reconciler e =>
    simp only [step] at h
    split at h
    · exact congrArg Prod.fst (sides_of_reconcilerStep h)
    · cases h
  | reporter e =>
    simp only [step] at h
    split at h
    · exact (talk_of_reporterStep h).1
    · cases h
  | task i e =>
    simp only [step] at h
    split at h
    · exact congrArg Prod.fst (sides_of_taskStep h)
    · cases h

/-- What a step does to the LAN calls and the reports: a LAN call or the reporter takes it, or
the process ends or starts, or they stay as they are. -/
lemma tills_of_step {e : Event E} (h : w.step timing e = some w') :
    (∃ i ev, e = .lan i ev ∧ w.lanStep i ev = some w') ∨
      (∃ ev, e = .reporter ev ∧ w.reporterStep ev = some w') ∨
      e = .crash ∧ w' = w.crash ∨ (∃ n, e = .start n ∧ w.up = false ∧ w' = w.start n) ∨
      w'.tills = w.tills ∧ w'.reports = w.reports := by
  have hsides : w'.sides = w.sides → w'.tills = w.tills ∧ w'.reports = w.reports :=
    fun hs => ⟨congrArg (fun x => x.2.1) hs, congrArg (fun x => x.2.2) hs⟩
  cases e with
  | clock t => cases h; exact Or.inr (Or.inr (Or.inr (Or.inr ⟨rfl, rfl⟩)))
  | elapse n => cases h; exact Or.inr (Or.inr (Or.inr (Or.inr ⟨rfl, rfl⟩)))
  | dev e =>
    simp only [step, Option.map_eq_some_iff] at h
    obtain ⟨d, -, rfl⟩ := h
    exact Or.inr (Or.inr (Or.inr (Or.inr ⟨rfl, rfl⟩)))
  | crash =>
    simp only [step] at h
    split at h <;> cases h
    exact Or.inr (Or.inr (Or.inl ⟨rfl, rfl⟩))
  | start n =>
    simp only [step] at h
    split at h <;> cases h
    rename_i hup
    exact Or.inr (Or.inr (Or.inr (Or.inl ⟨n, rfl, by simpa using hup, rfl⟩)))
  | odoo e => exact Or.inr (Or.inr (Or.inr (Or.inr (tills_of_odooStep h))))
  | control e =>
    simp only [step] at h
    split at h
    · exact Or.inr (Or.inr (Or.inr (Or.inr (tills_of_controlStep h))))
    · cases h
  | acker e =>
    simp only [step] at h
    split at h
    · exact Or.inr (Or.inr (Or.inr (Or.inr (tills_of_ackerStep h))))
    · cases h
  | lan i e =>
    simp only [step] at h
    split at h
    · exact Or.inl ⟨i, e, rfl, h⟩
    · cases h
  | reporter e =>
    simp only [step] at h
    split at h
    · exact Or.inr (Or.inl ⟨e, rfl, h⟩)
    · cases h
  | worker q e =>
    simp only [step] at h
    split at h
    · exact Or.inr (Or.inr (Or.inr (Or.inr (hsides (sides_of_workerStep h)))))
    · cases h
  | reconciler e =>
    simp only [step] at h
    split at h
    · exact Or.inr (Or.inr (Or.inr (Or.inr (hsides (sides_of_reconcilerStep h)))))
    · cases h
  | task i e =>
    simp only [step] at h
    split at h
    · exact Or.inr (Or.inr (Or.inr (Or.inr (hsides (sides_of_taskStep h)))))
    · cases h

end World

end DevBridge

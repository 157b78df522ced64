import DevBridge.Source.Control
import DevBridge.Source.Lan
import DevBridge.Source.Tasks
import DevBridge.Lib.Transition

/-!
# The device-job source as a transition system

One event is one step of one task, of a device, of Odoo or of a clock, or the crash or the
start of the process.  A run is any list of events, so every order of the tasks' steps and
every moment of a crash is a run.
-/

namespace DevBridge

/-- One step of the bridge or of what it talks to. -/
inductive Event (E : Executor) where
  /-- The UTC clock shows another time. -/
  | clock (t : Time)
  /-- Time passes. -/
  | elapse (seconds : ℕ)
  /-- The process dies. -/
  | crash
  /-- The process starts: restart recovery, then `prune`, of whose statements the first
  ones succeed. -/
  | start (pruneStatements : ℕ)
  | dev (e : E.DevEvent)
  | odoo (e : OdooEvent)
  | control (e : ControlEvent)
  | lan (call : ℕ) (e : LanEvent)
  | worker (q : DeviceQueue) (e : WorkerEvent)
  | reconciler (e : ReconcilerEvent)
  | acker (e : AckerEvent)
  | reporter (e : ReporterEvent)
  /-- A step of the executor call with the given number. -/
  | task (i : ℕ) (e : E.Event)

variable {E : Executor}

namespace World

variable (w : World E)

/-- The process dies; a `not_received` ack on its way may still reach Odoo. -/
def crash : World E :=
  { w with
    odoo := match w.proc.control with
      | .notReceived p _ _ none => { w.odoo with late := p.id :: w.odoo.late }
      | _ => w.odoo
    up := false
    proc := Proc.down E }

/-- The process starts. -/
def start (pruneStatements : ℕ) : World E :=
  { w with
    journal := (w.journal.recoverAfterRestart w.clock).prune w.clock pruneStatements
    up := true
    proc := Proc.init E }

/-- One step of an executor call. -/
def taskStep (i : ℕ) (e : E.Event) : Option (World E) :=
  match w.proc.tasks i with
  | some t =>
    (E.step w.clock i e t ⟨w.journal, w.dev, w.proc.vol⟩).map fun r =>
      { w with
        journal := r.2.journal
        dev := r.2.dev
        proc := { w.proc with
          tasks := Function.update w.proc.tasks i (some r.1)
          vol := r.2.vol } }
  | none => none

/-- One step. -/
def step (timing : Timing) (w : World E) : Event E → Option (World E)
  | .clock t => some { w with clock := t }
  | .elapse seconds => some { w with instant := w.instant + seconds }
  | .dev e => (E.devStep e w.dev).map fun dev => { w with dev }
  | .crash => if w.up then some w.crash else none
  | .start n => if w.up then none else some (w.start n)
  | .odoo e => w.odooStep e
  | .control e => if w.up then w.controlStep timing e else none
  | .lan i e => if w.up then w.lanStep i e else none
  | .worker q e => if w.up then w.workerStep timing q e else none
  | .reconciler e => if w.up then w.reconcilerStep e else none
  | .acker e => if w.up then w.ackerStep e else none
  | .reporter e => if w.up then w.reporterStep e else none
  | .task i e => if w.up then w.taskStep i e else none

end World

/-- The device-job source with an executor, from an empty journal. -/
def source (E : Executor) (timing : Timing) : Transition (World E) (Event E) where
  init := World.init E
  step := World.step timing

end DevBridge

import DevBridge.Print.Copies

/-!
# What a print task has to do with its receiver

Below is the condition under which an accepted job is never sent to the printer again, and what
it gives for the tasks alone: a task whose first Print-Job is under way has a receiver that waits
for it, a task that was given up before it sent anything is cancelled, and a task that ends in a
plain failure after an acceptance has the printer's verdict.
-/

namespace DevBridge

namespace Print

open Server

open Transition (free)

variable {cfg : JobsConfig} {timeoutSecs : ℕ} {d : StoredData} {w w' : PrintWorld}
  {e : PrintStep} {id : JobId} {c : ConnId} {r r' : Receiver} {n : ℕ} {t t' : PrintTask}
  {outcome : TaskOutcome} {event : Option TaskEvent}

/-! ### How far a task is -/

inductive Progress where
  /-- It has not looked at the cancel for the first page. -/
  | untouched
  /-- The first Print-Job is under way. -/
  | first
  /-- The first page is accepted, which is not recorded. -/
  | answered
  | past
  | ended
deriving DecidableEq

def TaskStage.progress : TaskStage → Progress
  | .rendering => .untouched
  | .page i => if i = 0 then .untouched else .past
  | .sending i | .posting i => if i = 0 then .first else .past
  | .answered i _ => if i = 0 then .answered else .past
  | .acknowledged _ _ | .polling _ _ => .past
  | .ended _ => .ended

/-- A task fits what is remembered of it: whether it had a page accepted, and whether it had the
verdict on the first page. -/
def PrintTask.Sound (t : PrintTask) (accepted verdict : Prop) : Prop :=
  match t.stage.progress with
  | .untouched | .first => ¬ accepted ∧ t.accepted = false
  | .answered => accepted
  | .past => accepted ∧ t.accepted = true
  | .ended => (accepted → t.accepted = true) ∧
      ((∃ detail, t.stage = .ended (.failed detail)) → accepted → verdict)

/-! ### The condition -/

def ReceiverStage.job : ReceiverStage → Option JobId
  | .listening | .ended => none
  | .downloading id | .downloaded id | .printing id _ | .timedOut id _ | .reporting id _ => some id

/-- The task that the receiver waits for, or has given up and not reported. -/
def ReceiverStage.task : ReceiverStage → Option ℕ
  | .printing _ n | .timedOut _ n => some n
  | _ => none

/-- The copies of a job that a receiver has. -/
def Receiver.copies (r : Receiver) (id : JobId) : ℕ :=
  r.inbox.count id + if r.stage.job = some id then 1 else 0

def clientCopies (receivers : ConnId → Option Receiver) (id : JobId) (c : ConnId) : ℕ :=
  (receivers c).elim 0 (Receiver.copies · id)

def PrintWorld.copies (w : PrintWorld) (id : JobId) : Place → ℕ :=
  placed w.server.flow (clientCopies w.receivers id) id

/-- The outer timeout does not give up a task whose first Print-Job is under way or whose
acceptance is not recorded; the HTTP client of the first page's poll is built; a report that the
job is printed or unconfirmed arrives; and a requeue, a drain or a restart makes a copy of a job
id only when there is no other one. -/
structure PrintWorld.InTurn (w : PrintWorld) (e : PrintStep) (w' : PrintWorld) : Prop where
  decide : ∀ c r id n t, e = .receiver c .decide → w.receivers c = some r →
    r.stage = .timedOut id n → w.tasks[n]? = some t →
      t.stage.progress ≠ .first ∧ t.stage.progress ≠ .answered
  poll : ∀ n t printerJobId detail, e = .task n (.fails detail) → w.tasks[n]? = some t →
    t.stage ≠ .acknowledged 0 printerJobId
  report : ∀ c r id report arrives, e = .receiver c (.report arrives) → w.receivers c = some r →
    r.stage = .reporting id report → report.final → arrives = true
  requeue : ∀ id row, w.server.jobs.get? id = some row →
    w'.server.trace = .queued id false :: w.server.trace → Tokens.Gone (w.copies id)
  drain : ∀ c l l' ids, w.server.flow.lines c = some l → l.stage = .opening →
    w'.server.flow.lines c = some l' → l'.stage = .draining ids → ∀ id ∈ ids,
      Tokens.Gone (w.copies id)
  restart : e = .server .restart → ∀ id ∈ w.server.jobs.queuedUnpaired, ∀ c,
    w.copies id (.client c) = 0

def inTurn : Transition.Law PrintWorld PrintStep := PrintWorld.InTurn

/-! ### The steps one by one -/

/-- What a step does. -/
inductive PrintWorld.Move (cfg : JobsConfig) (timeoutSecs : ℕ) (w : PrintWorld) :
    PrintStep → PrintWorld → Prop where
  | server (e : ServerStep) (s : ServerWorld) (h : w.server.step cfg e = some s) :
      Move cfg timeoutSecs w (.server e) (w.follow s)
  /-- The receiver goes on with a job of the inbox, or with the one it has. -/
  | received (c : ConnId) (r : Receiver) (hr : w.receivers c = some r) (id : JobId)
      (rest : List JobId) (hstage : r.stage = .listening) (hinbox : r.inbox = id :: rest) :
      Move cfg timeoutSecs w (.receiver c .receive)
        (w.setReceiver c { r with inbox := rest, stage := .downloading id })
  | hungUp (c : ConnId) (r : Receiver) (hr : w.receivers c = some r)
      (hstage : r.stage = .listening) : Move cfg timeoutSecs w (.receiver c .hangUp)
        (w.setReceiver c { r with inbox := [], stage := .ended })
  | goesOn (c : ConnId) (r : Receiver) (hr : w.receivers c = some r) (step : ReceiverStep)
      (id : JobId) (stage : ReceiverStage)
      (hstage : r.stage = .downloading id ∨ r.stage = .downloaded id)
      (hstage' : stage = .downloaded id ∨ ∃ report, stage = .reporting id report) :
      Move cfg timeoutSecs w (.receiver c step) (w.setStage c r stage)
  | started (c : ConnId) (r : Receiver) (hr : w.receivers c = some r) (id : JobId)
      (hstage : r.stage = .downloaded id) : Move cfg timeoutSecs w (.receiver c .start)
        (((w.setStage c r (.printing id w.tasks.length)).addTask
          { machineId := r.machineId, jobId := id, pages := 0, stage := .rendering,
            cancelled := false, accepted := false }).remember .started w.tasks.length id)
  | finished (c : ConnId) (r : Receiver) (hr : w.receivers c = some r) (id : JobId) (n : ℕ)
      (hstage : r.stage = .printing id n) (t : PrintTask) (ht : w.tasks[n]? = some t)
      (result : PrintResult) (hresult : t.stage = .ended result) :
      Move cfg timeoutSecs w (.receiver c .finish)
        (w.setStage c r (.reporting id (PrintReport.of result)))
  | timedOut (c : ConnId) (r : Receiver) (hr : w.receivers c = some r) (id : JobId) (n : ℕ)
      (hstage : r.stage = .printing id n) (t : PrintTask) (ht : w.tasks[n]? = some t) :
      Move cfg timeoutSecs w (.receiver c .timeout)
        ((w.setStage c r (.timedOut id n)).setTask n { t with cancelled := true })
  | decided (c : ConnId) (r : Receiver) (hr : w.receivers c = some r) (id : JobId) (n : ℕ)
      (hstage : r.stage = .timedOut id n) (t : PrintTask) (ht : w.tasks[n]? = some t) :
      Move cfg timeoutSecs w (.receiver c .decide) (w.setStage c r
        (.reporting id (PrintReport.of (printTimeoutError timeoutSecs t.accepted))))
  | reported (c : ConnId) (r : Receiver) (hr : w.receivers c = some r) (id : JobId)
      (report : PrintReport) (hstage : r.stage = .reporting id report) (arrives : Bool) :
      Move cfg timeoutSecs w (.receiver c (.report arrives)) (w.reportTo c r id report arrives)
  | task (n : ℕ) (t t' : PrintTask) (ht : w.tasks[n]? = some t) (outcome : TaskOutcome)
      (event : Option TaskEvent) (h : t.Steps outcome event t') :
      Move cfg timeoutSecs w (.task n outcome)
        { w.setTask n t' with
          history := (event.map fun event => ⟨event, n, t.jobId⟩).toList ++ w.history }

lemma PrintWorld.move_of_receiver {step : ReceiverStep} (hr : w.receivers c = some r)
    (h : w.runReceiver timeoutSecs c r step = some w') :
    PrintWorld.Move cfg timeoutSecs w (.receiver c step) w' := by
  unfold PrintWorld.runReceiver at h
  split at h
  · rename_i hstage
    split at h
    · rename_i id rest hinbox
      obtain rfl := Option.some.inj h
      exact .received c r hr id rest hstage hinbox
    · cases h
  · rename_i hstage
    obtain rfl := Option.some.inj h
    exact .hungUp c r hr hstage
  · rename_i id hstage
    obtain rfl := Option.some.inj h
    exact .goesOn c r hr _ id _ (Or.inl hstage) (Or.inl rfl)
  · rename_i id detail hstage
    obtain rfl := Option.some.inj h
    exact .goesOn c r hr _ id _ (Or.inl hstage) (Or.inr ⟨_, rfl⟩)
  · rename_i id hstage
    obtain rfl := Option.some.inj h
    unfold PrintWorld.startTask
    split
    · exact .goesOn c r hr _ id _ (Or.inr hstage) (Or.inr ⟨_, rfl⟩)
    · exact .started c r hr id hstage
  · rename_i id n hstage
    obtain ⟨t, ht, hfinish⟩ := Option.bind_eq_some_iff.mp h
    unfold PrintWorld.finish at hfinish
    split at hfinish
    · rename_i result hresult
      obtain rfl := Option.some.inj hfinish
      exact .finished c r hr id n hstage t ht result hresult
    · cases hfinish
  · rename_i id n hstage
    obtain ⟨t, ht, htimeout⟩ := Option.bind_eq_some_iff.mp h
    unfold PrintWorld.timeout at htimeout
    split at htimeout
    · obtain rfl := Option.some.inj htimeout
      exact .timedOut c r hr id n hstage t ht
    · cases htimeout
  · rename_i id n hstage
    obtain ⟨t, ht, rfl⟩ := Option.map_eq_some_iff.mp h
    exact .decided c r hr id n hstage t ht
  · rename_i id report arrives hstage
    obtain rfl := Option.some.inj h
    exact .reported c r hr id report hstage arrives
  · cases h

lemma PrintWorld.move_of_step (h : w.step cfg timeoutSecs e = some w') :
    PrintWorld.Move cfg timeoutSecs w e w' := by
  unfold PrintWorld.step at h
  split at h
  · cases h
  · obtain ⟨s, hs, rfl⟩ := Option.map_eq_some_iff.mp h
    exact .server _ s hs
  · rename_i n outcome
    obtain ⟨t, ht, hrun⟩ := Option.bind_eq_some_iff.mp h
    obtain ⟨t', ht', rfl⟩ := Option.map_eq_some_iff.mp hrun
    have hmove := @PrintWorld.Move.task cfg timeoutSecs w n t t' ht
      outcome _ (PrintTask.steps_of_step ht')
    split
    · rename_i event hevent
      rw [hevent] at hmove
      exact hmove
    · rename_i hevent
      rw [hevent] at hmove
      exact hmove
  · rename_i c step
    obtain ⟨r, hr, hrun⟩ := Option.bind_eq_some_iff.mp h
    exact PrintWorld.move_of_receiver hr hrun

/-! ### One task -/

lemma progress_atPage_zero (t : PrintTask) :
    (t.atPage 0).stage.progress = .untouched ∨ (t.atPage 0).stage = .ended .ok := by
  unfold PrintTask.atPage
  split
  · exact Or.inl rfl
  · exact Or.inr rfl

lemma accepted_atPage (t : PrintTask) (i : ℕ) : (t.atPage i).accepted = t.accepted := by
  unfold PrintTask.atPage
  split <;> rfl

lemma progress_atPage_succ (t : PrintTask) (i : ℕ) :
    (t.atPage (i + 1)).stage.progress = .past ∨ (t.atPage (i + 1)).stage = .ended .ok := by
  unfold PrintTask.atPage
  split
  · exact Or.inl rfl
  · exact Or.inr rfl

/-- A task that ended in no plain failure. -/
lemma sound_of_ended {a v : Prop} {result : PrintResult} (hstage : t.stage = .ended result)
    (hflag : a → t.accepted = true) (hplain : ∀ detail, result = .failed detail → a → v) :
    t.Sound a v := by
  unfold PrintTask.Sound
  simp only [hstage, TaskStage.progress]
  refine ⟨hflag, ?_⟩
  rintro ⟨detail, hdetail⟩
  exact hplain detail (TaskStage.ended.inj hdetail)

lemma sound_failPage {a v : Prop} {i : ℕ} {result : PrintResult}
    (hflag : a → t.accepted = true)
    (hplain : ∀ detail, i = 0 → result = .failed detail → a → v) :
    (t.failPage i result).Sound a v := by
  refine sound_of_ended rfl hflag fun detail hdetail => ?_
  obtain ⟨hi, hresult⟩ := failure_eq_failed hdetail
  exact hplain detail hi hresult

/-- The steps of a task keep it sound, as long as the poll of the first page has its client. -/
lemma PrintTask.Sound.steps {a v : Prop} (h : t.Sound a v) (hs : t.Steps outcome event t')
    (hpoll : ∀ detail printerJobId, outcome = .fails detail →
      t.stage ≠ .acknowledged 0 printerJobId) :
    t'.Sound (a ∨ event = some .accepted) (v ∨ event = some .verdict) := by
  have hstart : t.stage.progress = .untouched ∨ t.stage.progress = .first →
      ¬ a ∧ t.accepted = false := by
    intro hp
    unfold PrintTask.Sound at h
    rcases hp with hp | hp <;> simpa only [hp] using h
  have hpast : t.stage.progress = .past → a ∧ t.accepted = true := by
    intro hp
    unfold PrintTask.Sound at h
    simpa only [hp] using h
  cases hs with
  | rendered pages hstage =>
    obtain ⟨ha, hflag⟩ := hstart (Or.inl (by rw [hstage]; rfl))
    rcases progress_atPage_zero { t with pages := pages } with hp | hp
    · unfold PrintTask.Sound
      simp only [hp]
      exact ⟨by simpa using ha, (accepted_atPage _ _).trans hflag⟩
    · exact sound_of_ended hp (by simp [ha]) (by simp)
  | notRendered detail hstage =>
    obtain ⟨ha, -⟩ := hstart (Or.inl (by rw [hstage]; rfl))
    exact sound_of_ended rfl (by simp [ha]) (by simp [ha])
  | checked i hstage =>
    unfold PrintTask.checkCancel
    rcases Nat.eq_zero_or_pos i with rfl | hi
    · obtain ⟨ha, hflag⟩ := hstart (Or.inl (by rw [hstage]; rfl))
      split
      · exact sound_failPage (by simp [ha]) (by simp [ha])
      · exact ⟨by simpa using ha, hflag⟩
    · obtain ⟨ha, hflag⟩ := hpast (by simp [hstage, TaskStage.progress, hi.ne'])
      split
      · exact sound_failPage (fun _ => hflag) fun _ hzero => absurd hzero hi.ne'
      · simp only [PrintTask.Sound, TaskStage.progress, hi.ne', if_false]
        exact ⟨Or.inl ha, hflag⟩
  | posted i hstage =>
    rcases Nat.eq_zero_or_pos i with rfl | hi
    · obtain ⟨ha, hflag⟩ := hstart (Or.inr (by rw [hstage]; rfl))
      exact ⟨by simpa using ha, hflag⟩
    · obtain ⟨ha, hflag⟩ := hpast (by simp [hstage, TaskStage.progress, hi.ne'])
      simp only [PrintTask.Sound, TaskStage.progress, hi.ne', if_false]
      exact ⟨Or.inl ha, hflag⟩
  | notSent i detail hstage =>
    rcases Nat.eq_zero_or_pos i with rfl | hi
    · obtain ⟨ha, -⟩ := hstart (Or.inr (by rcases hstage with hs | hs <;> (rw [hs]; rfl)))
      exact sound_failPage (by simp [ha]) (by simp [ha])
    · obtain ⟨-, hflag⟩ := hpast
        (by rcases hstage with hs | hs <;> simp [hs, TaskStage.progress, hi.ne'])
      exact sound_failPage (fun _ => hflag) fun _ hzero => absurd hzero hi.ne'
  | accepted i printerJobId hstage =>
    rcases Nat.eq_zero_or_pos i with rfl | hi
    · exact Or.inr rfl
    · obtain ⟨ha, hflag⟩ := hpast (by simp [hstage, TaskStage.progress, hi.ne'])
      simp only [PrintTask.Sound, TaskStage.progress, hi.ne', if_false]
      exact ⟨Or.inl ha, hflag⟩
  | recorded i printerJobId hstage =>
    have ha : a := by
      rcases Nat.eq_zero_or_pos i with rfl | hi
      · unfold PrintTask.Sound at h
        simpa only [hstage, TaskStage.progress, if_true] using h
      · exact (hpast (by simp [hstage, TaskStage.progress, hi.ne'])).1
    exact ⟨Or.inl ha, rfl⟩
  | polls i printerJobId hstage =>
    obtain ⟨ha, hflag⟩ := hpast (by rw [hstage]; rfl)
    exact ⟨Or.inl ha, hflag⟩
  | noClient i printerJobId detail hstage =>
    obtain ⟨-, hflag⟩ := hpast (by rw [hstage]; rfl)
    refine sound_failPage (fun _ => hflag) ?_
    rintro _ rfl
    exact absurd hstage (hpoll detail printerJobId rfl)
  | printed i printerJobId hstage =>
    obtain ⟨ha, hflag⟩ := hpast (by rw [hstage]; rfl)
    rcases progress_atPage_succ t i with hp | hp
    · unfold PrintTask.Sound
      simp only [hp]
      exact ⟨Or.inl ha, (accepted_atPage _ _).trans hflag⟩
    · exact sound_of_ended hp (fun _ => (accepted_atPage _ _).trans hflag) (by simp)
  | canceled i printerJobId evidence hstage =>
    obtain ⟨-, hflag⟩ := hpast (by rw [hstage]; rfl)
    refine sound_failPage (fun _ => hflag) ?_
    rintro _ rfl _ _
    exact Or.inr rfl
  | lost i printerJobId why hstage =>
    obtain ⟨-, hflag⟩ := hpast (by rw [hstage]; rfl)
    exact sound_failPage (fun _ => hflag) (by simp)

/-! ### Tasks and receivers -/

/-- Something is remembered of a task. -/
def PrintWorld.did (w : PrintWorld) (event : TaskEvent) (n : ℕ) (id : JobId) : Prop :=
  ⟨event, n, id⟩ ∈ w.history

/-- Each task fits its history, each receiver with a task has one of its job, and a task that
may still send the first page has its receiver. -/
structure PrintWorld.Attended (w : PrintWorld) : Prop where
  fresh : ∀ c r, w.receivers c = some r → c < w.server.nextConn
  sound : ∀ (n : ℕ) (t : PrintTask), w.tasks[n]? = some t →
    t.Sound (w.did .accepted n t.jobId) (w.did .verdict n t.jobId)
  events : ∀ ev ∈ w.history, ∃ t : PrintTask, w.tasks[ev.task]? = some t ∧ t.jobId = ev.jobId
  runs : ∀ c r n, w.receivers c = some r → r.stage.task = some n →
    ∃ t : PrintTask, w.tasks[n]? = some t ∧ r.stage.job = some t.jobId
  cancelled : ∀ c r id n (t : PrintTask), w.receivers c = some r → r.stage = .timedOut id n →
    w.tasks[n]? = some t → t.cancelled = true
  attached : ∀ (n : ℕ) (t : PrintTask), w.tasks[n]? = some t → t.stage.progress = .first ∨
    (t.stage.progress = .untouched ∧ t.cancelled = false) →
      ∃ c r, w.receivers c = some r ∧ r.stage.task = some n

lemma receivers_set (w : PrintWorld) (c c' : ConnId) (r : Receiver) :
    (w.setReceiver c r).receivers c' = if c' = c then some r else w.receivers c' := by
  simp [PrintWorld.setReceiver, Function.update_apply]

lemma tasks_set (ht : w.tasks[n]? = some t) (t' : PrintTask) (m : ℕ) :
    (w.tasks.set n t')[m]? = if m = n then some t' else w.tasks[m]? := by
  obtain ⟨hn, -⟩ := List.getElem?_eq_some_iff.mp ht
  rw [List.getElem?_set]
  by_cases hm : n = m
  · simp [hm, hm ▸ hn]
  · simp [hm, Ne.symm hm]

/-- The receivers change, and the tasks do not: a receiver that lets go of its task has one that
ended, or one that is cancelled before it sent anything. -/
lemma PrintWorld.Attended.of_receivers (h : w.Attended) (htasks : w'.tasks = w.tasks)
    (hhistory : w'.history = w.history)
    (hfresh : ∀ c r', w'.receivers c = some r' → c < w'.server.nextConn)
    (hnew : ∀ c r', w'.receivers c = some r' → r'.stage.task = none ∨
      ∃ r, w.receivers c = some r ∧ r'.stage = r.stage)
    (hold : ∀ c r n, w.receivers c = some r → r.stage.task = some n →
      (∃ r', w'.receivers c = some r' ∧ r'.stage.task = some n) ∨
        ∀ t : PrintTask, w.tasks[n]? = some t → t.stage.progress ≠ .first ∧
          (t.stage.progress = .untouched → t.cancelled = true)) : w'.Attended := by
  refine ⟨hfresh, fun n t ht => ?_, fun ev hev => ?_, fun c r' n hr' hn => ?_,
    fun c r' id n t hr' hstage ht => ?_, fun n t ht hp => ?_⟩
  · rw [htasks] at ht
    simpa only [PrintWorld.did, hhistory] using h.sound n t ht
  · rw [hhistory] at hev
    rw [htasks]
    exact h.events ev hev
  · rw [htasks]
    rcases hnew c r' hr' with hnone | ⟨r, hr, hsame⟩
    · rw [hnone] at hn
      cases hn
    · rw [hsame] at hn ⊢
      exact h.runs c r n hr hn
  · rw [htasks] at ht
    rcases hnew c r' hr' with hnone | ⟨r, hr, hsame⟩
    · rw [hstage] at hnone
      cases hnone
    · exact h.cancelled c r id n t hr (hsame ▸ hstage) ht
  · rw [htasks] at ht
    obtain ⟨c, r, hr, hn⟩ := h.attached n t ht hp
    rcases hold c r n hr hn with ⟨r', hr', hn'⟩ | hdone
    · exact ⟨c, r', hr', hn'⟩
    · obtain ⟨hfirst, huntouched⟩ := hdone t ht
      rcases hp with hp | ⟨hp, hcancelled⟩
      · exact absurd hp hfirst
      · rw [huntouched hp] at hcancelled
        cases hcancelled

/-- One receiver goes to a stage without a task. -/
lemma PrintWorld.Attended.setReceiver (h : w.Attended) (hr : w.receivers c = some r)
    (hnone : r'.stage.task = none)
    (hold : ∀ n, r.stage.task = some n → ∀ t : PrintTask, w.tasks[n]? = some t →
      t.stage.progress ≠ .first ∧ (t.stage.progress = .untouched → t.cancelled = true)) :
    (w.setReceiver c r').Attended := by
  refine h.of_receivers rfl rfl (fun c' r₁ hr₁ => ?_) (fun c' r₁ hr₁ => ?_)
    fun c' r₁ n hr₁ hn => ?_
  · rw [receivers_set] at hr₁
    split at hr₁
    · rename_i hc
      exact hc ▸ h.fresh c r hr
    · exact h.fresh c' r₁ hr₁
  · rw [receivers_set] at hr₁
    split at hr₁
    · obtain rfl := Option.some.inj hr₁
      exact Or.inl hnone
    · exact Or.inr ⟨r₁, hr₁, rfl⟩
  · by_cases hc : c' = c
    · subst hc
      obtain rfl : r = r₁ := Option.some.inj (hr.symm.trans hr₁)
      exact Or.inr (hold n hn)
    · refine Or.inl ⟨r₁, ?_, hn⟩
      rw [receivers_set, if_neg hc]
      exact hr₁

/-! ### The server and the receivers -/

lemma nextConn_le {cfg : JobsConfig} {f f' : Flow} {e : ServerStep}
    (hm : Flow.Move cfg f e f') : f.nextConn ≤ f'.nextConn := by
  cases hm
  case opened => exact Nat.le_succ _
  case routed => simp
  case drained => simp
  all_goals exact le_rfl

lemma nextConn_complete {cfg : JobsConfig} {f f' : Flow} {completion : JobCompletion}
    (hm : Flow.Move cfg f (.complete completion) f') : f'.nextConn = f.nextConn := by
  cases hm <;> rfl

lemma hear_stage (r : Receiver) (id : JobId) : (r.hear id).stage = r.stage := by
  unfold Receiver.hear
  split <;> rfl

/-- The receiver of a stream that existed stays at its stage, and may hear of a job. -/
lemma heard_of_lt {s : ServerWorld} (hr : w.receivers c = some r)
    (hc : c < w.server.nextConn) :
    (newlySent w.server.trace s.trace = none ∧ w.heard s c = some r) ∨
      ∃ c' id, newlySent w.server.trace s.trace = some (c', id) ∧
        w.heard s c = some (if c = c' then r.hear id else r) := by
  unfold PrintWorld.heard
  rw [if_neg fun h => absurd h.1 (not_le.mpr hc)]
  split
  · rename_i c' id hsent
    refine Or.inr ⟨c', id, hsent, ?_⟩
    rw [hr]
    split <;> rfl
  · rename_i hsent
    exact Or.inl ⟨hsent, hr⟩

lemma heard_stage {s : ServerWorld} (hr : w.receivers c = some r)
    (hc : c < w.server.nextConn) : ∃ r', w.heard s c = some r' ∧ r'.stage = r.stage := by
  rcases heard_of_lt (s := s) hr hc with ⟨-, heq⟩ | ⟨c', id, -, heq⟩
  · exact ⟨r, heq, rfl⟩
  · refine ⟨_, heq, ?_⟩
    split
    · exact hear_stage r id
    · rfl

/-- A receiver after a step of the server is new, or was there at the same stage. -/
lemma heard_cases {s : ServerWorld} (h : w.heard s c = some r') :
    (c < s.nextConn ∧ r'.stage = .listening ∧ r'.inbox = []) ∨
      ∃ r, w.receivers c = some r ∧ r'.stage = r.stage := by
  unfold PrintWorld.heard at h
  split at h
  · rename_i hc
    obtain ⟨k, -, rfl⟩ := Option.map_eq_some_iff.mp h
    exact Or.inl ⟨hc.2, rfl, rfl⟩
  · split at h
    · split at h
      · obtain ⟨r, hr, rfl⟩ := Option.map_eq_some_iff.mp h
        exact Or.inr ⟨r, hr, hear_stage r _⟩
      · exact Or.inr ⟨r', h, rfl⟩
    · exact Or.inr ⟨r', h, rfl⟩

lemma PrintWorld.Attended.follow {s : ServerWorld} (h : w.Attended)
    (hnext : w.server.nextConn ≤ s.nextConn) : (w.follow s).Attended := by
  refine h.of_receivers rfl rfl (fun c r' hr' => ?_) (fun c r' hr' => ?_)
    fun c r n hr hn => ?_
  · rcases heard_cases hr' with ⟨hc, -⟩ | ⟨r, hr, -⟩
    · exact hc
    · exact (h.fresh c r hr).trans_le hnext
  · rcases heard_cases hr' with ⟨-, hstage, -⟩ | hold
    · exact Or.inl (by rw [hstage]; rfl)
    · exact Or.inr hold
  · obtain ⟨r', hr', hstage⟩ := heard_stage (s := s) hr (h.fresh c r hr)
    exact Or.inl ⟨r', hr', hstage ▸ hn⟩

/-! ### One step -/

lemma task_of_stage {id : JobId} (h : r.stage = .downloading id ∨ r.stage = .downloaded id) :
    r.stage.task = none := by
  rcases h with h | h <;> rw [h] <;> rfl

lemma PrintWorld.Attended.start (h : w.Attended) (hr : w.receivers c = some r)
    (hstage : r.stage = .downloaded id) {machineId : String} :
    (((w.setStage c r (.printing id w.tasks.length)).addTask
      { machineId := machineId, jobId := id, pages := 0, stage := .rendering,
        cancelled := false, accepted := false }).remember .started w.tasks.length id).Attended := by
  generalize hnew : PrintTask.mk machineId id 0 .rendering false false = t₀
  have hget : ∀ (m : ℕ) (t : PrintTask), (w.tasks ++ [t₀])[m]? = some t →
      w.tasks[m]? = some t ∨ (m = w.tasks.length ∧ t = t₀) := by
    intro m t ht
    rw [List.getElem?_append] at ht
    split at ht
    · exact Or.inl ht
    · rename_i hm
      obtain ⟨hlt, heq⟩ := List.getElem?_eq_some_iff.mp ht
      have hlen : m - w.tasks.length = 0 := by simpa using hlt
      exact Or.inr ⟨by omega, by simpa [hlen] using heq.symm⟩
  have hold : ∀ {m : ℕ} {t : PrintTask}, w.tasks[m]? = some t → (w.tasks ++ [t₀])[m]? = some t := by
    intro m t ht
    rw [List.getElem?_append_left (List.getElem?_eq_some_iff.mp ht).1]
    exact ht
  have hlast : (w.tasks ++ [t₀])[w.tasks.length]? = some t₀ := by simp
  have hunknown : ∀ event id', ¬ w.did event w.tasks.length id' := by
    intro event id' hdid
    obtain ⟨t, ht, -⟩ := h.events _ hdid
    exact absurd (List.getElem?_eq_some_iff.mp ht).1 (lt_irrefl _)
  refine ⟨fun c' r₁ hr₁ => ?_, fun m t ht => ?_, fun ev hev => ?_, fun c' r₁ m hr₁ hm => ?_,
    fun c' r₁ id' m t hr₁ hs ht => ?_, fun m t ht hp => ?_⟩
  · change (w.setReceiver c _).receivers c' = some r₁ at hr₁
    rw [receivers_set] at hr₁
    split at hr₁
    · rename_i hc
      exact hc ▸ h.fresh c r hr
    · exact h.fresh c' r₁ hr₁
  · have hdid : ∀ event, event ≠ .started → ∀ m id', (⟨event, m, id'⟩ : PrintEvent) ∈
        (⟨.started, w.tasks.length, id⟩ : PrintEvent) :: w.history ↔ w.did event m id' := by
      intro event hne m id'
      simp [PrintWorld.did, hne]
    have hsound : t.Sound (w.did .accepted m t.jobId) (w.did .verdict m t.jobId) := by
      rcases hget m t ht with hm | ⟨rfl, rfl⟩
      · exact h.sound m t hm
      · rw [← hnew]
        exact ⟨hunknown _ _, rfl⟩
    have hacc := hdid .accepted (by simp) m t.jobId
    have hver := hdid .verdict (by simp) m t.jobId
    change t.Sound (_ ∈ _ :: w.history) (_ ∈ _ :: w.history)
    rw [hacc, hver]
    exact hsound
  · rcases List.mem_cons.mp hev with rfl | hev
    · exact ⟨t₀, hlast, by rw [← hnew]⟩
    · obtain ⟨t, ht, hid⟩ := h.events ev hev
      exact ⟨t, hold ht, hid⟩
  · change (w.setReceiver c _).receivers c' = some r₁ at hr₁
    rw [receivers_set] at hr₁
    split at hr₁
    · obtain rfl := Option.some.inj hr₁
      obtain rfl := Option.some.inj hm
      exact ⟨t₀, hlast, by rw [← hnew]; rfl⟩
    · obtain ⟨t, ht, hid⟩ := h.runs c' r₁ m hr₁ hm
      exact ⟨t, hold ht, hid⟩
  · change (w.setReceiver c _).receivers c' = some r₁ at hr₁
    rw [receivers_set] at hr₁
    split at hr₁
    · obtain rfl := Option.some.inj hr₁
      cases hs
    · obtain ⟨t₁, ht₁, -⟩ := h.runs c' r₁ m hr₁ (by rw [hs]; rfl)
      obtain rfl : t₁ = t := Option.some.inj ((hold ht₁).symm.trans ht)
      exact h.cancelled c' r₁ id' m t₁ hr₁ hs ht₁
  · rcases hget m t ht with hm | ⟨rfl, -⟩
    · obtain ⟨c', r₁, hr₁, htask⟩ := h.attached m t hm hp
      have hc : c' ≠ c := by
        rintro rfl
        obtain rfl : r = r₁ := Option.some.inj (hr.symm.trans hr₁)
        rw [hstage] at htask
        cases htask
      refine ⟨c', r₁, ?_, htask⟩
      change (w.setReceiver c _).receivers c' = some r₁
      rw [receivers_set, if_neg hc]
      exact hr₁
    · refine ⟨c, { r with stage := .printing id w.tasks.length }, ?_, rfl⟩
      change (w.setReceiver c _).receivers c = _
      rw [receivers_set, if_pos rfl]

lemma PrintWorld.Attended.timeout (h : w.Attended) (hr : w.receivers c = some r)
    (hstage : r.stage = .printing id n) (ht : w.tasks[n]? = some t) :
    ((w.setStage c r (.timedOut id n)).setTask n { t with cancelled := true }).Attended := by
  have hget : ∀ (m : ℕ) (t' : PrintTask),
      (w.tasks.set n { t with cancelled := true })[m]? = some t' →
        ∃ t₀ : PrintTask, w.tasks[m]? = some t₀ ∧ t'.stage = t₀.stage ∧
          t'.accepted = t₀.accepted ∧ t'.jobId = t₀.jobId ∧
            (t'.cancelled = true ∨ t'.cancelled = t₀.cancelled) := by
    intro m t' ht'
    rw [tasks_set ht] at ht'
    split at ht'
    · rename_i hm
      obtain rfl := Option.some.inj ht'
      exact ⟨t, hm ▸ ht, rfl, rfl, rfl, Or.inl rfl⟩
    · exact ⟨t', ht', rfl, rfl, rfl, Or.inr rfl⟩
  have hset : ∀ (m : ℕ) (t₀ : PrintTask), w.tasks[m]? = some t₀ →
      ∃ t' : PrintTask, (w.tasks.set n { t with cancelled := true })[m]? = some t' ∧
        t'.jobId = t₀.jobId := by
    intro m t₀ ht₀
    rw [tasks_set ht]
    split
    · rename_i hm
      obtain rfl : t = t₀ := Option.some.inj (ht.symm.trans (hm ▸ ht₀))
      exact ⟨_, rfl, rfl⟩
    · exact ⟨t₀, ht₀, rfl⟩
  refine ⟨fun c' r₁ hr₁ => ?_, fun m t' ht' => ?_, fun ev hev => ?_, fun c' r₁ m hr₁ hm => ?_,
    fun c' r₁ id' m t' hr₁ hs ht' => ?_, fun m t' ht' hp => ?_⟩
  · change (w.setReceiver c _).receivers c' = some r₁ at hr₁
    rw [receivers_set] at hr₁
    split at hr₁
    · rename_i hc
      exact hc ▸ h.fresh c r hr
    · exact h.fresh c' r₁ hr₁
  · obtain ⟨t₀, ht₀, hsame, hflag, hid, -⟩ := hget m t' ht'
    have hsound := h.sound m t₀ ht₀
    unfold PrintTask.Sound at hsound ⊢
    rw [hsame, hflag, hid]
    exact hsound
  · obtain ⟨t₀, ht₀, hid⟩ := h.events ev hev
    obtain ⟨t', ht', hid'⟩ := hset _ t₀ ht₀
    exact ⟨t', ht', hid'.trans hid⟩
  · change (w.setReceiver c _).receivers c' = some r₁ at hr₁
    rw [receivers_set] at hr₁
    have hbefore : ∃ t₀ : PrintTask, w.tasks[m]? = some t₀ ∧ r₁.stage.job = some t₀.jobId := by
      split at hr₁
      · obtain rfl := Option.some.inj hr₁
        obtain rfl := Option.some.inj hm
        obtain ⟨t₀, ht₀, hid⟩ := h.runs c r n hr (by rw [hstage]; rfl)
        exact ⟨t₀, ht₀, by rw [hstage] at hid; exact hid⟩
      · exact h.runs c' r₁ m hr₁ hm
    obtain ⟨t₀, ht₀, hid⟩ := hbefore
    obtain ⟨t', ht', hid'⟩ := hset m t₀ ht₀
    exact ⟨t', ht', hid' ▸ hid⟩
  · change (w.setReceiver c _).receivers c' = some r₁ at hr₁
    rw [receivers_set] at hr₁
    obtain ⟨t₀, ht₀, -, -, -, hcancelled⟩ := hget m t' ht'
    split at hr₁
    · obtain rfl := Option.some.inj hr₁
      obtain ⟨rfl, rfl⟩ := ReceiverStage.timedOut.inj hs
      change (w.tasks.set n _)[n]? = some t' at ht'
      rw [tasks_set ht, if_pos rfl] at ht'
      rw [← Option.some.inj ht']
    · rcases hcancelled with hcancelled | hcancelled
      · exact hcancelled
      · rw [hcancelled]
        exact h.cancelled c' r₁ id' m t₀ hr₁ hs ht₀
  · obtain ⟨t₀, ht₀, hsame, -, -, hcancelled⟩ := hget m t' ht'
    have hp₀ : t₀.stage.progress = .first ∨
        (t₀.stage.progress = .untouched ∧ t₀.cancelled = false) := by
      rw [hsame] at hp
      refine hp.imp_right fun ⟨hu, hfalse⟩ => ⟨hu, ?_⟩
      rcases hcancelled with hcancelled | hcancelled
      · rw [hcancelled] at hfalse
        cases hfalse
      · rw [← hcancelled]
        exact hfalse
    obtain ⟨c', r₁, hr₁, htask⟩ := h.attached m t₀ ht₀ hp₀
    by_cases hc : c' = c
    · subst hc
      obtain rfl : r = r₁ := Option.some.inj (hr.symm.trans hr₁)
      rw [hstage] at htask
      obtain rfl := Option.some.inj htask
      refine ⟨c', { r with stage := .timedOut id n }, ?_, rfl⟩
      change (w.setReceiver c' _).receivers c' = _
      rw [receivers_set, if_pos rfl]
    · refine ⟨c', r₁, ?_, htask⟩
      change (w.setReceiver c _).receivers c' = some r₁
      rw [receivers_set, if_neg hc]
      exact hr₁

/-- A task that may send the first page after a step might before it, and was not cancelled. -/
lemma attached_of_steps (hs : t.Steps outcome event t')
    (hp : t'.stage.progress = .first ∨ (t'.stage.progress = .untouched ∧ t'.cancelled = false)) :
    t.stage.progress = .first ∨ (t.stage.progress = .untouched ∧ t.cancelled = false) := by
  have hpast : t'.stage.progress ≠ .past ∧ t'.stage.progress ≠ .ended ∧
      t'.stage.progress ≠ .answered := by
    rcases hp with hp | ⟨hp, -⟩ <;> simp [hp]
  have hended : ∀ i result, t' = t.failPage i result → False := by
    rintro i result rfl
    exact hpast.2.1 rfl
  cases hs with
  | rendered pages hstage =>
    rw [hstage]
    refine Or.inr ⟨rfl, ?_⟩
    rcases hp with hp | ⟨-, hfalse⟩
    · rcases progress_atPage_zero { t with pages := pages } with hu | hu
      · rw [hu] at hp
        cases hp
      · rw [hu] at hp
        cases hp
    · rw [(PrintTask.same_atPage { t with pages := pages } 0).cancelled] at hfalse
      exact hfalse
  | notRendered detail hstage => exact absurd rfl hpast.2.1
  | checked i hstage =>
    rw [hstage]
    unfold PrintTask.checkCancel at hp hended
    split at hp
    · rename_i hcancelled
      rw [if_pos hcancelled] at hended
      exact (hended _ _ rfl).elim
    · rename_i hcancelled
      rcases Nat.eq_zero_or_pos i with rfl | hi
      · exact Or.inr ⟨rfl, eq_false_of_ne_true hcancelled⟩
      · simp [TaskStage.progress, hi.ne'] at hp
  | posted i hstage =>
    rw [hstage]
    exact hp
  | notSent i detail hstage => exact (hended _ _ rfl).elim
  | accepted i printerJobId hstage =>
    rcases Nat.eq_zero_or_pos i with rfl | hi
    · exact absurd rfl hpast.2.2
    · simp [TaskStage.progress, hi.ne'] at hp
  | recorded i printerJobId hstage => exact absurd rfl hpast.1
  | polls i printerJobId hstage => exact absurd rfl hpast.1
  | noClient i printerJobId detail hstage => exact (hended _ _ rfl).elim
  | printed i printerJobId hstage =>
    rcases progress_atPage_succ t i with hu | hu
    · exact absurd hu hpast.1
    · exact absurd (by rw [hu]; rfl) hpast.2.1
  | canceled i printerJobId evidence hstage => exact (hended _ _ rfl).elim
  | lost i printerJobId why hstage => exact (hended _ _ rfl).elim

lemma PrintWorld.Attended.runTask (h : w.Attended) (ht : w.tasks[n]? = some t)
    (hs : t.Steps outcome event t')
    (hpoll : ∀ detail printerJobId, outcome = .fails detail →
      t.stage ≠ .acknowledged 0 printerJobId) :
    ({ w.setTask n t' with
        history := (event.map fun event => ⟨event, n, t.jobId⟩).toList ++ w.history } :
      PrintWorld).Attended := by
  have hid := hs.same.jobId
  have hcases : ∀ (m : ℕ) (t₁ : PrintTask), (w.tasks.set n t')[m]? = some t₁ →
      (m = n ∧ t₁ = t') ∨ (m ≠ n ∧ w.tasks[m]? = some t₁) := by
    intro m t₁ ht₁
    rw [tasks_set ht] at ht₁
    split at ht₁
    · rename_i hm
      exact Or.inl ⟨hm, (Option.some.inj ht₁).symm⟩
    · rename_i hm
      exact Or.inr ⟨hm, ht₁⟩
  have hset : ∀ (m : ℕ) (t₀ : PrintTask), w.tasks[m]? = some t₀ →
      ∃ t₁ : PrintTask, (w.tasks.set n t')[m]? = some t₁ ∧ t₁.jobId = t₀.jobId := by
    intro m t₀ ht₀
    rw [tasks_set ht]
    split
    · rename_i hm
      obtain rfl : t = t₀ := Option.some.inj (ht.symm.trans (hm ▸ ht₀))
      exact ⟨t', rfl, hid⟩
    · exact ⟨t₀, ht₀, rfl⟩
  refine ⟨h.fresh, fun m t₁ ht₁ => ?_, fun ev hev => ?_, fun c r m hr hm => ?_,
    fun c r id' m t₁ hr hstage ht₁ => ?_, fun m t₁ ht₁ hp => ?_⟩
  · rcases hcases m t₁ ht₁ with ⟨rfl, rfl⟩ | ⟨hm, ht₁⟩
    · have hsound := (h.sound m t ht).steps hs hpoll
      have hdid : ∀ event', (⟨event', m, t.jobId⟩ : PrintEvent) ∈
          (event.map fun event => ⟨event, m, t.jobId⟩).toList ++ w.history ↔
            w.did event' m t.jobId ∨ event = some event' := by
        intro event'
        simp only [PrintWorld.did, List.mem_append, Option.mem_toList, Option.map_eq_some_iff,
          PrintEvent.mk.injEq, and_true, exists_eq_right]
        exact or_comm
      unfold PrintWorld.did at hdid hsound ⊢
      simpa only [hid, hdid] using hsound
    · have hdid : ∀ event', (⟨event', m, t₁.jobId⟩ : PrintEvent) ∈
          (event.map fun event => ⟨event, n, t.jobId⟩).toList ++ w.history ↔
            w.did event' m t₁.jobId := by
        intro event'
        simp [PrintWorld.did, Ne.symm hm]
      have hsound := h.sound m t₁ ht₁
      unfold PrintWorld.did at hdid hsound ⊢
      simpa only [hdid] using hsound
  · have hbefore : ∃ t₀, w.tasks[ev.task]? = some t₀ ∧ t₀.jobId = ev.jobId := by
      rcases List.mem_append.mp hev with hev | hev
      · obtain ⟨event', -, rfl⟩ := Option.map_eq_some_iff.mp (Option.mem_toList.mp hev)
        exact ⟨t, ht, rfl⟩
      · exact h.events ev hev
    obtain ⟨t₀, ht₀, hid₀⟩ := hbefore
    obtain ⟨t₁, ht₁, hid₁⟩ := hset _ t₀ ht₀
    exact ⟨t₁, ht₁, hid₁.trans hid₀⟩
  · obtain ⟨t₀, ht₀, hjob⟩ := h.runs c r m hr hm
    obtain ⟨t₁, ht₁, hid₁⟩ := hset m t₀ ht₀
    exact ⟨t₁, ht₁, hid₁ ▸ hjob⟩
  · rcases hcases m t₁ ht₁ with ⟨rfl, rfl⟩ | ⟨hm, ht₁⟩
    · rw [hs.same.cancelled]
      exact h.cancelled c r id' m t hr hstage ht
    · exact h.cancelled c r id' m t₁ hr hstage ht₁
  · rcases hcases m t₁ ht₁ with ⟨rfl, rfl⟩ | ⟨hm, ht₁⟩
    · exact h.attached m t ht (attached_of_steps hs hp)
    · exact h.attached m t₁ ht₁ hp

lemma PrintWorld.Attended.move (h : w.Attended) (hm : PrintWorld.Move cfg timeoutSecs w e w')
    (hlaw : inTurn w e w') : w'.Attended := by
  cases hm with
  | server e s hs => exact h.follow (nextConn_le (Server.move_of_step hs))
  | received c r hr id rest hstage hinbox =>
    refine h.setReceiver hr rfl fun n hn => ?_
    rw [hstage] at hn
    cases hn
  | hungUp c r hr hstage =>
    refine h.setReceiver hr rfl fun n hn => ?_
    rw [hstage] at hn
    cases hn
  | goesOn c r hr step id stage hstage hstage' =>
    refine h.setReceiver hr ?_ fun n hn => ?_
    · rcases hstage' with rfl | ⟨report, rfl⟩ <;> rfl
    · rw [task_of_stage hstage] at hn
      cases hn
  | started c r hr id hstage => exact h.start hr hstage
  | finished c r hr id n hstage t ht result hresult =>
    refine h.setReceiver hr rfl fun m hm t₁ ht₁ => ?_
    rw [hstage] at hm
    obtain rfl := Option.some.inj hm
    obtain rfl : t = t₁ := Option.some.inj (ht.symm.trans ht₁)
    simp [hresult, TaskStage.progress]
  | timedOut c r hr id n hstage t ht => exact h.timeout hr hstage ht
  | decided c r hr id n hstage t ht =>
    refine h.setReceiver hr rfl fun m hm t₁ ht₁ => ?_
    rw [hstage] at hm
    obtain rfl := Option.some.inj hm
    obtain ⟨hfirst, -⟩ := hlaw.decide c r id n t₁ rfl hr hstage ht₁
    exact ⟨hfirst, fun _ => h.cancelled c r id n t₁ hr hstage ht₁⟩
  | reported c r hr id report hstage arrives =>
    have hset : (w.setReceiver c { r with stage := .listening }).Attended := by
      refine h.setReceiver hr rfl fun n hn => ?_
      rw [hstage] at hn
      cases hn
    have hnext : (w.server.completeJob (r.completion id report)).nextConn = w.server.nextConn := by
      have hle : (w.server.completeJob (r.completion id report)).flow.nextConn =
          w.server.flow.nextConn := nextConn_complete (move_complete cfg _)
      exact hle
    refine ⟨fun c' r' hr' => ?_, hset.sound, hset.events, hset.runs, hset.cancelled,
      hset.attached⟩
    have hlt := hset.fresh c' r' hr'
    unfold PrintWorld.reportTo
    cases arrives
    · exact hlt
    · exact hlt.trans_eq hnext.symm
  | task n t t' ht outcome event hs =>
    exact h.runTask ht hs fun detail printerJobId ho =>
      hlaw.poll n t printerJobId detail (by rw [ho]) ht

end Print

end DevBridge

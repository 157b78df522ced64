import DevBridge.Lib.Tokens
import DevBridge.Print.World
import DevBridge.Server.Streamed

/-!
# Where the copies of a job id are, clients included

A copy of a job id is on its way to its routing, in the default queue, on a stream, or with the
client of a stream: in its inbox or in the hands of its receiver.  A copy on a stream whose
client is gone is lost, except one that a drain has selected, since that is delivered to the
current stream of the client.  Each move of the server passes copies on or drops some, and only
a push, a requeue, the selection of a drain and a restart make new ones.
-/

namespace DevBridge

namespace Print

open Server

variable {cfg : JobsConfig} {f f' : Flow} {e : ServerStep} {id : JobId} {c : ConnId}
  {l l' : Line} {clients clients' : ConnId → ℕ}

/-! ### Counting -/

inductive Place where
  | pending
  | route
  | line (c : ConnId)
  | client (c : ConnId)
deriving DecidableEq

/-- The copies that a drain has selected. -/
def drained (l : Line) (id : JobId) : ℕ :=
  match l.stage with
  | .draining ids => ids.count id
  | _ => 0

/-- The copies that may come from this stream to a client. -/
def live (l : Line) (id : JobId) : ℕ := if l.connected then l.copies id else drained l id

/-- The copies of the id at a place, if the clients have as many as given. -/
def placed (f : Flow) (clients : ConnId → ℕ) (id : JobId) : Place → ℕ
  | .pending => f.pending.count id
  | .route => f.routings id
  | .line c => (f.lines c).elim 0 (live · id)
  | .client c => clients c

lemma drained_le (l : Line) (id : JobId) : drained l id ≤ l.copies id := by
  unfold drained Line.copies
  split
  · rename_i ids hstage
    simp [hstage, Stage.copies]
  · exact Nat.zero_le _

lemma live_le (l : Line) (id : JobId) : live l id ≤ l.copies id := by
  unfold live
  split
  · exact le_rfl
  · exact drained_le l id

/-- A stream at a stage without a selection. -/
lemma live_eq (h : ∀ ids, l.stage ≠ .draining ids) :
    live l id = if l.connected then l.copies id else 0 := by
  unfold live drained
  split
  · rfl
  · split
    · rename_i ids hstage
      exact absurd hstage (h ids)
    · rfl

lemma placed_line (hl : f.lines c = some l) : placed f clients id (.line c) = live l id := by
  simp [placed, hl]

lemma placed_setLine_of_ne {p : Place} (hp : p ≠ .line c) :
    placed (f.setLine c l') clients id p = placed f clients id p := by
  cases p with
  | line c' =>
    have hne : c' ≠ c := fun h => hp (by rw [h])
    simp [placed, Function.update_of_ne hne]
  | _ => rfl

lemma placed_setLine_self : placed (f.setLine c l') clients id (.line c) = live l' id := by
  simp [placed]

/-- One stream loses copies. -/
lemma placed_setLine_le (hl : f.lines c = some l) (h : live l' id ≤ live l id) (p : Place) :
    placed (f.setLine c l') clients id p ≤ placed f clients id p := by
  by_cases hp : p = .line c
  · rw [hp, placed_setLine_self, placed_line hl]
    exact h
  · rw [placed_setLine_of_ne hp]

/-- Nothing but the counts of the clients and the places of the flow matters. -/
lemma placed_le (hpending : f'.pending.count id ≤ f.pending.count id)
    (hroutes : f'.routings id ≤ f.routings id) (hlines : f'.lines = f.lines)
    (hclients : ∀ c, clients' c ≤ clients c) (p : Place) :
    placed f' clients' id p ≤ placed f clients id p := by
  cases p with
  | pending => exact hpending
  | route => exact hroutes
  | line c => simp [placed, hlines]
  | client c => exact hclients c

/-- A delivery to a stream. -/
lemma live_deliver (l : Line) (ids : List JobId) (id : JobId) :
    live { l with channel := l.channel ++ ids } id ≤ live l id + ids.count id := by
  unfold live drained Line.copies
  simp only [List.count_append]
  split
  · omega
  · exact Nat.le_add_right _ _

/-! ### What a step puts on a stream -/

lemma newlySent_self (t : List ServerEvent) : newlySent t t = none := by
  cases t with
  | nil => rfl
  | cons event t => cases event <;> simp [newlySent]

lemma newlySent_sent (t : List ServerEvent) (c : ConnId) (id : JobId)
    (state : Option Server.JobState) :
    newlySent t (.sent c id state :: t) = some (c, id) := by
  simp [newlySent]

/-! ### What becomes of the copies of a job -/

/-- Where a step of the server makes a copy of the id, and why. -/
inductive Cause (f f' : Flow) (id : JobId) : Place → Prop where
  | pushed (h : id = f.nextJob) : Cause f f' id .route
  | requeued (row : JobRow) (hrow : f.jobs.get? id = some row) (h : row.requeueable)
      (htrace : f'.trace = .queued id false :: f.trace) : Cause f f' id .route
  | selected (c : ConnId) (l l' : Line) (ids : List JobId) (hl : f.lines c = some l)
      (hl' : f'.lines c = some l') (hstage : l.stage = .opening)
      (hstage' : l'.stage = .draining ids) (hid : id ∈ ids)
      (hqueued : id ∈ f.jobs.queuedFor l.machineId) : Cause f f' id (.line c)

/-- What a step of the server does to the copies of a job. -/
inductive Effect (f f' : Flow) (e : ServerStep) (id : JobId) (clients clients' : ConnId → ℕ) :
    Prop where
  | moved (h : Tokens.Moved (placed f clients id) (placed f' clients' id))
  | made (q : Place) (cause : Cause f f' id q)
      (h : Tokens.Made (placed f clients id) (placed f' clients' id) q)
  /-- The new process knows of the queued jobs without target alone. -/
  | restarted (he : e = .restart) (hf : f' = f.restarted) (h : ∀ c, clients' c ≤ clients c)

/-- The clients have no more copies than before. -/
lemma Effect.fewer (h : ∀ p, placed f' clients id p ≤ placed f clients id p)
    (hclients : ∀ c, clients' c ≤ clients c) : Effect f f' e id clients clients' := by
  refine .moved (.fewer fun p => ?_)
  cases p with
  | client c => exact hclients c
  | pending => exact h .pending
  | route => exact h .route
  | line c => exact h (.line c)

section Queueing

variable {id₀ : JobId} {target : Option String}

lemma routings_cons (hroutes : f'.routes = (id₀, target) ::ₘ f.routes) (id : JobId) :
    f'.routings id = f.routings id + if id = id₀ then 1 else 0 := by
  rw [Flow.routings, hroutes, Multiset.map_cons, Multiset.count_cons]
  rfl

/-- A push or a requeue adds a routing. -/
lemma Effect.queued (hroutes : f'.routes = (id₀, target) ::ₘ f.routes)
    (hpending : f'.pending = f.pending) (hlines : f'.lines = f.lines)
    (hclients : ∀ c, clients' c ≤ clients c) (cause : id = id₀ → Cause f f' id .route) :
    Effect f f' e id clients clients' := by
  have hcount := routings_cons hroutes id
  by_cases hid : id = id₀
  · rw [if_pos hid] at hcount
    refine .made .route (cause hid) ⟨hcount.le, fun r hr => ?_⟩
    cases r with
    | route => exact absurd rfl hr
    | pending => simp [placed, hpending]
    | line c => simp [placed, hlines]
    | client c => exact hclients c
  · rw [if_neg hid] at hcount
    exact .moved (.fewer (placed_le (by rw [hpending]) hcount.le hlines hclients))

end Queueing

/-- A routing is carried out: the copy goes to the default queue or to a stream, or is lost. -/
lemma Effect.routed {id₀ : JobId} {target : Option String}
    {routes : Multiset (JobId × Option String)} (hroutes : f.routes = (id₀, target) ::ₘ routes)
    (hclients : ∀ c, clients' c ≤ clients c) :
    Effect f ((f.withRoutes routes).routed id₀ target) e id clients clients' := by
  have hcount : f.routings id = (f.withRoutes routes).routings id + if id = id₀ then 1 else 0 :=
    routings_cons (f := f.withRoutes routes) hroutes id
  have hroutings : ((f.withRoutes routes).routed id₀ target).routings id =
      (f.withRoutes routes).routings id := by simp [Flow.routings]
  have hone : [id₀].count id = if id = id₀ then 1 else 0 := by
    simp only [List.count_singleton, beq_iff_eq, eq_comm (a := id)]
  cases target with
  | none =>
    have hpending : ((f.withRoutes routes).routed id₀ none).pending.count id =
        f.pending.count id + if id = id₀ then 1 else 0 := by
      simp only [Flow.routed, List.count_append, Flow.withRoutes_pending, hone]
    rw [← hroutings] at hcount
    refine .moved (.passed .route .pending (if id = id₀ then 1 else 0) (by simp) hcount.ge
      hpending.le fun r hr => ?_)
    · cases r with
      | pending => exact absurd rfl hr
      | route => exact (Nat.le_add_right _ _).trans hcount.ge
      | line c => exact le_rfl
      | client c => exact hclients c
  | some client =>
    simp only [Flow.routed] at hroutings ⊢
    rcases (f.withRoutes routes).deliverTo_cases client [id₀] with heq | ⟨c, l, -, hl, -, heq⟩
    · rw [heq]
      refine .moved (.fewer (placed_le le_rfl ?_ rfl hclients))
      omega
    · rw [heq]
      refine .moved (.passed .route (.line c) (if id = id₀ then 1 else 0) (by simp) ?_ ?_ ?_)
      · exact hcount.ge
      · rw [placed_setLine_self, placed_line (show f.lines c = some l from hl), ← hone]
        exact live_deliver l [id₀] id
      · intro r hr
        cases r with
        | line c' =>
          rw [placed_setLine_of_ne hr]
          exact le_rfl
        | route => exact (Nat.le_add_right _ _).trans hcount.ge
        | pending => exact le_rfl
        | client c' => exact hclients c'

/-- A drain delivers its selection to the current stream of the client. -/
lemma Effect.drained (hl : f.lines c = some l) {ids : List JobId} (hstage : l.stage = .draining ids)
    (hclients : ∀ c, clients' c ≤ clients c) :
    Effect f ((f.setLine c { l with stage := .running none }).deliverTo l.machineId ids) e id
      clients clients' := by
  have hrest : live { l with stage := .running none } id + ids.count id ≤ live l id := by
    unfold live Print.drained Line.copies
    simp only [hstage, Stage.copies]
    split <;> omega
  generalize hset : f.setLine c { l with stage := .running none } = g
  have hself : placed g clients id (.line c) = live { l with stage := .running none } id := by
    rw [← hset, placed_setLine_self]
  have hother : ∀ p, p ≠ .line c → placed g clients id p = placed f clients id p := by
    intro p hp
    rw [← hset, placed_setLine_of_ne hp]
  have hle : ∀ p, placed g clients id p ≤ placed f clients id p := by
    intro p
    by_cases hp : p = .line c
    · rw [hp, hself, placed_line hl]
      omega
    · exact (hother p hp).le
  rcases g.deliverTo_cases l.machineId ids with heq | ⟨c₁, l₁, -, hl₁, -, heq⟩
  · rw [heq]
    exact .fewer hle hclients
  · rw [heq]
    have hdeliver := live_deliver l₁ ids id
    by_cases hc : c₁ = c
    · -- The stream is its own current one.
      subst hc
      have hl₁' : l₁ = { l with stage := .running none } := by
        rw [← hset, Flow.setLine_lines, Function.update_self] at hl₁
        exact (Option.some.inj hl₁).symm
      refine .fewer (fun p => ?_) hclients
      by_cases hp : p = .line c₁
      · rw [hp, placed_setLine_self, placed_line hl]
        rw [hl₁'] at hdeliver ⊢
        exact hdeliver.trans hrest
      · rw [placed_setLine_of_ne hp]
        exact hle p
    · refine .moved (.passed (.line c) (.line c₁) (ids.count id) (by simp [Ne.symm hc]) ?_ ?_ ?_)
      · have hne : Place.line c ≠ .line c₁ := by simp [Ne.symm hc]
        have hkept : placed (g.setLine c₁ { l₁ with channel := l₁.channel ++ ids }) clients' id
            (.line c) = placed g clients id (.line c) := placed_setLine_of_ne hne
        rw [hkept, hself, placed_line hl]
        exact hrest
      · have hline : placed f clients id (.line c₁) = live l₁ id := by
          rw [← hother _ (by simp [hc]), placed_line hl₁]
        rw [placed_setLine_self, hline]
        exact hdeliver
      · intro r hr
        cases r with
        | line c₂ =>
          have hkept : placed (g.setLine c₁ { l₁ with channel := l₁.channel ++ ids }) clients' id
              (.line c₂) = placed g clients id (.line c₂) := placed_setLine_of_ne hr
          rw [hkept]
          exact hle _
        | route => exact hle .route
        | pending => exact hle .pending
        | client c₂ => exact hclients c₂

/-- One stream changes at a step that makes no copies. -/
lemma Effect.setLine (hl : f.lines c = some l) (h : live l' id ≤ live l id)
    (hclients : ∀ c, clients' c ≤ clients c) : Effect f (f.setLine c l') e id clients clients' :=
  .fewer (placed_setLine_le hl h) hclients

/-- The selection of a drain copies the ids that are queued for the client. -/
lemma Effect.selected (hl : f.lines c = some l) (hstage : l.stage = .opening)
    (hclients : ∀ c, clients' c ≤ clients c) :
    Effect f (f.setLine c { l with stage := .draining (f.jobs.queuedFor l.machineId) }) e id
      clients clients' := by
  generalize hids : f.jobs.queuedFor l.machineId = ids
  have hlive : live { l with stage := .draining ids } id ≤ live l id + ids.count id := by
    unfold live Print.drained Line.copies
    simp only [hstage, Stage.copies]
    split <;> omega
  by_cases hid : id ∈ ids
  · have hone : ids.count id = 1 := by
      rw [← hids] at hid ⊢
      exact List.count_eq_one_of_mem (queuedFor_nodup _ _) hid
    refine .made (.line c) (.selected c l { l with stage := .draining ids } ids hl
      (Function.update_self ..) hstage rfl hid (hids ▸ hid)) ⟨?_, fun r hr => ?_⟩
    · rw [placed_setLine_self, placed_line hl, ← hone]
      exact hlive
    · cases r with
      | client c => exact hclients c
      | pending => exact le_rfl
      | route => exact le_rfl
      | line c' =>
        exact (placed_setLine_of_ne hr).le
  · rw [List.count_eq_zero.mpr hid] at hlive
    exact .setLine hl hlive hclients

/-- Each move of the server passes copies on, drops some, or makes one for a cause.  The
clients have those that were put on their streams. -/
lemma effect_of_move (hm : Flow.Move cfg f e f')
    (hclients : ∀ c, clients' c ≤
      clients c + if newlySent f.trace f'.trace = some (c, id) then 1 else 0) :
    Effect f f' e id clients clients' := by
  have hsame : newlySent f.trace f'.trace = none → ∀ c, clients' c ≤ clients c := by
    intro hnone c
    have hle := hclients c
    rw [hnone] at hle
    simpa using hle
  cases hm
  case quiet => exact .fewer (fun _ => le_rfl) (hsame (newlySent_self _))
  case pushed job row _ _ =>
    exact .queued rfl rfl rfl (hsame rfl) fun hid => .pushed hid
  case requeued id₀ row target now detail retries hrow hreq _ _ =>
    refine .queued rfl rfl rfl (hsame rfl) ?_
    rintro rfl
    exact .requeued row hrow hreq rfl
  case retry => exact .fewer (fun _ => le_rfl) (hsame (newlySent_self _))
  case retryFailed => exact .fewer (fun _ => le_rfl) (hsame (newlySent_self _))
  case routed place id₀ target routes hroutes =>
    refine .routed hroutes (hsame ?_)
    rw [Flow.routed_trace]
    exact newlySent_self _
  case opened place machineId =>
    refine .fewer (fun p => ?_) (hsame (newlySent_self _))
    cases p with
    | line c' =>
      by_cases hc : c' = f.nextConn
      · simp [placed, hc, live, drained, Line.copies, Stage.copies]
      · simp [placed, Function.update_of_ne hc]
    | _ => exact le_rfl
  case selected c l hl hstage =>
    exact .selected hl hstage (hsame (newlySent_self _))
  case undrained c l hl hstage =>
    refine .setLine hl ?_ (hsame (newlySent_self _))
    rw [live_eq (by simp), live_eq (by simp [hstage])]
    simp [Line.copies, hstage, Stage.copies]
  case drained c l hl ids hstage =>
    refine .drained hl hstage (hsame ?_)
    rw [Flow.deliverTo_trace]
    exact newlySent_self _
  case taken c l hl hstage id₀ rest hid₀ =>
    refine .setLine hl (le_of_eq ?_) (hsame (newlySent_self _))
    rw [live_eq (by simp), live_eq (by simp [hstage])]
    simp only [Line.copies, hstage, hid₀, Stage.copies, List.count_cons, beq_iff_eq]
    rfl
  case popped c l hl hstage id₀ rest hid₀ =>
    have hpending : f.pending.count id = rest.count id + if id₀ = id then 1 else 0 := by
      rw [hid₀, List.count_cons]
      simp only [beq_iff_eq]
    have hlive : live { l with stage := .running (some id₀) } id ≤
        live l id + if id₀ = id then 1 else 0 := by
      rw [live_eq (by simp), live_eq (by simp [hstage])]
      simp only [Line.copies, hstage, Stage.copies]
      split <;> omega
    refine .moved (.passed .pending (.line c) (if id₀ = id then 1 else 0) (by simp) hpending.ge
      ?_ fun r hr => ?_)
    · rw [placed_setLine_self, placed_line hl]
      exact hlive
    · cases r with
      | client c' => exact hsame (newlySent_self _) c'
      | pending => exact (Nat.le_add_right _ _).trans hpending.ge
      | route => exact le_rfl
      | line c' =>
        rw [placed_setLine_of_ne hr]
        exact le_rfl
  case dropped c l hl id₀ hstage hid₀ =>
    refine .setLine hl ?_ (hsame (newlySent_self _))
    rw [live_eq (by simp), live_eq (by simp [hstage])]
    simp only [Line.copies, hstage, Stage.copies]
    split <;> omega
  case unseen c l hl id₀ hstage =>
    refine .setLine hl ?_ (hsame (newlySent_self _))
    rw [live_eq (by simp), live_eq (by simp [hstage])]
    simp only [Line.copies, hstage, Stage.copies]
    split <;> omega
  case sent c l hl id₀ hstage hc =>
    have hlive : live { l with stage := .running none } id + (if id₀ = id then 1 else 0) ≤
        live l id := by
      rw [live_eq (by simp), live_eq (by simp [hstage])]
      simp only [hc, if_true, Line.copies, hstage, Stage.copies]
      omega
    have hsent : ∀ c', clients' c' ≤ clients c' + if c = c' ∧ id₀ = id then 1 else 0 := by
      intro c'
      have hle := hclients c'
      rw [Flow.remember_trace, Flow.setLine_trace, newlySent_sent] at hle
      simpa using hle
    have hline : ∀ p, (∀ c', p ≠ .client c') → ∀ event,
        placed ((f.setLine c { l with stage := .running none }).remember event) clients' id p =
          placed (f.setLine c { l with stage := .running none }) clients id p := by
      intro p hp event
      cases p with
      | client c' => exact absurd rfl (hp c')
      | _ => rfl
    refine .moved (.passed (.line c) (.client c) (if id₀ = id then 1 else 0) (by simp) ?_ ?_
      fun r hr => ?_)
    · rw [hline _ (by simp), placed_setLine_self, placed_line hl]
      exact hlive
    · have hle := hsent c
      simp only [true_and] at hle
      exact hle
    · cases r with
      | client c' =>
        have hle := hsent c'
        have hne : c ≠ c' := fun h => hr (by rw [h])
        simp only [hne, false_and, if_false] at hle
        exact hle
      | pending => exact le_rfl
      | route => exact le_rfl
      | line c' =>
        rw [hline _ (by simp)]
        exact placed_setLine_le hl (by omega) (.line c')
  case failed c l hl id₀ hstage hc =>
    refine .setLine hl ?_ (hsame (newlySent_self _))
    rw [live_eq (by simp), live_eq (by simp [hstage])]
    simp [hc]
  case unregistered => exact .fewer (fun _ => le_rfl) (hsame (newlySent_self _))
  case closed c l hl hstage _ =>
    refine .setLine hl ?_ (hsame (newlySent_self _))
    rw [live_eq (by simp), live_eq (by simp [hstage])]
    simp [Line.copies, hstage, Stage.copies]
  case disconnected c l hl =>
    refine .setLine hl ?_ (hsame (newlySent_self _))
    have hgone : live { l with connected := false } id = drained l id := by
      simp [live, drained]
    rw [hgone]
    unfold live
    split
    · exact drained_le l id
    · exact le_rfl
  case reopened => exact .fewer (fun _ => le_rfl) (hsame rfl)
  case wrote => exact .fewer (fun _ => le_rfl) (hsame (newlySent_self _))
  case leftFailed => exact .fewer (fun _ => le_rfl) (hsame rfl)
  case restarted => exact .restarted rfl rfl (hsame (newlySent_self _))

end Print

end DevBridge

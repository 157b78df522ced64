import DevBridge.Tim.LogStore

/-!
# Which log records are kept

What is due is looked for in the log of its day, and when there is no such log in the packed
one.  The invariant has a second part, about the pass that is under way: what it has copied
holds everything that is due of the log that it is about to remove.
-/

namespace DevBridge

namespace Tim

open Transition (free)

variable {cal : Calendar} {w w' : LogWorld} {e : LogStep} {day : Day}

/-! ### Steps -/

/-- A step that writes nothing and does nothing to the files. -/
structure LogRest (w w' : LogWorld) : Prop where
  dir : w'.dir = w.dir
  due : ∀ record ∈ w'.due, record ∈ w.due
  running : w'.running = w.running ∨ ∀ p, w'.running = some p → p.stage = .looking
  writing : w'.writing = w.writing ∧ w'.sink = w.sink ∨
    w'.writing = none ∧ ∀ opened, w'.sink ≠ some (some opened)

/-- The steps of the store. -/
inductive LogMove (cal : Calendar) (w : LogWorld) : LogStep → LogWorld → Prop where
  | rests (e : LogStep) (w' : LogWorld) (h : LogRest w w') : LogMove cal w e w'
  /-- The file of the day is open. -/
  | continues (today : Day) (line : List Char) (ok : Bool) (id : ℕ)
      (hsink : w.sink = some (some (today, id))) (hwriting : w.writing = none) :
      LogMove cal w (.publish today line ok) { w with writing := some (today, line) }
  | opens (today : Day) (line : List Char) (opened : Option (Day × ℕ))
      (hsink : w.sink = some opened) (hother : opened.map Prod.fst ≠ some today)
      (hday : cal.days today = true) (hwriting : w.writing = none) :
      LogMove cal w (.publish today line true)
        { w with
          dir := (w.dir.openAppend (fileName cal today)).1
          sink := some (some (today, (w.dir.openAppend (fileName cal today)).2))
          writing := some (today, line)
          waiting := (today, false) :: w.waiting }
  | writes (fault : Option ℕ) (day day' : Day) (line : List Char) (id : ℕ)
      (hwriting : w.writing = some (day, line)) (hsink : w.sink = some (some (day', id))) :
      LogMove cal w (.write fault) (w.write fault day line id)
  | passes (fault : Option ℕ) (p : Pass) (w' : LogWorld) (hrunning : w.running = some p)
      (h : PassMove cal (w.expire p.today) p w') : LogMove cal w (.pass fault) w'

lemma LogRest.refl : LogRest w w := ⟨rfl, fun _ h => h, Or.inl rfl, Or.inl ⟨rfl, rfl⟩⟩

/-- What is not due any more is dropped. -/
lemma due_of_expire {today : Day} {record : Day × List Char} (h : record ∈ (w.expire today).due) :
    record ∈ w.due ∧ today ≤ record.1 + retentionDays := by
  obtain ⟨hdue, htoday⟩ := List.mem_filter.mp h
  exact ⟨hdue, of_decide_eq_true htoday⟩

lemma LogMove.of_publish {today : Day} {line : List Char} {ok : Bool}
    (h : w.step cal (.publish today line ok) = some w') :
    LogMove cal w (.publish today line ok) w' := by
  simp only [LogWorld.step] at h
  rcases hwriting : w.writing with _ | ⟨day, line'⟩
  · rcases hsink : w.sink with _ | opened
    · rw [hwriting, hsink] at h
      obtain rfl := Option.some.inj h
      exact .rests _ _ .refl
    · simp only [hwriting, hsink] at h
      split at h
      next hday =>
        obtain rfl := Option.some.inj h
        unfold LogWorld.publish
        split
        next hopen =>
          obtain ⟨⟨day, id⟩, rfl, rfl⟩ := Option.map_eq_some_iff.mp hopen
          exact .continues _ _ _ id hsink hwriting
        next hother =>
          cases ok with
          | true => exact .opens _ _ opened hsink hother hday hwriting
          | false =>
            exact .rests _ _ ⟨rfl, fun _ h => h, Or.inl rfl,
              Or.inr ⟨hwriting, fun _ h => (nomatch h)⟩⟩
      next => cases h
  · simp only [hwriting] at h
    cases h

lemma LogMove.of_begin {place : ℕ} {names : Option (List FileName)}
    (h : w.step cal (.begin place names) = some w') : LogMove cal w (.begin place names) w' := by
  have hdue : ∀ today record, record ∈ (w.expire today).due → record ∈ w.due :=
    fun _ _ h => (due_of_expire h).1
  simp only [LogWorld.step] at h
  rcases hrunning : w.running with _ | p
  · rcases hwaiting : w.waiting[place]? with _ | ⟨today, installs⟩
    · simp only [hrunning, hwaiting] at h
      cases h
    · rcases names with _ | names
      · simp only [hrunning, hwaiting] at h
        obtain rfl := Option.some.inj h
        exact .rests _ _ ⟨rfl, hdue today, Or.inr fun _ h => (nomatch h), Or.inl ⟨rfl, rfl⟩⟩
      · simp only [hrunning, hwaiting] at h
        split at h
        · obtain rfl := Option.some.inj h
          refine .rests _ _ ⟨rfl, hdue today, Or.inr ?_, Or.inl ⟨rfl, rfl⟩⟩
          rintro _ ⟨⟩
          rfl
        · cases h
  · simp only [hrunning] at h
    cases h

lemma LogMove.of_step (h : w.step cal e = some w') : LogMove cal w e w' := by
  cases e with
  | install today ok =>
    simp only [LogWorld.step] at h
    obtain rfl := Option.some.inj h
    cases ok with
    | true => exact .rests _ _ ⟨rfl, fun _ h => h, Or.inl rfl, Or.inl ⟨rfl, rfl⟩⟩
    | false => exact .rests _ _ .refl
  | setSink =>
    simp only [LogWorld.step] at h
    split at h
    next hfree =>
      obtain rfl := Option.some.inj h
      exact .rests _ _ ⟨rfl, fun _ h => h, Or.inl rfl, Or.inr ⟨hfree.2, fun _ h => (nomatch h)⟩⟩
    next => cases h
  | publish today line ok => exact .of_publish h
  | write fault =>
    simp only [LogWorld.step] at h
    rcases hwriting : w.writing with _ | ⟨day, line⟩
    · simp only [hwriting] at h
      cases h
    · rcases hsink : w.sink with _ | _ | ⟨day', id⟩
      · simp only [hwriting, hsink] at h
        cases h
      · simp only [hwriting, hsink] at h
        cases h
      · simp only [hwriting, hsink] at h
        obtain rfl := Option.some.inj h
        exact .writes fault day day' line id hwriting hsink
  | begin place names => exact .of_begin h
  | pass fault =>
    simp only [LogWorld.step] at h
    obtain ⟨p, hrunning, rfl⟩ := Option.map_eq_some_iff.mp h
    exact .passes fault p _ hrunning passMove_of_run
  | crash =>
    simp only [LogWorld.step] at h
    obtain rfl := Option.some.inj h
    exact .rests _ _ ⟨rfl, fun _ h => h, Or.inr fun _ h => (nomatch h),
      Or.inr ⟨rfl, fun _ h => (nomatch h)⟩⟩

/-! ### Names and handles -/

lemma Pass.tidy_of_looking {p : Pass} (h : p.stage = .looking) : p.Tidy cal w.dir := by
  rw [Pass.Tidy, h]
  trivial

lemma LogWorld.Tidy.expire (h : w.Tidy cal) (today : Day) : (w.expire today).Tidy cal :=
  ⟨h.sound, h.sink, h.writing, h.running, fun record hr => h.due record (due_of_expire hr).1⟩

lemma LogWorld.Tidy.step (h : w.Tidy cal) (hstep : w.step cal e = some w') : w'.Tidy cal := by
  cases LogMove.of_step hstep with
  | rests _ _ hrest =>
    obtain ⟨hdir, hdue, hrunning, hwriting⟩ := hrest
    refine ⟨hdir ▸ h.sound, fun opened hs => ?_, fun day line hw => ?_, fun p hp => ?_,
      fun record hr => h.due record (hdue record hr)⟩
    · rcases hwriting with ⟨-, hsink⟩ | ⟨-, hsink⟩
      · exact hdir ▸ h.sink opened (hsink ▸ hs)
      · exact absurd hs (hsink opened)
    · rcases hwriting with ⟨hsame, hsink⟩ | ⟨hnone, -⟩
      · rw [hsink]
        exact h.writing day line (hsame ▸ hw)
      · rw [hnone] at hw
        cases hw
    · rcases hrunning with hrunning | hlook
      · exact hdir ▸ h.running p (hrunning ▸ hp)
      · exact Pass.tidy_of_looking (hlook p hp)
  | continues today line ok id hsink hwriting =>
    refine ⟨h.sound, h.sink, ?_, h.running, h.due⟩
    rintro _ _ ⟨⟩
    exact ⟨id, hsink⟩
  | opens today line opened hsink hother hday hwriting =>
    obtain ⟨hsound, hself, hnext, hentry, -, hnew⟩ :=
      Volume.openAppend_spec h.sound (fileName cal today)
    refine ⟨hsound, ?_, ?_, fun p hp => ?_, h.due⟩
    · rintro _ ⟨⟩
      exact ⟨hday, hsound.below _ _ hself, fun f hf => hsound.alone _ _ _ hf hself⟩
    · rintro _ _ ⟨⟩
      exact ⟨_, rfl⟩
    · refine (h.running p hp).mono fun f id hf => ?_
      rcases hnew with hsame | ⟨hnone, hmade⟩
      · rwa [hsame]
      · have hne : f ≠ fileName cal today := by
          rintro rfl
          rw [hnone] at hf
          cases hf
        exact (hentry f hne).trans hf
  | writes fault day day' line id hwriting hsink =>
    have hdue : ∀ record ∈ (day, line) :: w.due, cal.days record.1 = true := by
      rintro record (_ | ⟨_, hr⟩)
      · obtain ⟨id', hsink'⟩ := h.writing day line hwriting
        exact (h.sink _ hsink').1
      · exact h.due record hr
    cases fault with
    | none => exact ⟨h.sound.append, h.sink, fun _ _ hw => (nomatch hw), h.running, hdue⟩
    | some n => exact ⟨h.sound.append, h.sink, fun _ _ hw => (nomatch hw), h.running, h.due⟩
  | passes fault p _ hrunning hmove =>
    have hexpired := h.expire p.today
    have heffect := hmove.effect hexpired.sound (hexpired.running p hrunning)
    obtain ⟨hsink, hwriting, hdue⟩ := hmove.frame
    refine ⟨heffect.sound, fun opened hs => ?_, ?_, heffect.running, ?_⟩
    · exact (h.sink opened (hsink ▸ hs)).mono heffect.next heffect.entry
    · rw [hsink, hwriting]
      exact h.writing
    · rw [hdue]
      exact hexpired.due

/-! ### Records in time -/

/-- The log that is being packed, and the file that has the copy of it. -/
def Stage.copy : Stage → Option (FileName × FileName)
  | .copied name _ _ => some (name, tmpName name)
  | .synced name _ => some (name, tmpName name)
  | .renamed name _ => some (name, gzName name)
  | _ => none

/-- A record opens the log of its day. -/
def LogWorld.Opens (w : LogWorld) (today : Day) (ok : Bool) : Prop :=
  ok = true ∧ ∃ opened, w.sink = some opened ∧ opened.map Prod.fst ≠ some today

/-- A record is being written to an open file. -/
def LogWorld.Writes (w : LogWorld) (day : Day) (id : ℕ) : Prop :=
  (∃ line, w.writing = some (day, line)) ∧ w.sink = some (some (day, id))

/-- No record comes too late: no log is made anew when its day is packed already, and nothing is
written to a log that has been removed, or that has been copied and will be removed. -/
def LogWorld.InTime (cal : Calendar) : Transition.Law LogWorld LogStep := fun w e _ =>
  match e with
  | .publish today _ ok =>
    w.Opens today ok → w.dir.entry (fileName cal today) = none →
      w.dir.entry (gzName (fileName cal today)) = none
  | .write none =>
    ∀ day id, w.Writes day id → w.dir.entry (fileName cal day) = some id ∧
      ∀ p, w.running = some p → ∀ file, p.stage.copy ≠ some (fileName cal day, file)
  | _ => True

/-- Where the records of a day are looked for. -/
def place (cal : Calendar) (dir : Volume FileName Char) (day : Day) : FileName :=
  if (dir.text (fileName cal day)).isSome then fileName cal day else gzName (fileName cal day)

def Kept (cal : Calendar) (dir : Volume FileName Char) (record : Day × List Char) : Prop :=
  dir.Holds (place cal dir record.1) record.2

/-- The copy of a log that is being packed has the record. -/
def Copied (cal : Calendar) (w : LogWorld) (record : Day × List Char) : Prop :=
  ∀ p file, w.running = some p → p.stage.copy = some (fileName cal record.1, file) →
    w.dir.Holds file record.2

variable {dir dir' : Volume FileName Char} {record : Day × List Char} {p : Pass}

lemma place_eq_or (cal : Calendar) (dir : Volume FileName Char) (day : Day) :
    place cal dir day = fileName cal day ∨ place cal dir day = gzName (fileName cal day) := by
  unfold place
  split
  · exact Or.inl rfl
  · exact Or.inr rfl

/-- A log that is there has what is due. -/
lemma Kept.log {id : ℕ} (h : Kept cal dir record)
    (hentry : dir.entry (fileName cal record.1) = some id) :
    dir.Holds (fileName cal record.1) record.2 := by
  have hplace : place cal dir record.1 = fileName cal record.1 :=
    if_pos (by rw [Volume.text_of_entry hentry]; rfl)
  rwa [Kept, hplace] at h

/-- A packed log has what is due when there is no other. -/
lemma Kept.packed (h : Kept cal dir record) (hentry : dir.entry (fileName cal record.1) = none) :
    dir.Holds (gzName (fileName cal record.1)) record.2 := by
  have hplace : place cal dir record.1 = gzName (fileName cal record.1) :=
    if_neg (by rw [Volume.text_eq_none.mpr hentry]; decide)
  rwa [Kept, hplace] at h

lemma Kept.of_packed (h : dir.Holds (gzName (fileName cal record.1)) record.2)
    (hentry : dir.entry (fileName cal record.1) = none) : Kept cal dir record := by
  have hplace : place cal dir record.1 = gzName (fileName cal record.1) :=
    if_neg (by rw [Volume.text_eq_none.mpr hentry]; decide)
  rwa [Kept, hplace]

lemma Kept.of_log (h : dir.Holds (fileName cal record.1) record.2) : Kept cal dir record := by
  obtain ⟨text, htext, hline⟩ := h
  have hplace : place cal dir record.1 = fileName cal record.1 :=
    if_pos (by rw [htext]; rfl)
  rw [Kept, hplace]
  exact ⟨text, htext, hline⟩

lemma Kept.congr (h : Kept cal dir record)
    (hlog : dir'.text (fileName cal record.1) = dir.text (fileName cal record.1))
    (hgz : dir'.text (gzName (fileName cal record.1)) =
      dir.text (gzName (fileName cal record.1))) : Kept cal dir' record := by
  have hplace : place cal dir' record.1 = place cal dir record.1 := by rw [place, place, hlog]
  rw [Kept, hplace]
  refine Volume.Holds.congr h ?_
  rcases place_eq_or cal dir record.1 with heq | heq
  · rw [heq, hlog]
  · rw [heq, hgz]

lemma Kept.append {id : ℕ} {more : List Char} (h : Kept cal dir record) :
    Kept cal (dir.append id more) record := by
  rcases hentry : dir.entry (fileName cal record.1) with _ | id'
  · exact .of_packed (h.packed hentry).append hentry
  · exact .of_log (h.log hentry).append

/-! ### A pass and the records -/

/-- What is found of a record, and what a pass has copied of it. -/
def Secured (cal : Calendar) (w : LogWorld) (record : Day × List Char) : Prop :=
  Kept cal w.dir record ∧ Copied cal w record

/-- No copy is under way. -/
lemma copied_of_none (h : ∀ p, w.running = some p → p.stage.copy = none) : Copied cal w record := by
  intro p file hp hcopy
  rw [h p hp] at hcopy
  cases hcopy

/-- An operation of a pass loses nothing that is due: the log is removed when the copy of it has
its name, and a packed log only if it is too old. -/
lemma PassMove.secured (hsound : w.dir.Sound) (hp : p.Tidy cal w.dir)
    (hrunning : w.running = some p) (hday : cal.days record.1 = true)
    (htoday : p.today ≤ record.1 + retentionDays)
    (hrecord : Secured cal w record) (h : PassMove cal w p w') : Secured cal w' record := by
  obtain ⟨hkept, hcopied⟩ := hrecord
  have hlog := parse_fileName hday
  have hgz := parse_gzName hlog
  have hlog_tmp : ∀ name, fileName cal record.1 ≠ tmpName name := fun name =>
    ne_of_parse cal (by rw [hlog, parse_tmpName]; exact Option.some_ne_none _)
  have hgz_tmp : ∀ name, gzName (fileName cal record.1) ≠ tmpName name := fun name =>
    gzName_ne_tmpName
  cases h with
  | ended => exact ⟨hkept, copied_of_none (by rintro _ ⟨⟩)⟩
  | looks p' htoday hstage =>
    refine ⟨hkept, copied_of_none ?_⟩
    rintro _ ⟨⟩
    rcases hstage with hstage | ⟨gz, date, hstage, -⟩ <;> rw [hstage] <;> rfl
  | opens p' htoday name date input hstage hpast hentry =>
    refine ⟨hkept, copied_of_none ?_⟩
    rintro _ ⟨⟩
    rw [hstage]
    rfl
  | creates p' htoday name date input hstage₀ hstage =>
    refine ⟨hkept.congr (hsound.text_create_of_ne (hlog_tmp name))
      (hsound.text_create_of_ne (hgz_tmp name)), copied_of_none ?_⟩
    rintro _ ⟨⟩
    rw [hstage]
    rfl
  | copies p' htoday name date input tmp hstage₀ hstage =>
    rw [Pass.Tidy, hstage₀] at hp
    obtain ⟨-, hentry, htmp⟩ := hp
    refine ⟨hkept.append, ?_⟩
    rintro _ file ⟨⟩ hcopy
    rw [hstage] at hcopy
    obtain ⟨rfl, rfl⟩ := Prod.mk.inj (Option.some.inj hcopy)
    -- the log is there, so what is due is in what is copied
    have hline := (Volume.holds_of_entry hentry).mp (hkept.log hentry)
    exact (Volume.holds_append htmp).mono hline
  | breaks name date input tmp n hstage₀ =>
    exact ⟨hkept.append, copied_of_none (by rintro _ ⟨⟩)⟩
  | finishes p' htoday name date tmp hstage₀ hstage =>
    refine ⟨hkept, ?_⟩
    rintro _ file ⟨⟩ hcopy
    rw [hstage] at hcopy
    exact hcopied p file hrunning (by rw [hstage₀]; exact hcopy)
  | names p' htoday name date dir hstage₀ hdir hstage =>
    rw [Pass.Tidy, hstage₀] at hp
    obtain ⟨-, -, htarget, hother, hcontent, -⟩ :=
      Volume.rename_spec hsound gzName_ne_tmpName.symm hdir
    have hmoved : dir.text (gzName name) = w.dir.text (tmpName name) := by
      rw [Volume.text, Volume.text, htarget, hcontent]
    have hlog_gz : fileName cal record.1 ≠ gzName name :=
      ne_of_parse cal (by rw [hlog, parse_gzName hp.1]; simp)
    have hlogtext : dir.text (fileName cal record.1) = w.dir.text (fileName cal record.1) :=
      Volume.text_congr (hother _ (hlog_tmp name) hlog_gz) hcontent
    have hcopy : name = fileName cal record.1 → dir.Holds (gzName name) record.2 := fun hname =>
      (hcopied p (tmpName name) hrunning (by rw [hstage₀, hname]; rfl)).congr hmoved
    constructor
    · by_cases hname : name = fileName cal record.1
      · rcases hentry : dir.entry (fileName cal record.1) with _ | id
        · exact .of_packed (hname ▸ hcopy hname) hentry
        · have hold : w.dir.entry (fileName cal record.1) = some id :=
            (hother _ (hlog_tmp name) hlog_gz).symm.trans hentry
          exact .of_log ((hkept.log hold).congr hlogtext)
      · have hne : gzName (fileName cal record.1) ≠ gzName name :=
          fun h => hname (gzName_injective h).symm
        exact hkept.congr hlogtext (Volume.text_congr (hother _ (hgz_tmp name) hne) hcontent)
    · rintro _ file ⟨⟩ hfile
      rw [hstage] at hfile
      obtain ⟨hname, rfl⟩ := Prod.mk.inj (Option.some.inj hfile)
      exact hcopy hname
  | removes p' htoday name date dir hstage₀ hdir hstage =>
    rw [Pass.Tidy, hstage₀] at hp
    obtain ⟨-, hnone, hother, hcontent, -⟩ := Volume.remove_spec hsound hdir
    have hgz_name : gzName (fileName cal record.1) ≠ name :=
      ne_of_parse cal (by rw [hgz, hp.1]; simp)
    have hgztext : dir.text (gzName (fileName cal record.1)) =
        w.dir.text (gzName (fileName cal record.1)) :=
      Volume.text_congr (hother _ hgz_name) hcontent
    constructor
    · by_cases hname : name = fileName cal record.1
      · have hcopy := hcopied p (gzName name) hrunning (by rw [hstage₀, hname]; rfl)
        rw [hname] at hcopy hnone
        exact .of_packed (hcopy.congr hgztext) hnone
      · exact hkept.congr (Volume.text_congr (hother _ (Ne.symm hname)) hcontent) hgztext
    · refine copied_of_none ?_
      rintro _ ⟨⟩
      rw [hstage]
      rfl
  | deletes p' htoday' gz date dir hstage₀ hold hdir hstage =>
    rw [Pass.Tidy, hstage₀] at hp
    obtain ⟨-, -, hother, hcontent, -⟩ := Volume.remove_spec hsound hdir
    have hlog_gz : fileName cal record.1 ≠ gz := ne_of_parse cal (by rw [hlog, hp]; simp)
    have hgz_gz : gzName (fileName cal record.1) ≠ gz := by
      rintro rfl
      obtain ⟨rfl, -⟩ := Prod.mk.inj (Option.some.inj (hgz.symm.trans hp))
      -- a packed log that is deleted has nothing that is due
      exact absurd htoday (not_le.mpr (lt_sub_iff_add_lt.mp hold))
    refine ⟨hkept.congr (Volume.text_congr (hother _ hlog_gz) hcontent)
      (Volume.text_congr (hother _ hgz_gz) hcontent), copied_of_none ?_⟩
    rintro _ ⟨⟩
    rw [hstage]
    rfl

/-! ### Every run -/

lemma LogWorld.Tidy.init {dir : Volume FileName Char} (hdir : dir.Sound) :
    (logStore cal dir).init.Tidy cal :=
  ⟨hdir, fun _ h => (nomatch h), fun _ _ h => (nomatch h), fun _ h => (nomatch h),
    fun _ h => (nomatch h)⟩

structure LogWorld.Safe (cal : Calendar) (w : LogWorld) : Prop where
  tidy : w.Tidy cal
  secured : ∀ record ∈ w.due, Secured cal w record

/-- A copy is not in a file that records are written to. -/
lemma copy_ne_fileName {stage : Stage} {file : FileName} (hday : cal.days day = true)
    (hday' : cal.days record.1 = true)
    (hcopy : stage.copy = some (fileName cal record.1, file)) : file ≠ fileName cal day := by
  have hfile : file = tmpName (fileName cal record.1) ∨ file = gzName (fileName cal record.1) := by
    cases stage <;> simp only [Stage.copy, Option.some.injEq, Prod.mk.injEq, reduceCtorEq] at hcopy
    · exact Or.inl (hcopy.2 ▸ hcopy.1 ▸ rfl)
    · exact Or.inl (hcopy.2 ▸ hcopy.1 ▸ rfl)
    · exact Or.inr (hcopy.2 ▸ hcopy.1 ▸ rfl)
  rcases hfile with rfl | rfl
  · exact ne_of_parse cal (by rw [parse_tmpName, parse_fileName hday]; simp)
  · exact ne_of_parse cal
      (by rw [parse_gzName (parse_fileName hday'), parse_fileName hday]; simp)

/-- A new log takes nothing away, if its day is not packed. -/
lemma secured_make {today : Day} (hw : w.Tidy cal) (hday : cal.days today = true)
    (hday' : cal.days record.1 = true) (hnone : w.dir.entry (fileName cal today) = none)
    (hpacked : w.dir.entry (gzName (fileName cal today)) = none) (h : Secured cal w record)
    (hdir : w'.dir = w.dir.make (fileName cal today)) (hrunning : w'.running = w.running) :
    Secured cal w' record := by
  obtain ⟨hkept, hcopied⟩ := h
  have htext : ∀ f, f ≠ fileName cal today → w'.dir.text f = w.dir.text f := fun f hf =>
    hdir ▸ hw.sound.text_make_of_ne hf
  constructor
  · by_cases hlog : fileName cal record.1 = fileName cal today
    · obtain ⟨id, hid⟩ := (hkept.packed (hlog ▸ hnone)).entry
      rw [hlog, hpacked] at hid
      cases hid
    · have hgz : gzName (fileName cal record.1) ≠ fileName cal today := ne_of_parse cal
        (by rw [parse_gzName (parse_fileName hday'), parse_fileName hday]; simp)
      exact hkept.congr (htext _ hlog) (htext _ hgz)
  · intro p file hp hcopy
    exact (hcopied p file (hrunning ▸ hp) hcopy).congr (htext _ (copy_ne_fileName hday hday' hcopy))

lemma secured_append {id : ℕ} {more : List Char} (h : Secured cal w record)
    (hdir : w'.dir = w.dir.append id more) (hrunning : w'.running = w.running) :
    Secured cal w' record := by
  refine ⟨?_, fun p file hp hcopy => ?_⟩
  · rw [hdir]
    exact h.1.append
  · rw [hdir]
    exact (h.2 p file (hrunning ▸ hp) hcopy).append

/-- What a record in time adds, and what it leaves. -/
lemma LogWorld.Safe.step (h : w.Safe cal) (hstep : w.step cal e = some w')
    (hlaw : LogWorld.InTime cal w e w') : w'.Safe cal := by
  refine ⟨h.tidy.step hstep, ?_⟩
  cases LogMove.of_step hstep with
  | rests _ _ hrest =>
    intro record hr
    obtain ⟨hkept, hcopied⟩ := h.secured record (hrest.due record hr)
    refine ⟨hrest.dir ▸ hkept, ?_⟩
    rcases hrest.running with hrunning | hlook
    · intro p file hp hcopy
      exact hrest.dir ▸ hcopied p file (hrunning ▸ hp) hcopy
    · refine copied_of_none fun p hp => ?_
      rw [hlook p hp]
      rfl
  | continues today line ok id hsink hwriting => exact h.secured
  | opens today line opened hsink hother hday hwriting =>
    intro record hr
    obtain ⟨-, -, -, -, -, hnew⟩ := Volume.openAppend_spec h.tidy.sound (fileName cal today)
    rcases hnew with hsame | ⟨hnone, hmade⟩
    · obtain ⟨hkept, hcopied⟩ := h.secured record hr
      refine ⟨?_, fun p file hp hcopy => ?_⟩
      · change Kept cal (w.dir.openAppend (fileName cal today)).1 record
        rwa [hsame]
      · change (w.dir.openAppend (fileName cal today)).1.Holds file record.2
        rw [hsame]
        exact hcopied p file hp hcopy
    · have hpacked := hlaw ⟨rfl, opened, hsink, hother⟩ hnone
      exact secured_make h.tidy hday (h.tidy.due record hr) hnone hpacked (h.secured record hr)
        hmade rfl
  | writes fault day day' line id hwriting hsink =>
    cases fault with
    | none =>
      rintro record (_ | ⟨_, hr⟩)
      · -- the file has its name, and has not been copied
        obtain ⟨id', hsink'⟩ := h.tidy.writing day line hwriting
        obtain ⟨rfl, rfl⟩ : day' = day ∧ id = id' := by
          simpa using hsink.symm.trans hsink'
        obtain ⟨hentry, hcopy⟩ := hlaw day' id ⟨⟨line, hwriting⟩, hsink⟩
        exact ⟨.of_log (Volume.holds_append hentry), fun p file hp hfile =>
          absurd hfile (hcopy p hp file)⟩
      · exact secured_append (h.secured record hr) rfl rfl
    | some n => exact fun record hr => secured_append (h.secured record hr) rfl rfl
  | passes fault p _ hrunning hmove =>
    intro record hr
    rw [hmove.frame.2.2] at hr
    obtain ⟨hdue, htoday⟩ := due_of_expire hr
    have hexpired := h.tidy.expire p.today
    exact hmove.secured hexpired.sound (hexpired.running p hrunning) hrunning
      (h.tidy.due record hdue) htoday (h.secured record hdue)

/-- A record is in the log of its day or in the packed one. -/
def LogWorld.Found (cal : Calendar) (w : LogWorld) (record : Day × List Char) : Prop :=
  w.dir.Holds (fileName cal record.1) record.2 ∨
    w.dir.Holds (gzName (fileName cal record.1)) record.2

/-- If every record comes in time, what is due is found, whatever fails and whenever the process
ends; and housekeeping changes no file but the logs of past days and its own. -/
theorem log_records_kept (cal : Calendar) (dir : Volume FileName Char) (hdir : dir.Sound) :
    (∀ w, (logStore cal dir).Reach (LogWorld.InTime cal) w →
      ∀ record ∈ w.due, w.Found cal record) ∧
    ∀ w fault w', (logStore cal dir).Reach free w → w.step cal (.pass fault) = some w' →
      ∃ p, w.running = some p ∧
        ∀ f, w'.dir.text f ≠ w.dir.text f → Disposable cal p.today f := by
  refine ⟨fun w hw record hr => ?_, fun w fault w' hw hstep => ?_⟩
  · have hsafe : w.Safe cal := hw.invariant (P := LogWorld.Safe cal)
      ⟨.init hdir, fun _ h => (nomatch h)⟩ fun _ _ _ _ h hstep hlaw => h.step hstep hlaw
    have hkept := (hsafe.secured record hr).1
    rcases place_eq_or cal w.dir record.1 with hplace | hplace
    · rw [Kept, hplace] at hkept
      exact Or.inl hkept
    · rw [Kept, hplace] at hkept
      exact Or.inr hkept
  · have htidy : w.Tidy cal := hw.invariant (P := LogWorld.Tidy cal) (.init hdir)
      fun _ _ _ _ h hstep _ => h.step hstep
    obtain ⟨p, hrunning, rfl⟩ := Option.map_eq_some_iff.mp hstep
    have hexpired := htidy.expire p.today
    exact ⟨p, hrunning,
      (passMove_of_run.effect hexpired.sound (hexpired.running p hrunning)).text⟩

/-! ### Two runs -/

/-- Three days of March, as the date library writes and reads them. -/
def threeDays : Calendar where
  days day := decide (day ∈ [1, 2, 3])
  format day := "2026-03-0".toList ++ (toString day).toList
  parse text := [1, 2, 3].find? fun day => text == "2026-03-0".toList ++ (toString day).toList
  parse_format day h := by
    have hday : day = 1 ∨ day = 2 ∨ day = 3 := by simpa using h
    rcases hday with rfl | rfl | rfl <;> decide
  length_format day h := by
    have hday : day = 1 ∨ day = 2 ∨ day = 3 := by simpa using h
    rcases hday with rfl | rfl | rfl <;> decide

/-- The library starts, and the store gets its first record and one of the next day. -/
def twoDayRecords : List LogStep :=
  [.install 1 true, .begin 0 (some []), .pass none, .setSink,
    .publish 1 "a".toList true, .write none, .publish 2 "b".toList true, .write none]

/-- The pass of the second day gets its turn and packs the log of the first. -/
def secondDayPass (names : List FileName) : List LogStep :=
  .begin 0 (some names) :: List.replicate 7 (.pass none)

def inTimeTest (w : LogWorld) (e : LogStep) (_ : LogWorld) : Bool :=
  match e with
  | .publish today _ _ => w.dir.entry (gzName (fileName threeDays today)) == none
  | .write none =>
    match w.writing, w.sink with
    | some (day, _), some (some (_, id)) =>
      w.dir.entry (fileName threeDays day) == some id &&
        w.running.all fun p => p.stage.copy.all fun copy => copy.1 != fileName threeDays day
    | _, _ => true
  | _ => true

lemma inTime_of_test (h : inTimeTest w e w' = true) : LogWorld.InTime threeDays w e w' := by
  cases e with
  | publish today line ok =>
    intro _ _
    simpa [inTimeTest] using h
  | write fault =>
    rcases fault with _ | n
    · rintro day id ⟨⟨line, hwriting⟩, hsink⟩
      simp only [inTimeTest, hwriting, hsink, Bool.and_eq_true, beq_iff_eq,
        Option.all_eq_true] at h
      refine ⟨h.1, fun p hp file hcopy => ?_⟩
      have hne := h.2 p hp _ hcopy
      simp at hne
    · trivial
  | _ => trivial

/-- The record of the first day is found after its log has been packed. -/
theorem log_records_kept_packed : ∃ w,
    (logStore threeDays Volume.empty).Reach (LogWorld.InTime threeDays) w ∧
      w.dir.text (fileName threeDays 1) = none ∧ (1, "a".toList) ∈ w.due ∧
      w.Found threeDays (1, "a".toList) := by
  obtain ⟨w, hw, hgoal⟩ := (logStore threeDays Volume.empty).reach_of_tests
    (LogWorld.InTime threeDays)
    (twoDayRecords ++ secondDayPass [fileName threeDays 1, fileName threeDays 2])
    (fun w => w.dir.text (fileName threeDays 1) == none && w.due.contains (1, "a".toList))
    (fun _ _ _ => inTime_of_test) (by decide +kernel) (by decide +kernel)
  simp only [Bool.and_eq_true, beq_iff_eq, List.contains_iff_mem] at hgoal
  exact ⟨w, hw, hgoal.1, hgoal.2,
    (log_records_kept threeDays Volume.empty Volume.sound_empty).1 w hw _ hgoal.2⟩

/-- A record of the first day comes when that day is packed: its log is made anew, and the next
pass packs it over the packed one. -/
theorem log_record_lost : ¬ ∀ (cal : Calendar) (dir : Volume FileName Char), dir.Sound →
    ∀ w, (logStore cal dir).Reach free w → ∀ record ∈ w.due, w.Found cal record := by
  intro h
  obtain ⟨w, hw, hgoal⟩ := (logStore threeDays Volume.empty).reach_of_run
    (twoDayRecords ++ secondDayPass [fileName threeDays 1, fileName threeDays 2] ++
      List.replicate 2 (.pass none) ++
      [.publish 1 "c".toList true, .write none, .publish 2 "d".toList true, .write none] ++
      secondDayPass [fileName threeDays 1, gzName (fileName threeDays 1), fileName threeDays 2])
    (fun w => w.due.contains (1, "a".toList) && w.dir.text (fileName threeDays 1) == none &&
      w.dir.text (gzName (fileName threeDays 1)) == some "c".toList) (by decide +kernel)
  simp only [Bool.and_eq_true, beq_iff_eq, List.contains_iff_mem] at hgoal
  obtain ⟨⟨hdue, hlog⟩, hgz⟩ := hgoal
  rcases h threeDays Volume.empty Volume.sound_empty w hw _ hdue with
    ⟨text, htext, -⟩ | ⟨text, htext, hinfix⟩
  · rw [hlog] at htext
    cases htext
  · rw [hgz] at htext
    obtain rfl := Option.some.inj htext
    revert hinfix
    decide

end Tim

end DevBridge

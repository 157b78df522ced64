import DevBridge.Tim.Logs

/-!
# What housekeeping leaves of the log records

A pass packs the log of a past day in several steps: it copies the log into a new file, gives
that file the name of the packed log, and removes the log.  What is written to the log between
the copy and the removal is lost; and a log that is opened anew when its day has been packed
takes the place of the packed one at the next pass.  If no record comes so late, nothing is
lost: what is due is in the log as long as there is one, and in the packed file after that.
-/

namespace DevBridge

namespace Tim

open Transition (free)

variable {cal : Calendar} {w w' : LogWorld} {day : Day} {line : List Char} {name f : FileName}

/-! ### File names -/

lemma stripSuffix_eq_some {suf s x : FileName} : stripSuffix suf s = some x ↔ s = x ++ suf := by
  unfold stripSuffix
  constructor
  · intro h
    split at h
    next hsuf =>
      obtain ⟨y, rfl⟩ := List.isSuffixOf_iff_suffix.mp hsuf
      obtain rfl := Option.some.inj h
      simp
    next => cases h
  · rintro rfl
    rw [if_pos (List.isSuffixOf_iff_suffix.mpr ⟨x, rfl⟩)]
    simp

lemma stripSuffix_eq_none {suf s : FileName} (h : s.getLast? ≠ suf.getLast?) (hne : suf ≠ []) :
    stripSuffix suf s = none := by
  refine Option.eq_none_iff_forall_ne_some.mpr fun x hx => h ?_
  rw [stripSuffix_eq_some.mp hx, List.getLast?_append_of_ne_nil _ hne]

def logSuffix (gz : Bool) : FileName := if gz then ".log.gz".toList else ".log".toList

lemma nameDate_eq_some {rest date : FileName} {gz : Bool} :
    nameDate rest = some (date, gz) ↔ rest = date ++ logSuffix gz := by
  unfold nameDate
  constructor
  · intro h
    rcases hpacked : stripSuffix ".log.gz".toList rest with _ | x
    · rw [hpacked] at h
      obtain ⟨y, hy, hpair⟩ := Option.map_eq_some_iff.mp h
      obtain ⟨rfl, rfl⟩ := Prod.mk.inj hpair
      exact stripSuffix_eq_some.mp hy
    · rw [hpacked] at h
      obtain ⟨rfl, rfl⟩ := Prod.mk.inj (Option.some.inj h)
      exact stripSuffix_eq_some.mp hpacked
  · rintro rfl
    cases gz with
    | false =>
      have hpacked : stripSuffix ".log.gz".toList (date ++ logSuffix false) = none :=
        stripSuffix_eq_none
          (by rw [List.getLast?_append_of_ne_nil _ (by decide)]; decide) (by decide)
      have hplain : stripSuffix ".log".toList (date ++ logSuffix false) = some date :=
        stripSuffix_eq_some.mpr rfl
      rw [hpacked, hplain]
      rfl
    | true =>
      have hpacked : stripSuffix ".log.gz".toList (date ++ logSuffix true) = some date :=
        stripSuffix_eq_some.mpr rfl
      rw [hpacked]

/-- A log is read as the log of its day. -/
lemma parseFileName_eq_some {gz : Bool} :
    parseFileName cal name = some (day, gz) ↔
      ∃ date, name = "tim-".toList ++ (date ++ logSuffix gz) ∧
        (date.map Char.utf8Size).sum = 10 ∧ cal.parse date = some day := by
  have hdrop : ∀ rest : FileName, ("tim-".toList ++ rest).drop 4 = rest := fun rest => rfl
  unfold parseFileName
  constructor
  · intro h
    split at h
    next hpre =>
      obtain ⟨rest, rfl⟩ := List.isPrefixOf_iff_prefix.mp hpre
      rw [hdrop] at h
      rcases hdate : nameDate rest with _ | ⟨date, gz'⟩
      · rw [hdate] at h
        cases h
      · simp only [hdate] at h
        split at h
        next hlen =>
          obtain ⟨d, hd, hpair⟩ := Option.map_eq_some_iff.mp h
          obtain ⟨rfl, rfl⟩ := Prod.mk.inj hpair
          exact ⟨date, by rw [nameDate_eq_some.mp hdate], hlen, hd⟩
        next => cases h
    next => cases h
  · rintro ⟨date, rfl, hlen, hdate⟩
    rw [if_pos (List.isPrefixOf_iff_prefix.mpr ⟨_, rfl⟩), hdrop, nameDate_eq_some.mpr rfl]
    simp only [hlen, if_true, hdate, Option.map_some]

lemma parse_fileName (hday : cal.days day = true) :
    parseFileName cal (fileName cal day) = some (day, false) :=
  parseFileName_eq_some.mpr ⟨cal.format day, List.append_assoc .., cal.length_format day hday,
    cal.parse_format day hday⟩

lemma parse_gzName (h : parseFileName cal name = some (day, false)) :
    parseFileName cal (gzName name) = some (day, true) := by
  obtain ⟨date, rfl, hlen, hdate⟩ := parseFileName_eq_some.mp h
  refine parseFileName_eq_some.mpr ⟨date, ?_, hlen, hdate⟩
  rw [gzName, List.append_assoc, List.append_assoc]
  rfl

lemma parse_tmpName : parseFileName cal (tmpName name) = none := by
  refine Option.eq_none_iff_forall_ne_some.mpr ?_
  rintro ⟨day, gz⟩ h
  obtain ⟨date, hname, -, -⟩ := parseFileName_eq_some.mp h
  have hlast := congrArg List.getLast? hname
  have hne : logSuffix gz ≠ [] := by cases gz <;> decide
  rw [tmpName, List.getLast?_append_of_ne_nil _ (by decide),
    List.getLast?_append_of_ne_nil _ (by simp [hne]), List.getLast?_append_of_ne_nil _ hne] at hlast
  revert hlast
  cases gz <;> decide

lemma gzName_injective : Function.Injective gzName := fun _ _ h => List.append_cancel_right h

/-- Names that are read as different things are different. -/
lemma ne_of_parse (cal : Calendar) {g : FileName}
    (h : parseFileName cal f ≠ parseFileName cal g) : f ≠ g :=
  fun heq => h (heq ▸ rfl)

lemma gzName_ne_tmpName {name name' : FileName} : gzName name ≠ tmpName name' := by
  intro h
  have hlast := congrArg List.getLast? h
  rw [gzName, tmpName, List.getLast?_append_of_ne_nil _ (by decide),
    List.getLast?_append_of_ne_nil _ (by decide)] at hlast
  revert hlast
  decide

/-! ### What a pass can do -/

/-- A log of a day before the day of a pass. -/
def PastLog (cal : Calendar) (today : Day) (name : FileName) (date : Day) : Prop :=
  parseFileName cal name = some (date, false) ∧ date < today

/-- The operations of a pass, and what they need. -/
inductive PassMove (cal : Calendar) (w : LogWorld) (p : Pass) : LogWorld → Prop where
  | ended : PassMove cal w p (w.endPass p)
  /-- It looks at the next name, and leaves it or finds a packed log. -/
  | looks (p' : Pass) (htoday : p'.today = p.today)
      (hstage : p'.stage = .looking ∨ ∃ gz date, p'.stage = .archived gz date ∧
        parseFileName cal gz = some (date, true)) : PassMove cal w p (w.setPass p')
  | opens (p' : Pass) (htoday : p'.today = p.today) (name : FileName) (date : Day) (input : ℕ)
      (hstage : p'.stage = .opened name date input) (hpast : PastLog cal p.today name date)
      (hentry : w.dir.entry name = some input) : PassMove cal w p (w.setPass p')
  | creates (p' : Pass) (htoday : p'.today = p.today) (name : FileName) (date : Day) (input : ℕ)
      (hp : p.stage = .opened name date input)
      (hstage : p'.stage = .created name date input (w.dir.create (tmpName name)).2) :
      PassMove cal w p { w.setPass p' with dir := (w.dir.create (tmpName name)).1 }
  | copies (p' : Pass) (htoday : p'.today = p.today) (name : FileName) (date : Day)
      (input tmp : ℕ) (hp : p.stage = .created name date input tmp)
      (hstage : p'.stage = .copied name date tmp) :
      PassMove cal w p { w.setPass p' with dir := w.dir.append tmp (w.dir.content input) }
  /-- The copy fails on the way. -/
  | breaks (name : FileName) (date : Day) (input tmp n : ℕ)
      (hp : p.stage = .created name date input tmp) :
      PassMove cal w p
        { w.endPass p with dir := w.dir.append tmp ((w.dir.content input).take n) }
  | finishes (p' : Pass) (htoday : p'.today = p.today) (name : FileName) (date : Day) (tmp : ℕ)
      (hp : p.stage = .copied name date tmp) (hstage : p'.stage = .synced name date) :
      PassMove cal w p (w.setPass p')
  | names (p' : Pass) (htoday : p'.today = p.today) (name : FileName) (date : Day)
      (dir : Volume FileName Char) (hp : p.stage = .synced name date)
      (hdir : w.dir.rename (tmpName name) (gzName name) = some dir)
      (hstage : p'.stage = .renamed name date) :
      PassMove cal w p { w.setPass p' with dir := dir }
  | removes (p' : Pass) (htoday : p'.today = p.today) (name : FileName) (date : Day)
      (dir : Volume FileName Char) (hp : p.stage = .renamed name date)
      (hdir : w.dir.remove name = some dir) (hstage : p'.stage = .archived (gzName name) date) :
      PassMove cal w p { w.setPass p' with dir := dir }
  /-- A packed log is too old. -/
  | deletes (p' : Pass) (htoday : p'.today = p.today) (gz : FileName) (date : Day)
      (dir : Volume FileName Char) (hp : p.stage = .archived gz date)
      (hold : date < p.today - retentionDays) (hdir : w.dir.remove gz = some dir)
      (hstage : p'.stage = .looking) :
      PassMove cal w p { w.setPass p' with dir := dir }

lemma passMove_looking {p : Pass} {fault : Option ℕ} (hstage : p.stage = .looking) :
    PassMove cal w p (w.runPass cal p fault) := by
  simp only [LogWorld.runPass, hstage]
  rcases p.rest with _ | ⟨name, rest⟩
  · exact .ended
  rcases hparse : parseFileName cal name with _ | ⟨date, gz⟩
  · simp only [hparse]
    exact .looks _ rfl (Or.inl rfl)
  · cases gz with
    | true =>
      simp only [hparse]
      exact .looks _ rfl (Or.inr ⟨name, date, rfl, hparse⟩)
    | false =>
      simp only [hparse]
      split
      next hpast =>
        rcases hentry : w.dir.entry name with _ | input
        · exact .ended
        · rcases fault with _ | n
          · exact .opens _ rfl name date input rfl ⟨hparse, hpast⟩ hentry
          · exact .ended
      next => exact .looks _ rfl (Or.inl rfl)

/-- What one operation of a pass does. -/
lemma passMove_of_run {p : Pass} {fault : Option ℕ} : PassMove cal w p (w.runPass cal p fault) := by
  rcases hstage : p.stage with _ | ⟨name, date, input⟩ | ⟨name, date, input, tmp⟩ |
    ⟨name, date, tmp⟩ | ⟨name, date⟩ | ⟨name, date⟩ | ⟨gz, date⟩
  · exact passMove_looking hstage
  · simp only [LogWorld.runPass, hstage]
    rcases fault with _ | n
    · exact .creates (p := p)
        { p with stage := .created name date input (w.dir.create (tmpName name)).2 } rfl name date
        input hstage rfl
    · exact .ended
  · simp only [LogWorld.runPass, hstage]
    rcases fault with _ | n
    · exact .copies (p := p) { p with stage := .copied name date tmp } rfl name date input tmp
        hstage rfl
    · exact .breaks name date input tmp n hstage
  · simp only [LogWorld.runPass, hstage]
    rcases fault with _ | n
    · exact .finishes (p := p) { p with stage := .synced name date } rfl name date tmp hstage rfl
    · exact .ended
  · simp only [LogWorld.runPass, hstage]
    rcases hdir : w.dir.rename (tmpName name) (gzName name) with _ | dir
    · exact .ended
    · rcases fault with _ | n
      · exact .names (p := p) { p with stage := .renamed name date } rfl name date dir hstage hdir
          rfl
      · exact .ended
  · simp only [LogWorld.runPass, hstage]
    rcases hdir : w.dir.remove name with _ | dir
    · exact .ended
    · rcases fault with _ | n
      · exact .removes (p := p) { p with
          done := { p.done with compressed := p.done.compressed ++ [name] }
          stage := .archived (gzName name) date } rfl name date dir hstage hdir rfl
      · exact .ended
  · simp only [LogWorld.runPass, hstage]
    split
    next hold =>
      rcases hdir : w.dir.remove gz with _ | dir
      · exact .ended
      · rcases fault with _ | n
        · exact .deletes (p := p) { p with
            done := { p.done with deleted := p.done.deleted ++ [gz] }
            stage := .looking } rfl gz date dir hstage hold hdir rfl
        · exact .ended
    next => exact .looks _ rfl (Or.inl rfl)

/-- An operation of a pass changes the directory and the pass. -/
lemma PassMove.frame {p : Pass} (h : PassMove cal w p w') :
    w'.sink = w.sink ∧ w'.writing = w.writing ∧ w'.due = w.due := by
  cases h <;> exact ⟨rfl, rfl, rfl⟩

/-! ### What every run keeps -/

/-- What the running pass relies on. -/
def Pass.Tidy (cal : Calendar) (dir : Volume FileName Char) (p : Pass) : Prop :=
  match p.stage with
  | .looking => True
  | .opened name date input => PastLog cal p.today name date ∧ dir.entry name = some input
  | .created name date input tmp =>
    PastLog cal p.today name date ∧ dir.entry name = some input ∧
      dir.entry (tmpName name) = some tmp
  | .copied name date tmp =>
    PastLog cal p.today name date ∧ dir.entry (tmpName name) = some tmp
  | .synced name date => PastLog cal p.today name date
  | .renamed name date => PastLog cal p.today name date
  | .archived gz date => parseFileName cal gz = some (date, true)

/-- An open file has no name but that of its day. -/
def Handled (cal : Calendar) (dir : Volume FileName Char) (opened : Day × ℕ) : Prop :=
  cal.days opened.1 = true ∧ opened.2 < dir.next ∧
    ∀ f, dir.entry f = some opened.2 → f = fileName cal opened.1

structure LogWorld.Tidy (cal : Calendar) (w : LogWorld) : Prop where
  sound : w.dir.Sound
  sink : ∀ opened, w.sink = some (some opened) → Handled cal w.dir opened
  writing : ∀ day line, w.writing = some (day, line) → ∃ id, w.sink = some (some (day, id))
  running : ∀ p, w.running = some p → p.Tidy cal w.dir
  due : ∀ record ∈ w.due, cal.days record.1 = true

variable {dir dir' : Volume FileName Char} {p : Pass} {opened : Day × ℕ}

lemma Pass.Tidy.mono (hp : p.Tidy cal dir)
    (hentry : ∀ f id, dir.entry f = some id → dir'.entry f = some id) : p.Tidy cal dir' := by
  unfold Pass.Tidy at hp ⊢
  split <;> rename_i hstage <;> rw [hstage] at hp
  · trivial
  · exact ⟨hp.1, hentry _ _ hp.2⟩
  · exact ⟨hp.1, hentry _ _ hp.2.1, hentry _ _ hp.2.2⟩
  · exact ⟨hp.1, hentry _ _ hp.2⟩
  · exact hp
  · exact hp
  · exact hp

/-- A file that is in use can get a name only from the file of a pass. -/
lemma Handled.mono (h : Handled cal dir opened) (hnext : dir.next ≤ dir'.next)
    (hentry : ∀ f id, id < dir.next → dir'.entry f = some id →
      dir.entry f = some id ∨ ∃ name, dir.entry (tmpName name) = some id) :
    Handled cal dir' opened := by
  obtain ⟨hday, hlt, hname⟩ := h
  refine ⟨hday, hlt.trans_le hnext, fun f hf => ?_⟩
  rcases hentry f _ hlt hf with hf | ⟨name, htmp⟩
  · exact hname f hf
  · have hparse := congrArg (parseFileName cal) (hname _ htmp)
    rw [parse_tmpName, parse_fileName hday] at hparse
    cases hparse

/-- The files that a pass may change: the logs of past days, and what it packs them into. -/
def Disposable (cal : Calendar) (today : Day) (f : FileName) : Prop :=
  (∃ date gz, parseFileName cal f = some (date, gz) ∧ date < today) ∨
    ∃ name date, f = tmpName name ∧ PastLog cal today name date

lemma PastLog.disposable {today date : Day} (h : PastLog cal today name date) :
    Disposable cal today name := Or.inl ⟨date, false, h.1, h.2⟩

lemma PastLog.disposable_gz {today date : Day} (h : PastLog cal today name date) :
    Disposable cal today (gzName name) := Or.inl ⟨date, true, parse_gzName h.1, h.2⟩

lemma PastLog.disposable_tmp {today date : Day} (h : PastLog cal today name date) :
    Disposable cal today (tmpName name) := Or.inr ⟨name, date, rfl, h⟩

/-- What an operation of a pass does to the directory. -/
structure PassEffect (cal : Calendar) (w : LogWorld) (p : Pass) (w' : LogWorld) : Prop where
  sound : w'.dir.Sound
  next : w.dir.next ≤ w'.dir.next
  entry : ∀ f id, id < w.dir.next → w'.dir.entry f = some id →
    w.dir.entry f = some id ∨ ∃ name, w.dir.entry (tmpName name) = some id
  running : ∀ p', w'.running = some p' → p'.Tidy cal w'.dir
  text : ∀ f, w'.dir.text f ≠ w.dir.text f → Disposable cal p.today f

/-- An operation that leaves the directory alone. -/
lemma PassEffect.of_dir_eq (hsound : w.dir.Sound) (hdir : w'.dir = w.dir)
    (hrunning : ∀ p', w'.running = some p' → p'.Tidy cal w.dir) : PassEffect cal w p w' := by
  refine ⟨hdir ▸ hsound, hdir ▸ le_rfl, fun f id _ hf => Or.inl (hdir ▸ hf), ?_, ?_⟩
  · rw [hdir]
    exact hrunning
  · intro f hf
    rw [hdir] at hf
    exact absurd rfl hf

lemma PassMove.effect (hsound : w.dir.Sound) (hp : p.Tidy cal w.dir) (h : PassMove cal w p w') :
    PassEffect cal w p w' := by
  cases h with
  | ended => exact .of_dir_eq hsound rfl fun _ h => (nomatch h)
  | looks p' htoday hstage =>
    refine .of_dir_eq hsound rfl ?_
    rintro _ ⟨⟩
    rcases hstage with hstage | ⟨gz, date, hstage, hparse⟩
    · rw [Pass.Tidy, hstage]
      trivial
    · rw [Pass.Tidy, hstage]
      exact hparse
  | opens p' htoday name date input hstage hpast hentry =>
    refine .of_dir_eq hsound rfl ?_
    rintro _ ⟨⟩
    rw [Pass.Tidy, hstage, htoday]
    exact ⟨hpast, hentry⟩
  | creates p' htoday name date input hstage₀ hstage =>
    rw [Pass.Tidy, hstage₀] at hp
    obtain ⟨hpast, hentry⟩ := hp
    obtain ⟨hsound', hself, hnext, hother, -, -⟩ := Volume.create_spec hsound (tmpName name)
    have hne : name ≠ tmpName name := by
      refine ne_of_parse cal ?_
      rw [hpast.1, parse_tmpName]
      exact Option.some_ne_none _
    refine ⟨hsound', hnext, fun f id hid hf => Or.inl (Volume.create_entry_of_lt hid hf), ?_, ?_⟩
    · rintro _ ⟨⟩
      rw [Pass.Tidy, hstage, htoday]
      exact ⟨hpast, (hother name hne).trans hentry, hself⟩
    · intro f hf
      by_cases hft : f = tmpName name
      · exact hft ▸ hpast.disposable_tmp
      · exact absurd (hsound.text_create_of_ne hft) hf
  | copies p' htoday name date input tmp hstage₀ hstage =>
    rw [Pass.Tidy, hstage₀] at hp
    obtain ⟨hpast, hentry, htmp⟩ := hp
    refine ⟨hsound.append, le_rfl, fun f id _ hf => Or.inl hf, ?_, ?_⟩
    · rintro _ ⟨⟩
      rw [Pass.Tidy, hstage, htoday]
      exact ⟨hpast, htmp⟩
    · intro f hf
      by_cases hft : w.dir.entry f = some tmp
      · exact hsound.alone f _ tmp hft htmp ▸ hpast.disposable_tmp
      · exact absurd (Volume.text_append_of_ne hft) hf
  | breaks name date input tmp n hstage₀ =>
    rw [Pass.Tidy, hstage₀] at hp
    obtain ⟨hpast, hentry, htmp⟩ := hp
    refine ⟨hsound.append, le_rfl, fun f id _ hf => Or.inl hf, fun _ h => (nomatch h), ?_⟩
    intro f hf
    by_cases hft : w.dir.entry f = some tmp
    · exact hsound.alone f _ tmp hft htmp ▸ hpast.disposable_tmp
    · exact absurd (Volume.text_append_of_ne hft) hf
  | finishes p' htoday name date tmp hstage₀ hstage =>
    rw [Pass.Tidy, hstage₀] at hp
    refine .of_dir_eq hsound rfl ?_
    rintro _ ⟨⟩
    rw [Pass.Tidy, hstage, htoday]
    exact hp.1
  | names p' htoday name date dir hstage₀ hdir hstage =>
    rw [Pass.Tidy, hstage₀] at hp
    have hne : tmpName name ≠ gzName name := gzName_ne_tmpName.symm
    obtain ⟨hsound', -, -, hother, hcontent, hnext⟩ := Volume.rename_spec hsound hne hdir
    refine ⟨hsound', hnext.ge, fun f id _ hf => ?_, ?_, ?_⟩
    · rcases Volume.rename_entry hdir hf with hf | ⟨-, hf⟩
      · exact Or.inl hf
      · exact Or.inr ⟨name, hf⟩
    · rintro _ ⟨⟩
      rw [Pass.Tidy, hstage, htoday]
      exact hp
    · intro f hf
      by_cases hft : f = tmpName name
      · exact hft ▸ hp.disposable_tmp
      · by_cases hfg : f = gzName name
        · exact hfg ▸ hp.disposable_gz
        · exact absurd (Volume.text_congr (hother f hft hfg) hcontent) hf
  | removes p' htoday name date dir hstage₀ hdir hstage =>
    rw [Pass.Tidy, hstage₀] at hp
    obtain ⟨hsound', -, hother, hcontent, hnext⟩ := Volume.remove_spec hsound hdir
    refine ⟨hsound', hnext.ge, fun f id _ hf => Or.inl (Volume.remove_entry hdir hf), ?_, ?_⟩
    · rintro _ ⟨⟩
      rw [Pass.Tidy, hstage]
      exact parse_gzName hp.1
    · intro f hf
      by_cases hfn : f = name
      · exact hfn ▸ hp.disposable
      · exact absurd (Volume.text_congr (hother f hfn) hcontent) hf
  | deletes p' htoday gz date dir hstage₀ hold hdir hstage =>
    rw [Pass.Tidy, hstage₀] at hp
    obtain ⟨hsound', -, hother, hcontent, hnext⟩ := Volume.remove_spec hsound hdir
    refine ⟨hsound', hnext.ge, fun f id _ hf => Or.inl (Volume.remove_entry hdir hf), ?_, ?_⟩
    · rintro _ ⟨⟩
      rw [Pass.Tidy, hstage]
      trivial
    · intro f hf
      by_cases hfg : f = gz
      · exact Or.inl ⟨date, true, hfg ▸ hp, hold.trans_le (sub_le_self _ (by decide))⟩
      · exact absurd (Volume.text_congr (hother f hfg) hcontent) hf

end Tim

end DevBridge

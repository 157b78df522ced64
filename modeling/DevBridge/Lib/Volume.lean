import Mathlib.Logic.Function.Basic
import Mathlib.Tactic

/-!
# Files behind names and handles

A directory gives names to files, and a program that has opened a file goes on with the file
itself: what it appends goes to the file although its name is given to another one, or to none.
A file that has no name any more cannot be found again.

`Volume.Sound` says that no file has two names, and that new files are new; every operation
keeps it, and for each of them there is a lemma about what every name stands for afterwards.
-/

universe u v

/-- Names `F` of files of items `β`; a file is a number. -/
structure Volume (F : Type u) (β : Type v) where
  entry : F → Option ℕ
  content : ℕ → List β
  next : ℕ

namespace Volume

variable {F : Type u} {β : Type v} (v : Volume F β)

def empty : Volume F β := ⟨fun _ => none, fun _ => [], 0⟩

/-- What is found under a name. -/
def text (f : F) : Option (List β) := (v.entry f).map v.content

/-- The items are found in a row under a name. -/
def Holds (f : F) (items : List β) : Prop := ∃ text, v.text f = some text ∧ items <:+: text

def append (id : ℕ) (items : List β) : Volume F β :=
  { v with content := Function.update v.content id (v.content id ++ items) }

structure Sound : Prop where
  below : ∀ f id, v.entry f = some id → id < v.next
  alone : ∀ f g id, v.entry f = some id → v.entry g = some id → f = g

section Append

variable {v} {f g : F} {id : ℕ} {items : List β}

lemma sound_empty : (empty : Volume F β).Sound :=
  ⟨fun _ _ h => (nomatch h), fun _ _ _ h => (nomatch h)⟩

lemma text_of_entry (h : v.entry f = some id) : v.text f = some (v.content id) := by
  rw [text, h, Option.map_some]

lemma text_eq_none : v.text f = none ↔ v.entry f = none := by simp [text]

@[simp] lemma append_entry : (v.append id items).entry = v.entry := rfl

@[simp] lemma append_next : (v.append id items).next = v.next := rfl

lemma Sound.append (hv : v.Sound) : (v.append id items).Sound := ⟨hv.below, hv.alone⟩

lemma append_content_of_ne {id' : ℕ} (h : id' ≠ id) :
    (v.append id items).content id' = v.content id' := Function.update_of_ne h _ _

lemma append_content_self : (v.append id items).content id = v.content id ++ items :=
  Function.update_self _ _ _

lemma text_append_of_ne (h : v.entry g ≠ some id) : (v.append id items).text g = v.text g := by
  rw [text, text, append_entry]
  rcases hg : v.entry g with _ | id'
  · rfl
  · have hne : id' ≠ id := by
      rintro rfl
      exact h hg
    rw [Option.map_some, Option.map_some, append_content_of_ne hne]

lemma text_append_self (h : v.entry g = some id) :
    (v.append id items).text g = some (v.content id ++ items) := by
  have hg : (v.append id items).entry g = some id := h
  rw [text_of_entry hg, append_content_self]

lemma text_congr {v' : Volume F β} (hentry : v'.entry g = v.entry g)
    (hcontent : v'.content = v.content) : v'.text g = v.text g := by
  rw [text, text, hentry, hcontent]

lemma holds_of_entry (h : v.entry f = some id) :
    v.Holds f items ↔ items <:+: v.content id := by
  rw [Holds, text_of_entry h]
  constructor
  · rintro ⟨_, ⟨⟩, hitems⟩
    exact hitems
  · exact fun hitems => ⟨_, rfl, hitems⟩

lemma Holds.entry (h : v.Holds f items) : ∃ id, v.entry f = some id := by
  obtain ⟨text, htext, -⟩ := h
  obtain ⟨id, hid, -⟩ := Option.map_eq_some_iff.mp htext
  exact ⟨id, hid⟩

lemma Holds.congr {v' : Volume F β} (h : v.Holds f items) (htext : v'.text g = v.text f) :
    v'.Holds g items := by
  obtain ⟨text, hf, hitems⟩ := h
  exact ⟨text, htext.trans hf, hitems⟩

lemma Holds.mono {more : List β} (h : v.Holds f more) (hitems : items <:+: more) :
    v.Holds f items := by
  obtain ⟨text, htext, hmore⟩ := h
  exact ⟨text, htext, hitems.trans hmore⟩

/-- What is found stays there when something is appended to a file. -/
lemma Holds.append {more : List β} (h : v.Holds f items) : (v.append id more).Holds f items := by
  by_cases hf : v.entry f = some id
  · refine ⟨_, text_append_self hf, ?_⟩
    exact ((holds_of_entry hf).mp h).trans (List.prefix_append _ _).isInfix
  · exact h.congr (text_append_of_ne hf)

lemma holds_append (h : v.entry f = some id) : (v.append id items).Holds f items :=
  ⟨_, text_append_self h, (List.suffix_append _ _).isInfix⟩

end Append

variable [DecidableEq F]

/-- A new file under a name. -/
def make (f : F) : Volume F β where
  entry := Function.update v.entry f (some v.next)
  content := Function.update v.content v.next []
  next := v.next + 1

/-- Opens a file for appending; it is made if there is none. -/
def openAppend (f : F) : Volume F β × ℕ :=
  match v.entry f with
  | some id => (v, id)
  | none => (v.make f, v.next)

/-- Opens a file and leaves nothing of what was in it; it is made if there is none. -/
def create (f : F) : Volume F β × ℕ :=
  match v.entry f with
  | some id => ({ v with content := Function.update v.content id [] }, id)
  | none => (v.make f, v.next)

/-- Another name for a file; the file that had it is lost. -/
def rename (source target : F) : Option (Volume F β) :=
  (v.entry source).map fun id =>
    { v with entry := Function.update (Function.update v.entry source none) target (some id) }

def remove (f : F) : Option (Volume F β) :=
  (v.entry f).map fun _ => { v with entry := Function.update v.entry f none }

variable {v} {v' : Volume F β} {f g source target : F} {id : ℕ} {items : List β}

/-! ### New files -/

lemma make_entry_of_ne (h : g ≠ f) : (v.make f).entry g = v.entry g := Function.update_of_ne h _ _

lemma Sound.make (hv : v.Sound) : (v.make f).Sound := by
  have hnew : ∀ g id, (v.make f).entry g = some id → g = f ∧ id = v.next ∨
      g ≠ f ∧ v.entry g = some id := by
    intro g id h
    by_cases hg : g = f
    · subst hg
      refine Or.inl ⟨rfl, ?_⟩
      simpa [Volume.make] using h.symm
    · exact Or.inr ⟨hg, make_entry_of_ne hg ▸ h⟩
  refine ⟨fun g id h => ?_, fun g₁ g₂ id h₁ h₂ => ?_⟩
  · rcases hnew g id h with ⟨-, rfl⟩ | ⟨-, h⟩
    · exact Nat.lt_succ_self _
    · exact Nat.lt_succ_of_lt (hv.below g id h)
  · rcases hnew g₁ id h₁ with ⟨rfl, rfl⟩ | ⟨-, hold₁⟩
    · rcases hnew g₂ _ h₂ with ⟨rfl, -⟩ | ⟨-, hold₂⟩
      · rfl
      · exact absurd (hv.below g₂ _ hold₂) (lt_irrefl _)
    · rcases hnew g₂ id h₂ with ⟨rfl, rfl⟩ | ⟨-, hold₂⟩
      · exact absurd (hv.below g₁ _ hold₁) (lt_irrefl _)
      · exact hv.alone g₁ g₂ id hold₁ hold₂

lemma make_content_of_lt (h : id < v.next) : (v.make f).content id = v.content id :=
  Function.update_of_ne h.ne _ _

lemma Sound.text_make_of_ne (hv : v.Sound) (h : g ≠ f) : (v.make f).text g = v.text g := by
  rw [text, text, make_entry_of_ne h]
  rcases hg : v.entry g with _ | id
  · rfl
  · rw [Option.map_some, Option.map_some, make_content_of_lt (hv.below g id hg)]

/-! ### Opening -/

/-- Opening a file for appending changes no text: a new file is empty. -/
lemma openAppend_spec (hv : v.Sound) (f : F) :
    (v.openAppend f).1.Sound ∧ (v.openAppend f).1.entry f = some (v.openAppend f).2 ∧
      v.next ≤ (v.openAppend f).1.next ∧
      (∀ g, g ≠ f → (v.openAppend f).1.entry g = v.entry g) ∧
      (∀ id < v.next, (v.openAppend f).1.content id = v.content id) ∧
      ((v.openAppend f).1 = v ∨ v.entry f = none ∧ (v.openAppend f).1 = v.make f) := by
  unfold openAppend
  rcases hf : v.entry f with _ | id
  · refine ⟨hv.make, by simp [Volume.make], Nat.le_succ _, fun g hg => make_entry_of_ne hg,
      fun id hid => make_content_of_lt hid, Or.inr ⟨rfl, rfl⟩⟩
  · exact ⟨hv, hf, le_rfl, fun _ _ => rfl, fun _ _ => rfl, Or.inl rfl⟩

/-- Creating a file leaves every other text as it is. -/
lemma create_spec (hv : v.Sound) (f : F) :
    (v.create f).1.Sound ∧ (v.create f).1.entry f = some (v.create f).2 ∧
      v.next ≤ (v.create f).1.next ∧ (∀ g, g ≠ f → (v.create f).1.entry g = v.entry g) ∧
      (v.create f).1.content (v.create f).2 = [] ∧
      ∀ id < v.next, id ≠ (v.create f).2 → (v.create f).1.content id = v.content id := by
  unfold create
  rcases hf : v.entry f with _ | id
  · exact ⟨hv.make, by simp [Volume.make], Nat.le_succ _, fun g hg => make_entry_of_ne hg,
      by simp [Volume.make], fun id hid _ => make_content_of_lt hid⟩
  · exact ⟨⟨hv.below, hv.alone⟩, hf, le_rfl, fun _ _ => rfl, Function.update_self _ _ _,
      fun id' _ hne => Function.update_of_ne hne _ _⟩

lemma create_entry_of_lt (h : id < v.next) (hg : (v.create f).1.entry g = some id) :
    v.entry g = some id := by
  unfold create at hg
  rcases hf : v.entry f with _ | id'
  · rw [hf] at hg
    by_cases hgf : g = f
    · subst hgf
      simp only [Volume.make, Function.update_self, Option.some.injEq] at hg
      exact absurd hg h.ne'
    · rwa [← make_entry_of_ne hgf]
  · rwa [hf] at hg

lemma Sound.text_create_of_ne (hv : v.Sound) (h : g ≠ f) : (v.create f).1.text g = v.text g := by
  obtain ⟨hsound, hself, -, hentry, -, hcontent⟩ := create_spec hv f
  rw [text, text, hentry g h]
  rcases hg : v.entry g with _ | id
  · rfl
  · have hne : id ≠ (v.create f).2 := by
      rintro rfl
      exact h (hsound.alone g f _ (hentry g h ▸ hg) hself)
    rw [Option.map_some, Option.map_some, hcontent id (hv.below g id hg) hne]

/-! ### Renaming and removing -/

lemma rename_spec (hv : v.Sound) (hne : source ≠ target) (h : v.rename source target = some v') :
    v'.Sound ∧ v'.entry source = none ∧ v'.entry target = v.entry source ∧
      (∀ g, g ≠ source → g ≠ target → v'.entry g = v.entry g) ∧ v'.content = v.content ∧
      v'.next = v.next := by
  obtain ⟨id, hid, rfl⟩ := Option.map_eq_some_iff.mp h
  have hentry : ∀ g, g ≠ source → g ≠ target →
      Function.update (Function.update v.entry source none) target (some id) g = v.entry g :=
    fun g hs ht => by rw [Function.update_of_ne ht, Function.update_of_ne hs]
  have hsource : Function.update (Function.update v.entry source none) target (some id) source =
      none := by rw [Function.update_of_ne hne, Function.update_self]
  have hcases : ∀ g id',
      Function.update (Function.update v.entry source none) target (some id) g = some id' →
      g = target ∧ id' = id ∨ g ≠ target ∧ g ≠ source ∧ v.entry g = some id' := by
    intro g id' hg
    by_cases ht : g = target
    · subst ht
      rw [Function.update_self] at hg
      exact Or.inl ⟨rfl, (Option.some.inj hg).symm⟩
    · by_cases hs : g = source
      · rw [hs, hsource] at hg
        cases hg
      · exact Or.inr ⟨ht, hs, hentry g hs ht ▸ hg⟩
  refine ⟨⟨fun g id' hg => ?_, fun g₁ g₂ id' h₁ h₂ => ?_⟩, hsource, ?_, hentry, rfl, rfl⟩
  · rcases hcases g id' hg with ⟨-, rfl⟩ | ⟨-, -, hg⟩
    · exact hv.below source _ hid
    · exact hv.below g id' hg
  · rcases hcases g₁ id' h₁ with ⟨rfl, rfl⟩ | ⟨-, hs₁, hold₁⟩
    · rcases hcases g₂ _ h₂ with ⟨rfl, -⟩ | ⟨-, hs₂, hold₂⟩
      · rfl
      · exact absurd (hv.alone g₂ source _ hold₂ hid) hs₂
    · rcases hcases g₂ id' h₂ with ⟨rfl, rfl⟩ | ⟨-, -, hold₂⟩
      · exact absurd (hv.alone g₁ source _ hold₁ hid) hs₁
      · exact hv.alone g₁ g₂ id' hold₁ hold₂
  · rw [hid]
    exact Function.update_self _ _ _

lemma rename_entry (h : v.rename source target = some v') (hg : v'.entry g = some id) :
    v.entry g = some id ∨ g = target ∧ v.entry source = some id := by
  obtain ⟨id', hid, rfl⟩ := Option.map_eq_some_iff.mp h
  have hg : Function.update (Function.update v.entry source none) target (some id') g = some id :=
    hg
  by_cases ht : g = target
  · subst ht
    rw [Function.update_self] at hg
    exact Or.inr ⟨rfl, hid.trans hg⟩
  · rw [Function.update_of_ne ht] at hg
    by_cases hs : g = source
    · rw [hs, Function.update_self] at hg
      cases hg
    · rw [Function.update_of_ne hs] at hg
      exact Or.inl hg

lemma remove_spec (hv : v.Sound) (h : v.remove f = some v') :
    v'.Sound ∧ v'.entry f = none ∧ (∀ g, g ≠ f → v'.entry g = v.entry g) ∧
      v'.content = v.content ∧ v'.next = v.next := by
  obtain ⟨id, hid, rfl⟩ := Option.map_eq_some_iff.mp h
  have hentry : ∀ g id', Function.update v.entry f none g = some id' → v.entry g = some id' := by
    intro g id' hg
    by_cases hgf : g = f
    · rw [hgf, Function.update_self] at hg
      cases hg
    · rwa [Function.update_of_ne hgf] at hg
  exact ⟨⟨fun g id' hg => hv.below g id' (hentry g id' hg),
    fun g₁ g₂ id' h₁ h₂ => hv.alone g₁ g₂ id' (hentry g₁ id' h₁) (hentry g₂ id' h₂)⟩,
    Function.update_self _ _ _, fun g hg => Function.update_of_ne hg _ _, rfl, rfl⟩

lemma remove_entry (h : v.remove f = some v') (hg : v'.entry g = some id) :
    v.entry g = some id := by
  obtain ⟨id', -, rfl⟩ := Option.map_eq_some_iff.mp h
  have hg : Function.update v.entry f none g = some id := hg
  by_cases hgf : g = f
  · rw [hgf, Function.update_self] at hg
    cases hg
  · rwa [Function.update_of_ne hgf] at hg

end Volume

import Mathlib.Tactic

/-!
# Grammars of documents

A document is a tree of named fields and of items.  A grammar says which rules its parts keep;
reading it along a document reports, part by part, the rules that are broken.

Three things hold of every grammar.  Nothing is reported of a document exactly when it fits the
grammar (`Grammar.report_eq_nil_iff`); what is reported depends on nothing but the keys of the
document and the rules that it breaks (`Grammar.report_congr`); and a document that fits a
grammar that covers its parts has no part but those that the grammar names (`Grammar.Covers`).
-/

universe u

/-- How a document is taken apart. -/
class Parts (V : Type u) where
  fields : V → Option (List (String × V))
  items : V → Option (List V)

namespace Grammar

open Parts

variable {V : Type u}

/-- A step into a document. -/
inductive Step where
  | field (name : String)
  | item (i : ℕ)
deriving DecidableEq, Repr

/-- A place in a document. -/
abbrev Place := List Step

/-- What may be said of the part at a place, and when it is not said. -/
structure Rule (V : Type u) where
  text : String
  holds : Option V → Bool

/-- The rule that a part is not there. -/
def Rule.notAllowed : Rule V := ⟨"is not allowed", Option.isNone⟩

/-- The rule, which spares some parts. -/
def Rule.sparing (spares : Option V → Bool) (r : Rule V) : Rule V :=
  ⟨r.text, fun v => spares v || r.holds v⟩

end Grammar

/-- A grammar of documents. -/
inductive Grammar (V : Type u) where
  /-- Anything may stand here. -/
  | free
  | skip
  | rule (r : Grammar.Rule V)
  /-- An object has no other keys. -/
  | keys (allowed : List String)
  /-- What holds of a field of an object. -/
  | field (name : String) (g : Grammar V)
  /-- What holds of each item of a list. -/
  | items (g : Grammar V)
  | both (g h : Grammar V)

namespace Grammar

open Parts

/-- The path of a field. -/
abbrev dotted (path name : String) : String := s!"{path}.{name}"

/-- The path of an item. -/
abbrev indexed (path : String) (i : ℕ) : String := s!"{path}[{i}]"

variable {V : Type u}

/-- All of these. -/
def all : List (Grammar V) → Grammar V
  | [] => skip
  | g :: gs => both g (all gs)

/-- Rules that are asked in order, each of the parts that keep the earlier ones; `asked` are the
parts that come that far. -/
def inOrder (asked : Option V → Bool) : List (Rule V) → Grammar V
  | [] => skip
  | r :: rs => both (rule ⟨r.text, fun v => !asked v || r.holds v⟩)
      (inOrder (fun v => asked v && r.holds v) rs)

def rules (rs : List (Rule V)) : Grammar V := inOrder (fun _ => true) rs

section Meaning

variable [Parts V]

/-- The broken rules, in the order of the grammar, with the paths of the parts that break
them. -/
def report : Grammar V → String → Option V → List String
  | free, _, _ => []
  | skip, _, _ => []
  | rule r, path, v => if r.holds v then [] else [s!"{path} {r.text}"]
  | keys allowed, path, v => (((v.bind fields).getD []).map Prod.fst).filterMap fun key =>
      if allowed.contains key then none else some s!"{path}.{key} is not allowed"
  | field name g, path, v =>
    match v.bind fields with
    | some fs => g.report (dotted path name) (fs.lookup name)
    | none => []
  | items g, path, v =>
    match v.bind Parts.items with
    | some xs => (xs.zipIdx.map fun (x, i) => g.report (indexed path i) (some x)).flatten
    | none => []
  | both g h, path, v => g.report path v ++ h.report path v

/-- The part fits the grammar. -/
def Fits : Grammar V → Option V → Prop
  | free, _ => True
  | skip, _ => True
  | rule r, v => r.holds v = true
  | keys allowed, v => ∀ fs, v.bind fields = some fs → ∀ key ∈ fs.map Prod.fst, key ∈ allowed
  | field name g, v => ∀ fs, v.bind fields = some fs → g.Fits (fs.lookup name)
  | items g, v => ∀ xs, v.bind Parts.items = some xs → ∀ x ∈ xs, g.Fits (some x)
  | both g h, v => g.Fits v ∧ h.Fits v

/-! ### Places -/

/-- The part at a place. -/
def partAt : Option V → Place → Option V
  | v, [] => v
  | v, .field name :: p => partAt ((v.bind fields).bind (List.lookup name)) p
  | v, .item i :: p => partAt ((v.bind Parts.items).bind fun xs => xs[i]?) p

/-- There is such a place: its object or its list is there. -/
def Reaches : Option V → Place → Prop
  | _, [] => True
  | v, .field name :: p => ∃ fs, v.bind fields = some fs ∧ Reaches (fs.lookup name) p
  | v, .item i :: p =>
    ∃ xs x, v.bind Parts.items = some xs ∧ xs[i]? = some x ∧ Reaches (some x) p

/-- The grammar has the rule for the place. -/
def Asks : Grammar V → Place → Rule V → Prop
  | free, _, _ => False
  | skip, _, _ => False
  | rule r, p, r' => p = [] ∧ r' = r
  | keys allowed, p, r' => ∃ key, p = [.field key] ∧ key ∉ allowed ∧ r' = .notAllowed
  | field name g, p, r' => ∃ q, p = .field name :: q ∧ g.Asks q r'
  | items g, p, r' => ∃ i q, p = .item i :: q ∧ g.Asks q r'
  | both g h, p, r' => g.Asks p r' ∨ h.Asks p r'

/-- The document breaks the rule at the place. -/
structure Breaks (g : Grammar V) (v : Option V) (p : Place) (r : Rule V) : Prop where
  asks : g.Asks p r
  reaches : Reaches v p
  broken : r.holds (partAt v p) = false

/-- The keys of the object at a place. -/
def keysAt (v : Option V) (p : Place) : List String :=
  (((partAt v p).bind fields).getD []).map Prod.fst

/-- Two documents have the same keys at every place. -/
def SameKeys (v w : Option V) : Prop := ∀ p, keysAt v p = keysAt w p

/-- The grammar has a word on the place. -/
def Names : Grammar V → Place → Prop
  | free, _ => True
  | skip, p => p = []
  | rule _, p => p = []
  | keys _, p => p = []
  | field name g, p => p = [] ∨ ∃ q, p = .field name :: q ∧ g.Names q
  | items g, p => p = [] ∨ ∃ i q, p = .item i :: q ∧ g.Names q
  | both g h, p => g.Names p ∨ h.Names p

/-- The fields that some grammars have a word on. -/
def rowNames : List (Grammar V) → List String
  | [] => []
  | field name _ :: gs => name :: rowNames gs
  | _ :: gs => rowNames gs

/-- A document that fits has no part but those that the grammar names. -/
def Covers (g : Grammar V) : Prop := ∀ v p x, g.Fits v → partAt v p = some x → g.Names p

/-- The grammars of the fields cover them. -/
def RowsCover : List (Grammar V) → Prop
  | [] => True
  | field _ g :: gs => g.Covers ∧ RowsCover gs
  | _ :: gs => RowsCover gs

end Meaning

section Lemmas

variable [Parts V] {g h : Grammar V} {v w : Option V} {p : Place} {r : Rule V}

/-! ### Rules in order -/

lemma report_inOrder (asked : Option V → Bool) (rs : List (Rule V)) (path : String)
    (v : Option V) : (inOrder asked rs).report path v =
      if asked v then ((rs.find? fun r => !r.holds v).map fun r => s!"{path} {r.text}").toList
      else [] := by
  induction rs generalizing asked with
  | nil => simp [inOrder, report]
  | cons r rs ih =>
    rw [inOrder, report, report, ih]
    cases hasked : asked v <;> cases hr : r.holds v <;> simp [hasked, hr]

/-- Of rules in order the first broken one is reported. -/
lemma report_rules (rs : List (Rule V)) (path : String) (v : Option V) :
    (rules rs).report path v =
      ((rs.find? fun r => !r.holds v).map fun r => s!"{path} {r.text}").toList := by
  rw [rules, report_inOrder, if_pos rfl]

lemma fits_inOrder (asked : Option V → Bool) (rs : List (Rule V)) (v : Option V) :
    (inOrder asked rs).Fits v ↔ (asked v = true → ∀ r ∈ rs, r.holds v = true) := by
  induction rs generalizing asked with
  | nil => simp [inOrder, Fits]
  | cons r rs ih =>
    rw [inOrder, Fits, Fits, ih]
    cases hasked : asked v <;> cases hr : r.holds v <;> simp [hasked, hr]

lemma fits_rules (rs : List (Rule V)) (v : Option V) :
    (rules rs).Fits v ↔ ∀ r ∈ rs, r.holds v = true := by
  rw [rules, fits_inOrder]
  simp

/-- Of rules in order: the first one that is broken. -/
lemma report_rules_cons (r : Rule V) (rs : List (Rule V)) (path : String) (v : Option V) :
    (rules (r :: rs)).report path v =
      if r.holds v then (rules rs).report path v else [s!"{path} {r.text}"] := by
  rw [report_rules, report_rules]
  cases hr : r.holds v <;> simp [hr]

lemma report_rules_nil (path : String) (v : Option V) : (rules []).report path v = [] := rfl

section Sparing

variable {rs : List (Rule V)} {spares : Option V → Bool}

lemma report_spared (path : String) (h : spares v = true) :
    (rules (rs.map (Rule.sparing spares))).report path v = [] := by
  induction rs with
  | nil => rfl
  | cons r rs ih => rw [List.map_cons, report_rules_cons, ih]; simp [Rule.sparing, h]

lemma report_unspared (path : String) (h : spares v = false) :
    (rules (rs.map (Rule.sparing spares))).report path v = (rules rs).report path v := by
  rw [report_rules, report_rules, List.find?_map]
  simp only [Function.comp_def, Rule.sparing, h, Bool.false_or, Option.map_map]

end Sparing

lemma report_all_nil (path : String) (v : Option V) :
    (all ([] : List (Grammar V))).report path v = [] := rfl

lemma report_all_cons (g : Grammar V) (gs : List (Grammar V)) (path : String) (v : Option V) :
    (all (g :: gs)).report path v = g.report path v ++ (all gs).report path v := rfl

lemma report_all_append (gs hs : List (Grammar V)) (path : String) (v : Option V) :
    (all (gs ++ hs)).report path v = (all gs).report path v ++ (all hs).report path v := by
  induction gs with
  | nil => rfl
  | cons g gs ih => rw [List.cons_append, report_all_cons, report_all_cons, ih, List.append_assoc]

lemma fits_all (gs : List (Grammar V)) (v : Option V) : (all gs).Fits v ↔ ∀ g ∈ gs, g.Fits v := by
  induction gs with
  | nil => simp [all, Fits]
  | cons g gs ih =>
    rw [all, Fits, ih]
    simp

/-! ### Reports and fits -/

/-- Nothing is reported of a document exactly when it fits. -/
theorem report_eq_nil_iff (g : Grammar V) (path : String) (v : Option V) :
    g.report path v = [] ↔ g.Fits v := by
  induction g generalizing path v with
  | free => simp [report, Fits]
  | skip => simp [report, Fits]
  | rule r => cases hr : r.holds v <;> simp [report, Fits, hr]
  | keys allowed =>
    rw [report, Fits, List.filterMap_eq_nil_iff]
    cases v.bind fields with
    | none => simp
    | some fs =>
      refine ⟨fun hall fs' hfs key hkey => ?_, fun hall key hkey => ?_⟩
      · obtain rfl := Option.some.inj hfs
        by_contra hnot
        simpa [hnot] using hall key hkey
      · simp [hall fs rfl key hkey]
  | field name g ih =>
    rw [report, Fits]
    cases v.bind fields with
    | none => simp
    | some fs => simp [ih]
  | items g ih =>
    rw [report, Fits]
    cases v.bind Parts.items with
    | none => simp
    | some xs =>
      simp only [List.flatten_eq_nil_iff, List.mem_map, Prod.exists, Option.some.injEq]
      constructor
      · rintro hall _ rfl x hx
        obtain ⟨i, hi⟩ := List.mem_iff_getElem?.mp hx
        exact (ih _ _).mp (hall _ ⟨x, i, List.mem_zipIdx_iff_getElem?.mpr hi, rfl⟩)
      · rintro hall _ ⟨x, i, hx, rfl⟩
        exact (ih _ _).mpr
          (hall xs rfl x (List.mem_of_getElem? (List.mem_zipIdx_iff_getElem?.mp hx)))
  | both g h ihg ihh => rw [report, Fits, List.append_eq_nil_iff, ihg, ihh]

/-! ### Broken rules -/

lemma breaks_field {name : String} {fs : List (String × V)} (hfs : v.bind fields = some fs) :
    (field name g).Breaks v (.field name :: p) r ↔ g.Breaks (fs.lookup name) p r := by
  have hat : partAt v (.field name :: p) = partAt (fs.lookup name) p := by
    rw [partAt, hfs, Option.bind_some]
  constructor
  · rintro ⟨⟨q, hq, hasks⟩, ⟨fs', hfs', hreaches⟩, hbroken⟩
    obtain rfl := Option.some.inj (hfs.symm.trans hfs')
    obtain rfl := (List.cons.inj hq).2
    exact ⟨hasks, hreaches, hat ▸ hbroken⟩
  · rintro ⟨hasks, hreaches, hbroken⟩
    exact ⟨⟨p, rfl, hasks⟩, ⟨fs, hfs, hreaches⟩, hat ▸ hbroken⟩

lemma breaks_items {xs : List V} (hxs : v.bind Parts.items = some xs) {i : ℕ} {x : V}
    (hx : xs[i]? = some x) :
    (items g).Breaks v (.item i :: p) r ↔ g.Breaks (some x) p r := by
  have hat : partAt v (.item i :: p) = partAt (some x) p := by
    rw [partAt, hxs, Option.bind_some, hx]
  constructor
  · rintro ⟨⟨j, q, hq, hasks⟩, ⟨xs', x', hxs', hx', hreaches⟩, hbroken⟩
    obtain rfl := Option.some.inj (hxs.symm.trans hxs')
    obtain rfl := Option.some.inj (hx.symm.trans hx')
    obtain ⟨-, rfl⟩ := List.cons.inj hq
    exact ⟨hasks, hreaches, hat ▸ hbroken⟩
  · rintro ⟨hasks, hreaches, hbroken⟩
    exact ⟨⟨i, p, rfl, hasks⟩, ⟨xs, x, hxs, hx, hreaches⟩, hat ▸ hbroken⟩

/-- A document fits exactly when it breaks no rule. -/
theorem fits_iff (g : Grammar V) (v : Option V) : g.Fits v ↔ ∀ p r, ¬ g.Breaks v p r := by
  induction g generalizing v with
  | free => simp only [Fits, true_iff]; exact fun _ _ h => h.asks
  | skip => simp only [Fits, true_iff]; exact fun _ _ h => h.asks
  | rule r =>
    constructor
    · rintro hfits p r' ⟨⟨rfl, rfl⟩, -, hbroken⟩
      rw [Fits] at hfits
      rw [partAt, hfits] at hbroken
      cases hbroken
    · intro hnone
      rw [Fits]
      by_contra hbroken
      exact hnone [] r ⟨⟨rfl, rfl⟩, trivial, by simpa [partAt] using hbroken⟩
  | keys allowed =>
    constructor
    · rintro hfits p r ⟨⟨key, rfl, hkey, rfl⟩, ⟨fs, hfs, -⟩, hbroken⟩
      -- a key that is not allowed is not there
      have hnone : fs.lookup key = none :=
        List.lookup_eq_none_iff.mpr fun entry hentry => by
          have hmem := hfits fs hfs entry.1 (List.mem_map_of_mem hentry)
          simpa using fun heq : key = entry.1 => hkey (heq ▸ hmem)
      simp [partAt, hfs, hnone, Rule.notAllowed] at hbroken
    · intro hnone fs hfs key hkey
      by_contra hnot
      refine hnone [.field key] .notAllowed ⟨⟨key, rfl, hnot, rfl⟩, ⟨fs, hfs, trivial⟩, ?_⟩
      have hsome : fs.lookup key ≠ none := fun hlookup => by
        obtain ⟨entry, hentry, rfl⟩ := List.mem_map.mp hkey
        simpa using List.lookup_eq_none_iff.mp hlookup entry hentry
      simpa [partAt, hfs, Rule.notAllowed, Option.isSome_iff_ne_none] using hsome
  | field name g ih =>
    constructor
    · rintro hfits p r hbreaks
      obtain ⟨q, rfl, -⟩ := hbreaks.asks
      obtain ⟨fs, hfs, -⟩ := hbreaks.reaches
      exact (ih _).mp (hfits fs hfs) q r ((breaks_field hfs).mp hbreaks)
    · intro hnone fs hfs
      exact (ih _).mpr fun p r hbreaks => hnone _ r ((breaks_field hfs).mpr hbreaks)
  | items g ih =>
    constructor
    · rintro hfits p r hbreaks
      obtain ⟨i, q, rfl, -⟩ := hbreaks.asks
      obtain ⟨xs, x, hxs, hx, -⟩ := hbreaks.reaches
      exact (ih _).mp (hfits xs hxs x (List.mem_of_getElem? hx)) q r
        ((breaks_items hxs hx).mp hbreaks)
    · intro hnone xs hxs x hmem
      obtain ⟨i, hx⟩ := List.mem_iff_getElem?.mp hmem
      exact (ih _).mpr fun p r hbreaks => hnone _ r ((breaks_items hxs hx).mpr hbreaks)
  | both g h ihg ihh =>
    rw [Fits, ihg, ihh]
    constructor
    · rintro ⟨hg, hh⟩ p r ⟨hasks, hreaches, hbroken⟩
      rcases hasks with hasks | hasks
      · exact hg p r ⟨hasks, hreaches, hbroken⟩
      · exact hh p r ⟨hasks, hreaches, hbroken⟩
    · intro hnone
      exact ⟨fun p r hb => hnone p r ⟨Or.inl hb.asks, hb.reaches, hb.broken⟩,
        fun p r hb => hnone p r ⟨Or.inr hb.asks, hb.reaches, hb.broken⟩⟩

/-! ### What a report depends on -/

lemma breaks_rule : (rule r).Breaks v [] r ↔ r.holds v = false :=
  ⟨fun h => h.broken, fun h => ⟨⟨rfl, rfl⟩, trivial, h⟩⟩

lemma report_of_unbroken (path : String) (h : ∀ p r, ¬ g.Breaks v p r) : g.report path v = [] :=
  (report_eq_nil_iff g path v).mpr ((fits_iff g v).mpr h)

lemma SameKeys.field {name : String} {fs fs' : List (String × V)} (h : SameKeys v w)
    (hv : v.bind fields = some fs) (hw : w.bind fields = some fs') :
    SameKeys (fs.lookup name) (fs'.lookup name) := by
  intro p
  have hp := h (.field name :: p)
  rwa [keysAt, keysAt, partAt, partAt, hv, hw] at hp

lemma SameKeys.item {xs xs' : List V} {i : ℕ} {x x' : V} (h : SameKeys v w)
    (hv : v.bind Parts.items = some xs) (hw : w.bind Parts.items = some xs')
    (hx : xs[i]? = some x) (hx' : xs'[i]? = some x') : SameKeys (some x) (some x') := by
  intro p
  have hp := h (.item i :: p)
  rwa [keysAt, keysAt, partAt, partAt, hv, hw, Option.bind_some, Option.bind_some, hx, hx'] at hp

/-- Two lists whose items give the same, each at its index, give the same together. -/
lemma flatten_zipIdx_congr {α β : Type*} {f : α × ℕ → List β} {xs ys : List α} {k : ℕ}
    (h : ∀ i, (xs[i]?).elim [] (fun x => f (x, k + i)) = (ys[i]?).elim [] fun y => f (y, k + i)) :
    ((xs.zipIdx k).map f).flatten = ((ys.zipIdx k).map f).flatten := by
  induction xs generalizing ys k with
  | nil =>
    induction ys generalizing k with
    | nil => rfl
    | cons y ys ih =>
      have hhead := h 0
      rw [List.zipIdx_cons, List.map_cons, List.flatten_cons, ← ih (k := k + 1)]
      · simpa using hhead
      · intro i
        simpa [Nat.add_assoc, Nat.add_comm 1] using h (i + 1)
  | cons x xs ih =>
    have hhead := h 0
    have htail : ((xs.zipIdx (k + 1)).map f).flatten = ((ys.tail.zipIdx (k + 1)).map f).flatten :=
      ih fun i => by cases ys <;> simpa [Nat.add_assoc, Nat.add_comm 1] using h (i + 1)
    rw [List.zipIdx_cons, List.map_cons, List.flatten_cons, htail]
    cases ys with
    | nil => simpa using hhead
    | cons y ys =>
      rw [List.zipIdx_cons, List.map_cons, List.flatten_cons]
      simpa using hhead

/-- What is reported of two documents with the same keys that break the same rules is the same,
whatever their values are. -/
theorem report_congr (g : Grammar V) (path : String) (hkeys : SameKeys v w)
    (hbreaks : ∀ p r, g.Breaks v p r ↔ g.Breaks w p r) : g.report path v = g.report path w := by
  induction g generalizing path v w with
  | free => rfl
  | skip => rfl
  | rule r =>
    have hr := hbreaks [] r
    rw [breaks_rule, breaks_rule] at hr
    rw [report, report]
    cases hv : r.holds v <;> cases hw : r.holds w <;> simp_all
  | keys allowed =>
    have hroot : ((v.bind fields).getD []).map Prod.fst = ((w.bind fields).getD []).map Prod.fst :=
      hkeys []
    rw [report, report, hroot]
  | field name g ih =>
    rcases hv : v.bind fields with _ | fs <;> rcases hw : w.bind fields with _ | fs'
    · simp only [report, hv, hw]
    · -- only the second has an object here, and it breaks nothing in it
      have hnone := report_of_unbroken (g := g) (dotted path name) fun p r hb => by
        obtain ⟨fs, hfs, -⟩ := ((hbreaks _ r).mpr ((breaks_field hw).mpr hb)).reaches
        cases hv.symm.trans hfs
      simp only [report, hv, hw, hnone]
    · have hnone := report_of_unbroken (g := g) (dotted path name) fun p r hb => by
        obtain ⟨fs, hfs, -⟩ := ((hbreaks _ r).mp ((breaks_field hv).mpr hb)).reaches
        cases hw.symm.trans hfs
      simp only [report, hv, hw, hnone]
    · simp only [report, hv, hw]
      refine ih _ (hkeys.field hv hw) fun p r => ?_
      rw [← breaks_field hv, ← breaks_field hw]
      exact hbreaks _ r
  | items g ih =>
    have hunbroken : ∀ {a b : Option V} {xs : List V} {i : ℕ} {x : V} (path : String),
        (∀ p r, (items g).Breaks a p r → (items g).Breaks b p r) →
        a.bind Parts.items = some xs → xs[i]? = some x →
        (∀ ys, b.bind Parts.items = some ys → ys[i]? = none) → g.report path (some x) = [] := by
      intro a b xs i x path hab ha hx hb
      refine report_of_unbroken path fun p r hbroken => ?_
      obtain ⟨ys, y, hys, hy, -⟩ := (hab _ r ((breaks_items ha hx).mpr hbroken)).reaches
      cases (hb ys hys).symm.trans hy
    rcases hv : v.bind Parts.items with _ | xs <;> rcases hw : w.bind Parts.items with _ | ys
    · simp only [report, hv, hw]
    · simp only [report, hv, hw]
      symm
      rw [List.flatten_eq_nil_iff]
      rintro _ hmem
      obtain ⟨⟨y, i⟩, hy, rfl⟩ := List.mem_map.mp hmem
      exact hunbroken _ (fun p r => (hbreaks p r).mpr) hw (List.mem_zipIdx_iff_getElem?.mp hy)
        fun _ h => by cases hv.symm.trans h
    · simp only [report, hv, hw]
      rw [List.flatten_eq_nil_iff]
      rintro _ hmem
      obtain ⟨⟨x, i⟩, hx, rfl⟩ := List.mem_map.mp hmem
      exact hunbroken _ (fun p r => (hbreaks p r).mp) hv (List.mem_zipIdx_iff_getElem?.mp hx)
        fun _ h => by cases hw.symm.trans h
    · simp only [report, hv, hw]
      refine flatten_zipIdx_congr fun i => ?_
      rcases hx : xs[i]? with _ | x <;> rcases hy : ys[i]? with _ | y
      · rfl
      · exact (hunbroken _ (fun p r => (hbreaks p r).mpr) hw hy fun xs' h =>
          Option.some.inj (hv.symm.trans h) ▸ hx).symm
      · exact hunbroken _ (fun p r => (hbreaks p r).mp) hv hx fun ys' h =>
          Option.some.inj (hw.symm.trans h) ▸ hy
      · refine ih _ (hkeys.item hv hw hx hy) fun p r => ?_
        rw [← breaks_items hv hx, ← breaks_items hw hy]
        exact hbreaks _ r
  | both g h ihg ihh =>
    -- a rule that both parts have is broken by both or by none
    have hside : ∀ {k : Grammar V} {a b : Option V} {p : Place} {r : Rule V},
        ((both g h).Breaks a p r → (both g h).Breaks b p r) → k.Breaks a p r →
        (k.Asks p r → (both g h).Asks p r) → k.Breaks b p r := by
      intro k a b p r hab hk hasks
      have hb := hab ⟨hasks hk.asks, hk.reaches, hk.broken⟩
      exact ⟨hk.asks, hb.reaches, hb.broken⟩
    rw [report, report]
    rw [ihg path hkeys fun p r => ⟨fun hb => hside (hbreaks p r).mp hb Or.inl,
        fun hb => hside (hbreaks p r).mpr hb Or.inl⟩,
      ihh path hkeys fun p r => ⟨fun hb => hside (hbreaks p r).mp hb Or.inr,
        fun hb => hside (hbreaks p r).mpr hb Or.inr⟩]

/-! ### The parts of a document that fits -/

lemma partAt_none (p : Place) : partAt (none : Option V) p = none := by
  induction p with
  | nil => rfl
  | cons step p ih => cases step <;> exact ih

omit [Parts V] in
lemma names_nil (g : Grammar V) : g.Names [] := by
  induction g with
  | free => trivial
  | skip => rfl
  | rule r => rfl
  | keys allowed => rfl
  | field name g ih => exact Or.inl rfl
  | items g ih => exact Or.inl rfl
  | both g h ihg ihh => exact Or.inl ihg

omit [Parts V] in
lemma names_all {gs : List (Grammar V)} (hmem : g ∈ gs) (h : g.Names p) : (all gs).Names p := by
  induction gs with
  | nil => cases hmem
  | cons g' gs ih =>
    rcases List.mem_cons.mp hmem with rfl | hmem
    · exact Or.inl h
    · exact Or.inr (ih hmem)

omit [Parts V] in
lemma asks_all {gs : List (Grammar V)} (hmem : g ∈ gs) (h : g.Asks p r) : (all gs).Asks p r := by
  induction gs with
  | nil => cases hmem
  | cons g' gs ih =>
    rcases List.mem_cons.mp hmem with rfl | hmem
    · exact Or.inl h
    · exact Or.inr (ih hmem)

/-- A grammar of values without parts. -/
lemma covers_of_leaf (h : ∀ v, g.Fits (some v) → fields v = none ∧ Parts.items v = none) :
    g.Covers := by
  intro v p x hfits hx
  cases v with
  | none => simp [partAt_none] at hx
  | some v =>
    obtain ⟨hfields, hitems⟩ := h v hfits
    rcases p with _ | ⟨_ | _, p⟩
    · exact names_nil g
    · simp [partAt, hfields, partAt_none] at hx
    · simp [partAt, hitems, partAt_none] at hx

lemma row_of_name {gs : List (Grammar V)} {name : String} (h : name ∈ rowNames gs)
    (hrows : RowsCover gs) : ∃ g, field name g ∈ gs ∧ g.Covers := by
  induction gs with
  | nil => cases h
  | cons g gs ih =>
    cases g with
    | field name' g =>
      rcases List.mem_cons.mp h with rfl | h
      · exact ⟨g, List.mem_cons_self, hrows.1⟩
      · obtain ⟨g', hmem, hcovers⟩ := ih h hrows.2
        exact ⟨g', List.mem_cons_of_mem _ hmem, hcovers⟩
    | _ =>
      obtain ⟨g', hmem, hcovers⟩ := ih h hrows
      exact ⟨g', List.mem_cons_of_mem _ hmem, hcovers⟩

/-- A grammar of objects that has a row for every key. -/
lemma covers_object {gs : List (Grammar V)} {allowed : List String} (hkeys : keys allowed ∈ gs)
    (hitems : ∀ v, (all gs).Fits (some v) → Parts.items v = none)
    (hnames : ∀ name ∈ allowed, name ∈ rowNames gs) (hrows : RowsCover gs) :
    (all gs).Covers := by
  intro v p x hfits hx
  cases v with
  | none => simp [partAt_none] at hx
  | some v =>
    rcases p with _ | ⟨name | i, p⟩
    · exact names_nil _
    · rcases hfs : fields v with _ | fs
      · simp [partAt, hfs, partAt_none] at hx
      simp only [partAt, hfs, Option.bind_some] at hx
      have hall := (fits_all gs _).mp hfits
      have hkey : name ∈ fs.map Prod.fst := by
        by_contra hnot
        have hnone : fs.lookup name = none :=
          List.lookup_eq_none_iff.mpr fun entry hentry => by
            simpa using fun heq : name = entry.1 => hnot (heq ▸ List.mem_map_of_mem hentry)
        simp [hnone, partAt_none] at hx
      have hname := hnames name (hall _ hkeys fs (by simpa using hfs) name hkey)
      obtain ⟨g, hmem, hg⟩ := row_of_name hname hrows
      exact names_all hmem
        (Or.inr ⟨p, rfl, hg _ p x (hall _ hmem fs (by simpa using hfs)) hx⟩)
    · simp [partAt, hitems v hfits, partAt_none] at hx

/-- A grammar of lists that has a word on the items. -/
lemma covers_list {gs : List (Grammar V)} (hmem : items g ∈ gs) (hg : g.Covers)
    (hfields : ∀ v, (all gs).Fits (some v) → fields v = none) : (all gs).Covers := by
  intro v p x hfits hx
  cases v with
  | none => simp [partAt_none] at hx
  | some v =>
    rcases p with _ | ⟨name | i, p⟩
    · exact names_nil _
    · simp [partAt, hfields v hfits, partAt_none] at hx
    · rcases hxs : Parts.items v with _ | xs
      · simp [partAt, hxs, partAt_none] at hx
      simp only [partAt, hxs, Option.bind_some] at hx
      rcases hy : xs[i]? with _ | y
      · simp [hy, partAt_none] at hx
      rw [hy] at hx
      have hitem := (fits_all gs _).mp hfits _ hmem xs (by simpa using hxs) y
        (List.mem_of_getElem? hy)
      exact names_all hmem (Or.inr ⟨i, p, rfl, hg _ p x hitem hx⟩)

/-- A grammar that leaves its part alone. -/
lemma covers_free {gs : List (Grammar V)} (hmem : free ∈ gs) : (all gs).Covers :=
  fun _ _ _ _ _ => names_all hmem trivial

end Lemmas

end Grammar

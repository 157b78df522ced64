import Mathlib.Data.List.Basic
import Mathlib.Tactic

/-!
# Quoted literals

A text in which some characters are quotes: a quote begins a literal, an undoubled quote ends
it, and of two quotes in a row the second one belongs to the literal.  A writer doubles one of
the quotes only, so what it writes is read back exactly if no other quote is in it.

A *form* is a fixed text with slots: what is written around and between the values is fixed.
`Form.read_iff` says when the text of a form is read as the form with its values in it.
-/

namespace Quoted

variable {α : Type*}

/-- What a reader sees. -/
inductive Piece (α : Type*) where
  /-- A character outside the literals. -/
  | code (c : α)
  | literal (content : List α)
deriving DecidableEq, Repr

/-- Reads a text; `some content`: inside a literal that has begun with this content.  `none`: a
literal is not ended. -/
def read (isQuote : α → Bool) : Option (List α) → List α → Option (List (Piece α))
  | none, [] => some []
  | none, c :: rest =>
    if isQuote c then read isQuote (some []) rest
    else (read isQuote none rest).map fun pieces => .code c :: pieces
  | some _, [] => none
  | some content, [c] => if isQuote c then some [.literal content] else none
  | some content, c :: d :: rest =>
    if isQuote c then
      if isQuote d then read isQuote (some (content ++ [d])) rest
      else (read isQuote none (d :: rest)).map fun pieces => .literal content :: pieces
    else read isQuote (some (content ++ [c])) (d :: rest)

/-- Doubles a quote. -/
def escape [DecidableEq α] (q : α) (value : List α) : List α :=
  value.flatMap fun c => if c = q then [q, q] else [c]

/-- A value in a literal, with fixed text around it, and the text that follows. -/
structure Slot (α : Type*) where
  before : List α
  value : List α
  after : List α
  code : List α

namespace Slot

/-- What is written. -/
def text [DecidableEq α] (q : α) (x : Slot α) : List α :=
  q :: (x.before ++ escape q x.value ++ x.after ++ q :: x.code)

/-- What is meant. -/
def pieces (x : Slot α) : List (Piece α) :=
  .literal (x.before ++ x.value ++ x.after) :: x.code.map .code

/-- The fixed texts have no quotes, and a literal is not followed by another one at once. -/
structure Plain (isQuote : α → Bool) (x : Slot α) : Prop where
  before : ∀ c ∈ x.before, isQuote c = false
  after : ∀ c ∈ x.after, isQuote c = false
  code : ∀ c ∈ x.code, isQuote c = false
  apart : x.code ≠ []

end Slot

/-- A fixed text with slots. -/
structure Form (α : Type*) where
  head : List α
  slots : List (Slot α)

namespace Form

def text [DecidableEq α] (q : α) (f : Form α) : List α := f.head ++ f.slots.flatMap (Slot.text q)

def pieces (f : Form α) : List (Piece α) := f.head.map .code ++ f.slots.flatMap Slot.pieces

structure Plain (isQuote : α → Bool) (f : Form α) : Prop where
  head : ∀ c ∈ f.head, isQuote c = false
  slots : ∀ x ∈ f.slots, x.Plain isQuote

end Form

/-- A value with no quote but the one that is doubled. -/
def Straight (isQuote : α → Bool) (q : α) (value : List α) : Prop :=
  ∀ c ∈ value, isQuote c = true → c = q

/-! ### Reading -/

section Read

variable {isQuote : α → Bool} {q : α}

lemma read_code {c : α} (h : isQuote c = false) (rest : List α) :
    read isQuote none (c :: rest) =
      (read isQuote none rest).map fun pieces => .code c :: pieces := by
  simp [read, h]

lemma read_open {c : α} (h : isQuote c = true) (rest : List α) :
    read isQuote none (c :: rest) = read isQuote (some []) rest := by
  simp [read, h]

lemma read_inside {c : α} (h : isQuote c = false) (content rest : List α) :
    read isQuote (some content) (c :: rest) = read isQuote (some (content ++ [c])) rest := by
  cases rest with
  | nil => simp [read, h]
  | cons d rest => simp [read, h]

lemma read_doubled {c d : α} (hc : isQuote c = true) (hd : isQuote d = true)
    (content rest : List α) :
    read isQuote (some content) (c :: d :: rest) =
      read isQuote (some (content ++ [d])) rest := by
  simp [read, hc, hd]

lemma read_close {c d : α} (hc : isQuote c = true) (hd : isQuote d = false)
    (content rest : List α) :
    read isQuote (some content) (c :: d :: rest) =
      (read isQuote none (d :: rest)).map fun pieces => .literal content :: pieces := by
  simp [read, hc, hd]

/-- Text without quotes is read as it stands. -/
lemma read_codes {code : List α} (h : ∀ c ∈ code, isQuote c = false) (rest : List α) :
    read isQuote none (code ++ rest) =
      (read isQuote none rest).map fun pieces => code.map .code ++ pieces := by
  induction code with
  | nil => simp
  | cons c code ih =>
    rw [List.cons_append, read_code (h c List.mem_cons_self),
      ih fun d hd => h d (List.mem_cons_of_mem _ hd)]
    cases read isQuote none rest <;> simp

lemma read_insides {text : List α} (h : ∀ c ∈ text, isQuote c = false) (content rest : List α) :
    read isQuote (some content) (text ++ rest) = read isQuote (some (content ++ text)) rest := by
  induction text generalizing content with
  | nil => simp
  | cons c text ih =>
    rw [List.cons_append, read_inside (h c List.mem_cons_self),
      ih (fun d hd => h d (List.mem_cons_of_mem _ hd))]
    simp

/-! ### The content of a literal -/

/-- The content of a literal that has begun, up to its end. -/
def content (isQuote : α → Bool) : List α → Option (List α)
  | [] => none
  | [c] => if isQuote c then some [] else none
  | c :: d :: rest =>
    if isQuote c then if isQuote d then (content isQuote rest).map (d :: ·) else some []
    else (content isQuote (d :: rest)).map (c :: ·)

/-- What is read inside a literal begins with the literal. -/
lemma read_content {begun text : List α} {pieces : List (Piece α)}
    (h : read isQuote (some begun) text = some pieces) :
    ∃ rest pieces', content isQuote text = some rest ∧
      pieces = .literal (begun ++ rest) :: pieces' := by
  induction text using List.twoStepInduction generalizing begun pieces with
  | nil => simp [read] at h
  | singleton c =>
    by_cases hc : isQuote c = true
    · rw [read, if_pos hc] at h
      cases h
      exact ⟨[], [], by simp [content, hc], by simp⟩
    · simp [read, hc] at h
  | cons_cons c d text ih ih' =>
    by_cases hc : isQuote c = true
    · by_cases hd : isQuote d = true
      · rw [read_doubled hc hd] at h
        obtain ⟨rest, pieces', hrest, rfl⟩ := ih h
        exact ⟨d :: rest, pieces', by simp [content, hc, hd, hrest], by simp⟩
      · rw [read_close hc (by simpa using hd), Option.map_eq_some_iff] at h
        obtain ⟨pieces', -, rfl⟩ := h
        exact ⟨[], pieces', by simp [content, hc, hd], by simp⟩
    · rw [read_inside (by simpa using hc)] at h
      obtain ⟨rest, pieces', hrest, rfl⟩ := ih' _ h
      exact ⟨c :: rest, pieces', by simp [content, hc, hrest], by simp⟩

variable [DecidableEq α]

/-! ### Reading what was written -/

@[simp] lemma escape_nil : escape q ([] : List α) = [] := rfl

lemma escape_cons_self (value : List α) : escape q (q :: value) = q :: q :: escape q value := by
  simp [escape]

lemma escape_cons_of_ne {c : α} (h : c ≠ q) (value : List α) :
    escape q (c :: value) = c :: escape q value := by
  simp [escape, h]

/-- A straight value is read back. -/
lemma read_escape (hq : isQuote q = true) {value : List α} (h : Straight isQuote q value)
    (content rest : List α) :
    read isQuote (some content) (escape q value ++ rest) =
      read isQuote (some (content ++ value)) rest := by
  induction value generalizing content with
  | nil => simp
  | cons c value ih =>
    have ih' := fun content => ih (fun d hd => h d (List.mem_cons_of_mem _ hd)) content
    by_cases hc : c = q
    · subst hc
      rw [escape_cons_self, List.cons_append, List.cons_append, read_doubled hq hq, ih']
      simp
    · have hplain : isQuote c = false := by
        rw [Bool.eq_false_iff]
        exact fun hquote => hc (h c List.mem_cons_self hquote)
      rw [escape_cons_of_ne hc, List.cons_append, read_inside hplain, ih']
      simp

/-- A reader that lags behind never catches up: what is left to read, `lag` first, begins with
a quote that was not doubled. -/
lemma content_ne_of_lag (hq : isQuote q = true) {c : α} (hc : isQuote c = false)
    {after : List α} (hafter : ∀ d ∈ after, isQuote d = false) (rest : List α) :
    ∀ (n : ℕ) (value : List α), value.length ≤ n → ∀ (lag : List α),
      (∀ d ∈ lag, isQuote d = true ∧ d ≠ q) →
      (∃ d tail, lag ++ value = d :: tail ∧ isQuote d = true ∧ d ≠ q) →
      content isQuote (escape q value ++ after ++ q :: c :: rest) ≠
        some (lag ++ value ++ after) := by
  intro n
  induction n with
  | zero =>
    intro value hlen lag hlag hfirst
    obtain rfl : value = [] := List.eq_nil_of_length_eq_zero (Nat.le_zero.mp hlen)
    obtain ⟨d, tail, hsplit, hd, hdq⟩ := hfirst
    rw [List.append_nil] at hsplit
    subst hsplit
    cases after with
    | nil => simp [content, hq, hc]
    | cons a after =>
      have ha := hafter a List.mem_cons_self
      have hne : a ≠ d := by
        rintro rfl
        rw [ha] at hd
        cases hd
      cases after <;> simp [content, ha, hne]
  | succ n ih =>
    intro value hlen lag hlag hfirst
    obtain ⟨d, tail, hsplit, hd, hdq⟩ := hfirst
    cases value with
    | nil => exact ih [] (by simp) lag hlag ⟨d, tail, hsplit, hd, hdq⟩
    | cons a value =>
      -- a value that goes on with something else than the first character of the lag is lost
      have hhead : ∀ (b : α) (text : List α), b ≠ d →
          (content isQuote text).map (b :: ·) ≠ some (lag ++ a :: value ++ after) := by
        intro b text hb
        rw [hsplit]
        cases content isQuote text <;> simp [hb]
      by_cases haq : a = q
      · -- the doubled quote
        subst haq
        rw [escape_cons_self]
        simp only [List.cons_append, content, hq, if_true]
        exact hhead a _ (Ne.symm hdq)
      · rw [escape_cons_of_ne haq]
        by_cases ha : isQuote a = true
        · -- an undoubled quote: it ends the literal, or swallows the next one
          cases value with
          | nil =>
            cases after with
            | nil =>
              simp only [escape_nil, List.nil_append, List.cons_append, List.append_nil, content,
                ha, hq, if_true]
              have := hhead q (c :: rest) (Ne.symm hdq)
              rwa [List.append_nil] at this
            | cons b after =>
              have hb := hafter b List.mem_cons_self
              simp [content, ha, hb]
          | cons b value =>
            by_cases hbq : b = q
            · subst hbq
              rw [escape_cons_self]
              simp only [List.cons_append, content, ha, hq, if_true]
              exact hhead b _ (Ne.symm hdq)
            · rw [escape_cons_of_ne hbq]
              by_cases hb : isQuote b = true
              · simp only [List.cons_append, content, ha, hb, if_true]
                by_cases hbd : b = d
                · -- the reader has fallen back by one more character
                  subst hbd
                  intro hread
                  rw [Option.map_eq_some_iff] at hread
                  obtain ⟨read', hread', heq⟩ := hread
                  have hlen' : value.length ≤ n := by
                    simp only [List.length_cons] at hlen
                    omega
                  cases lag with
                  | nil =>
                    simp only [List.nil_append, List.cons_append, List.cons.injEq] at heq
                    refine ih value hlen' [b] (by simp [hb, hdq]) ⟨b, value, rfl, hb, hdq⟩ ?_
                    rw [hread', heq.2]
                    rfl
                  | cons e lag =>
                    simp only [List.cons_append, List.cons.injEq] at heq hsplit
                    have hlag' : ∀ d ∈ lag ++ [a, b], isQuote d = true ∧ d ≠ q := by
                      intro d hd'
                      rcases List.mem_append.mp hd' with h | h
                      · exact hlag d (List.mem_cons_of_mem _ h)
                      · rcases List.mem_cons.mp h with rfl | h
                        · exact ⟨ha, haq⟩
                        · rw [List.mem_singleton.mp h]
                          exact ⟨hb, hdq⟩
                    have hfirst' : ∃ d tail, lag ++ [a, b] ++ value = d :: tail ∧
                        isQuote d = true ∧ d ≠ q := by
                      cases lag with
                      | nil => exact ⟨a, _, rfl, ha, haq⟩
                      | cons f lag =>
                        exact ⟨f, _, rfl, hlag f (by simp)⟩
                    refine ih value hlen' (lag ++ [a, b]) hlag' hfirst' ?_
                    rw [hread', heq.2]
                    simp
                · exact hhead b _ hbd
              · simp [content, ha, hb]
        · -- an ordinary character: the lag is not empty
          have had : a ≠ d := by
            rintro rfl
            exact ha hd
          have hstep : ∀ text : List α, text ≠ [] → content isQuote (a :: text) =
              (content isQuote text).map (a :: ·) := by
            intro text htext
            cases text with
            | nil => exact absurd rfl htext
            | cons b text => simp [content, ha]
          rw [List.cons_append, List.cons_append, hstep _ (by simp)]
          exact hhead a _ had

/-- A value with a quote that is not doubled is not read back. -/
lemma straight_of_content (hq : isQuote q = true) {c : α} (hc : isQuote c = false)
    {after : List α} (hafter : ∀ d ∈ after, isQuote d = false) {value rest : List α}
    (h : content isQuote (escape q value ++ after ++ q :: c :: rest) = some (value ++ after)) :
    Straight isQuote q value := by
  induction value with
  | nil => exact fun _ hd => (List.not_mem_nil hd).elim
  | cons a value ih =>
    have hgo : content isQuote (escape q value ++ after ++ q :: c :: rest) =
        some (value ++ after) → (isQuote a = true → a = q) → Straight isQuote q (a :: value) := by
      intro hrest ha d hd
      rcases List.mem_cons.mp hd with rfl | hd
      · exact ha
      · exact ih hrest d hd
    by_cases haq : a = q
    · subst haq
      rw [escape_cons_self] at h
      simp only [List.cons_append, content, hq, if_true, Option.map_eq_some_iff,
        List.cons.injEq, true_and, exists_eq_right] at h
      exact hgo h fun _ => rfl
    · by_cases ha : isQuote a = true
      · refine absurd ?_ (content_ne_of_lag hq hc hafter rest _ (a :: value) le_rfl [] (by simp)
          ⟨a, value, rfl, ha, haq⟩)
        rw [h]
        rfl
      · have hstep : ∀ text : List α, text ≠ [] → content isQuote (a :: text) =
            (content isQuote text).map (a :: ·) := by
          intro text htext
          cases text with
          | nil => exact absurd rfl htext
          | cons b text => simp [content, ha]
        rw [escape_cons_of_ne haq, List.cons_append, List.cons_append, hstep _ (by simp)] at h
        simp only [List.cons_append, Option.map_eq_some_iff, List.cons.injEq, true_and,
          exists_eq_right] at h
        exact hgo h fun ha' => absurd ha' ha

/-! ### Forms -/

/-- A slot is read as it is meant, with all that follows, just when its value is straight. -/
lemma read_slot (hq : isQuote q = true) {x : Slot α} (hx : x.Plain isQuote) {rest : List α}
    {pieces : List (Piece α)} :
    read isQuote none (x.text q ++ rest) = some (x.pieces ++ pieces) ↔
      Straight isQuote q x.value ∧ read isQuote none rest = some pieces := by
  obtain ⟨before, value, after, code⟩ := x
  obtain ⟨c, code, rfl⟩ := List.exists_cons_of_ne_nil hx.apart
  have hc := hx.code c List.mem_cons_self
  simp only [Slot.text, Slot.pieces, List.cons_append, List.append_assoc]
  rw [read_open hq, read_insides hx.before, List.nil_append]
  -- a straight value is read up to the end of the literal
  have hstraight : Straight isQuote q value →
      read isQuote (some before) (escape q value ++ (after ++ q :: c :: (code ++ rest))) =
        (read isQuote none rest).map fun pieces =>
          .literal (before ++ (value ++ after)) :: (c :: code).map .code ++ pieces := by
    intro hvalue
    rw [read_escape hq hvalue, read_insides hx.after, read_close hq hc,
      ← List.cons_append, read_codes hx.code]
    cases read isQuote none rest <;> simp
  constructor
  · intro h
    have hvalue : Straight isQuote q value := by
      obtain ⟨content', pieces', hcontent, heq⟩ := read_content h
      simp only [List.cons.injEq, Piece.literal.injEq, List.append_cancel_left_eq] at heq
      rw [← heq.1, ← List.append_assoc] at hcontent
      exact straight_of_content hq hc hx.after hcontent
    rw [hstraight hvalue, Option.map_eq_some_iff] at h
    obtain ⟨pieces', hread, heq⟩ := h
    simp only [List.cons_append, List.cons.injEq, true_and, List.append_cancel_left_eq] at heq
    exact ⟨hvalue, by rw [hread, heq]⟩
  · rintro ⟨hvalue, hread⟩
    rw [hstraight hvalue, hread]
    simp

/-- The text of a form is read as the form just when all its values are straight. -/
theorem Form.read_iff (hq : isQuote q = true) {f : Form α} (hf : f.Plain isQuote) :
    read isQuote none (f.text q) = some f.pieces ↔
      ∀ x ∈ f.slots, Straight isQuote q x.value := by
  obtain ⟨head, slots⟩ := f
  have hslots : ∀ x ∈ slots, x.Plain isQuote := hf.slots
  have hread : read isQuote none (slots.flatMap (Slot.text q)) =
      some (slots.flatMap Slot.pieces) ↔ ∀ x ∈ slots, Straight isQuote q x.value := by
    clear hf
    induction slots with
    | nil => simp [read]
    | cons x slots ih =>
      rw [List.flatMap_cons, List.flatMap_cons, read_slot hq (hslots x List.mem_cons_self),
        ih fun y hy => hslots y (List.mem_cons_of_mem _ hy), List.forall_mem_cons]
  rw [← hread, text, pieces, read_codes hf.head, Option.map_eq_some_iff]
  constructor
  · rintro ⟨pieces', hpieces, heq⟩
    rw [hpieces, List.append_cancel_left heq]
  · exact fun h => ⟨_, h, rfl⟩

end Read

end Quoted

import Mathlib.Data.List.DropRight
import Mathlib.Tactic

/-!
# Queries of URLs

A query passes through two hands.  Who opens a URL cuts off what cannot be part of it (spaces
and control characters at its ends, line breaks and tabs, the fragment) and quotes the
characters that a query may not have; a percent sign stays as it is.  Who reads the query
splits it at its ampersands into fields of a name and a value, and takes plus signs and percent
signs as codes.

So a value that was written at the end of a URL without being quoted is read as it is only if
it is *plain*.  `readBack` is what is read; `readBack_of_plain` and `plain_of_length` say which
values are plain: every code and every cut makes the value shorter.
-/

namespace UrlQuery

/-! ### Texts in bytes -/

/-- Whether the second byte of a sequence of three or four fits the first. -/
def secondFits (b b₁ : UInt8) : Bool :=
  if b = 0xE0 then 0xA0 ≤ b₁ && b₁ ≤ 0xBF
  else if b = 0xED then 0x80 ≤ b₁ && b₁ ≤ 0x9F
  else if b = 0xF0 then 0x90 ≤ b₁ && b₁ ≤ 0xBF
  else if b = 0xF4 then 0x80 ≤ b₁ && b₁ ≤ 0x8F
  else 0xE1 ≤ b && b ≤ 0xF3 && 0x80 ≤ b₁ && b₁ ≤ 0xBF

/-- How many of the next bytes still belong to a sequence that a byte begins, but which is no
character. -/
def brokenTail (b : UInt8) : List UInt8 → ℕ
  | [] => 0
  | [b₁] => if secondFits b b₁ then 1 else 0
  | b₁ :: b₂ :: _ =>
    if secondFits b b₁ then
      if 0xF0 ≤ b ∧ 0x80 ≤ b₂ ∧ b₂ ≤ 0xBF then 2 else 1
    else 0

/-- The character that a byte begins, or the replacement character, and how many of the next
bytes belong to it. -/
def readChar (b : UInt8) (rest : List UInt8) : Char × ℕ :=
  match ByteArray.utf8DecodeChar? (b :: rest).toByteArray 0 with
  | some c => (c, c.utf8Size - 1)
  | none => ('\uFFFD', brokenTail b rest)

/-- The text of some bytes, with replacement characters for what is no character; the first
`skip` bytes belong to a character that has been read. -/
def lossy : ℕ → List UInt8 → List Char
  | _, [] => []
  | skip + 1, _ :: rest => lossy skip rest
  | 0, b :: rest => (readChar b rest).1 :: lossy (readChar b rest).2 rest

/-- A byte that never begins a character. -/
def Continues (b : UInt8) : Prop := ¬ b.IsUTF8FirstByte

lemma lossy_skip (k : ℕ) (bytes : List UInt8) : lossy k bytes = lossy 0 (bytes.drop k) := by
  induction k generalizing bytes with
  | zero => rfl
  | succ k ih =>
    cases bytes with
    | nil => rfl
    | cons b rest => exact ih rest

/-- A character is read whole, whatever follows it. -/
lemma lossy_utf8EncodeChar (c : Char) (rest : List UInt8) :
    lossy 0 (String.utf8EncodeChar c ++ rest) = c :: lossy 0 rest := by
  obtain ⟨b, tail, htail⟩ : ∃ b tail, String.utf8EncodeChar c = b :: tail :=
    List.exists_cons_of_ne_nil String.utf8EncodeChar_ne_nil
  have hread : readChar b (tail ++ rest) = (c, c.utf8Size - 1) := by
    have hdecode := ByteArray.utf8DecodeChar?_utf8EncodeChar_append (b := rest.toByteArray)
      (c := c)
    rw [htail, ← List.toByteArray_append, List.cons_append] at hdecode
    simp only [readChar, hdecode]
  have hlen : tail.length = c.utf8Size - 1 := by
    have h := String.length_utf8EncodeChar c
    rw [htail, List.length_cons] at h
    omega
  rw [htail, List.cons_append, lossy, hread, lossy_skip, ← hlen, List.drop_left]

lemma continues_of_range {b : UInt8} (hlow : 0x80 ≤ b) (hhigh : b ≤ 0xBF) : Continues b := by
  have hall : ∀ n : Fin 256, 0x80 ≤ UInt8.ofNat n → UInt8.ofNat n ≤ 0xBF →
      ¬ (UInt8.ofNat n).IsUTF8FirstByte := by decide +kernel
  have h := hall ⟨b.toNat, b.toNat_lt⟩
  simp only [UInt8.ofNat_toNat] at h
  exact h hlow hhigh

lemma continues_of_secondFits {b b₁ : UInt8} (h : secondFits b b₁ = true) : Continues b₁ := by
  have hrange : ∀ {lo hi : UInt8}, 0x80 ≤ lo → hi ≤ 0xBF → (lo ≤ b₁ && b₁ ≤ hi) = true →
      Continues b₁ := by
    intro lo hi hlo hhi h
    simp only [Bool.and_eq_true, decide_eq_true_eq] at h
    exact continues_of_range (UInt8.le_trans hlo h.1) (UInt8.le_trans h.2 hhi)
  unfold secondFits at h
  split_ifs at h
  · exact hrange (by decide) (by decide) h
  · exact hrange (by decide) (by decide) h
  · exact hrange (by decide) (by decide) h
  · exact hrange (by decide) (by decide) h
  · simp only [Bool.and_eq_true, decide_eq_true_eq] at h
    exact continues_of_range h.1.2 h.2

lemma take_brokenTail_continues (b : UInt8) (rest : List UInt8) :
    ∀ b' ∈ rest.take (brokenTail b rest), Continues b' := by
  intro b' hb'
  rcases rest with _ | ⟨b₁, _ | ⟨b₂, rest⟩⟩
  · simp at hb'
  · simp only [brokenTail] at hb'
    split at hb'
    next hsecond =>
      obtain rfl : b' = b₁ := by simpa using hb'
      exact continues_of_secondFits hsecond
    next => simp at hb'
  · simp only [brokenTail] at hb'
    split_ifs at hb' with hsecond hthird
    · have h : b' = b₁ ∨ b' = b₂ := by simpa using hb'
      rcases h with rfl | rfl
      · exact continues_of_secondFits hsecond
      · exact continues_of_range hthird.2.1 hthird.2.2
    · obtain rfl : b' = b₁ := by simpa using hb'
      exact continues_of_secondFits hsecond
    · simp at hb'

/-- What belongs to a character that a byte begins are bytes that never begin one. -/
lemma readChar_continues (b : UInt8) (rest : List UInt8) :
    ∀ b' ∈ rest.take (readChar b rest).2, Continues b' := by
  unfold readChar
  rcases hdecode : ByteArray.utf8DecodeChar? (b :: rest).toByteArray 0 with _ | c
  · exact take_brokenTail_continues b rest
  · have hbytes := ByteArray.eq_of_utf8DecodeChar?_eq_some hdecode
    have hlist := congrArg (fun bytes : ByteArray => bytes.data.toList) hbytes
    simp only [List.toList_data_toByteArray, ByteArray.data_append, Array.toList_append] at hlist
    change ∀ b' ∈ rest.take (c.utf8Size - 1), Continues b'
    intro b' hb'
    obtain ⟨i, hi, rfl⟩ := List.mem_iff_getElem.mp hb'
    have hsize := String.length_utf8EncodeChar c
    rw [List.length_take] at hi
    have hi' : i + 1 < (String.utf8EncodeChar c).length := by omega
    have hsame : (rest.take (c.utf8Size - 1))[i] = (String.utf8EncodeChar c)[i + 1] := by
      have h : (b :: rest)[i + 1]? = (String.utf8EncodeChar c)[i + 1]? := by
        rw [hlist, List.getElem?_append_left hi']
      rw [List.getElem?_eq_getElem hi', List.getElem?_cons_succ,
        List.getElem?_eq_getElem (by omega), Option.some.injEq] at h
      rw [List.getElem_take, h]
    rw [hsame]
    exact fun h => absurd (UInt8.isUTF8FirstByte_getElem_utf8EncodeChar.mp h) (by omega)

/-! ### Who opens a URL -/

/-- A space or a control character: cut off at the ends. -/
def isBlankEnd (c : Char) : Bool := c.toNat ≤ 0x20

/-- Tabs and line breaks are left out. -/
def isBreak (c : Char) : Bool := c = '\t' || c = '\n' || c = '\r'

/-- The characters of a query that are quoted. -/
def isQuoted (c : Char) : Bool :=
  c.toNat < 0x20 || 0x7E < c.toNat || c = ' ' || c = '"' || c = '#' || c = '<' || c = '>' ||
    c = '\x27'

/-- The hexadecimal digit of a number below sixteen. -/
def hexDigit (n : ℕ) : Char := Char.ofNat (if n < 10 then 0x30 + n else 0x37 + n)

def quoteByte (b : UInt8) : List Char := ['%', hexDigit (b.toNat / 16), hexDigit (b.toNat % 16)]

def quote (c : Char) : List Char :=
  if isQuoted c then (String.utf8EncodeChar c).flatMap quoteByte else [c]

/-- The query of a URL, as it is sent. -/
def query (url : List Char) : List Char :=
  let kept := ((url.dropWhile isBlankEnd).rdropWhile isBlankEnd).filter fun c => !isBreak c
  match kept.dropWhile fun c => c ≠ '?' && c ≠ '#' with
  | '?' :: rest => (rest.takeWhile (· ≠ '#')).flatMap quote
  | _ => []

/-! ### Who reads a query -/

def hexValue (c : Char) : Option ℕ :=
  if '0' ≤ c ∧ c ≤ '9' then some (c.toNat - 0x30)
  else if 'a' ≤ c ∧ c ≤ 'f' then some (c.toNat - 0x57)
  else if 'A' ≤ c ∧ c ≤ 'F' then some (c.toNat - 0x37)
  else none

/-- The byte that two digits stand for. -/
def hexPair (a b : Char) : Option UInt8 :=
  match hexValue a, hexValue b with
  | some x, some y => some (UInt8.ofNat (16 * x + y))
  | _, _ => none

/-- The bytes of a text in which a percent sign before two digits is a code. -/
def unquote : List Char → List UInt8
  | '%' :: a :: b :: rest =>
    match hexPair a b with
    | some byte => byte :: unquote rest
    | none => String.utf8EncodeChar '%' ++ unquote (a :: b :: rest)
  | c :: rest => String.utf8EncodeChar c ++ unquote rest
  | [] => []

/-- A plus sign is a code for a space. -/
def plusToSpace (c : Char) : Char := if c = '+' then ' ' else c

/-- What a part of a field means. -/
def decode (part : List Char) : String := String.ofList (lossy 0 (unquote (part.map plusToSpace)))

/-- A field: its name ends at the first equals sign. -/
def field (text : List Char) : String × String :=
  (decode (text.takeWhile (· ≠ '=')), decode ((text.dropWhile (· ≠ '=')).drop 1))

/-- The fields of a query. -/
def fields (query : List Char) : List (String × String) :=
  ((query.splitOn '&').filter fun text => !text.isEmpty).map field

/-! ### A value at the end of a URL -/

/-- What is left of a value at the end of a URL. -/
def cut (value : List Char) : List Char :=
  ((value.rdropWhile isBlankEnd).filter fun c => !isBreak c).takeWhile (· ≠ '#')

/-- A character that is sent as it stands, wherever it stands. -/
def Kept (c : Char) : Prop :=
  isBlankEnd c = false ∧ isBreak c = false ∧ isQuoted c = false ∧ c ≠ '?' ∧ c ≠ '#'

instance : DecidablePred Kept := fun c =>
  inferInstanceAs (Decidable (isBlankEnd c = false ∧ isBreak c = false ∧ isQuoted c = false ∧
    c ≠ '?' ∧ c ≠ '#'))

lemma rdropWhile_append {p : Char → Bool} {pre value : List Char}
    (hpre : ∀ c ∈ pre, p c = false) :
    (pre ++ value).rdropWhile p = pre ++ value.rdropWhile p := by
  induction value using List.reverseRecOn with
  | nil =>
    simp only [List.append_nil, List.rdropWhile_nil]
    refine List.rdropWhile_eq_self_iff.mpr fun hl => ?_
    rw [hpre _ (List.getLast_mem hl)]
    decide
  | append_singleton value c ih =>
    rw [← List.append_assoc, List.rdropWhile_concat, List.rdropWhile_concat]
    by_cases hc : p c = true
    · rw [if_pos hc, if_pos hc, ih]
    · rw [if_neg hc, if_neg hc, List.append_assoc]

/-- The query of a URL that ends in a value. -/
lemma query_append {head pre value : List Char} (hne : head ≠ []) (hhead : ∀ c ∈ head, Kept c)
    (hpre : ∀ c ∈ pre, Kept c) :
    query (head ++ '?' :: (pre ++ value)) = pre ++ (cut value).flatMap quote := by
  have hquery : ∀ c, c ∈ '?' :: pre → isBlankEnd c = false ∧ isBreak c = false := by
    intro c hc
    rcases List.mem_cons.mp hc with rfl | hc
    · decide
    · exact ⟨(hpre c hc).1, (hpre c hc).2.1⟩
  have hfixed : ∀ c ∈ head ++ '?' :: pre, isBlankEnd c = false ∧ isBreak c = false := by
    intro c hc
    rcases List.mem_append.mp hc with hc | hc
    · exact ⟨(hhead c hc).1, (hhead c hc).2.1⟩
    · exact hquery c hc
  have hstart : (head ++ '?' :: (pre ++ value)).dropWhile isBlankEnd =
      head ++ '?' :: (pre ++ value) := by
    obtain ⟨c, rest, rfl⟩ := List.exists_cons_of_ne_nil hne
    rw [List.cons_append, List.dropWhile_cons, (hhead c List.mem_cons_self).1]
    simp
  have hend : (head ++ '?' :: (pre ++ value)).rdropWhile isBlankEnd =
      (head ++ '?' :: pre) ++ value.rdropWhile isBlankEnd := by
    rw [show head ++ '?' :: (pre ++ value) = (head ++ '?' :: pre) ++ value by simp]
    exact rdropWhile_append fun c hc => (hfixed c hc).1
  have hkept : ((head ++ '?' :: pre) ++ value.rdropWhile isBlankEnd).filter
      (fun c => !isBreak c) =
      head ++ '?' :: (pre ++ (value.rdropWhile isBlankEnd).filter fun c => !isBreak c) := by
    rw [List.filter_append, List.filter_eq_self.mpr fun c hc => by rw [(hfixed c hc).2]; rfl]
    simp
  have hpath : ∀ rest, (head ++ '?' :: rest).dropWhile (fun c => c ≠ '?' && c ≠ '#') =
      '?' :: rest := by
    intro rest
    rw [List.dropWhile_append_of_pos, List.dropWhile_cons]
    · simp
    · intro c hc
      simpa using (hhead c hc).2.2.2
  have hpreTake : ∀ rest, (pre ++ rest).takeWhile (· ≠ '#') = pre ++ rest.takeWhile (· ≠ '#') :=
    fun rest => List.takeWhile_append_of_pos fun c hc => by simpa using (hpre c hc).2.2.2.2
  have hpreQuote : pre.flatMap quote = pre := by
    have h : ∀ cs : List Char, (∀ c ∈ cs, Kept c) → cs.flatMap quote = cs := by
      intro cs hcs
      induction cs with
      | nil => rfl
      | cons c cs ih =>
        rw [List.flatMap_cons, ih fun d hd => hcs d (List.mem_cons_of_mem _ hd), quote,
          (hcs c List.mem_cons_self).2.2.1]
        simp
    exact h pre hpre
  simp only [query, hstart, hend, hkept, hpath, hpreTake, List.flatMap_append, hpreQuote]
  rfl

/-! ### Codes -/

/-- Whether a text has a percent sign before two digits. -/
def hasCode : List Char → Bool
  | '%' :: a :: b :: rest => (hexPair a b).isSome || hasCode (a :: b :: rest)
  | _ :: rest => hasCode rest
  | [] => false

/-- A text is empty, begins with a code, or begins with a character that stands for itself. -/
lemma unquote_cases (cs : List Char) :
    cs = [] ∨
      (∃ a b byte rest, cs = '%' :: a :: b :: rest ∧ unquote cs = byte :: unquote rest ∧
        hasCode cs = true) ∨
      ∃ c rest, cs = c :: rest ∧ unquote cs = String.utf8EncodeChar c ++ unquote rest ∧
        hasCode cs = hasCode rest := by
  fun_cases unquote cs
  case case1 a b rest byte hpair =>
    exact .inr (.inl ⟨a, b, byte, rest, rfl, rfl, by simp [hasCode, hpair]⟩)
  case case2 a b rest hpair =>
    exact .inr (.inr ⟨'%', a :: b :: rest, rfl, rfl, by simp [hasCode, hpair]⟩)
  case case3 c rest hne =>
    exact .inr (.inr ⟨c, rest, rfl, rfl, by rw [hasCode]; exact hne⟩)
  case case4 => exact .inl rfl

/-- Bytes that begin no character come from codes. -/
lemma unquote_drop (k : ℕ) (cs : List Char) (h : ∀ b ∈ (unquote cs).take k, Continues b) :
    ∃ rest, (unquote cs).drop k = unquote rest ∧ rest.length ≤ cs.length := by
  induction k generalizing cs with
  | zero => exact ⟨cs, rfl, le_rfl⟩
  | succ k ih =>
    rcases unquote_cases cs with rfl | ⟨a, b, byte, rest, rfl, hcode, -⟩ | ⟨c, rest, rfl, hraw, -⟩
    · exact ⟨[], by simp [unquote], le_rfl⟩
    · rw [hcode] at h ⊢
      obtain ⟨rest', hrest', hlen⟩ := ih rest fun b hb => h b (by simp [hb])
      refine ⟨rest', by rw [List.drop_succ_cons, hrest'], ?_⟩
      simp only [List.length_cons]
      omega
    · -- a character begins with a byte that can begin one
      obtain ⟨b, tail, htail⟩ := List.exists_cons_of_ne_nil
        (String.utf8EncodeChar_ne_nil (c := c))
      have hfirst := UInt8.isUTF8FirstByte_getElem_zero_utf8EncodeChar (c := c)
      simp only [htail, List.getElem_cons_zero] at hfirst
      rw [hraw, htail] at h
      exact absurd hfirst (h b (by simp))

/-- A text never gets longer by being decoded, and a code makes it shorter. -/
lemma length_lossy_unquote (cs : List Char) :
    (lossy 0 (unquote cs)).length ≤ cs.length ∧
      (hasCode cs = true → (lossy 0 (unquote cs)).length < cs.length) := by
  induction hn : cs.length using Nat.strong_induction_on generalizing cs with
  | _ n ih =>
    rcases unquote_cases cs with
      rfl | ⟨a, b, byte, rest, rfl, hcode, -⟩ | ⟨c, rest, rfl, hraw, hhas⟩
    · simp [unquote, lossy, hasCode]
    · have hrest := readChar_continues byte (unquote rest)
      obtain ⟨rest', hrest', hlen⟩ := unquote_drop _ _ hrest
      simp only [List.length_cons] at hn
      have hle := (ih rest'.length (by omega) rest' rfl).1
      rw [hcode, lossy, lossy_skip, hrest', List.length_cons]
      exact ⟨by omega, fun _ => by omega⟩
    · simp only [List.length_cons] at hn
      have hle := ih rest.length (by omega) rest rfl
      rw [hraw, lossy_utf8EncodeChar, hhas, List.length_cons]
      exact ⟨by omega, fun h => by have := hle.2 h; omega⟩

lemma lossy_unquote_of_noCode {cs : List Char} (h : hasCode cs = false) :
    lossy 0 (unquote cs) = cs := by
  induction hn : cs.length using Nat.strong_induction_on generalizing cs with
  | _ n ih =>
    rcases unquote_cases cs with
      rfl | ⟨a, b, byte, rest, rfl, -, hcode⟩ | ⟨c, rest, rfl, hraw, hhas⟩
    · rfl
    · rw [hcode] at h
      cases h
    · rw [hraw, lossy_utf8EncodeChar]
      simp only [List.length_cons] at hn
      rw [ih rest.length (by omega) (hhas ▸ h) rfl]

/-! ### What was quoted is read as it was -/

lemma hexValue_hexDigit {n : ℕ} (hn : n < 16) : hexValue (hexDigit n) = some n := by
  interval_cases n <;> decide

lemma not_special_hexDigit {n : ℕ} (hn : n < 16) :
    hexDigit n ≠ '&' ∧ hexDigit n ≠ '=' ∧ hexDigit n ≠ '+' := by
  interval_cases n <;> decide

lemma hexPair_quoteByte (b : UInt8) :
    hexPair (hexDigit (b.toNat / 16)) (hexDigit (b.toNat % 16)) = some b := by
  have hb := b.toNat_lt
  rw [hexPair, hexValue_hexDigit (by omega), hexValue_hexDigit (by omega)]
  simp only [show 16 * (b.toNat / 16) + b.toNat % 16 = b.toNat by omega, UInt8.ofNat_toNat]

/-- A quoted character has no character that means something in a query but percent signs. -/
lemma mem_quote {c d : Char} (hd : d ∈ quote c) :
    d = c ∨ (d ≠ '&' ∧ d ≠ '=' ∧ d ≠ '+') := by
  unfold quote at hd
  split at hd
  · obtain ⟨b, -, hd⟩ := List.mem_flatMap.mp hd
    have hb := b.toNat_lt
    simp only [quoteByte, List.mem_cons, List.not_mem_nil, or_false] at hd
    rcases hd with rfl | rfl | rfl
    · exact .inr (by decide)
    · exact .inr (not_special_hexDigit (by omega))
    · exact .inr (not_special_hexDigit (by omega))
  · exact .inl (List.mem_singleton.mp hd)

lemma not_mem_quoted {d : Char} (hd : d = '&' ∨ d = '=') {cs : List Char} (h : d ∉ cs) :
    d ∉ cs.flatMap quote := by
  intro hmem
  obtain ⟨c, hc, hdc⟩ := List.mem_flatMap.mp hmem
  rcases mem_quote hdc with rfl | ⟨hamp, heq, -⟩
  · exact h hc
  · exact hd.elim hamp heq

lemma unquote_quotedBytes (bytes : List UInt8) (rest : List Char) :
    unquote ((bytes.flatMap quoteByte).map plusToSpace ++ rest) = bytes ++ unquote rest := by
  induction bytes with
  | nil => rfl
  | cons b bytes ih =>
    have hb := b.toNat_lt
    have hplain : ∀ n, n < 16 → plusToSpace (hexDigit n) = hexDigit n :=
      fun n hn => if_neg (not_special_hexDigit hn).2.2
    simp only [List.flatMap_cons, quoteByte, List.cons_append, List.nil_append, List.map_cons,
      hplain _ (show b.toNat / 16 < 16 by omega), hplain _ (show b.toNat % 16 < 16 by omega)]
    rw [show plusToSpace '%' = '%' by decide, unquote, hexPair_quoteByte]
    exact congrArg (b :: ·) ih

/-- A digit is not quoted and is no code. -/
lemma quote_of_hexValue {c : Char} (h : hexValue c ≠ none) : isQuoted c = false := by
  have hrange : (0x30 ≤ c.toNat ∧ c.toNat ≤ 0x39) ∨ (0x61 ≤ c.toNat ∧ c.toNat ≤ 0x66) ∨
      (0x41 ≤ c.toNat ∧ c.toNat ≤ 0x46) := by
    unfold hexValue at h
    split_ifs at h with h₁ h₂ h₃
    · exact .inl h₁
    · exact .inr (.inl h₂)
    · exact .inr (.inr h₃)
    · exact absurd rfl h
  have hne : ∀ d : Char, ¬ ((0x30 ≤ d.toNat ∧ d.toNat ≤ 0x39) ∨ (0x61 ≤ d.toNat ∧ d.toNat ≤ 0x66) ∨
      (0x41 ≤ d.toNat ∧ d.toNat ≤ 0x46)) → c ≠ d := by
    rintro d hd rfl
    exact hd hrange
  simp only [isQuoted, Bool.or_eq_false_iff, decide_eq_false_iff_not]
  refine ⟨⟨⟨⟨⟨⟨⟨?_, ?_⟩, ?_⟩, ?_⟩, ?_⟩, ?_⟩, ?_⟩, ?_⟩
  · omega
  · omega
  all_goals exact hne _ (by decide)

/-- What is sent of a character: itself, or codes. -/
lemma sent_cases (c : Char) :
    (isQuoted c = false ∧ (quote c).map plusToSpace = [plusToSpace c]) ∨
      hexValue (plusToSpace c) = none ∧ plusToSpace c = c ∧ c ≠ '%' ∧
        (∃ tail, (quote c).map plusToSpace = '%' :: tail) ∧
        ∀ rest, unquote ((quote c).map plusToSpace ++ rest) =
          String.utf8EncodeChar c ++ unquote rest := by
  cases hc : isQuoted c with
  | false => exact .inl ⟨rfl, by simp [quote, hc]⟩
  | true =>
    have hplus : plusToSpace c = c := if_neg (by rintro rfl; revert hc; decide)
    refine .inr ⟨?_, hplus, by rintro rfl; revert hc; decide, ?_, ?_⟩
    · rw [hplus]
      by_contra h
      rw [quote_of_hexValue h] at hc
      cases hc
    · obtain ⟨b, tail, htail⟩ := List.exists_cons_of_ne_nil
        (String.utf8EncodeChar_ne_nil (c := c))
      rw [quote, if_pos hc, htail]
      exact ⟨_, rfl⟩
    · intro rest
      rw [quote, if_pos hc, unquote_quotedBytes]

/-- The byte that the first two characters of a text stand for. -/
def codeAt : List Char → Option UInt8
  | a :: b :: _ => hexPair a b
  | _ => none

lemma unquote_percent {rest : List Char} (h : codeAt rest = none) :
    unquote ('%' :: rest) = String.utf8EncodeChar '%' ++ unquote rest := by
  rcases rest with _ | ⟨a, _ | ⟨b, rest⟩⟩
  · rfl
  · rfl
  · simp only [codeAt] at h
    simp only [unquote, h]

lemma unquote_cons {c : Char} (hc : c ≠ '%') (rest : List Char) :
    unquote (c :: rest) = String.utf8EncodeChar c ++ unquote rest := by
  rw [unquote]
  rintro a b rest' rfl
  exact absurd rfl hc

lemma hexPair_none {a b : Char} (h : hexValue a = none ∨ hexValue b = none) :
    hexPair a b = none := by
  unfold hexPair
  rcases h with h | h
  · rw [h]
  · rw [h]
    cases hexValue a <;> rfl

/-- Quoting makes no code and breaks none. -/
lemma codeAt_sent (cs : List Char) :
    (codeAt ((cs.flatMap quote).map plusToSpace) = none ∧ codeAt (cs.map plusToSpace) = none) ∨
      ∃ a b byte rest, cs = a :: b :: rest ∧
        (cs.flatMap quote).map plusToSpace =
          plusToSpace a :: plusToSpace b :: (rest.flatMap quote).map plusToSpace ∧
        hexPair (plusToSpace a) (plusToSpace b) = some byte := by
  have hpercent : hexValue '%' = none := by decide
  rcases cs with _ | ⟨a, cs⟩
  · exact .inl ⟨rfl, rfl⟩
  simp only [List.flatMap_cons, List.map_append, List.map_cons]
  rcases sent_cases a with ⟨-, ha⟩ | ⟨hnone, -, -, ⟨tail, htail⟩, -⟩
  · rw [ha]
    rcases cs with _ | ⟨b, cs⟩
    · exact .inl ⟨rfl, rfl⟩
    simp only [List.flatMap_cons, List.map_append, List.map_cons]
    rcases sent_cases b with ⟨-, hb⟩ | ⟨hnone, -, -, ⟨tail, htail⟩, -⟩
    · rw [hb]
      rcases hpair : hexPair (plusToSpace a) (plusToSpace b) with _ | byte
      · exact .inl ⟨hpair, hpair⟩
      · exact .inr ⟨a, b, byte, cs, rfl, rfl, hpair⟩
    · rw [htail]
      exact .inl ⟨hexPair_none (.inr hpercent), hexPair_none (.inr hnone)⟩
  · -- a quoted character begins with a percent sign, and itself is no digit
    rw [htail]
    refine .inl ⟨?_, ?_⟩
    · cases h : tail ++ (cs.flatMap quote).map plusToSpace with
      | nil => simp [codeAt, h]
      | cons d rest =>
        rw [List.cons_append, h]
        exact hexPair_none (b := d) (.inl hpercent)
    · cases cs with
      | nil => rfl
      | cons b cs => exact hexPair_none (.inl hnone)

/-- What was quoted is read as what stood there. -/
lemma unquote_sent (cs : List Char) :
    unquote ((cs.flatMap quote).map plusToSpace) = unquote (cs.map plusToSpace) := by
  induction hn : cs.length using Nat.strong_induction_on generalizing cs with
  | _ n ih =>
    rcases cs with _ | ⟨c, cs⟩
    · rfl
    simp only [List.length_cons] at hn
    have hrest := ih cs.length (by omega) cs rfl
    rw [List.flatMap_cons, List.map_append, List.map_cons]
    by_cases hc : c = '%'
    · subst hc
      rw [show (quote '%').map plusToSpace = ['%'] by decide, show plusToSpace '%' = '%' by decide,
        List.cons_append, List.nil_append]
      rcases codeAt_sent cs with ⟨hsent, hmeant⟩ | ⟨a, b, byte, rest, rfl, hsent, hpair⟩
      · rw [unquote_percent hsent, unquote_percent hmeant, hrest]
      · simp only [List.length_cons] at hn
        rw [hsent]
        simp only [List.map_cons, unquote, hpair]
        rw [ih rest.length (by omega) rest rfl]
    · rcases sent_cases c with ⟨-, hkept⟩ | ⟨-, hplus, -, -, hcodes⟩
      · have hne : plusToSpace c ≠ '%' := by
          unfold plusToSpace
          split_ifs
          · decide
          · exact hc
        rw [hkept, List.cons_append, List.nil_append, unquote_cons hne, unquote_cons hne, hrest]
      · rw [hcodes, hplus, unquote_cons hc, hrest]

lemma decode_quoted (cs : List Char) : decode (cs.flatMap quote) = decode cs := by
  rw [decode, unquote_sent, decode]

/-! ### The value that is read -/

/-- What is read of a value at the end of a URL. -/
def readBack (value : List Char) : String := decode ((cut value).takeWhile (· ≠ '&'))

lemma field_append {name : List Char} (hname : '=' ∉ name) (value : List Char) :
    field (name ++ '=' :: value) = (decode name, decode value) := by
  have hne : ∀ c ∈ name, decide (c ≠ '=') = true := by
    rintro c hc
    simpa using fun h : c = '=' => hname (h ▸ hc)
  simp only [field]
  rw [List.takeWhile_append_of_pos hne, List.dropWhile_append_of_pos hne]
  simp

/-- The fields of a query that ends in a value: the value may end at an ampersand of its own,
and then more fields follow. -/
lemma fields_append (pre : List Char) {name : List Char} (value : List Char)
    (hname : '=' ∉ name ∧ '&' ∉ name) :
    ∃ more, fields (pre ++ '&' :: (name ++ '=' :: value.flatMap quote)) =
        fields pre ++ (decode name, decode (value.takeWhile (· ≠ '&'))) :: fields more ∧
      ('=' ∉ value → '=' ∉ more) ∧ ('&' ∉ value → more = []) := by
  have hsplit : ∀ x y : List Char, (x ++ '&' :: y).splitOn '&' = x.splitOn '&' ++ y.splitOn '&' :=
    fun x y => List.splitOn_append_cons_self x y
  have hfield : ∀ v : List Char, '&' ∉ v →
      fields (name ++ '=' :: v.flatMap quote) = [(decode name, decode v)] := by
    intro v hv
    have hamp : '&' ∉ name ++ '=' :: v.flatMap quote := by
      simp only [List.mem_append, List.mem_cons, not_or]
      exact ⟨hname.2, by decide, not_mem_quoted (.inl rfl) hv⟩
    simp only [fields, List.splitOn_eq_singleton hamp]
    simp [field_append hname.1, decode_quoted]
  have hfields : ∀ x y : List Char, fields (x ++ '&' :: y) = fields x ++ fields y := by
    intro x y
    rw [fields, hsplit, List.filter_append, List.map_append]
    rfl
  have hhead : '&' ∉ value.takeWhile (· ≠ '&') := fun h => by simpa using List.mem_takeWhile_imp h
  have hvalue := List.takeWhile_append_dropWhile (p := (· ≠ '&')) (l := value)
  rcases htail : value.dropWhile (· ≠ '&') with _ | ⟨c, rest⟩
  · rw [htail, List.append_nil] at hvalue
    rw [hvalue] at hhead ⊢
    exact ⟨[], by rw [hfields, hfield _ hhead]; rfl, fun _ => by simp, fun _ => rfl⟩
  · have hc : c = '&' := by
      have hne : value.dropWhile (· ≠ '&') ≠ [] := by rw [htail]; simp
      have h := List.head_dropWhile_not (fun c => decide (c ≠ '&')) hne
      simp only [htail, List.head_cons] at h
      simpa using h
    subst hc
    refine ⟨rest.flatMap quote, ?_, fun h => not_mem_quoted (.inr rfl) fun hmem => h ?_,
      fun h => ?_⟩
    · have hquoted : value.flatMap quote =
          (value.takeWhile (· ≠ '&')).flatMap quote ++ '&' :: rest.flatMap quote := by
        have h := congrArg (List.flatMap quote) hvalue
        rw [htail, List.flatMap_append, List.flatMap_cons, show quote '&' = ['&'] by decide] at h
        exact h.symm
      rw [hquoted, hfields, show name ++ '=' :: ((value.takeWhile (· ≠ '&')).flatMap quote ++
        '&' :: rest.flatMap quote) = (name ++ '=' :: (value.takeWhile (· ≠ '&')).flatMap quote) ++
        '&' :: rest.flatMap quote by simp, hfields, hfield _ hhead]
      rfl
    · rw [← hvalue, htail]
      simp [hmem]
    · exact absurd (by rw [← hvalue, htail]; simp) h

lemma mem_of_mem_splitOn {cs text : List Char} {a c : Char} (htext : text ∈ cs.splitOn a)
    (hc : c ∈ text) : c ∈ cs := by
  induction cs generalizing text with
  | nil =>
    rw [List.splitOn_nil, List.mem_singleton] at htext
    rw [htext] at hc
    simp at hc
  | cons x cs ih =>
    obtain ⟨first, others, hsplit⟩ := List.exists_cons_of_ne_nil (List.splitOn_ne_nil a cs)
    have hother : ∀ t ∈ first :: others, c ∈ t → c ∈ x :: cs := fun t ht hct =>
      List.mem_cons_of_mem _ (ih (hsplit ▸ ht) hct)
    rw [List.splitOn_cons_eq_if_modifyHead, hsplit] at htext
    split at htext
    · rcases List.mem_cons.mp htext with rfl | htext
      · simp at hc
      · exact hother text htext hc
    · rcases List.mem_cons.mp htext with rfl | htext
      · rcases List.mem_cons.mp hc with rfl | hc
        · exact List.mem_cons_self
        · exact hother first List.mem_cons_self hc
      · exact hother text (List.mem_cons_of_mem _ htext) hc

/-- A field without an equals sign has an empty value. -/
lemma value_of_fields {query : List Char} (h : '=' ∉ query) :
    ∀ f ∈ fields query, f.2 = "" := by
  intro f hf
  obtain ⟨text, htext, rfl⟩ := List.mem_map.mp hf
  have hdrop : text.dropWhile (· ≠ '=') = [] := by
    refine List.dropWhile_eq_nil_iff.mpr fun c hc => ?_
    have hmem := mem_of_mem_splitOn (List.mem_filter.mp htext).1 hc
    simpa using fun hceq : c = '=' => h (hceq ▸ hmem)
  simp only [field, hdrop]
  rfl

/-- A value that is read as it is. -/
structure Plain (value : List Char) : Prop where
  separator : '&' ∉ value
  fragment : '#' ∉ value
  plus : '+' ∉ value
  noBreak : ∀ c ∈ value, isBreak c = false
  code : hasCode value = false
  blankEnd : ∀ c, value.getLast? = some c → isBlankEnd c = false

lemma cut_eq {value : List Char} (hfragment : '#' ∉ value)
    (hbreak : ∀ c ∈ value, isBreak c = false)
    (hblank : ∀ c, value.getLast? = some c → isBlankEnd c = false) : cut value = value := by
  have hend : value.rdropWhile isBlankEnd = value := by
    refine List.rdropWhile_eq_self_iff.mpr fun hl => ?_
    rw [hblank _ (List.getLast?_eq_some_getLast hl)]
    decide
  have hkeep : value.filter (fun c => !isBreak c) = value :=
    List.filter_eq_self.mpr fun c hc => by rw [hbreak c hc]; rfl
  rw [cut, hend, hkeep, List.takeWhile_eq_self_iff]
  intro c hc
  simpa using fun hceq : c = '#' => hfragment (hceq ▸ hc)

lemma mem_of_mem_cut {value : List Char} {c : Char} (h : c ∈ cut value) : c ∈ value :=
  (List.rdropWhile_prefix _ value).subset
    (List.mem_filter.mp ((List.takeWhile_prefix _).subset h)).1

lemma map_plusToSpace {cs : List Char} (h : '+' ∉ cs) : cs.map plusToSpace = cs := by
  refine (List.map_congr_left fun c hc => ?_).trans (List.map_id cs)
  exact if_neg fun hceq : c = '+' => h (hceq ▸ hc)

/-- A part without codes means itself. -/
lemma decode_of_noCode {cs : List Char} (hplus : '+' ∉ cs) (hcode : hasCode cs = false) :
    decode cs = String.ofList cs := by
  rw [decode, map_plusToSpace hplus, lossy_unquote_of_noCode hcode]

theorem readBack_of_plain {value : List Char} (h : Plain value) :
    readBack value = String.ofList value := by
  have htake : value.takeWhile (· ≠ '&') = value := by
    refine List.takeWhile_eq_self_iff.mpr fun c hc => ?_
    simpa using fun hceq : c = '&' => h.separator (hceq ▸ hc)
  rw [readBack, cut_eq h.fragment h.noBreak h.blankEnd, htake, decode_of_noCode h.plus h.code]

lemma length_cut_le (value : List Char) : (cut value).length ≤ value.length := by
  have htrim := (List.rdropWhile_prefix isBlankEnd (l := value)).length_le
  have hkeep := List.length_filter_le (fun c => !isBreak c) (value.rdropWhile isBlankEnd)
  have hfragment := (List.takeWhile_prefix (· ≠ '#')
    (l := (value.rdropWhile isBlankEnd).filter fun c => !isBreak c)).length_le
  rw [cut]
  omega

/-- What is cut off or left out makes a value shorter. -/
lemma of_length_cut {value : List Char} (h : value.length ≤ (cut value).length) :
    '#' ∉ value ∧ (∀ c ∈ value, isBreak c = false) ∧
      ∀ c, value.getLast? = some c → isBlankEnd c = false := by
  have htrim := List.rdropWhile_prefix isBlankEnd (l := value)
  have hkeep := List.length_filter_le (fun c => !isBreak c) (value.rdropWhile isBlankEnd)
  have hfragment := List.takeWhile_prefix (· ≠ '#')
    (l := (value.rdropWhile isBlankEnd).filter fun c => !isBreak c)
  have hcut : (cut value).length ≤ ((value.rdropWhile isBlankEnd).filter
      fun c => !isBreak c).length := hfragment.length_le
  have htrimLe := htrim.length_le
  have htrimEq : value.rdropWhile isBlankEnd = value := htrim.eq_of_length (by omega)
  rw [htrimEq] at hkeep hcut hfragment
  have hkept : ∀ c ∈ value, isBreak c = false := by
    have hall := List.length_filter_eq_length_iff.mp
      (show (value.filter fun c => !isBreak c).length = value.length by omega)
    exact fun c hc => by simpa using hall c hc
  have hfilterEq : value.filter (fun c => !isBreak c) = value :=
    List.filter_eq_self.mpr fun c hc => by rw [hkept c hc]; rfl
  have htakeEq : value.takeWhile (· ≠ '#') = value := by
    rw [cut, htrimEq, hfilterEq] at h
    rw [hfilterEq] at hfragment
    exact hfragment.eq_of_length (by have := hfragment.length_le; omega)
  refine ⟨fun hmem => ?_, hkept, ?_⟩
  · rw [← htakeEq] at hmem
    simpa using List.mem_takeWhile_imp hmem
  · intro c hc
    have hne : value ≠ [] := by
      rintro rfl
      simp at hc
    have hlast := List.rdropWhile_eq_self_iff.mp htrimEq hne
    rw [List.getLast?_eq_some_getLast hne, Option.some.injEq] at hc
    simpa [hc] using hlast

/-- A value without plus signs of which as much is read as was written is plain: whatever is cut
off, left out or decoded makes it shorter. -/
theorem plain_of_length {value : List Char} (hplus : '+' ∉ value)
    (h : value.length ≤ (readBack value).toList.length) : Plain value := by
  have hdecode := length_lossy_unquote (((cut value).takeWhile (· ≠ '&')).map plusToSpace)
  rw [readBack, decode, String.toList_ofList] at h
  rw [List.length_map] at hdecode
  have hseparator := List.takeWhile_prefix (· ≠ '&') (l := cut value)
  have hsepLe := hseparator.length_le
  have hcutLe := length_cut_le value
  obtain ⟨hfragment, hbreak, hblank⟩ := of_length_cut
    (show value.length ≤ (cut value).length by omega)
  have hcutEq := cut_eq hfragment hbreak hblank
  rw [hcutEq] at hdecode hseparator hsepLe h
  have htakeEq : value.takeWhile (· ≠ '&') = value := hseparator.eq_of_length (by omega)
  rw [htakeEq, map_plusToSpace hplus] at hdecode h
  refine ⟨fun hmem => ?_, hfragment, hplus, hbreak, ?_, hblank⟩
  · rw [← htakeEq] at hmem
    simpa using List.mem_takeWhile_imp hmem
  · by_contra hcode
    have := hdecode.2 (by simpa using hcode)
    omega

end UrlQuery

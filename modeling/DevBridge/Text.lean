import Mathlib.Data.List.DropRight
import Mathlib.Tactic

/-!
# Text

The few string operations of the bridge that decide something: prefixes, Unicode white space,
control characters, lines and words, numbers, and the bytes of a text.
-/

namespace DevBridge

/-- `str::starts_with`. -/
def startsWith (s pre : String) : Bool :=
  pre.toList.isPrefixOf s.toList

/-- `char::is_whitespace`: the Unicode property `White_Space`. -/
def isWhitespace (c : Char) : Bool :=
  let n := c.toNat
  (9 ≤ n && n ≤ 13) || n == 0x20 || n == 0x85 || n == 0xA0 || n == 0x1680 ||
    (0x2000 ≤ n && n ≤ 0x200A) || n == 0x2028 || n == 0x2029 || n == 0x202F ||
    n == 0x205F || n == 0x3000

/-- `s.trim().is_empty()`. -/
def isBlank (s : String) : Bool :=
  s.toList.all isWhitespace

/-- `str::trim`. -/
def trim (s : String) : String :=
  String.ofList ((s.toList.dropWhile isWhitespace).rdropWhile isWhitespace)

/-- `char::is_control`. -/
def isControl (c : Char) : Bool :=
  c.toNat < 0x20 || (0x7F ≤ c.toNat && c.toNat < 0xA0)

/-- `str::eq_ignore_ascii_case`. -/
def eqIgnoreAsciiCase (a b : String) : Bool :=
  a.toList.map Char.toLower = b.toList.map Char.toLower

/-- `str::strip_prefix`. -/
def stripPrefix (pre s : String) : Option String :=
  if startsWith s pre then some (String.ofList (s.toList.drop pre.toList.length)) else none

/-- `str::trim_end`. -/
def trimEnd (line : List Char) : List Char := line.rdropWhile isWhitespace

/-- What `str::lines` leaves of a line that ended in a line feed. -/
def stripCr (line : List Char) : List Char :=
  if line.getLast? = some '\r' then line.dropLast else line

/-- `str::lines`: the last line may have no line feed, and is none when it is empty. -/
def textLines (text : List Char) : List (List Char) :=
  let pieces := text.splitOn '\n'
  let last := pieces.getLastD []
  pieces.dropLast.map stripCr ++ if last.isEmpty then [] else [last]

/-- `str::split_whitespace`. -/
def splitWhitespace (text : List Char) : List (List Char) :=
  (text.splitOnP isWhitespace).filter fun word => !word.isEmpty

/-- `str::split_once`: what stands before the first occurrence, and what stands behind it. -/
def splitOnce (pat : List Char) : List Char → Option (List Char × List Char)
  | [] => if pat = [] then some ([], []) else none
  | c :: text =>
    if pat.isPrefixOf (c :: text) then some ([], (c :: text).drop pat.length)
    else (splitOnce pat text).map fun (before, after) => (c :: before, after)

/-- Digits and nothing else. -/
def parseDigits (text : List Char) : Option ℕ :=
  if text.isEmpty || text.any fun c => !c.isDigit then none else some (Nat.ofDigitChars 10 text 0)

/-- `u32::from_str`. -/
def parseU32 (text : List Char) : Option ℕ :=
  (parseDigits (match text with
    | '+' :: digits => digits
    | digits => digits)).filter (· < 2 ^ 32)

/-- `i64::from_str`. -/
def parseI64 (text : List Char) : Option ℤ :=
  match text with
  | '-' :: digits => ((parseDigits digits).filter (· ≤ 2 ^ 63)).map fun n => -(n : ℤ)
  | '+' :: digits => ((parseDigits digits).filter (· < 2 ^ 63)).map fun n => (n : ℤ)
  | digits => ((parseDigits digits).filter (· < 2 ^ 63)).map fun n => (n : ℤ)

/-- `str::as_bytes`. -/
def utf8 (s : String) : List UInt8 := s.toByteArray.data.toList

/-- `str::from_utf8`. -/
def fromUtf8 (bytes : List UInt8) : Option String := String.fromUTF8? bytes.toByteArray

lemma fromUtf8_utf8 (s : String) : fromUtf8 (utf8 s) = some s := by
  have hbytes : (utf8 s).toByteArray = s.toByteArray := by
    unfold utf8
    ext1
    simp
  unfold fromUtf8
  rw [hbytes]
  unfold String.fromUTF8?
  rw [dif_pos s.isValidUTF8]
  rfl

lemma utf8_of_fromUtf8 {bytes : List UInt8} {s : String} (h : fromUtf8 bytes = some s) :
    utf8 s = bytes := by
  unfold fromUtf8 String.fromUTF8? at h
  split at h
  · cases h
    simp [utf8, String.fromUTF8]
  · cases h

lemma utf8_append (s t : String) : utf8 (s ++ t) = utf8 s ++ utf8 t := by
  simp [utf8]

lemma utf8_eq_flatMap (s : String) : utf8 s = s.toList.flatMap String.utf8EncodeChar := by
  have hbytes := String.toByteArray_ofList (l := s.toList)
  rw [String.ofList_toList] at hbytes
  unfold utf8
  rw [hbytes]
  simp [List.utf8Encode]

/-- An ASCII text has one byte a character. -/
lemma utf8_of_ascii {s : String} (h : ∀ c ∈ s.toList, c.toNat < 128) :
    utf8 s = s.toList.map fun c => UInt8.ofNat c.toNat := by
  have hencode : ∀ cs : List Char, (∀ c ∈ cs, c.toNat < 128) →
      cs.flatMap String.utf8EncodeChar = cs.map fun c => UInt8.ofNat c.toNat := by
    intro cs hcs
    induction cs with
    | nil => rfl
    | cons c cs ih =>
      have hsmall := hcs c List.mem_cons_self
      have hc : String.utf8EncodeChar c = [UInt8.ofNat c.toNat] :=
        if_pos (show c.toNat ≤ 127 by omega)
      rw [List.flatMap_cons, hc, ih fun d hd => hcs d (List.mem_cons_of_mem _ hd)]
      rfl
  rw [utf8_eq_flatMap, hencode _ h]

/-- A text with ASCII bytes only is ASCII. -/
lemma ascii_of_utf8 {s : String} (h : ∀ b ∈ utf8 s, b < 128) : ∀ c ∈ s.toList, c.toNat < 128 := by
  intro c hc
  by_contra hlarge
  -- the second byte of a longer encoding has the top bit
  have hbyte : ∃ n < 64, UInt8.ofNat (n + 128) ∈ String.utf8EncodeChar c := by
    have hnot : ¬ c.val.toNat ≤ 0x7f := fun hle => hlarge (Nat.lt_succ_of_le hle)
    unfold String.utf8EncodeChar
    simp only [if_neg hnot]
    split
    · exact ⟨_, Nat.mod_lt _ (by decide), List.mem_cons_of_mem _ List.mem_cons_self⟩
    · split
      · exact ⟨_, Nat.mod_lt _ (by decide), List.mem_cons_of_mem _ List.mem_cons_self⟩
      · exact ⟨_, Nat.mod_lt _ (by decide), List.mem_cons_of_mem _ List.mem_cons_self⟩
  obtain ⟨n, hn, hmem⟩ := hbyte
  have hsmall := h (UInt8.ofNat (n + 128)) (by
    rw [utf8_eq_flatMap]
    exact List.mem_flatMap.mpr ⟨c, hc, hmem⟩)
  have hlt : (UInt8.ofNat (n + 128)).toNat < 128 := UInt8.lt_iff_toNat_lt.mp hsmall
  rw [UInt8.toNat_ofNat', Nat.mod_eq_of_lt (by omega)] at hlt
  omega

end DevBridge

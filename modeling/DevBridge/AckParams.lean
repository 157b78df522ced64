import DevBridge.Api

/-!
# What an ack says

The params of an `ack` call and how they are read back.  Odoo tells the acks apart by the keys
that are there and by two reserved error codes.  An executor chooses the code of a `failed` ack
freely, so the code is trimmed, cut, lower-cased and cleaned before it is sent, and a reserved
one that comes out of that is renamed.
-/

namespace DevBridge

/-! ### Texts and codes -/

/-- Odoo cuts `error` to this many characters. -/
def MAX_ACK_ERROR_CHARS : ℕ := 2000
/-- `error_code` matches `[a-z0-9_.-]{1,64}`. -/
def MAX_ERROR_CODE_CHARS : ℕ := 64

/-- The `error_code` of an ack that tells Odoo the outcome is unknown yet. -/
def CODE_INDETERMINATE : String := "indeterminate"
/-- The `error_code` of an ack for a claimed job the bridge never received. -/
def CODE_NOT_RECEIVED : String := "not_received"

/-- Text of a `not_received` ack. -/
def NOT_RECEIVED_TEXT : String :=
  "devbridge never received this job (the next response was lost) - nothing ran"

/-- The `phase` of a card payment's authorisation ack. -/
def PHASE_AUTHORIZED : String := "authorized"

/-- `result_object`: the contract wants `result` as an object, anything else is wrapped. -/
def resultObject (result : Json) : Json :=
  if result.isObject then result else .obj [("value", result)]

/-- `truncate_error`: without NUL characters, cut to the contract's length. -/
def truncateError (text : String) : String :=
  String.ofList ((text.toList.filter fun c => c != '\x00').take MAX_ACK_ERROR_CHARS)

/-- A character of `[a-z0-9_.-]`. -/
def isCodeChar (c : Char) : Bool :=
  c.isLower || c.isDigit || c == '_' || c == '.' || c == '-'

/-- What `sanitize_error_code` makes of one character. -/
def codeChar (c : Char) : Char :=
  if isCodeChar c.toLower then c.toLower else '_'

/-- The code after trimming, cutting and cleaning. -/
def cleanedCode (code : String) : String :=
  String.ofList (((trim code).toList.take MAX_ERROR_CODE_CHARS).map codeChar)

/-- `sanitize_error_code`: an empty code is Odoo's own default, a reserved one is renamed. -/
def sanitizeErrorCode (code : String) : String :=
  let cleaned := cleanedCode code
  if cleaned = "" then "bridge_error"
  else if cleaned = CODE_INDETERMINATE ∨ cleaned = CODE_NOT_RECEIVED then "device_" ++ cleaned
  else cleaned

/-! ### The params -/

/-- The five kinds of acks. -/
inductive AckKind where
  | done
  | failed
  | indeterminate
  | notReceived
  | authorized
deriving DecidableEq, Repr

namespace AckRequest

/-- `AckRequest::kind`. -/
def kind : AckRequest → AckKind
  | done _ _ => .done
  | failed _ _ _ => .failed
  | indeterminate _ _ => .indeterminate
  | notReceived _ => .notReceived
  | authorized _ _ => .authorized

/-- `AckRequest::params`. -/
def params : AckRequest → Json
  | done jobId result => .obj [("job_id", .ofInt jobId), ("result", resultObject result)]
  | failed jobId code text =>
    .obj [("error", .str (truncateError text)), ("error_code", .str (sanitizeErrorCode code)),
      ("job_id", .ofInt jobId)]
  | indeterminate jobId reason =>
    .obj [("error", .str (truncateError reason)), ("error_code", .str CODE_INDETERMINATE),
      ("job_id", .ofInt jobId)]
  | notReceived jobId =>
    .obj [("error", .str NOT_RECEIVED_TEXT), ("error_code", .str CODE_NOT_RECEIVED),
      ("job_id", .ofInt jobId)]
  | authorized jobId result =>
    .obj [("job_id", .ofInt jobId), ("phase", .str PHASE_AUTHORIZED),
      ("result", resultObject result)]

/-- The result an ack carries. -/
def result : AckRequest → Option Json
  | done _ result | authorized _ result => some result
  | _ => none

/-- The text of an ack that reports no result. -/
def text : AckRequest → Option String
  | failed _ _ text | indeterminate _ text => some text
  | notReceived _ => some NOT_RECEIVED_TEXT
  | _ => none

end AckRequest

/-! ### Reading them back -/

/-- The contract's shapes: the keys, and what the reserved codes mean. -/
def AckKind.Shape : AckKind → Json → Prop
  | done, v => ∃ id fields, v = .obj [("job_id", .ofInt id), ("result", .obj fields)]
  | failed, v => ∃ id error code, code ≠ CODE_INDETERMINATE ∧ code ≠ CODE_NOT_RECEIVED ∧
    v = .obj [("error", .str error), ("error_code", .str code), ("job_id", .ofInt id)]
  | indeterminate, v => ∃ id error, v = .obj [("error", .str error),
    ("error_code", .str CODE_INDETERMINATE), ("job_id", .ofInt id)]
  | notReceived, v => ∃ id error, v = .obj [("error", .str error),
    ("error_code", .str CODE_NOT_RECEIVED), ("job_id", .ofInt id)]
  | authorized, v => ∃ id fields, v = .obj [("job_id", .ofInt id),
    ("phase", .str PHASE_AUTHORIZED), ("result", .obj fields)]

/-- The kind that the params of an ack name. -/
def readKind (params : Json) : Option AckKind :=
  match params.get "error_code", params.get "phase", params.get "result" with
  | some (.str code), none, none =>
    some (if code = CODE_INDETERMINATE then .indeterminate
      else if code = CODE_NOT_RECEIVED then .notReceived else .failed)
  | none, some (.str phase), some (.obj _) =>
    if phase = PHASE_AUTHORIZED then some .authorized else none
  | none, none, some (.obj _) => some .done
  | _, _, _ => none

/-- The kind and the job of the params of an ack. -/
def readAck (params : Json) : Option (AckKind × ℤ) :=
  match readKind params, params.get "job_id" with
  | some kind, some (.num (.int id)) => some (kind, id)
  | _, _ => none

/-- `[a-z0-9_.-]{1,64}`. -/
structure IsErrorCode (code : String) : Prop where
  nonempty : code ≠ ""
  short : code.toList.length ≤ MAX_ERROR_CODE_CHARS
  chars : ∀ c ∈ code.toList, isCodeChar c = true

/-- What an `error` keeps of a text. -/
structure IsErrorOf (text error : String) : Prop where
  short : error.toList.length ≤ MAX_ACK_ERROR_CHARS
  noNul : '\x00' ∉ error.toList
  sublist : error.toList.Sublist text.toList

/-- An ack cannot be misread. -/
structure AckRequest.Readable (a : AckRequest) : Prop where
  /-- It has the shape of its kind and no other. -/
  shape : ∀ kind : AckKind, kind.Shape a.params ↔ kind = a.kind
  read : readAck a.params = some (a.kind, a.jobId)
  result : ∀ r, a.result = some r → ∃ fields, a.params.get "result" = some (.obj fields) ∧
    (r.isObject = true → r = .obj fields)
  code : ∀ t, a.text = some t →
    ∃ code, a.params.get "error_code" = some (.str code) ∧ IsErrorCode code
  error : ∀ t, a.text = some t →
    ∃ error, a.params.get "error" = some (.str error) ∧ IsErrorOf t error

/-! ### Codes -/

lemma isCodeChar_codeChar (c : Char) : isCodeChar (codeChar c) = true := by
  unfold codeChar
  split
  · assumption
  · decide

lemma isCodeChar_iff {c : Char} : isCodeChar c = true ↔ (97 ≤ c.toNat ∧ c.toNat ≤ 122) ∨
    (48 ≤ c.toNat ∧ c.toNat ≤ 57) ∨ c.toNat = 95 ∨ c.toNat = 46 ∨ c.toNat = 45 := by
  have hlower : c.isLower = (decide (97 ≤ c.val) && decide (c.val ≤ 122)) := rfl
  have hdigit : c.isDigit = (decide (48 ≤ c.val) && decide (c.val ≤ 57)) := rfl
  have hn : c.toNat = c.val.toNat := rfl
  simp only [isCodeChar, hlower, hdigit, Bool.or_eq_true, Bool.and_eq_true, decide_eq_true_eq,
    beq_iff_eq, UInt32.le_iff_toNat_le, Char.ext_iff, UInt32.ext_iff, or_assoc, hn]
  rfl

lemma toLower_of_isCodeChar {c : Char} (h : isCodeChar c = true) : c.toLower = c := by
  have hupper : ¬ (c.val ≥ 'A'.val ∧ c.val ≤ 'Z'.val) := by
    have hcode := isCodeChar_iff.mp h
    have hn : c.toNat = c.val.toNat := rfl
    simp only [ge_iff_le, UInt32.le_iff_toNat_le]
    rintro ⟨hlow, hhigh⟩
    simp at hlow hhigh
    omega
  exact dif_neg hupper

lemma codeChar_of_isCodeChar {c : Char} (h : isCodeChar c = true) : codeChar c = c := by
  rw [codeChar, toLower_of_isCodeChar h, if_pos h]

/-- No character of a code is white space. -/
lemma isWhitespace_of_isCodeChar {c : Char} (h : isCodeChar c = true) :
    isWhitespace c = false := by
  have hcode := isCodeChar_iff.mp h
  rw [Bool.eq_false_iff]
  intro hw
  simp only [isWhitespace, Bool.or_eq_true, Bool.and_eq_true, decide_eq_true_eq,
    beq_iff_eq] at hw
  omega

lemma trim_of_codeChars {code : String} (h : ∀ c ∈ code.toList, isCodeChar c = true) :
    trim code = code := by
  have hleft : code.toList.dropWhile isWhitespace = code.toList := by
    cases hc : code.toList with
    | nil => rfl
    | cons c cs =>
      rw [List.dropWhile_cons_of_neg]
      rw [isWhitespace_of_isCodeChar (h c (by rw [hc]; exact List.mem_cons_self))]
      exact Bool.false_ne_true
  have hright : code.toList.rdropWhile isWhitespace = code.toList := by
    rw [List.rdropWhile_eq_self_iff]
    intro hne hlast
    rw [isWhitespace_of_isCodeChar (h _ (List.getLast_mem hne))] at hlast
    cases hlast
  rw [trim, hleft, hright, String.ofList_toList]

/-- A code that is clean and short is left as it is. -/
lemma cleanedCode_of_isErrorCode {code : String} (h : IsErrorCode code) :
    cleanedCode code = code := by
  have hmap : code.toList.map codeChar = code.toList := by
    rw [List.map_congr_left fun c hc => codeChar_of_isCodeChar (h.chars c hc), List.map_id']
  rw [cleanedCode, trim_of_codeChars h.chars, List.take_of_length_le h.short, hmap,
    String.ofList_toList]

lemma isErrorCode_cleanedCode {code : String} (h : cleanedCode code ≠ "") :
    IsErrorCode (cleanedCode code) := by
  refine ⟨h, ?_, fun c hc => ?_⟩
  · rw [cleanedCode, String.toList_ofList, List.length_map]
    exact List.length_take_le ..
  · rw [cleanedCode, String.toList_ofList] at hc
    obtain ⟨d, -, rfl⟩ := List.mem_map.mp hc
    exact isCodeChar_codeChar d

/-- Every code that is sent is clean, and none is reserved. -/
lemma sanitizeErrorCode_spec (code : String) :
    IsErrorCode (sanitizeErrorCode code) ∧ sanitizeErrorCode code ≠ CODE_INDETERMINATE ∧
      sanitizeErrorCode code ≠ CODE_NOT_RECEIVED := by
  have hclosed : ∀ s : String, s ≠ "" → s.toList.length ≤ MAX_ERROR_CODE_CHARS →
      (s.toList.all isCodeChar) = true → IsErrorCode s := fun s h1 h2 h3 =>
    ⟨h1, h2, List.all_eq_true.mp h3⟩
  unfold sanitizeErrorCode
  simp only
  split_ifs with hempty hreserved
  · exact ⟨hclosed _ (by decide) (by decide) (by decide), by decide, by decide⟩
  · rcases hreserved with h | h
    · rw [h]
      exact ⟨hclosed _ (by decide) (by decide) (by decide), by decide, by decide⟩
    · rw [h]
      exact ⟨hclosed _ (by decide) (by decide) (by decide), by decide, by decide⟩
  · exact ⟨isErrorCode_cleanedCode hempty, fun h => hreserved (.inl h),
      fun h => hreserved (.inr h)⟩

/-- Sanitising a sanitised code changes nothing. -/
lemma sanitizeErrorCode_idem (code : String) :
    sanitizeErrorCode (sanitizeErrorCode code) = sanitizeErrorCode code := by
  obtain ⟨hcode, hind, hnot⟩ := sanitizeErrorCode_spec code
  generalize sanitizeErrorCode code = sent at hcode hind hnot
  unfold sanitizeErrorCode
  rw [cleanedCode_of_isErrorCode hcode]
  simp only [if_neg hcode.nonempty, if_neg (not_or.mpr ⟨hind, hnot⟩)]

/-! ### Texts and results -/

lemma truncateError_spec (text : String) : IsErrorOf text (truncateError text) := by
  unfold truncateError
  refine ⟨?_, ?_, ?_⟩
  · rw [String.toList_ofList]
    exact List.length_take_le ..
  · rw [String.toList_ofList]
    intro h
    have hf := List.of_mem_filter (List.mem_of_mem_take h)
    exact absurd hf (by decide)
  · rw [String.toList_ofList]
    exact (List.take_sublist ..).trans List.filter_sublist

lemma resultObject_spec (r : Json) :
    ∃ fields, resultObject r = .obj fields ∧ (r.isObject = true → r = .obj fields) := by
  unfold resultObject
  split_ifs with h
  · cases r with
    | obj fields => exact ⟨fields, rfl, fun _ => rfl⟩
    | _ => cases h
  · exact ⟨_, rfl, fun h' => absurd h' h⟩

/-! ### Acks -/

/-- The shapes exclude each other. -/
lemma AckKind.shape_unique {kind kind' : AckKind} {v : Json} (h : kind.Shape v)
    (h' : kind'.Shape v) : kind = kind' := by
  have hcodes : CODE_INDETERMINATE ≠ CODE_NOT_RECEIVED := by decide
  cases kind <;> cases kind' <;> simp only [Shape] at h h' <;> grind

lemma AckRequest.shape_params (a : AckRequest) : a.kind.Shape a.params := by
  cases a with
  | done jobId result =>
    obtain ⟨fields, h, -⟩ := resultObject_spec result
    exact ⟨jobId, fields, by rw [params, h]⟩
  | failed jobId code text =>
    obtain ⟨-, hind, hnot⟩ := sanitizeErrorCode_spec code
    exact ⟨jobId, _, _, hind, hnot, rfl⟩
  | indeterminate jobId reason => exact ⟨jobId, _, rfl⟩
  | notReceived jobId => exact ⟨jobId, _, rfl⟩
  | authorized jobId result =>
    obtain ⟨fields, h, -⟩ := resultObject_spec result
    exact ⟨jobId, fields, by rw [params, h]⟩

/-- Params of a shape are read as its kind. -/
lemma AckKind.readKind_of_shape {kind : AckKind} {v : Json} (h : kind.Shape v) :
    readKind v = some kind := by
  cases kind with
  | done =>
    obtain ⟨id, fields, rfl⟩ := h
    rfl
  | failed =>
    obtain ⟨id, error, code, hind, hnot, rfl⟩ := h
    change some (if code = CODE_INDETERMINATE then _ else _) = _
    rw [if_neg hind, if_neg hnot]
  | indeterminate =>
    obtain ⟨id, error, rfl⟩ := h
    rfl
  | notReceived =>
    obtain ⟨id, error, rfl⟩ := h
    rfl
  | authorized =>
    obtain ⟨id, fields, rfl⟩ := h
    rfl

lemma AckRequest.get_jobId (a : AckRequest) : a.params.get "job_id" = some (.ofInt a.jobId) := by
  cases a <;> rfl

lemma isErrorOf_notReceived : IsErrorOf NOT_RECEIVED_TEXT NOT_RECEIVED_TEXT :=
  ⟨by decide, by decide, List.Sublist.refl _⟩

/-- For every ack: its params have exactly the shape of its kind and read back as its kind and
job, a result is an object and kept if it was one, code and text are within the contract; and
sanitising a code twice is sanitising it once. -/
theorem acks_readable (a : AckRequest) (code : String) :
    a.Readable ∧ sanitizeErrorCode (sanitizeErrorCode code) = sanitizeErrorCode code := by
  refine ⟨⟨fun kind => ⟨fun h => AckKind.shape_unique h a.shape_params, ?_⟩, ?_, ?_, ?_, ?_⟩,
    sanitizeErrorCode_idem code⟩
  · rintro rfl
    exact a.shape_params
  · rw [readAck, AckKind.readKind_of_shape a.shape_params, a.get_jobId]
    rfl
  · intro r hr
    obtain ⟨fields, h, hobj⟩ := resultObject_spec r
    refine ⟨fields, ?_, hobj⟩
    rw [← h]
    cases a <;> cases hr <;> rfl
  · intro t ht
    cases a with
    | failed jobId code text => exact ⟨_, rfl, (sanitizeErrorCode_spec code).1⟩
    | indeterminate | notReceived =>
      exact ⟨_, rfl, by decide, by decide, List.all_eq_true.mp (by decide)⟩
    | done | authorized => cases ht
  · intro t ht
    cases a with
    | failed | indeterminate =>
      cases ht
      exact ⟨_, rfl, truncateError_spec _⟩
    | notReceived =>
      cases ht
      exact ⟨_, rfl, isErrorOf_notReceived⟩
    | done | authorized => cases ht

end DevBridge

import DevBridge.Lib.BigEndian
import DevBridge.Lib.Cursor
import DevBridge.Text

/-!
# The IPP codec of the client

The client writes its IPP requests byte by byte and reads the responses with one loop over an
index.  Lengths are written as 16-bit numbers and the number of copies as a signed 32-bit
number, by casts that do not look.  What is written is read back exactly where the casts lose
nothing, and the loop stays inside its input whatever the input is.
-/

namespace DevBridge

namespace IppCodec

open BigEndian Cursor

/-! ### The code -/

/-- Print-Job. -/
def PRINT_JOB : UInt16 := 0x0002

/-- Get-Job-Attributes. -/
def GET_JOB_ATTRIBUTES : UInt16 := 0x0009

def IPP_VERSION_MAJOR : UInt8 := 1
def IPP_VERSION_MINOR : UInt8 := 1

def OPERATION_ATTRIBUTES_TAG : UInt8 := 0x01
def JOB_ATTRIBUTES_TAG : UInt8 := 0x02
def END_OF_ATTRIBUTES_TAG : UInt8 := 0x03

def CHARSET_TAG : UInt8 := 0x47
def NATURAL_LANGUAGE_TAG : UInt8 := 0x48
def URI_TAG : UInt8 := 0x45
def MIME_MEDIA_TYPE_TAG : UInt8 := 0x49
def NAME_WITHOUT_LANGUAGE_TAG : UInt8 := 0x42
def INTEGER_TAG : UInt8 := 0x21

/-- An attribute of a message. -/
structure IppAttribute where
  name : String
  tag : UInt8
  value : List UInt8
deriving DecidableEq, Repr

/-- The value as a big-endian `i32`. -/
def IppAttribute.asI32 (a : IppAttribute) : Option Int32 :=
  if a.value.length = 4 then some (UInt32.ofNat (ofBytes a.value)).toInt32 else none

/-- A parsed message; the status of a response is the operation of a request. -/
structure IppResponse where
  statusCode : UInt16
  requestId : UInt32
  attributes : List IppAttribute
deriving DecidableEq, Repr

/-- The first attribute of a name. -/
def IppResponse.get (r : IppResponse) (name : String) : Option IppAttribute :=
  r.attributes.find? fun a => a.name == name

/-- One attribute as bytes.  Either length is cast to 16 bits. -/
def writeAttribute (tag : UInt8) (name : String) (value : List UInt8) : List UInt8 :=
  tag :: (toBytes 2 (utf8 name).length ++ (utf8 name ++ (toBytes 2 value.length ++ value)))

/-- One integer attribute as bytes. -/
def writeIntegerAttribute (tag : UInt8) (name : String) (value : Int32) : List UInt8 :=
  writeAttribute tag name (toBytes 4 value.toUInt32.toNat)

/-- The version, the operation and the request. -/
def requestHeader (operation : UInt16) (requestId : UInt32) : List UInt8 :=
  [IPP_VERSION_MAJOR, IPP_VERSION_MINOR] ++ toBytes 2 operation.toNat ++
    toBytes 4 requestId.toNat

/-- `build_print_job_request`. -/
def buildPrintJobRequest (printerUri documentFormat jobName : String)
    (requestId copies : UInt32) : List UInt8 :=
  let effectiveCopies := max copies 1
  requestHeader PRINT_JOB requestId ++
    [OPERATION_ATTRIBUTES_TAG] ++
    writeAttribute CHARSET_TAG "attributes-charset" (utf8 "utf-8") ++
    writeAttribute NATURAL_LANGUAGE_TAG "attributes-natural-language" (utf8 "en-us") ++
    writeAttribute URI_TAG "printer-uri" (utf8 printerUri) ++
    writeAttribute MIME_MEDIA_TYPE_TAG "document-format" (utf8 documentFormat) ++
    writeAttribute NAME_WITHOUT_LANGUAGE_TAG "job-name" (utf8 jobName) ++
    (if 1 < effectiveCopies then
      [JOB_ATTRIBUTES_TAG] ++
        writeIntegerAttribute INTEGER_TAG "copies" effectiveCopies.toInt32
    else []) ++
    [END_OF_ATTRIBUTES_TAG]

/-- `build_get_job_attributes_request`. -/
def buildGetJobAttributesRequest (printerUri : String) (jobId : Int32) (requestId : UInt32) :
    List UInt8 :=
  requestHeader GET_JOB_ATTRIBUTES requestId ++
    [OPERATION_ATTRIBUTES_TAG] ++
    writeAttribute CHARSET_TAG "attributes-charset" (utf8 "utf-8") ++
    writeAttribute NATURAL_LANGUAGE_TAG "attributes-natural-language" (utf8 "en-us") ++
    writeAttribute URI_TAG "printer-uri" (utf8 printerUri) ++
    writeIntegerAttribute INTEGER_TAG "job-id" jobId ++
    [END_OF_ATTRIBUTES_TAG]

/-- How parsing goes wrong: by an error of its own, by a read outside the input (a panic), or
by going on without end. -/
inductive ParseError where
  | refused (text : String)
  | outside
  | unending
deriving DecidableEq, Repr

/-- `data[i]`. -/
def byteAt (data : List UInt8) (i : ℕ) : Except ParseError UInt8 :=
  match data[i]? with
  | some b => .ok b
  | none => .error .outside

/-- `data[start..stop]`. -/
def bytesAt (data : List UInt8) (start stop : ℕ) : Except ParseError (List UInt8) :=
  match slice data start stop with
  | some bytes => .ok bytes
  | none => .error .outside

/-- The length field at `pos`. -/
def readLength (data : List UInt8) (pos : ℕ) : Except ParseError ℕ := do
  let hi ← byteAt data pos
  let lo ← byteAt data (pos + 1)
  return ofBytes [hi, lo]

/-- A byte that continues a character. -/
def continues (b : UInt8) : Bool := 0x80 ≤ b && b ≤ 0xBF

/-- What the second byte of a character may be, behind its first one. -/
def continuesSecond (first b : UInt8) : Bool :=
  continues b && (first != 0xE0 || 0xA0 ≤ b) && (first != 0xED || b ≤ 0x9F) &&
    (first != 0xF0 || 0x90 ≤ b) && (first != 0xF4 || b ≤ 0x8F)

/-- What has to follow the first byte of a character of several bytes; nothing, if no character
begins with it. -/
def following (first : UInt8) : List (UInt8 → Bool) :=
  if 0xC2 ≤ first && first ≤ 0xDF then [continues]
  else if 0xE0 ≤ first && first ≤ 0xEF then [continuesSecond first, continues]
  else if 0xF0 ≤ first && first ≤ 0xF4 then [continuesSecond first, continues, continues]
  else []

/-- The length of a broken character, of which `n` bytes are read; `none` when the bytes end
first. -/
def brokenLength (n : ℕ) : List (UInt8 → Bool) → List UInt8 → Option ℕ
  | [], _ => some n
  | _ :: _, [] => none
  | fits :: tests, b :: rest => if fits b then brokenLength (n + 1) tests rest else some n

/-- `Utf8Error::valid_up_to`. -/
def validUpTo (bytes : List UInt8) : ℕ :=
  Nat.findGreatest (fun k => (fromUtf8 (bytes.take k)).isSome = true) bytes.length

/-- `Utf8Error::error_len`. -/
def errorLen (bytes : List UInt8) : Option ℕ :=
  match bytes.drop (validUpTo bytes) with
  | [] => none
  | first :: rest => brokenLength 1 (following first) rest

/-- A `Utf8Error` as a text. -/
def utf8ErrorText (bytes : List UInt8) : String :=
  let start := validUpTo bytes
  match errorLen bytes with
  | some n => s!"invalid utf-8 sequence of {n} bytes from index {start}"
  | none => s!"incomplete utf-8 byte sequence from index {start}"

/-- Bytes that are no text stop being one before their end. -/
lemma validUpTo_lt {bytes : List UInt8} (h : fromUtf8 bytes = none) :
    validUpTo bytes < bytes.length := by
  refine lt_of_le_of_ne (Nat.findGreatest_le _) fun heq => ?_
  have hvalid : (fromUtf8 (bytes.take (validUpTo bytes))).isSome = true :=
    Nat.findGreatest_spec (P := fun k => (fromUtf8 (bytes.take k)).isSome = true) (Nat.zero_le _)
      (by rw [List.take_zero, show fromUtf8 [] = some "" from fromUtf8_utf8 ""]; rfl)
  rw [heq, List.take_length, h] at hvalid
  cases hvalid

example : utf8ErrorText [0x6A, 0xE2, 0x82, 0x28] =
    "invalid utf-8 sequence of 2 bytes from index 1" := by decide +kernel

example : utf8ErrorText [0x6A, 0xC3] = "incomplete utf-8 byte sequence from index 1" := by
  decide +kernel

/-- The name of the attribute whose name-length stands at `pos`, and where it ends.  An empty
name means one more value of the last attribute. -/
def readName (data : List UInt8) (lastName : String) (pos : ℕ) :
    Except ParseError (String × ℕ) :=
  if data.length < pos + 2 then .error (.refused "IPP response truncated at name-length")
  else do
    let nameLen ← readLength data pos
    let pos := pos + 2
    if nameLen = 0 then return (lastName, pos)
    else if data.length < pos + nameLen then
      .error (.refused "IPP response truncated at name")
    else
      let bytes ← bytesAt data pos (pos + nameLen)
      match fromUtf8 bytes with
      | some name => return (name, pos + nameLen)
      | none =>
        let e := utf8ErrorText bytes
        .error (.refused s!"Invalid UTF-8 in attribute name: {e}")

/-- The value whose value-length stands at `pos`, and where it ends. -/
def readValue (data : List UInt8) (pos : ℕ) : Except ParseError (List UInt8 × ℕ) :=
  if data.length < pos + 2 then .error (.refused "IPP response truncated at value-length")
  else do
    let valueLen ← readLength data pos
    let pos := pos + 2
    if data.length < pos + valueLen then
      .error (.refused "IPP response truncated at value")
    else
      let value ← bytesAt data pos (pos + valueLen)
      return (value, pos + valueLen)

/-- The attribute whose tag stands right before `pos`, and where it ends. -/
def readAttribute (data : List UInt8) (tag : UInt8) (lastName : String) (pos : ℕ) :
    Except ParseError (IppAttribute × ℕ) := do
  let (name, pos) ← readName data lastName pos
  let (value, pos) ← readValue data pos
  return (⟨name, tag, value⟩, pos)

/-- The loop of `parse_response`: the attributes from `pos` on, and where it stops. -/
def parseLoop (data : List UInt8) :
    ℕ → ℕ → String → Except ParseError (List IppAttribute × ℕ)
  | 0, _, _ => .error .unending
  | fuel + 1, pos, lastName =>
    if pos < data.length then do
      let tag ← byteAt data pos
      if tag ≤ 0x0F then
        if tag = END_OF_ATTRIBUTES_TAG then return ([], pos + 1)
        else parseLoop data fuel (pos + 1) lastName
      else
        -- the name of this attribute is the last name of the next, also where it was taken over
        let (attr, pos) ← readAttribute data tag lastName (pos + 1)
        let (attributes, stop) ← parseLoop data fuel pos attr.name
        return (attr :: attributes, stop)
    else return ([], pos)

/-- `parse_response`, and the index at which its loop stops. -/
def parse (data : List UInt8) : Except ParseError (IppResponse × ℕ) :=
  if data.length < 8 then
    let length := data.length
    .error (.refused s!"IPP response too short: {length} bytes")
  else do
    let status ← bytesAt data 2 4
    let request ← bytesAt data 4 8
    let (attributes, pos) ← parseLoop data data.length 8 ""
    return (⟨UInt16.ofNat (ofBytes status), UInt32.ofNat (ofBytes request), attributes⟩, pos)

/-- `parse_response`. -/
def parseResponse (data : List UInt8) : Except ParseError IppResponse :=
  (parse data).map Prod.fst

/-! ### Reading in place -/

section Reading

variable {data rest bytes : List UInt8} {pos : ℕ} {lastName : String}

lemma byteAt_eq {b : UInt8} (h : At data pos (b :: rest)) : byteAt data pos = .ok b := by
  unfold byteAt
  rw [h.getElem?]

lemma bytesAt_eq (h : At data pos (bytes ++ rest)) :
    bytesAt data pos (pos + bytes.length) = .ok bytes := by
  unfold bytesAt
  rw [h.slice_eq]

lemma readLength_eq (h : At data pos (bytes ++ rest)) (hlen : bytes.length = 2) :
    readLength data pos = .ok (ofBytes bytes) := by
  obtain ⟨hi, lo, rfl⟩ : ∃ hi lo, bytes = [hi, lo] := List.length_eq_two.mp hlen
  unfold readLength
  rw [byteAt_eq h, byteAt_eq (At.next h)]
  rfl

/-- The name that an attribute goes by when this one is written. -/
def nameOf (lastName written : String) : String := if written = "" then lastName else written

lemma utf8_empty : utf8 "" = [] := by decide

/-- A name is read off its length and its bytes. -/
lemma readName_eq {len : List UInt8} (h : At data pos (len ++ (bytes ++ rest)))
    (hlen : len.length = 2) (hbytes : bytes.length = ofBytes len) :
    readName data lastName pos = match fromUtf8 bytes with
      | some name => .ok (nameOf lastName name, pos + 2 + bytes.length)
      | none =>
        .error (.refused ("Invalid UTF-8 in attribute name: " ++ utf8ErrorText bytes)) := by
  have hsize := h.length_eq
  have hat : At data (pos + 2) (bytes ++ rest) := hlen ▸ h.skip
  simp only [List.length_append] at hsize
  unfold readName
  rw [if_neg (by omega), readLength_eq h hlen, ← hbytes]
  change (if bytes.length = 0 then _ else _) = _
  rcases bytes with _ | ⟨b, bytes⟩
  · rw [if_pos List.length_nil, show fromUtf8 [] = some "" from fromUtf8_utf8 ""]
    rfl
  · rw [if_neg (by simp), if_neg (by omega), bytesAt_eq hat]
    simp only [Bind.bind, Except.bind, pure, Except.pure]
    rcases hname : fromUtf8 (b :: bytes) with _ | name
    · rfl
    · have hne : name ≠ "" := by
        rintro rfl
        simpa [utf8_empty] using utf8_of_fromUtf8 hname
      simp only [nameOf, if_neg hne]

/-- A value is read off its length and its bytes. -/
lemma readValue_eq {len : List UInt8} (h : At data pos (len ++ (bytes ++ rest)))
    (hlen : len.length = 2) (hbytes : bytes.length = ofBytes len) :
    readValue data pos = .ok (bytes, pos + 2 + bytes.length) := by
  have hsize := h.length_eq
  have hat : At data (pos + 2) (bytes ++ rest) := hlen ▸ h.skip
  simp only [List.length_append] at hsize
  unfold readValue
  rw [if_neg (by omega), readLength_eq h hlen, ← hbytes]
  change (if data.length < pos + 2 + bytes.length then _ else _) = _
  rw [if_neg (by omega), bytesAt_eq hat]
  rfl

lemma readName_short (h : At data pos (bytes ++ rest)) (hlen : bytes.length = 2)
    (hshort : data.length < pos + 2 + ofBytes bytes) :
    readName data lastName pos = .error (.refused "IPP response truncated at name") := by
  have hsize := h.length_eq
  simp only [List.length_append] at hsize
  unfold readName
  rw [if_neg (by omega), readLength_eq h hlen]
  change (if ofBytes bytes = 0 then _ else _) = _
  rw [if_neg (by omega), if_pos (by omega)]

lemma readValue_short (h : At data pos (bytes ++ rest)) (hlen : bytes.length = 2)
    (hshort : data.length < pos + 2 + ofBytes bytes) :
    readValue data pos = .error (.refused "IPP response truncated at value") := by
  have hsize := h.length_eq
  simp only [List.length_append] at hsize
  unfold readValue
  rw [if_neg (by omega), readLength_eq h hlen]
  change (if data.length < pos + 2 + ofBytes bytes then _ else _) = _
  rw [if_pos (by omega)]

/-- A length field holds the length it spells. -/
lemma lengthField {len : List UInt8} (hlen : len.length = 2)
    (hbytes : bytes.length = ofBytes len) :
    bytes.length < 65536 ∧ len = toBytes 2 bytes.length := by
  have hlt := ofBytes_lt len
  rw [hlen] at hlt
  exact ⟨by omega, by rw [hbytes, ← hlen, toBytes_ofBytes]⟩

/-- Whatever lies at `pos`: a name is refused there, or the bytes spell one. -/
lemma readName_spec (h : At data pos rest) :
    (∃ text, ∀ lastName, readName data lastName pos = .error (.refused text)) ∨
      ∃ name rest', (utf8 name).length < 65536 ∧
        rest = toBytes 2 (utf8 name).length ++ (utf8 name ++ rest') := by
  by_cases hshort : data.length < pos + 2
  · exact .inl ⟨_, fun _ => by unfold readName; rw [if_pos hshort]⟩
  obtain ⟨len, tail, rfl, hlen⟩ := h.split (not_lt.mp hshort)
  by_cases hname : data.length < pos + 2 + ofBytes len
  · exact .inl ⟨_, fun _ => readName_short h hlen hname⟩
  have hat : At data (pos + 2) tail := hlen ▸ h.skip
  obtain ⟨bytes, rest', rfl, hbytes⟩ := hat.split (not_lt.mp hname)
  rcases hspelt : fromUtf8 bytes with _ | name
  · exact .inl ⟨_, fun _ => by rw [readName_eq h hlen hbytes, hspelt]⟩
  · obtain rfl := utf8_of_fromUtf8 hspelt
    obtain ⟨hlt, heq⟩ := lengthField hlen hbytes
    exact .inr ⟨name, rest', hlt, by rw [← heq]⟩

/-- Whatever lies at `pos`: a value is refused there, or the bytes hold one. -/
lemma readValue_spec (h : At data pos rest) :
    (∃ text, readValue data pos = .error (.refused text)) ∨
      ∃ value rest', value.length < 65536 ∧
        rest = toBytes 2 value.length ++ (value ++ rest') := by
  by_cases hshort : data.length < pos + 2
  · exact .inl ⟨_, by unfold readValue; rw [if_pos hshort]⟩
  obtain ⟨len, tail, rfl, hlen⟩ := h.split (not_lt.mp hshort)
  by_cases hvalue : data.length < pos + 2 + ofBytes len
  · exact .inl ⟨_, readValue_short h hlen hvalue⟩
  have hat : At data (pos + 2) tail := hlen ▸ h.skip
  obtain ⟨value, rest', rfl, hbytes⟩ := hat.split (not_lt.mp hvalue)
  obtain ⟨hlt, heq⟩ := lengthField hlen hbytes
  exact .inr ⟨value, rest', hlt, by rw [← heq]⟩

/-- An attribute is read off its bytes. -/
lemma readAttribute_eq {tag : UInt8} {name : String} {value : List UInt8}
    (h : At data pos (toBytes 2 (utf8 name).length ++ (utf8 name ++
      (toBytes 2 value.length ++ (value ++ rest)))))
    (hname : (utf8 name).length < 65536) (hvalue : value.length < 65536) :
    readAttribute data tag lastName pos =
      .ok (⟨nameOf lastName name, tag, value⟩,
        pos + 4 + (utf8 name).length + value.length) := by
  have hat : At data (pos + 2 + (utf8 name).length) (toBytes 2 value.length ++ (value ++ rest)) :=
    (length_toBytes 2 _ ▸ h.skip).skip
  unfold readAttribute
  rw [readName_eq h (length_toBytes 2 _) (ofBytes_toBytes hname).symm, fromUtf8_utf8]
  change (readValue data (pos + 2 + (utf8 name).length) >>= _) = _
  rw [readValue_eq hat (length_toBytes 2 _) (ofBytes_toBytes hvalue).symm]
  change Except.ok (_, _) = _
  congr 2
  omega

/-- Whatever lies at `pos`: an attribute is refused there, or the bytes hold one. -/
lemma readAttribute_spec (h : At data pos rest) :
    (∃ text, ∀ tag lastName,
      readAttribute data tag lastName pos = .error (.refused text)) ∨
      ∃ name value rest', (utf8 name).length < 65536 ∧ value.length < 65536 ∧
        rest = toBytes 2 (utf8 name).length ++ (utf8 name ++
          (toBytes 2 value.length ++ (value ++ rest'))) := by
  rcases readName_spec h with ⟨text, herr⟩ | ⟨name, tail, hname, rfl⟩
  · exact .inl ⟨text, fun _ lastName => by unfold readAttribute; rw [herr lastName]; rfl⟩
  have hat : At data (pos + 2 + (utf8 name).length) tail := (length_toBytes 2 _ ▸ h.skip).skip
  rcases readValue_spec hat with ⟨text, herr⟩ | ⟨value, rest', hvalue, rfl⟩
  · refine .inl ⟨text, fun tag lastName => ?_⟩
    unfold readAttribute
    rw [readName_eq h (length_toBytes 2 _) (ofBytes_toBytes hname).symm, fromUtf8_utf8]
    change (readValue data (pos + 2 + (utf8 name).length) >>= _) = _
    rw [herr]
    rfl
  · exact .inr ⟨name, value, rest', hname, hvalue, rfl⟩

end Reading

/-! ### The loop -/

/-- `a` is the piece of the input from `start` up to `stop`, read after `lastName`: its bytes are
those of the attribute, the name empty where it is taken over. -/
structure IsPiece (data : List UInt8) (start stop : ℕ) (lastName : String) (a : IppAttribute) :
    Prop where
  fits : a.value.length < 65536
  bytes : ∃ written, slice data start stop = some (writeAttribute a.tag written a.value) ∧
    a.name = nameOf lastName written

/-- The attributes are pieces of the input, in order, between `start` and `stop`. -/
def InOrder (data : List UInt8) : ℕ → String → List IppAttribute → ℕ → Prop
  | start, _, [], stop => start ≤ stop ∧ stop ≤ data.length
  | start, lastName, a :: attributes, stop =>
    ∃ first next, start ≤ first ∧ IsPiece data first next lastName a ∧
      InOrder data next a.name attributes stop

/-- What parsing may come to: an error that the parser names, or attributes that are pieces of
the input in order. -/
def Sound (data : List UInt8) (start : ℕ) (lastName : String) :
    Except ParseError (List IppAttribute × ℕ) → Prop
  | .ok (attributes, stop) => InOrder data start lastName attributes stop
  | .error e => ∃ text, e = .refused text

section Loop

variable {data rest : List UInt8} {pos : ℕ} {lastName : String}

lemma InOrder.anti {start first stop : ℕ} {attributes : List IppAttribute}
    (h : InOrder data first lastName attributes stop) (hle : start ≤ first) :
    InOrder data start lastName attributes stop := by
  cases attributes with
  | nil => exact ⟨hle.trans h.1, h.2⟩
  | cons a attributes =>
    obtain ⟨first', next, hfirst, hpiece, htail⟩ := h
    exact ⟨first', next, hle.trans hfirst, hpiece, htail⟩

@[simp] lemma length_writeAttribute (tag : UInt8) (name : String) (value : List UInt8) :
    (writeAttribute tag name value).length = 5 + (utf8 name).length + value.length := by
  simp only [writeAttribute, List.length_cons, List.length_append, length_toBytes]
  omega

lemma parseLoop_end (fuel : ℕ) (h : At data pos []) :
    parseLoop data (fuel + 1) pos lastName = .ok ([], pos) := by
  have hsize := h.length_eq
  rw [parseLoop, if_neg (by simp at hsize; omega)]
  rfl

/-- The end tag ends the loop. -/
lemma parseLoop_endTag (fuel : ℕ) (h : At data pos (END_OF_ATTRIBUTES_TAG :: rest)) :
    parseLoop data (fuel + 1) pos lastName = .ok ([], pos + 1) := by
  have hsize := h.length_eq
  rw [parseLoop, if_pos (by simp at hsize; omega), byteAt_eq h]
  rfl

/-- Any other delimiter is passed. -/
lemma parseLoop_delimiter {tag : UInt8} (fuel : ℕ) (h : At data pos (tag :: rest))
    (htag : tag ≤ 0x0F) (hend : tag ≠ END_OF_ATTRIBUTES_TAG) :
    parseLoop data (fuel + 1) pos lastName = parseLoop data fuel (pos + 1) lastName := by
  have hsize := h.length_eq
  rw [parseLoop, if_pos (by simp at hsize; omega), byteAt_eq h]
  change (if tag ≤ 0x0F then _ else _) = _
  rw [if_pos htag, if_neg hend]

/-- A value tag begins an attribute. -/
lemma parseLoop_value {tag : UInt8} (fuel : ℕ) (h : At data pos (tag :: rest))
    (htag : ¬ tag ≤ 0x0F) :
    parseLoop data (fuel + 1) pos lastName =
      (readAttribute data tag lastName (pos + 1) >>= fun (a, next) =>
        (parseLoop data fuel next a.name).map fun (attributes, stop) =>
          (a :: attributes, stop)) := by
  have hsize := h.length_eq
  rw [parseLoop, if_pos (by simp at hsize; omega), byteAt_eq h]
  change (if tag ≤ 0x0F then _ else _) = _
  rw [if_neg htag]
  refine congrArg _ (funext fun ⟨a, next⟩ => ?_)
  cases hloop : parseLoop data fuel next a.name <;> simp only [hloop] <;> rfl

/-- A written attribute is read, and the loop goes on behind it. -/
lemma parseLoop_attribute {tag : UInt8} {name : String} {value : List UInt8} (fuel : ℕ)
    (h : At data pos (writeAttribute tag name value ++ rest)) (htag : ¬ tag ≤ 0x0F)
    (hname : (utf8 name).length < 65536) (hvalue : value.length < 65536) :
    parseLoop data (fuel + 1) pos lastName =
      (parseLoop data fuel (pos + (writeAttribute tag name value).length)
        (nameOf lastName name)).map fun (attributes, stop) =>
          (⟨nameOf lastName name, tag, value⟩ :: attributes, stop) := by
  have hbody : At data pos (tag :: (toBytes 2 (utf8 name).length ++ (utf8 name ++
      (toBytes 2 value.length ++ (value ++ rest))))) := by
    simpa [writeAttribute] using h
  rw [parseLoop_value fuel hbody htag, readAttribute_eq hbody.next hname hvalue,
    length_writeAttribute]
  change Except.map _ (parseLoop data fuel _ _) = _
  rw [show pos + 1 + 4 + (utf8 name).length + value.length =
    pos + (5 + (utf8 name).length + value.length) by omega]

/-- With fuel for every byte that is left, the loop ends inside the input, and what it returns
lies there. -/
lemma parseLoop_sound (fuel : ℕ) {pos : ℕ} {lastName : String} (hpos : pos ≤ data.length)
    (hfuel : data.length < pos + fuel) :
    Sound data pos lastName (parseLoop data fuel pos lastName) := by
  induction fuel generalizing pos lastName with
  | zero => omega
  | succ fuel ih =>
    have hat := at_drop hpos
    have hsize := hat.length_eq
    rcases hrest : data.drop pos with _ | ⟨tag, rest⟩
    · rw [hrest] at hat
      rw [parseLoop_end fuel hat]
      exact ⟨le_rfl, hpos⟩
    rw [hrest] at hat hsize
    rw [List.length_cons] at hsize
    by_cases htag : tag ≤ 0x0F
    · by_cases hend : tag = END_OF_ATTRIBUTES_TAG
      · subst hend
        rw [parseLoop_endTag fuel hat]
        exact ⟨by omega, by omega⟩
      · rw [parseLoop_delimiter fuel hat htag hend]
        have hnext : Sound data (pos + 1) lastName _ := ih (by omega) (by omega)
        revert hnext
        rcases parseLoop data fuel (pos + 1) lastName with e | ⟨attributes, stop⟩
        · exact id
        · exact fun h => InOrder.anti h (Nat.le_succ pos)
    rcases readAttribute_spec hat.next with ⟨text, herr⟩ | ⟨name, value, rest', hname, hvalue, rfl⟩
    · rw [parseLoop_value fuel hat htag, herr]
      exact ⟨text, rfl⟩
    -- the attribute that is read is the piece, and the rest is behind it
    have hpiece : At data pos (writeAttribute tag name value ++ rest') := by
      simpa [writeAttribute] using hat
    have hin := hpiece.length_eq
    simp only [List.length_append, length_writeAttribute] at hin
    rw [parseLoop_attribute fuel hpiece htag hname hvalue]
    have hnext : Sound data (pos + (writeAttribute tag name value).length)
        (nameOf lastName name) _ :=
      ih (by rw [length_writeAttribute]; omega) (by rw [length_writeAttribute]; omega)
    revert hnext
    rcases parseLoop data fuel _ _ with e | ⟨attributes, stop⟩
    · exact id
    · exact fun h => ⟨pos, _, le_rfl, ⟨hvalue, name, hpiece.slice_eq, rfl⟩, h⟩

/-! ### Written messages -/

/-- What a message is written of. -/
inductive Item where
  | delimiter (tag : UInt8)
  | field (tag : UInt8) (name : String) (value : List UInt8)

namespace Item

/-- The bytes of an item. -/
def bytes : Item → List UInt8
  | delimiter tag => [tag]
  | field tag name value => writeAttribute tag name value

/-- What is read of an item. -/
def read : Item → List IppAttribute
  | delimiter _ => []
  | field tag name value => [⟨name, tag, value⟩]

/-- An item that says by its tag what it is; the name of an attribute is not empty, and it fits
its length field. -/
def Clear : Item → Prop
  | delimiter tag => tag ≤ 0x0F ∧ tag ≠ END_OF_ATTRIBUTES_TAG
  | field tag name _ => ¬ tag ≤ 0x0F ∧ name ≠ "" ∧ (utf8 name).length < 65536

/-- The value of an attribute fits its length field. -/
def Fits : Item → Prop
  | delimiter _ => True
  | field _ _ value => value.length < 65536

end Item

lemma length_le_bytes (items : List Item) :
    items.length ≤ (items.flatMap Item.bytes).length := by
  induction items with
  | nil => simp
  | cons i items ih =>
    have : 1 ≤ i.bytes.length := by
      rcases i with _ | _
      · exact le_rfl
      · rw [Item.bytes, length_writeAttribute]
        omega
    simp only [List.length_cons, List.flatMap_cons, List.length_append]
    omega

/-- The loop reads the items one by one, up to the end tag. -/
lemma parseLoop_items (items : List Item) (hclear : ∀ i ∈ items, i.Clear)
    (hfits : ∀ i ∈ items, i.Fits) (fuel : ℕ) {pos : ℕ} {lastName : String}
    (h : At data pos (items.flatMap Item.bytes ++ END_OF_ATTRIBUTES_TAG :: rest))
    (hfuel : items.length < fuel) :
    parseLoop data fuel pos lastName = .ok (items.flatMap Item.read,
      pos + (items.flatMap Item.bytes).length + 1) := by
  induction items generalizing fuel pos lastName with
  | nil =>
    obtain ⟨fuel, rfl⟩ : ∃ f, fuel = f + 1 := ⟨fuel - 1, by simp at hfuel; omega⟩
    simpa using parseLoop_endTag fuel h
  | cons i items ih =>
    rw [List.length_cons] at hfuel
    obtain ⟨fuel, rfl⟩ : ∃ f, fuel = f + 1 := ⟨fuel - 1, by omega⟩
    rw [List.flatMap_cons, List.append_assoc] at h
    have hclear' : ∀ i ∈ items, i.Clear := fun j hj => hclear j (List.mem_cons_of_mem _ hj)
    have hfits' : ∀ i ∈ items, i.Fits := fun j hj => hfits j (List.mem_cons_of_mem _ hj)
    rcases i with tag | ⟨tag, name, value⟩
    · obtain ⟨htag, hend⟩ := hclear _ List.mem_cons_self
      rw [parseLoop_delimiter fuel h htag hend,
        ih hclear' hfits' fuel h.next (by omega)]
      simp only [List.flatMap_cons, Item.read, Item.bytes, List.nil_append, List.length_append,
        List.length_singleton]
      congr 2
      omega
    · obtain ⟨htag, hname, hlen⟩ := hclear _ List.mem_cons_self
      have hvalue : value.length < 65536 := hfits _ List.mem_cons_self
      have hrest : parseLoop data fuel (pos + (writeAttribute tag name value).length) name = _ :=
        ih hclear' hfits' fuel h.skip (by omega)
      rw [parseLoop_attribute fuel h htag hlen hvalue, nameOf, if_neg hname, hrest]
      simp only [List.flatMap_cons, Item.read, Item.bytes, List.length_append, Except.map,
        List.singleton_append]
      congr 2
      omega

end Loop

/-! ### Round trips -/

/-- The items that both requests begin with. -/
def commonItems (printerUri : String) : List Item :=
  [.delimiter OPERATION_ATTRIBUTES_TAG,
    .field CHARSET_TAG "attributes-charset" (utf8 "utf-8"),
    .field NATURAL_LANGUAGE_TAG "attributes-natural-language" (utf8 "en-us"),
    .field URI_TAG "printer-uri" (utf8 printerUri)]

/-- The copies of a Print-Job request, where there are more than one. -/
def copiesItems (copies : UInt32) : List Item :=
  if 1 < max copies 1 then
    [.delimiter JOB_ATTRIBUTES_TAG,
      .field INTEGER_TAG "copies" (toBytes 4 (max copies 1).toInt32.toUInt32.toNat)]
  else []

/-- The items of a Print-Job request. -/
def printJobItems (printerUri documentFormat jobName : String) (copies : UInt32) : List Item :=
  commonItems printerUri ++
    [.field MIME_MEDIA_TYPE_TAG "document-format" (utf8 documentFormat),
      .field NAME_WITHOUT_LANGUAGE_TAG "job-name" (utf8 jobName)] ++
    copiesItems copies

/-- The items of a Get-Job-Attributes request. -/
def jobAttributesItems (printerUri : String) (jobId : Int32) : List Item :=
  commonItems printerUri ++ [.field INTEGER_TAG "job-id" (toBytes 4 jobId.toUInt32.toNat)]

/-- The message of these items. -/
def message (operation : UInt16) (requestId : UInt32) (items : List Item) : List UInt8 :=
  requestHeader operation requestId ++ (items.flatMap Item.bytes ++ [END_OF_ATTRIBUTES_TAG])

lemma buildPrintJobRequest_eq (printerUri documentFormat jobName : String)
    (requestId copies : UInt32) :
    buildPrintJobRequest printerUri documentFormat jobName requestId copies =
      message PRINT_JOB requestId (printJobItems printerUri documentFormat jobName copies) := by
  unfold buildPrintJobRequest message printJobItems commonItems copiesItems writeIntegerAttribute
  by_cases hcopies : 1 < max copies 1
  · simp only [if_pos hcopies]
    simp [Item.bytes]
  · simp only [if_neg hcopies]
    simp [Item.bytes]

lemma buildGetJobAttributesRequest_eq (printerUri : String) (jobId : Int32)
    (requestId : UInt32) :
    buildGetJobAttributesRequest printerUri jobId requestId =
      message GET_JOB_ATTRIBUTES requestId (jobAttributesItems printerUri jobId) := by
  simp [buildGetJobAttributesRequest, message, jobAttributesItems, commonItems,
    writeIntegerAttribute, Item.bytes]

@[simp] lemma length_requestHeader (operation : UInt16) (requestId : UInt32) :
    (requestHeader operation requestId).length = 8 := by
  simp [requestHeader]

/-- Reading a message is reading its header and going through the loop. -/
lemma parse_message (operation : UInt16) (requestId : UInt32) (rest : List UInt8) :
    parse (requestHeader operation requestId ++ rest) =
      (parseLoop (requestHeader operation requestId ++ rest) (8 + rest.length) 8 "").map
        fun (attributes, pos) => (⟨operation, requestId, attributes⟩, pos) := by
  have hat₂ : At (requestHeader operation requestId ++ rest) 2
      (toBytes 2 operation.toNat ++ (toBytes 4 requestId.toNat ++ rest)) :=
    ⟨[IPP_VERSION_MAJOR, IPP_VERSION_MINOR], by simp [requestHeader], rfl⟩
  have hstatus := bytesAt_eq hat₂
  have hrequest := bytesAt_eq (length_toBytes 2 operation.toNat ▸ hat₂.skip)
  rw [length_toBytes] at hstatus hrequest
  have hop : UInt16.ofNat (ofBytes (toBytes 2 operation.toNat)) = operation := by
    rw [ofBytes_toBytes operation.toNat_lt, UInt16.ofNat_toNat]
  have hid : UInt32.ofNat (ofBytes (toBytes 4 requestId.toNat)) = requestId := by
    rw [ofBytes_toBytes requestId.toNat_lt, UInt32.ofNat_toNat]
  unfold parse
  rw [if_neg (by simp), hstatus, hrequest, List.length_append, length_requestHeader]
  simp only [Bind.bind, Except.bind, pure, Except.pure, hop, hid]
  rcases parseLoop _ _ 8 "" with e | ⟨attributes, pos⟩ <;> rfl

/-- The end of a parsed message, as far as what follows it is left alone. -/
lemma parse_items (operation : UInt16) (requestId : UInt32) {items : List Item}
    (hclear : ∀ i ∈ items, i.Clear) (hfits : ∀ i ∈ items, i.Fits) (document : List UInt8) :
    parse (message operation requestId items ++ document) =
      .ok (⟨operation, requestId, items.flatMap Item.read⟩,
        (message operation requestId items).length) := by
  have hat : At (requestHeader operation requestId ++
      (items.flatMap Item.bytes ++ END_OF_ATTRIBUTES_TAG :: document)) 8
      (items.flatMap Item.bytes ++ END_OF_ATTRIBUTES_TAG :: document) :=
    length_requestHeader operation requestId ▸ at_append _ _
  have hmessage : message operation requestId items ++ document =
      requestHeader operation requestId ++
        (items.flatMap Item.bytes ++ END_OF_ATTRIBUTES_TAG :: document) := by
    simp [message]
  have hfuel : items.length < 8 + (items.flatMap Item.bytes ++
      END_OF_ATTRIBUTES_TAG :: document).length := by
    have := length_le_bytes items
    simp only [List.length_append, List.length_cons]
    omega
  rw [hmessage, parse_message, parseLoop_items items hclear hfits _ hat hfuel]
  simp only [Except.map, message, List.length_append, length_requestHeader,
    List.length_singleton, Nat.add_assoc]

/-- A parsed value fits its length field. -/
lemma InOrder.fits {data : List UInt8} {attributes : List IppAttribute} {start stop : ℕ}
    {lastName : String} (h : InOrder data start lastName attributes stop) {a : IppAttribute}
    (ha : a ∈ attributes) : a.value.length < 65536 := by
  induction attributes generalizing start lastName with
  | nil => cases ha
  | cons b attributes ih =>
    obtain ⟨_, _, _, hpiece, htail⟩ := h
    rcases List.mem_cons.mp ha with rfl | ha
    · exact hpiece.fits
    · exact ih htail ha

/-- Parsing is safe on `data`: it ends, by an error of its own or with attributes that are
pieces of the input in order, up to the place where it stopped. -/
def ParseSafe (data : List UInt8) : Prop :=
  match parse data with
  | .ok (response, pos) => InOrder data 8 "" response.attributes pos
  | .error e => ∃ text, e = .refused text

lemma bytesAt_ok {data : List UInt8} {start stop : ℕ} (h : start ≤ stop)
    (hin : stop ≤ data.length) : ∃ bytes, bytesAt data start stop = .ok bytes := by
  unfold bytesAt slice
  rw [if_pos ⟨h, hin⟩]
  exact ⟨_, rfl⟩

lemma parse_safe (data : List UInt8) : ParseSafe data := by
  unfold ParseSafe parse
  by_cases hshort : data.length < 8
  · rw [if_pos hshort]
    exact ⟨_, rfl⟩
  rw [if_neg hshort]
  have hin : 8 ≤ data.length := not_lt.mp hshort
  obtain ⟨status, hstatus⟩ := bytesAt_ok (show 2 ≤ 4 by omega) (Nat.le_trans (by omega) hin)
  obtain ⟨request, hrequest⟩ := bytesAt_ok (show 4 ≤ 8 by omega) hin
  have hsound : Sound data 8 "" _ := parseLoop_sound data.length hin (by omega)
  rw [hstatus, hrequest]
  simp only [Bind.bind, Except.bind]
  revert hsound
  rcases parseLoop data data.length 8 "" with e | ⟨attributes, pos⟩
  · exact id
  · exact id

/-! ### What is asked -/

/-- The attributes that both requests begin with. -/
def commonAttributes (printerUri : String) : List IppAttribute :=
  [⟨"attributes-charset", CHARSET_TAG, utf8 "utf-8"⟩,
    ⟨"attributes-natural-language", NATURAL_LANGUAGE_TAG, utf8 "en-us"⟩,
    ⟨"printer-uri", URI_TAG, utf8 printerUri⟩]

/-- The attributes of a Print-Job request. -/
def printJobAttributes (printerUri documentFormat jobName : String) (copies : UInt32) :
    List IppAttribute :=
  commonAttributes printerUri ++
    [⟨"document-format", MIME_MEDIA_TYPE_TAG, utf8 documentFormat⟩,
      ⟨"job-name", NAME_WITHOUT_LANGUAGE_TAG, utf8 jobName⟩] ++
    if 1 < max copies 1 then [⟨"copies", INTEGER_TAG, toBytes 4 (max copies 1).toNat⟩] else []

/-- The attributes of a Get-Job-Attributes request. -/
def jobAttributes (printerUri : String) (jobId : Int32) : List IppAttribute :=
  commonAttributes printerUri ++ [⟨"job-id", INTEGER_TAG, toBytes 4 jobId.toUInt32.toNat⟩]

/-- Parsing the request, whatever document follows, gives the response, and the document begins
right behind the end tag. -/
def ReadsBack (request : List UInt8) (response : IppResponse) : Prop :=
  ∀ document, ∃ pos, parse (request ++ document) = .ok (response, pos) ∧
    (request ++ document).drop pos = document

/-- The number that an attribute of this name carries. -/
def IppResponse.number (r : IppResponse) (name : String) : Option (Option ℤ) :=
  (r.get name).map fun a => a.asI32.map Int32.toInt

/-- A Print-Job request is read back: the operation, the request, the attributes, and the number
of copies where it is above one. -/
structure PrintJobRoundTrip (printerUri documentFormat jobName : String)
    (requestId copies : UInt32) : Prop where
  parsed : ReadsBack (buildPrintJobRequest printerUri documentFormat jobName requestId copies)
    ⟨PRINT_JOB, requestId, printJobAttributes printerUri documentFormat jobName copies⟩
  copies : IppResponse.number
      ⟨PRINT_JOB, requestId, printJobAttributes printerUri documentFormat jobName copies⟩
      "copies" =
    if 1 < max copies 1 then some (some ((max copies 1).toNat : ℤ)) else none

/-- A Get-Job-Attributes request is read back. -/
structure JobAttributesRoundTrip (printerUri : String) (jobId : Int32) (requestId : UInt32) :
    Prop where
  parsed : ReadsBack (buildGetJobAttributesRequest printerUri jobId requestId)
    ⟨GET_JOB_ATTRIBUTES, requestId, jobAttributes printerUri jobId⟩
  jobId : IppResponse.number ⟨GET_JOB_ATTRIBUTES, requestId, jobAttributes printerUri jobId⟩
    "job-id" = some (some jobId.toInt)

lemma message_readsBack (operation : UInt16) (requestId : UInt32) {items : List Item}
    (hclear : ∀ i ∈ items, i.Clear) (hfits : ∀ i ∈ items, i.Fits) :
    ReadsBack (message operation requestId items)
      ⟨operation, requestId, items.flatMap Item.read⟩ :=
  fun document => ⟨_, parse_items operation requestId hclear hfits document, List.drop_left⟩

/-- What is read back fits its length fields. -/
lemma ReadsBack.fits {request : List UInt8} {response : IppResponse}
    (h : ReadsBack request response) {a : IppAttribute} (ha : a ∈ response.attributes) :
    a.value.length < 65536 := by
  obtain ⟨pos, hparse, -⟩ := h []
  have hsafe := parse_safe (request ++ [])
  unfold ParseSafe at hsafe
  rw [hparse] at hsafe
  exact hsafe.fits ha

lemma printJobItems_read (printerUri documentFormat jobName : String) (copies : UInt32) :
    (printJobItems printerUri documentFormat jobName copies).flatMap Item.read =
      printJobAttributes printerUri documentFormat jobName copies := by
  unfold printJobItems printJobAttributes copiesItems commonItems commonAttributes
  by_cases hcopies : 1 < max copies 1
  · simp only [if_pos hcopies]
    simp [Item.read]
  · simp only [if_neg hcopies]
    simp [Item.read]

lemma jobAttributesItems_read (printerUri : String) (jobId : Int32) :
    (jobAttributesItems printerUri jobId).flatMap Item.read =
      jobAttributes printerUri jobId := by
  simp [jobAttributesItems, jobAttributes, commonItems, commonAttributes, Item.read]

lemma commonItems_clear (printerUri : String) : ∀ i ∈ commonItems printerUri, i.Clear := by
  simp only [commonItems, List.forall_mem_cons, Item.Clear]
  exact ⟨by decide, by decide, by decide, by decide, by simp⟩

lemma commonItems_fits {printerUri : String} (h : (utf8 printerUri).length < 65536) :
    ∀ i ∈ commonItems printerUri, i.Fits := by
  simp only [commonItems, List.forall_mem_cons, Item.Fits]
  exact ⟨trivial, by decide, by decide, h, by simp⟩

lemma copiesItems_sound (copies : UInt32) : ∀ i ∈ copiesItems copies, i.Clear ∧ i.Fits := by
  unfold copiesItems
  split
  · simp only [List.forall_mem_cons, Item.Clear, Item.Fits, length_toBytes]
    exact ⟨by decide, by decide, by simp⟩
  · simp

lemma printJobItems_clear (printerUri documentFormat jobName : String) (copies : UInt32) :
    ∀ i ∈ printJobItems printerUri documentFormat jobName copies, i.Clear := by
  have hmore : ∀ i ∈ [Item.field MIME_MEDIA_TYPE_TAG "document-format" (utf8 documentFormat),
      .field NAME_WITHOUT_LANGUAGE_TAG "job-name" (utf8 jobName)], i.Clear := by
    simp only [List.forall_mem_cons, Item.Clear]
    exact ⟨by decide, by decide, by simp⟩
  unfold printJobItems
  rw [List.forall_mem_append, List.forall_mem_append]
  exact ⟨⟨commonItems_clear printerUri, hmore⟩, fun i hi => (copiesItems_sound copies i hi).1⟩

lemma printJobItems_fits {printerUri documentFormat jobName : String} (copies : UInt32)
    (huri : (utf8 printerUri).length < 65536) (hformat : (utf8 documentFormat).length < 65536)
    (hname : (utf8 jobName).length < 65536) :
    ∀ i ∈ printJobItems printerUri documentFormat jobName copies, i.Fits := by
  have hmore : ∀ i ∈ [Item.field MIME_MEDIA_TYPE_TAG "document-format" (utf8 documentFormat),
      .field NAME_WITHOUT_LANGUAGE_TAG "job-name" (utf8 jobName)], i.Fits := by
    simp only [List.forall_mem_cons, Item.Fits]
    exact ⟨hformat, hname, by simp⟩
  unfold printJobItems
  rw [List.forall_mem_append, List.forall_mem_append]
  exact ⟨⟨commonItems_fits huri, hmore⟩, fun i hi => (copiesItems_sound copies i hi).2⟩

lemma asI32_toBytes (name : String) (tag : UInt8) (n : UInt32) :
    IppAttribute.asI32 ⟨name, tag, toBytes 4 n.toNat⟩ = some n.toInt32 := by
  unfold IppAttribute.asI32
  rw [if_pos (length_toBytes 4 _), ofBytes_toBytes n.toNat_lt, UInt32.ofNat_toNat]

/-- A count is its own signed number as long as it is below 2³¹. -/
lemma toInt_toInt32_iff (n : UInt32) : n.toInt32.toInt = n.toNat ↔ n.toNat < 2 ^ 31 := by
  have htoInt : n.toInt32.toInt = n.toBitVec.toInt := rfl
  have htoNat : n.toNat = n.toBitVec.toNat := rfl
  have hlt := n.toNat_lt
  rw [htoInt, BitVec.toInt_eq_toNat_cond, htoNat]
  split <;> omega

lemma number_copies (requestId : UInt32) (printerUri documentFormat jobName : String)
    (copies : UInt32) :
    IppResponse.number
      ⟨PRINT_JOB, requestId, printJobAttributes printerUri documentFormat jobName copies⟩
      "copies" =
    if 1 < max copies 1 then some (some (max copies 1).toInt32.toInt) else none := by
  unfold printJobAttributes commonAttributes IppResponse.number IppResponse.get
  by_cases hcopies : 1 < max copies 1
  · simp only [if_pos hcopies]
    simp [List.find?, asI32_toBytes]
  · simp only [if_neg hcopies]
    simp [List.find?]

/-- Either the copies are as asked and more than one, or one at most is asked and printed. -/
lemma max_one (copies : UInt32) :
    (1 < max copies 1 ∧ max copies 1 = copies) ∨ (¬ 1 < max copies 1 ∧ copies.toNat ≤ 1) := by
  have hdef : max copies 1 = if copies ≤ 1 then 1 else copies := rfl
  by_cases hle : copies ≤ 1
  · rw [hdef, if_pos hle]
    exact .inr ⟨by decide, UInt32.le_iff_toNat_le.mp hle⟩
  · rw [hdef, if_neg hle]
    exact .inl ⟨UInt32.not_le.mp hle, rfl⟩

lemma printJob_iff (printerUri documentFormat jobName : String) (requestId copies : UInt32) :
    PrintJobRoundTrip printerUri documentFormat jobName requestId copies ↔
      (utf8 printerUri).length < 65536 ∧ (utf8 documentFormat).length < 65536 ∧
        (utf8 jobName).length < 65536 ∧ copies.toNat < 2 ^ 31 := by
  constructor
  · rintro ⟨hparsed, hcopies⟩
    have huri : ⟨"printer-uri", URI_TAG, utf8 printerUri⟩ ∈
        printJobAttributes printerUri documentFormat jobName copies := by
      simp only [printJobAttributes, commonAttributes, List.mem_append, List.mem_cons, true_or,
        or_true]
    have hformat : ⟨"document-format", MIME_MEDIA_TYPE_TAG, utf8 documentFormat⟩ ∈
        printJobAttributes printerUri documentFormat jobName copies := by
      simp only [printJobAttributes, List.mem_append, List.mem_cons, true_or, or_true]
    have hname : ⟨"job-name", NAME_WITHOUT_LANGUAGE_TAG, utf8 jobName⟩ ∈
        printJobAttributes printerUri documentFormat jobName copies := by
      simp only [printJobAttributes, List.mem_append, List.mem_cons, true_or, or_true]
    refine ⟨hparsed.fits huri, hparsed.fits hformat, hparsed.fits hname, ?_⟩
    rw [number_copies] at hcopies
    rcases max_one copies with ⟨habove, hmax⟩ | ⟨-, hle⟩
    · rw [if_pos habove, if_pos habove, hmax] at hcopies
      simpa [toInt_toInt32_iff] using hcopies
    · omega
  · rintro ⟨huri, hformat, hname, hcopies⟩
    refine ⟨?_, ?_⟩
    · rw [buildPrintJobRequest_eq, ← printJobItems_read]
      exact message_readsBack _ _ (printJobItems_clear _ _ _ _)
        (printJobItems_fits copies huri hformat hname)
    · rw [number_copies]
      rcases max_one copies with ⟨habove, hmax⟩ | ⟨hone, -⟩
      · rw [if_pos habove, if_pos habove, hmax, (toInt_toInt32_iff copies).mpr hcopies]
      · rw [if_neg hone, if_neg hone]

lemma jobAttributes_iff (printerUri : String) (jobId : Int32) (requestId : UInt32) :
    JobAttributesRoundTrip printerUri jobId requestId ↔ (utf8 printerUri).length < 65536 := by
  have hmore : ∀ i ∈ [Item.field INTEGER_TAG "job-id" (toBytes 4 jobId.toUInt32.toNat)],
      i.Clear ∧ i.Fits := by
    simp only [List.forall_mem_cons, Item.Clear, Item.Fits, length_toBytes]
    exact ⟨by decide, by simp⟩
  constructor
  · rintro ⟨hparsed, -⟩
    have huri : ⟨"printer-uri", URI_TAG, utf8 printerUri⟩ ∈ jobAttributes printerUri jobId := by
      simp only [jobAttributes, commonAttributes, List.mem_append, List.mem_cons, true_or,
        or_true]
    exact hparsed.fits huri
  · intro huri
    refine ⟨?_, ?_⟩
    · rw [buildGetJobAttributesRequest_eq, ← jobAttributesItems_read]
      refine message_readsBack _ _ ?_ ?_
      · exact List.forall_mem_append.mpr ⟨commonItems_clear printerUri, fun i hi => (hmore i hi).1⟩
      · exact List.forall_mem_append.mpr ⟨commonItems_fits huri, fun i hi => (hmore i hi).2⟩
    · simp [IppResponse.number, IppResponse.get, jobAttributes, commonAttributes, List.find?,
        asI32_toBytes]

/-- The requests are read back exactly where no length field and no count overflows, and parsing
is safe on all bytes. -/
theorem codec_round_trip (printerUri documentFormat jobName : String)
    (requestId copies : UInt32) (jobId : Int32) (data : List UInt8) :
    (PrintJobRoundTrip printerUri documentFormat jobName requestId copies ↔
      (utf8 printerUri).length < 65536 ∧ (utf8 documentFormat).length < 65536 ∧
        (utf8 jobName).length < 65536 ∧ copies.toNat < 2 ^ 31) ∧
    (JobAttributesRoundTrip printerUri jobId requestId ↔ (utf8 printerUri).length < 65536) ∧
    ParseSafe data :=
  ⟨printJob_iff printerUri documentFormat jobName requestId copies,
    jobAttributes_iff printerUri jobId requestId, parse_safe data⟩

/-- 2³¹ copies are read back as −2³¹. -/
theorem copies_overflow :
    ¬ PrintJobRoundTrip "ipp://printer.local/ipp/print" "application/pdf" "Report" 1
      2147483648 := by
  rw [printJob_iff]
  rintro ⟨-, -, -, hcopies⟩
  exact absurd hcopies (by decide)

end IppCodec

end DevBridge

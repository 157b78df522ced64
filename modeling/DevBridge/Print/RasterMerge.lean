import DevBridge.Lib.BigEndian

/-!
# Merging raster documents

Ghostscript renders the runs of pages of one document into files of their own.  Two raster
formats are a header followed by pages that stand for themselves, so their files become one
document by concatenation behind one header.  The header of URF counts the pages, where zero
means that nobody counted.
-/

namespace DevBridge

namespace Print

/-- A raster format whose documents can be concatenated page by page. -/
inductive RasterKind where
  | urf
  | pwg
deriving DecidableEq, Repr

/-- Why documents are not merged; the number of the document counts from one. -/
inductive MergeError where
  | noDocument
  | shortHeader (number : ℕ)
  | wrongStart (number : ℕ) (start : List UInt8)
  | countOverflow
deriving DecidableEq, Repr

namespace RasterKind

/-- The mergeable kind that a Ghostscript device writes. -/
def forDevice (device : String) : Option RasterKind :=
  if device = "urfgray" ∨ device = "urfrgb" ∨ device = "urfcmyk" then some urf
  else if device = "pwgraster" then some pwg
  else none

/-- `UNIRAST` and a zero byte, and `RaS2`. -/
def magic : RasterKind → List UInt8
  | urf => [0x55, 0x4E, 0x49, 0x52, 0x41, 0x53, 0x54, 0x00]
  | pwg => [0x52, 0x61, 0x53, 0x32]

/-- The magic, and for URF the page count. -/
def headerLen : RasterKind → ℕ
  | urf => 8 + 4
  | pwg => 4

end RasterKind

/-! ### The code -/

/-- The first pass: the page counts (of URF), and what the headers leave of the inputs.  The
inputs are numbered from `i + 1`. -/
def readHeaders (kind : RasterKind) :
    ℕ → List (List UInt8) → Except MergeError (List ℕ × List (List UInt8))
  | _, [] => .ok ([], [])
  | i, input :: inputs =>
    let header := input.take kind.headerLen
    if input.length < kind.headerLen then .error (.shortHeader (i + 1))
    else if !kind.magic.isPrefixOf header then
      .error (.wrongStart (i + 1) (header.take kind.magic.length))
    else
      match readHeaders kind (i + 1) inputs with
      | .error e => .error e
      | .ok (counts, rests) =>
        let count := match kind with
          | .urf => [BigEndian.ofBytes (header.drop kind.magic.length)]
          | .pwg => []
        .ok (count ++ counts, input.drop kind.headerLen :: rests)

/-- `checked_add` of 32 bits. -/
def checkedAdd (sum count : ℕ) : Option ℕ :=
  if sum + count < 2 ^ 32 then some (sum + count) else none

/-- The page count of the merged document; `none` is an overflow. -/
def mergedPageCount (counts : List ℕ) : Option ℕ :=
  if counts.contains 0 then some 0 else counts.foldlM checkedAdd 0

/-- The second pass: what is left of the inputs goes behind what is written. -/
def copyRests (rests : List (List UInt8)) (written : ℕ) (out : List UInt8) : ℕ × List UInt8 :=
  rests.foldl (fun (n, out) rest => (n + rest.length, out ++ rest)) (written, out)

/-- Write the documents `inputs` as one document behind `out`: how many bytes were written, and
what `out` is then. -/
def merge (kind : RasterKind) (inputs : List (List UInt8)) (out : List UInt8) :
    Except MergeError ℕ × List UInt8 :=
  if inputs.isEmpty then (.error .noDocument, out)
  else
    match readHeaders kind 0 inputs with
    | .error e => (.error e, out)
    | .ok (counts, rests) =>
      let written := kind.magic.length
      let out := out ++ kind.magic
      match kind with
      | .pwg =>
        let (n, out) := copyRests rests written out
        (.ok n, out)
      | .urf =>
        match mergedPageCount counts with
        | none => (.error .countOverflow, out)
        | some count =>
          let (n, out) := copyRests rests (written + 4) (out ++ BigEndian.toBytes 4 count)
          (.ok n, out)

/-- The merged document by itself. -/
def merged (kind : RasterKind) (inputs : List (List UInt8)) : Option (List UInt8) :=
  match merge kind inputs [] with
  | (.ok _, out) => some out
  | (.error _, _) => none

/-! ### Documents

A document of a kind is its header and the pages behind it. -/

/-- The bytes begin with the whole header of the kind. -/
structure HasHeader (kind : RasterKind) (bytes : List UInt8) : Prop where
  long : kind.headerLen ≤ bytes.length
  magic : kind.magic <+: bytes

/-- The page count that a URF document declares. -/
def pageCount (bytes : List UInt8) : ℕ := BigEndian.ofBytes ((bytes.take 12).drop 8)

/-- What stands behind the header. -/
def body (kind : RasterKind) (bytes : List UInt8) : List UInt8 := bytes.drop kind.headerLen

/-- The page count of several documents: their sum, or zero if one of them did not count. -/
def totalCount (inputs : List (List UInt8)) : ℕ :=
  if 0 ∈ inputs.map pageCount then 0 else (inputs.map pageCount).sum

/-- What stands in the header behind the magic. -/
def RasterKind.countBytes : RasterKind → ℕ → List UInt8
  | urf, count => BigEndian.toBytes 4 count
  | pwg, _ => []

/-- One header and the inputs behind it, in order. -/
def document (kind : RasterKind) (inputs : List (List UInt8)) : List UInt8 :=
  kind.magic ++ kind.countBytes (totalCount inputs) ++ (inputs.map (body kind)).flatten

/-- The page counts do not overflow. -/
def CountsFit (kind : RasterKind) (inputs : List (List UInt8)) : Prop :=
  kind = .urf → totalCount inputs < 2 ^ 32

/-- What the merge needs. -/
structure Mergeable (kind : RasterKind) (inputs : List (List UInt8)) : Prop where
  nonempty : inputs ≠ []
  headers : ∀ bytes ∈ inputs, HasHeader kind bytes
  counts : CountsFit kind inputs

section Headers

variable {kind : RasterKind} {bytes : List UInt8}

lemma length_magic (kind : RasterKind) : kind.magic.length ≤ kind.headerLen := by
  cases kind <;> decide

lemma length_header (kind : RasterKind) (count : ℕ) :
    (kind.magic ++ kind.countBytes count).length = kind.headerLen := by
  cases kind <;> simp [RasterKind.magic, RasterKind.countBytes, RasterKind.headerLen]

/-- A document is its magic, its page count and its body. -/
lemma HasHeader.eq (h : HasHeader kind bytes) :
    bytes = kind.magic ++ kind.countBytes (pageCount bytes) ++ body kind bytes := by
  obtain ⟨rest, rfl⟩ := h.magic
  cases kind with
  | pwg => rfl
  | urf =>
    have hlong : 4 ≤ rest.length := by
      have := h.long
      simp only [RasterKind.headerLen, RasterKind.magic, List.length_append, List.length_cons,
        List.length_nil] at this
      omega
    have hfour : (rest.take 4).length = 4 := by simp [hlong]
    have hbytes := BigEndian.toBytes_ofBytes (rest.take 4)
    rw [hfour] at hbytes
    have hcount : RasterKind.urf.countBytes (pageCount (RasterKind.urf.magic ++ rest)) =
        rest.take 4 := hbytes
    rw [hcount, List.append_assoc]
    congr 1
    exact (List.take_append_drop 4 rest).symm

lemma pageCount_lt (bytes : List UInt8) : pageCount bytes < 2 ^ 32 := by
  have hlen : ((bytes.take 12).drop 8).length ≤ 4 := by
    simp only [List.length_drop, List.length_take]
    omega
  calc pageCount bytes < 256 ^ ((bytes.take 12).drop 8).length := BigEndian.ofBytes_lt _
    _ ≤ 256 ^ 4 := Nat.pow_le_pow_right (by norm_num) hlen
    _ = 2 ^ 32 := by norm_num

/-- The check of the first pass is that the input has its header. -/
lemma hasHeader_iff : HasHeader kind bytes ↔ ¬bytes.length < kind.headerLen ∧
    kind.magic.isPrefixOf (bytes.take kind.headerLen) = true := by
  rw [List.isPrefixOf_iff_prefix, List.prefix_take_iff, not_lt]
  exact ⟨fun h => ⟨h.long, h.magic, length_magic kind⟩, fun h => ⟨h.1, h.2.1⟩⟩

end Headers

/-! ### The two passes -/

section Passes

variable {kind : RasterKind} {inputs : List (List UInt8)}

/-- The page counts that the first pass collects. -/
def countsOf (kind : RasterKind) (inputs : List (List UInt8)) : List ℕ :=
  match kind with
  | .urf => inputs.map pageCount
  | .pwg => []

/-- The first pass ends well when every input has its header. -/
lemma readHeaders_ok (h : ∀ bytes ∈ inputs, HasHeader kind bytes) (i : ℕ) :
    readHeaders kind i inputs = .ok (countsOf kind inputs, inputs.map (body kind)) := by
  induction inputs generalizing i with
  | nil => cases kind <;> rfl
  | cons input inputs ih =>
    obtain ⟨hlong, hmagic⟩ := hasHeader_iff.mp (h input (by simp))
    have htail := ih (fun bytes hb => h bytes (by simp [hb])) (i + 1)
    unfold readHeaders
    simp only [if_neg hlong, hmagic, Bool.not_true, Bool.false_eq_true, if_false, htail]
    cases kind <;> rfl

/-- The first pass fails on the first input without its header. -/
lemma readHeaders_error (h : ∃ bytes ∈ inputs, ¬HasHeader kind bytes) (i : ℕ) :
    ∃ e, readHeaders kind i inputs = .error e ∧ e ≠ .countOverflow := by
  induction inputs generalizing i with
  | nil => simp at h
  | cons input inputs ih =>
    unfold readHeaders
    by_cases hshort : input.length < kind.headerLen
    · exact ⟨.shortHeader (i + 1), by simp [hshort], by simp⟩
    by_cases hmagic : kind.magic.isPrefixOf (input.take kind.headerLen) = true
    · -- this input is fine, so one of the others is not
      have hinput : HasHeader kind input := hasHeader_iff.mpr ⟨hshort, hmagic⟩
      obtain ⟨bytes, hb, hbad⟩ := h
      rcases List.mem_cons.mp hb with rfl | hb
      · exact absurd hinput hbad
      · obtain ⟨e, he, hne⟩ := ih ⟨bytes, hb, hbad⟩ (i + 1)
        exact ⟨e, by simp [hshort, hmagic, he], hne⟩
    · simp only [Bool.not_eq_true] at hmagic
      exact ⟨.wrongStart (i + 1) ((input.take kind.headerLen).take kind.magic.length),
        by simp [hshort, hmagic], by simp⟩

/-- `try_fold` of `checked_add` is the sum, as long as it fits. -/
lemma foldlM_checkedAdd (counts : List ℕ) {n : ℕ} (hn : n < 2 ^ 32) :
    counts.foldlM checkedAdd n =
      if n + counts.sum < 2 ^ 32 then some (n + counts.sum) else none := by
  induction counts generalizing n with
  | nil => rw [List.sum_nil, add_zero, if_pos hn, List.foldlM_nil, Option.pure_def]
  | cons c counts ih =>
    rw [List.foldlM_cons, List.sum_cons, ← add_assoc]
    by_cases hc : n + c < 2 ^ 32
    · have hstep : checkedAdd n c = some (n + c) := if_pos hc
      rw [hstep, Option.bind_eq_bind, Option.bind_some, ih hc]
    · have hstep : checkedAdd n c = none := if_neg hc
      rw [hstep, Option.bind_eq_bind, Option.bind_none, if_neg (by omega)]

lemma mergedPageCount_map (inputs : List (List UInt8)) :
    mergedPageCount (inputs.map pageCount) =
      if totalCount inputs < 2 ^ 32 then some (totalCount inputs) else none := by
  unfold mergedPageCount totalCount
  by_cases hzero : 0 ∈ inputs.map pageCount
  · simp [hzero]
  · rw [foldlM_checkedAdd _ (by norm_num)]
    simp [hzero]

lemma copyRests_eq (rests : List (List UInt8)) (written : ℕ) (out : List UInt8) :
    copyRests rests written out = (written + rests.flatten.length, out ++ rests.flatten) := by
  unfold copyRests
  induction rests generalizing written out with
  | nil => simp
  | cons rest rests ih =>
    rw [List.foldl_cons, ih]
    simp [add_assoc]

end Passes

/-! ### The merge -/

section Merge

variable {kind : RasterKind} {inputs : List (List UInt8)} {out : List UInt8}

/-- Every input has its header and the counts fit: the documents are concatenated. -/
lemma merge_of_mergeable (h : Mergeable kind inputs) (out : List UInt8) :
    merge kind inputs out = (.ok (document kind inputs).length, out ++ document kind inputs) := by
  have hne : inputs.isEmpty = false := by simpa using h.nonempty
  unfold merge
  simp only [hne, readHeaders_ok h.headers, Bool.false_eq_true, if_false]
  cases kind with
  | pwg => simp [copyRests_eq, document, RasterKind.countBytes]
  | urf =>
    simp only [countsOf, mergedPageCount_map, if_pos (h.counts rfl)]
    simp [copyRests_eq, document, RasterKind.countBytes, add_assoc]

/-- Every input has its header, but the counts overflow: only the magic is written. -/
lemma merge_of_overflow (hne : inputs ≠ []) (hh : ∀ bytes ∈ inputs, HasHeader .urf bytes)
    (hover : ¬totalCount inputs < 2 ^ 32) (out : List UInt8) :
    merge .urf inputs out = (.error .countOverflow, out ++ RasterKind.urf.magic) := by
  have hempty : inputs.isEmpty = false := by simpa using hne
  unfold merge
  simp only [hempty, readHeaders_ok hh, Bool.false_eq_true, if_false, countsOf,
    mergedPageCount_map, if_neg hover]

/-- An input without its header: nothing is written. -/
lemma merge_of_bad_header (h : ∃ bytes ∈ inputs, ¬HasHeader kind bytes) (out : List UInt8) :
    ∃ e, merge kind inputs out = (.error e, out) ∧ e ≠ .countOverflow := by
  obtain ⟨bytes, hb, -⟩ := id h
  have hempty : inputs.isEmpty = false := by
    simpa using List.ne_nil_of_mem hb
  obtain ⟨e, he, hne⟩ := readHeaders_error h 0
  refine ⟨e, ?_, hne⟩
  unfold merge
  simp only [hempty, he, Bool.false_eq_true, if_false]

/-- The merge of some inputs is one of four things. -/
lemma merge_cases (kind : RasterKind) (inputs : List (List UInt8)) :
    inputs = [] ∨ (∃ bytes ∈ inputs, ¬HasHeader kind bytes) ∨
      (kind = .urf ∧ inputs ≠ [] ∧ (∀ bytes ∈ inputs, HasHeader .urf bytes) ∧
        ¬totalCount inputs < 2 ^ 32) ∨ Mergeable kind inputs := by
  by_cases hne : inputs = []
  · exact Or.inl hne
  by_cases hbad : ∃ bytes ∈ inputs, ¬HasHeader kind bytes
  · exact Or.inr (Or.inl hbad)
  push Not at hbad
  by_cases hfit : CountsFit kind inputs
  · exact Or.inr (Or.inr (Or.inr ⟨hne, hbad, hfit⟩))
  · simp only [CountsFit, Classical.not_imp] at hfit
    obtain ⟨rfl, hover⟩ := hfit
    exact Or.inr (Or.inr (Or.inl ⟨rfl, hne, hbad, hover⟩))

lemma merge_ok_iff (kind : RasterKind) (inputs : List (List UInt8)) (out : List UInt8) :
    (∃ n, (merge kind inputs out).1 = .ok n) ↔ Mergeable kind inputs := by
  refine ⟨fun ⟨n, hn⟩ => ?_, fun h => ⟨_, by rw [merge_of_mergeable h]⟩⟩
  rcases merge_cases kind inputs with rfl | hbad | ⟨rfl, hne, hh, hover⟩ | hm
  · simp [merge] at hn
  · obtain ⟨e, he, -⟩ := merge_of_bad_header hbad out
    simp [he] at hn
  · simp [merge_of_overflow hne hh hover] at hn
  · exact hm

/-- A document by itself is reproduced. -/
lemma document_singleton (h : HasHeader kind bytes) : document kind [bytes] = bytes := by
  have hcount : totalCount [bytes] = pageCount bytes := by
    unfold totalCount
    by_cases hzero : pageCount bytes = 0
    · simp [hzero]
    · simp [Ne.symm hzero]
  conv_rhs => rw [h.eq]
  simp [document, hcount]

/-! ### Merging in stages -/

variable {pre rest : List (List UInt8)}

lemma pageCount_document (hfit : totalCount pre < 2 ^ 32) :
    pageCount (document .urf pre) = totalCount pre := by
  have hcount : ((document .urf pre).take 12).drop 8 = BigEndian.toBytes 4 (totalCount pre) := by
    have htake : (document .urf pre).take 12 = RasterKind.urf.magic ++
        BigEndian.toBytes 4 (totalCount pre) := List.take_left' (length_header .urf _)
    rw [htake]
    exact List.drop_left' rfl
  unfold pageCount
  rw [hcount, BigEndian.ofBytes_toBytes (by simpa using hfit)]

lemma hasHeader_document (kind : RasterKind) (pre : List (List UInt8)) :
    HasHeader kind (document kind pre) := by
  constructor
  · rw [document, List.length_append, length_header]
    omega
  · rw [document, List.append_assoc]
    exact List.prefix_append _ _

lemma body_document (kind : RasterKind) (pre : List (List UInt8)) :
    body kind (document kind pre) = (pre.map (body kind)).flatten :=
  List.drop_left' (length_header kind _)

/-- A total that is not zero comes from documents that all counted. -/
lemma totalCount_eq_zero_iff (hne : pre ≠ []) :
    totalCount pre = 0 ↔ 0 ∈ pre.map pageCount := by
  unfold totalCount
  by_cases hzero : 0 ∈ pre.map pageCount
  · simp [hzero]
  · obtain ⟨bytes, tail, rfl⟩ := List.exists_cons_of_ne_nil hne
    have hpos : pageCount bytes ≠ 0 := fun h => hzero (by simp [h])
    refine iff_of_false ?_ hzero
    rw [if_neg hzero, List.map_cons, List.sum_cons]
    omega

/-- The merge of a prefix counts as the prefix does. -/
lemma totalCount_staged (hne : pre ≠ []) (hfit : totalCount pre < 2 ^ 32) :
    totalCount (document .urf pre :: rest) = totalCount (pre ++ rest) := by
  have hhead := pageCount_document hfit
  by_cases hpre : 0 ∈ pre.map pageCount
  · -- the prefix was not counted, and so is the whole
    have hzero : totalCount pre = 0 := (totalCount_eq_zero_iff hne).mpr hpre
    rw [hzero] at hhead
    have hleft : 0 ∈ (document .urf pre :: rest).map pageCount := by simp [hhead]
    have hright : 0 ∈ (pre ++ rest).map pageCount := by
      rw [List.map_append]
      exact List.mem_append_left _ hpre
    unfold totalCount
    rw [if_pos hleft, if_pos hright]
  · have hsum : totalCount pre = (pre.map pageCount).sum := if_neg hpre
    have hpos : totalCount pre ≠ 0 := fun h => hpre ((totalCount_eq_zero_iff hne).mp h)
    have hmem : 0 ∈ (document .urf pre :: rest).map pageCount ↔
        0 ∈ (pre ++ rest).map pageCount := by
      simp only [List.map_cons, List.mem_cons, hhead, List.map_append, List.mem_append, hpre,
        false_or, or_iff_right_iff_imp]
      intro h
      exact absurd h.symm hpos
    unfold totalCount
    by_cases hrest : 0 ∈ (pre ++ rest).map pageCount
    · rw [if_pos hrest, if_pos (hmem.mpr hrest)]
    · rw [if_neg hrest, if_neg (mt hmem.mp hrest), List.map_cons, List.sum_cons, hhead, hsum,
        List.map_append, List.sum_append]

lemma document_staged (h : Mergeable kind pre) :
    document kind (document kind pre :: rest) = document kind (pre ++ rest) := by
  have hcount : kind.countBytes (totalCount (document kind pre :: rest)) =
      kind.countBytes (totalCount (pre ++ rest)) := by
    cases kind with
    | pwg => rfl
    | urf => rw [totalCount_staged h.nonempty (h.counts rfl)]
  rw [document, hcount, List.map_cons, body_document, List.flatten_cons, document, List.map_append,
    List.flatten_append]

lemma mergeable_staged_iff (h : Mergeable kind pre) :
    Mergeable kind (document kind pre :: rest) ↔ Mergeable kind (pre ++ rest) := by
  have hfit : CountsFit kind (document kind pre :: rest) ↔ CountsFit kind (pre ++ rest) := by
    unfold CountsFit
    refine forall_congr' ?_
    rintro rfl
    rw [totalCount_staged h.nonempty (h.counts rfl)]
  constructor
  · rintro ⟨-, hh, hc⟩
    refine ⟨by simp [h.nonempty], ?_, hfit.mp hc⟩
    intro bytes hb
    rcases List.mem_append.mp hb with hb | hb
    · exact h.headers bytes hb
    · exact hh bytes (by simp [hb])
  · rintro ⟨-, hh, hc⟩
    refine ⟨by simp, ?_, hfit.mpr hc⟩
    intro bytes hb
    rcases List.mem_cons.mp hb with rfl | hb
    · exact hasHeader_document kind pre
    · exact hh bytes (by simp [hb])

/-- Two merges come to the same: the same document or the same refusal, up to the number of the
document that is refused. -/
structure SameMerge (a b : Except MergeError ℕ × List UInt8) : Prop where
  written : a.2 = b.2
  length : a.1.toOption = b.1.toOption
  overflow : a.1 = .error .countOverflow ↔ b.1 = .error .countOverflow

lemma merge_staged (h : Mergeable kind pre) (out : List UInt8) :
    SameMerge (merge kind (document kind pre :: rest) out) (merge kind (pre ++ rest) out) := by
  have hne : pre ++ rest ≠ [] := by simp [h.nonempty]
  rcases merge_cases kind (pre ++ rest) with hnil | hbad | ⟨rfl, -, hh, hover⟩ | hm
  · exact absurd hnil hne
  · -- the document without its header is one of the rest
    have hbad' : ∃ bytes ∈ document kind pre :: rest, ¬HasHeader kind bytes := by
      obtain ⟨bytes, hb, hbytes⟩ := hbad
      rcases List.mem_append.mp hb with hb | hb
      · exact absurd (h.headers bytes hb) hbytes
      · exact ⟨bytes, by simp [hb], hbytes⟩
    obtain ⟨e, he, hne⟩ := merge_of_bad_header hbad out
    obtain ⟨e', he', hne'⟩ := merge_of_bad_header hbad' out
    rw [he, he']
    exact ⟨rfl, rfl, by simp [hne, hne']⟩
  · have hh' : ∀ bytes ∈ document .urf pre :: rest, HasHeader .urf bytes := by
      intro bytes hb
      rcases List.mem_cons.mp hb with rfl | hb
      · exact hasHeader_document .urf pre
      · exact hh bytes (by simp [hb])
    rw [← totalCount_staged h.nonempty (h.counts rfl)] at hover
    rw [merge_of_overflow (by simp) hh' hover, merge_of_overflow hne hh (by
      rwa [← totalCount_staged h.nonempty (h.counts rfl)])]
    exact ⟨rfl, rfl, Iff.rfl⟩
  · rw [merge_of_mergeable hm, merge_of_mergeable ((mergeable_staged_iff h).mpr hm),
      document_staged h]
    exact ⟨rfl, rfl, Iff.rfl⟩

lemma merged_eq_some_iff {doc : List UInt8} :
    merged kind pre = some doc ↔ Mergeable kind pre ∧ doc = document kind pre := by
  unfold merged
  by_cases hm : Mergeable kind pre
  · simp [merge_of_mergeable hm, hm, eq_comm]
  · have hno : ∀ n, (merge kind pre []).1 ≠ .ok n := fun n hn =>
      hm ((merge_ok_iff kind pre []).mp ⟨n, hn⟩)
    rcases hmerge : merge kind pre [] with ⟨r, out⟩
    cases r with
    | ok n => exact absurd (by rw [hmerge]) (hno n)
    | error e => simp [hm]

lemma merge_overflow_iff : (merge kind inputs out).1 = .error .countOverflow ↔
    kind = .urf ∧ inputs ≠ [] ∧ (∀ bytes ∈ inputs, HasHeader .urf bytes) ∧
      ¬totalCount inputs < 2 ^ 32 := by
  constructor
  · intro h
    rcases merge_cases kind inputs with rfl | hbad | hover | hm
    · simp [merge] at h
    · obtain ⟨e, he, hne⟩ := merge_of_bad_header hbad out
      rw [he] at h
      exact absurd (by simpa using h) hne
    · exact hover
    · simp [merge_of_mergeable hm] at h
  · rintro ⟨rfl, hne, hh, hover⟩
    rw [merge_of_overflow hne hh hover]

/-- Counts that overflow overflow with more documents too, unless one of these did not count. -/
lemma merge_overflow_append (h : (merge kind pre []).1 = .error .countOverflow)
    (hrest : ∀ bytes ∈ rest, HasHeader kind bytes) :
    (merge kind (pre ++ rest) out).1 = .error .countOverflow ↔ 0 ∉ rest.map pageCount := by
  obtain ⟨rfl, hne, hh, hover⟩ := merge_overflow_iff.mp h
  have hcounted : 0 ∉ pre.map pageCount := by
    intro hzero
    rw [(totalCount_eq_zero_iff hne).mpr hzero] at hover
    exact hover (by norm_num)
  have hsum : totalCount pre = (pre.map pageCount).sum := if_neg hcounted
  have hall : ∀ bytes ∈ pre ++ rest, HasHeader .urf bytes := by
    intro bytes hb
    rcases List.mem_append.mp hb with hb | hb
    · exact hh bytes hb
    · exact hrest bytes hb
  rw [merge_overflow_iff]
  by_cases hzero : 0 ∈ rest.map pageCount
  · have htotal : totalCount (pre ++ rest) = 0 :=
      if_pos (by rw [List.map_append]; exact List.mem_append_right _ hzero)
    simp only [hzero, not_true_eq_false, iff_false, htotal]
    rintro ⟨-, -, -, hbig⟩
    exact hbig (by norm_num)
  · have htotal : totalCount (pre ++ rest) =
        (pre.map pageCount).sum + (rest.map pageCount).sum := by
      unfold totalCount
      rw [if_neg (by simp only [List.map_append, List.mem_append]; tauto), List.map_append,
        List.sum_append]
    exact iff_of_true ⟨rfl, by simp [hne], hall, by omega⟩ hzero

end Merge

/-! ### The results together -/

/-- What merging means: the documents are concatenated behind one header, all at once or in
stages, and what is not mergeable is refused. -/
structure Concatenates (kind : RasterKind) (inputs : List (List UInt8)) : Prop where
  succeeds : ∀ out, (∃ n, (merge kind inputs out).1 = .ok n) ↔ Mergeable kind inputs
  output : Mergeable kind inputs → ∀ out,
    merge kind inputs out = (.ok (document kind inputs).length, out ++ document kind inputs)
  single : ∀ bytes, inputs = [bytes] → HasHeader kind bytes → merged kind inputs = some bytes
  untouched : (∃ bytes ∈ inputs, ¬HasHeader kind bytes) → ∀ out,
    ∃ e, merge kind inputs out = (.error e, out)
  /-- A prefix that was merged before. -/
  staged : ∀ pre rest doc, inputs = pre ++ rest → merged kind pre = some doc → ∀ out,
    SameMerge (merge kind (doc :: rest) out) (merge kind inputs out)
  /-- A prefix whose own counts overflow: only a document that did not count helps. -/
  overflow : ∀ pre rest, inputs = pre ++ rest →
    (merge kind pre []).1 = .error .countOverflow → (∀ bytes ∈ rest, HasHeader kind bytes) →
    ∀ out, (merge kind inputs out).1 = .error .countOverflow ↔ 0 ∉ rest.map pageCount

/-- For each kind and all inputs: the merge succeeds exactly when there is an input, each begins
with its header, and the page counts fit; it then is one header and what stands behind the
headers of the inputs.  Merging the merge of a prefix with the rest gives the same. -/
theorem merge_concatenates (kind : RasterKind) (inputs : List (List UInt8)) :
    Concatenates kind inputs where
  succeeds := merge_ok_iff kind inputs
  output := merge_of_mergeable
  single := by
    rintro bytes rfl h
    have hm : Mergeable kind [bytes] := by
      refine ⟨by simp, by simpa using h, fun _ => ?_⟩
      have := pageCount_lt bytes
      unfold totalCount
      split
      · norm_num
      · simpa using this
    exact merged_eq_some_iff.mpr ⟨hm, (document_singleton h).symm⟩
  untouched h out := by
    obtain ⟨e, he, -⟩ := merge_of_bad_header h out
    exact ⟨e, he⟩
  staged := by
    rintro pre rest doc rfl hdoc out
    obtain ⟨hm, rfl⟩ := merged_eq_some_iff.mp hdoc
    exact merge_staged hm out
  overflow := by
    rintro pre rest rfl h hrest out
    exact merge_overflow_append h hrest

/-- A URF document of a few pages with a declared count. -/
def urfDocument (count : ℕ) (pages : List UInt8) : List UInt8 :=
  RasterKind.urf.magic ++ BigEndian.toBytes 4 count ++ pages

/-- The counts of the first two documents overflow, so these two are not merged; with a third
document that did not count its pages they are. -/
theorem merge_prefix_refused :
    ¬∀ (kind : RasterKind) (pre rest : List (List UInt8)), pre ≠ [] →
      ((merged kind pre).bind fun doc => merged kind (doc :: rest)) =
        merged kind (pre ++ rest) := by
  intro h
  have := h .urf [urfDocument (2 ^ 32 - 1) [1], urfDocument 1 [2]] [urfDocument 0 [3]] (by simp)
  exact absurd this (by decide)

end Print

end DevBridge

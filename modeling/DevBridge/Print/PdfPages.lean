import DevBridge.Lib.Decimal
import DevBridge.Lib.Scan
import DevBridge.Print.RasterMerge
import DevBridge.Text

/-!
# Page runs

Printers feed paper portrait, so a landscape page is rendered onto a portrait medium of its own
size swapped.  Ghostscript lists the pages of a document; consecutive pages that share a medium
become one run, and every run is rendered by a call of its own, unless there is one run only.
-/

namespace DevBridge

namespace PdfPages

open Scan Print

/-! ### Pages and runs -/

/-- Two landscape pages share a medium only when their sizes differ by less (points). -/
def SAME_SIZE_TOLERANCE_PT : ℚ := 1 / 2

/-- One page as Ghostscript reports it. -/
structure PageGeometry where
  number : ℕ
  mediaWidth : ℚ
  mediaHeight : ℚ
  /-- Normalised to 0, 90, 180 or 270. -/
  rotate : ℕ
deriving DecidableEq, Repr

namespace PageGeometry

/-- Width and height of the page as it is rendered. -/
def renderedSize (p : PageGeometry) : ℚ × ℚ :=
  if p.rotate % 180 = 90 then (p.mediaHeight, p.mediaWidth) else (p.mediaWidth, p.mediaHeight)

/-- A square page counts as portrait. -/
def isLandscape (p : PageGeometry) : Bool :=
  let (width, height) := p.renderedSize
  height < width

end PageGeometry

/-- The paper a run draws on. -/
inductive RunMedia where
  /-- Each page at its own size. -/
  | asIs
  /-- Landscape pages on a portrait medium of this size. -/
  | portrait (width height : ℚ)
deriving DecidableEq, Repr

/-- The difference of two sizes is below the tolerance, computed in doubles. -/
def close (a b : ℚ) : Bool := (F64.sub a b).any fun d => |d| < SAME_SIZE_TOLERANCE_PT

namespace RunMedia

def forPage (p : PageGeometry) : RunMedia :=
  if p.isLandscape then
    let (width, height) := p.renderedSize
    portrait height width
  else asIs

def sharesRunWith : RunMedia → RunMedia → Bool
  | asIs, asIs => true
  | portrait width height, portrait otherWidth otherHeight =>
    close width otherWidth && close height otherHeight
  | _, _ => false

end RunMedia

/-- Consecutive pages rendered by one call. -/
structure RenderRun where
  firstPage : ℕ
  lastPage : ℕ
  media : RunMedia
deriving DecidableEq, Repr

/-- Portrait and landscape page counts. -/
structure OrientationSummary where
  portrait : ℕ
  landscape : ℕ
deriving DecidableEq, Repr

/-! ### Reading the pages -/

/-- Why the list of pages is not read; with the line, where there is one. -/
inductive PdfInfoError where
  | pageCount (line : List Char)
  | pageNumber (line : List Char)
  | unterminatedMediaBox (line : List Char)
  | mediaBoxValue (line : List Char)
  | mediaBoxLength (line : List Char) (values : ℕ)
  | noArea (line : List Char)
  | rotateValue (line : List Char)
  | notRightAngle (line : List Char) (degrees : ℤ)
  | unexpectedPage (number expected : ℕ)
  | noPage
  | countDiffers (declared listed : ℕ)
  /-- The number of the next page is no `u32`. -/
  | overflow
deriving DecidableEq, Repr

/-- `Rotate = R` behind the MediaBox; zero if there is none. -/
def parseRotate (line tail : List Char) : Except PdfInfoError ℕ :=
  match splitOnce "Rotate =".toList tail with
  | none => .ok 0
  | some (_, value) =>
    match parseI64 ((splitWhitespace value).headD []) with
    | none => .error (.rotateValue line)
    | some degrees =>
      if degrees % 90 ≠ 0 then .error (.notRightAngle line degrees)
      else .ok (degrees % 360).toNat

/-- The absolute difference of two values, if it is finite. -/
def extent (a b : Option ℚ) : Option ℚ := do
  let d ← F64.sub (← a) (← b)
  return |d|

/-- The four values of a MediaBox as width and height. -/
def parseMediaBox (line mediaBox : List Char) : Except PdfInfoError (ℚ × ℚ) :=
  match (splitWhitespace mediaBox).mapM fun v => F64.parse (String.ofList v) with
  | none => .error (.mediaBoxValue line)
  | some [x₀, y₀, x₁, y₁] =>
    match extent x₁ x₀, extent y₁ y₀ with
    | some width, some height =>
      if 0 < width ∧ 0 < height then .ok (width, height) else .error (.noArea line)
    | _, _ => .error (.noArea line)
  | some values => .error (.mediaBoxLength line values.length)

/-- A page from what stands before and behind ` MediaBox: [`. -/
def parsePageLine (line number after : List Char) : Except PdfInfoError PageGeometry :=
  match parseU32 (trim (String.ofList number)).toList with
  | none => .error (.pageNumber line)
  | some number =>
    match splitOnce [']'] after with
    | none => .error (.unterminatedMediaBox line)
    | some (mediaBox, tail) => do
      let (width, height) ← parseMediaBox line mediaBox
      let rotate ← parseRotate line tail
      return ⟨number, width, height, rotate⟩

/-- The pages so far, and the count that was declared last. -/
abbrev Listing := List PageGeometry × Option ℕ

/-- One line of the output. -/
def parseLine (listing : Listing) (line : List Char) : Except PdfInfoError Listing :=
  let (pages, declared) := listing
  match consume "File has ".toList line with
  | some rest =>
    match parseU32 ((splitWhitespace rest).headD []) with
    | some count => .ok (pages, some count)
    | none => .error (.pageCount line)
  | none =>
    match (consume "Page ".toList line).bind (splitOnce " MediaBox: [".toList) with
    | none => .ok listing
    | some (number, after) => do
      let page ← parsePageLine line number after
      let expected := pages.length + 1
      if 2 ^ 32 ≤ expected then .error .overflow
      else if page.number ≠ expected then .error (.unexpectedPage page.number expected)
      else .ok (pages ++ [page], declared)

/-- The lines of the output, trimmed. -/
def infoLines (output : String) : List (List Char) :=
  (textLines output.toList).map fun line => (trim (String.ofList line)).toList

/-- `parse_pdfinfo`. -/
def parsePdfinfo (output : String) : Except PdfInfoError (List PageGeometry) := do
  let (pages, declared) ← (infoLines output).foldlM parseLine ([], none)
  if pages.isEmpty then .error .noPage
  else
    match declared with
    | some count =>
      if count ≠ pages.length then .error (.countDiffers count pages.length) else .ok pages
    | none => .ok pages

/-! ### Planning the runs -/

/-- One page of the loop of `plan_runs`. -/
def planStep (runs : List RenderRun) (page : PageGeometry) : List RenderRun :=
  let media := RunMedia.forPage page
  let new : RenderRun := ⟨page.number, page.number, media⟩
  match runs.getLast? with
  | some run =>
    if run.media.sharesRunWith media then
      runs.dropLast ++ [{ run with lastPage := page.number }]
    else runs ++ [new]
  | none => [new]

def planRuns (pages : List PageGeometry) : List RenderRun := pages.foldl planStep []

/-- Portrait and landscape page counts. -/
def summarize (pages : List PageGeometry) : OrientationSummary :=
  let landscape := (pages.filter PageGeometry.isLandscape).length
  ⟨pages.length - landscape, landscape⟩

/-- An argument of Ghostscript. -/
inductive GsArg where
  | firstPage (n : ℕ)
  | lastPage (n : ℕ)
  | deviceWidthPoints (width : ℚ)
  | deviceHeightPoints (height : ℚ)
  | fixedMedia
  | pdfFitPage
deriving DecidableEq, Repr

/-- The argument as it is passed; how a double prints is given. -/
def GsArg.text (showDouble : ℚ → String) : GsArg → String
  | firstPage n => s!"-dFirstPage={n}"
  | lastPage n => s!"-dLastPage={n}"
  | deviceWidthPoints width => s!"-dDEVICEWIDTHPOINTS={showDouble width}"
  | deviceHeightPoints height => s!"-dDEVICEHEIGHTPOINTS={showDouble height}"
  | fixedMedia => "-dFIXEDMEDIA"
  | pdfFitPage => "-dPDFFitPage"

/-- The extra arguments of a run; a single run needs no page range. -/
def runArgs (run : RenderRun) (singleRun : Bool) : List GsArg :=
  (if singleRun then [] else [.firstPage run.firstPage, .lastPage run.lastPage]) ++
    match run.media with
    | .portrait width height =>
      [.deviceWidthPoints width, .deviceHeightPoints height, .fixedMedia, .pdfFitPage]
    | .asIs => []

/-- The last line that is not empty, of the first text that has one. -/
def lastMessage (stderr stdout : String) : List Char :=
  ([stderr, stdout].findSome? fun s =>
    (infoLines s).reverse.find? fun line => !line.isEmpty).getD "unknown error".toList

/-- Why the orientation is not known. -/
inductive UnknownReason where
  | exit (code : ℤ) (message : List Char)
  | unreadable (e : PdfInfoError)
deriving DecidableEq, Repr

/-- Page orientation of one render. -/
inductive Orientation where
  | notApplicable
  | unknown (reason : UnknownReason)
  | planned (kind : RasterKind) (runs : List RenderRun) (summary : OrientationSummary)
deriving DecidableEq, Repr

/-- The render calls of one document. -/
inductive GsCalls where
  | single (args : List GsArg)
  /-- One call a run, merged into one document. -/
  | runs (kind : RasterKind) (runs : List RenderRun)
deriving DecidableEq, Repr

namespace Orientation

/-- The plan of the pages of a document. -/
def ofPages (kind : RasterKind) (pages : List PageGeometry) : Orientation :=
  planned kind (planRuns pages) (summarize pages)

/-- From the finished call that lists the pages. -/
def fromPdfinfo (kind : RasterKind) (success : Bool) (exitCode : Option ℤ)
    (stdout stderr : String) : Orientation :=
  if success then
    match parsePdfinfo (stdout ++ "\n" ++ stderr) with
    | .ok pages => ofPages kind pages
    | .error e => unknown (.unreadable e)
  else unknown (.exit (exitCode.getD (-1)) (lastMessage stderr stdout))

/-- The calls that the document needs. -/
def calls : Orientation → GsCalls
  | planned kind runs _ =>
    if 1 < runs.length then .runs kind runs
    else .single ((runs.head?.map fun run => runArgs run true).getD [])
  | _ => .single []

/-- Pages of the document. -/
def pageCount (o : Orientation) (pageLines pageFiles : ℕ) : ℕ :=
  match o with
  | planned _ _ summary => summary.portrait + summary.landscape
  | _ => if 0 < pageLines then pageLines else pageFiles

end Orientation

/-! ### Rendering -/

/-- A finished call of Ghostscript: the page lines it printed and its output file. -/
abbrev Ghostscript (ε : Type) := List GsArg → Except ε (ℕ × List UInt8)

/-- Why a document is not rendered. -/
inductive RenderError (ε : Type) where
  | ghostscript (e : ε)
  /-- Merging the runs failed. -/
  | merging (runs : ℕ)

section Render

variable {ε : Type} (gs : Ghostscript ε)

/-- Render one run into a file behind the files so far. -/
def renderRun (rendered : ℕ × List (List UInt8)) (run : RenderRun) :
    Except (RenderError ε) (ℕ × List (List UInt8)) :=
  match gs (runArgs run false) with
  | .ok (lines, file) => .ok (rendered.1 + lines, rendered.2 ++ [file])
  | .error e => .error (.ghostscript e)

/-- Render each run into its own file, then merge the files into one document. -/
def renderRuns (kind : RasterKind) (runs : List RenderRun) :
    Except (RenderError ε) (ℕ × List UInt8) := do
  let (lines, files) ← runs.foldlM (renderRun gs) (0, [])
  match merged kind files with
  | some out => .ok (lines, out)
  | none => .error (.merging runs.length)

/-- Render the document by its calls. -/
def GsCalls.render : GsCalls → Except (RenderError ε) (ℕ × List UInt8)
  | runs kind rs => renderRuns gs kind rs
  | single args => (gs args).mapError .ghostscript

end Render

/-! ### What the pages and runs are for -/

/-- The page count that a line declares. -/
def declaredCount (line : List Char) : Option ℕ :=
  (consume "File has ".toList line).bind fun rest => parseU32 ((splitWhitespace rest).headD [])

/-- The page counts that the output declares. -/
def declaredCounts (output : String) : List ℕ := (infoLines output).filterMap declaredCount

/-- The pages are numbered from one on, as many as the output declares last. -/
structure Numbered (output : String) (pages : List PageGeometry) : Prop where
  nonempty : pages ≠ []
  numbers : pages.map PageGeometry.number = List.range' 1 pages.length
  declared : ∀ count, (declaredCounts output).getLast? = some count → count = pages.length

/-- The pages of a run. -/
def RenderRun.pages (run : RenderRun) : List ℕ :=
  List.range' run.firstPage (run.lastPage + 1 - run.firstPage)

/-- A portrait page is rendered as it is, a landscape page on a medium of its size swapped, up
to the tolerance. -/
def RunMedia.Fits (media : RunMedia) (p : PageGeometry) : Prop :=
  if p.isLandscape then
    ∃ width height, media = .portrait width height ∧
      |width - p.renderedSize.2| < SAME_SIZE_TOLERANCE_PT ∧
        |height - p.renderedSize.1| < SAME_SIZE_TOLERANCE_PT
  else media = .asIs

/-- The runs of some pages. -/
structure Plan (pages : List PageGeometry) (runs : List RenderRun) : Prop where
  /-- Each page once, in order. -/
  cover : runs.flatMap RenderRun.pages = pages.map PageGeometry.number
  ordered : ∀ run ∈ runs, run.firstPage ≤ run.lastPage
  first : runs.head?.map RenderRun.firstPage = pages.head?.map PageGeometry.number
  last : runs.getLast?.map RenderRun.lastPage = pages.getLast?.map PageGeometry.number
  consecutive : runs.IsChain fun run next => next.firstPage = run.lastPage + 1
  /-- Every page is in a run whose medium fits it. -/
  media : ∀ p ∈ pages, ∃ run ∈ runs, p.number ∈ run.pages ∧ run.media.Fits p
  /-- A run has the medium of its first page. -/
  head : ∀ run ∈ runs, ∃ p ∈ pages, p.number = run.firstPage ∧ run.media = RunMedia.forPage p
  /-- The first page of a run could not have been in the run before. -/
  separate : runs.IsChain fun run next => !run.media.sharesRunWith next.media

/-- The pages of an `n`-page document that a call renders. -/
def renderedPages (n : ℕ) (args : List GsArg) : List ℕ :=
  (List.range' 1 n).filter fun p => args.all fun
    | .firstPage first => first ≤ p
    | .lastPage last => p ≤ last
    | _ => true

/-- The arguments of the calls, in their order. -/
def GsCalls.argLists : GsCalls → List (List GsArg)
  | single args => [args]
  | runs _ rs => rs.map fun run => runArgs run false

/-- The medium that the arguments of a call set. -/
def mediaOf (args : List GsArg) : RunMedia :=
  let width? := args.findSome? fun
    | .deviceWidthPoints width => some width
    | _ => none
  let height? := args.findSome? fun
    | .deviceHeightPoints height => some height
    | _ => none
  match width?, height? with
  | some width, some height => .portrait width height
  | _, _ => .asIs

/-- The pages that the calls render, each with the arguments of its call. -/
def GsCalls.rendered (n : ℕ) (calls : GsCalls) : List (List GsArg × ℕ) :=
  calls.argLists.flatMap fun args => (renderedPages n args).map fun p => (args, p)

/-- The calls render each page once, in order, on a medium that fits it. -/
structure RendersOnce (pages : List PageGeometry) (calls : GsCalls) : Prop where
  order : (calls.rendered pages.length).map Prod.snd = pages.map PageGeometry.number
  media : ∀ args number, (args, number) ∈ calls.rendered pages.length →
    ∀ p ∈ pages, p.number = number → (mediaOf args).Fits p

/-- Ghostscript writes the rasters of the pages in its range behind the header of the kind. -/
def RendersRange (n : ℕ) (kind : RasterKind) (gs : Ghostscript ε)
    (raster : List GsArg → ℕ → List UInt8) : Prop :=
  ∀ args lines file, gs args = .ok (lines, file) →
    body kind file = (renderedPages n args).flatMap (raster args)

/-- The rendered document holds the rasters of the pages that the calls render, in order. -/
def MergesInOrder (n : ℕ) (kind : RasterKind) (calls : GsCalls) : Prop :=
  ∀ (ε : Type) (gs : Ghostscript ε) (raster : List GsArg → ℕ → List UInt8),
    RendersRange n kind gs raster → ∀ lines out, calls.render gs = .ok (lines, out) →
      body kind out = (calls.rendered n).flatMap fun (args, p) => raster args p

/-- The files of the calls make one document; the file of a single call is the document. -/
def GsCalls.Merges (files : List (List UInt8)) : GsCalls → Prop
  | single _ => True
  | runs kind _ => Mergeable kind files

/-- When every call succeeds and the files can be merged, the document is rendered, and holds
the rasters of the pages in order. -/
def RendersDocument (n : ℕ) (kind : RasterKind) (calls : GsCalls) : Prop :=
  ∀ (ε : Type) (gs : Ghostscript ε) (raster : List GsArg → ℕ → List UInt8),
    RendersRange n kind gs raster → ∀ outputs : List (ℕ × List UInt8),
      calls.argLists.map gs = outputs.map Except.ok → calls.Merges (outputs.map Prod.snd) →
        ∃ out, calls.render gs = .ok ((outputs.map Prod.fst).sum, out) ∧
          body kind out = (calls.rendered n).flatMap fun (args, p) => raster args p

/-! ### Reading -/

/-- One line lists a page with the next number, declares a count, or is passed over. -/
lemma parseLine_cases {listing listing' : Listing} {line : List Char}
    (h : parseLine listing line = .ok listing') :
    (∃ count, declaredCount line = some count ∧ listing' = (listing.1, some count)) ∨
    (declaredCount line = none ∧
      (listing' = listing ∨ ∃ page : PageGeometry, page.number = listing.1.length + 1 ∧
        listing' = (listing.1 ++ [page], listing.2))) := by
  obtain ⟨pages, declared⟩ := listing
  unfold parseLine at h
  unfold declaredCount
  rcases hfile : consume "File has ".toList line with _ | rest
  · refine .inr ⟨rfl, ?_⟩
    simp only [hfile] at h
    split at h
    · exact .inl (Except.ok.inj h).symm
    · rename_i number after _
      rcases hpage : parsePageLine line number after with e | page
      · rw [hpage] at h
        cases h
      · rw [hpage] at h
        change (if 2 ^ 32 ≤ pages.length + 1 then _ else _) = _ at h
        split_ifs at h with hover hnumber
        exact .inr ⟨page, not_not.mp hnumber, (Except.ok.inj h).symm⟩
  · simp only [hfile] at h
    split at h
    · rename_i count hcount
      exact .inl ⟨count, hcount, (Except.ok.inj h).symm⟩
    · cases h

/-- Lines read in a row: the numbers go on, and the last count stands. -/
lemma parseLines_listed (lines : List (List Char)) {listing listing' : Listing}
    (h : lines.foldlM parseLine listing = .ok listing')
    (hlisted : listing.1.map PageGeometry.number = List.range' 1 listing.1.length) :
    listing'.1.map PageGeometry.number = List.range' 1 listing'.1.length ∧
      listing'.2 = ((lines.filterMap declaredCount).getLast?).or listing.2 := by
  induction lines generalizing listing with
  | nil =>
    obtain rfl : listing = listing' := Except.ok.inj h
    exact ⟨hlisted, rfl⟩
  | cons line lines ih =>
    rw [List.foldlM_cons] at h
    rcases hline : parseLine listing line with e | next
    · rw [hline] at h
      cases h
    rw [hline] at h
    change lines.foldlM parseLine next = _ at h
    rcases parseLine_cases hline with ⟨count, hcount, rfl⟩ | ⟨hcount, rfl | ⟨page, hpage, rfl⟩⟩
    · obtain ⟨hnumbers, hdeclared⟩ := ih h hlisted
      refine ⟨hnumbers, ?_⟩
      rw [List.filterMap_cons_some hcount, List.getLast?_cons, hdeclared]
      cases (lines.filterMap declaredCount).getLast? <;> rfl
    · obtain ⟨hnumbers, hdeclared⟩ := ih h hlisted
      exact ⟨hnumbers, by rw [List.filterMap_cons_none hcount, hdeclared]⟩
    · have hnext : (listing.1 ++ [page]).map PageGeometry.number =
          List.range' 1 (listing.1 ++ [page]).length := by
        rw [List.map_append, hlisted, List.length_append, List.length_singleton,
          ← List.range'_append_1, List.map_singleton, hpage, Nat.add_comm]
        rfl
      obtain ⟨hnumbers, hdeclared⟩ := ih h hnext
      exact ⟨hnumbers, by rw [List.filterMap_cons_none hcount, hdeclared]⟩

lemma parsePdfinfo_numbered {output : String} {pages : List PageGeometry}
    (h : parsePdfinfo output = .ok pages) : Numbered output pages := by
  unfold parsePdfinfo at h
  rcases hlines : (infoLines output).foldlM parseLine ([], none) with e | ⟨listed, declared⟩
  · rw [hlines] at h
    cases h
  rw [hlines] at h
  obtain ⟨hnumbers, hdeclared⟩ := parseLines_listed _ hlines rfl
  rw [Option.or_none] at hdeclared
  change (if listed.isEmpty then _ else _) = _ at h
  split_ifs at h with hempty
  rcases declared with _ | count
  · obtain rfl : listed = pages := Except.ok.inj h
    refine ⟨by simpa using hempty, hnumbers, fun count hcount => ?_⟩
    rw [declaredCounts, ← hdeclared] at hcount
    cases hcount
  · change (if count ≠ listed.length then _ else _) = _ at h
    split_ifs at h with hcount
    obtain rfl : listed = pages := Except.ok.inj h
    refine ⟨by simpa using hempty, hnumbers, fun count' hcount' => ?_⟩
    rw [declaredCounts, ← hdeclared] at hcount'
    exact (Option.some.inj hcount') ▸ not_not.mp hcount

/-! ### Planning -/

lemma close_spec {a b : ℚ} (h : close a b = true) : |a - b| < SAME_SIZE_TOLERANCE_PT := by
  unfold close at h
  rcases hsub : F64.sub a b with _ | d
  · rw [hsub] at h
    cases h
  · rw [hsub, Option.any_some, decide_eq_true_eq] at h
    exact F64.abs_sub_lt_half hsub h

lemma fits_forPage (p : PageGeometry) : (RunMedia.forPage p).Fits p := by
  unfold RunMedia.Fits RunMedia.forPage
  have hself : ∀ a : ℚ, |a - a| < SAME_SIZE_TOLERANCE_PT := fun a => by
    rw [sub_self, abs_zero]
    norm_num [SAME_SIZE_TOLERANCE_PT]
  split
  · exact ⟨p.renderedSize.2, p.renderedSize.1, rfl, hself _, hself _⟩
  · rfl

/-- A medium that is shared with that of a page fits the page. -/
lemma fits_of_shares {media : RunMedia} {p : PageGeometry}
    (h : media.sharesRunWith (RunMedia.forPage p) = true) : media.Fits p := by
  unfold RunMedia.Fits
  unfold RunMedia.forPage at h
  by_cases hland : p.isLandscape = true
  · rw [if_pos hland] at h ⊢
    rcases media with _ | ⟨width, height⟩
    · cases h
    · simp only [RunMedia.sharesRunWith, Bool.and_eq_true] at h
      exact ⟨width, height, rfl, close_spec h.1, close_spec h.2⟩
  · rw [if_neg hland] at h ⊢
    rcases media with _ | ⟨width, height⟩
    · rfl
    · cases h

section Step

variable {pages : List PageGeometry} {runs init : List RenderRun} {run : RenderRun}
  {page : PageGeometry}

/-- The last run of a plan ends with the last page. -/
lemma Plan.lastPage_eq (h : Plan pages (init ++ [run]))
    (hnumbers : pages.map PageGeometry.number = List.range' 1 pages.length) :
    run.lastPage = pages.length := by
  have hlast := h.last
  rw [List.getLast?_concat, ← List.getLast?_map, hnumbers, List.getLast?_range'] at hlast
  split at hlast
  · cases hlast
  · simpa using hlast

/-- A run that goes on covers one page more. -/
lemma pages_extend (hle : run.firstPage ≤ run.lastPage) :
    RenderRun.pages { run with lastPage := run.lastPage + 1 } =
      run.pages ++ [run.lastPage + 1] := by
  unfold RenderRun.pages
  rw [show run.lastPage + 1 + 1 - run.firstPage = run.lastPage + 1 - run.firstPage + 1 by omega,
    List.range'_1_concat]
  have hend : run.firstPage + (run.lastPage + 1 - run.firstPage) = run.lastPage + 1 := by omega
  rw [hend]

/-- The page goes into the last run. -/
lemma Plan.extend (h : Plan pages (init ++ [run])) (hlast : run.lastPage = pages.length)
    (hpage : page.number = pages.length + 1)
    (hshares : run.media.sharesRunWith (RunMedia.forPage page) = true) :
    Plan (pages ++ [page]) (init ++ [{ run with lastPage := page.number }]) := by
  have hle := h.ordered run (by simp)
  have hrun : ({ run with lastPage := page.number } : RenderRun) =
      { run with lastPage := run.lastPage + 1 } := by rw [hpage, hlast]
  have hpages := pages_extend hle
  have hne : pages ≠ [] := by
    rintro rfl
    have := h.last
    simp at this
  rw [hrun]
  constructor
  · have hcover := h.cover
    rw [List.flatMap_append, List.flatMap_singleton] at hcover ⊢
    rw [hpages, ← List.append_assoc, hcover, List.map_append, List.map_singleton, hlast, hpage]
  · intro r hr
    rcases List.mem_append.mp hr with hr | hr
    · exact h.ordered r (List.mem_append_left _ hr)
    · obtain rfl := List.mem_singleton.mp hr
      exact Nat.le_succ_of_le hle
  · rw [List.head?_append_of_ne_nil _ hne, ← h.first]
    cases init <;> rfl
  · rw [List.getLast?_concat, List.getLast?_concat, Option.map_some, Option.map_some, hpage, hlast]
  · obtain ⟨hinit, -, hjoin⟩ := List.isChain_append.mp h.consecutive
    exact List.isChain_append.mpr ⟨hinit, .singleton _, fun x hx y hy => by
      obtain rfl := Option.mem_some_iff.mp hy
      exact hjoin x hx run rfl⟩
  · intro p hp
    rcases List.mem_append.mp hp with hp | hp
    · obtain ⟨r, hr, hmem, hfits⟩ := h.media p hp
      rcases List.mem_append.mp hr with hr | hr
      · exact ⟨r, List.mem_append_left _ hr, hmem, hfits⟩
      · obtain rfl := List.mem_singleton.mp hr
        exact ⟨_, List.mem_append_right _ (List.mem_singleton_self _),
          hpages ▸ List.mem_append_left _ hmem, hfits⟩
    · obtain rfl := List.mem_singleton.mp hp
      refine ⟨_, List.mem_append_right _ (List.mem_singleton_self _), ?_, fits_of_shares hshares⟩
      rw [hpages, hpage, hlast]
      exact List.mem_append_right _ (List.mem_singleton_self _)
  · intro r hr
    have hhead : ∀ r ∈ init ++ [run], ∃ p ∈ pages ++ [page], p.number = r.firstPage ∧
        r.media = RunMedia.forPage p := fun r hr =>
      let ⟨p, hp, hnumber, hmedia⟩ := h.head r hr
      ⟨p, List.mem_append_left _ hp, hnumber, hmedia⟩
    rcases List.mem_append.mp hr with hr | hr
    · exact hhead r (List.mem_append_left _ hr)
    · obtain rfl := List.mem_singleton.mp hr
      exact hhead run (List.mem_append_right _ (List.mem_singleton_self _))
  · obtain ⟨hinit, -, hjoin⟩ := List.isChain_append.mp h.separate
    exact List.isChain_append.mpr ⟨hinit, .singleton _, fun x hx y hy => by
      obtain rfl := Option.mem_some_iff.mp hy
      exact hjoin x hx run rfl⟩

/-- The page begins a run. -/
lemma Plan.begin (h : Plan pages runs)
    (hlast : ∀ run, runs.getLast? = some run → run.lastPage = pages.length ∧
      run.media.sharesRunWith (RunMedia.forPage page) = false)
    (hpage : page.number = pages.length + 1) :
    Plan (pages ++ [page]) (runs ++ [⟨page.number, page.number, RunMedia.forPage page⟩]) := by
  have hnew : RenderRun.pages ⟨page.number, page.number, RunMedia.forPage page⟩ =
      [page.number] := by
    simp [RenderRun.pages]
  have hempty : runs = [] ↔ pages = [] := by
    have hheads := h.first
    cases runs <;> cases pages <;> simp_all
  constructor
  · rw [List.flatMap_append, List.flatMap_singleton, hnew, h.cover, List.map_append,
      List.map_singleton]
  · intro r hr
    rcases List.mem_append.mp hr with hr | hr
    · exact h.ordered r hr
    · obtain rfl := List.mem_singleton.mp hr
      exact le_rfl
  · rcases List.eq_nil_or_concat' runs with rfl | ⟨init, run, rfl⟩
    · rw [hempty.mp rfl]
      rfl
    · have hne : pages ≠ [] := fun hnil => by simpa using hempty.mpr hnil
      rw [List.head?_append_of_ne_nil _ (by simp), List.head?_append_of_ne_nil _ hne, h.first]
  · rw [List.getLast?_concat, List.getLast?_concat]
    rfl
  · refine List.isChain_append.mpr ⟨h.consecutive, .singleton _, fun x hx y hy => ?_⟩
    obtain rfl := Option.mem_some_iff.mp hy
    rw [(hlast x hx).1]
    exact hpage
  · intro p hp
    rcases List.mem_append.mp hp with hp | hp
    · obtain ⟨r, hr, hmem, hfits⟩ := h.media p hp
      exact ⟨r, List.mem_append_left _ hr, hmem, hfits⟩
    · obtain rfl := List.mem_singleton.mp hp
      exact ⟨_, List.mem_append_right _ (List.mem_singleton_self _),
        hnew ▸ List.mem_singleton_self _, fits_forPage p⟩
  · intro r hr
    rcases List.mem_append.mp hr with hr | hr
    · obtain ⟨p, hp, hnumber, hmedia⟩ := h.head r hr
      exact ⟨p, List.mem_append_left _ hp, hnumber, hmedia⟩
    · obtain rfl := List.mem_singleton.mp hr
      exact ⟨page, List.mem_append_right _ (List.mem_singleton_self _), rfl, rfl⟩
  · refine List.isChain_append.mpr ⟨h.separate, .singleton _, fun x hx y hy => ?_⟩
    obtain rfl := Option.mem_some_iff.mp hy
    rw [(hlast x hx).2]
    rfl

/-- The plan of some pages, with one more page behind them. -/
lemma Plan.step (h : Plan pages runs)
    (hnumbers : pages.map PageGeometry.number = List.range' 1 pages.length)
    (hpage : page.number = pages.length + 1) : Plan (pages ++ [page]) (planStep runs page) := by
  rcases List.eq_nil_or_concat' runs with rfl | ⟨init, run, rfl⟩
  · exact h.begin (fun run hrun => by cases hrun) hpage
  · have hlast := h.lastPage_eq hnumbers
    unfold planStep
    simp only [List.getLast?_concat, List.dropLast_concat]
    split
    · rename_i hshares
      exact h.extend hlast hpage hshares
    · rename_i hshares
      refine h.begin (fun r hr => ?_) hpage
      rw [List.getLast?_concat] at hr
      obtain rfl := Option.some.inj hr
      exact ⟨hlast, by simpa using hshares⟩

end Step

/-- The runs of numbered pages. -/
lemma planRuns_plan {pages : List PageGeometry}
    (h : pages.map PageGeometry.number = List.range' 1 pages.length) :
    Plan pages (planRuns pages) := by
  unfold planRuns
  induction pages using List.reverseRecOn with
  | nil => exact ⟨rfl, by simp, rfl, rfl, .nil, by simp, by simp, .nil⟩
  | append_singleton pages page ih =>
    rw [List.map_append, List.length_append, List.length_singleton, List.map_singleton,
      List.range'_1_concat] at h
    obtain ⟨hnumbers, hlast⟩ := List.append_inj' h rfl
    rw [List.foldl_append]
    refine (ih hnumbers).step hnumbers ?_
    rw [List.cons.inj hlast |>.1, Nat.add_comm]

lemma Plan.fits {pages : List PageGeometry} {runs : List RenderRun} {run : RenderRun}
    {p : PageGeometry} (h : Plan pages runs)
    (hnumbers : pages.map PageGeometry.number = List.range' 1 pages.length)
    (hrun : run ∈ runs) (hp : p ∈ pages) (hmem : p.number ∈ run.pages) : run.media.Fits p := by
  obtain ⟨r, hr, hmem', hfits⟩ := h.media p hp
  have hnodup : (runs.flatMap RenderRun.pages).Nodup := by
    rw [h.cover, hnumbers]
    exact List.nodup_range'
  -- no page is in two runs
  have hdisjoint := (List.nodup_flatMap.mp hnodup).2
  by_contra hne
  have hruns : run ≠ r := by
    rintro rfl
    exact hne hfits
  have : Std.Symm (Function.onFun List.Disjoint RenderRun.pages) :=
    ⟨fun _ _ hd => List.Disjoint.symm hd⟩
  exact hdisjoint.forall hrun hr hruns hmem hmem'

/-! ### Rendering the pages -/

lemma mediaOf_runArgs (run : RenderRun) (singleRun : Bool) :
    mediaOf (runArgs run singleRun) = run.media := by
  rcases run with ⟨first, last, _ | ⟨width, height⟩⟩ <;> cases singleRun <;> rfl

lemma renderedPages_all (n : ℕ) (run : RenderRun) :
    renderedPages n (runArgs run true) = List.range' 1 n := by
  refine List.filter_eq_self.mpr fun p _ => ?_
  rcases run with ⟨first, last, _ | ⟨width, height⟩⟩ <;> rfl

lemma filter_range {n first last : ℕ} (hfirst : 1 ≤ first) (hle : first ≤ last)
    (hlast : last ≤ n) :
    (List.range' 1 n).filter (fun p => decide (first ≤ p) && decide (p ≤ last)) =
      List.range' first (last + 1 - first) := by
  obtain ⟨i, rfl⟩ := Nat.exists_eq_add_of_le hfirst
  obtain ⟨j, rfl⟩ := Nat.exists_eq_add_of_le hle
  obtain ⟨k, rfl⟩ := Nat.exists_eq_add_of_le hlast
  have hbefore : (List.range' 1 i).filter
      (fun p => decide (1 + i ≤ p) && decide (p ≤ 1 + i + j)) = [] :=
    List.filter_eq_nil_iff.mpr fun p hp => by
      simp only [List.mem_range'_1] at hp
      simp
      omega
  have hin : (List.range' (1 + i) (j + 1)).filter
      (fun p => decide (1 + i ≤ p) && decide (p ≤ 1 + i + j)) = List.range' (1 + i) (j + 1) :=
    List.filter_eq_self.mpr fun p hp => by
      simp only [List.mem_range'_1] at hp
      simp
      omega
  have hbehind : (List.range' (1 + i + (j + 1)) k).filter
      (fun p => decide (1 + i ≤ p) && decide (p ≤ 1 + i + j)) = [] :=
    List.filter_eq_nil_iff.mpr fun p hp => by
      simp only [List.mem_range'_1] at hp
      simp
      omega
  rw [show 1 + i + j + k = i + (j + 1 + k) by omega, ← List.range'_append_1,
    ← List.range'_append_1, List.filter_append, List.filter_append, hbefore, hin, hbehind,
    List.nil_append, List.append_nil]
  congr 1
  omega

lemma renderedPages_run {n : ℕ} {run : RenderRun} (hfirst : 1 ≤ run.firstPage)
    (hle : run.firstPage ≤ run.lastPage) (hlast : run.lastPage ≤ n) :
    renderedPages n (runArgs run false) = run.pages := by
  unfold RenderRun.pages
  rw [← filter_range hfirst hle hlast]
  refine List.filter_congr fun p _ => ?_
  rcases run with ⟨first, last, _ | ⟨width, height⟩⟩ <;> simp [runArgs]

section Rendered

variable {pages : List PageGeometry} {runs : List RenderRun}

/-- In a plan, the pages in the range of a run are the pages of the run. -/
lemma Plan.pages_of_range (h : Plan pages runs)
    (hnumbers : pages.map PageGeometry.number = List.range' 1 pages.length) {run : RenderRun}
    (hrun : run ∈ runs) : renderedPages pages.length (runArgs run false) = run.pages := by
  have hle := h.ordered run hrun
  have hwithin : ∀ p ∈ run.pages, 1 ≤ p ∧ p < 1 + pages.length := fun p hp =>
    List.mem_range'_1.mp (hnumbers ▸ h.cover ▸ List.mem_flatMap.mpr ⟨run, hrun, hp⟩)
  have hfirst := hwithin run.firstPage (List.mem_range'_1.mpr (by omega))
  have hlast := hwithin run.lastPage (List.mem_range'_1.mpr (by omega))
  exact renderedPages_run hfirst.1 hle (by omega)

/-- One call a run renders every page once. -/
lemma Plan.rendersOnce_runs (h : Plan pages runs)
    (hnumbers : pages.map PageGeometry.number = List.range' 1 pages.length) (kind : RasterKind) :
    RendersOnce pages (.runs kind runs) := by
  constructor
  · change ((runs.map fun run => runArgs run false).flatMap fun args =>
      (renderedPages pages.length args).map fun p => (args, p)).map Prod.snd = _
    rw [← h.cover, List.flatMap_map, List.map_flatMap]
    refine List.flatMap_congr fun run hrun => ?_
    rw [List.map_map, h.pages_of_range hnumbers hrun]
    exact List.map_id _
  · intro args number hmem p hp heq
    obtain ⟨args', hargs, hpages⟩ := List.mem_flatMap.mp hmem
    obtain ⟨q, hq, hpair⟩ := List.mem_map.mp hpages
    obtain ⟨rfl, rfl⟩ := Prod.mk.inj hpair
    obtain ⟨run, hrun, rfl⟩ := List.mem_map.mp hargs
    rw [h.pages_of_range hnumbers hrun] at hq
    rw [mediaOf_runArgs]
    exact h.fits hnumbers hrun hp (heq ▸ hq)

/-- One call without a range renders every page of the only run. -/
lemma Plan.rendersOnce_single {run : RenderRun} (h : Plan pages [run])
    (hnumbers : pages.map PageGeometry.number = List.range' 1 pages.length) :
    RendersOnce pages (.single (runArgs run true)) := by
  have hrendered : (GsCalls.single (runArgs run true)).rendered pages.length =
      (List.range' 1 pages.length).map fun p => (runArgs run true, p) := by
    change [runArgs run true].flatMap _ = _
    rw [List.flatMap_singleton, renderedPages_all]
  constructor
  · rw [hrendered, List.map_map, hnumbers]
    exact List.map_id _
  · intro args number hmem p hp heq
    rw [hrendered] at hmem
    obtain ⟨q, -, hpair⟩ := List.mem_map.mp hmem
    obtain ⟨rfl, rfl⟩ := Prod.mk.inj hpair
    have hpage : p.number ∈ [run].flatMap RenderRun.pages := h.cover ▸ List.mem_map_of_mem hp
    rw [List.flatMap_singleton] at hpage
    rw [mediaOf_runArgs]
    exact h.fits hnumbers (List.mem_singleton_self _) hp hpage

lemma Plan.runs_ne_nil (h : Plan pages runs) (hne : pages ≠ []) : runs ≠ [] := by
  rintro rfl
  have hfirst := h.first
  rw [List.head?_eq_some_head hne] at hfirst
  cases hfirst

/-- Every page is rendered once, whether in one call or in a call a run. -/
lemma Plan.rendersOnce (h : Plan pages runs)
    (hnumbers : pages.map PageGeometry.number = List.range' 1 pages.length) (hne : pages ≠ [])
    (kind : RasterKind) (summary : OrientationSummary) :
    RendersOnce pages (Orientation.planned kind runs summary).calls := by
  change RendersOnce pages (if 1 < runs.length then _ else _)
  split
  · exact h.rendersOnce_runs hnumbers kind
  · rename_i hfew
    obtain ⟨run, rfl⟩ := List.length_eq_one_iff.mp
      (le_antisymm (Nat.le_of_not_lt hfew) (List.length_pos_iff.mpr (h.runs_ne_nil hne)))
    exact h.rendersOnce_single hnumbers

lemma pageCount_planned (kind : RasterKind) (runs : List RenderRun) (pageLines pageFiles : ℕ) :
    (Orientation.planned kind runs (summarize pages)).pageCount pageLines pageFiles =
      pages.length := by
  have hle : (pages.filter PageGeometry.isLandscape).length ≤ pages.length :=
    List.length_filter_le _ _
  change pages.length - (pages.filter PageGeometry.isLandscape).length +
    (pages.filter PageGeometry.isLandscape).length = pages.length
  omega

end Rendered

/-! ### Merging the runs -/

section Merging

variable {ε : Type} {gs : Ghostscript ε} {kind : RasterKind} {n : ℕ}
  {raster : List GsArg → ℕ → List UInt8}

/-- Each run of a row leaves its pages behind those of the runs before. -/
lemma renderRuns_files (hgs : RendersRange n kind gs raster) (runs : List RenderRun)
    {rendered rendered' : ℕ × List (List UInt8)}
    (h : runs.foldlM (renderRun gs) rendered = .ok rendered') :
    (rendered'.2.map (body kind)).flatten = (rendered.2.map (body kind)).flatten ++
      runs.flatMap fun run =>
        (renderedPages n (runArgs run false)).flatMap (raster (runArgs run false)) := by
  induction runs generalizing rendered with
  | nil =>
    obtain rfl : rendered = rendered' := Except.ok.inj h
    simp
  | cons run runs ih =>
    rw [List.foldlM_cons] at h
    rcases hrun : gs (runArgs run false) with e | ⟨lines, file⟩
    · simp only [renderRun, hrun] at h
      cases h
    · simp only [renderRun, hrun] at h
      change runs.foldlM (renderRun gs) (rendered.1 + lines, rendered.2 ++ [file]) = _ at h
      rw [ih h, List.map_append, List.flatten_append, List.map_singleton, List.flatten_singleton,
        hgs _ _ _ hrun, List.flatMap_cons, List.append_assoc]

lemma body_of_merged {files : List (List UInt8)} {out : List UInt8}
    (h : merged kind files = some out) : body kind out = (files.map (body kind)).flatten := by
  unfold merged at h
  rcases hmerge : merge kind files [] with ⟨_ | written, out'⟩
  · simp [hmerge] at h
  · have hm : Mergeable kind files := (merge_ok_iff kind files []).mp ⟨written, by rw [hmerge]⟩
    rw [merge_of_mergeable hm] at h
    obtain rfl : document kind files = out := Option.some.inj h
    exact body_document kind files

lemma merges_runs (n : ℕ) (kind : RasterKind) (runs : List RenderRun) :
    MergesInOrder n kind (.runs kind runs) := by
  intro ε gs raster hgs lines out hout
  change (runs.foldlM (renderRun gs) (0, []) >>= fun (lines, files) => _) = _ at hout
  rcases hfiles : runs.foldlM (renderRun gs) (0, []) with e | ⟨lines', files⟩
  · rw [hfiles] at hout
    cases hout
  rw [hfiles] at hout
  change (match merged kind files with
    | some out => Except.ok (lines', out)
    | none => Except.error (RenderError.merging runs.length)) = _ at hout
  split at hout
  · rename_i out' hmerged
    obtain ⟨-, rfl⟩ := Prod.mk.inj (Except.ok.inj hout)
    have hbodies := renderRuns_files hgs runs hfiles
    rw [body_of_merged hmerged, hbodies]
    simp [GsCalls.rendered, GsCalls.argLists, List.flatMap_map, List.flatMap_assoc]
  · cases hout

lemma merges_single (n : ℕ) (kind : RasterKind) (args : List GsArg) :
    MergesInOrder n kind (.single args) := by
  intro ε gs raster hgs lines out hout
  change (gs args).mapError _ = _ at hout
  rcases hfile : gs args with e | ⟨lines', file⟩
  · rw [hfile] at hout
    cases hout
  · rw [hfile] at hout
    obtain ⟨-, rfl⟩ := Prod.mk.inj (Except.ok.inj hout)
    rw [hgs _ _ _ hfile]
    simp [GsCalls.rendered, GsCalls.argLists, List.flatMap_map]

/-- When Ghostscript succeeds for every run, each leaves its lines and its file behind those of
the runs before. -/
lemma renderRuns_succeed (runs : List RenderRun) {outputs : List (ℕ × List UInt8)}
    (rendered : ℕ × List (List UInt8))
    (h : runs.map (fun run => gs (runArgs run false)) = outputs.map Except.ok) :
    runs.foldlM (renderRun gs) rendered =
      .ok (rendered.1 + (outputs.map Prod.fst).sum, rendered.2 ++ outputs.map Prod.snd) := by
  induction runs generalizing rendered outputs with
  | nil =>
    obtain rfl : outputs = [] := List.map_eq_nil_iff.mp h.symm
    simp [pure, Except.pure]
  | cons run runs ih =>
    rcases outputs with _ | ⟨⟨lines, file⟩, outputs⟩
    · cases h
    obtain ⟨hrun, hruns⟩ := List.cons.inj h
    have hstep : renderRun gs rendered run =
        .ok (rendered.1 + lines, rendered.2 ++ [file]) := by
      simp only [renderRun, hrun]
    rw [List.foldlM_cons, hstep]
    change runs.foldlM (renderRun gs) (rendered.1 + lines, rendered.2 ++ [file]) = _
    rw [ih _ hruns]
    simp [add_assoc]

lemma renders_runs (n : ℕ) (kind : RasterKind) (runs : List RenderRun) :
    RendersDocument n kind (.runs kind runs) := by
  intro ε gs raster hgs outputs hall hmerge
  have hcalls : runs.map (fun run => gs (runArgs run false)) = outputs.map Except.ok := by
    rw [← hall]
    exact (List.map_map (f := fun run => runArgs run false) (g := gs)).symm
  -- the merge of the files succeeds, since each is a document of the kind
  have hmerged : merged kind (outputs.map Prod.snd) =
      some (document kind (outputs.map Prod.snd)) := by
    unfold merged
    rw [merge_of_mergeable hmerge]
    rfl
  have hrender : (GsCalls.runs kind runs).render gs =
      .ok ((outputs.map Prod.fst).sum, document kind (outputs.map Prod.snd)) := by
    change (runs.foldlM (renderRun gs) (0, []) >>= fun (lines, files) => _) = _
    rw [renderRuns_succeed runs _ hcalls]
    change (match merged kind ([] ++ outputs.map Prod.snd) with
      | some out => Except.ok (0 + (outputs.map Prod.fst).sum, out)
      | none => Except.error (RenderError.merging runs.length)) = _
    rw [List.nil_append, hmerged, Nat.zero_add]
  exact ⟨_, hrender, merges_runs n kind runs ε gs raster hgs _ _ hrender⟩

lemma renders_single (n : ℕ) (kind : RasterKind) (args : List GsArg) :
    RendersDocument n kind (.single args) := by
  intro ε gs raster hgs outputs hall _
  rcases outputs with _ | ⟨⟨lines, file⟩, _ | ⟨output, outputs⟩⟩
  · cases hall
  · have hcall : gs args = .ok (lines, file) := (List.cons.inj hall).1
    have hrender : (GsCalls.single args).render gs = .ok (lines, file) := by
      change (gs args).mapError _ = _
      rw [hcall]
      rfl
    refine ⟨file, by rw [hrender]; simp, ?_⟩
    exact merges_single n kind args ε gs raster hgs _ _ hrender
  · cases (List.cons.inj hall).2

end Merging

/-! ### The document -/

/-- A portrait page, then a landscape page. -/
def twoPages : String :=
  "File has 2 pages.\nPage 1 MediaBox: [0 0 595 842]\nPage 2 MediaBox: [0 0 842 595]"

/-- Ghostscript as it renders the two pages: the raster of a page is its number. -/
def twoRasters : Ghostscript Empty := fun args =>
  .ok ((renderedPages 2 args).length,
    RasterKind.pwg.magic ++ (renderedPages 2 args).flatMap fun p => [UInt8.ofNat p])

end PdfPages

end DevBridge

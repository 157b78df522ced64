import DevBridge.Portos.Grammar

/-!
# What is wrong with a fiscal payload

The checker finds what the grammar reports: for each of its functions, field by field and rule
by rule, and so for the payloads of every operation.
-/

namespace DevBridge

namespace Fiscal

open Grammar

variable (reads : FiscalReads) (now : ℤ)

/-! ### Fields -/

lemma report_keys (allowed : List String) (path : String) (fs : Checker.Fields) :
    (keys allowed).report path (some (Json.obj fs)) = onlyKeys fs path allowed := rfl

lemma report_field (name : String) (g : Grammar Json) (path : String) (fs : Checker.Fields) :
    (field name g).report path (some (Json.obj fs)) =
      g.report (dotted path name) (fs.lookup name) := rfl

lemma report_string (obj : Checker.Fields) (path key : String) (rule : Checker.Text) :
    (rules (text rule)).report (dotted path key) (obj.lookup key) =
      Checker.string obj path key rule := by
  have hgiven : ∀ v, absent (some v) = false →
      (rules (text rule)).report (dotted path key) (some v) =
        (rules ([aString, filled, most rule.max] ++
          if rule.printable then [noControl] else [])).report (dotted path key) (some v) := by
    intro v hv
    cases hr : rule.required
    · rw [text, hr, if_neg Bool.false_ne_true, ifGiven, report_unspared _ hv]
    · rw [text, hr, if_pos rfl, report_rules_cons, if_pos (by simp [required, hv])]
  have habsent : ∀ v, absent v = true → (rules (text rule)).report (dotted path key) v =
      if rule.required then [Checker.fail (dotted path key) "is required"] else [] := by
    intro v hv
    cases hr : rule.required
    · rw [text, hr, if_neg Bool.false_ne_true, ifGiven, report_spared _ hv]
      rfl
    · rw [text, hr, if_pos rfl, report_rules_cons, if_neg (by simp [required, hv])]
      rfl
  rw [Checker.string]
  rcases obj.lookup key with _ | v
  · exact habsent none rfl
  · cases v with
    | null => exact habsent _ rfl
    | str s =>
      rw [hgiven _ rfl, List.cons_append, report_rules_cons,
        if_pos (show aString.holds (some (.str s)) = true from rfl)]
      cases hp : rule.printable <;> by_cases hblank : isBlank s = true <;>
        by_cases hmax : rule.max < s.length <;>
        by_cases hcontrol : s.toList.any isControl = true <;>
        simp [report_rules_cons, report_rules_nil, filled, most, noControl, ruleOn, Json.asStr,
          hblank, hmax, hcontrol, Checker.fail]
    | _ =>
      exact (hgiven _ rfl).trans ((report_rules_cons _ _ _ _).trans (if_neg Bool.false_ne_true))

lemma report_number (obj : Checker.Fields) (path key : String) (rule : Checker.Num) :
    (rules (num reads rule)).report (dotted path key) (obj.lookup key) =
      Checker.number reads obj path key rule := by
  -- once the field is there, being needed makes no difference
  have hthere : ∀ v, (rules (num reads rule)).report (dotted path key) (some v) =
      (rules (let rules := [aNumber, decimals reads rule.places, between rule]
        if rule.nullable then rules.map ifGiven else rules)).report (dotted path key) (some v) := by
    intro v
    cases hr : rule.required
    · rw [num, hr, if_neg Bool.false_ne_true, ifPresent, report_unspared _ rfl]
    · rw [num, hr, if_pos rfl, report_rules_cons, if_pos (by rfl)]
  rw [Checker.number]
  rcases obj.lookup key with _ | v
  · cases hr : rule.required
    · rw [num, hr, if_neg Bool.false_ne_true, ifPresent, report_spared _ rfl]
      rfl
    · rw [num, hr, if_pos rfl, report_rules_cons, if_neg (by decide)]
      rfl
  rw [hthere]
  cases hn : rule.nullable
  · cases v with
    | num n =>
      cases hd : reads.hasAtMostDecimals n.asF64 rule.places <;>
        cases ho : rule.outside n.asF64 <;>
        simp [report_rules_cons, report_rules_nil, aNumber, decimals, between, ruleOn, double, hd,
          ho, Checker.fail]
    | _ => rfl
  · cases v with
    | null => exact report_spared _ rfl
    | num n =>
      cases hd : reads.hasAtMostDecimals n.asF64 rule.places <;>
        cases ho : rule.outside n.asF64 <;>
        simp [report_rules_cons, report_rules_nil, aNumber, decimals, between, ruleOn, double, hd,
          ho, Checker.fail, ifGiven, Rule.sparing, absent]
    | _ => rfl

lemma report_needed (obj : Checker.Fields) (path key : String) (allowed : List String) :
    (rules [required, oneOf allowed]).report (dotted path key) (obj.lookup key) =
      Checker.oneOf obj path key allowed true := by
  rw [Checker.oneOf]
  rcases obj.lookup key with _ | v
  · rfl
  cases v with
  | str s =>
    cases ha : allowed.any fun a => eqIgnoreAsciiCase a s <;>
      simp [report_rules_cons, report_rules_nil, required, oneOf, ruleOn, Json.asStr, ha, absent,
        Checker.fail]
  | _ => rfl

lemma report_optional (obj : Checker.Fields) (path key : String) (allowed : List String) :
    (rules [ifGiven (oneOf allowed)]).report (dotted path key) (obj.lookup key) =
      Checker.oneOf obj path key allowed false := by
  rw [Checker.oneOf]
  rcases obj.lookup key with _ | v
  · rfl
  cases v with
  | str s =>
    cases ha : allowed.any fun a => eqIgnoreAsciiCase a s <;>
      simp [report_rules_cons, report_rules_nil, oneOf, ruleOn, Json.asStr, ha, ifGiven,
        Rule.sparing, absent, Checker.fail]
  | _ => rfl

lemma report_registerCode (obj : Checker.Fields) (path key : String) :
    (rules registerCode).report (dotted path key) (obj.lookup key) =
      Checker.cashRegisterCode obj path key := by
  rw [Checker.cashRegisterCode]
  rcases obj.lookup key with _ | v
  · rfl
  cases v with
  | str s =>
    cases hc : cashRegisterCodeOk s <;>
      simp [registerCode, report_rules_cons, report_rules_nil, required, ruleOn, Json.asStr, hc,
        absent, Checker.fail]
  | _ => rfl

/-! ### Objects -/

lemma report_party (obj : Checker.Fields) (path key : String) (types : List String) :
    (party types).report (dotted path key) (obj.lookup key) =
      Checker.party obj path key types := by
  rw [Checker.party]
  rcases obj.lookup key with _ | v
  · rfl
  cases v with
  | obj fs =>
    have hobject : (rules [ifGiven anObject]).report (dotted path key) (some (.obj fs)) = [] := rfl
    simp only [party, report_all_cons, report_all_nil, hobject, report_keys, report_field,
      report_string, report_needed, Checker.object, List.nil_append, List.append_nil,
      List.append_assoc]
  | _ => rfl

/-- The path of a field, written in one piece. -/
lemma path_append (path field key : String) (h : field = "." ++ key) :
    toString path ++ toString field = dotted path key := by
  change path ++ field = path ++ "." ++ key
  rw [h, String.append_assoc]

lemma report_quantity (it : Checker.Fields) (ipath : String) :
    (quantity reads).report (dotted ipath "quantity") (it.lookup "quantity") =
      checkQuantity reads it ipath := by
  rw [checkQuantity, path_append ipath ".quantity" "quantity" rfl]
  rcases it.lookup "quantity" with _ | v
  · rfl
  cases v with
  | obj fs =>
    have hobject : ∀ path, (rules [required, anObject]).report path (some (.obj fs)) = [] :=
      fun _ => rfl
    simp only [quantity, report_all_cons, report_all_nil, hobject, report_keys, report_field,
      report_string, report_number, Checker.object, List.nil_append, List.append_nil,
      List.append_assoc]
  | _ => rfl

lemma report_item (item : Json) (ipath : String) :
    (Fiscal.item reads).report ipath (some item) = checkItem reads item ipath := by
  rw [checkItem]
  cases item with
  | obj fs =>
    have hobject : (rules [anObject]).report ipath (some (.obj fs)) = [] := rfl
    simp only [Fiscal.item, report_all_cons, report_all_nil, hobject, report_keys, report_field,
      report_string, report_number, report_needed, report_optional, report_party,
      report_quantity, Checker.object, List.nil_append, List.append_nil, List.append_assoc]
  | _ => rfl

lemma report_itemList (data : Checker.Fields) (path : String) :
    (itemList reads).report (dotted path "items") (data.lookup "items") =
      checkItems reads data path := by
  rw [checkItems, path_append path ".items" "items" rfl]
  rcases data.lookup "items" with _ | v
  · rfl
  cases v with
  | arr xs =>
    cases xs with
    | nil => rfl
    | cons x xs =>
      have hlist : ∀ path, (rules [required, aList, nonempty]).report path
          (some (.arr (x :: xs))) = [] := fun _ => rfl
      rw [itemList, report_all_cons, report_all_cons, report_all_nil, hlist]
      simp only [report, Option.bind_some, Parts.items, report_item, List.nil_append,
        List.append_nil]
      rfl
  | _ => rfl

lemma report_payment (payment : Json) (ppath : String) :
    (Fiscal.payment reads).report ppath (some payment) =
      Checker.object payment ppath fun p =>
        onlyKeys p ppath ["name", "amount"] ++
          Checker.string p ppath "name" (.needed MAX_NAME_CHARS) ++
          Checker.number reads p ppath "amount" (.needed 2) := by
  cases payment with
  | obj fs =>
    have hobject : (rules [anObject]).report ppath (some (.obj fs)) = [] := rfl
    simp only [Fiscal.payment, report_all_cons, report_all_nil, hobject, report_keys,
      report_field, report_string, report_number, Checker.object, List.nil_append,
      List.append_nil, List.append_assoc]
  | _ => rfl

lemma report_paymentList (data : Checker.Fields) (path : String) :
    (paymentList reads).report (dotted path "payments") (data.lookup "payments") =
      checkPayments reads data path := by
  rw [checkPayments, path_append path ".payments" "payments" rfl]
  rcases data.lookup "payments" with _ | v
  · rfl
  cases v with
  | arr xs =>
    have hlist : ∀ path, (rules [ifGiven aList]).report path (some (.arr xs)) = [] := fun _ => rfl
    rw [paymentList, report_all_cons, report_all_cons, report_all_nil, hlist]
    simp only [report, Option.bind_some, Parts.items, report_payment, List.nil_append,
      List.append_nil]
  | _ => rfl

/-! ### Payloads -/

lemma report_receiptType (data : Checker.Fields) (path : String) (kind : ReceiptKind) :
    (rules [receiptType kind]).report (dotted path "receiptType") (data.lookup "receiptType") =
      checkReceiptType data path kind := by
  rw [checkReceiptType, path_append path ".receiptType" "receiptType" rfl]
  rcases data.lookup "receiptType" with _ | v
  · rfl
  cases v with
  | str s =>
    cases hs : eqIgnoreAsciiCase s kind.receiptType <;>
      simp [receiptType, report_rules_cons, report_rules_nil, ruleOn, Json.asStr, hs, ifGiven,
        Rule.sparing, absent, Checker.fail]
  | _ => rfl

lemma report_issueDate (path : String) (v : Option Json) :
    (rules (issueDate reads now)).report (dotted path "issueDate") v =
      ((issueDateProblem reads now v).map (Checker.fail s!"{path}.issueDate")).toList := by
  rw [path_append path ".issueDate" "issueDate" rfl]
  rcases v with _ | v
  · rfl
  cases v with
  | str s =>
    rcases hs : reads.parseRfc3339 s with _ | written
    · simp [issueDate, issueDateProblem, report_rules_cons, required, ruleOn, Json.asStr, hs,
        absent, Checker.fail]
    · by_cases hnow : now < written <;>
        simp [issueDate, issueDateProblem, report_rules_cons, report_rules_nil, required, ruleOn,
          Json.asStr, hs, hnow, absent, Checker.fail]
  | _ => rfl

lemma report_paragonNumber (data : Checker.Fields) (path : String) :
    (rules paragonNumber).report (dotted path "paragonNumber") (data.lookup "paragonNumber") =
      checkParagonNumber data path := by
  rw [checkParagonNumber, path_append path ".paragonNumber" "paragonNumber" rfl]
  rcases data.lookup "paragonNumber" with _ | v
  · rfl
  cases v with
  | null => rfl
  | _ =>
    simp only [paragonNumber, report_rules_cons, report_rules_nil, required, ruleOn, absent,
      Bool.not_false, if_true, Option.bind_some]
    rfl

lemma report_data (obj : Checker.Fields) (kind : ReceiptKind) :
    (data reads now kind).report (dotted "payload" "data") (obj.lookup "data") =
      checkData reads now obj kind := by
  have hpath : dotted "payload" "data" = "payload.data" := rfl
  rw [hpath, checkData]
  rcases obj.lookup "data" with _ | v
  · cases kind <;> rfl
  cases v with
  | obj fs =>
    have hobject : (rules [present, anObject]).report "payload.data" (some (.obj fs)) = [] := rfl
    cases kind <;>
      simp only [data, dataHead, sale, checkDataFields, checkSale, checkParagon,
        report_all_append, report_all_cons, report_all_nil, hobject, report_keys, report_field,
        report_string, report_number, report_party, report_registerCode, report_receiptType,
        report_issueDate, report_paragonNumber, report_itemList, report_paymentList,
        Checker.object, List.nil_append, List.append_nil, List.append_assoc]
  | _ => cases kind <;> rfl

lemma report_options (p : Checker.Fields) :
    (all [rules [ifGiven anObject], free]).report (dotted "payload.print" "options")
      (p.lookup "options") = checkOptions p := by
  rw [checkOptions]
  rcases p.lookup "options" with _ | v
  · rfl
  · cases v <;> rfl

lemma report_print (obj : Checker.Fields) (kind : ReceiptKind) :
    (print kind).report (dotted "payload" "print") (obj.lookup "print") = checkPrint obj kind := by
  have hpath : dotted "payload" "print" = "payload.print" := rfl
  rw [hpath, checkPrint]
  by_cases hkind : kind = .paragon
  · subst hkind
    rcases obj.lookup "print" with _ | v
    · rfl
    · cases v <;> rfl
  rw [print, if_neg hkind]
  rcases obj.lookup "print" with _ | v
  · rfl
  cases v with
  | null => rfl
  | obj fs =>
    have hobject : (rules [ifGiven anObject]).report "payload.print" (some (.obj fs)) = [] := rfl
    simp only [if_neg hkind]
    rw [report_all_cons, hobject, report_all_cons, report_keys, report_all_cons, report_field,
      report_needed, report_all_cons, report_field, report_options, report_all_nil]
    simp only [Checker.object, List.nil_append, List.append_nil, List.append_assoc]
  | _ => simp only [if_neg hkind]; rfl

lemma report_receipt (v : Json) (kind : ReceiptKind) :
    (receipt reads now kind).report "payload" (some v) =
      Checker.object v "payload" fun obj => checkRegister reads now obj kind := by
  cases v with
  | obj fs =>
    have hobject : (rules [anObject]).report "payload" (some (.obj fs)) = [] := rfl
    simp only [receipt, checkRegister, report_all_cons, report_all_nil, hobject, report_keys,
      report_field, report_print, report_data, Checker.object, List.nil_append, List.append_nil,
      List.append_assoc]
  | _ => rfl

lemma report_whole (obj : Checker.Fields) (key : String) (low high : ℤ) :
    (rules [whole low high]).report (dotted "payload" key) (obj.lookup key) =
      checkWhole obj key low high := by
  have hdot : ("payload." : String) = "payload" ++ "." := rfl
  have hpath : (s!"payload.{key}" : String) = dotted "payload" key := by
    change "payload." ++ key = "payload" ++ "." ++ key
    rw [hdot]
  rw [checkWhole, hpath, report_rules_cons, report_rules_nil]
  rfl

lemma report_uuid (obj : Checker.Fields) :
    (rules [ruleOn Json.asStr "must be the Portos request id (a UUID)" uuidOk]).report "payload.id"
      (obj.lookup "id") = if ((obj.lookup "id").bind Json.asStr).any uuidOk then []
        else [Checker.fail "payload.id" "must be the Portos request id (a UUID)"] := by
  rw [report_rules_cons, report_rules_nil]
  rfl

lemma report_oneWay (fs : Checker.Fields) (rs : List (Grammar Json)) :
    (all (rules [ifObject oneWay] :: rs)).report "payload" (some (Json.obj fs)) =
      (if waysOf (fs.map Prod.fst) ≠ 1 then [Checker.fail "payload" ONE_WAY] else []) ++
        (all rs).report "payload" (some (Json.obj fs)) := by
  have hholds : (ifObject oneWay).holds (some (Json.obj fs)) =
      (waysOf (fs.map Prod.fst) == 1) := rfl
  rw [report_all_cons, report_rules_cons, report_rules_nil, hholds]
  by_cases hways : waysOf (fs.map Prod.fst) = 1
  · rw [if_pos (by simpa using hways), if_neg (by simpa using hways)]
  · rw [if_neg (by simpa using hways), if_pos hways]
    rfl

lemma report_copyWay (fs : Checker.Fields) (hways : waysOf (fs.map Prod.fst) = 1) :
    (all (copyWay (fs.map Prod.fst))).report "payload" (some (Json.obj fs)) =
      if (fs.map Prod.fst).contains "externalId" then
        Checker.string fs "payload" "externalId" (.needed MAX_EXTERNAL_ID_CHARS)
      else if (fs.map Prod.fst).contains "id" then
        if ((fs.lookup "id").bind Json.asStr).any uuidOk then []
        else [Checker.fail "payload.id" "must be the Portos request id (a UUID)"]
      else
        checkWhole fs "year" 2019 9999 ++ checkWhole fs "month" 1 12 ++
          checkWhole fs "receiptNumber" 1 4294967295 := by
  rw [copyWay, if_neg (not_not.mpr hways)]
  split
  · rw [report_all_cons, report_field, report_string, report_all_nil, List.append_nil]
  · split
    · rw [report_all_cons, report_field, report_all_nil, List.append_nil]
      exact report_uuid fs
    · rw [report_all_cons, report_field, report_whole, report_all_cons, report_field,
        report_whole, report_all_cons, report_field, report_whole, report_all_nil,
        List.append_nil, List.append_assoc]

lemma report_copy (v : Json) :
    (copy (keysOf (some v))).report "payload" (some v) =
      Checker.object v "payload" checkPrintCopy := by
  cases v with
  | obj fs =>
    have hobject : (rules [anObject]).report "payload" (some (.obj fs)) = [] := rfl
    have hkeys : keysOf (some (.obj fs)) = fs.map Prod.fst := rfl
    rw [copy, hkeys, List.cons_append, List.cons_append, List.cons_append, List.cons_append,
      List.nil_append, report_all_cons, hobject, report_all_cons, report_keys, report_all_cons,
      report_field, report_registerCode, report_oneWay, Checker.object, checkPrintCopy,
      List.nil_append, List.append_assoc]
    congr 2
    by_cases hways : waysOf (fs.map Prod.fst) = 1
    · rw [if_neg (not_not.mpr hways), report_copyWay fs hways, if_neg (not_not.mpr hways)]
      rfl
    · rw [if_pos hways, copyWay, if_pos hways, if_pos hways]
      rfl
  | _ => rfl

lemma report_drawer (v : Json) :
    drawer.report "payload" (some v) = Checker.object v "payload" fun obj =>
      onlyKeys obj "payload" ["pin"] ++ Checker.oneOf obj "payload" "pin" DRAWER_PINS false := by
  cases v with
  | obj fs =>
    have hobject : (rules [anObject]).report "payload" (some (.obj fs)) = [] := rfl
    simp only [drawer, report_all_cons, report_all_nil, hobject, report_keys, report_field,
      report_optional, Checker.object, List.nil_append, List.append_nil]
  | _ => rfl

/-! ### Printed texts -/

/-- The two rules of a printed row. -/
lemma report_row (path row : String) :
    (rules [lineWidth, linePlain]).report path (some (.str row)) =
      ((printLineProblem row).map (Checker.fail path)).toList := by
  rw [printLineProblem]
  by_cases hwide : PRINT_TEXT_WIDTH < row.length
  · rw [if_pos hwide, report_rules_cons, if_neg (by simp [lineWidth, ruleOn, Json.asStr, hwide])]
    rfl
  · rw [if_neg hwide, report_rules_cons,
      if_pos (by simpa [lineWidth, ruleOn, Json.asStr] using hwide), report_rules_cons,
      report_rules_nil]
    by_cases hplain : row.toList.any (fun c => isControl c || isFormatChar c) = true
    · rw [if_pos hplain, if_neg (by simp [linePlain, ruleOn, Json.asStr, hplain])]
      rfl
    · rw [if_neg hplain, if_pos (by simp [linePlain, ruleOn, Json.asStr, hplain])]
      rfl

lemma report_title (v : Json) :
    (rules [required, aString, filled, lineWidth, linePlain]).report "payload.title"
      (v.get "title") = titleProblems v := by
  rw [titleProblems]
  rcases v.get "title" with _ | title
  · rfl
  cases title with
  | str title =>
    rw [report_rules_cons, if_pos (by rfl), report_rules_cons, if_pos (by rfl)]
    by_cases hblank : isBlank title = true
    · rw [report_rules_cons, if_neg (by simp [filled, ruleOn, Json.asStr, hblank])]
      simp only [hblank, if_true]
      rfl
    · rw [report_rules_cons, if_pos (by simp [filled, ruleOn, Json.asStr, hblank]), report_row]
      simp only [hblank]
      cases printLineProblem title <;> rfl
  | _ => rfl

lemma report_line (line : Json) (i : ℕ) :
    (rules [aString, lineWidth, linePlain]).report (indexed "payload.lines" i) (some line) =
      lineProblems line i := by
  have hlast : ("] " : String) = "]" ++ " " := rfl
  have hfirst : ("payload.lines[" : String) = "payload.lines" ++ "[" := rfl
  have hpath : ∀ rule : String, Checker.fail (indexed "payload.lines" i) rule =
      s!"payload.lines[{i}] " ++ rule := by
    intro rule
    change "payload.lines" ++ "[" ++ toString i ++ "]" ++ " " ++ rule =
      "payload.lines[" ++ toString i ++ "] " ++ rule
    rw [hlast, hfirst]
    simp only [String.append_assoc]
  cases line with
  | str row =>
    rw [report_rules_cons, if_pos (by rfl), report_row, funext hpath]
    simp only [lineProblems, Json.asStr]
    cases printLineProblem row <;> rfl
  | _ =>
    rw [report_rules_cons, if_neg (by simp [aString, ruleOn, Json.asStr])]
    refine congrArg (fun text => [text]) ((hpath _).trans ?_)
    change "payload.lines[" ++ toString i ++ "] " ++ "must be a string" =
      "payload.lines[" ++ toString i ++ "] must be a string"
    rw [String.append_assoc]
    rfl

lemma report_lines (v : Json) :
    (all (rules lineList :: if tooMany v then [] else
      [items (rules [aString, lineWidth, linePlain])])).report "payload.lines" (v.get "lines") =
      linesProblems v := by
  rw [linesProblems, tooMany]
  rcases v.get "lines" with _ | lines
  · rfl
  cases lines with
  | arr xs =>
    have htest : ((some (Json.arr xs)).bind Json.asArray).any
        (fun xs => decide (PRINT_TEXT_MAX_LINES < xs.length)) =
          decide (PRINT_TEXT_MAX_LINES < xs.length) := rfl
    have hrequired : ∀ rs, (rules (required :: aList :: rs)).report "payload.lines"
        (some (.arr xs)) = (rules rs).report "payload.lines" (some (.arr xs)) := fun rs => by
      rw [report_rules_cons, if_pos (by rfl), report_rules_cons, if_pos (by rfl)]
    rw [htest, report_all_cons, lineList, hrequired]
    rcases xs with _ | ⟨x, xs⟩
    · rfl
    rw [report_rules_cons, if_pos (by rfl), report_rules_cons, report_rules_nil]
    by_cases hmany : PRINT_TEXT_MAX_LINES < (x :: xs).length
    · rw [if_neg (by simpa [ruleOn, Json.asArray] using hmany), if_pos (by simpa using hmany)]
      simp only [List.isEmpty_cons, hmany, if_true]
      rfl
    · rw [if_pos (by simpa [ruleOn, Json.asArray] using hmany), if_neg (by simpa using hmany)]
      simp only [List.isEmpty_cons, hmany, if_false, report_all_cons, report_all_nil, report,
        Option.bind_some, Parts.items, report_line, List.append_nil, List.nil_append]
      rfl
  | _ => rfl

lemma report_printText (v : Json) :
    (printText (tooMany v)).report "payload" (some v) =
      Checker.object v "payload" (checkPrintText v) := by
  cases v with
  | obj fs =>
    have hobject : (rules [anObject]).report "payload" (some (.obj fs)) = [] := rfl
    have htitle := report_title (.obj fs)
    have hlines := report_lines (.obj fs)
    have hcut : (rules [ruleOn Json.asBool "must be true or false" fun _ => true]).report
        "payload.cut" (fs.lookup "cut") = cutProblems (.obj fs) := by
      rw [report_rules_cons, report_rules_nil, cutProblems]
      change _ = if ((fs.lookup "cut").bind Json.asBool).isSome then [] else _
      rcases fs.lookup "cut" with _ | v
      · rfl
      · cases v <;> rfl
    rw [printText, report_all_cons, hobject, report_all_cons, report_keys, report_all_cons,
      report_all_cons, report_all_cons, report_all_nil, report_field, report_field, report_field]
    simp only [Checker.object, checkPrintText, List.nil_append, List.append_nil,
      List.append_assoc]
    rw [← htitle, ← hlines, ← hcut]
    rfl
  | _ => rfl

/-- What is reported of a payload by its grammar is what the checker finds. -/
theorem report_payload (op : FiscalOp) (v : Json) :
    (payload reads now op v).report "payload" (some v) =
      Checker.object v "payload" fun obj => checkFields reads now op v obj := by
  cases op with
  | register kind => exact report_receipt reads now v kind
  | printCopy => exact report_copy v
  | openDrawer => exact report_drawer v
  | printText => exact report_printText v

end Fiscal

end DevBridge

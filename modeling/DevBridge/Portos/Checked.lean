import DevBridge.Portos.Reported

/-!
# What an accepted fiscal payload carries

The requests to Portos are built from the payload by readers that take what they find.  What the
check lets through they carry unchanged, and nothing that the grammar does not name.
-/

namespace DevBridge

namespace Fiscal

open Grammar

/-! ### What the grammars cover -/

/-- A rule that only values without parts keep. -/
def Scalar (r : Rule Json) : Prop :=
  ∀ v, r.holds (some v) = true → Parts.fields v = none ∧ Parts.items v = none

lemma Scalar.covers {r : Rule Json} {rs : List (Rule Json)} (h : Scalar r) (hmem : r ∈ rs) :
    (rules rs).Covers :=
  covers_of_leaf fun v hfits => h v ((fits_rules rs _).mp hfits r hmem)

lemma Scalar.ifGiven {r : Rule Json} (h : Scalar r) : Scalar (ifGiven r) := by
  intro v hv
  cases v with
  | null => exact ⟨rfl, rfl⟩
  | _ => exact h _ hv

lemma Scalar.ifPresent {r : Rule Json} (h : Scalar r) : Scalar (ifPresent r) := fun v hv => h v hv

/-- Values of a kind that has no parts. -/
lemma scalar_ruleOn {α : Type} {kind : Json → Option α} {text : String} {test : α → Bool}
    (hobj : ∀ fs, kind (.obj fs) = none) (harr : ∀ xs, kind (.arr xs) = none) :
    Scalar (ruleOn kind text test) := by
  intro v hv
  cases v with
  | obj fs => simp [ruleOn, hobj] at hv
  | arr xs => simp [ruleOn, harr] at hv
  | _ => exact ⟨rfl, rfl⟩

lemma scalar_aString : Scalar aString := scalar_ruleOn (fun _ => rfl) fun _ => rfl

lemma covers_text (rule : Checker.Text) : (rules (text rule)).Covers := by
  cases hr : rule.required
  · refine scalar_aString.ifGiven.covers ?_
    simp [text, hr]
  · refine scalar_aString.covers ?_
    simp [text, hr]

lemma covers_oneOf (allowed : List String) : (rules [required, oneOf allowed]).Covers :=
  Scalar.covers (r := oneOf allowed) (scalar_ruleOn (fun _ => rfl) fun _ => rfl) (by simp)

lemma covers_oneOf_ifGiven (allowed : List String) :
    (rules [ifGiven (oneOf allowed)]).Covers :=
  (Scalar.ifGiven (r := oneOf allowed) (scalar_ruleOn (fun _ => rfl) fun _ => rfl)).covers
    List.mem_cons_self

variable (reads : FiscalReads) (now : ℤ)

lemma covers_num (rule : Checker.Num) : (rules (num reads rule)).Covers := by
  have hnumber : Scalar aNumber := scalar_ruleOn (fun _ => rfl) fun _ => rfl
  cases hr : rule.required <;> cases hn : rule.nullable
  · exact hnumber.ifPresent.covers (by simp [num, hr, hn])
  · exact hnumber.ifGiven.ifPresent.covers (by simp [num, hr, hn])
  · exact hnumber.covers (by simp [num, hr, hn])
  · exact hnumber.ifGiven.covers (by simp [num, hr, hn])

/-! ### Objects and lists -/

lemma items_of_isObject {v : Json} (h : v.isObject = true) : Parts.items v = none := by
  cases v with
  | arr xs => cases h
  | _ => rfl

lemma fields_of_isArray {v : Json} (h : v.asArray.isSome = true) : Parts.fields v = none := by
  cases v with
  | obj fs => cases h
  | _ => rfl

/-- A part that has to be an object, or may be left out, has no items. -/
lemma items_of_anObject {v : Json} {rs : List (Rule Json)} (h : (rules rs).Fits (some v))
    (hmem : anObject ∈ rs ∨ ifGiven anObject ∈ rs) : Parts.items v = none := by
  have hrules := (fits_rules rs _).mp h
  rcases hmem with hmem | hmem
  · exact items_of_isObject (hrules _ hmem)
  · have hgiven := hrules _ hmem
    cases v with
    | null => rfl
    | _ => exact items_of_isObject hgiven

lemma rowNames_rules (rs : List (Rule Json)) (gs : List (Grammar Json)) :
    rowNames (rules rs :: gs) = rowNames gs := by
  cases rs <;> rfl

lemma rowsCover_rules (rs : List (Rule Json)) {gs : List (Grammar Json)} (h : RowsCover gs) :
    RowsCover (rules rs :: gs) := by
  cases rs <;> exact h

/-- The grammar of an object: its own rules, its keys, and a row for every key. -/
lemma covers_of_rows {rs : List (Rule Json)} {gs : List (Grammar Json)} {allowed : List String}
    (hobject : anObject ∈ rs ∨ ifGiven anObject ∈ rs) (hkeys : keys allowed ∈ gs)
    (hnames : ∀ name ∈ allowed, name ∈ rowNames gs) (hrows : RowsCover gs) :
    (all (rules rs :: gs)).Covers := by
  refine covers_object (List.mem_cons_of_mem _ hkeys) (fun v hfits => ?_) ?_
    (rowsCover_rules rs hrows)
  · exact items_of_anObject ((fits_all _ _).mp hfits _ List.mem_cons_self) hobject
  · rw [rowNames_rules]
    exact hnames

lemma covers_party (types : List String) : (party types).Covers := by
  refine covers_of_rows (Or.inr List.mem_cons_self) List.mem_cons_self ?_ ?_
  · exact fun name hname => hname
  · exact And.intro (covers_text _) (And.intro (covers_oneOf _) trivial)

lemma covers_quantity : (quantity reads).Covers := by
  refine covers_of_rows (Or.inl (by simp)) List.mem_cons_self ?_ ?_
  · exact fun name hname => hname
  · exact And.intro (covers_num reads _) (And.intro (covers_text _) trivial)

lemma covers_item : (item reads).Covers := by
  refine covers_of_rows (Or.inl List.mem_cons_self) List.mem_cons_self ?_ ?_
  · change ∀ name ∈ ITEM_KEYS, name ∈ ["type", "name", "price", "unitPrice", "vatRate",
      "referenceReceiptId", "specialRegulation", "voucherNumber", "description", "seller",
      "quantity"]
    decide
  · exact And.intro (covers_oneOf _) <| And.intro (covers_text _) <|
      And.intro (covers_num reads _) <| And.intro (covers_num reads _) <|
      And.intro (covers_num reads _) <| And.intro (covers_text _) <|
      And.intro (covers_oneOf_ifGiven _) <| And.intro (covers_text _) <|
      And.intro (covers_text _) <| And.intro (covers_party _) <|
      And.intro (covers_quantity reads) trivial

lemma covers_itemList : (itemList reads).Covers := by
  refine covers_list (List.mem_cons_of_mem _ List.mem_cons_self) (covers_item reads) ?_
  intro v hfits
  have hlist := (fits_rules _ _).mp ((fits_all _ _).mp hfits _ List.mem_cons_self) aList (by simp)
  exact fields_of_isArray (by simpa [aList, ruleOn] using hlist)

lemma covers_payment : (payment reads).Covers := by
  refine covers_of_rows (Or.inl List.mem_cons_self) List.mem_cons_self ?_ ?_
  · exact fun name hname => hname
  · exact And.intro (covers_text _) (And.intro (covers_num reads _) trivial)

lemma covers_paymentList : (paymentList reads).Covers := by
  refine covers_list (List.mem_cons_of_mem _ List.mem_cons_self) (covers_payment reads) ?_
  intro v hfits
  have hlist := (fits_rules _ _).mp ((fits_all _ _).mp hfits _ List.mem_cons_self)
    (ifGiven aList) List.mem_cons_self
  cases v with
  | obj fs => cases hlist
  | _ => rfl

/-! ### The parts of a receipt -/

lemma covers_registerCode : (rules registerCode).Covers :=
  Scalar.covers (scalar_ruleOn (fun _ => rfl) fun _ => rfl)
    (List.mem_cons_of_mem _ List.mem_cons_self)

lemma covers_receiptType (kind : ReceiptKind) : (rules [receiptType kind]).Covers :=
  Scalar.covers (Scalar.ifGiven (scalar_ruleOn (fun _ => rfl) fun _ => rfl))
    List.mem_cons_self

lemma covers_issueDate : (rules (issueDate reads now)).Covers :=
  Scalar.covers (scalar_ruleOn (fun _ => rfl) fun _ => rfl)
    (List.mem_cons_of_mem _ List.mem_cons_self)

lemma covers_paragonNumber : (rules paragonNumber).Covers :=
  Scalar.covers (scalar_ruleOn (fun _ => rfl) fun _ => rfl)
    (List.mem_cons_of_mem _ List.mem_cons_self)

/-- The rows that the data of every receipt has, before those of its kind. -/
lemma rowsCover_dataHead (kind : ReceiptKind) {gs : List (Grammar Json)} (h : RowsCover gs) :
    RowsCover (dataHead kind ++ gs) :=
  And.intro covers_registerCode <| And.intro (covers_text _) <| And.intro (covers_text _) <|
    And.intro (covers_receiptType kind) h

lemma rowsCover_sale (more : List String) : RowsCover (sale reads more) :=
  And.intro (covers_num reads _) <| And.intro (covers_itemList reads) <|
    And.intro (covers_paymentList reads) trivial

lemma covers_data (kind : ReceiptKind) : (data reads now kind).Covers := by
  -- every kind: its keys are among the rows
  have hobject : ∀ {gs : List (Grammar Json)} {allowed : List String}, keys allowed ∈ gs →
      (∀ name ∈ allowed, name ∈ rowNames (dataHead kind ++ gs)) → RowsCover gs →
      (all (dataHead kind ++ gs)).Covers := by
    intro gs allowed hkeys hnames hrows
    refine covers_object (List.mem_append_right _ hkeys) (fun v hfits => ?_) hnames
      (rowsCover_dataHead kind hrows)
    exact items_of_anObject ((fits_all _ _).mp hfits _ List.mem_cons_self) (Or.inl (by simp))
  cases kind with
  | deposit | withdraw =>
    refine hobject List.mem_cons_self ?_ (And.intro (covers_num reads _) trivial)
    change ∀ name ∈ _, name ∈ ["cashRegisterCode", "headerText", "footerText", "receiptType",
      "amount"]
    decide
  | cashRegister =>
    refine hobject (List.mem_cons_of_mem _ List.mem_cons_self) ?_
      (And.intro (covers_party _) (rowsCover_sale reads _))
    change ∀ name ∈ _, name ∈ ["cashRegisterCode", "headerText", "footerText", "receiptType",
      "customer", "roundingAmount", "items", "payments"]
    decide
  | paragon =>
    refine hobject (List.mem_cons_of_mem _ (List.mem_cons_of_mem _ List.mem_cons_self)) ?_
      (And.intro (covers_issueDate reads now)
        (And.intro covers_paragonNumber (rowsCover_sale reads _)))
    change ∀ name ∈ _, name ∈ ["cashRegisterCode", "headerText", "footerText", "receiptType",
      "issueDate", "paragonNumber", "roundingAmount", "items", "payments"]
    decide
  | invalid =>
    refine hobject List.mem_cons_self ?_ (rowsCover_sale reads _)
    change ∀ name ∈ _, name ∈ ["cashRegisterCode", "headerText", "footerText", "receiptType",
      "roundingAmount", "items", "payments"]
    decide

lemma covers_print (kind : ReceiptKind) : (print kind).Covers := by
  rw [print]
  split
  · refine covers_of_leaf fun v hfits => ?_
    have habsent := (fits_rules _ _).mp hfits _ List.mem_cons_self
    cases v with
    | null => exact ⟨rfl, rfl⟩
    | _ => cases habsent
  · refine covers_of_rows (Or.inr List.mem_cons_self) List.mem_cons_self ?_ ?_
    · exact fun name hname => hname
    · exact And.intro (covers_oneOf _)
        (And.intro (covers_free (List.mem_cons_of_mem _ List.mem_cons_self)) trivial)

end Fiscal

/-! ### What the requests carry -/

section Carried

open Grammar

/-- What the body of a register request carries. -/
structure ReceiptCarries (reads : FiscalReads) (now : ℤ) (kind : ReceiptKind) (payload : Json)
    (externalId : String) : Prop where
  /-- The whole data, unchanged. -/
  data : ∃ data, payload.get "data" = some data ∧
    (registerBody payload externalId).pointer ["request", "data"] = some data
  /-- The bridge's own key and no other. -/
  key : (registerBody payload externalId).pointer ["request", "externalId"] =
    some (.str externalId)
  /-- The print context, when it is given. -/
  print : (registerBody payload externalId).get "print" =
    (payload.get "print").filter fun p => !p.isNull
  paragon : kind = .paragon → (registerBody payload externalId).get "print" = none
  /-- There is nothing else but parts of the payload that its grammar names. -/
  parts : ∀ place part, partAt (some (registerBody payload externalId)) place = some part →
    place = [] ∨ place = [.field "request"] ∨
    place = [.field "request", .field "externalId"] ∨
    (∃ q, place = .field "request" :: .field "data" :: q ∧
      (Fiscal.data reads now kind).Names q ∧ partAt (payload.get "data") q = some part) ∨
    ∃ q, place = .field "print" :: q ∧ (Fiscal.print kind).Names q ∧
      partAt (payload.get "print") q = some part

/-- How a copy names its receipt. -/
inductive ReceiptName where
  | externalId (text : String)
  | id (uuid : String)
  | number (year month receiptNumber : ℤ)

namespace ReceiptName

def WellFormed : ReceiptName → Prop
  | externalId text => isBlank text = false ∧ text.length ≤ MAX_EXTERNAL_ID_CHARS ∧
      text.toList.any isControl = false
  | id uuid => uuidOk uuid = true
  | number year month receiptNumber => (2019 ≤ year ∧ year ≤ 9999) ∧ (1 ≤ month ∧ month ≤ 12) ∧
      1 ≤ receiptNumber ∧ receiptNumber ≤ 4294967295

/-- The fields that name the receipt in a payload. -/
def fields : ReceiptName → Checker.Fields
  | externalId text => [("externalId", .str text)]
  | id uuid => [("id", .str uuid)]
  | number year month receiptNumber =>
    [("year", .ofInt year), ("month", .ofInt month), ("receiptNumber", .ofInt receiptNumber)]

/-- The parameters that name the receipt in a query. -/
def params : ReceiptName → List (String × String)
  | externalId text => [("ExternalId", text)]
  | id uuid => [("Id", uuid)]
  | number year month receiptNumber =>
    [("Year", toString year), ("Month", toString month), ("ReceiptNumber", toString receiptNumber)]

end ReceiptName

/-- What the request for a copy carries: the fields of the payload and nothing else. -/
structure CopyCarries (payload : Json) (code : String) (name : ReceiptName) : Prop where
  codeOk : cashRegisterCodeOk code = true
  wellFormed : name.WellFormed
  fields : ∀ key, payload.get key = (("cashRegisterCode", .str code) :: name.fields).lookup key
  request : controlRequest .printCopy payload =
    (PRINT_COPY_PATH, ("CashRegisterCode", code) :: name.params, none)

/-- What the request for the drawer carries. -/
structure DrawerCarries (payload : Json) (pin : Option String) : Prop where
  allowed : ∀ p, pin = some p → ∃ q ∈ DRAWER_PINS, eqIgnoreAsciiCase q p = true
  fields : ∀ key v, payload.get key = some v →
    key = "pin" ∧ (v = .null ∧ pin = none ∨ ∃ p, v = .str p ∧ pin = some p)
  request : controlRequest .openDrawer payload =
    (OPEN_DRAWER_PATH, pin.toList.map fun p => ("pin", p), none)

/-- What the request that is built from a payload carries. -/
def Carries (reads : FiscalReads) (now : ℤ) (op : FiscalOp) (payload : Json) : Prop :=
  match op with
  | .register kind => ∀ externalId, ReceiptCarries reads now kind payload externalId
  | .printCopy => ∃ code name, CopyCarries payload code name
  | .openDrawer => ∃ pin, DrawerCarries payload pin
  | .printText => ∃ title lines cut, PrintsAsNamed payload title lines cut

variable {reads : FiscalReads} {now : ℤ} {payload : Json}

/-! #### Receipts -/

lemma fits_field {gs : List (Grammar Json)} {v : Option Json} {fs : Checker.Fields}
    {name : String} {g : Grammar Json} (h : (all gs).Fits v) (hv : v.bind Parts.fields = some fs)
    (hmem : field name g ∈ gs) : g.Fits (fs.lookup name) :=
  (fits_all gs v).mp h _ hmem fs hv

/-- A payload that has to be an object is one. -/
lemma isObject_of_fits {v : Json} {gs : List (Grammar Json)}
    (h : (all (rules [Fiscal.anObject] :: gs)).Fits (some v)) : ∃ fs, v = .obj fs := by
  have hobject := (fits_rules _ _).mp ((fits_all _ _).mp h _ List.mem_cons_self) Fiscal.anObject
    List.mem_cons_self
  cases v with
  | obj fs => exact ⟨fs, rfl⟩
  | _ => cases hobject

/-- The part at a place below a field. -/
lemma partAt_field (v : Json) (name : String) (q : Place) :
    partAt (some v) (.field name :: q) = partAt (v.get name) q := by
  cases v <;> rfl

lemma partAt_leaf {v part : Json} {q : Place} (hfields : Parts.fields v = none)
    (hitems : Parts.items v = none) (h : partAt (some v) q = some part) : q = [] := by
  rcases q with _ | ⟨_ | _, q⟩
  · rfl
  · simp [partAt, hfields, partAt_none] at h
  · simp [partAt, hitems, partAt_none] at h

lemma get_cons (key name : String) (v : Json) (fs : Checker.Fields) :
    (Json.obj ((key, v) :: fs)).get name =
      if name = key then some v else (Json.obj fs).get name := by
  rw [Json.get, List.lookup_cons]
  by_cases h : name = key
  · simp [h]
  · simp only [beq_eq_false_iff_ne.mpr h, if_neg h]
    rfl

lemma get_nil (name : String) : (Json.obj []).get name = none := rfl

/-- The fields of a body. -/
lemma get_registerBody {data : Json} (externalId name : String)
    (hdata : payload.get "data" = some data) : (registerBody payload externalId).get name =
      if name = "print" then (payload.get "print").filter fun p => !p.isNull
      else if name = "request" then
        some (.obj [("data", data), ("externalId", .str externalId)])
      else none := by
  rw [registerBody, hdata]
  generalize (payload.get "print").filter _ = given
  rcases given with _ | print
  · simp only [get_cons, get_nil, Option.getD_some]
    by_cases hp : name = "print"
    · simp [hp]
    · simp only [if_neg hp]
  · simp only [get_cons, get_nil, Option.getD_some]

/-- A place of a body is one of its own, or one of the data or of the print context. -/
lemma partAt_registerBody {data part : Json} {externalId : String} {place : Place}
    (hdata : payload.get "data" = some data)
    (h : partAt (some (registerBody payload externalId)) place = some part) :
    place = [] ∨ place = [.field "request"] ∨
    place = [.field "request", .field "externalId"] ∨
    (∃ q, place = .field "request" :: .field "data" :: q ∧ partAt (some data) q = some part) ∨
    ∃ q, place = .field "print" :: q ∧ partAt (payload.get "print") q = some part := by
  rcases place with _ | ⟨name | i, q⟩
  · exact Or.inl rfl
  · rw [partAt_field, get_registerBody externalId name hdata] at h
    split at h
    · rename_i hname
      subst hname
      rcases hprint : payload.get "print" with _ | p
      · simp [hprint, partAt_none] at h
      · rw [hprint, Option.filter_some] at h
        split at h
        · exact Or.inr (Or.inr (Or.inr (Or.inr ⟨q, rfl, h⟩)))
        · simp [partAt_none] at h
    · split at h
      · rename_i hname
        subst hname
        rcases q with _ | ⟨key | i, q⟩
        · exact Or.inr (Or.inl rfl)
        · rw [partAt_field] at h
          by_cases hd : key = "data"
          · subst hd
            exact Or.inr (Or.inr (Or.inr (Or.inl ⟨q, rfl, h⟩)))
          · by_cases he : key = "externalId"
            · subst he
              rw [partAt_leaf rfl rfl h]
              exact Or.inr (Or.inr (Or.inl rfl))
            · simp [get_cons, get_nil, hd, he, partAt_none] at h
        · simp [partAt, Parts.items, partAt_none] at h
      · simp [partAt_none] at h
  · have hitems : Parts.items (registerBody payload externalId) = none := by
      rw [registerBody]
      split <;> rfl
    simp [partAt, hitems, partAt_none] at h

/-- The data of a receipt has to be there. -/
lemma isSome_of_data {kind : ReceiptKind} {v : Option Json}
    (h : (Fiscal.data reads now kind).Fits v) : ∃ data, v = some data := by
  have hhead : ∀ gs, (all (Fiscal.dataHead kind ++ gs)).Fits v → v.isSome = true :=
    fun gs hfits => (fits_rules _ _).mp ((fits_all _ v).mp hfits _ List.mem_cons_self)
      Fiscal.present List.mem_cons_self
  exact Option.isSome_iff_exists.mp (by cases kind <;> exact hhead _ h)

/-- The data and the print context of a payload that fits. -/
lemma receiptCarries_of_fits {kind : ReceiptKind} (externalId : String)
    (h : (Fiscal.receipt reads now kind).Fits (some payload)) :
    ReceiptCarries reads now kind payload externalId := by
  obtain ⟨fs, rfl⟩ := isObject_of_fits h
  have hdata : (Fiscal.data reads now kind).Fits (fs.lookup "data") :=
    fits_field h rfl (by simp)
  have hprint : (Fiscal.print kind).Fits (fs.lookup "print") := fits_field h rfl (by simp)
  obtain ⟨data, hsome⟩ := isSome_of_data hdata
  have hget : (Json.obj fs).get "data" = some data := hsome
  refine ⟨⟨data, hget, ?_⟩, ?_, ?_, ?_, fun place part hpart => ?_⟩
  · simp [Json.pointer, get_registerBody externalId _ hget, get_cons]
  · simp [Json.pointer, get_registerBody externalId _ hget, get_cons]
  · exact get_registerBody externalId _ hget
  · rintro rfl
    rw [get_registerBody externalId _ hget, if_pos rfl]
    change (fs.lookup "print").filter _ = none
    rcases hp : fs.lookup "print" with _ | p
    · rfl
    · have hnull := (fits_rules _ _).mp hprint _ List.mem_cons_self
      rw [hp] at hnull
      cases p with
      | null => rfl
      | _ => cases hnull
  · rcases partAt_registerBody hget hpart with h | h | h | ⟨q, h, hq⟩ | ⟨q, h, hq⟩
    · exact Or.inl h
    · exact Or.inr (Or.inl h)
    · exact Or.inr (Or.inr (Or.inl h))
    · refine Or.inr (Or.inr (Or.inr (Or.inl ⟨q, h, ?_, hget ▸ hq⟩)))
      exact Fiscal.covers_data reads now kind _ q part hdata (hsome ▸ hq)
    · refine Or.inr (Or.inr (Or.inr (Or.inr ⟨q, h, ?_, hq⟩)))
      exact Fiscal.covers_print kind _ q part hprint hq

/-! #### Copies -/

lemma lookup_of_contains {fs : Checker.Fields} {key : String}
    (h : (fs.map Prod.fst).contains key = false) : fs.lookup key = none := by
  refine List.lookup_eq_none_iff.mpr fun entry hentry => ?_
  simp only [List.contains_eq_mem, decide_eq_false_iff_not] at h
  simpa using fun heq : key = entry.1 => h (heq ▸ List.mem_map_of_mem hentry)

/-- The code of a cash register that keeps its rules. -/
lemma code_of_fits {v : Option Json} (h : (rules Fiscal.registerCode).Fits v) :
    ∃ code, v = some (.str code) ∧ cashRegisterCodeOk code = true := by
  have hcode := (fits_rules _ _).mp h _ (List.mem_cons_of_mem _ List.mem_cons_self)
  rcases v with _ | v
  · cases hcode
  cases v with
  | str code => exact ⟨code, rfl, hcode⟩
  | _ => cases hcode

/-- A text that has to be there. -/
lemma text_of_fits {v : Option Json} {max : ℕ}
    (h : (rules (Fiscal.text (.needed max))).Fits v) : ∃ text, v = some (.str text) ∧
      isBlank text = false ∧ text.length ≤ max ∧ text.toList.any isControl = false := by
  have hrules := (fits_rules _ _).mp h
  have hstring := hrules Fiscal.aString (by simp [Fiscal.text, Checker.Text.needed])
  have hfilled := hrules Fiscal.filled (by simp [Fiscal.text, Checker.Text.needed])
  have hmost := hrules (Fiscal.most max) (by simp [Fiscal.text, Checker.Text.needed])
  have hplain := hrules Fiscal.noControl (by simp [Fiscal.text, Checker.Text.needed])
  rcases v with _ | v
  · cases hstring
  cases v with
  | str text =>
    refine ⟨text, rfl, ?_, ?_, ?_⟩
    · simpa [Fiscal.filled, Fiscal.ruleOn, Json.asStr] using hfilled
    · simpa [Fiscal.most, Fiscal.ruleOn, Json.asStr] using hmost
    · simpa [Fiscal.noControl, Fiscal.ruleOn, Json.asStr] using hplain
  | _ => cases hstring

lemma uuid_of_fits {v : Option Json} {text : String}
    (h : (rules [Fiscal.ruleOn Json.asStr text uuidOk]).Fits v) :
    ∃ uuid, v = some (.str uuid) ∧ uuidOk uuid = true := by
  have huuid := (fits_rules _ _).mp h _ List.mem_cons_self
  rcases v with _ | v
  · cases huuid
  cases v with
  | str uuid => exact ⟨uuid, rfl, huuid⟩
  | _ => cases huuid

lemma whole_of_fits {v : Option Json} {low high : ℤ}
    (h : (rules [Fiscal.whole low high]).Fits v) :
    ∃ n, v = some (.ofInt n) ∧ low ≤ n ∧ n ≤ high := by
  have hwhole := (fits_rules _ _).mp h _ List.mem_cons_self
  rcases v with _ | v
  · cases hwhole
  cases v with
  | num number =>
    cases number with
    | int n =>
      have hrange : (Number.int n).asI64.any (fun n => decide (low ≤ n ∧ n ≤ high)) = true :=
        hwhole
      rw [Number.asI64] at hrange
      split at hrange
      · exact ⟨n, rfl, by simpa using hrange⟩
      · cases hrange
    | float value text => cases hwhole
  | _ => cases hwhole

/-- The one way in which some keys name a receipt. -/
lemma way_cases {keys : List String} (h : waysOf keys = 1) :
    (keys.contains "externalId" = true ∧ keys.contains "id" = false ∧
      ∀ key ∈ NUMBER_KEYS, keys.contains key = false) ∨
    (keys.contains "externalId" = false ∧ keys.contains "id" = true ∧
      ∀ key ∈ NUMBER_KEYS, keys.contains key = false) ∨
    keys.contains "externalId" = false ∧ keys.contains "id" = false := by
  rw [waysOf] at h
  have hnumber : NUMBER_KEYS.any keys.contains = false →
      ∀ key ∈ NUMBER_KEYS, keys.contains key = false := fun hany key hkey =>
    Bool.eq_false_iff.mpr (List.any_eq_false.mp hany key hkey)
  rcases hext : keys.contains "externalId" <;> rcases hid : keys.contains "id" <;>
    rcases hany : NUMBER_KEYS.any keys.contains <;> rw [hext, hid, hany] at h <;>
    simp only [Bool.false_eq_true, if_true, if_false] at h
  · exact Or.inr (Or.inr ⟨rfl, rfl⟩)
  · exact Or.inr (Or.inr ⟨rfl, rfl⟩)
  · exact Or.inr (Or.inl ⟨rfl, rfl, hnumber hany⟩)
  · omega
  · exact Or.inl ⟨rfl, rfl, hnumber hany⟩
  · omega
  · omega
  · omega

lemma ReceiptName.keys_fields (code : String) (name : ReceiptName) :
    ∀ entry ∈ (("cashRegisterCode", Json.str code) :: name.fields), entry.1 ∈ COPY_KEYS := by
  cases name <;> simp [ReceiptName.fields, COPY_KEYS]

/-- A payload whose fields are a code and the name of a receipt. -/
lemma copyCarries_of_gets {code : String} {name : ReceiptName}
    (hok : cashRegisterCodeOk code = true) (hname : name.WellFormed)
    (hother : ∀ key, key ∉ COPY_KEYS → payload.get key = none)
    (hget : ∀ key ∈ COPY_KEYS,
      payload.get key = (("cashRegisterCode", Json.str code) :: name.fields).lookup key) :
    CopyCarries payload code name := by
  refine ⟨hok, hname, fun key => ?_, ?_⟩
  · by_cases hkey : key ∈ COPY_KEYS
    · exact hget key hkey
    · rw [hother key hkey]
      refine (List.lookup_eq_none_iff.mpr fun entry hentry => ?_).symm
      simpa using fun heq : key = entry.1 => hkey (heq ▸ name.keys_fields code entry hentry)
  · rw [controlRequest, copyQuery]
    simp only [List.filterMap_cons, List.filterMap_nil, hget "cashRegisterCode" (by decide),
      hget "externalId" (by decide), hget "id" (by decide), hget "year" (by decide),
      hget "month" (by decide), hget "receiptNumber" (by decide)]
    cases name <;> rfl

lemma copyCarries_of_fits
    (h : (Fiscal.copy (Fiscal.keysOf (some payload))).Fits (some payload)) :
    ∃ code name, CopyCarries payload code name := by
  obtain ⟨fs, rfl⟩ := isObject_of_fits h
  have hkeysOf : Fiscal.keysOf (some (Json.obj fs)) = fs.map Prod.fst := rfl
  rw [hkeysOf] at h
  have hrow : ∀ name g, field name g ∈ Fiscal.copyWay (fs.map Prod.fst) →
      g.Fits (fs.lookup name) := fun name g hmem =>
    fits_field h rfl (List.mem_append_right _ hmem)
  have hkeys : ∀ key ∈ fs.map Prod.fst, key ∈ COPY_KEYS :=
    (fits_all _ _).mp h (keys COPY_KEYS) (by simp) fs rfl
  have hregister : (rules Fiscal.registerCode).Fits (fs.lookup "cashRegisterCode") :=
    fits_field h rfl (by simp)
  obtain ⟨code, hcode, hok⟩ := code_of_fits hregister
  have hways : waysOf (fs.map Prod.fst) = 1 := by
    have honeWay := (fits_rules _ _).mp ((fits_all _ _).mp h (rules [Fiscal.ifObject Fiscal.oneWay])
      (by simp)) _ List.mem_cons_self
    simpa [Fiscal.ifObject, Rule.sparing, Fiscal.oneWay, hkeysOf, Json.isObject] using honeWay
  -- a key that is not there has no value
  have habsent : ∀ {key}, (fs.map Prod.fst).contains key = false →
      (Json.obj fs).get key = none := fun h => lookup_of_contains h
  have hother : ∀ {key}, key ∉ COPY_KEYS → (Json.obj fs).get key = none := fun hkey =>
    habsent (by simpa using fun v hv => hkey (hkeys _ (List.mem_map_of_mem hv)))
  have hcodeGet : (Json.obj fs).get "cashRegisterCode" = some (.str code) := hcode
  rw [Fiscal.copyWay, if_neg (not_not.mpr hways)] at hrow
  rcases way_cases hways with ⟨hext, hid, hnumber⟩ | ⟨hext, hid, hnumber⟩ | ⟨hext, hid⟩
  · rw [if_pos hext] at hrow
    obtain ⟨text, htext, hwell⟩ := text_of_fits (hrow _ _ List.mem_cons_self)
    have htextGet : (Json.obj fs).get "externalId" = some (.str text) := htext
    have hidGet := habsent hid
    have hyear := habsent (hnumber "year" (by decide))
    have hmonth := habsent (hnumber "month" (by decide))
    have hreceipt := habsent (hnumber "receiptNumber" (by decide))
    refine ⟨code, .externalId text, copyCarries_of_gets hok hwell (fun _ => hother) ?_⟩
    intro key hkey
    fin_cases hkey <;> assumption
  · rw [if_neg (Bool.eq_false_iff.mp hext), if_pos hid] at hrow
    obtain ⟨uuid, huuid, hwell⟩ := uuid_of_fits (hrow _ _ List.mem_cons_self)
    have huuidGet : (Json.obj fs).get "id" = some (.str uuid) := huuid
    have htextGet := habsent hext
    have hyear := habsent (hnumber "year" (by decide))
    have hmonth := habsent (hnumber "month" (by decide))
    have hreceipt := habsent (hnumber "receiptNumber" (by decide))
    refine ⟨code, .id uuid, copyCarries_of_gets hok hwell (fun _ => hother) ?_⟩
    intro key hkey
    fin_cases hkey <;> assumption
  · rw [if_neg (Bool.eq_false_iff.mp hext), if_neg (Bool.eq_false_iff.mp hid)] at hrow
    obtain ⟨year, hyear, hyearOk⟩ := whole_of_fits (hrow "year" _ List.mem_cons_self)
    obtain ⟨month, hmonth, hmonthOk⟩ :=
      whole_of_fits (hrow "month" _ (List.mem_cons_of_mem _ List.mem_cons_self))
    obtain ⟨number, hnumber, hnumberOk⟩ := whole_of_fits (hrow "receiptNumber" _
      (List.mem_cons_of_mem _ (List.mem_cons_of_mem _ List.mem_cons_self)))
    have hyearGet : (Json.obj fs).get "year" = some (.ofInt year) := hyear
    have hmonthGet : (Json.obj fs).get "month" = some (.ofInt month) := hmonth
    have hnumberGet : (Json.obj fs).get "receiptNumber" = some (.ofInt number) := hnumber
    have htextGet := habsent hext
    have hidGet := habsent hid
    refine ⟨code, .number year month number,
      copyCarries_of_gets hok ⟨hyearOk, hmonthOk, hnumberOk⟩ (fun _ => hother) ?_⟩
    intro key hkey
    fin_cases hkey <;> assumption

/-! #### The drawer -/

lemma drawerCarries_of_fits (h : Fiscal.drawer.Fits (some payload)) :
    ∃ pin, DrawerCarries payload pin := by
  obtain ⟨fs, rfl⟩ := isObject_of_fits h
  have hkeys : ∀ key ∈ fs.map Prod.fst, key ∈ ["pin"] :=
    (fits_all _ _).mp h (keys ["pin"]) (by simp) fs rfl
  have hpin : (rules [Fiscal.ifGiven (Fiscal.oneOf DRAWER_PINS)]).Fits (fs.lookup "pin") :=
    fits_field h rfl (by simp)
  have hgiven := (fits_rules _ _).mp hpin _ List.mem_cons_self
  have honly : ∀ key v, (Json.obj fs).get key = some v → key = "pin" := by
    intro key v hv
    by_contra hne
    have hnone : (Json.obj fs).get key = none :=
      lookup_of_contains (by
        simpa using fun w hw => hne (by simpa using hkeys key (List.mem_map_of_mem hw)))
    rw [hnone] at hv
    cases hv
  rcases hget : (Json.obj fs).get "pin" with _ | v
  · refine ⟨none, by rintro p ⟨⟩, fun key v hv => ?_, by simp [controlRequest, drawerQuery, hget]⟩
    rw [honly key v hv, hget] at hv
    cases hv
  have hlookup : fs.lookup "pin" = some v := hget
  rw [hlookup] at hgiven
  cases v with
  | null =>
    refine ⟨none, by rintro p ⟨⟩, fun key v hv => ?_, by
      simp [controlRequest, drawerQuery, hget, Json.asStr]⟩
    obtain rfl := honly key v hv
    rw [hget] at hv
    exact ⟨rfl, Or.inl ⟨(Option.some.inj hv).symm, rfl⟩⟩
  | str pin =>
    refine ⟨some pin, ?_, fun key v hv => ?_, by
      simp [controlRequest, drawerQuery, hget, Json.asStr]⟩
    · rintro p ⟨⟩
      exact List.any_eq_true.mp hgiven
    · obtain rfl := honly key v hv
      rw [hget] at hv
      exact ⟨rfl, Or.inr ⟨pin, (Option.some.inj hv).symm, rfl⟩⟩
  | _ => cases hgiven

end Carried

/-! ### Acceptance -/

section Accepted

open Grammar

variable (reads : FiscalReads) (now : ℤ) (op : FiscalOp) (payload : Json)

/-- The problems that the check of a payload finds. -/
lemma checkPayload_eq : checkPayload reads now op payload =
    (let problems := (Fiscal.payload reads now op payload).report "payload" (some payload)
    if problems.isEmpty then .ok () else .error (String.intercalate "; " problems)) := by
  rw [Fiscal.report_payload]
  rfl

lemma checkPayload_ok_iff : checkPayload reads now op payload = .ok () ↔
    (Fiscal.payload reads now op payload).report "payload" (some payload) = [] := by
  rw [checkPayload_eq]
  cases (Fiscal.payload reads now op payload).report "payload" (some payload) <;> simp

/-- For every operation and every payload: the check accepts it exactly when it fits the grammar
of the operation. -/
theorem accepted_iff_fits : checkPayload reads now op payload = .ok () ↔
    (Fiscal.payload reads now op payload).Fits (some payload) :=
  (checkPayload_ok_iff reads now op payload).trans (report_eq_nil_iff _ _ _)

variable {reads now op payload}

/-- What the check accepts, the request carries as it was checked. -/
theorem accepted_payload_carried (h : checkPayload reads now op payload = .ok ()) :
    Carries reads now op payload := by
  have hreport := (checkPayload_ok_iff reads now op payload).mp h
  have hfits := (report_eq_nil_iff _ _ _).mp hreport
  cases op with
  | register kind => exact fun externalId => receiptCarries_of_fits externalId hfits
  | printCopy => exact copyCarries_of_fits hfits
  | openDrawer => exact drawerCarries_of_fits hfits
  | printText =>
    rw [Fiscal.report_payload] at hreport
    refine prints_of_accepted (accepted_iff.mpr ?_)
    cases payload with
    | obj fs => exact ⟨fs, rfl, hreport⟩
    | _ => cases hreport

/-- Decimals of a number, and no times. -/
def plainReads : FiscalReads where
  hasAtMostDecimals x places := (x * 10 ^ places).den == 1
  parseRfc3339 _ := none

/-- A till sells a bottle of water. -/
def bottleSale : Json :=
  .obj [("data", .obj [("cashRegisterCode", .str "88812345678900001"),
      ("items", .arr [.obj [("name", .str "Voda"), ("price", .ofInt 1),
        ("quantity", .obj [("amount", .ofInt 1), ("unit", .str "ks")]), ("type", .str "positive"),
        ("unitPrice", .ofInt 1), ("vatRate", .null)]])]),
    ("print", .obj [("printerName", .str "pos")])]

theorem accepted_payload_carried_sale :
    Carries plainReads 0 (.register .cashRegister) bottleSale :=
  accepted_payload_carried (by decide +kernel)

/-! ### Refusals -/

/-- The rule of the lists of lines: of those that keep the earlier rules, none is too long. -/
def mostLines : Rule Json :=
  let most := PRINT_TEXT_MAX_LINES
  ⟨s!"must have at most {most} items", fun v =>
    !(true && Fiscal.required.holds v && Fiscal.aList.holds v && Fiscal.nonempty.holds v) ||
      ((v.bind Json.asArray).any fun xs => decide (xs.length ≤ PRINT_TEXT_MAX_LINES))⟩

lemma tooMany_iff (v : Json) :
    Fiscal.tooMany v = true ↔ mostLines.holds (v.get "lines") = false := by
  have hholds : ∀ w, mostLines.holds w =
      (!(true && Fiscal.required.holds w && Fiscal.aList.holds w && Fiscal.nonempty.holds w) ||
        (w.bind Json.asArray).any fun xs => decide (xs.length ≤ PRINT_TEXT_MAX_LINES)) :=
    fun _ => rfl
  rw [Fiscal.tooMany, hholds]
  rcases v.get "lines" with _ | w
  · exact ⟨by rintro ⟨⟩, by rintro ⟨⟩⟩
  cases w with
  | arr xs =>
    have hasked : Fiscal.nonempty.holds (some (.arr xs)) = !xs.isEmpty := rfl
    have hany : ∀ p : List Json → Bool, ((some (Json.arr xs)).bind Json.asArray).any p = p xs :=
      fun _ => rfl
    rw [hany, hany, hasked]
    by_cases hmany : PRINT_TEXT_MAX_LINES < xs.length
    · have hne : xs.isEmpty = false := by
        cases xs with
        | nil => exact absurd hmany (Nat.not_lt_zero _)
        | cons x xs => rfl
      rw [hne, decide_eq_false (not_le.mpr hmany)]
      exact iff_of_true (decide_eq_true hmany) rfl
    · rw [decide_eq_true (not_lt.mp hmany), Bool.or_true]
      exact iff_of_false (by simpa using hmany) (by simp)
  | _ => exact ⟨by rintro ⟨⟩, by rintro ⟨⟩⟩

/-- That there are too many lines is a rule that the payload breaks. -/
lemma tooMany_iff_breaks (many : Bool) (v : Json) : Fiscal.tooMany v = true ↔
    (Fiscal.printText many).Breaks (some v) [.field "lines"] mostLines := by
  constructor
  · intro h
    have hobject : ∃ fs, v = .obj fs := by
      cases v with
      | obj fs => exact ⟨fs, rfl⟩
      | _ => cases h
    obtain ⟨fs, rfl⟩ := hobject
    refine ⟨?_, ⟨fs, rfl, trivial⟩, (tooMany_iff _).mp h⟩
    refine asks_all (List.mem_cons_of_mem _ (List.mem_cons_of_mem _ (List.mem_cons_of_mem _
      List.mem_cons_self))) ⟨[], rfl, asks_all List.mem_cons_self ?_⟩
    exact Or.inr (Or.inr (Or.inr (Or.inl ⟨rfl, rfl⟩)))
  · intro h
    refine (tooMany_iff v).mpr ?_
    rw [← h.broken, partAt_field]
    rfl

/-- The refusal of a payload tells its keys and the rules that it breaks, and nothing else. -/
theorem refusal_tells_no_value {payload' : Json} (hkeys : SameKeys (some payload) (some payload'))
    (hbreaks : ∀ p r, (Fiscal.payload reads now op payload).Breaks (some payload) p r ↔
      (Fiscal.payload reads now op payload').Breaks (some payload') p r) :
    checkPayload reads now op payload = checkPayload reads now op payload' := by
  have hgrammar : Fiscal.payload reads now op payload' = Fiscal.payload reads now op payload := by
    cases op with
    | register kind => rfl
    | openDrawer => rfl
    | printCopy => exact congrArg Fiscal.copy (hkeys []).symm
    | printText =>
      have hlines := hbreaks [.field "lines"] mostLines
      refine congrArg Fiscal.printText (Bool.eq_iff_iff.mpr ?_)
      rw [tooMany_iff_breaks (Fiscal.tooMany payload') payload',
        tooMany_iff_breaks (Fiscal.tooMany payload) payload]
      exact hlines.symm
  rw [checkPayload_eq, checkPayload_eq, hgrammar,
    report_congr _ "payload" hkeys (hgrammar ▸ hbreaks)]

/-- A request for a drawer by the name of a pin. -/
def drawerPin (name : String) : Json := .obj [("pin", .str name)]

lemma sameKeys_drawerPin (a b : String) : SameKeys (some (drawerPin a)) (some (drawerPin b)) := by
  rintro (_ | ⟨name | i, q⟩)
  · rfl
  · rw [keysAt, keysAt, partAt_field, partAt_field, drawerPin, drawerPin, get_cons, get_cons]
    by_cases hname : name = "pin"
    · rw [if_pos hname, if_pos hname]
      rcases q with _ | ⟨key | i, q⟩ <;> simp [partAt, partAt_none, Parts.fields, Parts.items]
    · rw [if_neg hname, if_neg hname]
  · rfl

/-- A pin that is none breaks the rule of the pins alone. -/
lemma breaks_drawerPin {name : String} (hname : DRAWER_PINS.any (eqIgnoreAsciiCase · name) = false)
    (p : Place) (r : Rule Json) : Fiscal.drawer.Breaks (some (drawerPin name)) p r ↔
      p = [.field "pin"] ∧ r = ⟨(Fiscal.ifGiven (Fiscal.oneOf DRAWER_PINS)).text, fun v =>
        !true || (Fiscal.ifGiven (Fiscal.oneOf DRAWER_PINS)).holds v⟩ := by
  have hbroken : (Fiscal.ifGiven (Fiscal.oneOf DRAWER_PINS)).holds (some (.str name)) = false :=
    hname
  constructor
  · rintro ⟨hasks, -, hb⟩
    rcases hasks with hasks | hasks | hasks | hasks
    · rcases hasks with ⟨rfl, rfl⟩ | hasks
      · cases hb
      · cases hasks
    · obtain ⟨key, rfl, hkey, rfl⟩ := hasks
      rw [partAt_field, drawerPin, get_cons, if_neg (by simpa using hkey)] at hb
      cases hb
    · obtain ⟨q, rfl, hasks⟩ := hasks
      rcases hasks with ⟨rfl, rfl⟩ | hasks
      · exact ⟨rfl, rfl⟩
      · cases hasks
    · cases hasks
  · rintro ⟨rfl, rfl⟩
    refine ⟨Or.inr (Or.inr (Or.inl ⟨[], rfl, Or.inl ⟨rfl, rfl⟩⟩)), ⟨_, rfl, trivial⟩, hbroken⟩

theorem refusal_tells_no_value_pins :
    checkPayload plainReads 0 .openDrawer (drawerPin "Pin3") =
      checkPayload plainReads 0 .openDrawer (drawerPin "1234") :=
  refusal_tells_no_value (sameKeys_drawerPin _ _) fun p r =>
    (breaks_drawerPin (by decide +kernel) p r).trans (breaks_drawerPin (by decide +kernel) p r).symm

end Accepted

end DevBridge

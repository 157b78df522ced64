import DevBridge.Portos.PrintText

/-!
# The check of the fiscal payloads

A payload is checked before its job is journaled.  The checker walks over the payload field by
field and collects what is wrong: the path of a field and the rule that it breaks, never its
value.  Each function below gives the problems in the order in which the checker finds them.
-/

namespace DevBridge

/-- Code from elsewhere that the check reads numbers and times with. -/
structure FiscalReads where
  /-- `has_at_most_decimals`. -/
  hasAtMostDecimals : ℚ → ℕ → Bool
  /-- `DateTime::parse_from_rfc3339`: the instant. -/
  parseRfc3339 : String → Option ℤ

/-- Largest absolute amount, price or quantity. -/
def MAX_ABS_AMOUNT : ℕ := 10000000

/-- Longest name of an item or of a payment. -/
def MAX_NAME_CHARS : ℕ := 255

/-- Longest `externalId` that a copy may name. -/
def MAX_EXTERNAL_ID_CHARS : ℕ := 128

/-- Largest number of a paragón. -/
def MAX_PARAGON_NUMBER : ℕ := 4294967295

/-- Longest header, footer or description. -/
def MAX_FREE_TEXT_CHARS : ℕ := 2000

/-- `^[0-9]{16,17}$`; a digit is one byte. -/
def cashRegisterCodeOk (code : String) : Bool :=
  decide (16 ≤ code.length ∧ code.length ≤ 17) && code.toList.all Char.isDigit

/-- `is_ascii_hexdigit`. -/
def isHexDigit (c : Char) : Bool :=
  c.isDigit || ('a' ≤ c && c ≤ 'f') || ('A' ≤ c && c ≤ 'F')

/-- `8-4-4-4-12` hex digits; a digit is one byte. -/
def uuidOk (s : String) : Bool :=
  let groups := s.toList.splitOn '-'
  groups.length == 5 && (groups.zip [8, 4, 4, 4, 12]).all fun (g, n) =>
    g.length == n && g.all isHexDigit

namespace Checker

/-- The fields of an object. -/
abbrev Fields := List (String × Json)

def fail (path rule : String) : String := s!"{path} {rule}"

/-- `Checker::object`: what is wrong with the fields of an object, or that there is none. -/
def object (v : Json) (path : String) (check : Fields → List String) : List String :=
  match v with
  | .obj fields => check fields
  | _ => [fail path "must be an object"]

/-- String rule. -/
structure Text where
  required : Bool
  max : ℕ
  printable : Bool

def Text.needed (max : ℕ) : Text := ⟨true, max, true⟩

def Text.optional (max : ℕ) : Text := ⟨false, max, true⟩

/-- The tokens of Portos have control characters. -/
def Text.optionalTokens (max : ℕ) : Text := ⟨false, max, false⟩

/-- A string of `1..=max` characters. -/
def string (obj : Fields) (path key : String) (rule : Text) : List String :=
  let field := s!"{path}.{key}"
  match obj.lookup key with
  | none | some .null => if rule.required then [fail field "is required"] else []
  | some (.str s) =>
    if isBlank s then [fail field "must not be empty"]
    else if rule.max < s.length then
      [fail field s!"must have at most {rule.max} characters"]
    else if rule.printable && s.toList.any isControl then
      [fail field "must not contain control characters"]
    else []
  | some _ => [fail field "must be a string"]

/-- Number rule. -/
structure Num where
  required : Bool
  nullable : Bool
  places : ℕ
  nonNegative : Bool

def Num.needed (places : ℕ) : Num := ⟨true, false, places, false⟩

def Num.optional (places : ℕ) : Num := { Num.needed places with required := false }

variable (reads : FiscalReads)

/-- The lowest number, as it is printed. -/
def Num.low (rule : Num) : String := if rule.nonNegative then "0" else s!"-{MAX_ABS_AMOUNT}"

/-- The number is too far from zero, or on the wrong side of it. -/
def Num.outside (rule : Num) (x : ℚ) : Bool :=
  decide ((MAX_ABS_AMOUNT : ℚ) < |x|) || (rule.nonNegative && decide (x < 0))

/-- A number in `-MAX..=MAX` (or `0..=MAX`) with at most `places` decimals.  Every number of the
parser is a finite double. -/
def number (obj : Fields) (path key : String) (rule : Num) : List String :=
  let field := s!"{path}.{key}"
  match obj.lookup key with
  | none => if rule.required then [fail field "is required"] else []
  | some .null => if rule.nullable then [] else [fail field "must be a number"]
  | some (.num n) =>
    if !reads.hasAtMostDecimals n.asF64 rule.places then
      [fail field s!"must have at most {rule.places} decimal places"]
    else if rule.outside n.asF64 then
      let low := rule.low
      [fail field s!"must be between {low} and {MAX_ABS_AMOUNT}"]
    else []
  | some _ => [fail field "must be a number"]

/-- One of `allowed`, up to the case of ASCII letters, as Portos reads it. -/
def oneOf (obj : Fields) (path key : String) (allowed : List String) (required : Bool) :
    List String :=
  let field := s!"{path}.{key}"
  let names := String.intercalate ", " allowed
  match obj.lookup key with
  | none | some .null => if required then [fail field "is required"] else []
  | some (.str s) =>
    if allowed.any fun a => eqIgnoreAsciiCase a s then []
    else [fail field s!"must be one of {names}"]
  | some _ => [fail field s!"must be one of {names}"]

/-- An optional customer or seller. -/
def party (obj : Fields) (path key : String) (types : List String) : List String :=
  let field := s!"{path}.{key}"
  match obj.lookup key with
  | none | some .null => []
  | some v => object v field fun party =>
    onlyKeys party field ["id", "type"] ++ string party field "id" (.needed 64) ++
      oneOf party field "type" types true

def cashRegisterCode (obj : Fields) (path key : String) : List String :=
  let field := s!"{path}.{key}"
  let wrong := fail field "must be the 16-17 digit cash register (ORP) code"
  match obj.lookup key with
  | none | some .null => [fail field "is required"]
  | some (.str code) => if cashRegisterCodeOk code then [] else [wrong]
  | some _ => [wrong]

end Checker

def ITEM_TYPES : List String :=
  ["Positive", "ReturnedContainer", "Returned", "Correction", "Discount", "Advance", "Voucher"]

def TAX_FREE_REASONS : List String :=
  ["VATReverseCharge", "VATExemptionGood", "TravelAgency", "UsedGood", "Artwork",
    "CollectiblesAndAntiques"]

def CUSTOMER_ID_TYPES : List String := ["ICO", "DIC", "ICDPH", "Other"]

def SELLER_ID_TYPES : List String := ["DIC", "ICDPH"]

def PRINTER_NAMES : List String := ["pos", "pdf", "email"]

def DRAWER_PINS : List String := ["Pin2", "Pin5"]

section Check

open Checker

variable (reads : FiscalReads) (now : ℤ)

/-- The options of a print context, which are Portos' own. -/
def checkOptions (p : Fields) : List String :=
  match p.lookup "options" with
  | none | some .null => []
  | some options => object options "payload.print.options" fun _ => []

/-- The print context of a receipt; a paragón takes none. -/
def checkPrint (obj : Fields) (kind : ReceiptKind) : List String :=
  match obj.lookup "print" with
  | none | some .null => []
  | some print =>
    if kind = .paragon then
      [fail "payload.print" "is not allowed for a paragon (a paragón takes no print context)"]
    else
      object print "payload.print" fun p =>
        onlyKeys p "payload.print" ["printerName", "options"] ++
          oneOf p "payload.print" "printerName" PRINTER_NAMES true ++ checkOptions p

/-- The type of a receipt is left out, or the one of the job. -/
def checkReceiptType (data : Fields) (path : String) (kind : ReceiptKind) : List String :=
  let field := s!"{path}.receiptType"
  let name := kind.receiptType
  let wrong := fail field s!"must be {name} (or left out)"
  match data.lookup "receiptType" with
  | none | some .null => []
  | some (.str s) => if eqIgnoreAsciiCase s name then [] else [wrong]
  | some _ => [wrong]

def ISSUE_DATE_FORMAT : String :=
  "must be a date and time with its UTC offset (RFC 3339, e.g. 2026-10-23T19:00:22+02:00)"

/-- Why a paragón's `issueDate` is refused, if it is. -/
def issueDateProblem (value : Option Json) : Option String :=
  match value with
  | none | some .null => some "is required"
  | some (.str s) =>
    match reads.parseRfc3339 s with
    | some written =>
      if now < written then some "must not be later than now (the store PC's clock)" else none
    | none => some ISSUE_DATE_FORMAT
  | some _ => some ISSUE_DATE_FORMAT

def checkParagonNumber (data : Fields) (path : String) : List String :=
  let field := s!"{path}.paragonNumber"
  match data.lookup "paragonNumber" with
  | none | some .null => [fail field "is required"]
  | some n =>
    if n.asU64.any fun n => decide (1 ≤ n ∧ n ≤ MAX_PARAGON_NUMBER) then []
    else [fail field s!"must be a whole number between 1 and {MAX_PARAGON_NUMBER}"]

/-- A paragón's own two keys: when it was written and its number. -/
def checkParagon (data : Fields) (path : String) : List String :=
  ((issueDateProblem reads now (data.lookup "issueDate")).map
      (fail s!"{path}.issueDate")).toList ++ checkParagonNumber data path

/-- The quantity of an item. -/
def checkQuantity (it : Fields) (ipath : String) : List String :=
  let qpath := s!"{ipath}.quantity"
  match it.lookup "quantity" with
  | none | some .null => [fail qpath "is required"]
  | some q => object q qpath fun q =>
    onlyKeys q qpath ["amount", "unit"] ++
      number reads q qpath "amount" { Num.needed 4 with nonNegative := true } ++
      string q qpath "unit" (.optional 3)

def ITEM_KEYS : List String :=
  ["type", "name", "price", "unitPrice", "quantity", "referenceReceiptId", "vatRate",
    "specialRegulation", "voucherNumber", "seller", "description"]

/-- One item. -/
def checkItem (item : Json) (ipath : String) : List String :=
  object item ipath fun it =>
    onlyKeys it ipath ITEM_KEYS ++ oneOf it ipath "type" ITEM_TYPES true ++
      string it ipath "name" (.needed MAX_NAME_CHARS) ++
      number reads it ipath "price" (.needed 2) ++
      number reads it ipath "unitPrice" (.needed 6) ++
      number reads it ipath "vatRate" { Num.optional 2 with nullable := true } ++
      string it ipath "referenceReceiptId" (.optional MAX_NAME_CHARS) ++
      oneOf it ipath "specialRegulation" TAX_FREE_REASONS false ++
      string it ipath "voucherNumber" (.optional 50) ++
      string it ipath "description" (.optionalTokens MAX_FREE_TEXT_CHARS) ++
      party it ipath "seller" SELLER_ID_TYPES ++ checkQuantity reads it ipath

def checkItems (data : Fields) (path : String) : List String :=
  let field := s!"{path}.items"
  match data.lookup "items" with
  | some (.arr items) =>
    if items.isEmpty then [fail field "must not be empty"]
    else (items.zipIdx.map fun (item, i) => checkItem reads item s!"{field}[{i}]").flatten
  | none | some .null => [fail field "is required"]
  | some _ => [fail field "must be a list"]

def checkPayments (data : Fields) (path : String) : List String :=
  let field := s!"{path}.payments"
  match data.lookup "payments" with
  | none | some .null => []
  | some (.arr payments) =>
    (payments.zipIdx.map fun (payment, i) =>
      let ppath := s!"{field}[{i}]"
      object payment ppath fun p =>
        onlyKeys p ppath ["name", "amount"] ++
          string p ppath "name" (.needed MAX_NAME_CHARS) ++
          number reads p ppath "amount" (.needed 2)).flatten
  | some _ => [fail field "must be a list"]

/-- The keys of the data of a sale. -/
def SALE_KEYS : List String :=
  ["items", "payments", "roundingAmount", "receiptType", "headerText", "footerText",
    "cashRegisterCode"]

/-- The rest of the data of a sale; `more` are the keys that a kind has for itself. -/
def checkSale (data : Fields) (path : String) (more : List String) : List String :=
  onlyKeys data path (SALE_KEYS ++ more) ++
    number reads data path "roundingAmount" (.optional 2) ++ checkItems reads data path ++
    checkPayments reads data path

/-- The fields of the data of a receipt. -/
def checkDataFields (data : Fields) (kind : ReceiptKind) : List String :=
  let path := "payload.data"
  Checker.cashRegisterCode data path "cashRegisterCode" ++
    string data path "headerText" (.optionalTokens MAX_FREE_TEXT_CHARS) ++
    string data path "footerText" (.optionalTokens MAX_FREE_TEXT_CHARS) ++
    checkReceiptType data path kind ++
    match kind with
    | .deposit | .withdraw =>
      onlyKeys data path
          ["amount", "receiptType", "headerText", "footerText", "cashRegisterCode"] ++
        number reads data path "amount" (.needed 2)
    | .cashRegister =>
      party data path "customer" CUSTOMER_ID_TYPES ++ checkSale reads data path ["customer"]
    | .paragon =>
      checkParagon reads now data path ++
        checkSale reads data path ["issueDate", "paragonNumber"]
    | .invalid => checkSale reads data path []

/-- The data of a receipt. -/
def checkData (obj : Fields) (kind : ReceiptKind) : List String :=
  match obj.lookup "data" with
  | none => [fail "payload.data" "is required"]
  | some data => object data "payload.data" fun data => checkDataFields reads now data kind

def checkRegister (obj : Fields) (kind : ReceiptKind) : List String :=
  onlyKeys obj "payload" ["data", "print"] ++ checkPrint obj kind ++ checkData reads now obj kind

/-- The keys that name a receipt by its number. -/
def NUMBER_KEYS : List String := ["year", "month", "receiptNumber"]

/-- In how many ways the keys name a receipt. -/
def waysOf (keys : List String) : ℕ :=
  (if keys.contains "externalId" then 1 else 0) + (if keys.contains "id" then 1 else 0) +
    if NUMBER_KEYS.any keys.contains then 1 else 0

/-- One of the numbers that name a receipt. -/
def checkWhole (obj : Fields) (key : String) (low high : ℤ) : List String :=
  if ((obj.lookup key).bind Json.asI64).any fun n => decide (low ≤ n ∧ n ≤ high) then []
  else [fail s!"payload.{key}" s!"must be a whole number between {low} and {high}"]

def COPY_KEYS : List String :=
  ["cashRegisterCode", "externalId", "id", "year", "month", "receiptNumber"]

def ONE_WAY : String :=
  "must name the receipt exactly one way: externalId, id, or year + month + receiptNumber"

def checkPrintCopy (obj : Fields) : List String :=
  let path := "payload"
  let keys := obj.map Prod.fst
  onlyKeys obj path COPY_KEYS ++ Checker.cashRegisterCode obj path "cashRegisterCode" ++
    if waysOf keys ≠ 1 then [fail path ONE_WAY]
    else if keys.contains "externalId" then
      string obj path "externalId" (.needed MAX_EXTERNAL_ID_CHARS)
    else if keys.contains "id" then
      if ((obj.lookup "id").bind Json.asStr).any uuidOk then []
      else [fail "payload.id" "must be the Portos request id (a UUID)"]
    else
      checkWhole obj "year" 2019 9999 ++ checkWhole obj "month" 1 12 ++
        checkWhole obj "receiptNumber" 1 4294967295

/-- What is wrong with the fields of a payload. -/
def checkFields (op : FiscalOp) (payload : Json) (obj : Fields) : List String :=
  match op with
  | .register kind => checkRegister reads now obj kind
  | .printCopy => checkPrintCopy obj
  | .openDrawer => onlyKeys obj "payload" ["pin"] ++ oneOf obj "payload" "pin" DRAWER_PINS false
  | .printText => checkPrintText payload obj

/-- `check_payload_at`: the problems, joined; `now` is the clock of the PC. -/
def checkPayload (op : FiscalOp) (payload : Json) : Except String Unit :=
  let problems := object payload "payload" fun obj => checkFields reads now op payload obj
  if problems.isEmpty then .ok () else .error (String.intercalate "; " problems)

end Check

def PRINT_COPY_PATH : String := "/api/v1/requests/receipts/print_copy"

def OPEN_DRAWER_PATH : String := "/api/v1/printers/open_drawer"

def PRINT_TEXT_PATH : String := "/api/v1/printers/print"

/-- Path, query and body of a request that leaves no fiscal record. -/
def controlRequest (op : FiscalOp) (payload : Json) :
    String × List (String × String) × Option Json :=
  match op with
  | .openDrawer => (OPEN_DRAWER_PATH, drawerQuery payload, none)
  | .printText => (PRINT_TEXT_PATH, [], some (printTextBody payload))
  | .printCopy | .register _ => (PRINT_COPY_PATH, copyQuery payload, none)

end DevBridge

import DevBridge.Lib.Grammar
import DevBridge.Portos.Checker

/-!
# The grammar of the fiscal payloads

For every fiscal operation: the keys at every level of its payload, and the rules of their
values.  A rule speaks of the value of one field alone; the rules of a field are asked in order,
each of the values that keep the earlier ones.
-/

namespace DevBridge

instance : Parts Json where
  fields
    | .obj fields => some fields
    | _ => none
  items
    | .arr items => some items
    | _ => none

/-- A field that is left out, or null. -/
def absent : Option Json → Bool
  | none | some .null => true
  | _ => false

namespace Fiscal

open Grammar

/-! ### Rules -/

/-- A rule of the values of one kind: a string, a number, a list, and so on. -/
def ruleOn {α : Type} (kind : Json → Option α) (text : String) (test : α → Bool) : Rule Json :=
  ⟨text, fun v => (v.bind kind).any test⟩

/-- The rule, of a field that is neither left out nor null. -/
def ifGiven : Rule Json → Rule Json := Rule.sparing absent

/-- The rule, of a field that is not left out. -/
def ifPresent : Rule Json → Rule Json := Rule.sparing Option.isNone

/-- The rule, of an object. -/
def ifObject : Rule Json → Rule Json := Rule.sparing fun v => !v.any Json.isObject

def required : Rule Json := ⟨"is required", fun v => !absent v⟩

def present : Rule Json := ⟨"is required", Option.isSome⟩

def anObject : Rule Json := ⟨"must be an object", fun v => v.any Json.isObject⟩

def aList : Rule Json := ruleOn Json.asArray "must be a list" fun _ => true

def nonempty : Rule Json := ruleOn Json.asArray "must not be empty" fun xs => !xs.isEmpty

def aString : Rule Json := ruleOn Json.asStr "must be a string" fun _ => true

def filled : Rule Json := ruleOn Json.asStr "must not be empty" fun s => !isBlank s

def most (max : ℕ) : Rule Json :=
  ruleOn Json.asStr s!"must have at most {max} characters" fun s => decide (s.length ≤ max)

def noControl : Rule Json :=
  ruleOn Json.asStr "must not contain control characters" fun s => !s.toList.any isControl

/-- The rules of a string. -/
def text (rule : Checker.Text) : List (Rule Json) :=
  let rules := [aString, filled, most rule.max] ++ if rule.printable then [noControl] else []
  if rule.required then required :: rules else rules.map ifGiven

/-- A number, as a double. -/
def double : Json → Option ℚ
  | .num n => some n.asF64
  | _ => none

def aNumber : Rule Json := ruleOn double "must be a number" fun _ => true

def decimals (reads : FiscalReads) (places : ℕ) : Rule Json :=
  ruleOn double s!"must have at most {places} decimal places" fun x =>
    reads.hasAtMostDecimals x places

def between (rule : Checker.Num) : Rule Json :=
  let low := rule.low
  ruleOn double s!"must be between {low} and {MAX_ABS_AMOUNT}" fun x => !rule.outside x

/-- The rules of a number. -/
def num (reads : FiscalReads) (rule : Checker.Num) : List (Rule Json) :=
  let rules := [aNumber, decimals reads rule.places, between rule]
  let rules := if rule.nullable then rules.map ifGiven else rules
  if rule.required then present :: rules else rules.map ifPresent

/-- One of some names, up to the case of ASCII letters. -/
def oneOf (allowed : List String) : Rule Json :=
  let names := String.intercalate ", " allowed
  ruleOn Json.asStr s!"must be one of {names}" fun s => allowed.any fun a => eqIgnoreAsciiCase a s

/-- The rules of the code of a cash register. -/
def registerCode : List (Rule Json) :=
  [required,
    ruleOn Json.asStr "must be the 16-17 digit cash register (ORP) code" cashRegisterCodeOk]

/-- A whole number of a range, written as one. -/
def whole (low high : ℤ) : Rule Json :=
  ruleOn Json.asI64 s!"must be a whole number between {low} and {high}" fun n =>
    decide (low ≤ n ∧ n ≤ high)

/-! ### Receipts -/

/-- An object: its own rules, its keys and its fields. -/
def party (types : List String) : Grammar Json :=
  all [rules [ifGiven anObject], keys ["id", "type"], field "id" (rules (text (.needed 64))),
    field "type" (rules [required, oneOf types])]

variable (reads : FiscalReads) (now : ℤ)

def quantity : Grammar Json :=
  all [rules [required, anObject], keys ["amount", "unit"],
    field "amount" (rules (num reads { Checker.Num.needed 4 with nonNegative := true })),
    field "unit" (rules (text (.optional 3)))]

def item : Grammar Json :=
  all [rules [anObject], keys ITEM_KEYS,
    field "type" (rules [required, oneOf ITEM_TYPES]),
    field "name" (rules (text (.needed MAX_NAME_CHARS))),
    field "price" (rules (num reads (.needed 2))),
    field "unitPrice" (rules (num reads (.needed 6))),
    field "vatRate" (rules (num reads { Checker.Num.optional 2 with nullable := true })),
    field "referenceReceiptId" (rules (text (.optional MAX_NAME_CHARS))),
    field "specialRegulation" (rules [ifGiven (oneOf TAX_FREE_REASONS)]),
    field "voucherNumber" (rules (text (.optional 50))),
    field "description" (rules (text (.optionalTokens MAX_FREE_TEXT_CHARS))),
    field "seller" (party SELLER_ID_TYPES), field "quantity" (quantity reads)]

def itemList : Grammar Json := all [rules [required, aList, nonempty], items (item reads)]

def payment : Grammar Json :=
  all [rules [anObject], keys ["name", "amount"],
    field "name" (rules (text (.needed MAX_NAME_CHARS))),
    field "amount" (rules (num reads (.needed 2)))]

def paymentList : Grammar Json := all [rules [ifGiven aList], items (payment reads)]

/-- The type of a receipt, which may be left out. -/
def receiptType (kind : ReceiptKind) : Rule Json :=
  let name := kind.receiptType
  ifGiven (ruleOn Json.asStr s!"must be {name} (or left out)" fun s => eqIgnoreAsciiCase s name)

/-- The fields that the data of every receipt has. -/
def dataHead (kind : ReceiptKind) : List (Grammar Json) :=
  [rules [present, anObject], field "cashRegisterCode" (rules registerCode),
    field "headerText" (rules (text (.optionalTokens MAX_FREE_TEXT_CHARS))),
    field "footerText" (rules (text (.optionalTokens MAX_FREE_TEXT_CHARS))),
    field "receiptType" (rules [receiptType kind])]

/-- The fields that the data of every sale has. -/
def sale (more : List String) : List (Grammar Json) :=
  [keys (SALE_KEYS ++ more), field "roundingAmount" (rules (num reads (.optional 2))),
    field "items" (itemList reads), field "payments" (paymentList reads)]

/-- When a paragón was written. -/
def issueDate : List (Rule Json) :=
  [required,
    ruleOn Json.asStr ISSUE_DATE_FORMAT fun s => (reads.parseRfc3339 s).isSome,
    ruleOn (fun v => v.asStr.bind reads.parseRfc3339)
      "must not be later than now (the store PC's clock)" fun written => decide (written ≤ now)]

/-- The number of a paragón. -/
def paragonNumber : List (Rule Json) :=
  [required,
    ruleOn Json.asU64 s!"must be a whole number between 1 and {MAX_PARAGON_NUMBER}" fun n =>
      decide (1 ≤ n ∧ n ≤ MAX_PARAGON_NUMBER)]

/-- The data of a receipt. -/
def data (kind : ReceiptKind) : Grammar Json :=
  match kind with
  | .deposit | .withdraw =>
    all (dataHead kind ++
      [keys ["amount", "receiptType", "headerText", "footerText", "cashRegisterCode"],
        field "amount" (rules (num reads (.needed 2)))])
  | .cashRegister =>
    all (dataHead kind ++ field "customer" (party CUSTOMER_ID_TYPES) :: sale reads ["customer"])
  | .paragon =>
    all (dataHead kind ++ field "issueDate" (rules (issueDate reads now)) ::
      field "paragonNumber" (rules paragonNumber) :: sale reads ["issueDate", "paragonNumber"])
  | .invalid => all (dataHead kind ++ sale reads [])

/-- The print context: none for a paragón, and options that are Portos' own. -/
def print (kind : ReceiptKind) : Grammar Json :=
  if kind = .paragon then
    rules [⟨"is not allowed for a paragon (a paragón takes no print context)", absent⟩]
  else
    all [rules [ifGiven anObject], keys ["printerName", "options"],
      field "printerName" (rules [required, oneOf PRINTER_NAMES]),
      field "options" (all [rules [ifGiven anObject], free])]

def receipt (kind : ReceiptKind) : Grammar Json :=
  all [rules [anObject], keys ["data", "print"], field "print" (print kind),
    field "data" (data reads now kind)]

/-! ### The other operations -/

/-- The keys of an object. -/
def keysOf (v : Option Json) : List String := ((v.bind Parts.fields).getD []).map Prod.fst

/-- The receipt is named in one way. -/
def oneWay : Rule Json := ⟨ONE_WAY, fun v => waysOf (keysOf v) == 1⟩

/-- The rows for the way in which some keys name a receipt. -/
def copyWay (keys : List String) : List (Grammar Json) :=
  if waysOf keys ≠ 1 then []
  else if keys.contains "externalId" then
    [field "externalId" (rules (text (.needed MAX_EXTERNAL_ID_CHARS)))]
  else if keys.contains "id" then
    [field "id" (rules [ruleOn Json.asStr "must be the Portos request id (a UUID)" uuidOk])]
  else
    [field "year" (rules [whole 2019 9999]), field "month" (rules [whole 1 12]),
      field "receiptNumber" (rules [whole 1 4294967295])]

/-- A copy of a receipt; which rows there are depends on its keys. -/
def copy (names : List String) : Grammar Json :=
  all ([rules [anObject], keys COPY_KEYS, field "cashRegisterCode" (rules registerCode),
    rules [ifObject oneWay]] ++ copyWay names)

def drawer : Grammar Json :=
  all [rules [anObject], keys ["pin"], field "pin" (rules [ifGiven (oneOf DRAWER_PINS)])]

def lineWidth : Rule Json :=
  let width := PRINT_TEXT_WIDTH
  ruleOn Json.asStr s!"must have at most {width} characters" fun s =>
    decide (s.length ≤ PRINT_TEXT_WIDTH)

def linePlain : Rule Json :=
  ruleOn Json.asStr "must not contain control or format characters" fun s =>
    !s.toList.any fun c => isControl c || isFormatChar c

/-- The rules of the list of lines. -/
def lineList : List (Rule Json) :=
  let most := PRINT_TEXT_MAX_LINES
  [required, aList, nonempty, ruleOn Json.asArray s!"must have at most {most} items" fun xs =>
    decide (xs.length ≤ PRINT_TEXT_MAX_LINES)]

/-- There are more lines than are looked at. -/
def tooMany (v : Json) : Bool :=
  ((v.get "lines").bind Json.asArray).any fun xs => decide (PRINT_TEXT_MAX_LINES < xs.length)

/-- A printed text; of too many lines none is looked at. -/
def printText (many : Bool) : Grammar Json :=
  all [rules [anObject], keys ["title", "lines", "cut"],
    field "title" (rules [required, aString, filled, lineWidth, linePlain]),
    field "lines" (all (rules lineList ::
      if many then [] else [items (rules [aString, lineWidth, linePlain])])),
    field "cut" (rules [ruleOn Json.asBool "must be true or false" fun _ => true])]

/-- The grammar of the payloads of an operation. -/
def payload (op : FiscalOp) (v : Json) : Grammar Json :=
  match op with
  | .register kind => receipt reads now kind
  | .printCopy => copy (keysOf (some v))
  | .openDrawer => drawer
  | .printText => printText (tooMany v)

end Fiscal

end DevBridge

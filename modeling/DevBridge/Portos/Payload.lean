import DevBridge.Api

/-!
# The `fiscal.*` jobs

What a fiscal job asks Portos to do, the key that makes a receipt unique, and the bodies and
queries of the requests.
-/

namespace DevBridge

/-- A receipt that Portos registers. -/
inductive ReceiptKind where
  | cashRegister
  | invalid
  | deposit
  | withdraw
  /-- A paper paragón that is registered later. -/
  | paragon
deriving DecidableEq, Repr

namespace ReceiptKind

/-- The register endpoint. -/
def path : ReceiptKind → String
  | cashRegister => "/api/v1/requests/receipts/cash_register"
  | invalid => "/api/v1/requests/receipts/invalid"
  | deposit => "/api/v1/requests/receipts/deposit"
  | withdraw => "/api/v1/requests/receipts/withdraw"
  | paragon => "/api/v1/requests/receipts/paragon"

/-- Portos' name of the kind. -/
def receiptType : ReceiptKind → String
  | cashRegister => "CashRegister"
  | invalid => "Invalid"
  | deposit => "Deposit"
  | withdraw => "Withdraw"
  | paragon => "Paragon"

end ReceiptKind

/-- What a fiscal job asks Portos to do. -/
inductive FiscalOp where
  /-- Register a receipt. -/
  | register (kind : ReceiptKind)
  /-- Print a copy of a registered receipt. -/
  | printCopy
  | openDrawer
  /-- Print a text that is no receipt. -/
  | printText
deriving DecidableEq, Repr

def FiscalOp.forJobType (jobType : String) : Option FiscalOp :=
  if jobType = "fiscal.cash_register" then some (.register .cashRegister)
  else if jobType = "fiscal.invalid" then some (.register .invalid)
  else if jobType = "fiscal.deposit" then some (.register .deposit)
  else if jobType = "fiscal.withdraw" then some (.register .withdraw)
  else if jobType = "fiscal.paragon" then some (.register .paragon)
  else if jobType = "fiscal.print_copy" then some .printCopy
  else if jobType = "fiscal.open_drawer" then some .openDrawer
  else if jobType = "fiscal.print_text" then some .printText
  else none

/-- The key of a receipt: it depends on the till and the `client_uuid` of the operation only,
so every path that may register the receipt computes the same one.  `sha256Hex` is the
lower-case hex text of the digest. -/
def externalId (sha256Hex : String → String) (kasaId : ℤ) (clientUuid : String) : String :=
  let digest := sha256Hex s!"{kasaId}:{clientUuid}"
  "dbj-" ++ String.ofList (digest.toList.take 32)

/-- `[A-Za-z0-9_-]{1,64}`. -/
def clientUuidOk (clientUuid : String) : Bool :=
  let chars := clientUuid.toList
  decide (1 ≤ chars.length ∧ chars.length ≤ 64) &&
    chars.all fun c => c.isAlphanum || c == '_' || c == '-'

/-- The cash register (ORP) code that a payload names. -/
def cashRegisterCode (op : FiscalOp) (payload : Json) : Option String :=
  (match op with
    | .register _ => payload.pointer ["data", "cashRegisterCode"]
    | .printCopy => payload.get "cashRegisterCode"
    | .openDrawer | .printText => none).bind Json.asStr

/-- The body of a register request: the key is always the bridge's own. -/
def registerBody (payload : Json) (externalId : String) : Json :=
  let request := ("request", Json.obj
    [("data", (payload.get "data").getD .null), ("externalId", .str externalId)])
  match (payload.get "print").filter fun p => !p.isNull with
  | some print => .obj [("print", print), request]
  | none => .obj [request]

/-- The query of a `print_copy` request. -/
def copyQuery (payload : Json) : List (String × String) :=
  [("cashRegisterCode", "CashRegisterCode"), ("externalId", "ExternalId"), ("id", "Id"),
    ("year", "Year"), ("month", "Month"), ("receiptNumber", "ReceiptNumber")].filterMap
    fun (key, param) =>
      match payload.get key with
      | some (.str s) => some (param, s)
      | some (.num n) => some (param, n.toText)
      | _ => none

/-- The query of an `open_drawer` request. -/
def drawerQuery (payload : Json) : List (String × String) :=
  match (payload.get "pin").bind Json.asStr with
  | some pin => [("pin", pin)]
  | none => []

/-- Portos' token for the paper cutter. -/
def PAGE_BREAK_TOKEN : String := "\x1apagebreak\x1a"

/-- The body of a `printers/print` request: the title and the lines, one a row. -/
def printTextBody (payload : Json) : Json :=
  let title := ((payload.get "title").bind Json.asStr).toList
  let lines := (((payload.get "lines").bind Json.asArray).getD []).filterMap Json.asStr
  let text := String.intercalate "\n" (title ++ lines)
  let cut := (payload.get "cut").bind Json.asBool == some true
  .obj [("contentFlags", .arr []), ("text", .str (if cut then text ++ PAGE_BREAK_TOKEN else text))]

end DevBridge

import Mathlib.Tactic
import DevBridge.Lib.F64

/-!
# JSON values

The values the bridge exchanges with Odoo, the tills and Portos, and keeps in its journal.
A number is an integer or a double; a double carries the text it prints as.

The journal stores a value as its text.  Everything but a double reads back as it was written.
A double may read back as another one: the JSON library rounds the digits of a text and their
power of ten one after the other.  What it makes of a double's text is not code of the bridge,
so the reading of a text takes it as a parameter.
-/

namespace DevBridge

/-- A JSON number: an integer, or a double with the text it prints as. -/
inductive Number where
  | int (n : ℤ)
  | float (value : ℚ) (text : String)
deriving DecidableEq, Repr

/-- A JSON value.  The fields of an object have distinct keys, in the order of the keys. -/
inductive Json where
  | null
  | bool (b : Bool)
  | num (n : Number)
  | str (s : String)
  | arr (items : List Json)
  | obj (fields : List (String × Json))
deriving Repr

instance : Inhabited Json := ⟨Json.null⟩

namespace Number

/-- `Number::to_string`. -/
def toText : Number → String
  | int n => toString n
  | float _ text => text

/-- `Number::as_i64`: an integer that fits 64 bits with a sign. -/
def asI64 : Number → Option ℤ
  | int n => if -2 ^ 63 ≤ n ∧ n < 2 ^ 63 then some n else none
  | float _ _ => none

/-- `Number::as_u64`: an integer that fits 64 bits without a sign. -/
def asU64 : Number → Option ℕ
  | int n => if 0 ≤ n ∧ n < 2 ^ 64 then some n.toNat else none
  | float _ _ => none

/-- `Number::as_f64`. -/
def asF64 : Number → ℚ
  | int n => F64.ofInt n
  | float value _ => value

/-- What a number reads back as from its text: `read` is the library's reading of doubles. -/
def reread (read : Number → Number) : Number → Number
  | int n => int n
  | float value text => read (float value text)

end Number

namespace Json

/-! ### Equality -/

mutual
/-- Equality of two values, as a test. -/
def beq : Json → Json → Bool
  | null, null => true
  | bool a, bool b => a == b
  | num a, num b => a == b
  | str a, str b => a == b
  | arr a, arr b => beqItems a b
  | obj a, obj b => beqFields a b
  | _, _ => false

/-- Equality of two lists of values, as a test. -/
def beqItems : List Json → List Json → Bool
  | [], [] => true
  | a :: as, b :: bs => beq a b && beqItems as bs
  | _, _ => false

/-- Equality of two lists of fields, as a test. -/
def beqFields : List (String × Json) → List (String × Json) → Bool
  | [], [] => true
  | (k, a) :: as, (l, b) :: bs => k == l && beq a b && beqFields as bs
  | _, _ => false
end

mutual
theorem beq_iff : ∀ a b : Json, beq a b = true ↔ a = b
  | null, b => by cases b <;> simp [beq]
  | bool a, b => by cases b <;> simp [beq]
  | num a, b => by cases b <;> simp [beq]
  | str a, b => by cases b <;> simp [beq]
  | arr a, b => by cases b <;> simp [beq, beqItems_iff a]
  | obj a, b => by cases b <;> simp [beq, beqFields_iff a]

theorem beqItems_iff : ∀ a b : List Json, beqItems a b = true ↔ a = b
  | [], b => by cases b <;> simp [beqItems]
  | a :: as, b => by
    cases b with
    | nil => simp [beqItems]
    | cons b bs => simp [beqItems, beq_iff a b, beqItems_iff as bs]

theorem beqFields_iff : ∀ a b : List (String × Json), beqFields a b = true ↔ a = b
  | [], b => by cases b <;> simp [beqFields]
  | (k, a) :: as, b => by
    cases b with
    | nil => simp [beqFields]
    | cons b bs =>
      obtain ⟨l, b⟩ := b
      simp [beqFields, beq_iff a b, beqFields_iff as bs]
end

instance : DecidableEq Json := fun a b => decidable_of_iff _ (beq_iff a b)

/-! ### Access -/

/-- `Value::get` with a field name: `none` on everything but an object with that field. -/
def get (v : Json) (field : String) : Option Json :=
  match v with
  | obj fields => fields.lookup field
  | _ => none

/-- `Value::pointer` along field names. -/
def pointer (v : Json) : List String → Option Json
  | [] => some v
  | field :: path =>
    match v.get field with
    | some w => w.pointer path
    | none => none

def asBool : Json → Option Bool
  | bool b => some b
  | _ => none

def asStr : Json → Option String
  | str s => some s
  | _ => none

def asI64 : Json → Option ℤ
  | num n => n.asI64
  | _ => none

def asU64 : Json → Option ℕ
  | num n => n.asU64
  | _ => none

def asF64 : Json → Option ℚ
  | num n => some n.asF64
  | _ => none

def asArray : Json → Option (List Json)
  | arr items => some items
  | _ => none

def isObject : Json → Bool
  | obj _ => true
  | _ => false

def isNumber : Json → Bool
  | num _ => true
  | _ => false

def isNull : Json → Bool
  | null => true
  | _ => false

/-- A JSON integer. -/
def ofInt (n : ℤ) : Json := num (.int n)

/-- `value_shape`: what an error says of a value it must not quote. -/
def shape : Json → String
  | obj fields => "object \x7b" ++ String.intercalate ", " (fields.map Prod.fst) ++ "\x7d"
  | arr items => s!"array of {items.length}"
  | str _ => "string"
  | num _ => "number"
  | bool _ => "bool"
  | null => "null"

/-! ### The text of a value, read back -/

mutual
/-- What a value reads back as from its text. -/
def reread (read : Number → Number) : Json → Json
  | null => null
  | bool b => bool b
  | num n => num (n.reread read)
  | str s => str s
  | arr items => arr (rereadItems read items)
  | obj fields => obj (rereadFields read fields)

/-- The elements of an array, read back. -/
def rereadItems (read : Number → Number) : List Json → List Json
  | [] => []
  | v :: vs => reread read v :: rereadItems read vs

/-- The fields of an object, read back: their names are as before. -/
def rereadFields (read : Number → Number) : List (String × Json) → List (String × Json)
  | [] => []
  | (k, v) :: fields => (k, reread read v) :: rereadFields read fields
end

lemma lookup_rereadFields (read : Number → Number) (field : String) :
    ∀ fields, (rereadFields read fields).lookup field = (fields.lookup field).map (reread read)
  | [] => rfl
  | (k, v) :: fields => by
    rw [rereadFields, List.lookup_cons, List.lookup_cons]
    cases field == k with
    | true => rfl
    | false => exact lookup_rereadFields read field fields

/-- A field of a value that was read back. -/
lemma get_reread (read : Number → Number) (v : Json) (field : String) :
    (v.reread read).get field = (v.get field).map (reread read) := by
  cases v with
  | obj fields => exact lookup_rereadFields read field fields
  | _ => rfl

end Json

end DevBridge

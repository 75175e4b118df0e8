import PhoneTree.Text.Decimal

namespace PhoneTree

/-- A JSON value. A number is kept as it was spelled, and fields keep their order. -/
inductive Json
  | null
  | bool (value : Bool)
  | number (literal : String)
  | text (value : String)
  | list (items : List Json)
  | object (fields : List (String × Json))
  deriving Inhabited

namespace Json

def ofNat (n : Nat) : Json :=
  number (Text.Decimal.text n)

def ofInt (i : Int) : Json :=
  number (Text.Decimal.ofInt i)

/-- The value of what may be absent; null stands for nothing. -/
def ofOption {α : Type} (write : α → Json) : Option α → Json
  | some a => write a
  | none => null

/-- The first field of a name; a null field counts as absent. -/
def field? (json : Json) (name : String) : Option Json :=
  match json with
  | object fields =>
      match (fields.find? fun field => field.1 == name).map (·.2) with
      | some null => none
      | found => found
  | _ => none

def text? : Json → Option String
  | text value => some value
  | _ => none

def bool? : Json → Option Bool
  | bool value => some value
  | _ => none

def list? : Json → Option (List Json)
  | list items => some items
  | _ => none

def object? : Json → Option (List (String × Json))
  | object fields => some fields
  | _ => none

/-- The integer of a literal without a point and an exponent. -/
def int? : Json → Option Int
  | number literal =>
      match literal.toList with
      | '-' :: digits => (Text.Decimal.ofDigits? digits).map fun n => -(n : Int)
      | digits => (Text.Decimal.ofDigits? digits).map Int.ofNat
  | _ => none

/-- The number of a literal without a sign, a point and an exponent. -/
def nat? : Json → Option Nat
  | number literal => Text.Decimal.ofDigits? literal.toList
  | _ => none

end Json

end PhoneTree

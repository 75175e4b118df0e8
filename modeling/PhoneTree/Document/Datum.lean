import PhoneTree.Json.Reader
import PhoneTree.Text.Scientific
import PhoneTree.Yaml.Node

namespace PhoneTree

/-- What a scalar was resolved to. Integers beyond 64 bits are set apart: nothing holds them. -/
inductive ScalarKind
  | null
  | truth (value : Bool)
  | integer (value : Int)
  | huge
  | real
  | word
  deriving DecidableEq, Inhabited

/-- A part of a document, the same for JSON and YAML. A scalar keeps its spelling beside its kind,
because a document may want either. -/
inductive Datum
  | scalar (kind : ScalarKind) (spelling : String)
  | list (items : List Datum)
  | fields (fields : List (Datum × Datum))
  deriving Inhabited

namespace ScalarKind

/-- The kind of a whole number, which is huge if 64 bits do not hold it. -/
def ofInt (value : Int) : ScalarKind :=
  if -(Nat.pow 2 63 : Nat) ≤ value && value < (Nat.pow 2 64 : Nat) then integer value else huge

/-- The kind of a JSON number, which must not exceed the doubles. Only integers that are written
without a point, an exponent and a negative zero count as such. -/
def ofJsonNumber? (literal : String) : Option ScalarKind :=
  let (negative, magnitude) := match literal.toList with
    | '-' :: rest => (true, rest)
    | chars => (false, chars)
  match Text.Decimal.ofDigits? magnitude with
  | some 0 => some (if negative then real else integer 0)
  | some n =>
      match ofInt (if negative then -(n : Int) else n) with
      | huge => if (Text.Scientific.mk n 0).isFinite then some real else none
      | kind => some kind
  | none =>
      (Text.Scientific.ofUnsigned? magnitude).bind fun number =>
        if number.isFinite then some real else none

end ScalarKind

namespace Datum

mutual

/-- The structured value of a JSON value. -/
def ofJson? : Json → Option Datum
  | .null => some (scalar .null "null")
  | .bool value => some (scalar (.truth value) (if value then "true" else "false"))
  | .number literal => (ScalarKind.ofJsonNumber? literal).map fun kind => scalar kind literal
  | .text value => some (scalar .word value)
  | .list items => (ofJsonItems? items).map list
  | .object pairs => (ofJsonFields? pairs).map fields

def ofJsonItems? : List Json → Option (List Datum)
  | [] => some []
  | item :: rest => do return (← ofJson? item) :: (← ofJsonItems? rest)

def ofJsonFields? : List (String × Json) → Option (List (Datum × Datum))
  | [] => some []
  | (name, value) :: rest => do
      return (scalar .word name, ← ofJson? value) :: (← ofJsonFields? rest)

end

end Datum

namespace Yaml

/-- Reads a number whose digits are all of the base. -/
def radixNumber? (base : Nat) (chars : List Char) : Option Nat :=
  if chars.isEmpty then none
  else chars.foldlM (fun total c => do
    let digit ← Text.Hex.value? c
    if digit < base then some (base * total + digit) else none) 0

/-- Whether a text is a run of digits with a leading zero, which is no number. -/
def isZeroPadded (chars : List Char) : Bool :=
  let unsigned := match chars with
    | '+' :: rest => rest
    | '-' :: rest => rest
    | chars => chars
  match unsigned with
  | '0' :: digit :: rest => (digit :: rest).all Text.Decimal.isDigit
  | _ => false

/-- The magnitude of an integer, whose base is announced by `0x`, `0o` or `0b`. -/
def magnitude? (chars : List Char) : Option Nat :=
  match chars with
  | '0' :: 'x' :: rest => radixNumber? 16 rest
  | '0' :: 'o' :: rest => radixNumber? 8 rest
  | '0' :: 'b' :: rest => radixNumber? 2 rest
  | chars => if isZeroPadded chars then none else Text.Decimal.ofDigits? chars

/-- The kind of a plain scalar that spells an integer of at most 128 bits. -/
def integerKind? (chars : List Char) : Option ScalarKind :=
  let (negative, unsigned) := match chars with
    | '-' :: rest => (true, rest)
    | '+' :: rest => (false, rest)
    | chars => (false, chars)
  (magnitude? unsigned).bind fun n =>
    if negative then if n ≤ Nat.pow 2 127 then some (.ofInt (-(n : Int))) else none
    else if n < Nat.pow 2 128 then some (.ofInt n) else none

/-- Whether a plain scalar spells a number that is no integer. -/
def isReal (chars : List Char) : Bool :=
  let unsigned := match chars with
    | '-' :: rest => rest
    | '+' :: rest => rest
    | chars => chars
  let isInfinity := [".inf", ".Inf", ".INF"].any fun word => word.toList == unsigned
  let isNan := [".nan", ".NaN", ".NAN"].any fun word => word.toList == chars
  isInfinity || isNan
    || (!isZeroPadded chars && (Text.Scientific.ofUnsigned? unsigned).any (·.isFinite))

/-- The kind of a plain scalar of YAML, which its spelling alone decides. -/
def plainKind (text : String) : ScalarKind :=
  if ["", "~", "null", "Null", "NULL"].contains text then .null
  else if ["true", "True", "TRUE"].contains text then .truth true
  else if ["false", "False", "FALSE"].contains text then .truth false
  else
    match integerKind? text.toList with
    | some kind => kind
    | none => if isReal text.toList then .real else .word

mutual

/-- The structured value of a node. -/
def Node.datum : Node → Datum
  | .scalar plain text => .scalar (if plain then plainKind text else .word) text
  | .list items => .list (datumItems items)
  | .fields pairs => .fields (datumFields pairs)

def Node.datumItems : List Node → List Datum
  | [] => []
  | item :: rest => item.datum :: datumItems rest

def Node.datumFields : List (Node × Node) → List (Datum × Datum)
  | [] => []
  | (key, value) :: rest => (key.datum, value.datum) :: datumFields rest

end

end Yaml

end PhoneTree

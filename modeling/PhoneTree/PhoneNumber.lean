import PhoneTree.Text.Blank
import PhoneTree.Text.Decimal

namespace PhoneTree.PhoneNumber

/-- The digits of a text, whatever stands between them. -/
def digits (text : String) : List Char :=
  text.toList.filter Text.Decimal.isDigit

/-- The country code in front of the digits of a number, unless they begin with it. -/
def withCountry (digits : List Char) : List Char :=
  match digits with
  | '1' :: _ => digits
  | _ => '1' :: digits

/-- The canonical form of a number with ten digits after the country code. -/
def normalize (raw : String) : Option String :=
  let number := withCountry (digits (Text.trim raw))
  if number.length = 11 then some (.ofList ('+' :: number)) else none

/-- Whether a number has a canonical form. -/
def isValid (raw : String) : Bool :=
  (normalize raw).isSome

/-- Whether a number is written as `+1` and ten digits. -/
def isCanonical (text : String) : Bool :=
  match text.toList with
  | '+' :: '1' :: rest => rest.length == 10 && rest.all Text.Decimal.isDigit
  | _ => false

/-- A number to be read by people, or the text itself if it is no number. -/
def display (raw : String) : String :=
  match normalize raw with
  | some number =>
      let rest := number.toList.drop 2
      .ofList ('(' :: rest.take 3 ++ ')' :: ' ' :: (rest.drop 3).take 3 ++ ' ' :: rest.drop 6)
  | none => raw

/-- What a caller is known by: the canonical form if there is one, else the trimmed text. -/
def key (raw : String) : String :=
  (normalize (Text.trim raw)).getD (Text.trim raw)

end PhoneTree.PhoneNumber

namespace PhoneTree.Text.Decimal

/-- Whether a character is one of `0` to `9`. -/
def isDigit (c : Char) : Bool :=
  '0' ≤ c && c ≤ '9'

def digitValue (c : Char) : Nat :=
  c.toNat - '0'.toNat

/-- The value of a run of digits, most significant first. -/
def value (digits : List Char) : Nat :=
  digits.foldl (fun total c => 10 * total + digitValue c) 0

/-- Reads a non-empty run of digits; leading zeros are allowed. -/
def ofDigits? (chars : List Char) : Option Nat :=
  if !chars.isEmpty && chars.all isDigit then some (value chars) else none

/-- Reads a non-empty run of digits that stays below a bound. -/
def below? (bound : Nat) (chars : List Char) : Option Nat :=
  (ofDigits? chars).filter (· < bound)

def toDigits (n : Nat) : List Char :=
  Nat.toDigits 10 n

/-- The shortest numeral of a number as a text. -/
def text (n : Nat) : String :=
  .ofList (toDigits n)

/-- The numeral of an integer, with a minus sign when it is negative. -/
def ofInt (i : Int) : String :=
  if i < 0 then .ofList ('-' :: toDigits i.natAbs) else text i.natAbs

/-- The decimal digits of a number, with zeros before them up to a width. -/
def padded (width n : Nat) : List Char :=
  let digits := toDigits n
  List.replicate (width - digits.length) '0' ++ digits

end PhoneTree.Text.Decimal

import PhoneTree.Text.Decimal

namespace PhoneTree.Text

/-- A number as a mantissa and a power of ten. -/
structure Scientific where
  mantissa : Nat
  exponent : Int
  deriving DecidableEq, Inhabited

namespace Scientific

def readExponent : List Char → Option Int
  | [] => some 0
  | e :: rest =>
      if e == 'e' || e == 'E' then
        match rest with
        | '+' :: digits => (Decimal.ofDigits? digits).map Int.ofNat
        | '-' :: digits => (Decimal.ofDigits? digits).map fun n => -(n : Int)
        | digits => (Decimal.ofDigits? digits).map Int.ofNat
      else none

/-- Reads digits with a point among, before or after them, and an optional exponent. -/
def ofUnsigned? (chars : List Char) : Option Scientific := do
  let whole := chars.takeWhile Decimal.isDigit
  let rest := chars.dropWhile Decimal.isDigit
  let (fraction, rest) := match rest with
    | '.' :: rest => (rest.takeWhile Decimal.isDigit, rest.dropWhile Decimal.isDigit)
    | rest => ([], rest)
  let mantissa ← Decimal.ofDigits? (whole ++ fraction)
  let exponent ← readExponent rest
  return ⟨mantissa, exponent - fraction.length⟩

/-- Numbers from here on are rounded up to infinity: half a unit above the largest double. -/
def infinityBound : Nat := (Nat.pow 2 54 - 1) * Nat.pow 2 970

/-- Whether the number rounds to a finite double. The number lies below `10 ^ magnitude`, so that
most are decided by their number of digits. -/
def isFinite (number : Scientific) : Bool :=
  let magnitude := (Decimal.toDigits number.mantissa).length + number.exponent
  if number.mantissa = 0 || magnitude ≤ 308 then true
  else if 309 < magnitude then false
  else
    match number.exponent with
    | .ofNat e => number.mantissa * Nat.pow 10 e < infinityBound
    | .negSucc e => number.mantissa < infinityBound * Nat.pow 10 (e + 1)

end Scientific

end PhoneTree.Text

namespace PhoneTree.Text.Hex

/-- A digit below sixteen in lower case. -/
def digit (n : Nat) : Char :=
  Nat.digitChar (n % 16)

/-- The value of a hexadecimal digit in either case. -/
def value? (c : Char) : Option Nat :=
  if '0' ≤ c && c ≤ '9' then some (c.toNat - '0'.toNat)
  else if 'a' ≤ c && c ≤ 'f' then some (c.toNat - 'a'.toNat + 10)
  else if 'A' ≤ c && c ≤ 'F' then some (c.toNat - 'A'.toNat + 10)
  else none

/-- The last `width` digits of a number. -/
def digits : Nat → Nat → List Char
  | 0, _ => []
  | width + 1, n => digits width (n / 16) ++ [digit n]

/-- The number that hexadecimal digits stand for. -/
def number? (chars : List Char) : Option Nat :=
  chars.foldlM (fun total c => (value? c).map (16 * total + ·)) 0

def ofBytes (bytes : List UInt8) : String :=
  .ofList (bytes.flatMap fun b => digits 2 b.toNat)

/-- The bytes that pairs of digits stand for. -/
def toBytes? : List Char → Option (List UInt8)
  | [] => some []
  | [_] => none
  | high :: low :: rest => do
      let n ← number? [high, low]
      return n.toUInt8 :: (← toBytes? rest)

end PhoneTree.Text.Hex

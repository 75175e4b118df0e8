import PhoneTree.Text.Decimal
import PhoneTree.Text.Hex

namespace PhoneTree

/-- An IP address: four bytes, or eight groups of 16 bits with a scope. -/
inductive IpAddress
  | v4 (bytes : List Nat)
  | v6 (groups : List Nat) (scope : Nat)
  deriving DecidableEq, Inhabited

/-- An address with a port. -/
structure SocketAddress where
  ip : IpAddress
  port : Nat
  deriving DecidableEq, Inhabited

namespace IpAddress

/-- The digits of a base at the front, and what follows them. -/
def readDigits (isDigit : Char → Bool) (chars : List Char) : List Char × List Char :=
  (chars.takeWhile isDigit, chars.dropWhile isDigit)

/-- A byte in decimal without leading zeros. -/
def readByte? (chars : List Char) : Option (Nat × List Char) := do
  let (digits, rest) := readDigits Text.Decimal.isDigit chars
  let value ← Text.Decimal.below? 256 digits
  if digits.head? = some '0' && 1 < digits.length then none else some (value, rest)

/-- Bytes that are set apart by dots. -/
def readBytes? : Nat → List Char → Option (List Nat × List Char)
  | 0, chars => some ([], chars)
  | 1, chars => (readByte? chars).map fun (value, rest) => ([value], rest)
  | count + 2, chars => do
      let (value, rest) ← readByte? chars
      match rest with
      | '.' :: rest =>
          let (values, rest) ← readBytes? (count + 1) rest
          some (value :: values, rest)
      | _ => none

/-- The two groups of four bytes. -/
def groupsOfBytes (bytes : List Nat) : List Nat :=
  match bytes with
  | [a, b, c, d] => [256 * a + b, 256 * c + d]
  | _ => []

/-- A group of at most four digits in base 16. -/
def readGroup? (chars : List Char) : Option (Nat × List Char) := do
  let (digits, rest) := readDigits (fun c => (Text.Hex.value? c).isSome) chars
  if digits.isEmpty || 4 < digits.length then none
  else some (← Text.Hex.number? digits, rest)

/-- Goes past the colon in front of every group but the first. -/
def skipColon? (isFirst : Bool) (chars : List Char) : Option (List Char) :=
  if isFirst then some chars
  else
    match chars with
    | ':' :: rest => some rest
    | _ => none

/-- At most `room` groups at the front, whether the last two are an embedded version 4 address, and
what follows. -/
def readGroups : Nat → Bool → List Char → List Nat × Bool × List Char
  | 0, _, chars => ([], false, chars)
  | room + 1, isFirst, chars =>
      let embedded :=
        if room = 0 then none
        else (skipColon? isFirst chars).bind (readBytes? 4)
      match embedded with
      | some (bytes, rest) => (groupsOfBytes bytes, true, rest)
      | none =>
          match (skipColon? isFirst chars).bind readGroup? with
          | none => ([], false, chars)
          | some (group, rest) =>
              let (groups, isEmbedded, rest) := readGroups room false rest
              (group :: groups, isEmbedded, rest)

/-- Eight groups, of which two colons may stand for a run of zeros. -/
def readV6? (chars : List Char) : Option (List Nat × List Char) :=
  let (head, isEmbedded, rest) := readGroups 8 true chars
  if head.length = 8 then some (head, rest)
  else if isEmbedded then none
  else
    match rest with
    | ':' :: ':' :: rest =>
        let (tail, _, rest) := readGroups (7 - head.length) true rest
        some (head ++ List.replicate (8 - head.length - tail.length) 0 ++ tail, rest)
    | _ => none

/-- A scope after a percent sign, or none. -/
def readScope? (chars : List Char) : Option (Nat × List Char) :=
  match chars with
  | '%' :: rest =>
      let (digits, rest) := readDigits Text.Decimal.isDigit rest
      (Text.Decimal.below? (Nat.pow 2 32) digits).map (·, rest)
  | chars => some (0, chars)

/-- A group in base 16 without leading zeros. -/
def groupText (group : Nat) : List Char :=
  let digits := (Text.Hex.digits 4 group).dropWhile (· == '0')
  if digits.isEmpty then ['0'] else digits

def groupsText (groups : List Nat) : List Char :=
  List.intercalate [':'] (groups.map groupText)

/-- The longest run of zeros as its start and its length; the first of equal length. -/
def longestZeros (groups : List Nat) : Nat × Nat :=
  let runs := (List.range groups.length).map fun start =>
    (start, ((groups.drop start).takeWhile (· == 0)).length)
  runs.foldl (fun best run => if best.2 < run.2 then run else best) (0, 0)

def bytesText (bytes : List Nat) : List Char :=
  List.intercalate ['.'] (bytes.map Text.Decimal.toDigits)

/-- The printed groups. An embedded version 4 address is printed as such. -/
def v6Text (groups : List Nat) : List Char :=
  match groups with
  | [0, 0, 0, 0, 0, 0xFFFF, high, low] =>
      "::ffff:".toList ++ bytesText [high / 256, high % 256, low / 256, low % 256]
  | groups =>
      let (start, length) := longestZeros groups
      if 1 < length then
        groupsText (groups.take start) ++ [':', ':'] ++ groupsText (groups.drop (start + length))
      else groupsText groups

end IpAddress

namespace SocketAddress

/-- The text of an address, with brackets around groups. -/
def text (address : SocketAddress) : String :=
  let port := Text.Decimal.toDigits address.port
  .ofList <| match address.ip with
    | .v4 bytes => IpAddress.bytesText bytes ++ ':' :: port
    | .v6 groups scope =>
        let zone := if scope = 0 then [] else '%' :: Text.Decimal.toDigits scope
        '[' :: IpAddress.v6Text groups ++ zone ++ ']' :: ':' :: port

/-- Reads a port after its colon, up to the end. -/
def readPort? (chars : List Char) : Option Nat :=
  match chars with
  | ':' :: digits => Text.Decimal.below? (Nat.pow 2 16) digits
  | _ => none

/-- Reads an address with its port. -/
def parse? (text : String) : Option SocketAddress :=
  match text.toList with
  | '[' :: rest => do
      let (groups, rest) ← IpAddress.readV6? rest
      let (scope, rest) ← IpAddress.readScope? rest
      match rest with
      | ']' :: rest => return ⟨.v6 groups scope, ← readPort? rest⟩
      | _ => none
  | chars => do
      let (bytes, rest) ← IpAddress.readBytes? 4 chars
      return ⟨.v4 bytes, ← readPort? rest⟩

end SocketAddress

end PhoneTree

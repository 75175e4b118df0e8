import PhoneTree.Text.Hex

namespace PhoneTree

/-- An identifier of 128 bits. -/
structure Uuid where
  bits : BitVec 128
  deriving DecidableEq, Inhabited

namespace Uuid

/-- The identifier of a number below 2^128. -/
def ofNat (n : Nat) : Uuid :=
  ⟨BitVec.ofNat 128 n⟩

/-- Sets hyphens into 32 digits, in groups of 8, 4, 4, 4 and 12. -/
def hyphenate (digits : List Char) : List Char :=
  digits.take 8 ++ '-' :: (digits.drop 8).take 4 ++ '-' :: (digits.drop 12).take 4
    ++ '-' :: (digits.drop 16).take 4 ++ '-' :: digits.drop 20

def chars (id : Uuid) : List Char :=
  hyphenate (Text.Hex.digits 32 id.bits.toNat)

/-- The hyphenated text of an identifier in lower case. -/
def text (id : Uuid) : String :=
  .ofList id.chars

/-- Reads 32 digits without hyphens. -/
def ofDigits? (digits : List Char) : Option Uuid :=
  if digits.length = 32 then (Text.Hex.number? digits).map ofNat else none

/-- Reads digits with the hyphens in their places. -/
def ofHyphenated? (chars : List Char) : Option Uuid :=
  let digits := chars.take 8 ++ (chars.drop 9).take 4 ++ (chars.drop 14).take 4
    ++ (chars.drop 19).take 4 ++ chars.drop 24
  if hyphenate digits = chars then ofDigits? digits else none

/-- Reads any of the accepted forms. -/
def ofChars? (chars : List Char) : Option Uuid :=
  match chars with
  | '{' :: rest => if chars.getLast? = some '}' then ofHyphenated? rest.dropLast else none
  | _ =>
      if (chars.take 9).map Char.toLower = ['u', 'r', 'n', ':', 'u', 'u', 'i', 'd', ':'] then
        ofHyphenated? (chars.drop 9)
      else if chars.contains '-' then ofHyphenated? chars
      else ofDigits? chars

/-- Reads an identifier with hyphens or without, in braces, or as a URN. -/
def parse? (text : String) : Option Uuid :=
  ofChars? text.toList

end Uuid

structure SessionId where
  uuid : Uuid
  deriving DecidableEq, Inhabited

structure TurnId where
  uuid : Uuid
  deriving DecidableEq, Inhabited

structure RecordingId where
  uuid : Uuid
  deriving DecidableEq, Inhabited

structure CallerId where
  uuid : Uuid
  deriving DecidableEq, Inhabited

end PhoneTree

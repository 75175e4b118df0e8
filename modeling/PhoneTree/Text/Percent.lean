import PhoneTree.Text.Hex
import PhoneTree.Text.Utf8

namespace PhoneTree.Text.Percent

def escapeByte (b : UInt8) : List Char :=
  '%' :: (Hex.digits 2 b.toNat).map Char.toUpper

/-- Undoes percent escapes; a percent sign without two digits after it stands for itself. -/
def unescape : List UInt8 → List UInt8
  | [] => []
  | 0x25 :: high :: low :: rest =>
      match Hex.number? [Char.ofNat high.toNat, Char.ofNat low.toNat] with
      | some n => n.toUInt8 :: unescape rest
      | none => 0x25 :: unescape (high :: low :: rest)
  | b :: rest => b :: unescape rest

/-- The bytes that stand for themselves in a form. -/
def isFormByte (b : UInt8) : Bool :=
  let c := Char.ofNat b.toNat
  c.isAlphanum || c == '*' || c == '-' || c == '.' || c == '_'

def formText (text : String) : List Char :=
  (Utf8.encode text).flatMap fun b =>
    if isFormByte b then [Char.ofNat b.toNat]
    else if b = 0x20 then ['+']
    else escapeByte b

/-- The body of a form: pairs joined by `&`, each a name and a value joined by `=`. -/
def encodeForm (pairs : List (String × String)) : String :=
  .ofList (List.intercalate ['&'] (pairs.map fun pair =>
    formText pair.1 ++ '=' :: formText pair.2))

/-- The parts of a list between the elements equal to `separator`. -/
def splitOn {α : Type} [BEq α] (separator : α) : List α → List (List α)
  | [] => [[]]
  | a :: rest =>
      if a == separator then [] :: splitOn separator rest
      else
        match splitOn separator rest with
        | [] => [[a]]
        | first :: others => (a :: first) :: others

def decodeFormText (bytes : List UInt8) : String :=
  Utf8.decodeLossy (unescape (bytes.map fun b => if b = 0x2B then 0x20 else b))

/-- The pairs of a form in order; empty pairs are skipped and a pair without `=` has an empty
value. -/
def decodeForm (bytes : List UInt8) : List (String × String) :=
  ((splitOn 0x26 bytes).filter fun pair => !pair.isEmpty).map fun pair =>
    (decodeFormText (pair.takeWhile (· != 0x3D)),
      decodeFormText ((pair.dropWhile (· != 0x3D)).drop 1))

end PhoneTree.Text.Percent

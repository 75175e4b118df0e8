import PhoneTree.Text.Invisible

namespace PhoneTree.Text

/-- A code point in lower-case hexadecimal without leading zeros. -/
def codePointText (code : Nat) : List Char :=
  Nat.toDigits 16 code

/-- The form of a character between double quotes. -/
def quotedChar (c : Char) : List Char :=
  match c with
  | '\x00' => ['\\', '0']
  | '\t' => ['\\', 't']
  | '\n' => ['\\', 'n']
  | '\r' => ['\\', 'r']
  | '"' => ['\\', '"']
  | '\\' => ['\\', '\\']
  | c =>
      if invisible.contains c.toNat then
        '\\' :: 'u' :: '\x7b' :: codePointText c.toNat ++ ['\x7d']
      else [c]

/-- A text between quotes as it is shown for debugging. -/
def quoted (text : String) : String :=
  .ofList ('"' :: text.toList.flatMap quotedChar ++ ['"'])

end PhoneTree.Text

import PhoneTree.Json.Value
import PhoneTree.Text.Hex

namespace PhoneTree.Json

/-- The form of a character in a text. -/
def writtenChar (c : Char) : List Char :=
  match c with
  | '"' => ['\\', '"']
  | '\\' => ['\\', '\\']
  | '\n' => ['\\', 'n']
  | '\r' => ['\\', 'r']
  | '\t' => ['\\', 't']
  | '\x08' => ['\\', 'b']
  | '\x0c' => ['\\', 'f']
  | c => if c.toNat < 0x20 then '\\' :: 'u' :: Text.Hex.digits 4 c.toNat else [c]

/-- A text between quotes, with its special characters escaped. -/
def writtenText (text : String) : List Char :=
  '"' :: text.toList.flatMap writtenChar ++ ['"']

mutual

/-- The characters of a value, without any space between them. -/
def write : Json → List Char
  | null => ['n', 'u', 'l', 'l']
  | bool true => ['t', 'r', 'u', 'e']
  | bool false => ['f', 'a', 'l', 's', 'e']
  | number literal => literal.toList
  | text value => writtenText value
  | list items => '[' :: writeItems items
  | object fields => '{' :: writeFields fields

/-- The items of a list up to the closing bracket. -/
def writeItems : List Json → List Char
  | [] => [']']
  | [item] => write item ++ [']']
  | item :: items => write item ++ ',' :: writeItems items

/-- The fields of an object and the brace after them. -/
def writeFields : List (String × Json) → List Char
  | [] => ['}']
  | [(name, value)] => writtenText name ++ ':' :: write value ++ ['}']
  | (name, value) :: fields => writtenText name ++ ':' :: write value ++ ',' :: writeFields fields

end

def render (json : Json) : String :=
  .ofList json.write

end PhoneTree.Json

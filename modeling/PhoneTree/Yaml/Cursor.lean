namespace PhoneTree.Yaml

/-- A line break: `\n`, `\r`, NEL, LS or PS. -/
def isBreak (c : Char) : Bool :=
  c == '\n' || c == '\r' || c.toNat == 0x85 || c.toNat == 0x2028 || c.toNat == 0x2029

def isBlank (c : Char) : Bool :=
  c == ' ' || c == '\t'

/-- The form in which a line break counts as content. -/
def breakContent (c : Char) : Char :=
  if c.toNat == 0x2028 || c.toNat == 0x2029 then c else '\n'

/-- Whether a text goes on with white space or ends. -/
def endsWord : List Char → Bool
  | [] => true
  | c :: _ => isBlank c || isBreak c

/-- Whether a character may occur in a YAML text. -/
def isPrintable (c : Char) : Bool :=
  let n := c.toNat
  n == 0x09 || n == 0x0A || n == 0x0D || (0x20 ≤ n && n ≤ 0x7E) || n == 0x85
    || (0xA0 ≤ n && n ≤ 0xFFFD) || 0x10000 ≤ n

/-- A place in a text with what follows it. -/
structure Cursor where
  rest : List Char
  index : Nat := 0
  line : Nat := 0
  column : Nat := 0

namespace Cursor

/-- Moves over characters of the line. -/
def skip (cursor : Cursor) (count : Nat) : Cursor :=
  { cursor with
    rest := cursor.rest.drop count
    index := cursor.index + count
    column := cursor.column + count }

/-- Moves over a line break; `\r\n` is one break. -/
def skipBreak (cursor : Cursor) : Cursor :=
  match cursor.rest with
  | '\r' :: '\n' :: rest =>
      { rest, index := cursor.index + 2, line := cursor.line + 1, column := 0 }
  | _ :: rest => { rest, index := cursor.index + 1, line := cursor.line + 1, column := 0 }
  | [] => cursor

def peek? (cursor : Cursor) : Option Char :=
  cursor.rest.head?

/-- Moves over the characters of the line that satisfy a condition. -/
def skipWhile (cursor : Cursor) (condition : Char → Bool) : Cursor :=
  cursor.skip (cursor.rest.takeWhile condition).length

/-- Whether a line begins with three given characters and white space. -/
def atMark (cursor : Cursor) (mark : Char) : Bool :=
  match cursor.rest with
  | a :: b :: c :: rest =>
      cursor.column == 0 && a == mark && b == mark && c == mark && endsWord rest
  | _ => false

/-- Whether a line begins with a mark of the beginning or the end of a document. -/
def atDocumentMark (cursor : Cursor) : Bool :=
  cursor.atMark '-' || cursor.atMark '.'

end Cursor

end PhoneTree.Yaml

import PhoneTree.Json.Value
import PhoneTree.Text.Hex

namespace PhoneTree.Json

/-- The number of containers that may be open at once. -/
def maxDepth : Nat := 127

def skipSpace (chars : List Char) : List Char :=
  chars.dropWhile fun c => c == ' ' || c == '\t' || c == '\n' || c == '\r'

/-- The character that two surrogates stand for, if they form a pair. -/
def joinSurrogates (high low : Nat) : Option Char :=
  if 0xD800 ≤ high && high < 0xDC00 && 0xDC00 ≤ low && low < 0xE000 then
    some (Char.ofNat (0x10000 + (high - 0xD800) * 0x400 + (low - 0xDC00)))
  else none

/-- The character of a one-letter escape. -/
def escaped? : Char → Option Char
  | '"' => some '"'
  | '\\' => some '\\'
  | '/' => some '/'
  | 'b' => some '\x08'
  | 'f' => some '\x0c'
  | 'n' => some '\n'
  | 'r' => some '\r'
  | 't' => some '\t'
  | _ => none

/-- Reads up to the closing quote, with escapes taken for what they stand for. -/
def readText : List Char → Option (List Char × List Char)
  | [] => none
  | '"' :: rest => some ([], rest)
  | '\\' :: 'u' :: a :: b :: c :: d :: rest => do
      let code ← Text.Hex.number? [a, b, c, d]
      if 0xD800 ≤ code && code < 0xE000 then
        match rest with
        | '\\' :: 'u' :: e :: f :: g :: h :: rest => do
            let char ← joinSurrogates code (← Text.Hex.number? [e, f, g, h])
            let (chars, rest) ← readText rest
            return (char :: chars, rest)
        | _ => none
      else
        let (chars, rest) ← readText rest
        return (Char.ofNat code :: chars, rest)
  | '\\' :: letter :: rest => do
      let char ← escaped? letter
      let (chars, rest) ← readText rest
      return (char :: chars, rest)
  | c :: rest => do
      guard (0x20 ≤ c.toNat && c != '\\')
      let (chars, rest) ← readText rest
      return (c :: chars, rest)

/-- A non-empty run of digits. -/
def readDigits (chars : List Char) : Option (List Char × List Char) :=
  match chars.takeWhile Char.isDigit with
  | [] => none
  | digits => some (digits, chars.dropWhile Char.isDigit)

/-- The digits before a fraction: no leading zero but a single one. -/
def readWhole : List Char → Option (List Char × List Char)
  | '0' :: rest => some (['0'], rest)
  | chars => readDigits chars

/-- Reads the part after the point, if there is one. -/
def readFraction : List Char → Option (List Char × List Char)
  | '.' :: rest => (readDigits rest).map fun (digits, rest) => ('.' :: digits, rest)
  | chars => some ([], chars)

def readExponent : List Char → Option (List Char × List Char)
  | e :: rest =>
      if e == 'e' || e == 'E' then
        match rest with
        | '+' :: rest => (readDigits rest).map fun (digits, rest) => (e :: '+' :: digits, rest)
        | '-' :: rest => (readDigits rest).map fun (digits, rest) => (e :: '-' :: digits, rest)
        | rest => (readDigits rest).map fun (digits, rest) => (e :: digits, rest)
      else some ([], e :: rest)
  | [] => some ([], [])

/-- A number without its sign. -/
def readMagnitude (chars : List Char) : Option (List Char × List Char) := do
  let (whole, rest) ← readWhole chars
  let (fraction, rest) ← readFraction rest
  let (exponent, rest) ← readExponent rest
  return (whole ++ fraction ++ exponent, rest)

/-- Reads the spelling of a number, which is kept as it is. -/
def readNumber : List Char → Option (List Char × List Char)
  | '-' :: rest => (readMagnitude rest).map fun (digits, rest) => ('-' :: digits, rest)
  | chars => readMagnitude chars

mutual

/-- Reads a value in at most `fuel` steps with at most `depth` more containers open. -/
def readValue : Nat → Nat → List Char → Option (Json × List Char)
  | 0, _, _ => none
  | fuel + 1, depth, chars =>
      match skipSpace chars with
      | 'n' :: 'u' :: 'l' :: 'l' :: rest => some (.null, rest)
      | 't' :: 'r' :: 'u' :: 'e' :: rest => some (.bool true, rest)
      | 'f' :: 'a' :: 'l' :: 's' :: 'e' :: rest => some (.bool false, rest)
      | '"' :: rest => (readText rest).map fun (chars, rest) => (.text (.ofList chars), rest)
      | '[' :: rest =>
          match depth with
          | 0 => none
          | depth + 1 =>
              match skipSpace rest with
              | ']' :: rest => some (.list [], rest)
              | rest => (readItems fuel depth rest).map fun (items, rest) => (.list items, rest)
      | '{' :: rest =>
          match depth with
          | 0 => none
          | depth + 1 =>
              match skipSpace rest with
              | '}' :: rest => some (.object [], rest)
              | rest =>
                  (readFields fuel depth rest).map fun (fields, rest) => (.object fields, rest)
      | chars => (readNumber chars).map fun (digits, rest) => (.number (.ofList digits), rest)

/-- Reads the rest of a list after its bracket or a comma. -/
def readItems : Nat → Nat → List Char → Option (List Json × List Char)
  | 0, _, _ => none
  | fuel + 1, depth, chars => do
      let (item, rest) ← readValue fuel depth chars
      match skipSpace rest with
      | ',' :: rest => do
          let (items, rest) ← readItems fuel depth rest
          return (item :: items, rest)
      | ']' :: rest => return ([item], rest)
      | _ => none

/-- Reads the fields of an object and the brace after them. -/
def readFields : Nat → Nat → List Char → Option (List (String × Json) × List Char)
  | 0, _, _ => none
  | fuel + 1, depth, chars =>
      match skipSpace chars with
      | '"' :: rest => do
          let (name, rest) ← readText rest
          match skipSpace rest with
          | ':' :: rest => do
              let (value, rest) ← readValue fuel depth rest
              match skipSpace rest with
              | ',' :: rest => do
                  let (fields, rest) ← readFields fuel depth rest
                  return ((.ofList name, value) :: fields, rest)
              | '}' :: rest => return ([(.ofList name, value)], rest)
              | _ => none
          | _ => none
      | _ => none

end

/-- Reads a text that holds one JSON value with at most `depth` containers open at once. -/
def parseWithin (depth : Nat) (source : String) : Option Json := do
  let chars := source.toList
  let (json, rest) ← readValue (2 * chars.length + 2) depth chars
  guard (skipSpace rest).isEmpty
  return json

/-- Reads a text that holds one JSON value by RFC 8259, with nothing but white space around it. -/
def parse (source : String) : Option Json :=
  parseWithin maxDepth source

end PhoneTree.Json

import PhoneTree.Text.Percent

namespace PhoneTree.Http

/-- An address of the web, as far as it matters for a request. -/
structure Address where
  secure : Bool
  authority : String
  target : String
  deriving DecidableEq, Inhabited

namespace Address

/-- Whether a character is a control character or a space. -/
def isMargin (c : Char) : Bool :=
  c.toNat ≤ 0x20

/-- A text without its margins and without tabs and line breaks. -/
def clean (text : String) : List Char :=
  let chars := (text.toList.dropWhile isMargin).reverse.dropWhile isMargin
  chars.reverse.filter fun c => c != '\t' && c != '\n' && c != '\r'

/-- Whether a character sets parts of a path apart. -/
def isSlash (c : Char) : Bool :=
  c == '/' || c == '\\'

def endsPath (c : Char) : Bool :=
  c == '?' || c == '#'

/-- What follows the scheme, with whether the scheme is the secure one. -/
def afterScheme? (chars : List Char) : Option (Bool × List Char) :=
  let scheme := String.ofList ((chars.takeWhile (· != ':')).map Char.toLower)
  let rest := (chars.dropWhile (· != ':')).drop 1
  if !chars.contains ':' then none
  else if scheme == "http" then some (false, rest)
  else if scheme == "https" then some (true, rest)
  else none

/-- A text in which the bytes outside of printable ASCII and some characters are escaped. -/
def escape (reserved : List Char) (chars : List Char) : List Char :=
  (Text.Utf8.encodeChars chars).flatMap fun b =>
    let c := Char.ofNat b.toNat
    if b ≤ 0x20 || 0x7F ≤ b || reserved.contains c then Text.Percent.escapeByte b else [c]

/-- The characters that are escaped in a path. -/
def pathReserved : List Char :=
  ['"', '<', '>', '\x60', '#', '?', '\x7b', '\x7d']

/-- The characters that are escaped in a query. -/
def queryReserved : List Char :=
  ['"', '<', '>', '#', '\'']

/-- The parts of a path between its slashes. -/
def segments (chars : List Char) : List (List Char) :=
  Text.Percent.splitOn '/' (chars.map fun c => if isSlash c then '/' else c)

/-- How many dots a part of a path stands for, if it consists of dots. -/
def dots? (segment : List Char) : Option Nat :=
  match String.ofList (segment.map Char.toLower) with
  | "." | "%2e" => some 1
  | ".." | ".%2e" | "%2e." | "%2e%2e" => some 2
  | _ => none

/-- Resolves the dots in a path after the parts before it, which are in reverse order. -/
def resolveAfter (before : List (List Char)) : List (List Char) → List (List Char)
  | [] => before.reverse
  | segment :: rest =>
      match dots? segment with
      | none => resolveAfter (segment :: before) rest
      | some dots =>
          let before := if dots = 2 then before.drop 1 else before
          resolveAfter (if rest.isEmpty then [] :: before else before) rest

/-- A path without dots in it, its characters escaped where they must be. -/
def path (chars : List Char) : List Char :=
  '/' :: List.intercalate ['/'] ((resolveAfter [] (segments chars)).map (escape pathReserved))

/-- The query of a target with its question mark, if there is one. -/
def query (chars : List Char) : List Char :=
  match chars with
  | '?' :: rest => '?' :: escape queryReserved (rest.takeWhile (· != '#'))
  | _ => []

/-- Reads an absolute address and drops its fragment. What has no host is none. -/
def parse? (text : String) : Option Address := do
  let (secure, rest) ← afterScheme? (clean text)
  let rest := rest.dropWhile isSlash
  let isEnd (c : Char) : Bool := isSlash c || endsPath c
  let authority := rest.takeWhile fun c => !isEnd c
  if authority.isEmpty then none
  else
    let rest := rest.dropWhile fun c => !isEnd c
    let rest := if rest.head?.any isSlash then rest.drop 1 else rest
    let target := path (rest.takeWhile fun c => !endsPath c)
      ++ query (rest.dropWhile fun c => !endsPath c)
    return ⟨secure, .ofList authority, .ofList target⟩

end Address

end PhoneTree.Http

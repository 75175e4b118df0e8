import PhoneTree.Text.Hex
import PhoneTree.Yaml.Cursor

namespace PhoneTree.Yaml

/-- White space between two words: the blanks of one line, or line breaks. -/
structure Gap where
  blanks : List Char := []
  breaks : List Char := []
  isBroken : Bool := false

/-- What a gap between words comes to in a folded scalar: a single line break becomes a space, and
of several breaks all but the first stay. -/
def Gap.folded (gap : Gap) : List Char :=
  if gap.isBroken then
    match gap.breaks with
    | ['\n'] => [' ']
    | '\n' :: rest => rest
    | breaks => breaks
  else gap.blanks

/-- Reads white space. After a break, a tab left of `indent` is refused. -/
def readGap (indent : Nat) : Nat → Cursor → Gap → Option (Gap × Cursor)
  | 0, _, _ => none
  | fuel + 1, cursor, gap =>
      match cursor.peek? with
      | none => some (gap, cursor)
      | some c =>
          if isBlank c then
            if gap.isBroken then
              if c == '\t' && cursor.column < indent then none
              else readGap indent fuel (cursor.skip 1) gap
            else readGap indent fuel (cursor.skip 1) { gap with blanks := gap.blanks ++ [c] }
          else if isBreak c then
            readGap indent fuel cursor.skipBreak
              { blanks := [], breaks := gap.breaks ++ [breakContent c], isBroken := true }
          else some (gap, cursor)

/-- How many steps suffice to read what follows a place. -/
def Cursor.fuel (cursor : Cursor) : Nat :=
  cursor.rest.length + 1

/-- The characters that enclose and separate the items of flow collections. -/
def isFlowMark (c : Char) : Bool :=
  c == ',' || c == '[' || c == ']' || c == '{' || c == '}'

/-- The characters of a plain word. Within flow collections a colon must not touch their marks. -/
def plainWord (inFlow : Bool) : List Char → Option (List Char)
  | [] => some []
  | c :: rest =>
      if isBlank c || isBreak c then some []
      else if inFlow && c == ':' && rest.head?.any (fun d => isFlowMark d || d == '?') then none
      else if (c == ':' && endsWord rest) || (inFlow && isFlowMark c) then some []
      else (plainWord inFlow rest).map (c :: ·)

/-- Reads a plain scalar whose continuation lines are indented to `indent`; also gives whether it
ended with a line. -/
def readPlain (inFlow : Bool) (indent : Nat) :
    Nat → Cursor → Gap → List Char → Option (List Char × Bool × Cursor)
  | 0, _, _, _ => none
  | fuel + 1, cursor, gap, content =>
      if cursor.atDocumentMark || cursor.peek? == some '#' then
        some (content, gap.isBroken, cursor)
      else do
        match ← plainWord inFlow cursor.rest with
        | [] => return (content, gap.isBroken, cursor)
        | word => do
            let cursor := cursor.skip word.length
            let content := content ++ gap.folded ++ word
            match cursor.peek? with
            | none => return (content, false, cursor)
            | some c =>
                if isBlank c || isBreak c then do
                  let (gap, cursor) ← readGap indent cursor.fuel cursor {}
                  if !inFlow && cursor.column < indent then
                    return (content, gap.isBroken, cursor)
                  else readPlain inFlow indent fuel cursor gap content
                else return (content, false, cursor)

/-- The character of an escape that is one letter. -/
def escaped? : Char → Option Char
  | '0' => some '\x00'
  | 'a' => some '\x07'
  | 'b' => some '\x08'
  | 't' => some '\t'
  | '\t' => some '\t'
  | 'n' => some '\n'
  | 'v' => some '\x0b'
  | 'f' => some '\x0c'
  | 'r' => some '\r'
  | 'e' => some '\x1b'
  | ' ' => some ' '
  | '"' => some '"'
  | '/' => some '/'
  | '\\' => some '\\'
  | 'N' => some (Char.ofNat 0x85)
  | '_' => some (Char.ofNat 0xA0)
  | 'L' => some (Char.ofNat 0x2028)
  | 'P' => some (Char.ofNat 0x2029)
  | _ => none

/-- The number of digits after the letter of a hexadecimal escape. -/
def escapeWidth? : Char → Option Nat
  | 'x' => some 2
  | 'u' => some 4
  | 'U' => some 8
  | _ => none

/-- The character of a hexadecimal escape. -/
def hexChar? (width : Nat) (chars : List Char) : Option Char := do
  let digits := chars.take width
  guard (digits.length == width)
  let code ← Text.Hex.number? digits
  guard (code < 0xD800 || (0xE000 ≤ code && code ≤ 0x10FFFF))
  return Char.ofNat code

/-- Reads the rest of a quoted scalar, up to its quote. -/
def readQuoted (double : Bool) : Nat → Cursor → List Char → Option (List Char × Cursor)
  | 0, _, _ => none
  | fuel + 1, cursor, content =>
      if cursor.atDocumentMark then none
      else
        match cursor.rest with
        | [] => none
        | '\'' :: '\'' :: _ =>
            if double then readQuoted double fuel (cursor.skip 1) (content ++ ['\''])
            else readQuoted double fuel (cursor.skip 2) (content ++ ['\''])
        | '\\' :: c :: rest =>
            if !double then readQuoted double fuel (cursor.skip 1) (content ++ ['\\'])
            else if isBreak c then do
              let (gap, cursor) ← readGap 0 cursor.fuel (cursor.skip 1).skipBreak
                { isBroken := true }
              readQuoted double fuel cursor (content ++ gap.breaks)
            else
              match escapeWidth? c with
              | some width => do
                  let char ← hexChar? width rest
                  readQuoted double fuel (cursor.skip (2 + width)) (content ++ [char])
              | none => do
                  let char ← escaped? c
                  readQuoted double fuel (cursor.skip 2) (content ++ [char])
        | c :: _ =>
            if c == (if double then '"' else '\'') then some (content, cursor.skip 1)
            else if double && c == '\\' then none
            else if isBlank c || isBreak c then do
              let (gap, cursor) ← readGap 0 cursor.fuel cursor {}
              readQuoted double fuel cursor (content ++ gap.folded)
            else readQuoted double fuel (cursor.skip 1) (content ++ [c])

/-- What becomes of the line breaks at the end of a block. -/
inductive Chomping
  | strip
  | clip
  | keep
  deriving DecidableEq

/-- The indicators after the mark of a block: chomping and additional indentation. -/
def readIndicators (cursor : Cursor) : Option (Chomping × Option Nat × Cursor) :=
  let chomping? : Char → Option Chomping
    | '+' => some .keep
    | '-' => some .strip
    | _ => none
  let digit? (c : Char) : Option Nat :=
    if '0' ≤ c && c ≤ '9' then some (c.toNat - '0'.toNat) else none
  match cursor.rest with
  | [] => some (.clip, none, cursor)
  | c :: rest =>
      match chomping? c, digit? c with
      | some chomping, _ =>
          match rest.head?.bind digit? with
          | some 0 => none
          | some digit => some (chomping, some digit, cursor.skip 2)
          | none => some (chomping, none, cursor.skip 1)
      | none, some 0 => none
      | none, some digit =>
          match rest.head?.bind chomping? with
          | some chomping => some (chomping, some digit, cursor.skip 2)
          | none => some (.clip, some digit, cursor.skip 1)
      | none, none => some (.clip, none, cursor)

/-- Reads the indentation and the empty lines before a line of a block. Without a known
indentation the widest one counts. -/
def readIndentation (indent : Option Nat) :
    Nat → Cursor → List Char → Nat → Option (List Char × Nat × Cursor)
  | 0, _, _, _ => none
  | fuel + 1, cursor, breaks, widest =>
      let spaces := (cursor.rest.takeWhile (· == ' ')).length
      let cursor := cursor.skip <| match indent with
        | some indent => min spaces (indent - cursor.column)
        | none => spaces
      let widest := max widest cursor.column
      match cursor.peek? with
      | none => some (breaks, widest, cursor)
      | some c =>
          if c == '\t' && (indent.all fun indent => cursor.column < indent) then none
          else if isBreak c then
            readIndentation indent fuel cursor.skipBreak (breaks ++ [breakContent c]) widest
          else some (breaks, widest, cursor)

/-- What has been read of a block. -/
structure Block where
  content : List Char := []
  leading : List Char := []
  trailing : List Char := []
  afterBlank : Bool := false

def readLines (literal : Bool) (indent : Nat) : Nat → Cursor → Block → Option (Block × Cursor)
  | 0, _, _ => none
  | fuel + 1, cursor, block =>
      match cursor.peek? with
      | none => some (block, cursor)
      | some c =>
          if cursor.column != indent then some (block, cursor)
          else
            let startsBlank := isBlank c
            let joint :=
              if !literal && block.leading == ['\n'] && !block.afterBlank && !startsBlank then
                if block.trailing.isEmpty then [' '] else block.trailing
              else block.leading ++ block.trailing
            let line := cursor.rest.takeWhile fun c => !isBreak c
            let cursor := cursor.skip line.length
            let leading := match cursor.peek? with
              | some c => [breakContent c]
              | none => []
            match readIndentation (some indent) cursor.skipBreak.fuel cursor.skipBreak [] 0 with
            | none => none
            | some (trailing, _, cursor) =>
                readLines literal indent fuel cursor
                  { content := block.content ++ joint ++ line
                    leading
                    trailing
                    afterBlank := startsBlank }

/-- Reads a block scalar, whose indentation its first line may decide. -/
def readBlock (literal : Bool) (parent : Int) (cursor : Cursor) :
    Option (List Char × Cursor) := do
  let (chomping, added, cursor) ← readIndicators cursor
  let cursor := cursor.skipWhile isBlank
  let cursor := if cursor.peek? == some '#' then cursor.skipWhile fun c => !isBreak c else cursor
  guard (cursor.peek?.all isBreak)
  let cursor := cursor.skipBreak
  let known := added.map fun added => if 0 ≤ parent then parent.toNat + added else added
  let (trailing, widest, cursor) ← readIndentation known cursor.fuel cursor [] 0
  let indent := known.getD (max widest (max (parent + 1).toNat 1))
  let (block, cursor) ← readLines literal indent cursor.fuel cursor { trailing }
  return (match chomping with
    | .strip => block.content
    | .clip => block.content ++ block.leading
    | .keep => block.content ++ block.leading ++ block.trailing, cursor)

end PhoneTree.Yaml

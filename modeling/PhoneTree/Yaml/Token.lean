import PhoneTree.Yaml.Scalar

namespace PhoneTree.Yaml

/-- A token; plain scalars are told apart from quoted ones and blocks. -/
inductive Token
  | documentStart
  | documentEnd
  | blockSequence
  | blockMapping
  | blockEnd
  | flowSequence
  | flowSequenceEnd
  | flowMapping
  | flowMappingEnd
  | entry
  | flowEntry
  | key
  | value
  | scalar (plain : Bool) (text : List Char)
  deriving DecidableEq, Inhabited

/-- Where a key may have begun, and whether it must be one. -/
structure KeyStart where
  required : Bool
  position : Nat
  index : Nat
  line : Nat
  column : Nat

/-- What is known while a text is read: the tokens so far, the indentations of the open blocks
and, for each level of flow collections, where a key may have begun. -/
structure Scanner where
  cursor : Cursor
  tokens : Array Token := #[]
  indent : Int := -1
  outer : List Int := []
  keyAllowed : Bool := true
  levels : List (Option KeyStart) := [none]

/-- A step of reading, which may find that the text is not well formed. -/
abbrev Scan := StateT Scanner Option

namespace Scan

/-- Finds that the text is not well formed. -/
def refuse {α : Type} : Scan α := fun _ => none

def emit (token : Token) : Scan Unit :=
  modify fun s => { s with tokens := s.tokens.push token }

/-- Moves over characters of the line. -/
def skip (count : Nat) : Scan Unit :=
  modify fun s => { s with cursor := s.cursor.skip count }

/-- Whether the place is inside a flow collection. -/
def inFlow : Scan Bool := do
  return 1 < (← get).levels.length

/-- Sets whether a key may begin at the next token. -/
def allowKey (allowed : Bool) : Scan Unit :=
  modify fun s => { s with keyAllowed := allowed }

def setKeyStart (start : Option KeyStart) : Scan Unit :=
  modify fun s => { s with levels := start :: s.levels.drop 1 }

/-- Gives up the key that may have begun; one that had to be a key is missing its colon. -/
def dropKeyStart : Scan Unit := do
  match (← get).levels with
  | some start :: _ => if start.required then refuse else setKeyStart none
  | _ => pure ()

/-- Remembers that a key may begin here. It is known as a key only by the colon after it, so its
token is put in front of it afterwards. -/
def noteKeyStart : Scan Unit := do
  let s ← get
  let required := !(← inFlow) && s.indent == (s.cursor.column : Int)
  if s.keyAllowed then
    dropKeyStart
    setKeyStart (some
      { required
        position := s.tokens.size
        index := s.cursor.index
        line := s.cursor.line
        column := s.cursor.column })

/-- Opens a block to the right of the present one, with its token at an earlier place. -/
def openBlock (column : Nat) (token : Token) (position : Nat) : Scan Unit := do
  let s ← get
  if !(← inFlow) && s.indent < column then
    set { s with
      indent := column
      outer := s.indent :: s.outer
      tokens := s.tokens.insertIdx! position token }

/-- The indentations that remain when all blocks right of a column are closed, and their number. -/
def unwind (column : Int) : Int → List Int → Nat → Int × List Int × Nat
  | indent, [], closed => (indent, [], closed)
  | indent, next :: outer, closed =>
      if column < indent then unwind column next outer (closed + 1)
      else (indent, next :: outer, closed)

/-- Closes the blocks to the right of a column. -/
def closeBlocks (column : Int) : Scan Unit := do
  if !(← inFlow) then
    modify fun s =>
      let (indent, outer, closed) := unwind column s.indent s.outer 0
      { s with
        indent
        outer
        tokens := s.tokens ++ Array.replicate closed Token.blockEnd }

/-- Moves to the next token. A line break allows a key outside of flow collections. -/
def toNextToken : Nat → Scan Unit
  | 0 => refuse
  | fuel + 1 => do
      let flow ← inFlow
      modify fun s =>
        { s with
          cursor := s.cursor.skipWhile fun c =>
            c == ' ' || (c == '\t' && (flow || !s.keyAllowed)) }
      modify fun s =>
        if s.cursor.peek? == some '#' then
          { s with cursor := s.cursor.skipWhile fun c => !isBreak c }
        else s
      match (← get).cursor.peek? with
      | none => pure ()
      | some c =>
          if isBreak c then do
            modify fun s =>
              { s with
                cursor := s.cursor.skipBreak
                keyAllowed := s.keyAllowed || !flow }
            toNextToken fuel
          else pure ()

/-- Reads a mark of the beginning or the end of a document. -/
def documentMark (token : Token) : Scan Unit := do
  closeBlocks (-1)
  dropKeyStart
  allowKey false
  skip 3
  emit token

def openFlow (token : Token) : Scan Unit := do
  noteKeyStart
  modify fun s => { s with levels := none :: s.levels }
  allowKey true
  skip 1
  emit token

/-- Reads the closing of a flow collection. -/
def closeFlow (token : Token) : Scan Unit := do
  dropKeyStart
  modify fun s => { s with levels := if s.levels.length ≤ 1 then s.levels else s.levels.drop 1 }
  allowKey false
  skip 1
  emit token

/-- Reads a comma between the items of a flow collection. -/
def flowSeparator : Scan Unit := do
  dropKeyStart
  allowKey true
  skip 1
  emit .flowEntry

/-- Reads the dash of a sequence item. -/
def blockEntry : Scan Unit := do
  let s ← get
  if !(← inFlow) then
    if !s.keyAllowed then refuse
    openBlock s.cursor.column .blockSequence s.tokens.size
  dropKeyStart
  allowKey true
  skip 1
  emit .entry

/-- Whether the key that may have begun is still on the line and not too far away. -/
def isFresh (cursor : Cursor) (start : KeyStart) : Bool :=
  start.line == cursor.line && cursor.index ≤ start.index + 1024

/-- Reads the colon between a key and its value. -/
def valueMark : Scan Unit := do
  let s ← get
  match (s.levels.head?.bind id).filter (isFresh s.cursor) with
  | some start =>
      modify fun s => { s with tokens := s.tokens.insertIdx! start.position .key }
      openBlock start.column .blockMapping start.position
      setKeyStart none
      allowKey false
  | none =>
      dropKeyStart
      let flow ← inFlow
      if !flow then
        if !s.keyAllowed then refuse
        openBlock s.cursor.column .blockMapping s.tokens.size
      allowKey (!flow)
  skip 1
  emit .value

def blockScalar (literal : Bool) : Scan Unit := do
  dropKeyStart
  allowKey true
  skip 1
  let s ← get
  match readBlock literal s.indent s.cursor with
  | none => refuse
  | some (text, cursor) =>
      set { s with cursor, tokens := s.tokens.push (.scalar false text) }

def quotedScalar (double : Bool) : Scan Unit := do
  noteKeyStart
  allowKey false
  skip 1
  let s ← get
  match readQuoted double s.cursor.fuel s.cursor [] with
  | none => refuse
  | some (text, cursor) =>
      set { s with cursor, tokens := s.tokens.push (.scalar false text) }

def plainScalar : Scan Unit := do
  noteKeyStart
  allowKey false
  let s ← get
  match readPlain (← inFlow) (s.indent + 1).toNat s.cursor.fuel s.cursor {} [] with
  | none => refuse
  | some (text, ended, cursor) =>
      set { s with
        cursor
        tokens := s.tokens.push (.scalar true text)
        keyAllowed := s.keyAllowed || ended }

/-- Characters that cannot begin a plain scalar on their own. -/
def isIndicator (c : Char) : Bool :=
  "-?:,[]{}#&*!|>'\"%@`".toList.contains c

/-- Whether a plain scalar may begin with a character. -/
def beginsPlain (flow : Bool) (c : Char) (rest : List Char) : Bool :=
  !isIndicator c || (c == '-' && !rest.head?.any isBlank)
    || (!flow && (c == '?' || c == ':') && !endsWord rest)

/-- Reads the token that begins with a character. -/
def token (c : Char) (rest : List Char) : Scan Unit := do
  let s ← get
  let flow ← inFlow
  if s.cursor.atMark '-' then documentMark .documentStart
  else if s.cursor.atMark '.' then documentMark .documentEnd
  else if c == '[' then openFlow .flowSequence
  else if c == '{' then openFlow .flowMapping
  else if c == ']' then closeFlow .flowSequenceEnd
  else if c == '}' then closeFlow .flowMappingEnd
  else if c == ',' then flowSeparator
  else if c == '-' && endsWord rest then blockEntry
  else if c == ':' && (flow || endsWord rest) then valueMark
  else if (c == '|' || c == '>') && !flow then blockScalar (c == '|')
  else if c == '\'' || c == '"' then quotedScalar (c == '"')
  else if c != '?' && beginsPlain flow c rest then plainScalar
  else if c == '?' && !flow && !endsWord rest then plainScalar
  else refuse

/-- Reads the tokens up to the end of the text. -/
def tokens : Nat → Scan Unit
  | 0 => refuse
  | fuel + 1 => do
      toNextToken (← get).cursor.fuel
      closeBlocks (← get).cursor.column
      match (← get).cursor.rest with
      | [] => do
          closeBlocks (-1)
          dropKeyStart
      | c :: rest => do
          token c rest
          tokens fuel

end Scan

/-- The tokens of a text; a byte order mark in front of it does not count. -/
def tokenize (source : String) : Option (List Token) := do
  let chars := match source.toList with
    | c :: rest => if c.toNat == 0xFEFF then rest else c :: rest
    | [] => []
  guard (chars.all isPrintable)
  let (_, scanner) ← Scan.tokens (chars.length + 1) { cursor := { rest := chars } }
  return scanner.tokens.toList

end PhoneTree.Yaml

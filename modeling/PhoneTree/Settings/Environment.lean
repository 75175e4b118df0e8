import PhoneTree.Settings.Document
import PhoneTree.Text.Lowercase
import PhoneTree.Text.Percent

namespace PhoneTree.Environment

/-- Variables with their values in order. -/
abbrev Variables := List (String × String)

/-- What the names of all variables begin with, in lower case. -/
def beginning : List Char :=
  "callflow__".toList

/-- The parts of a name between pairs of underscores, after the characters before. -/
def splitPath (before : List Char) : List Char → List (List Char)
  | [] => [before]
  | '_' :: '_' :: rest => before :: splitPath [] rest
  | c :: rest => splitPath (before ++ [c]) rest

/-- Whether a part of a path names a field. -/
def isPart (part : List Char) : Bool :=
  !part.isEmpty && part.all fun c => c.isAlphanum || c == '_' || c == '-' || c == ' '

/-- The path of a name, in lower case. Other variables have none. -/
def path? (name : String) : Option (List String) :=
  let chars := (Text.lowercase name).toList
  if beginning.isPrefixOf chars then
    let parts := splitPath [] (chars.drop beginning.length)
    if parts.all isPart then some (parts.map .ofList) else none
  else none

def fieldsOf : Datum → List (Datum × Datum)
  | .fields fields => fields
  | _ => []

/-- Sets the value at a path; a later value takes the place of an earlier one. -/
def insert (value : String) : List String → Datum → Datum
  | [], _ => .scalar .word value
  | part :: rest, datum =>
      let fields := fieldsOf datum
      let isPart (field : Datum × Datum) : Bool := field.1.text? .json == some part
      let inner := ((fields.find? isPart).map (·.2)).getD (.fields [])
      .fields ((fields.filter fun field => !isPart field)
        ++ [(.scalar .word part, insert value rest inner)])

/-- The document that the variables describe, each set on top of those before it. -/
def tree (environment : Variables) : Datum :=
  environment.foldl (fun tree (name, value) =>
    match path? name with
    | some path => insert value path tree
    | none => tree) (.fields [])

/-- The words that stand for yes and no. -/
def truth? (text : String) : Option Bool :=
  let word := Text.lowercase text
  if ["1", "true", "on", "yes"].contains word then some true
  else if ["0", "false", "off", "no"].contains word then some false
  else none

/-- A number of at most `bits` bits, with an optional plus sign; the words for truth values are
numbers too. -/
def number? (bits : Nat) (text : String) : Option Nat :=
  let digits := match text.toList with
    | '+' :: rest => rest
    | chars => chars
  match Text.Decimal.below? (Nat.pow 2 bits) digits with
  | some n => some n
  | none =>
      let word := Text.lowercase text
      if ["true", "on", "yes"].contains word then some 1
      else if ["false", "off", "no"].contains word then some 0
      else none

def stage? (word : String) : Option Stage :=
  Stage.parse? (Text.lowercase word)

def readers : ValueReaders where
  text := Datum.text? .json
  number bits datum := (datum.text? .json).bind (number? bits)
  truth datum := (datum.text? .json).bind truth?
  stage
    | .fields [(name, _)] => (name.text? .json).bind stage?
    | datum => (datum.text? .json).bind stage?

/-- The settings that the variables describe. -/
def settings? (environment : Variables) : Option Settings :=
  Settings.read? readers (tree environment)

/-- How the characters of a value in a file of variables are read. -/
inductive Quote
  | plain
  | single
  | double
  deriving DecidableEq, Inhabited

/-- The rest of a line after a value may only be blank or a comment. -/
def isEnd (chars : List Char) : Bool :=
  match chars.dropWhile fun c => c == ' ' || c == '\t' with
  | [] => true
  | c :: _ => c == '#'

/-- The value at the front of a line, and whether the line is well formed. -/
def readValue (quote : Quote) : List Char → Option (List Char)
  | [] => if quote == .plain then some [] else none
  | ['\\'] => if quote == .plain then some [] else none
  | '\\' :: c :: rest =>
      if quote == .single then (readValue quote (c :: rest)).map ('\\' :: ·)
      else if c == 'n' then (readValue quote rest).map ('\n' :: ·)
      else if ['\\', '\'', '"', '$', ' '].contains c then (readValue quote rest).map (c :: ·)
      else none
  | c :: rest =>
      match quote, c with
      | .plain, '\'' => readValue .single rest
      | .plain, '"' => readValue .double rest
      | .single, '\'' => readValue .plain rest
      | .double, '"' => readValue .plain rest
      | .plain, ' ' => if isEnd rest then some [] else none
      | .plain, '\t' => if isEnd rest then some [] else none
      | _, _ => (readValue quote rest).map (c :: ·)

/-- Whether a character may stand in the name of a variable. -/
def isNameChar (c : Char) : Bool :=
  c.isAlphanum || c == '_' || c == '.'

/-- A name at the front of a line, with what follows. -/
def readName? (chars : List Char) : Option (String × List Char) :=
  let name := chars.takeWhile isNameChar
  if name.head?.any fun c => c.isAlpha || c == '_' then
    some (.ofList name, (chars.dropWhile isNameChar).dropWhile Text.isSpace)
  else none

/-- A variable after its name: an equals sign and the value. -/
def readAssigned? (name : String) (chars : List Char) : Option (String × String) :=
  match chars with
  | '=' :: rest =>
      match rest.dropWhile Text.isSpace with
      | [] => some (name, "")
      | '#' :: _ => some (name, "")
      | chars => (readValue .plain chars).map fun value => (name, .ofList value)
  | _ => none

/-- A line of a file of variables: nothing or a variable, or `none` if it is malformed. The word
`export` may stand in front. -/
def readLine? (line : List Char) : Option (Option (String × String)) :=
  match (Text.trimEnd line).dropWhile Text.isSpace with
  | [] => some none
  | '#' :: _ => some none
  | chars => do
      let (name, rest) ← readName? chars
      match readAssigned? name rest with
      | some entry => return some entry
      | none =>
          if name == "export" then
            let (name, rest) ← readName? rest
            return some (← readAssigned? name rest)
          else none

/-- The variables of a file, as far as its lines can be read. -/
def readLines : List (List Char) → Variables
  | [] => []
  | line :: rest =>
      match readLine? line with
      | none => []
      | some entry => entry.toList ++ readLines rest

def ofFile (text : String) : Variables :=
  readLines (Text.Percent.splitOn '\n' text.toList)

/-- Variables with those of a file whose names are not among them; of these the first counts. -/
def withFile (environment file : Variables) : Variables :=
  file.foldl (fun known (name, value) =>
    if known.any fun other => other.1 == name then known else known ++ [(name, value)]) environment

end PhoneTree.Environment

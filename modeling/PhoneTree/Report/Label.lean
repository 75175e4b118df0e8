import PhoneTree.Id
import PhoneTree.Json.Value

namespace PhoneTree.Report

/-- The labels of identifiers, and the bound above which identifiers are drawn at random. -/
structure Labels where
  given : List (Uuid × String) := []
  firstRandom : Nat

namespace Labels

/-- Gives the next label of a kind to an identifier that has none. -/
def add (labels : Labels) (kind : String) (id : Uuid) : Labels :=
  if labels.given.any (·.1 == id) then labels
  else
    let count := labels.given.countP fun entry => entry.2.startsWith kind
    let number := Text.Decimal.text (count + 1)
    { labels with given := labels.given ++ [(id, kind ++ number)] }

def find? (labels : Labels) (label : String) : Option Uuid :=
  (labels.given.find? (·.2 == label)).map (·.1)

/-- How an identifier is shown. A random one without a label belongs to nothing. -/
def word (labels : Labels) (id : Uuid) : String :=
  match labels.given.lookup id with
  | some label => label
  | none => if id.bits.toNat < labels.firstRandom then id.text else "LOST"

/-- The identifier whose printed form is given. -/
def printed? (chars : List Char) : Option Uuid :=
  (Uuid.ofHyphenated? chars).bind fun id => if id.chars = chars then some id else none

/-- Shows the identifiers in a text, after some characters that belong to one shown already. -/
def applyToChars (labels : Labels) : Nat → List Char → List Char
  | _, [] => []
  | shown + 1, _ :: rest => applyToChars labels shown rest
  | 0, c :: rest =>
      match printed? ((c :: rest).take 36) with
      | some id => (labels.word id).toList ++ applyToChars labels 35 rest
      | none => c :: applyToChars labels 0 rest

/-- Shows the identifiers in a text. -/
def applyToText (labels : Labels) (text : String) : String :=
  .ofList (labels.applyToChars 0 text.toList)

mutual

/-- Shows the identifiers in the texts of a JSON value. -/
def apply (labels : Labels) : Json → Json
  | .text text => .text (labels.applyToText text)
  | .list items => .list (applyToItems labels items)
  | .object fields => .object (applyToFields labels fields)
  | .null => .null
  | .bool value => .bool value
  | .number literal => .number literal

/-- Shows the identifiers in the texts of items. -/
def applyToItems (labels : Labels) : List Json → List Json
  | [] => []
  | item :: rest => apply labels item :: applyToItems labels rest

/-- Shows the identifiers in the texts of fields. -/
def applyToFields (labels : Labels) : List (String × Json) → List (String × Json)
  | [] => []
  | (name, value) :: rest => (name, apply labels value) :: applyToFields labels rest

end

end Labels

end PhoneTree.Report

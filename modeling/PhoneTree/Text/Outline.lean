import PhoneTree.Text.Decimal
import PhoneTree.Text.Quoted

namespace PhoneTree.Text

/-- A value as it is shown for debugging. -/
inductive Outline
  | atom (text : String)
  | list (items : List Outline)
  | tuple (name : String) (parts : List Outline)
  | record (name : String) (fields : List (String × Outline))
  deriving Inhabited

namespace Outline

mutual

def text : Outline → String
  | atom text => text
  | list items => "[" ++ itemsText items ++ "]"
  | tuple name parts => name ++ "(" ++ itemsText parts ++ ")"
  | record name fields => name ++ " \x7b " ++ fieldsText fields ++ " \x7d"

def itemsText : List Outline → String
  | [] => ""
  | [item] => item.text
  | item :: rest => item.text ++ ", " ++ itemsText rest

/-- The names and texts of fields, separated by commas. -/
def fieldsText : List (String × Outline) → String
  | [] => ""
  | [(name, value)] => name ++ ": " ++ value.text
  | (name, value) :: rest => name ++ ": " ++ value.text ++ ", " ++ fieldsText rest

end

def ofText (text : String) : Outline :=
  atom (quoted text)

def ofNat (n : Nat) : Outline :=
  atom (Decimal.text n)

def ofBool (value : Bool) : Outline :=
  atom (if value then "true" else "false")

def ofOption {α : Type} (outline : α → Outline) : Option α → Outline
  | some a => tuple "Some" [outline a]
  | none => atom "None"

/-- A value that may be computed; then only that is shown. -/
def ofFixed (outline : Option Outline) : Outline :=
  match outline with
  | some outline => tuple "Static" [outline]
  | none => atom "Dynamic(<fn>)"

end Outline

end PhoneTree.Text

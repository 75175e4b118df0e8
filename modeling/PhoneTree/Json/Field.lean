import PhoneTree.Json.Value

namespace PhoneTree.Json

/-- The text in a field; none if the field holds no text. -/
def textAt? (json : Json) (name : String) : Option String :=
  (json.field? name).bind text?

def textAt (json : Json) (name : String) (default : String := "") : String :=
  (json.textAt? name).getD default

def natAt? (json : Json) (name : String) : Option Nat :=
  (json.field? name).bind nat?

def natAt (json : Json) (name : String) (default : Nat := 0) : Nat :=
  (json.natAt? name).getD default

/-- The integer of a field, or zero. -/
def intAt (json : Json) (name : String) : Int :=
  ((json.field? name).bind int?).getD 0

def boolAt (json : Json) (name : String) (default : Bool := false) : Bool :=
  ((json.field? name).bind bool?).getD default

def listAt (json : Json) (name : String) : List Json :=
  ((json.field? name).bind list?).getD []

/-- The texts of a list, with all else in it left out. -/
def textsAt (json : Json) (name : String) : List String :=
  (json.listAt name).filterMap text?

/-- The fields of an object that hold texts. -/
def pairsAt (json : Json) (name : String) : List (String × String) :=
  (((json.field? name).bind object?).getD []).filterMap fun field =>
    field.2.text?.map fun text => (field.1, text)

def valueAt (json : Json) (name : String) : Json :=
  (json.field? name).getD null

def has (json : Json) (name : String) : Bool :=
  (json.object?.getD []).any fun field => field.1 == name

end PhoneTree.Json

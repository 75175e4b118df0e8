import PhoneTree.Document.Datum

namespace PhoneTree

/-- The liberties of a kind of document. -/
structure Dialect where
  /-- Any scalar is a text by its spelling. -/
  anyText : Bool := false
  /-- An empty plain scalar is an empty list. -/
  emptyList : Bool := false
  /-- A record may be written as a list. -/
  listRecords : Bool := true
  /-- A field may be named by its position. -/
  positions : Bool := false
  deriving DecidableEq, Inhabited

namespace Dialect

/-- JSON allows a record as a list, and nothing else beyond the plain shapes. -/
def json : Dialect := {}

/-- In YAML any scalar is a text, and a list is never a record. -/
def yaml : Dialect :=
  { anyText := true, emptyList := true, listRecords := false }

/-- The liberties of parts whose shape decides what they are. -/
def shaped : Dialect :=
  { positions := true }

end Dialect

namespace Datum

/-- Reads a text. Where any scalar may be one, its spelling is taken. -/
def text? (dialect : Dialect) : Datum → Option String
  | scalar .word spelling => some spelling
  | scalar _ spelling => if dialect.anyText then some spelling else none
  | _ => none

def truth? : Datum → Option Bool
  | scalar (.truth value) _ => some value
  | _ => none

/-- Reads an integer from a least one up to a bound. -/
def integer? (least bound : Int) : Datum → Option Int
  | scalar (.integer value) _ => if least ≤ value && value < bound then some value else none
  | _ => none

/-- A number of at most `bits` bits. Where any scalar may be a text, a number has no minus sign,
not even before zero. -/
def natural? (dialect : Dialect) (bits : Nat) : Datum → Option Nat
  | scalar (.integer value) spelling =>
      if dialect.anyText && spelling.toList.head? = some '-' then none
      else if 0 ≤ value && value.toNat < Nat.pow 2 bits then some value.toNat
      else none
  | _ => none

/-- Reads a list. Where nothing may be a list, it has no items. -/
def items? (dialect : Dialect) : Datum → Option (List Datum)
  | list items => some items
  | scalar .null "" => if dialect.emptyList then some [] else none
  | _ => none

/-- A value that may be null. -/
def optional? {α : Type} (read : Datum → Option α) : Datum → Option (Option α)
  | scalar .null _ => some none
  | datum => (read datum).map some

def texts? (dialect : Dialect) (datum : Datum) : Option (List String) := do
  (← datum.items? dialect).mapM (text? dialect)

mutual

/-- Whether a part can be kept until its shape is known: no integer in it is too large. -/
def isKept : Datum → Bool
  | scalar kind _ => kind != .huge
  | list items => areKept items
  | fields pairs => pairsKept pairs

def areKept : List Datum → Bool
  | [] => true
  | item :: rest => item.isKept && areKept rest

/-- Whether all keys and values can be kept. -/
def pairsKept : List (Datum × Datum) → Bool
  | [] => true
  | (key, value) :: rest => key.isKept && value.isKept && pairsKept rest

end

end Datum

/-- The fields of a record that are given. Only a record that names its fields may leave some out
freely. -/
structure Record where
  values : List (String × Datum)
  named : Bool

namespace Record

/-- What a key names: a known field, or an unknown one. -/
def keyName? (dialect : Dialect) (names : List String) (key : Datum) : Option (Option String) :=
  match key with
  | .scalar (.integer position) spelling =>
      if dialect.positions then
        if spelling.toList.head? = some '-' then none else some names[position.toNat]?
      else (key.text? dialect).map fun name => if names.contains name then some name else none
  | _ => (key.text? dialect).map fun name => if names.contains name then some name else none

/-- The given fields of a map. No field is given twice, and a closed record has no unknown ones. -/
def ofPairs (dialect : Dialect) (names : List String) (closed : Bool) :
    List (Datum × Datum) → Option (List (String × Datum))
  | [] => some []
  | (key, value) :: rest => do
      let values ← ofPairs dialect names closed rest
      match ← keyName? dialect names key with
      | none => if closed then none else some values
      | some name =>
          if values.any fun other => other.1 == name then none else some ((name, value) :: values)

/-- Reads a record by the names of its fields, or in their order where lists are allowed. -/
def read? (dialect : Dialect) (names : List String) (closed : Bool) : Datum → Option Record
  | .fields pairs => (ofPairs dialect names closed pairs).map fun values => ⟨values, true⟩
  | .list items =>
      if dialect.listRecords && items.length ≤ names.length then some ⟨names.zip items, false⟩
      else none
  | .scalar _ _ => none

def get? (record : Record) (name : String) : Option Datum :=
  (record.values.find? fun field => field.1 == name).map (·.2)

variable {α : Type} (record : Record)

/-- A field that must be given. -/
def required (name : String) (read : Datum → Option α) : Option α :=
  (record.get? name).bind read

/-- A field that may be null, and may be left out of a record that names its fields. -/
def optional (name : String) (read : Datum → Option α) : Option (Option α) :=
  match record.get? name with
  | some datum => datum.optional? read
  | none => if record.named then some none else none

/-- Reads a field that has a default. A field that is there must be well formed. -/
def withDefault (name : String) (default : α) (read : Datum → Option α) : Option α :=
  match record.get? name with
  | some datum => read datum
  | none => some default

end Record

end PhoneTree

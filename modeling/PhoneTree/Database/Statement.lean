import PhoneTree.Database.Row
import PhoneTree.Dialogue
import PhoneTree.Text.Decimal

namespace PhoneTree.Database

/-- One statement with the values for its places. -/
structure Statement where
  text : String
  parameters : List Cell
  deriving DecidableEq, Inhabited

/-- What the database replies to a statement. -/
inductive Reply
  | rows (rows : List Row)
  | affected (count : Nat)
  | failed (failure : StatementError)
  deriving DecidableEq, Inhabited

namespace Reply

/-- The rows of a reply. A statement that only touches rows gives none. -/
def rows? : Reply → Except StatementError (List Row)
  | rows found => .ok found
  | affected _ => .ok []
  | failed failure => .error failure

/-- How many rows a statement touched; rows that are returned count too. -/
def affected? : Reply → Except StatementError Nat
  | rows found => .ok found.length
  | affected count => .ok count
  | failed failure => .error failure

end Reply

/-- A program that sends statements and ends with a value or an error. -/
abbrev Exchange (α : Type) := ExceptT Failure (Dialogue Statement fun _ => Reply) α

namespace Exchange

variable {α : Type}

/-- Goes on with a result, or ends with what its failure amounts to. -/
def ofResult (result : Except StatementError α) (describe : StatementError → Failure) :
    Exchange α :=
  match result with
  | .ok value => pure value
  | .error failure => throw (describe failure)

/-- Goes on with a value, or ends with its error. -/
def ofExcept (result : Except Failure α) : Exchange α :=
  match result with
  | .ok value => pure value
  | .error error => throw error

def send (text : String) (parameters : List Cell) : Exchange Reply :=
  ExceptT.lift (Dialogue.query (Q := Statement) ⟨text, parameters⟩)

/-- Sends a statement for its effect; the number of rows that it touched. -/
def execute (context text : String) (parameters : List Cell) : Exchange Nat := do
  ofResult (← send text parameters).affected? (·.toFailure context)

/-- Inserts one row; a key that is taken is told apart from other failures. -/
def insert (context text : String) (parameters : List Cell) : Exchange Unit := do
  let _ ← ofResult (← send text parameters).affected? (·.toInsertError context)

def select (context text : String) (parameters : List Cell) : Exchange (List Row) := do
  ofResult (← send text parameters).rows? (·.toFailure context)

/-- Asks for one number, which must be there. -/
def selectCount (context text : String) (parameters : List Cell) : Exchange Int := do
  match ← select context text parameters with
  | [] => throw (StatementError.noRow.toFailure context)
  | row :: _ => ofResult row.count (·.toFailure context)

end Exchange

/-- The names of columns, set apart by commas. -/
def columnList (columns : List String) : String :=
  ", ".intercalate columns

/-- The places `$1`, `$2` and so on of an insertion. -/
def placeList (count : Nat) : String :=
  ", ".intercalate ((List.range count).map fun i => "$" ++ Text.Decimal.text (i + 1))

/-- The statement that inserts one row into a table. -/
def insertion (table : String) (columns : List String) : String :=
  let names := columnList columns
  let places := placeList columns.length
  s!"INSERT INTO {table} ( {names} ) VALUES ({places})"

end PhoneTree.Database

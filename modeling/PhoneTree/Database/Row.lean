import PhoneTree.Id
import PhoneTree.Failure
import PhoneTree.Timestamp

namespace PhoneTree.Database

/-- What a column of a row or a parameter of a statement holds. -/
inductive Cell
  | null
  | uuid (value : Uuid)
  | text (value : String)
  | truth (value : Bool)
  | int4 (value : Int)
  | int8 (value : Int)
  | time (value : Timestamp)
  | bytes (value : List UInt8)
  deriving DecidableEq, Inhabited

namespace Cell

/-- The cell of a value that may be missing, which is then null. -/
def ofOption {α : Type} (write : α → Cell) : Option α → Cell
  | some value => write value
  | none => null

def uuid? : Cell → Option Uuid
  | uuid value => some value
  | _ => none

def text? : Cell → Option String
  | text value => some value
  | _ => none

def truth? : Cell → Option Bool
  | truth value => some value
  | _ => none

/-- An integer of four bytes. -/
def int4? : Cell → Option Int
  | int4 value => some value
  | _ => none

/-- An integer of eight bytes. -/
def int8? : Cell → Option Int
  | int8 value => some value
  | _ => none

def time? : Cell → Option Timestamp
  | time value => some value
  | _ => none

end Cell

/-- Why a database did not do what it was asked, or why an answer of it cannot be read. -/
inductive StatementError
  | rejected (state message : String)
  | disconnected
  | noRow
  | noColumn
  | unexpectedNull
  | mismatchedType
  deriving DecidableEq, Inhabited

namespace StatementError

/-- The message of an error as the database driver words it. -/
def text : StatementError → String
  | rejected _ message => s!"error returned from database: {message}"
  | disconnected => "the connection was closed"
  | noRow => "no rows returned by a query that expected to return at least one row"
  | noColumn => "no column found for name"
  | unexpectedNull => "unexpected null; try decoding as an optional value"
  | mismatchedType => "the column has another type"

/-- The failure that a caller of the store gets to see. -/
def toFailure (failure : StatementError) (context : String) : Failure :=
  .ofDatabase context failure.text

/-- The state of a statement that would have written a key twice. -/
def duplicateKey : String :=
  "23505"

/-- A failure to insert a row: a key that is taken already is told apart. -/
def toInsertError (failure : StatementError) (context : String) : Failure :=
  match failure with
  | rejected state message =>
      if state = duplicateKey then ⟨.duplicate, s!"{context}: {(rejected state message).text}", []⟩
      else (rejected state message).toFailure context
  | failure => failure.toFailure context

end StatementError

/-- A row that a query gave, each cell under the name of its column. -/
structure Row where
  cells : List (String × Cell)
  deriving DecidableEq, Inhabited

namespace Row

variable {α : Type}

/-- What is in a column: a value of the type read, or null. No value is converted. -/
def cell? (row : Row) (column : String) (read : Cell → Option α) :
    Except StatementError (Option α) :=
  match row.cells.lookup column with
  | none => .error .noColumn
  | some .null => .ok none
  | some cell =>
      match read cell with
      | some value => .ok (some value)
      | none => .error .mismatchedType

/-- The failure to read a column, which names the column. -/
def unreadable (column : String) (failure : StatementError) : Failure :=
  failure.toFailure s!"Failed to get {column}"

/-- Reads a column that may be null. -/
def optional (row : Row) (column : String) (read : Cell → Option α) :
    Except Failure (Option α) :=
  (row.cell? column read).mapError (unreadable column)

/-- Reads a column that must be filled. Null in it counts as unreadable. -/
def required (row : Row) (column : String) (read : Cell → Option α) : Except Failure α :=
  match row.cell? column read with
  | .ok (some value) => .ok value
  | .ok none => .error (unreadable column .unexpectedNull)
  | .error failure => .error (unreadable column failure)

/-- Reads the first column as a count. -/
def count (row : Row) : Except StatementError Int :=
  match row.cells with
  | [] => .error .noColumn
  | (_, .null) :: _ => .error .unexpectedNull
  | (_, cell) :: _ =>
      match cell.int8? with
      | some value => .ok value
      | none => .error .mismatchedType

end Row

end PhoneTree.Database

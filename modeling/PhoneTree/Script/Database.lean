import PhoneTree.Database.Statement
import PhoneTree.Json.Field

namespace PhoneTree.Script

open Database

/-- The type of a column of the database, by its name. -/
def columnType (column : String) : String :=
  if ["id", "session_id", "caller_id", "recording_id"].contains column then "uuid"
  else if column == "created_at" then "timestamptz"
  else if ["finished", "unanswered", "transcribed", "timeout", "audio_attached"].contains column
  then
    "bool"
  else if ["length_seconds", "version", "count"].contains column then "int8"
  else if column == "duration_seconds" then "int4"
  else "text"

def cell (type : String) (value : Json) : Cell :=
  match type, value with
  | _, .null => .null
  | "uuid", .text text => ((Uuid.parse? text).map Cell.uuid).getD .null
  | "uuid", value => .uuid (.ofNat (value.nat?.getD 0))
  | "timestamptz", value => .time (.ofMillis (value.int?.getD 0))
  | "bool", value => .truth (value.bool?.getD false)
  | "int8", value => .int8 (value.int?.getD 0)
  | "int4", value => .int4 (value.int?.getD 0)
  | "bytea", _ => .bytes []
  | _, value => .text (value.text?.getD "")

def rows (script : Json) : List Row :=
  let items := script.listAt "rows"
  let columns := ((items.head?.bind Json.object?).getD []).map (·.1)
  let types := script.pairsAt "types"
  items.map fun item => ⟨columns.map fun column =>
    (column, cell ((types.lookup column).getD (columnType column)) (item.valueAt column))⟩

def reply (script : Json) : Reply :=
  if script.has "rows" then .rows (rows script)
  else if script.boolAt "close" then .failed .disconnected
  else match script.textAt? "sqlstate" with
    | some state => .failed (.rejected state (script.textAt "message"))
    | none => .affected (script.natAt "affected")

/-- A database that gives the declared answers in order, and remembers what it was sent. -/
structure ScriptedDatabase where
  replies : List Reply
  sent : List Statement := []

/-- Answers a statement; where no answer is left, nothing was touched. -/
def ScriptedDatabase.answer (statement : Statement) (database : ScriptedDatabase) :
    Reply × ScriptedDatabase :=
  (database.replies.head?.getD (.affected 0),
    { replies := database.replies.tail, sent := database.sent ++ [statement] })

end PhoneTree.Script

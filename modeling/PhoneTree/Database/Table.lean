import PhoneTree.Call.Recording
import PhoneTree.Call.Session
import PhoneTree.Database.Row

namespace PhoneTree

open Database

namespace Turn

/-- The columns of a turn, in the order of its cells. -/
def columns : List String :=
  ["id", "session_id", "prompt_handle", "digits", "transcription", "transcribed", "timeout",
    "recording_id", "created_at"]

/-- The cells of a turn as they are written. -/
def cells (turn : Turn) : List Cell :=
  [.uuid turn.id.uuid, .uuid turn.session.uuid, .text turn.handle.text,
    .ofOption .text turn.digits, .ofOption .text turn.transcription, .truth turn.transcribed,
    .truth turn.timedOut, .ofOption (fun id => .uuid id.uuid) turn.recording,
    .time turn.createdAt]

/-- Reads a turn from its row. -/
def ofRow (row : Row) : Except Failure Turn := do
  let handle ← row.required "prompt_handle" Cell.text?
  let recording ← row.optional "recording_id" Cell.uuid?
  let createdAt ← row.required "created_at" Cell.time?
  let id ← row.required "id" Cell.uuid?
  let session ← row.required "session_id" Cell.uuid?
  let digits ← row.optional "digits" Cell.text?
  let transcription ← row.optional "transcription" Cell.text?
  let transcribed ← row.required "transcribed" Cell.truth?
  let timedOut ← row.required "timeout" Cell.truth?
  return {
    id := ⟨id⟩, session := ⟨session⟩, handle := ⟨handle⟩, digits, transcription, transcribed
    timedOut, recording := recording.map RecordingId.mk, createdAt }

end Turn

namespace Session

/-- The columns of a session; its turns are in a table of their own. -/
def columns : List String :=
  ["id", "sid", "direction", "tree_name", "caller_id", "from_number", "to_number", "from_city",
    "from_province", "from_country", "call_status", "answered_by", "finished", "unanswered",
    "length_seconds", "version", "created_at"]

def statusCell (status : Option CallStatus) : Cell :=
  .ofOption (fun status => .text status.text) status

def verdictCell (verdict : Option AnsweredBy) : Cell :=
  .ofOption (fun verdict => .text verdict.text) verdict

/-- The cells of a session as they are written, its turns left out. -/
def cells (session : Session) : List Cell :=
  [.uuid session.id.uuid, .text session.sid, .text session.direction.text,
    .text session.treeName, .uuid session.caller.uuid, .text session.details.fromNumber,
    .ofOption .text session.details.toNumber, .ofOption .text session.details.city,
    .ofOption .text session.details.province, .ofOption .text session.details.country,
    statusCell session.status, verdictCell session.answeredBy, .truth session.finished,
    .truth session.unanswered, .int8 session.lengthSeconds, .int8 session.version,
    .time session.createdAt]

/-- Reads the word of a status. A word that stands for none is a failure of the database. -/
def storedStatus (word : String) : Except Failure CallStatus :=
  match CallStatus.parse? word with
  | some status => .ok status
  | none =>
      let reason := (unknownStatus word).text
      .error ⟨.database, s!"Invalid call_status '{word}': {reason}", []⟩

def storedDirection (word : String) : Except Failure Direction :=
  match Direction.parse? word with
  | some direction => .ok direction
  | none => .error ⟨.database, s!"Invalid direction: {word}", []⟩

def idOfRow (row : Row) : Except Failure SessionId := do
  return ⟨← row.required "id" Cell.uuid?⟩

/-- Reads a session, of which the identifier and the turns have been read already. -/
def ofRow (row : Row) (id : SessionId) (turns : List Turn) : Except Failure Session := do
  let direction ← row.required "direction" Cell.text?
  let status ← row.optional "call_status" Cell.text?
  let answeredBy ← row.optional "answered_by" Cell.text?
  let createdAt ← row.required "created_at" Cell.time?
  let status ← status.mapM storedStatus
  let sid ← row.required "sid" Cell.text?
  let direction ← storedDirection direction
  let treeName ← row.required "tree_name" Cell.text?
  let caller ← row.required "caller_id" Cell.uuid?
  let fromNumber ← row.required "from_number" Cell.text?
  let toNumber ← row.optional "to_number" Cell.text?
  let city ← row.optional "from_city" Cell.text?
  let province ← row.optional "from_province" Cell.text?
  let country ← row.optional "from_country" Cell.text?
  let finished ← row.required "finished" Cell.truth?
  let unanswered ← row.required "unanswered" Cell.truth?
  let lengthSeconds ← row.required "length_seconds" Cell.int8?
  let version ← row.required "version" Cell.int8?
  return {
    id, sid, direction, treeName, caller := ⟨caller⟩
    details := { fromNumber, toNumber, city, province, country }
    status, answeredBy := answeredBy.map AnsweredBy.ofParam, finished, unanswered, lengthSeconds
    version, turns, createdAt }

end Session

namespace Recording

/-- The columns of a recording, in the order of its cells. -/
def columns : List String :=
  ["id", "session_id", "recording_sid", "url", "duration_seconds", "audio_attached", "created_at"]

/-- The cell of a duration, which must fit into four bytes. -/
def durationCell (seconds : Option Nat) : Except Failure Cell :=
  match seconds with
  | none => .ok .null
  | some n =>
      if n < Nat.pow 2 31 then .ok (.int4 n)
      else
        let number := Text.Decimal.text n
        .error ⟨.validationFailed, s!"Duration of Some({number}) seconds is out of range", []⟩

/-- The cells of a recording as they are written, with the cell of its duration. -/
def cells (recording : Recording) (duration : Cell) : List Cell :=
  [.uuid recording.id.uuid, .uuid recording.session.uuid, .text recording.sid,
    .ofOption .text recording.url, duration, .truth recording.attached, .time recording.createdAt]

/-- Reads a recording; a negative duration counts as none. -/
def ofRow (row : Row) : Except Failure Recording := do
  let duration ← row.optional "duration_seconds" Cell.int4?
  let createdAt ← row.required "created_at" Cell.time?
  let id ← row.required "id" Cell.uuid?
  let session ← row.required "session_id" Cell.uuid?
  let sid ← row.required "recording_sid" Cell.text?
  let url ← row.optional "url" Cell.text?
  let attached ← row.required "audio_attached" Cell.truth?
  return {
    id := ⟨id⟩, session := ⟨session⟩, sid, url
    durationSeconds := duration.bind Int.toNat?, attached, createdAt }

end Recording

namespace Caller

/-- The columns of a caller, in the order of its cells. -/
def columns : List String :=
  ["id", "phone_number", "created_at"]

def cells (caller : Caller) : List Cell :=
  [.uuid caller.id.uuid, .text caller.number, .time caller.createdAt]

/-- Reads a caller from its row. -/
def ofRow (row : Row) : Except Failure Caller := do
  let createdAt ← row.required "created_at" Cell.time?
  let id ← row.required "id" Cell.uuid?
  let number ← row.required "phone_number" Cell.text?
  return { id := ⟨id⟩, number, createdAt }

end Caller

end PhoneTree

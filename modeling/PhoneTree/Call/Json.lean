import PhoneTree.Call.Recording
import PhoneTree.Call.Session
import PhoneTree.Document.Record
import PhoneTree.Job

namespace PhoneTree

namespace Datum

/-- A value that one word stands for; a word may also be the name of an empty field. -/
def word? {α : Type} (parse : String → Option α) : Datum → Option α
  | scalar .word word => parse word
  | fields [(scalar .word word, scalar .null _)] => parse word
  | _ => none

/-- A text that a value can be read from. -/
def parsed? {α : Type} (parse : String → Option α) (datum : Datum) : Option α :=
  (datum.text? .json).bind parse

def int64? : Datum → Option Int :=
  integer? (-(Nat.pow 2 63 : Nat)) (Nat.pow 2 63 : Nat)

end Datum

def Uuid.read? : Datum → Option Uuid :=
  Datum.parsed? Uuid.parse?

def Timestamp.read? : Datum → Option Timestamp :=
  Datum.parsed? Timestamp.parse?

def readText? : Datum → Option String :=
  Datum.text? .json

namespace Turn

/-- A turn as it is shown to others. -/
def toJson (turn : Turn) : Json :=
  .object
    [("id", .text turn.id.uuid.text),
      ("session_id", .text turn.session.uuid.text),
      ("prompt_handle", .text turn.handle.text),
      ("digits", .ofOption .text turn.digits),
      ("transcription", .ofOption .text turn.transcription),
      ("transcribed", .bool turn.transcribed),
      ("timeout", .bool turn.timedOut),
      ("recording_id", .ofOption (fun id => .text id.uuid.text) turn.recording),
      ("created_at", .text turn.createdAt.text)]

/-- Reads a turn; what may be missing is taken for nothing. -/
def read? (datum : Datum) : Option Turn := do
  let record ← Record.read? .json
    ["id", "session_id", "prompt_handle", "digits", "transcription", "transcribed", "timeout",
      "recording_id", "created_at"] false datum
  return {
    id := ⟨← record.required "id" Uuid.read?⟩
    session := ⟨← record.required "session_id" Uuid.read?⟩
    handle := ⟨← record.required "prompt_handle" readText?⟩
    digits := ← record.optional "digits" readText?
    transcription := ← record.optional "transcription" readText?
    transcribed := ← record.required "transcribed" Datum.truth?
    timedOut := ← record.required "timeout" Datum.truth?
    recording := (← record.optional "recording_id" Uuid.read?).map RecordingId.mk
    createdAt := ← record.required "created_at" Timestamp.read? }

end Turn

namespace CallDetails

def toJson (details : CallDetails) : Json :=
  .object
    [("from_number", .text details.fromNumber),
      ("to_number", .ofOption .text details.toNumber),
      ("from_city", .ofOption .text details.city),
      ("from_province", .ofOption .text details.province),
      ("from_country", .ofOption .text details.country)]

def read? (datum : Datum) : Option CallDetails := do
  let record ← Record.read? .json
    ["from_number", "to_number", "from_city", "from_province", "from_country"] false datum
  return {
    fromNumber := ← record.required "from_number" readText?
    toNumber := ← record.optional "to_number" readText?
    city := ← record.optional "from_city" readText?
    province := ← record.optional "from_province" readText?
    country := ← record.optional "from_country" readText? }

end CallDetails

namespace Session

/-- A session as it is shown to others, with its turns. -/
def toJson (session : Session) : Json :=
  .object
    [("id", .text session.id.uuid.text),
      ("sid", .text session.sid),
      ("direction", .text session.direction.text),
      ("tree_name", .text session.treeName),
      ("caller_id", .text session.caller.uuid.text),
      ("details", session.details.toJson),
      ("call_status", .ofOption (fun status => .text status.text) session.status),
      ("answered_by", .ofOption (fun verdict => .text verdict.text) session.answeredBy),
      ("finished", .bool session.finished),
      ("unanswered", .bool session.unanswered),
      ("length_seconds", .ofInt session.lengthSeconds),
      ("version", .ofInt session.version),
      ("turns", .list (session.turns.map Turn.toJson)),
      ("created_at", .text session.createdAt.text)]

/-- Reads a session, each word by the table of its kind. -/
def read? (datum : Datum) : Option Session := do
  let record ← Record.read? .json
    ["id", "sid", "direction", "tree_name", "caller_id", "details", "call_status", "answered_by",
      "finished", "unanswered", "length_seconds", "version", "turns", "created_at"] false datum
  return {
    id := ⟨← record.required "id" Uuid.read?⟩
    sid := ← record.required "sid" readText?
    direction := ← record.required "direction" (Datum.word? Direction.parse?)
    treeName := ← record.required "tree_name" readText?
    caller := ⟨← record.required "caller_id" Uuid.read?⟩
    details := ← record.required "details" CallDetails.read?
    status := ← record.optional "call_status" (Datum.word? CallStatus.parse?)
    answeredBy := ← record.optional "answered_by" (Datum.word? AnsweredBy.parse?)
    finished := ← record.required "finished" Datum.truth?
    unanswered := ← record.required "unanswered" Datum.truth?
    lengthSeconds := ← record.required "length_seconds" Datum.int64?
    version := ← record.required "version" Datum.int64?
    turns := ← record.required "turns" fun datum => do
      (← datum.items? .json).mapM Turn.read?
    createdAt := ← record.required "created_at" Timestamp.read? }

end Session

namespace Recording

def toJson (recording : Recording) : Json :=
  .object
    [("id", .text recording.id.uuid.text),
      ("session_id", .text recording.session.uuid.text),
      ("recording_sid", .text recording.sid),
      ("url", .ofOption .text recording.url),
      ("duration_seconds", .ofOption .ofNat recording.durationSeconds),
      ("audio_attached", .bool recording.attached),
      ("created_at", .text recording.createdAt.text)]

def read? (datum : Datum) : Option Recording := do
  let record ← Record.read? .json
    ["id", "session_id", "recording_sid", "url", "duration_seconds", "audio_attached",
      "created_at"] false datum
  return {
    id := ⟨← record.required "id" Uuid.read?⟩
    session := ⟨← record.required "session_id" Uuid.read?⟩
    sid := ← record.required "recording_sid" readText?
    url := ← record.optional "url" readText?
    durationSeconds := ← record.optional "duration_seconds" (Datum.natural? .json 32)
    attached := ← record.required "audio_attached" Datum.truth?
    createdAt := ← record.required "created_at" Timestamp.read? }

end Recording

namespace Caller

def toJson (caller : Caller) : Json :=
  .object
    [("id", .text caller.id.uuid.text),
      ("phone_number", .text caller.number),
      ("created_at", .text caller.createdAt.text)]

def read? (datum : Datum) : Option Caller := do
  let record ← Record.read? .json ["id", "phone_number", "created_at"] false datum
  return {
    id := ⟨← record.required "id" Uuid.read?⟩
    number := ← record.required "phone_number" readText?
    createdAt := ← record.required "created_at" Timestamp.read? }

end Caller

namespace Job

/-- Work that is still to be done, by its name and whom it is about. -/
def toJson (job : Job) : Json :=
  .object [("job", .text job.name), ("id", .text job.subject.text)]

def read? (datum : Datum) : Option Job := do
  let record ← Record.read? .json ["job", "id"] false datum
  let name ← record.required "job" (Datum.word? some)
  ofName? name (← record.required "id" Uuid.read?)

end Job

end PhoneTree

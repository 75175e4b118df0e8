import PhoneTree.Database.Statement
import PhoneTree.Database.Table
import PhoneTree.Action

namespace PhoneTree.Database

def saveSession (session : Session) : Exchange Unit :=
  .insert "Failed to insert call session" (insertion "call_sessions" Session.columns) session.cells

/-- Updates a session only if it still has the version that it was read with. -/
def updateSession (session : Session) : Exchange Session := do
  let touched ← .execute "Failed to update call session"
    ("UPDATE call_sessions SET call_status = $3, answered_by = $4, finished = $5, "
      ++ "unanswered = $6, length_seconds = $7, version = version + 1 "
      ++ "WHERE id = $1 AND version = $2")
    [.uuid session.id.uuid, .int8 session.version, Session.statusCell session.status,
      Session.verdictCell session.answeredBy, .truth session.finished, .truth session.unanswered,
      .int8 session.lengthSeconds]
  if touched = 0 then
    let found ← .selectCount "Failed to check call session"
      "SELECT COUNT(*) FROM call_sessions WHERE id = $1" [.uuid session.id.uuid]
    if found = 0 then
      throw ⟨.sessionNotFound, s!"Call session not found: {session.id.uuid.text}", []⟩
    else
      let version := Text.Decimal.ofInt session.version
      throw ⟨.conflict, s!"Call {session.sid} was modified since version {version}", []⟩
  else
    return session.advance

/-- Makes a session of its row and of its turns, which take a second query. -/
def loadSession (rows : List Row) : Exchange (Option Session) := do
  match rows with
  | [] => return none
  | row :: _ =>
      let id ← .ofExcept (Session.idOfRow row)
      let names := columnList Turn.columns
      let turnRows ← .select "Failed to fetch turns"
        s!"SELECT {names} FROM response_turns WHERE session_id = $1 ORDER BY created_at, id"
        [.uuid id.uuid]
      let turns ← .ofExcept (turnRows.mapM Turn.ofRow)
      return some (← .ofExcept (Session.ofRow row id turns))

def sessionById (id : SessionId) : Exchange (Option Session) := do
  let names := columnList Session.columns
  loadSession (← .select "Failed to fetch call session"
    s!"SELECT {names} FROM call_sessions WHERE id = $1" [.uuid id.uuid])

/-- Finds the session of the provider's identifier. -/
def sessionBySid (sid : String) : Exchange (Option Session) := do
  let names := columnList Session.columns
  loadSession (← .select "Failed to fetch call session by sid"
    s!"SELECT {names} FROM call_sessions WHERE sid = $1" [.text sid])

/-- How many calls a caller has had with a tree in one direction. -/
def countCalls (caller : CallerId) (tree : String) (direction : Direction) : Exchange Nat := do
  let count ← .selectCount "Failed to count caller calls"
    ("SELECT COUNT(*) FROM call_sessions "
      ++ "WHERE caller_id = $1 AND tree_name = $2 AND direction = $3")
    [.uuid caller.uuid, .text tree, .text direction.text]
  return count.toNat

def saveTurn (turn : Turn) : Exchange Unit :=
  .insert "Failed to insert turn" (insertion "response_turns" Turn.columns) turn.cells

/-- Writes to a turn, which must be there. -/
def writeTurn (turn : TurnId) (context text : String) (parameters : List Cell) :
    Exchange Unit := do
  let touched ← .execute context text (.uuid turn.uuid :: parameters)
  if touched = 0 then throw ⟨.turnNotFound, s!"Turn not found: {turn.uuid.text}", []⟩

/-- Fills in what a turn does not have yet. -/
def recordInput (turn : TurnId) (input : TurnInput) : Exchange Unit :=
  writeTurn turn "Failed to record turn input"
    ("UPDATE response_turns SET digits = COALESCE(digits, $2), "
      ++ "transcribed = transcribed OR (transcription IS NULL AND $3::text IS NOT NULL), "
      ++ "transcription = COALESCE(transcription, $3) WHERE id = $1")
    [.ofOption .text input.digits, .ofOption .text input.transcription]

/-- Marks that nothing was entered in time. -/
def markTimedOut (turn : TurnId) : Exchange Unit :=
  writeTurn turn "Failed to mark turn timed out"
    "UPDATE response_turns SET timeout = TRUE WHERE id = $1" []

/-- Attaches a recording to a turn that has none yet. -/
def attachToTurn (turn : TurnId) (recording : RecordingId) : Exchange Unit :=
  writeTurn turn "Failed to attach recording to turn"
    "UPDATE response_turns SET recording_id = COALESCE(recording_id, $2) WHERE id = $1"
    [.uuid recording.uuid]

def turnById (id : TurnId) : Exchange (Option Turn) := do
  let names := columnList Turn.columns
  let rows ← .select "Failed to fetch turn"
    s!"SELECT {names} FROM response_turns WHERE id = $1" [.uuid id.uuid]
  .ofExcept (rows.head?.mapM Turn.ofRow)

/-- The latest turns of a session on a prompt, at most as many as the limit. -/
def latestTurns (session : SessionId) (handle : PromptHandle) (limit : Nat) :
    Exchange (List Turn) := do
  let names := columnList Turn.columns
  let rows ← .select "Failed to fetch recent turns"
    (s!"SELECT {names} FROM response_turns WHERE session_id = $1 AND prompt_handle = $2 "
      ++ "ORDER BY created_at DESC, id DESC LIMIT $3")
    [.uuid session.uuid, .text handle.text, .int8 (min limit (Nat.pow 2 63 - 1) : Nat)]
  .ofExcept (rows.mapM Turn.ofRow)

/-- The turns of a caller in all calls with a tree, the earliest first. -/
def callerTurns (caller : CallerId) (tree : String) : Exchange (List Turn) := do
  let names := columnList (Turn.columns.map ("t." ++ ·))
  let rows ← .select "Failed to fetch caller history"
    (s!"SELECT {names} FROM response_turns t JOIN call_sessions s ON s.id = t.session_id "
      ++ "WHERE s.caller_id = $1 AND s.tree_name = $2 ORDER BY t.created_at, t.id")
    [.uuid caller.uuid, .text tree]
  .ofExcept (rows.mapM Turn.ofRow)

def recordingExists (session : SessionId) (sid : String) : Exchange Bool := do
  let count ← .selectCount "Failed to check recording existence"
    "SELECT COUNT(*) FROM recordings WHERE session_id = $1 AND recording_sid = $2"
    [.uuid session.uuid, .text sid]
  return decide (0 < count)

/-- Saves a recording; nothing is sent if its duration does not fit. -/
def saveRecording (recording : Recording) : Exchange Unit := do
  let duration ← .ofExcept (Recording.durationCell recording.durationSeconds)
  .insert "Failed to insert recording" (insertion "recordings" Recording.columns)
    (recording.cells duration)

/-- Updates what may change in a recording. One that is not there is a failure. -/
def updateRecording (recording : Recording) : Exchange Unit := do
  let duration ← .ofExcept (Recording.durationCell recording.durationSeconds)
  let touched ← .execute "Failed to update recording"
    "UPDATE recordings SET url = $2, duration_seconds = $3, audio_attached = $4 WHERE id = $1"
    [.uuid recording.id.uuid, .ofOption .text recording.url, duration, .truth recording.attached]
  if touched = 0 then
    throw ⟨.recordingNotFound, s!"Recording not found: {recording.id.uuid.text}", []⟩

def recordingById (id : RecordingId) : Exchange (Option Recording) := do
  let names := columnList Recording.columns
  let rows ← .select "Failed to fetch recording"
    s!"SELECT {names} FROM recordings WHERE id = $1" [.uuid id.uuid]
  .ofExcept (rows.head?.mapM Recording.ofRow)

def callerByNumber (number : String) : Exchange (Option Caller) := do
  let names := columnList Caller.columns
  let rows ← .select "Failed to fetch caller"
    s!"SELECT {names} FROM callers WHERE phone_number = $1" [.text number]
  .ofExcept (rows.head?.mapM Caller.ofRow)

def saveCaller (caller : Caller) : Exchange Unit :=
  .insert "Failed to insert caller"
    "INSERT INTO callers (id, phone_number, created_at) VALUES ($1, $2, $3)" caller.cells

/-- The program for a question, if it is one for the store at all. -/
def program? : (question : Question) → Option (Dialogue Statement (fun _ => Reply) question.Answer)
  | .saveSession session => some (saveSession session).run
  | .updateSession session => some (updateSession session).run
  | .sessionById id => some (sessionById id).run
  | .sessionBySid sid => some (sessionBySid sid).run
  | .countCalls caller tree direction => some (countCalls caller tree direction).run
  | .saveTurn turn => some (saveTurn turn).run
  | .recordInput turn input => some (recordInput turn input).run
  | .markTimedOut turn => some (markTimedOut turn).run
  | .attachToTurn turn recording => some (attachToTurn turn recording).run
  | .turnById id => some (turnById id).run
  | .latestTurns session handle limit => some (latestTurns session handle limit).run
  | .callerTurns caller tree => some (callerTurns caller tree).run
  | .recordingExists session sid => some (recordingExists session sid).run
  | .saveRecording recording => some (saveRecording recording).run
  | .updateRecording recording => some (updateRecording recording).run
  | .recordingById id => some (recordingById id).run
  | .callerByNumber number => some (callerByNumber number).run
  | .saveCaller caller => some (saveCaller caller).run
  | _ => none

end PhoneTree.Database

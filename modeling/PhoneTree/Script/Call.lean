import PhoneTree.Json.Field
import PhoneTree.Action

namespace PhoneTree.Script

/-- The identifier of a number in a field; the first one by default. -/
def idAt (script : Json) (name : String) : Uuid :=
  .ofNat (script.natAt name 1)

def time (script : Json) : Timestamp :=
  .ofMillis (script.intAt "at")

def params (script : Json) (name : String) : Params :=
  .ofList (script.pairsAt name)

def input (script : Json) : TurnInput :=
  { digits := script.textAt? "digits", transcription := script.textAt? "transcription" }

/-- Where a call comes from and goes to. -/
def details (script : Json) : CallDetails :=
  { fromNumber := script.textAt "from", toNumber := script.textAt? "to"
    city := script.textAt? "city", province := script.textAt? "province"
    country := script.textAt? "country" }

/-- A turn; it counts as transcribed where it has a transcription. -/
def turn (script : Json) : Turn :=
  { id := ⟨idAt script "id"⟩, session := ⟨idAt script "session"⟩
    handle := ⟨script.textAt "handle" "menu"⟩
    digits := script.textAt? "digits", transcription := script.textAt? "transcription"
    transcribed := script.boolAt "transcribed" (script.textAt? "transcription").isSome
    timedOut := script.boolAt "timeout"
    recording := (script.natAt? "recording").map fun n => ⟨.ofNat n⟩
    createdAt := time script }

/-- The status of a word. -/
def status (word : String) : Except ValueError CallStatus :=
  match CallStatus.parse? word with
  | some status => .ok status
  | none => .error (unknownStatus word)

def session (script : Json) : Except ValueError Session := do
  let status ← (script.textAt? "status").mapM status
  return {
    id := ⟨idAt script "id"⟩, sid := script.textAt "sid" "CA1"
    direction := .ofParam (script.textAt? "direction"), treeName := script.textAt "tree" "t"
    caller := ⟨idAt script "caller"⟩, details := details script, status
    answeredBy := (script.textAt? "answered_by").map .ofParam
    finished := script.boolAt "finished", unanswered := script.boolAt "unanswered"
    lengthSeconds := script.intAt "length", version := script.intAt "version"
    turns := (script.listAt "turns").map turn, createdAt := time script }

def recording (script : Json) : Recording :=
  { id := ⟨idAt script "id"⟩, session := ⟨idAt script "session"⟩
    sid := script.textAt "sid" "RE1", url := script.textAt? "url"
    durationSeconds := script.natAt? "duration", attached := script.boolAt "attached"
    createdAt := time script }

def history (script : Json) (name : String) : Option History :=
  (script.field? name).map fun history =>
    { inboundCalls := history.natAt "inbound", outboundCalls := history.natAt "outbound"
      turns := (history.listAt "turns").map turn }

/-- The question to the stores that is asked under the name in `do`, if there is one. -/
def question? (script : Json) : Except ValueError (Option Question) := do
  let sessionId : SessionId := ⟨idAt script "session_id"⟩
  let turnId : TurnId := ⟨idAt script "turn_id"⟩
  let recordingId : RecordingId := ⟨idAt script "recording_id"⟩
  let caller : CallerId := ⟨idAt script "caller"⟩
  let tree := script.textAt "tree" "t"
  match script.textAt "do" with
  | "save_session" => return some (.saveSession (← session (script.valueAt "session")))
  | "update_session" => return some (.updateSession (← session (script.valueAt "session")))
  | "find_session" => return some (.sessionById sessionId)
  | "find_sid" => return some (.sessionBySid (script.textAt "sid"))
  | "count" => return some (.countCalls caller tree (.ofParam (script.textAt? "direction")))
  | "save_turn" => return some (.saveTurn (turn (script.valueAt "turn")))
  | "record_input" => return some (.recordInput turnId (input script))
  | "mark_timed_out" => return some (.markTimedOut turnId)
  | "attach_recording" => return some (.attachToTurn turnId recordingId)
  | "find_turn" => return some (.turnById turnId)
  | "latest" =>
      return some (.latestTurns sessionId ⟨script.textAt "handle" "menu"⟩ (script.natAt "limit" 3))
  | "history" => return some (.callerTurns caller tree)
  | "save_recording" => return some (.saveRecording (recording (script.valueAt "recording")))
  | "update_recording" => return some (.updateRecording (recording (script.valueAt "recording")))
  | "recording_exists" => return some (.recordingExists sessionId (script.textAt "sid"))
  | "find_recording" => return some (.recordingById recordingId)
  | "save_caller" => return some (.saveCaller ⟨caller, script.textAt "number", time script⟩)
  | "find_caller" => return some (.callerByNumber (script.textAt "number"))
  | _ => return none

end PhoneTree.Script

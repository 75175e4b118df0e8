import PhoneTree.Service.Session

namespace PhoneTree.Service

open PhoneTree.Action

/-- Receives the recording that a request announces. A recording that the call has already leaves
everything as it is. -/
def receive (account : Account) (session : Session) (turn : Turn) (params : Params) :
    Action Turn := do
  let sid ← requireField params "RecordingSid"
  if ← ofAnswer (← ask (.recordingExists session.id sid)) then
    pure turn
  else
    let id ← freshId
    let createdAt ← now
    let recording ← ofAnswer (Recording.ofParams ⟨id⟩ createdAt session.id params)
    match ← ask (.saveRecording recording) with
    | .error error => if error.kind = .duplicate then pure turn else throw (.ofFailure error)
    | .ok _ => do
        ofAnswer (← ask (.attachToTurn turn.id recording.id))
        if account.attachRecordings then
          ofAnswer (← ask (.schedule (.attachRecording recording.id) attachDelay))
        pure (if turn.recording.isNone then turn.attach recording.id else turn)

/-- Receives the recording of a webhook that reports one. -/
def receiveIfAny (account : Account) (session : Session) (turn : Turn) (params : Params) :
    Action Turn :=
  if params.contains "RecordingSid" then receive account session turn params else pure turn

/-- Answers the webhook for a finished recording. -/
def receiveRecording (account : Account) (id : TurnId) (params : Params) : Action Turn := do
  let session ← findCall params
  let turn ← findTurn session id
  receive account session turn params

/-- Answers the webhook for a finished transcription: keeps what the turn still accepts. -/
def transcribe (account : Account) (id : TurnId) (params : Params) : Action Turn := do
  let session ← findCall params
  let turn ← findTurn session id
  let turn ← receiveIfAny account session turn params
  let input := turn.acceptable (.ofParams params)
  if turn.takes input then
    ofAnswer (← ask (.recordInput turn.id input))
  pure (turn.merge input)

/-- Fetches and keeps the audio of a recording, unless that has been done. -/
def attachRecording (id : RecordingId) : Action Unit := do
  match ← ofAnswer (← ask (.recordingById id)) with
  | none => throw (.recordingNotFound id.uuid.text)
  | some recording =>
      if recording.attached then pure ()
      else
        match recording.url.filter fun url => !Text.isBlank url with
        | none => throw (.validationFailed "url" s!"recording {recording.sid} has no URL")
        | some url => do
            let media ← ofTransport (← ask (.fetchRecording url))
            match ← ask (.storeAudio recording.id media) with
            | .error error => throw (.infrastructure error.text)
            | .ok _ => do ofAnswer (← ask (.updateRecording recording.markAttached))

end PhoneTree.Service

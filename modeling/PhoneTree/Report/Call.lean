import PhoneTree.Json.Value
import PhoneTree.Action

namespace PhoneTree.Report

def input (input : TurnInput) : Json :=
  .object
    [("digits", .ofOption .text input.digits),
      ("transcription", .ofOption .text input.transcription)]

/-- The parts of a report on a turn besides its identifiers and its time. -/
def turnFields (turn : Turn) : List (String × Json) :=
  [("handle", .text turn.handle.text), ("digits", .ofOption .text turn.digits),
    ("transcription", .ofOption .text turn.transcription),
    ("transcribed", .bool turn.transcribed), ("timeout", .bool turn.timedOut)]

/-- A turn as it is shown where identifiers are numbers. -/
def turn (turn : Turn) : Json :=
  let number (id : Uuid) : Json := .ofNat id.bits.toNat
  .object (("id", number turn.id.uuid)
    :: ("recording", .ofOption (fun id => number id.uuid) turn.recording)
    :: ("at", .ofInt turn.createdAt.millis) :: turnFields turn)

def details (details : CallDetails) : Json :=
  .object
    [("from", .text details.fromNumber), ("to", .ofOption .text details.toNumber),
      ("city", .ofOption .text details.city), ("province", .ofOption .text details.province),
      ("country", .ofOption .text details.country)]

/-- The parts of a report on a recording besides its identifier. -/
def recordingFields (recording : Recording) : List (String × Json) :=
  [("sid", .text recording.sid), ("url", .ofOption .text recording.url),
    ("duration", .ofOption .ofNat recording.durationSeconds),
    ("attached", .bool recording.attached)]

/-- A turn as it is shown where identifiers are texts. -/
def storedTurn (turn : Turn) : Json :=
  .object (("id", .text turn.id.uuid.text)
    :: ("recording", .ofOption (fun id => .text id.uuid.text) turn.recording) :: turnFields turn)

def media (media : Media) : Json :=
  .object
    [("content_type", .ofOption .text media.contentType),
      ("hex", .text (Text.Hex.ofBytes media.bytes))]

/-- A session with all that is kept for it. -/
def session (session : Session) (recordings : List (Recording × Option Media)) : Json :=
  .object
    [("id", .text session.id.uuid.text), ("sid", .text session.sid),
      ("direction", .text session.direction.text), ("tree", .text session.treeName),
      ("caller", .text session.caller.uuid.text), ("details", details session.details),
      ("status", .ofOption (fun status => .text status.text) session.status),
      ("answered_by", .ofOption (fun verdict => .text verdict.text) session.answeredBy),
      ("finished", .bool session.finished), ("unanswered", .bool session.unanswered),
      ("length", .ofInt session.lengthSeconds), ("version", .ofInt session.version),
      ("turns", .list (session.turns.map storedTurn)),
      ("recordings", .list (recordings.map fun (recording, audio) =>
        .object (("id", .text recording.id.uuid.text) :: ("audio", .ofOption media audio)
          :: recordingFields recording)))]

/-- A report on a callback that ran. -/
def hook (hook : Hook) (session : Session) : Json :=
  .object
    [("hook", .text (match hook with
        | .unanswered => "on_unanswered"
        | .finished => "on_finished")),
      ("sid", .text session.sid), ("finished", .bool session.finished),
      ("unanswered", .bool session.unanswered),
      ("status", .ofOption (fun status => .text status.text) session.status)]

/-- A report on a call that the provider was asked to place. -/
def outboundCall (request : OutboundCall) : Json :=
  .object
    [("to", .text request.recipient), ("from", .text request.sender), ("url", .text request.url),
      ("status_callback", .text request.statusCallback),
      ("machine_detection", .bool request.machineDetection)]

def outboundMessage (request : OutboundMessage) : Json :=
  .object
    [("to", .text request.recipient), ("from", .text request.sender),
      ("body", .text request.body)]

def statusChange (change : StatusChange) : Json :=
  .object
    [("status_changed", .bool change.statusChanged),
      ("answered_by_changed", .bool change.answeredByChanged),
      ("out_of_order", .bool change.outOfOrder),
      ("became_unanswered", .bool change.becameUnanswered),
      ("became_finished", .bool change.becameFinished), ("changed", .bool change.changed)]

def flags (session : Session) : Json :=
  .object
    [("outbound", .bool session.isOutbound), ("machine", .bool session.isAnsweringMachine),
      ("no_answer", .bool session.isNoAnswer), ("completed", .bool session.isCompleted),
      ("in_progress", .bool session.isInProgress)]

def outcome : StepOutcome → String
  | .redirect => "Redirect"
  | .prompt => "Prompt"
  | .hangup => "Hangup"
  | .invalidPhoneNumber => "InvalidPhoneNumber"
  | .answeringMachine => "AnsweringMachine"
  | .finalTimeout => "FinalTimeout"

/-- A step with the session that it was taken in. -/
def step (step : FlowStep) (session : Session) : Json :=
  .object
    [("outcome", .text (outcome step.outcome)), ("xml", .text step.response.toXml),
      ("verbs", .list (step.response.verbs.map fun verb => .text verb.kind.name)),
      ("ends_with_hangup", .bool step.response.endsWithHangup),
      ("updated_turn", .ofOption turn step.updatedTurn),
      ("turn_change", match step.turnChange with
        | none => .null
        | some .timedOut => .text "timed_out"
        | some (.input accepted) => input accepted),
      ("next_turn", .ofOption turn step.nextTurn),
      ("length", .ofInt session.lengthSeconds), ("turns", .ofNat session.turns.length)]

end PhoneTree.Report

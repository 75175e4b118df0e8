import PhoneTree.Dialogue
import PhoneTree.Document.Record
import PhoneTree.Action
import PhoneTree.Provider.Message

namespace PhoneTree.Provider

/-- The form that starts a call, with the events that are to be reported. -/
def callForm (request : OutboundCall) : List (String × String) :=
  [("To", request.recipient), ("From", request.sender), ("Url", request.url), ("Method", "POST"),
    ("StatusCallback", request.statusCallback), ("StatusCallbackMethod", "POST"),
    ("StatusCallbackEvent", "initiated"), ("StatusCallbackEvent", "ringing"),
    ("StatusCallbackEvent", "answered"), ("StatusCallbackEvent", "completed")]
    ++ if request.machineDetection then [("MachineDetection", "Enable")] else []

def messageForm (request : OutboundMessage) : List (String × String) :=
  [("To", request.recipient), ("From", request.sender), ("Body", request.body)]

/-- Reads some fields of an object in a body; all others are ignored. -/
def fieldsOf? (names : List String) (text : String) : Option Record := do
  let json ← match ← Json.parse text with
    | .object fields => some (Json.object (fields.filter fun field => names.contains field.1))
    | json => some json
  Record.read? .json names false (← Datum.ofJson? json)

/-- The identifier in the body of a success. -/
def createdSid? (body : List UInt8) : Option String := do
  let record ← fieldsOf? ["sid"] (← Text.Utf8.decode? body)
  record.required "sid" (Datum.text? .json)

/-- The code and the message in the body of a rejection. -/
def rejectionParts? (body : String) : Option (Option Nat × Option String) := do
  let record ← fieldsOf? ["code", "message"] body
  return (← record.optional "code" (Datum.natural? .json 32),
    ← record.optional "message" (Datum.text? .json))

/-- A rejection; a body of another form than usual is the message itself. -/
def rejection (status : Nat) (body : String) : TransportError :=
  match rejectionParts? body with
  | some (code, message) => .rejected status (message.getD body) code
  | none => .rejected status body none

/-- The text of a body; a byte order mark at its front is no part of it. -/
def bodyText : List UInt8 → String
  | 0xEF :: 0xBB :: 0xBF :: rest => Text.Utf8.decodeLossy rest
  | body => Text.Utf8.decodeLossy body

/-- What a reply to a form says: the identifier of what was created. -/
def readCreated : Reply → Except TransportError String
  | .unanswered reason => .error (.network reason)
  | .answered status _ body =>
      if Reply.isSuccess status then
        match body.bind createdSid? with
        | some sid => .ok sid
        | none => .error (.invalidResponse "error decoding response body")
      else .error (rejection status (bodyText (body.getD [])))

/-- What a reply to a request for audio says. -/
def readMedia (url : String) : Reply → Except TransportError Media
  | .unanswered reason => .error (.network reason)
  | .answered status contentType body =>
      if Reply.isSuccess status then
        match body with
        | some bytes => .ok { contentType := contentType.bind Reply.printable?, bytes }
        | none => .error (.network "error reading response body")
      else .error (.rejected status s!"Recording download failed for {url}" none)

abbrev Exchange (α : Type) := Dialogue Request (fun _ => Reply) (Except TransportError α)

/-- Makes a request, unless its address cannot be requested. -/
def send {α : Type} (account : Account) (url : String) (form : Option (List (String × String)))
    (read : Reply → Except TransportError α) : Exchange α :=
  match Http.Address.parse? url with
  | none => .done (.error (.network "builder error"))
  | some address =>
      .ask
        { address, authorization := account.authorization
          form := form.map Text.Percent.encodeForm }
        fun reply => .done (read reply)

def startCall (account : Account) (request : OutboundCall) : Exchange String :=
  send account (account.resource "Calls") (some (callForm request)) readCreated

def sendMessage (account : Account) (request : OutboundMessage) : Exchange String :=
  send account (account.resource "Messages") (some (messageForm request)) readCreated

def fetchRecording (account : Account) (url : String) : Exchange Media :=
  send account url none (readMedia url)

/-- The program for a question, if it is one for the provider at all. -/
def program? (account : Account) :
    (question : Question) → Option (Dialogue Request (fun _ => Reply) question.Answer)
  | .startCall request => some (startCall account request)
  | .sendMessage request => some (sendMessage account request)
  | .fetchRecording url => some (fetchRecording account url)
  | _ => none

end PhoneTree.Provider

import PhoneTree.Call.Json
import PhoneTree.Database.Statement
import PhoneTree.Action
import PhoneTree.Provider.Message
import PhoneTree.Report.Call
import PhoneTree.Report.Error

namespace PhoneTree.Report

/-- A result as it is shown, by what shows its value and what shows its failure. -/
def shown {α : Type} (failed : Failure → Json) (write : α → Json) (result : Except Failure α) :
    Json :=
  match result with
  | .ok value => write value
  | .error error => failed error

/-- A report on an answer of the provider, or on the failure in its place. -/
def sent {α : Type} (write : α → Json) (result : Except TransportError α) : Json :=
  match result with
  | .ok value => write value
  | .error error => transportError error

/-- A report on the answer to a question; a turn in a list is shown as `turn` says, and a failure as
`failed` says. -/
def answer (turn : Turn → Json) (failed : Failure → Json) :
    (question : Question) → question.Answer → Json
  | .updateSession session, result =>
      let version := match result with
        | .ok updated => updated.version
        | .error _ => session.version
      .object [("result", shown failed (fun _ => .text "ok") result), ("version", .ofInt version)]
  | .sessionById _, result => shown failed (.ofOption Session.toJson) result
  | .sessionBySid _, result => shown failed (.ofOption Session.toJson) result
  | .countCalls _ _ _, result => shown failed .ofNat result
  | .turnById _, result => shown failed (.ofOption Turn.toJson) result
  | .latestTurns _ _ _, result => shown failed (fun turns => .list (turns.map turn)) result
  | .callerTurns _ _, result => shown failed (fun turns => .list (turns.map turn)) result
  | .recordingExists _ _, result => shown failed .bool result
  | .recordingById _, result => shown failed (.ofOption Recording.toJson) result
  | .callerByNumber _, result => shown failed (.ofOption Caller.toJson) result
  | .saveSession _, result | .saveTurn _, result | .recordInput _ _, result
  | .markTimedOut _, result | .attachToTurn _ _, result | .saveRecording _, result
  | .updateRecording _, result | .saveCaller _, result =>
      shown failed (fun (_ : Unit) => .null) result
  | .startCall _, result => sent .text result
  | .sendMessage _, result => sent .text result
  | .fetchRecording _, result => sent media result
  | _, _ => .null

/-- A report on the value of a parameter. Identifiers are numbers where 64 bits hold them. -/
def cell : Database.Cell → Json
  | .null => .null
  | .uuid id => if id.bits.toNat < Nat.pow 2 64 then .ofNat id.bits.toNat else .text id.text
  | .text text => .text text
  | .truth value => .bool value
  | .int4 value => .ofInt value
  | .int8 value => .ofInt value
  | .time time => .ofInt time.millis
  | .bytes bytes => .text (Text.Hex.ofBytes bytes)

def statement (statement : Database.Statement) : Json :=
  .object
    [("sql", .text statement.text), ("params", .list (statement.parameters.map cell))]

def request (request : Provider.Request) : Json :=
  .object
    [("method", .text request.method), ("path", .text request.address.target),
      ("authorization", .text request.authorization),
      ("content_type", .ofOption .text request.contentType?), ("body", .text request.body)]

def withoutCause (error : Failure) : Failure :=
  if error.message.startsWith "Failed to " then
    { error with message := (error.message.splitOn ": ").headD "" }
  else error

end PhoneTree.Report

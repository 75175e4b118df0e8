import PhoneTree.Call.Params
import PhoneTree.Id
import PhoneTree.Failure
import PhoneTree.Text.Decimal
import PhoneTree.Timestamp

namespace PhoneTree

/-- A recording of a call, whose audio stays with the provider until it is attached. -/
structure Recording where
  id : RecordingId
  session : SessionId
  sid : String
  url : Option String := none
  durationSeconds : Option Nat := none
  attached : Bool := false
  createdAt : Timestamp
  deriving DecidableEq, Inhabited

namespace Recording

/-- A whole number of seconds below 2^32, with an optional plus sign. -/
def parseDuration? (text : String) : Option Nat :=
  match text.toList with
  | '+' :: digits => Text.Decimal.below? (Nat.pow 2 32) digits
  | digits => Text.Decimal.below? (Nat.pow 2 32) digits

/-- The recording that a request announces. -/
def ofParams (id : RecordingId) (createdAt : Timestamp) (session : SessionId) (params : Params) :
    Except Failure Recording :=
  match params.get? "RecordingSid" with
  | none => .error { kind := .validationFailed, message := "RecordingSid is required" }
  | some sid =>
      .ok
        { id, session, sid, createdAt
          url := params.get? "RecordingUrl"
          durationSeconds := (params.get? "RecordingDuration").bind parseDuration? }

/-- Marks that the audio is kept. -/
def markAttached (recording : Recording) : Recording :=
  { recording with attached := true }

end Recording

/-- Somebody who has called or been called, known by a number. -/
structure Caller where
  id : CallerId
  number : String
  createdAt : Timestamp
  deriving DecidableEq, Inhabited

end PhoneTree

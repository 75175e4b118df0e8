import PhoneTree.Flow.Step

namespace PhoneTree

/-- Why the provider could not be asked or did not do what it was asked. -/
inductive TransportError
  | network (message : String)
  | rejected (status : Nat) (message : String) (code : Option Nat)
  | invalidResponse (message : String)
  deriving DecidableEq, Inhabited

namespace TransportError

def text : TransportError → String
  | network message => s!"Network error: {message}"
  | rejected status message _ =>
      s!"Provider rejected request with status {Text.Decimal.text status}: {message}"
  | invalidResponse message => s!"Invalid provider response: {message}"

/-- The provider's code for recipients that want no messages. -/
def unsubscribedCode : Nat := 21610

/-- Whether the recipient wants no messages. -/
def isUnsubscribed : TransportError → Bool
  | rejected _ _ code => code == some unsubscribedCode
  | _ => false

/-- Sets the provider's code of a rejection. -/
def withCode (code : Nat) : TransportError → TransportError
  | rejected status message _ => rejected status message (some code)
  | error => error

end TransportError

/-- Why a request about a call cannot be answered. -/
inductive CallError
  | treeNotFound (name : String)
  | callNotFound (call : String)
  | turnNotFound (turn : String)
  | recordingNotFound (recording : String)
  | validationFailed (field message : String)
  | flow (error : FlowError)
  | callback (error : CallbackError)
  | transport (error : TransportError)
  | infrastructure (message : String)
  deriving DecidableEq, Inhabited

namespace CallError

def text : CallError → String
  | treeNotFound name => s!"Tree not found: {name}"
  | callNotFound call => s!"Call not found: {call}"
  | turnNotFound turn => s!"Turn not found: {turn}"
  | recordingNotFound recording => s!"Recording not found: {recording}"
  | validationFailed field message => s!"Validation failed for '{field}': {message}"
  | flow error => error.text
  | callback error => s!"Callback failed: {error.message}"
  | transport error => error.text
  | infrastructure message => s!"Error: {message}"

/-- The kind of failure that an error counts as. -/
def kind : CallError → FailureKind
  | treeNotFound _ | validationFailed _ _ => .validationFailed
  | callNotFound _ => .sessionNotFound
  | turnNotFound _ => .turnNotFound
  | recordingNotFound _ => .recordingNotFound
  | flow _ | callback _ | transport _ | infrastructure _ => .internal

/-- What a failure of a store amounts to for a call. -/
def ofFailure (error : Failure) : CallError :=
  match error.kind with
  | .sessionNotFound => callNotFound error.message
  | .turnNotFound => turnNotFound error.message
  | .recordingNotFound => recordingNotFound error.message
  | .validationFailed => validationFailed "unknown" error.message
  | _ => infrastructure error.text

end CallError

end PhoneTree

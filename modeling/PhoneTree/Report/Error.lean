import PhoneTree.CallError
import PhoneTree.Json.Value
import PhoneTree.Tree.Error

namespace PhoneTree.Report

/-- A failure by its name, with the message if one is to be shown. -/
def failure (kind : String) (text : Option String) : Json :=
  .object (("error", .text kind) :: (text.map fun text => ("message", Json.text text)).toList)

def treeErrorName : TreeError → String
  | .emptyName => "EmptyTreeName"
  | .badName _ => "InvalidTreeName"
  | .missingGreeting _ => "MissingGreeting"
  | .emptyHandle _ => "EmptyPromptHandle"
  | .duplicatePrompt _ _ => "DuplicatePrompt"
  | .unknownPrompt _ _ _ => "UnknownPrompt"
  | .badMessage _ => "InvalidMessage"
  | .badGather _ => "InvalidGather"
  | .badAfter _ => "InvalidAfter"
  | .badConfig _ => "InvalidConfig"
  | .duplicateTree _ => "DuplicateTree"
  | .badChoices _ => "InvalidMacroArgument"
  | .unreadable => "Parse"
  | .unavailable => "Io"

/-- A report on a tree error. Why a document cannot be read is not part of it. -/
def treeError (error : TreeError) : Json :=
  match error with
  | .unreadable | .unavailable => failure (treeErrorName error) none
  | error => failure (treeErrorName error) (some error.text)

def codedFailure (error : Failure) : Json :=
  failure error.kind.code (some error.message)

def valueError (error : ValueError) : Json :=
  match error with
  | .empty _ => failure "EmptyField" (some error.text)
  | .badFormat _ _ => failure "InvalidFormat" (some error.text)

def callbackError (error : CallbackError) : Json :=
  failure "Callback" (some error.message)

/-- A report on a step that cannot be taken. -/
def flowError (error : FlowError) : Json :=
  .object
    [("error", .text (if error.isIntegrity then "FlowIntegrity" else "Callback")),
      ("message", .text error.text), ("integrity", .bool error.isIntegrity)]

def transportName : TransportError → String
  | .network _ => "Network"
  | .rejected _ _ _ => "Rejected"
  | .invalidResponse _ => "InvalidResponse"

def transportError (error : TransportError) : Json :=
  let kind := [("error", Json.text (transportName error)),
    ("unsubscribed", .bool error.isUnsubscribed)]
  .object <| match error with
    | .rejected status message code =>
        kind ++ [("message", .text error.text), ("status", .ofNat status),
          ("code", .ofOption .ofNat code), ("detail", .text message)]
    | _ => kind

def callErrorName : CallError → String
  | .treeNotFound _ => "TreeNotFound"
  | .callNotFound _ => "CallNotFound"
  | .turnNotFound _ => "TurnNotFound"
  | .recordingNotFound _ => "RecordingNotFound"
  | .validationFailed _ _ => "ValidationFailed"
  | .flow _ => "Flow"
  | .callback _ => "Callback"
  | .transport _ => "Transport"
  | .infrastructure _ => "Infrastructure"

/-- A report on a call error. What an unreadable answer of the provider said is not part of it. -/
def callError (error : CallError) : Json :=
  let kind := [("error", Json.text (callErrorName error)), ("code", .text error.kind.code)]
  let message := [("message", Json.text error.text)]
  .object <| match error with
    | .transport (.invalidResponse _) => kind ++ [("transport", .text "InvalidResponse")]
    | .transport transport => kind ++ ("transport", .text (transportName transport)) :: message
    | _ => kind ++ message

end PhoneTree.Report

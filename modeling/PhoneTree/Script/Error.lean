import PhoneTree.CallError
import PhoneTree.Json.Field

namespace PhoneTree.Script

/-- A failure to reach the provider, or a rejection by it. -/
def transportError (kind : String) (script : Json) : TransportError :=
  let message := script.textAt "message"
  let error : TransportError := match kind with
    | "network" => .network message
    | "invalid" => .invalidResponse message
    | _ => .rejected (script.natAt "status" 500) message none
  ((script.natAt? "code").map error.withCode).getD error

def callError (transport : String) (script : Json) : CallError :=
  let arg := script.textAt "arg"
  match script.textAt "variant" with
  | "tree" => .treeNotFound arg
  | "call" => .callNotFound arg
  | "turn" => .turnNotFound arg
  | "recording" => .recordingNotFound arg
  | "validation" => .validationFailed (script.textAt "field") arg
  | "flow" => .flow (.unknownPrompt (script.textAt "tree") arg)
  | "flow_callback" => .flow (.callback ⟨arg⟩)
  | "callback" => .callback ⟨arg⟩
  | "transport" => .transport (transportError transport script)
  | _ => .infrastructure arg

end PhoneTree.Script

import PhoneTree.Json.Field
import PhoneTree.Provider.Client

namespace PhoneTree.Script

open Provider

def bytes (script : Json) (name : String) : List UInt8 :=
  match script.textAt? "hex" with
  | some digits => (Text.Hex.toBytes? digits.toList).getD []
  | none => Text.Utf8.encode (script.textAt name)

def apiServer : String :=
  "BASE"

def providerAccount (script : Json) : Provider.Account :=
  { sid := script.textAt "account", token := script.textAt "token"
    api := "http://" ++ apiServer ++ script.textAt "base_suffix" }

def outboundCall (script : Json) : OutboundCall :=
  { recipient := script.textAt "to", sender := script.textAt "from", url := script.textAt "url"
    statusCallback := script.textAt "status_callback"
    machineDetection := script.boolAt "machine_detection" }

def outboundMessage (script : Json) : OutboundMessage :=
  { recipient := script.textAt "to", sender := script.textAt "from", body := script.textAt "body" }

def providerQuestion (script : Json) : Question :=
  match script.field? "start_call", script.field? "send_message", script.textAt? "fetch" with
  | some call, _, _ => .startCall (outboundCall call)
  | _, some message, _ => .sendMessage (outboundMessage message)
  | _, _, some path => .fetchRecording ("http://" ++ apiServer ++ path)
  | _, _, none => .fetchRecording (script.textAt "url")

/-- A reply. Some statuses have no body, and a body that is shorter than announced breaks off. -/
def providerReply (script : Json) : Reply :=
  match script.field? "response" with
  | none => .unanswered "connection closed before message completed"
  | some response =>
      let status := response.natAt "status" 200
      let body := bytes response "body"
      let length := response.natAt "length" body.length
      let contentType := (response.textAt? "content_type").map fun text =>
        String.ofList (Http.Address.clean text)
      .answered status contentType <|
        if status == 204 || status == 304 then some []
        else if body.length < length then none
        else some (body.take length)

/-- Replies to the requests that reach the declared server, and remembers them. -/
def answerRequest (reply : Reply) (request : Request) (sent : List Request) :
    Reply × List Request :=
  if request.address.authority == apiServer && !request.address.secure then
    (reply, sent ++ [request])
  else (.unanswered "error trying to connect", sent)

end PhoneTree.Script

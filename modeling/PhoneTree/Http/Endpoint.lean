import PhoneTree.Http.Router
import PhoneTree.Json.Writer
import PhoneTree.Service.Call

namespace PhoneTree.Http

open Service

/-- A request as the server receives it. -/
structure Request where
  method : String
  path : String
  query : List UInt8 := []
  contentType : Option String := none
  body : List UInt8 := []
  deriving Inhabited

/-- An answer: markup, an error in JSON, or a bare status of the protocol. -/
inductive Response
  | markup (response : VoiceResponse)
  | failure (status : Nat) (code message : String)
  | bare (status : Nat)
  deriving Inhabited

namespace Response

/-- The status code of a response. -/
def status : Response → Nat
  | markup _ => 200
  | failure status _ _ => status
  | bare status => status

def contentType? : Response → Option String
  | markup _ => some "application/xml"
  | failure _ _ _ => some "application/json"
  | bare _ => none

/-- The body of a response as text. -/
def content : Response → String
  | markup response => response.toXml
  | failure _ code message =>
      (Json.object [("error_code", .text code), ("message", .text message)]).render
  | bare _ => ""

end Response

/-- The status and the code that an error is reported with. -/
def errorStatus : CallError → Nat × String
  | .treeNotFound _ => (404, "TREE_NOT_FOUND")
  | .callNotFound _ => (404, "CALL_NOT_FOUND")
  | .turnNotFound _ => (404, "TURN_NOT_FOUND")
  | .recordingNotFound _ => (404, "RECORDING_NOT_FOUND")
  | .validationFailed _ _ => (400, "VALIDATION_FAILED")
  | .flow _ => (500, "FLOW_INTEGRITY")
  | .callback _ => (500, "CALLBACK_FAILED")
  | .transport _ => (502, "PROVIDER_ERROR")
  | .infrastructure _ => (500, "INTERNAL_ERROR")

/-- The answer to a request that failed. -/
def ofError (error : CallError) : Response :=
  .failure (errorStatus error).1 (errorStatus error).2 error.text

/-- The answer to a request for another account. -/
def accountMismatch : Response :=
  .markup .hangupOnly

/-- Does what a webhook asks for and gives the markup. -/
def perform (account : Account) (registry : Registry) (params : Params) :
    Webhook → Action VoiceResponse
  | .inbound tree => return (← inboundCall registry tree params).2.response
  | .outbound tree => return (← outboundCall registry tree params).response
  | .prompt tree turn => return (← prompt registry tree turn params).response
  | .promptResponse tree turn =>
      return (← promptResponse account registry tree turn params).response
  | .timeout tree turn => return (← timeout registry tree turn params).response
  | .receiveRecording turn => do
      let _ ← receiveRecording account turn params
      return {}
  | .transcribe turn => do
      let _ ← transcribe account turn params
      return {}
  | .status => do
      let _ ← updateCall params
      return {}

/-- Whether a body is announced as a form. -/
def isForm (contentType : Option String) : Bool :=
  contentType.any fun value =>
    "application/x-www-form-urlencoded".toList.isPrefixOf value.toList
      && value.toList.all fun c => c == '\t' || (' ' ≤ c && c ≤ '~')

/-- The webhook that a request is for, with its parameters, or the response that rejects it. -/
def route (request : Request) : Except Response (Webhook × Params) :=
  match matchPath request.path.toList with
  | none => .error (.bare 404)
  | some path =>
      if request.method != "GET" && request.method != "POST" then .error (.bare 405)
      else
        match path.webhook? with
        | none => .error (.bare 400)
        | some webhook =>
            if request.method == "GET" then
              .ok (webhook, .ofList (Text.Percent.decodeForm request.query))
            else if isForm request.contentType then
              .ok (webhook, .ofList (Text.Percent.decodeForm request.body))
            else .error (.bare 415)

/-- Whether a request names the provider account that the program serves. -/
def isAuthorized (accountSid : String) (params : Params) : Bool :=
  params.accountSid?.getD "" == accountSid

/-- The program that answers a request; it never fails. Requests for another provider account end
the call and touch nothing. -/
def respond (accountSid : String) (account : Account) (registry : Registry) (request : Request) :
    Dialogue Question Question.Answer Response :=
  match route request with
  | .error response => pure response
  | .ok (webhook, params) =>
      if isAuthorized accountSid params then do
        match ← ExceptT.run (perform account registry params webhook) with
        | .ok response => pure (.markup response)
        | .error error => pure (ofError error)
      else pure accountMismatch

end PhoneTree.Http

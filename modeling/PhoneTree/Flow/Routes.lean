import PhoneTree.Id

namespace PhoneTree

/-- A point at which the provider can call back. -/
inductive Webhook
  | inbound (tree : String)
  | outbound (tree : String)
  | prompt (tree : String) (turn : TurnId)
  | promptResponse (tree : String) (turn : TurnId)
  | timeout (tree : String) (turn : TurnId)
  | receiveRecording (turn : TurnId)
  | transcribe (turn : TurnId)
  | status
  deriving DecidableEq, Inhabited

namespace Webhook

/-- The segments of the path at which a webhook is received. -/
def segments : Webhook → List String
  | inbound tree => ["phone", tree, "inbound"]
  | outbound tree => ["phone", tree, "outbound"]
  | prompt tree turn => ["phone", tree, "prompt", turn.uuid.text]
  | promptResponse tree turn => ["phone", tree, "prompt_response", turn.uuid.text]
  | timeout tree turn => ["phone", tree, "timeout", turn.uuid.text]
  | receiveRecording turn => ["phone", "receive_recording", turn.uuid.text]
  | transcribe turn => ["phone", "transcribe", turn.uuid.text]
  | status => ["phone", "status"]

/-- The path that the provider is told to call back at. -/
def path (webhook : Webhook) : String :=
  .ofList (webhook.segments.flatMap fun segment => '/' :: segment.toList)

/-- The address of a webhook on a host, whose slashes at the end are left out. -/
def address (host : String) (webhook : Webhook) : String :=
  .ofList ((host.toList.reverse.dropWhile (· == '/')).reverse) ++ webhook.path

end Webhook

end PhoneTree

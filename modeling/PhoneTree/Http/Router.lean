import PhoneTree.Flow.Routes
import PhoneTree.Text.Percent

namespace PhoneTree.Http

/-- A path parameter before it is decoded. -/
abbrev Segment := List Char

/-- A path that leads to a webhook, with its parameters as they were sent. -/
inductive RoutedPath
  | inbound (tree : Segment)
  | outbound (tree : Segment)
  | prompt (tree turn : Segment)
  | promptResponse (tree turn : Segment)
  | timeout (tree turn : Segment)
  | receiveRecording (turn : Segment)
  | transcribe (turn : Segment)
  | status
  deriving DecidableEq

/-- The segments of a path, which must begin with a slash. -/
def splitPath (path : List Char) : Option (List Segment) :=
  match path with
  | '/' :: rest => some (Text.Percent.splitOn '/' rest)
  | _ => none

def isWord (segment : Segment) (word : String) : Bool :=
  segment == word.toList

/-- The path of two segments below the root of the webhooks, or of a call and its entry point. -/
def matchPair (first second : Segment) : Option RoutedPath :=
  if isWord first "receive_recording" && !second.isEmpty then some (.receiveRecording second)
  else if isWord first "transcribe" && !second.isEmpty then some (.transcribe second)
  else if isWord second "inbound" then some (.inbound first)
  else if isWord second "outbound" then some (.outbound first)
  else none

/-- The route of the three segments that follow the root. -/
def matchTriple (tree event turn : Segment) : Option RoutedPath :=
  if turn.isEmpty then none
  else if isWord event "prompt" then some (.prompt tree turn)
  else if isWord event "prompt_response" then some (.promptResponse tree turn)
  else if isWord event "timeout" then some (.timeout tree turn)
  else none

/-- The route of the segments of a path. Literal segments go before those of a tree. -/
def matchSegments : List Segment → Option RoutedPath
  | [root, single] => if isWord root "phone" && isWord single "status" then some .status else none
  | [root, first, second] => if isWord root "phone" then matchPair first second else none
  | [root, tree, event, turn] =>
      if isWord root "phone" then matchTriple tree event turn else none
  | _ => none

def matchPath (path : List Char) : Option RoutedPath :=
  (splitPath path).bind matchSegments

/-- A parameter as a text, if its bytes are well formed. -/
def decodeText (segment : Segment) : Option String :=
  Text.Utf8.decode? (Text.Percent.unescape (Text.Utf8.encodeChars segment))

/-- Reads the turn that a segment names. -/
def decodeTurn (segment : Segment) : Option TurnId :=
  ((decodeText segment).bind Uuid.parse?).map TurnId.mk

/-- The webhook of a matched path, if its parameters can be read. -/
def RoutedPath.webhook? : RoutedPath → Option Webhook
  | inbound tree => return .inbound (← decodeText tree)
  | outbound tree => return .outbound (← decodeText tree)
  | prompt tree turn => return .prompt (← decodeText tree) (← decodeTurn turn)
  | promptResponse tree turn => return .promptResponse (← decodeText tree) (← decodeTurn turn)
  | timeout tree turn => return .timeout (← decodeText tree) (← decodeTurn turn)
  | receiveRecording turn => return .receiveRecording (← decodeTurn turn)
  | transcribe turn => return .transcribe (← decodeTurn turn)
  | status => return .status

end PhoneTree.Http

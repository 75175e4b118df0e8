import PhoneTree.Call.Recording
import PhoneTree.CallError
import PhoneTree.Dialogue
import PhoneTree.Job

namespace PhoneTree

/-- Audio as it was fetched, with the type that came with it. -/
structure Media where
  contentType : Option String := none
  bytes : List UInt8 := []
  deriving DecidableEq, Inhabited

/-- Why audio could not be kept. -/
structure StorageError where
  message : String
  deriving DecidableEq, Inhabited

def StorageError.text (error : StorageError) : String :=
  s!"I/O error: {error.message}"

/-- A call that the provider is asked to place. -/
structure OutboundCall where
  recipient : String
  sender : String
  url : String
  statusCallback : String
  machineDetection : Bool
  deriving DecidableEq, Inhabited

/-- A text message that the provider is asked to send. -/
structure OutboundMessage where
  recipient : String
  sender : String
  body : String
  deriving DecidableEq, Inhabited

/-- Which lifecycle callback of a tree runs. -/
inductive Hook
  | unanswered
  | finished
  deriving DecidableEq, Inhabited

/-- What the program asks of its surroundings: the stores, the scheduler, the provider, the
callbacks of trees, fresh identifiers and the clock. -/
inductive Question
  | saveSession (session : Session)
  | updateSession (session : Session)
  | sessionById (id : SessionId)
  | sessionBySid (sid : String)
  | countCalls (caller : CallerId) (tree : String) (direction : Direction)
  | saveTurn (turn : Turn)
  | recordInput (turn : TurnId) (input : TurnInput)
  | markTimedOut (turn : TurnId)
  | attachToTurn (turn : TurnId) (recording : RecordingId)
  | turnById (id : TurnId)
  | latestTurns (session : SessionId) (handle : PromptHandle) (limit : Nat)
  | callerTurns (caller : CallerId) (tree : String)
  | recordingExists (session : SessionId) (sid : String)
  | saveRecording (recording : Recording)
  | updateRecording (recording : Recording)
  | recordingById (id : RecordingId)
  | callerByNumber (number : String)
  | saveCaller (caller : Caller)
  | schedule (job : Job) (delaySeconds : Nat)
  | storeAudio (recording : RecordingId) (media : Media)
  | startCall (request : OutboundCall)
  | sendMessage (request : OutboundMessage)
  | fetchRecording (url : String)
  | runHook (hook : Hook) (callback : LifecycleCallback) (session : Session)
  | freshId
  | currentTime

/-- What each question is answered with. An updated session comes back with its new version. -/
def Question.Answer : Question → Type
  | saveSession _ => Except Failure Unit
  | updateSession _ => Except Failure Session
  | sessionById _ => Except Failure (Option Session)
  | sessionBySid _ => Except Failure (Option Session)
  | countCalls _ _ _ => Except Failure Nat
  | saveTurn _ => Except Failure Unit
  | recordInput _ _ => Except Failure Unit
  | markTimedOut _ => Except Failure Unit
  | attachToTurn _ _ => Except Failure Unit
  | turnById _ => Except Failure (Option Turn)
  | latestTurns _ _ _ => Except Failure (List Turn)
  | callerTurns _ _ => Except Failure (List Turn)
  | recordingExists _ _ => Except Failure Bool
  | saveRecording _ => Except Failure Unit
  | updateRecording _ => Except Failure Unit
  | recordingById _ => Except Failure (Option Recording)
  | callerByNumber _ => Except Failure (Option Caller)
  | saveCaller _ => Except Failure Unit
  | schedule _ _ => Except Failure Unit
  | storeAudio _ _ => Except StorageError String
  | startCall _ => Except TransportError String
  | sendMessage _ => Except TransportError String
  | fetchRecording _ => Except TransportError Media
  | runHook _ _ _ => Except CallbackError Unit
  | freshId => Uuid
  | currentTime => Timestamp

/-- A program over these questions that ends with a value or an error. -/
abbrev Action (α : Type) := ExceptT CallError (Dialogue Question Question.Answer) α

namespace Action

/-- Asks one question and gives back its answer. -/
def ask (question : Question) : Action question.Answer :=
  ExceptT.lift (Dialogue.query question)

/-- Goes on with the value of an answer, or ends with what its failure amounts to. -/
def ofAnswer {α : Type} (answer : Except Failure α) : Action α :=
  match answer with
  | .ok value => pure value
  | .error error => throw (.ofFailure error)

def freshId : Action Uuid :=
  ask .freshId

def now : Action Timestamp :=
  ask .currentTime

/-- Goes on with the outcome of a step, or ends with its failure. -/
def ofFlow {α : Type} (result : Except FlowError α) : Action α :=
  match result with
  | .ok value => pure value
  | .error error => throw (.flow error)

/-- Goes on with the provider's answer, or ends with its failure. -/
def ofTransport {α : Type} (answer : Except TransportError α) : Action α :=
  match answer with
  | .ok value => pure value
  | .error error => throw (.transport error)

end Action

end PhoneTree

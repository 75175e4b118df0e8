import PhoneTree.Call.History
import PhoneTree.Call.Session

namespace PhoneTree

/-- Why a computed value or a lifecycle callback failed. -/
structure CallbackError where
  message : String
  deriving DecidableEq, Inhabited

def CallbackError.ofFailure (error : Failure) : CallbackError :=
  ⟨error.text⟩

/-- What a computed value may look at. -/
structure FlowContext where
  session : Session
  turn : Option Turn := none
  history : Option History := none
  answers : AnswerWords := {}
  deriving Inhabited

namespace FlowContext

/-- What was entered in the current turn. -/
def digits (context : FlowContext) : Option String :=
  context.turn.bind (·.digits)

def transcription (context : FlowContext) : Option String :=
  context.turn.bind (·.transcription)

/-- Whether the current turn was answered with a yes. -/
def answersYes (context : FlowContext) : Bool :=
  context.turn.any (·.answersYes context.answers)

/-- Whether the current turn says no. -/
def answersNo (context : FlowContext) : Bool :=
  context.turn.any (·.answersNo context.answers)

/-- The last turn of the call on a prompt that did not time out. -/
def completedTurnFor? (context : FlowContext) (handle : PromptHandle) : Option Turn :=
  context.session.completedTurnFor? handle

def firstTurnFor? (context : FlowContext) (handle : PromptHandle) : Option Turn :=
  context.session.firstTurnFor? handle

/-- How often the caller has called on this tree, as far as the history is known. -/
def callCount (context : FlowContext) : Nat :=
  (context.history.map (·.inboundCalls)).getD 0

def outboundCallCount (context : FlowContext) : Nat :=
  (context.history.map (·.outboundCalls)).getD 0

/-- The current turn in the place of its older copy; other turns stay as they are. -/
def refresh (context : FlowContext) (turn : Turn) : Turn :=
  match context.turn with
  | some current => if current.id = turn.id then current else turn
  | none => turn

/-- The caller's turns on a prompt over all calls, with the current turn as it now stands. Without
a history the current turn is all there is. -/
def callerTurns (context : FlowContext) (handle : PromptHandle) : List Turn :=
  match context.history with
  | some history => (history.turnsFor handle).map context.refresh
  | none => (context.turn.filter fun turn => turn.handle == handle).toList

/-- The latest turn of the caller on a prompt, over all calls. -/
def responseFor? (context : FlowContext) (handle : PromptHandle) : Option Turn :=
  (context.callerTurns handle).getLast?

def responseReached (context : FlowContext) (handle : PromptHandle) : Bool :=
  (context.responseFor? handle).isSome

/-- The number that the caller last entered on a prompt. -/
def responseDigits (context : FlowContext) (handle : PromptHandle) : Option Nat :=
  ((context.callerTurns handle).reverse.find? fun turn => !turn.timedOut).bind (·.integerDigits)

/-- Whether the current turn is the caller's first on its prompt; timed out turns may be left out
of the count. -/
def firstForCaller (context : FlowContext) (includeTimeouts : Bool) : Bool :=
  match context.turn with
  | none => false
  | some current =>
      ((context.callerTurns current.handle).find? fun turn =>
        includeTimeouts || !turn.timedOut).any fun first => first.id == current.id

end FlowContext

end PhoneTree

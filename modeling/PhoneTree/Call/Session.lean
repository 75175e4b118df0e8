import PhoneTree.Call.Status
import PhoneTree.Call.Turn
import PhoneTree.Failure

namespace PhoneTree

/-- Where a call comes from and goes to. -/
structure CallDetails where
  fromNumber : String := ""
  toNumber : Option String := none
  city : Option String := none
  province : Option String := none
  country : Option String := none
  deriving DecidableEq, Inhabited

namespace CallDetails

/-- The details that a request carries. -/
def ofParams (params : Params) : CallDetails where
  fromNumber := (params.firstOf? ["Caller", "From"]).getD ""
  toNumber := params.firstOf? ["Called", "To"]
  city := params.firstOf? ["CallerCity", "FromCity"]
  province := params.firstOf? ["CallerState", "FromState"]
  country := params.firstOf? ["CallerCountry", "FromCountry"]

/-- The known parts of the place, from the city up. -/
def location (details : CallDetails) : Option String :=
  match [details.city, details.province, details.country].filterMap id with
  | [] => none
  | parts => some (", ".intercalate parts)

end CallDetails

/-- What a request reports about the progress of a call. -/
structure StatusUpdate where
  status : Option CallStatus := none
  answeredBy : Option AnsweredBy := none
  deriving DecidableEq, Inhabited

namespace StatusUpdate

/-- The update that a request carries; unknown statuses are dropped. -/
def ofParams (params : Params) : StatusUpdate where
  status := (params.get? "CallStatus").bind CallStatus.parse?
  answeredBy := (params.get? "AnsweredBy").map AnsweredBy.ofParam

def isEmpty (update : StatusUpdate) : Bool :=
  update.status.isNone && update.answeredBy.isNone

end StatusUpdate

/-- What has become of a session with a status update. -/
structure StatusChange where
  statusChanged : Bool := false
  answeredByChanged : Bool := false
  outOfOrder : Bool := false
  becameUnanswered : Bool := false
  becameFinished : Bool := false
  deriving DecidableEq, Inhabited

/-- Whether an update has changed anything at all. -/
def StatusChange.changed (change : StatusChange) : Bool :=
  change.statusChanged || change.answeredByChanged

/-- A call with its turns in the order of their creation. Once created it changes by status updates,
by marks for what happened after the call, and by turns, which determine its length. -/
structure Session where
  id : SessionId
  sid : String
  direction : Direction
  treeName : String
  caller : CallerId
  details : CallDetails
  status : Option CallStatus := none
  answeredBy : Option AnsweredBy := none
  finished : Bool := false
  unanswered : Bool := false
  lengthSeconds : Int := 0
  version : Int := 0
  turns : List Turn := []
  createdAt : Timestamp
  deriving DecidableEq, Inhabited

namespace Session

/-- Seconds added to the time between the first and the last turn. -/
def lengthBuffer : Int := 5

/-- A new session without turns; the call and the tree must be named. -/
def create (id : SessionId) (createdAt : Timestamp) (sid : String) (direction : Direction)
    (treeName : String) (caller : CallerId) (details : CallDetails) :
    Except Failure Session :=
  if Text.isBlank sid then
    .error { kind := .validationFailed, message := "Call sid cannot be empty" }
  else if Text.isBlank treeName then
    .error { kind := .validationFailed, message := "Tree name cannot be empty" }
  else
    .ok { id, sid, direction, treeName, caller, details, createdAt }

def isOutbound (session : Session) : Bool :=
  session.direction == .outbound

/-- Whether a machine took the call that we placed. -/
def isAnsweringMachine (session : Session) : Bool :=
  session.isOutbound && session.answeredBy == some .machineStart

/-- Whether nobody took the call that we placed. -/
def isNoAnswer (session : Session) : Bool :=
  session.isOutbound && session.status.any CallStatus.isNoAnswer

/-- Whether the call came to its regular end. -/
def isCompleted (session : Session) : Bool :=
  session.status == some .completed

/-- Whether a call still goes on. One of which nothing has been reported does. -/
def isInProgress (session : Session) : Bool :=
  match session.status with
  | some status => status.isInProgress
  | none => true

/-- Takes over who answered. Only outbound calls are answered by somebody. -/
def answer (session : Session) (answeredBy : Option AnsweredBy) : Session :=
  match answeredBy with
  | some verdict =>
      if session.isOutbound then { session with answeredBy := some verdict } else session
  | none => session

/-- Takes over a status, if one is reported. -/
def progress (session : Session) (status : Option CallStatus) : Session :=
  match status with
  | some status => { session with status := some status }
  | none => session

/-- Takes over what an update reports. -/
def afterUpdate (session : Session) (update : StatusUpdate) : Session :=
  (session.answer update.answeredBy).progress update.status

/-- What a status update does to a session. A call becomes finished on entering a terminal status
from another kind, and unanswered by a change that leaves it without an answer. -/
def changeBy (session : Session) (update : StatusUpdate) : StatusChange :=
  let next := session.afterUpdate update
  let statusChanged := next.status != session.status
  let answeredByChanged := next.answeredBy != session.answeredBy
  { statusChanged
    answeredByChanged
    outOfOrder :=
      match session.status, next.status with
      | some current, some status => statusChanged && !current.canBecome status
      | _, _ => false
    becameFinished :=
      statusChanged && next.status.any CallStatus.isTerminal
        && !session.status.any CallStatus.isTerminal
    becameUnanswered :=
      (statusChanged && next.isNoAnswer) || (answeredByChanged && next.isAnsweringMachine) }

def hasTurn (session : Session) (id : TurnId) : Bool :=
  session.turns.any fun turn => turn.id == id

/-- Puts a turn in the place of the first one with its identifier. -/
def replaceFirst (turn : Turn) : List Turn → List Turn
  | [] => []
  | other :: rest => if other.id = turn.id then turn :: rest else other :: replaceFirst turn rest

/-- Puts a turn in the place of the one with its identifier, if there is one. -/
def replaceTurn (session : Session) (turn : Turn) : Session :=
  { session with turns := replaceFirst turn session.turns }

/-- The earliest and the latest creation time of turns. -/
def span : List Turn → Option (Timestamp × Timestamp)
  | [] => none
  | turn :: rest =>
      match span rest with
      | none => some (turn.createdAt, turn.createdAt)
      | some (first, last) =>
          some (if turn.createdAt ≤ first then turn.createdAt else first,
            if last ≤ turn.createdAt then turn.createdAt else last)

/-- The length that turns imply: the whole seconds they span and a buffer, or nothing. -/
def lengthOf (turns : List Turn) : Int :=
  match span turns with
  | some (first, last) => last.secondsSince first + lengthBuffer
  | none => 0

/-- Sets the length that the turns imply. -/
def recalculate (session : Session) : Session :=
  { session with lengthSeconds := lengthOf session.turns }

/-- Stores a turn, in its place or at the end, and sets the length. -/
def recordTurn (session : Session) (turn : Turn) : Session :=
  (if session.hasTurn turn.id then session.replaceTurn turn
  else { session with turns := session.turns ++ [turn] }).recalculate

/-- Marks that what follows the end of the call has been done. -/
def markFinished (session : Session) : Session :=
  { session with finished := true }

def markUnanswered (session : Session) : Session :=
  { session with unanswered := true }

/-- The session as it is after one more successful update. -/
def advance (session : Session) : Session :=
  { session with version := session.version + 1 }

def turn? (session : Session) (id : TurnId) : Option Turn :=
  session.turns.find? fun turn => turn.id == id

/-- The earliest turn of a call on a prompt. -/
def firstTurnFor? (session : Session) (handle : PromptHandle) : Option Turn :=
  session.turns.find? fun turn => turn.handle == handle

/-- The last turn on a prompt that did not time out. -/
def completedTurnFor? (session : Session) (handle : PromptHandle) : Option Turn :=
  session.turns.reverse.find? fun turn => turn.handle == handle && !turn.timedOut

/-- The last turns on a prompt, latest first. -/
def recentTurnsFor (session : Session) (handle : PromptHandle) (limit : Nat) : List Turn :=
  (session.turns.reverse.filter fun turn => turn.handle == handle).take limit

end Session

end PhoneTree

import PhoneTree.Call.History
import PhoneTree.Call.Recording
import PhoneTree.Call.Session
import PhoneTree.Text.Decimal

namespace PhoneTree

/-- Everything that is stored about calls, in the order in which it was first saved. Session rows
are kept without their turns, and nothing is ever removed. -/
structure Store where
  sessions : List Session := []
  turns : List Turn := []
  recordings : List Recording := []
  callers : List Caller := []
  conflicts : Nat := 0
  deriving Inhabited

namespace Store

/-- A session as its row has it, without turns. -/
def row (session : Session) : Session :=
  { session with turns := [] }

/-- The turns of a session in the order in which they were saved. -/
def turnsOf (store : Store) (session : SessionId) : List Turn :=
  store.turns.filter fun turn => turn.session == session

/-- A session with its turns. -/
def load (store : Store) (row : Session) : Session :=
  { row with turns := store.turnsOf row.id }

def sessionRow? (store : Store) (id : SessionId) : Option Session :=
  store.sessions.find? fun session => session.id == id

/-- The session of an identifier, with its turns. -/
def sessionById (store : Store) (id : SessionId) : Option Session :=
  (store.sessionRow? id).map store.load

/-- The session of a call, as the provider names the call. -/
def sessionBySid (store : Store) (sid : String) : Option Session :=
  (store.sessions.find? fun session => session.sid == sid).map store.load

/-- Puts a row in the place of the one with its identifier, or at the end. -/
def putRow (row : Session) : List Session → List Session
  | [] => [row]
  | other :: rest => if other.id = row.id then row :: rest else other :: putRow row rest

/-- Stores a new session; its call must be new. -/
def saveSession (store : Store) (session : Session) : Except Failure Store :=
  if store.sessions.any fun other => other.sid == session.sid then
    .error { kind := .duplicate, message := s!"Call {session.sid} already exists" }
  else .ok { store with sessions := putRow (row session) store.sessions }

/-- Stores a session over the version that it is based on, and gives the session its next version.
While conflicts are due, one of them is used up instead. -/
def updateSession (store : Store) (session : Session) : Except Failure Session × Store :=
  match store.conflicts with
  | due + 1 =>
      (.error { kind := .conflict, message := s!"Call {session.sid} was modified concurrently" },
        { store with conflicts := due })
  | 0 =>
      match store.sessionRow? session.id with
      | none =>
          (.error
            { kind := .sessionNotFound
              message := s!"Call session {session.id.uuid.text} not found" }, store)
      | some stored =>
          if stored.version = session.version then
            (.ok session.advance,
              { store with sessions := putRow (row session.advance) store.sessions })
          else
            (.error
              { kind := .conflict
                message := s!"Call {session.sid} is at version {
                  Text.Decimal.ofInt stored.version}, update was based on {
                  Text.Decimal.ofInt session.version}" }, store)

/-- How many calls a caller has had with a tree in one direction. -/
def countCalls (store : Store) (caller : CallerId) (tree : String) (direction : Direction) : Nat :=
  store.sessions.countP fun session =>
    session.caller == caller && session.treeName == tree && session.direction == direction

def turnById (store : Store) (id : TurnId) : Option Turn :=
  store.turns.find? fun turn => turn.id == id

/-- Adds a turn whose identifier is not taken. -/
def saveTurn (store : Store) (turn : Turn) : Except Failure Store :=
  if store.turns.any fun other => other.id == turn.id then
    .error { kind := .duplicate, message := s!"Turn {turn.id.uuid.text} already exists" }
  else .ok { store with turns := store.turns ++ [turn] }

/-- Changes the first turn of an identifier. -/
def modifyTurn (id : TurnId) (change : Turn → Turn) : List Turn → List Turn
  | [] => []
  | turn :: rest => if turn.id = id then change turn :: rest else turn :: modifyTurn id change rest

/-- Changes a turn that must be there. -/
def changeTurn (store : Store) (id : TurnId) (change : Turn → Turn) : Except Failure Store :=
  match store.turnById id with
  | some _ => .ok { store with turns := modifyTurn id change store.turns }
  | none => .error { kind := .turnNotFound, message := s!"Turn {id.uuid.text} not found" }

/-- Fills the empty fields of a turn from input. -/
def recordInput (store : Store) (id : TurnId) (input : TurnInput) : Except Failure Store :=
  store.changeTurn id fun turn => turn.merge input

def markTimedOut (store : Store) (id : TurnId) : Except Failure Store :=
  store.changeTurn id Turn.markTimedOut

/-- Attaches a recording to a turn that has none yet. -/
def attachToTurn (store : Store) (id : TurnId) (recording : RecordingId) :
    Except Failure Store :=
  store.changeTurn id fun turn => if turn.recording.isNone then turn.attach recording else turn

/-- The latest turns of a session on a prompt, at most as many as the limit. -/
def latestTurns (store : Store) (session : SessionId) (handle : PromptHandle) (limit : Nat) :
    List Turn :=
  (store.turns.reverse.filter fun turn => turn.session == session && turn.handle == handle).take
    limit

/-- Whether a session belongs to a caller and a tree. -/
def ownedBy (store : Store) (caller : CallerId) (tree : String) (session : SessionId) : Bool :=
  (store.sessionRow? session).any fun row => row.caller == caller && row.treeName == tree

/-- The turns of a caller in all calls with a tree. -/
def callerTurns (store : Store) (caller : CallerId) (tree : String) : List Turn :=
  store.turns.filter fun turn => store.ownedBy caller tree turn.session

/-- Whether a call has a recording of the provider already. -/
def recordingExists (store : Store) (session : SessionId) (sid : String) : Bool :=
  store.recordings.any fun recording => recording.session == session && recording.sid == sid

def recordingById (store : Store) (id : RecordingId) : Option Recording :=
  store.recordings.find? fun recording => recording.id == id

/-- Puts a recording in the place of the one with its identifier, or at the end. -/
def putRecording (recording : Recording) : List Recording → List Recording
  | [] => [recording]
  | other :: rest =>
      if other.id = recording.id then recording :: rest else other :: putRecording recording rest

/-- Stores a recording that is new to its call. -/
def saveRecording (store : Store) (recording : Recording) : Except Failure Store :=
  if store.recordingExists recording.session recording.sid then
    .error { kind := .duplicate, message := s!"Recording {recording.sid} already stored" }
  else .ok { store with recordings := putRecording recording store.recordings }

/-- Stores a recording over its former state. -/
def updateRecording (store : Store) (recording : Recording) : Except Failure Store :=
  match store.recordingById recording.id with
  | some _ => .ok { store with recordings := putRecording recording store.recordings }
  | none =>
      .error
        { kind := .recordingNotFound, message := s!"Recording {recording.id.uuid.text} not found" }

def callerByNumber (store : Store) (number : String) : Option Caller :=
  store.callers.find? fun caller => caller.number == number

/-- Stores a caller whose number is new. -/
def saveCaller (store : Store) (caller : Caller) : Except Failure Store :=
  if store.callers.any fun other => other.number == caller.number then
    .error { kind := .duplicate, message := s!"Caller {caller.number} already exists" }
  else .ok { store with callers := store.callers ++ [caller] }

/-- The recordings of a session. -/
def recordingsOf (store : Store) (session : SessionId) : List Recording :=
  store.recordings.filter fun recording => recording.session == session

end Store

end PhoneTree

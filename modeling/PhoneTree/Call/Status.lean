namespace PhoneTree

/-- How far a call has come. -/
inductive CallStatus
  | queued
  | initiated
  | ringing
  | inProgress
  | completed
  | busy
  | failed
  | noAnswer
  | canceled
  deriving DecidableEq, Inhabited

namespace CallStatus

def all : List CallStatus :=
  [queued, initiated, ringing, inProgress, completed, busy, failed, noAnswer, canceled]

/-- The word of the provider for a status. -/
def text : CallStatus → String
  | queued => "queued"
  | initiated => "initiated"
  | ringing => "ringing"
  | inProgress => "in-progress"
  | completed => "completed"
  | busy => "busy"
  | failed => "failed"
  | noAnswer => "no-answer"
  | canceled => "canceled"

def parse? (word : String) : Option CallStatus :=
  all.find? fun status => status.text == word

/-- The statuses that may follow one. -/
def successors : CallStatus → List CallStatus
  | queued => [initiated, ringing, inProgress, busy, failed, noAnswer, canceled]
  | initiated => [ringing, inProgress, busy, failed, noAnswer, canceled]
  | ringing => [inProgress, busy, failed, noAnswer, canceled]
  | inProgress => [completed, failed]
  | completed => []
  | busy => []
  | failed => []
  | noAnswer => []
  | canceled => []

/-- Whether a status may follow another. -/
def canBecome (status next : CallStatus) : Bool :=
  status.successors.contains next

/-- Whether a call has come to its end with a status, so that none may follow. -/
def isTerminal (status : CallStatus) : Bool :=
  status.successors.isEmpty

/-- Whether the called party could not be reached. -/
def isNoAnswer : CallStatus → Bool
  | busy | failed | noAnswer => true
  | _ => false

/-- Whether a call with a status still goes on. -/
def isInProgress : CallStatus → Bool
  | queued | initiated | ringing | inProgress => true
  | _ => false

theorem parse?_text (status : CallStatus) : parse? status.text = some status := by
  cases status <;> decide

end CallStatus

/-- Which party placed a call. -/
inductive Direction
  | inbound
  | outbound
  deriving DecidableEq, Inhabited

namespace Direction

def text : Direction → String
  | inbound => "inbound"
  | outbound => "outbound"

def parse? (word : String) : Option Direction :=
  [inbound, outbound].find? fun direction => direction.text == word

/-- The direction that a webhook names: outbound for every word that begins so. -/
def ofParam (value : Option String) : Direction :=
  match value with
  | some word => if "outbound".toList.isPrefixOf word.toList then outbound else inbound
  | none => inbound

theorem parse?_text (direction : Direction) : parse? direction.text = some direction := by
  cases direction <;> decide

end Direction

/-- Who or what took a call, as the provider tells. -/
inductive AnsweredBy
  | human
  | machineStart
  | machineEndBeep
  | machineEndSilence
  | machineEndOther
  | fax
  | unknown
  deriving DecidableEq, Inhabited

namespace AnsweredBy

def all : List AnsweredBy :=
  [human, machineStart, machineEndBeep, machineEndSilence, machineEndOther, fax, unknown]

/-- The word of the provider for a verdict. -/
def text : AnsweredBy → String
  | human => "human"
  | machineStart => "machine_start"
  | machineEndBeep => "machine_end_beep"
  | machineEndSilence => "machine_end_silence"
  | machineEndOther => "machine_end_other"
  | fax => "fax"
  | unknown => "unknown"

def parse? (word : String) : Option AnsweredBy :=
  all.find? fun verdict => verdict.text == word

/-- The verdict that a webhook names; words outside the list are unknown verdicts. -/
def ofParam (word : String) : AnsweredBy :=
  (parse? word).getD unknown

end AnsweredBy

end PhoneTree

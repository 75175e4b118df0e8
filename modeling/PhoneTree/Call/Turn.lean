import PhoneTree.Call.Params
import PhoneTree.Id
import PhoneTree.Text.Lowercase
import PhoneTree.Timestamp

namespace PhoneTree

/-- The name of a prompt within its tree. -/
structure PromptHandle where
  text : String
  deriving DecidableEq, Inhabited

/-- What a caller entered or said. -/
structure TurnInput where
  digits : Option String := none
  transcription : Option String := none
  deriving DecidableEq, Inhabited

namespace TurnInput

/-- The input that a request carries. A transcription text counts once it is completed. -/
def ofParams (params : Params) : TurnInput where
  digits := params.get? "Digits"
  transcription :=
    (params.get? "SpeechResult").or
      (if params.get? "TranscriptionStatus" = some "completed" then
        params.get? "TranscriptionText"
      else none)

/-- Whether nothing was entered and nothing was said. -/
def isEmpty (input : TurnInput) : Bool :=
  input.digits.isNone && input.transcription.isNone

end TurnInput

/-- The words by which an answer counts as a yes or as a no. -/
structure AnswerWords where
  yes : List String := ["yes", "accept", "ya", "yeah", "true", "ok", "okay"]
  no : List String := ["no", "naw", "nah", "reject", "decline", "negative", "not", "false"]
  deriving DecidableEq, Inhabited

/-- One time that a caller has been at a prompt, with what came of it: input or a timeout. -/
structure Turn where
  id : TurnId
  session : SessionId
  handle : PromptHandle
  digits : Option String := none
  transcription : Option String := none
  transcribed : Bool := false
  timedOut : Bool := false
  recording : Option RecordingId := none
  createdAt : Timestamp
  deriving DecidableEq, Inhabited

/-- What a step did to a turn. -/
inductive TurnChange
  | input (accepted : TurnInput)
  | timedOut
  deriving DecidableEq, Inhabited

namespace Turn

/-- Fills the empty fields from input. -/
def merge (turn : Turn) (input : TurnInput) : Turn :=
  { turn with
    digits := turn.digits.or input.digits
    transcription := turn.transcription.or input.transcription
    transcribed := turn.transcribed || (turn.transcription.isNone && input.transcription.isSome) }

/-- Whether an input has something that the turn does not have yet. -/
def takes (turn : Turn) (input : TurnInput) : Bool :=
  (turn.digits.isNone && input.digits.isSome)
    || (turn.transcription.isNone && input.transcription.isSome)

/-- Marks that the caller gave no input in time. -/
def markTimedOut (turn : Turn) : Turn :=
  { turn with timedOut := true }

def attach (turn : Turn) (recording : RecordingId) : Turn :=
  { turn with recording := some recording }

/-- Whether something was entered or said. -/
def hasInput (turn : Turn) : Bool :=
  turn.digits.isSome || turn.transcription.isSome

/-- Whether a turn waits for nothing any more. -/
def isSettled (turn : Turn) : Bool :=
  turn.hasInput || turn.timedOut

/-- The part of some input that the turn may still take. A settled turn takes nothing more, except
the transcription of its recording. -/
def acceptable (turn : Turn) (input : TurnInput) : TurnInput :=
  if turn.isSettled then
    { digits := none
      transcription :=
        if turn.recording.isSome && turn.transcription.isNone then input.transcription else none }
  else input

/-- The number that the digits stand for, if they are nothing but digits and it fits 64 bits. -/
def integerDigits (turn : Turn) : Option Nat :=
  turn.digits.bind fun digits => Text.Decimal.below? (Nat.pow 2 64) digits.toList

/-- Whether nothing but the keys `#` and `*` was pressed. -/
def poundStar (turn : Turn) : Bool :=
  match turn.digits with
  | some digits => !digits.toList.isEmpty && digits.toList.all fun c => c == '#' || c == '*'
  | none => false

def occursIn (needle : List Char) : List Char → Bool
  | [] => needle.isEmpty
  | c :: rest => needle.isPrefixOf (c :: rest) || occursIn needle rest

/-- Whether the transcription contains one of the patterns, whatever the case of letters. Empty
patterns never match. -/
def mentions (turn : Turn) (patterns : List String) : Bool :=
  match turn.transcription with
  | some text =>
      patterns.any fun pattern =>
        !pattern.isEmpty && occursIn (Text.lowercase pattern).toList (Text.lowercase text).toList
  | none => false

/-- What a transcription can be searched for: digits or words, anywhere or as the whole text. -/
inductive Pattern
  | digits (whole : Bool)
  | words (text : String) (whole : Bool)
  deriving DecidableEq, Inhabited

/-- Whether a pattern is found in a text, or is the whole of it if it must be. -/
def Pattern.occursIn (text : String) : Pattern → Bool
  | digits whole =>
      let chars := text.toList
      if whole then !chars.isEmpty && chars.all Text.Decimal.isDigit
      else chars.any Text.Decimal.isDigit
  | words sought whole =>
      if whole then text == sought else Turn.occursIn sought.toList text.toList

/-- Whether what was said fits a pattern. Without a transcription nothing fits. -/
def fits (turn : Turn) (pattern : Pattern) : Bool :=
  turn.transcription.any fun text => pattern.occursIn text

/-- Whether what was said counts as a yes. -/
def answersYes (turn : Turn) (words : AnswerWords) : Bool :=
  turn.mentions words.yes

/-- Whether what was said counts as a no. -/
def answersNo (turn : Turn) (words : AnswerWords) : Bool :=
  turn.mentions words.no

end Turn

end PhoneTree

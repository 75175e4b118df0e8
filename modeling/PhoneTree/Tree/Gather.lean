import PhoneTree.Tree.Error

namespace PhoneTree

/-- Collects keys that are pressed. -/
structure DigitsGather where
  timeout : Nat := 5
  number : Nat := 1
  finishOnKey : Option String := none
  interrupt : Bool := false
  deriving DecidableEq, Inhabited

/-- Records what is said. -/
structure VoiceGather where
  length : Nat := 10
  timeout : Option Nat := none
  beep : Bool := true
  transcribe : Bool := false
  profanityFilter : Bool := false
  deriving DecidableEq, Inhabited

/-- Listens to what is said and has it transcribed at once. -/
structure SpeechGather where
  language : String := "en-US"
  timeout : Option Nat := none
  speechTimeout : Option String := none
  speechModel : Option String := none
  enhanced : Bool := false
  profanityFilter : Bool := false
  deriving DecidableEq, Inhabited

/-- How the answer to a prompt is collected. -/
inductive Gather
  | digits (spec : DigitsGather)
  | voice (spec : VoiceGather)
  | speech (spec : SpeechGather)
  deriving DecidableEq, Inhabited

namespace Gather

/-- The word for the kind of input. -/
def kind : Gather → String
  | digits _ => "digits"
  | voice _ => "voice"
  | speech _ => "speech"

/-- Whether a key interrupts the messages of the prompt. -/
def interrupts : Gather → Bool
  | digits spec => spec.interrupt
  | _ => false

/-- The rule that a declaration breaks, if any. -/
def fault? : Gather → Option GatherFault
  | digits spec =>
      if spec.number = 0 then some .noDigits
      else if spec.timeout = 0 then some .noDigitsTimeout
      else none
  | voice spec => if spec.length = 0 then some .noVoiceLength else none
  | speech spec => if Text.isBlank spec.language then some .blankLanguage else none

end Gather

end PhoneTree

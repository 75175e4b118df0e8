import PhoneTree.Flow.Context

namespace PhoneTree

/-- The rule that a message breaks. -/
inductive MessageFault
  | blankText
  | blankVoice
  | badUrl (url : String)
  | noPause
  | missingKind
  | strayVoice
  | severalKinds
  deriving DecidableEq, Inhabited

def MessageFault.text : MessageFault → String
  | blankText => "say text cannot be blank"
  | blankVoice => "voice cannot be blank"
  | badUrl url => s!"play url '{url}' must start with http:// or https://"
  | noPause => "pause must be at least one second"
  | missingKind => "message needs one of say, play or pause"
  | strayVoice => "voice only applies to say messages"
  | severalKinds => "message must have exactly one of say, play or pause"

/-- The rule that the collection of input breaks. -/
inductive GatherFault
  | noDigits
  | noDigitsTimeout
  | noVoiceLength
  | blankLanguage
  deriving DecidableEq, Inhabited

/-- The text of a broken rule of collecting input. -/
def GatherFault.text : GatherFault → String
  | noDigits => "digits number must be at least 1"
  | noDigitsTimeout => "digits timeout must be at least 1"
  | noVoiceLength => "voice length must be at least 1"
  | blankLanguage => "speech language cannot be blank"

/-- The rule that a declared transition breaks. -/
inductive AfterFault
  | blankHandle
  | promptAndHangup
  | noTarget
  deriving DecidableEq, Inhabited

/-- The text of a broken rule of transitions. -/
def AfterFault.text : AfterFault → String
  | blankHandle => "prompt handle cannot be blank"
  | promptAndHangup => "after cannot have both prompt and hangup"
  | noTarget => "after needs either prompt or hangup"

/-- The rule that the settings of a tree break. -/
inductive ConfigFault
  | noAttempts
  | blankVoice
  | blankAnswer
  deriving DecidableEq, Inhabited

/-- The text of a broken rule of tree settings. -/
def ConfigFault.text : ConfigFault → String
  | noAttempts => "final_timeout_attempts must be at least 1"
  | blankVoice => "voice cannot be blank"
  | blankAnswer => "answer words cannot be blank"

/-- The rule that the choices of a menu break. -/
inductive ChoiceFault
  | none
  | tooMany
  deriving DecidableEq, Inhabited

/-- The text of a broken rule of menus. -/
def ChoiceFault.text : ChoiceFault → String
  | none => "numbered choices cannot be empty"
  | tooMany => "numbered choices cannot be more than 9"

/-- Why a tree cannot be used as it is declared. -/
inductive TreeError
  | emptyName
  | badName (name : String)
  | missingGreeting (tree : String)
  | emptyHandle (tree : String)
  | duplicatePrompt (tree handle : String)
  | unknownPrompt (tree source handle : String)
  | badMessage (fault : MessageFault)
  | badGather (fault : GatherFault)
  | badAfter (fault : AfterFault)
  | badConfig (fault : ConfigFault)
  | duplicateTree (tree : String)
  | badChoices (fault : ChoiceFault)
  | unreadable
  | unavailable
  deriving DecidableEq, Inhabited

namespace TreeError

def text : TreeError → String
  | emptyName => "Tree name cannot be empty"
  | badName name =>
      s!"Tree name '{name}' must only contain lowercase letters, digits, '-' and '_'"
  | missingGreeting tree => s!"Tree '{tree}' has no greeting"
  | emptyHandle tree => s!"Tree '{tree}' has a prompt with an empty handle"
  | duplicatePrompt tree handle => s!"Tree '{tree}' declares prompt '{handle}' more than once"
  | unknownPrompt tree source handle =>
      s!"Tree '{tree}' {source} refers to unknown prompt '{handle}'"
  | badMessage fault => s!"Invalid message: {fault.text}"
  | badGather fault => s!"Invalid gather: {fault.text}"
  | badAfter fault => s!"Invalid after: {fault.text}"
  | badConfig fault => s!"Invalid tree config: {fault.text}"
  | duplicateTree tree => s!"Tree '{tree}' is already registered"
  | badChoices fault => s!"Invalid macro argument: {fault.text}"
  | unreadable => "Cannot parse tree document"
  | unavailable => "Cannot read tree document"

def toCallbackError (error : TreeError) : CallbackError :=
  ⟨error.text⟩

end TreeError

end PhoneTree

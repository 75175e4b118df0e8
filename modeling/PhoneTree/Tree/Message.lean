import PhoneTree.Tree.Error

namespace PhoneTree

/-- A value that is computed during a call. -/
abbrev Computed (α : Type) := FlowContext → Except CallbackError α

/-- A text that is fixed or computed. -/
inductive Content
  | fixed (text : String)
  | computed (value : Computed String)

/-- The text of a content in a context. -/
def Content.resolve (context : FlowContext) : Content → Except CallbackError String
  | fixed text => .ok text
  | computed value => value context

/-- One thing that a caller hears. -/
inductive Message
  | say (text : Content) (voice : Option String)
  | play (url : Content)
  | pause (seconds : Nat)

namespace Message

def ofText (text : String) : Message :=
  say (.fixed text) none

/-- Whether a text is an address that can be played: a scheme and at least one character on the
first line. -/
def isPlayable (url : String) : Bool :=
  let startsLine : List Char → Bool
    | [] => false
    | c :: _ => c != '\n'
  let chars := url.toList
  ("http://".toList.isPrefixOf chars && startsLine (chars.drop 7))
    || ("https://".toList.isPrefixOf chars && startsLine (chars.drop 8))

/-- The rule that a message breaks, if any. Computed parts are not looked at. -/
def fault? : Message → Option MessageFault
  | say text voice =>
      let blankText := match text with
        | .fixed text => Text.isBlank text
        | .computed _ => false
      if blankText then some .blankText
      else if voice.any Text.isBlank then some .blankVoice
      else none
  | play (.fixed url) => if isPlayable url then none else some (.badUrl url)
  | play (.computed _) => none
  | pause seconds => if seconds = 0 then some .noPause else none

/-- Whether a message says a fixed text that is blank. -/
def isSilent : Message → Bool
  | say (.fixed text) _ => Text.isBlank text
  | _ => false

end Message

/-- One message, or a set of them that is computed when it is rendered. -/
inductive MessageEntry
  | fixed (message : Message)
  | computed (value : FlowContext → Except CallbackError (List MessageEntry))

/-- What a caller hears at one point, in order. -/
structure MessageSet where
  entries : List MessageEntry := []
  deriving Inhabited

namespace MessageSet

/-- A set that is computed as a whole. -/
def ofComputed (value : Computed MessageSet) : MessageSet :=
  ⟨[.computed fun context => (value context).map (·.entries)]⟩

/-- Adds a message at the end, unless it is silent. -/
def push (set : MessageSet) (message : Message) : MessageSet :=
  if message.isSilent then set else ⟨set.entries ++ [.fixed message]⟩

/-- The set of messages in order, silent ones left out. -/
def ofList (messages : List Message) : MessageSet :=
  messages.foldl push {}

def ofText (text : String) : MessageSet :=
  ofList [.ofText text]

def append (set other : MessageSet) : MessageSet :=
  ⟨set.entries ++ other.entries⟩

instance : Append MessageSet := ⟨append⟩

/-- The first fault of the messages that are not computed. -/
def fault? (set : MessageSet) : Option MessageFault :=
  set.entries.findSome? fun
    | .fixed message => message.fault?
    | .computed _ => none

/-- Checks the messages of a set that are not computed. -/
def check (set : MessageSet) : Except TreeError Unit :=
  match set.fault? with
  | some fault => .error (.badMessage fault)
  | none => .ok ()

end MessageSet

end PhoneTree

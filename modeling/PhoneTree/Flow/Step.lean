import PhoneTree.Flow.Markup
import PhoneTree.Flow.Routes
import PhoneTree.Tree.Definition

namespace PhoneTree

/-- Why a step cannot be taken. -/
inductive FlowError
  | unknownPrompt (tree handle : String)
  | callback (error : CallbackError)
  deriving DecidableEq, Inhabited

namespace FlowError

def text : FlowError → String
  | unknownPrompt tree handle => s!"Tree '{tree}' cannot find prompt '{handle}'"
  | callback error => s!"Dynamic tree value failed: {error.message}"

/-- Whether the tree itself is at fault. -/
def isIntegrity : FlowError → Bool
  | unknownPrompt _ _ => true
  | callback _ => false

end FlowError

/-- What a step comes to for the call. -/
inductive StepOutcome
  | redirect
  | prompt
  | hangup
  | invalidPhoneNumber
  | answeringMachine
  | finalTimeout
  deriving DecidableEq, Inhabited

/-- The answer to a webhook and what it does to turns. A step changes nothing itself; it says what
is to be changed. -/
structure FlowStep where
  response : VoiceResponse
  outcome : StepOutcome
  updatedTurn : Option Turn := none
  turnChange : Option TurnChange := none
  nextTurn : Option Turn := none
  deriving Inhabited

/-- What a step needs to know besides the session: the tree, the caller's history, and the
identifier and the time of the turn that it may begin. -/
structure FlowScene where
  tree : Tree
  history : Option History := none
  freshTurn : TurnId
  now : Timestamp

namespace FlowScene

/-- What the callbacks of the tree get to see of a call and its caller. -/
def context (scene : FlowScene) (session : Session) (turn : Option Turn) : FlowContext :=
  { session, turn, history := scene.history, answers := scene.tree.config.answers }

/-- The verb of a message, or none if its text turns out to be blank. -/
def renderMessage (voice : String) (context : FlowContext) :
    Message → Except FlowError (Option Verb)
  | .say text own => do
      let text ← (text.resolve context).mapError .callback
      return if Text.isBlank text then none else some (.say text (own.getD voice))
  | .play url => do
      let url ← (url.resolve context).mapError .callback
      return if Text.isBlank url then none else some (.play url)
  | .pause seconds => return some (.pause seconds)

mutual

/-- The verbs of an entry; a computed set is rendered in its place. -/
def renderEntry (voice : String) (context : FlowContext) :
    MessageEntry → Except FlowError (List Verb)
  | .fixed message => do return (← renderMessage voice context message).toList
  | .computed value => renderComputed voice context (value context)

/-- The verbs of a set that has been computed, or its failure. -/
def renderComputed (voice : String) (context : FlowContext) :
    Except CallbackError (List MessageEntry) → Except FlowError (List Verb)
  | .error error => .error (.callback error)
  | .ok entries => renderEntries voice context entries

/-- The verbs of entries in order, or the first failure. -/
def renderEntries (voice : String) (context : FlowContext) :
    List MessageEntry → Except FlowError (List Verb)
  | [] => return []
  | entry :: rest => do
      let verbs ← renderEntry voice context entry
      let others ← renderEntries voice context rest
      return verbs ++ others

end

/-- The verbs of a set of messages, said in the voice of the tree unless they have their own. -/
def render (scene : FlowScene) (context : FlowContext) (messages : MessageSet) :
    Except FlowError (List Verb) :=
  renderEntries scene.tree.config.voice context messages.entries

/-- The prompt of a handle, which the tree must have. -/
def findPrompt (scene : FlowScene) (handle : PromptHandle) : Except FlowError Prompt :=
  match scene.tree.prompt? handle with
  | some prompt => .ok prompt
  | none => .error (.unknownPrompt scene.tree.name handle.text)

/-- A turn on a prompt that nothing has come of yet. -/
def beginTurn (scene : FlowScene) (session : Session) (handle : PromptHandle) : Turn :=
  { id := scene.freshTurn, session := session.id, handle, createdAt := scene.now }

/-- Follows a transition: its messages, then the end of the call or a new turn on its target. -/
def follow (scene : FlowScene) (session : Session) (context : FlowContext)
    (transition : Transition) : Except FlowError FlowStep :=
  match transition.target with
  | .hangup => do
      let verbs ← scene.render context transition.messages
      return { response := ⟨verbs ++ [.hangup]⟩, outcome := .hangup }
  | .prompt handle => do
      let _ ← scene.findPrompt handle
      let verbs ← scene.render context transition.messages
      let turn := scene.beginTurn session handle
      let path := (Webhook.prompt scene.tree.name turn.id).path
      return {
        response := ⟨verbs ++ [.redirect path]⟩
        outcome := .redirect
        nextTurn := some turn }

/-- Finds the transition of a rule and follows it. -/
def followRule (scene : FlowScene) (session : Session) (context : FlowContext)
    (rule : AfterRule) : Except FlowError FlowStep := do
  let transition ← (rule.resolve context).mapError .callback
  scene.follow session context transition

/-- The step with which a machine is hung up on. -/
def machineStep : FlowStep :=
  { response := .hangupOnly, outcome := .answeringMachine }

/-- Begins a call. Callers with an invalid number are turned away if the tree has words for it. -/
def onGreeting (scene : FlowScene) (session : Session) (numberValid : Bool) :
    Except FlowError FlowStep :=
  let context := scene.context session none
  match numberValid, scene.tree.config.invalidPhoneNumber with
  | false, some messages => do
      let verbs ← scene.render context messages
      return { response := ⟨verbs ++ [.hangup]⟩, outcome := .invalidPhoneNumber }
  | _, _ => scene.followRule session context scene.tree.greeting

/-- The verbs that collect the answer to a prompt and send it to its webhook. Where a prompt only
speaks, the call goes on by itself. -/
def collect (tree : String) (turn : TurnId) (inside : List Verb) : Option Gather → List Verb
  | none => [.redirect (Webhook.promptResponse tree turn).path]
  | some (.digits spec) =>
      [{ kind := .gather
         attributes :=
          [("action", (Webhook.promptResponse tree turn).path),
            ("input", "dtmf"),
            numberAttribute "numDigits" spec.number,
            numberAttribute "timeout" spec.timeout,
            flagAttribute "actionOnEmptyResult" false]
            ++ (spec.finishOnKey.map fun key => ("finishOnKey", key)).toList
         children := inside },
        .redirect (Webhook.timeout tree turn).path]
  | some (.voice spec) =>
      [{ kind := .record
         attributes :=
          [numberAttribute "maxLength" spec.length]
            ++ (spec.timeout.map (numberAttribute "timeout")).toList
            ++ [flagAttribute "playBeep" spec.beep,
              ("action", (Webhook.promptResponse tree turn).path),
              ("recordingStatusCallback", (Webhook.receiveRecording turn).path)]
            ++ (if spec.transcribe then
                [flagAttribute "transcribe" true,
                  ("transcribeCallback", (Webhook.transcribe turn).path)]
              else [])
            ++ (if spec.profanityFilter then [flagAttribute "profanityFilter" true] else []) }]
  | some (.speech spec) =>
      [{ kind := .gather
         attributes :=
          [("action", (Webhook.promptResponse tree turn).path), ("input", "speech")]
            ++ (spec.timeout.map (numberAttribute "timeout")).toList
            ++ [flagAttribute "actionOnEmptyResult" true, ("language", spec.language),
              flagAttribute "enhanced" spec.enhanced]
            ++ (spec.speechTimeout.map fun value => ("speechTimeout", value)).toList
            ++ (spec.speechModel.map fun value => ("speechModel", value)).toList
            ++ (if spec.profanityFilter then [flagAttribute "profanityFilter" true] else []) }]

/-- Plays a prompt and collects the answer. -/
def onPrompt (scene : FlowScene) (session : Session) (turn : Turn) :
    Except FlowError FlowStep :=
  if session.isAnsweringMachine then return machineStep
  else do
    let prompt ← scene.findPrompt turn.handle
    let verbs ← scene.render (scene.context session (some turn)) prompt.messages
    let interrupts := prompt.gather.any Gather.interrupts
    let before := if interrupts then [] else verbs
    let inside := if interrupts then verbs else []
    return {
      response := ⟨before ++ collect scene.tree.name turn.id inside prompt.gather⟩
      outcome := .prompt }

/-- Follows the rule of the prompt of a turn, with the turn as it now stands. -/
def leavePrompt (scene : FlowScene) (session : Session) (updated : Turn)
    (change : Option TurnChange) : Except FlowError FlowStep := do
  let prompt ← scene.findPrompt updated.handle
  let view := session.recordTurn updated
  let step ← scene.followRule view (scene.context view (some updated)) prompt.after
  return { step with updatedTurn := some updated, turnChange := change }

/-- Takes the caller's answer, as far as the turn still accepts one, and goes on. -/
def onInput (scene : FlowScene) (session : Session) (turn : Turn) (input : TurnInput) :
    Except FlowError FlowStep :=
  if session.isAnsweringMachine then return machineStep
  else
    let accepted := turn.acceptable input
    scene.leavePrompt session (turn.merge accepted)
      (if turn.takes accepted then some (.input accepted) else none)

/-- The turn after a timeout; an answered turn stays as it is. -/
def timedOutTurn (turn : Turn) : Turn :=
  if turn.hasInput then turn else turn.markTimedOut

/-- What a timeout does to a turn; one that is settled stays as it is. -/
def timeoutChange (turn : Turn) : Option TurnChange :=
  if turn.hasInput || turn.timedOut then none else some .timedOut

/-- The turns on the prompt of a timeout with the turn itself among them, the latest first. -/
def timeoutWindow (updated : Turn) (recent : List Turn) : List Turn :=
  (updated :: recent.filter fun turn => turn.id != updated.id && turn.handle == updated.handle)
    |>.mergeSort fun a b => decide (b.createdAt ≤ a.createdAt)

/-- Goes on after a timeout: says goodbye once all attempts are used up, and follows the rule of
the prompt before that. -/
def onTimeout (scene : FlowScene) (session : Session) (turn : Turn) (recent : List Turn) :
    Except FlowError FlowStep :=
  if session.isAnsweringMachine then return machineStep
  else
    let updated := timedOutTurn turn
    let policy : TimeoutPolicy := ⟨scene.tree.config.finalTimeoutAttempts⟩
    if policy.isExhausted (timeoutWindow updated recent) then do
      let view := session.recordTurn updated
      let verbs ←
        scene.render (scene.context view (some updated)) scene.tree.config.finalTimeoutMessage
      return {
        response := ⟨verbs ++ [.hangup]⟩
        outcome := .finalTimeout
        updatedTurn := some updated
        turnChange := timeoutChange turn }
    else scene.leavePrompt session updated (timeoutChange turn)

end FlowScene

end PhoneTree

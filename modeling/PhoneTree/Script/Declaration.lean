import PhoneTree.Script.Expression
import PhoneTree.Tree.Document

namespace PhoneTree.Script

/-- A text that is fixed or computed. -/
def content : Json → Content
  | .text text => .fixed text
  | script => .computed (text script)

/-- A message. Only fixed texts have a voice of their own. -/
def message (script : Json) : Message :=
  match script with
  | .text text => .ofText text
  | script =>
      match script.field? "say", script.field? "play" with
      | some (.text text), _ => .say (.fixed text) ((script.field? "voice").bind Json.text?)
      | some computed, _ => .say (content computed) none
      | none, some url => .play (content url)
      | none, none => .pause (((script.field? "pause").bind Json.nat?).getD 0)

/-- A set of messages of at most `fuel` levels; among its items may be sets that are computed. -/
def messageSet : Nat → Json → MessageSet
  | 0, _ => {}
  | fuel + 1, script =>
      match script with
      | .text text => .ofText text
      | .list items =>
          items.foldl (fun set item =>
            match item.field? "set" with
            | some computed => set ++ .ofComputed
                (choose (fun script => constant (messageSet fuel script)) (depth computed) computed)
            | none => set.push (message item)) {}
      | _ => {}

def messages (script : Json) : MessageSet :=
  messageSet (depth script) script

def messagesOf (script : Json) (name : String) : MessageSet :=
  ((script.field? name).map messages).getD {}

def transition (script : Json) : Computed Transition := fun context =>
  match script.field? "goto" with
  | some handle => do
      let handle ← text handle context
      return { messages := messagesOf script "messages", target := .prompt ⟨handle⟩ }
  | none => return { messages := messagesOf script "messages", target := .hangup }

/-- A rule: a computed transition under `dyn`, or a fixed one. -/
def after (script : Json) : AfterRule :=
  match script.field? "dyn" with
  | some computed => .computed (choose transition (depth computed) computed)
  | none =>
      .fixed
        { messages := messagesOf script "messages"
          target := match script.field? "goto" with
            | some (.text handle) => .prompt ⟨handle⟩
            | _ => .hangup }

/-- How input is collected: a usual way by a short form, or a record. -/
def gather (script : Json) : Except TreeError Gather :=
  let given := (script.object?.getD []).map (·.1)
  let number (name : String) : Option Nat := (script.field? name).bind Json.nat?
  match ["interruptible", "digits", "voice", "speech"].find? given.contains with
  | some "interruptible" => .ok (Menu.interruptible (number "interruptible"))
  | some "digits" =>
      match partItems script "digits" with
      | [count, timeout] =>
          .ok (.digits { number := count.nat?.getD 0, timeout := timeout.nat?.getD 0 })
      | _ => .error .unreadable
  | some "voice" => .ok (.voice { length := (number "voice").getD 0 })
  | some "speech" => .ok (.speech { language := partText script "speech" })
  | _ =>
      match (Datum.ofJson? script).bind (Gather.read? .json) with
      | some gather => .ok gather
      | none => .error .unreadable

def lifecycle (script : Json) : LifecycleCallback := fun _ =>
  match (script.field? "fail").bind Json.text? with
  | some text => .error ⟨text⟩
  | none => .ok ()

def prompt (script : Json) : Except TreeError Prompt := do
  let gather ← (script.field? "gather").mapM gather
  return {
    handle := ⟨partText script "handle"⟩
    messages := messagesOf script "messages"
    gather
    after := after (part script "after") }

/-- The words for yes and no; those that are left out keep their defaults. -/
def answerWords (script : Json) : AnswerWords :=
  let default : AnswerWords := {}
  { yes := if (script.field? "yes").isSome then partTexts script "yes" else default.yes
    no := if (script.field? "no").isSome then partTexts script "no" else default.no }

def config (script : Json) : TreeConfig :=
  let default : TreeConfig := {}
  { voice := ((script.field? "voice").bind Json.text?).getD default.voice
    finalTimeoutMessage :=
      ((script.field? "final_timeout_message").map messages).getD default.finalTimeoutMessage
    finalTimeoutAttempts :=
      ((script.field? "final_timeout_attempts").bind Json.nat?).getD default.finalTimeoutAttempts
    invalidPhoneNumber := (script.field? "invalid_phone_number").map messages
    answers := answerWords (part script "answers") }

/-- The draft of a tree that a script declares. -/
def draft (script : Json) : Except TreeError TreeDraft := do
  let prompts ← (partItems script "prompts").mapM prompt
  return {
    name := ((script.field? "name").bind Json.text?).getD "t"
    config := config script
    greeting := (script.field? "greeting").map after
    prompts
    onUnanswered := (script.field? "on_unanswered").map lifecycle
    onFinished := (script.field? "on_finished").map lifecycle }

/-- The tree of a source or of a declaration, once it is checked. -/
def tree (script : Json) : Except TreeError Tree :=
  match (script.field? "source").bind Json.text? with
  | some source => do
      let doc ← if partText script "format" == "json" then TreeDoc.ofJson source
        else TreeDoc.ofYaml source
      doc.compile
  | none => do (← draft script).build

end PhoneTree.Script

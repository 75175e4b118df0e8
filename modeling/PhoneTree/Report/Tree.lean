import PhoneTree.Tree.Document
import PhoneTree.Tree.Outline

namespace PhoneTree.Report

/-- What stands for a computed part. -/
def computedMark : Json :=
  .object [("dynamic", .bool true)]

def content : Content → Json
  | .fixed text => .text text
  | .computed _ => computedMark

def message : Message → Json
  | .say text voice => .object [("say", content text), ("voice", .ofOption .text voice)]
  | .play url => .object [("play", content url)]
  | .pause seconds => .object [("pause", .ofNat seconds)]

/-- Messages, of which the computed ones are only marked. -/
def messages (set : MessageSet) : Json :=
  .list (set.entries.map fun
    | .fixed entry => message entry
    | .computed _ => computedMark)

def after : AfterRule → Json
  | .computed _ => computedMark
  | .fixed transition =>
      let target := match transition.target with
        | .prompt handle => ("goto", Json.text handle.text)
        | .hangup => ("hangup", .bool true)
      .object [target, ("messages", messages transition.messages)]

/-- A report on how input is collected. -/
def gather (gather : Gather) : Json :=
  .object
    [("kind", .text gather.kind), ("interrupt", .bool gather.interrupts),
      ("spec", gather.toJson)]

def prompt (prompt : Prompt) : Json :=
  .object
    [("handle", .text prompt.handle.text), ("messages", messages prompt.messages),
      ("gather", .ofOption gather prompt.gather), ("after", after prompt.after)]

/-- A report on a tree, with its prompts in the order of their handles. -/
def tree (tree : Tree) : Json :=
  let config := tree.config
  .object
    [("name", .text tree.name), ("voice", .text config.voice),
      ("final_timeout_attempts", .ofNat config.finalTimeoutAttempts),
      ("final_timeout_message", messages config.finalTimeoutMessage),
      ("invalid_phone_number", .ofOption messages config.invalidPhoneNumber),
      ("yes", .list (config.answers.yes.map .text)),
      ("no", .list (config.answers.no.map .text)),
      ("greeting", after tree.greeting),
      ("prompt_count", .ofNat tree.prompts.length),
      ("hooks", .list [.bool tree.onUnanswered.isSome, .bool tree.onFinished.isSome]),
      ("prompts", .list (tree.sortedHandles.filterMap fun handle =>
        (tree.prompt? ⟨handle⟩).map prompt))]

end PhoneTree.Report

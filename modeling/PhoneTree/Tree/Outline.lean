import PhoneTree.Text.Outline
import PhoneTree.Tree.Definition

namespace PhoneTree

open Text

def Content.outline : Content → Outline
  | fixed text => .ofFixed (some (.ofText text))
  | computed _ => .ofFixed none

def Message.outline : Message → Outline
  | say text voice =>
      .record "Say" [("text", text.outline), ("voice", .ofOption .ofText voice)]
  | play url => .record "Play" [("url", url.outline)]
  | pause seconds => .record "Pause" [("seconds", .ofNat seconds)]

def MessageEntry.outline : MessageEntry → Outline
  | fixed message => .ofFixed (some message.outline)
  | computed _ => .ofFixed none

def MessageSet.outline (set : MessageSet) : Outline :=
  .record "MessageSet" [("entries", .list (set.entries.map (·.outline)))]

def Target.outline : Target → Outline
  | prompt handle => .tuple "Prompt" [.tuple "PromptHandle" [.ofText handle.text]]
  | hangup => .atom "Hangup"

def Transition.outline (transition : Transition) : Outline :=
  .record "Transition"
    [("messages", transition.messages.outline), ("target", transition.target.outline)]

def AfterRule.outline : AfterRule → Outline
  | fixed transition => .ofFixed (some transition.outline)
  | computed _ => .ofFixed none

def AnswerWords.outline (words : AnswerWords) : Outline :=
  .record "AnswerVocabulary"
    [("yes", .list (words.yes.map .ofText)), ("no", .list (words.no.map .ofText))]

def TreeConfig.outline (config : TreeConfig) : Outline :=
  .record "TreeConfig"
    [("voice", .ofText config.voice),
      ("final_timeout_message", config.finalTimeoutMessage.outline),
      ("final_timeout_attempts", .ofNat config.finalTimeoutAttempts),
      ("invalid_phone_number", .ofOption MessageSet.outline config.invalidPhoneNumber),
      ("answers", config.answers.outline)]

def Tree.sortedHandles (tree : Tree) : List String :=
  (tree.prompts.map (·.handle.text)).mergeSort fun a b => decide (a ≤ b)

/-- A tree as it is shown for debugging, its computed parts without their values. -/
def Tree.outline (tree : Tree) : Outline :=
  .record "TreeDefinition"
    [("name", .ofText tree.name), ("config", tree.config.outline),
      ("greeting", tree.greeting.outline),
      ("prompts", .list (tree.sortedHandles.map .ofText)),
      ("unanswered_call", .ofBool tree.onUnanswered.isSome),
      ("finished_call", .ofBool tree.onFinished.isSome)]

end PhoneTree

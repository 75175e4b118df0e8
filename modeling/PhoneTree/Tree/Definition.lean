import PhoneTree.Tree.Prompt

namespace PhoneTree

/-- What runs after a call. -/
abbrev LifecycleCallback := Session → Except CallbackError Unit

/-- Settings that hold for a whole tree. -/
structure TreeConfig where
  voice : String := "male"
  finalTimeoutMessage : MessageSet := .ofText "Goodbye."
  finalTimeoutAttempts : Nat := 3
  invalidPhoneNumber : Option MessageSet := none
  answers : AnswerWords := {}

/-- A tree that has been checked: what is said, asked and done in a call. -/
structure Tree where
  name : String
  config : TreeConfig
  greeting : AfterRule
  prompts : List Prompt
  onUnanswered : Option LifecycleCallback := none
  onFinished : Option LifecycleCallback := none

def Tree.prompt? (tree : Tree) (handle : PromptHandle) : Option Prompt :=
  tree.prompts.find? fun prompt => prompt.handle == handle

/-- A tree as it is put together, before it is checked. -/
structure TreeDraft where
  name : String
  config : TreeConfig := {}
  greeting : Option AfterRule := none
  prompts : List Prompt := []
  onUnanswered : Option LifecycleCallback := none
  onFinished : Option LifecycleCallback := none

namespace TreeDraft

def isNameChar (c : Char) : Bool :=
  ('a' ≤ c && c ≤ 'z') || ('0' ≤ c && c ≤ '9') || c == '-' || c == '_'

/-- Refuses names that are empty or do not fit a path. -/
def checkName (name : String) : Except TreeError Unit :=
  if name.isEmpty then .error .emptyName
  else if name.toList.all isNameChar then .ok ()
  else .error (.badName name)

/-- Refuses settings that are blank or allow no attempt. -/
def checkConfig (config : TreeConfig) : Except TreeError Unit := do
  if config.finalTimeoutAttempts = 0 then throw (.badConfig .noAttempts)
  if Text.isBlank config.voice then throw (.badConfig .blankVoice)
  if (config.answers.yes ++ config.answers.no).any Text.isBlank then
    throw (.badConfig .blankAnswer)
  config.finalTimeoutMessage.check
  match config.invalidPhoneNumber with
  | some messages => messages.check
  | none => pure ()

/-- Refuses a blank handle, a broken message and a broken collection of input. -/
def checkPrompt (tree : String) (prompt : Prompt) : Except TreeError Unit := do
  if Text.isBlank prompt.handle.text then throw (.emptyHandle tree)
  prompt.messages.check
  match prompt.gather.bind Gather.fault? with
  | some fault => throw (.badGather fault)
  | none => pure ()

/-- Checks prompts in order. A handle may not be used twice. -/
def checkPrompts (tree : String) (seen : List PromptHandle) : List Prompt → Except TreeError Unit
  | [] => pure ()
  | prompt :: rest => do
      checkPrompt tree prompt
      if seen.contains prompt.handle then throw (.duplicatePrompt tree prompt.handle.text)
      checkPrompts tree (prompt.handle :: seen) rest

/-- Refuses a fixed transition with a broken message or an unknown target. -/
def checkAfter (tree source : String) (handles : List PromptHandle) :
    AfterRule → Except TreeError Unit
  | .computed _ => pure ()
  | .fixed transition => do
      transition.messages.check
      match transition.target with
      | .hangup => pure ()
      | .prompt handle =>
          if handles.contains handle then pure ()
          else throw (.unknownPrompt tree source handle.text)

/-- Checks where the prompts lead, with all handles of the tree known. -/
def checkAfters (tree : String) (handles : List PromptHandle) :
    List Prompt → Except TreeError Unit
  | [] => pure ()
  | prompt :: rest => do
      checkAfter tree s!"prompt '{prompt.handle.text}'" handles prompt.after
      checkAfters tree handles rest

/-- Checks a draft and makes a tree of it. The first fault is reported. -/
def build (draft : TreeDraft) : Except TreeError Tree := do
  checkName draft.name
  let some greeting := draft.greeting | throw (.missingGreeting draft.name)
  checkConfig draft.config
  checkPrompts draft.name [] draft.prompts
  let handles := draft.prompts.map (·.handle)
  checkAfter draft.name "greeting" handles greeting
  checkAfters draft.name handles draft.prompts
  return {
    name := draft.name
    config := draft.config
    greeting
    prompts := draft.prompts
    onUnanswered := draft.onUnanswered
    onFinished := draft.onFinished }

end TreeDraft

end PhoneTree

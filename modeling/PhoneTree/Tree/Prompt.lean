import PhoneTree.Tree.Gather
import PhoneTree.Tree.Message

namespace PhoneTree

/-- Where a transition leads to. -/
inductive Target
  | prompt (handle : PromptHandle)
  | hangup
  deriving DecidableEq, Inhabited

/-- Where a call goes, and what the caller hears on the way. -/
structure Transition where
  messages : MessageSet := {}
  target : Target
  deriving Inhabited

/-- A transition that is fixed or computed. -/
inductive AfterRule
  | fixed (transition : Transition)
  | computed (value : Computed Transition)

namespace AfterRule

/-- Goes to a prompt without a word. -/
def goto (handle : PromptHandle) : AfterRule :=
  fixed { target := .prompt handle }

def hangup : AfterRule :=
  fixed { target := .hangup }

/-- The transition of a rule in a context. -/
def resolve (context : FlowContext) : AfterRule → Except CallbackError Transition
  | fixed transition => .ok transition
  | computed value => value context

end AfterRule

/-- A place in a tree: its messages, the input it collects and what follows. -/
structure Prompt where
  handle : PromptHandle
  messages : MessageSet := {}
  gather : Option Gather := none
  after : AfterRule

end PhoneTree

import PhoneTree.Call.Turn

namespace PhoneTree

/-- The calls of a caller on one tree, with all their turns in the order of their creation. -/
structure History where
  inboundCalls : Nat := 0
  outboundCalls : Nat := 0
  turns : List Turn := []
  deriving DecidableEq, Inhabited

/-- The turns of a caller on one prompt, over all calls. -/
def History.turnsFor (history : History) (handle : PromptHandle) : List Turn :=
  history.turns.filter fun turn => turn.handle == handle

/-- How many timeouts in a row end a call. -/
structure TimeoutPolicy where
  attempts : Nat
  deriving DecidableEq, Inhabited

/-- Whether the most recent turns, latest first, used up all attempts. -/
def TimeoutPolicy.isExhausted (policy : TimeoutPolicy) (recent : List Turn) : Bool :=
  let window := recent.take policy.attempts
  0 < policy.attempts && window.length == policy.attempts && window.all (·.timedOut)

end PhoneTree

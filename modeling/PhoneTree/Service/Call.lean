import PhoneTree.Service.Caller
import PhoneTree.Service.Recording

namespace PhoneTree.Service

open PhoneTree.Action

/-- Stores a new inbound call. A call that somebody else stores at the same moment is found. -/
def createSession (sid treeName : String) (params : Params) : Action Session := do
  let details := CallDetails.ofParams params
  let caller ← findOrCreateCaller details.fromNumber
  let id ← freshId
  let createdAt ← now
  let session ← ofAnswer (Session.create ⟨id⟩ createdAt sid
    (Direction.ofParam (params.get? "Direction")) treeName caller.id details)
  let session := { session with status := (StatusUpdate.ofParams params).status }
  match ← ask (.saveSession session) with
  | .ok _ => pure session
  | .error error =>
      if error.kind = .duplicate then do
        match ← ofAnswer (← ask (.sessionBySid sid)) with
        | some session => pure session
        | none => throw (.callNotFound sid)
      else throw (.ofFailure error)

/-- Takes a call that comes in, or goes on with it if it is known already, and greets the caller. -/
def inboundCall (registry : Registry) (treeName : String) (params : Params) :
    Action (Session × Reply) := do
  let tree ← findTree registry treeName
  let sid ← requireField params "CallSid"
  let session ← match ← ofAnswer (← ask (.sessionBySid sid)) with
    | some session => applyUpdate session (.ofParams params)
    | none => createSession sid tree.name params
  greet tree session

/-- The call of a request after what the request reports about its progress. -/
def findUpdatedCall (params : Params) : Action Session := do
  applyUpdate (← findCall params) (.ofParams params)

/-- Answers an outbound call once somebody takes it. -/
def outboundCall (registry : Registry) (treeName : String) (params : Params) : Action Reply := do
  let tree ← findTree registry treeName
  let session ← findUpdatedCall params
  let (_, reply) ← greet tree session
  pure reply

/-- Asks the prompt of a turn. -/
def prompt (registry : Registry) (treeName : String) (turn : TurnId) (params : Params) :
    Action Reply := do
  let tree ← findTree registry treeName
  let session ← findUpdatedCall params
  let turn ← findTurn session turn
  let scene ← loadScene tree session
  let step ← ofFlow (scene.onPrompt session turn)
  pure ⟨step.response, step.outcome⟩

/-- Takes the answer to a prompt. -/
def promptResponse (account : Account) (registry : Registry) (treeName : String) (turn : TurnId)
    (params : Params) : Action Reply := do
  let tree ← findTree registry treeName
  let session ← findUpdatedCall params
  let turn ← findTurn session turn
  let turn ← receiveIfAny account session turn params
  let scene ← loadScene tree session
  let step ← ofFlow (scene.onInput session turn (.ofParams params))
  let _ ← keepStep session step
  pure ⟨step.response, step.outcome⟩

/-- Goes on after a prompt that got no answer. -/
def timeout (registry : Registry) (treeName : String) (turn : TurnId) (params : Params) :
    Action Reply := do
  let tree ← findTree registry treeName
  let session ← findUpdatedCall params
  let turn ← findTurn session turn
  let recent ← ofAnswer (← ask
    (.latestTurns session.id turn.handle tree.config.finalTimeoutAttempts))
  let scene ← loadScene tree session
  let step ← ofFlow (scene.onTimeout session turn recent)
  let _ ← keepStep session step
  pure ⟨step.response, step.outcome⟩

/-- Takes over the progress of a call. -/
def updateCall (params : Params) : Action Session :=
  findUpdatedCall params

end PhoneTree.Service

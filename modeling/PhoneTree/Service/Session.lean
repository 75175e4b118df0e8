import PhoneTree.PhoneNumber
import PhoneTree.Action
import PhoneTree.Tree.Registry

namespace PhoneTree.Service

open PhoneTree.Action

/-- Seconds until the end of a call has settled. -/
def settleDelay : Nat := 10

/-- Seconds until the provider has finished a recording. -/
def attachDelay : Nat := 5

/-- How often a row is changed anew after a lost race, the first time included. -/
def maxAttempts : Nat := 3

/-- What the program knows of its own account. -/
structure Account where
  publicHost : String
  outgoingNumber : String
  attachRecordings : Bool
  deriving Inhabited

/-- How a webhook that walks a tree is answered. -/
structure Reply where
  response : VoiceResponse
  outcome : StepOutcome
  deriving Inhabited

/-- The tree of a name, which must be registered. -/
def findTree (registry : Registry) (name : String) : Action Tree :=
  match registry.get? name with
  | some tree => pure tree
  | none => throw (.treeNotFound name)

/-- A field that a request must have. -/
def requireField (params : Params) (field : String) : Action String :=
  match params.get? field with
  | some value => pure value
  | none => throw (.validationFailed field "is required")

/-- The call that a request is about. -/
def findCall (params : Params) : Action Session := do
  let sid ← requireField params "CallSid"
  match ← ofAnswer (← ask (.sessionBySid sid)) with
  | some session => pure session
  | none => throw (.callNotFound sid)

/-- The turn of an identifier, which must belong to the call. -/
def findTurn (session : Session) (id : TurnId) : Action Turn := do
  match ← ofAnswer (← ask (.turnById id)) with
  | some turn =>
      if turn.session = session.id then pure turn else throw (.turnNotFound id.uuid.text)
  | none => throw (.turnNotFound id.uuid.text)

/-- Changes a session row. `change` gives the changed session and what came of it, or no outcome
if nothing is to be stored. After a lost race the change is made anew on the stored session, at
most `retries` times. -/
def changeSession {α : Type} (change : Session → Session × Option α) :
    (retries : Nat) → Session → Action (Session × Option α)
  | retries, session =>
      match change session with
      | (session, none) => pure (session, none)
      | (session, some outcome) => do
          match ← ask (.updateSession session) with
          | .ok session => pure (session, some outcome)
          | .error error =>
              match retries with
              | 0 => throw (.ofFailure error)
              | retries + 1 =>
                  if error.isConflict then
                    match ← ofAnswer (← ask (.sessionById session.id)) with
                    | some session => changeSession change retries session
                    | none => throw (.callNotFound session.id.uuid.text)
                  else throw (.ofFailure error)

/-- Changes a session row with the usual number of attempts. -/
def updateSession {α : Type} (session : Session) (change : Session → Session × Option α) :
    Action (Session × Option α) :=
  changeSession change (maxAttempts - 1) session

/-- Writes what the step did to the current turn. -/
def keepTurnChange (step : FlowStep) : Action Unit :=
  match step.updatedTurn, step.turnChange with
  | some turn, some (.input input) => do ofAnswer (← ask (.recordInput turn.id input))
  | some turn, some .timedOut => do ofAnswer (← ask (.markTimedOut turn.id))
  | _, _ => pure ()

/-- Saves the turn of the prompt that the step leads to. -/
def keepNextTurn (step : FlowStep) : Action Unit :=
  match step.nextTurn with
  | some turn => do ofAnswer (← ask (.saveTurn turn))
  | none => pure ()

/-- Takes turns into a session, and asks to store it if its length changes. -/
def recordTurns (turns : List Turn) (session : Session) : Session × Option Unit :=
  let recorded := turns.foldl Session.recordTurn session
  (recorded, if recorded.lengthSeconds != session.lengthSeconds then some () else none)

/-- Writes the turns of a step and gives the session with them. -/
def keepStep (session : Session) (step : FlowStep) : Action Session := do
  keepTurnChange step
  keepNextTurn step
  match step.updatedTurn.toList ++ step.nextTurn.toList with
  | [] => pure session
  | turns => do
      let (session, _) ← updateSession session (recordTurns turns)
      pure session

/-- What is known of a caller from all calls with the tree. -/
def loadHistory (session : Session) : Action History := do
  let inboundCalls ← ofAnswer (← ask (.countCalls session.caller session.treeName .inbound))
  let outboundCalls ← ofAnswer (← ask (.countCalls session.caller session.treeName .outbound))
  let turns ← ofAnswer (← ask (.callerTurns session.caller session.treeName))
  pure { inboundCalls, outboundCalls, turns }

/-- What a step on a session needs to know. -/
def loadScene (tree : Tree) (session : Session) : Action FlowScene := do
  let history ← loadHistory session
  let freshTurn ← freshId
  let now ← now
  pure { tree, history := some history, freshTurn := ⟨freshTurn⟩, now }

/-- Greets the caller with the first step of a tree. -/
def greet (tree : Tree) (session : Session) : Action (Session × Reply) := do
  let scene ← loadScene tree session
  let step ← ofFlow (scene.onGreeting session (PhoneNumber.isValid session.details.fromNumber))
  let session ← keepStep session step
  pure (session, ⟨step.response, step.outcome⟩)

/-- Takes over what a request reports about the progress of a call, and leaves for later what has
to happen once the call has settled. -/
def applyUpdate (session : Session) (update : StatusUpdate) : Action Session :=
  if update.isEmpty then pure session
  else do
    let (session, change) ← updateSession session fun session =>
      let change := session.changeBy update
      (session.afterUpdate update, if change.changed then some change else none)
    match change with
    | none => pure session
    | some change => do
        if change.becameUnanswered then
          ofAnswer (← ask (.schedule (.unansweredCall session.id) settleDelay))
        if change.becameFinished then
          ofAnswer (← ask (.schedule (.finishedCall session.id) settleDelay))
        pure session

end PhoneTree.Service

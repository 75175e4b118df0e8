import PhoneTree.Service.Recording

namespace PhoneTree.Service

open PhoneTree.Action

/-- The session of an identifier, which must be there. -/
def findSession (id : SessionId) : Action Session := do
  match ← ofAnswer (← ask (.sessionById id)) with
  | some session => pure session
  | none => throw (.callNotFound id.uuid.text)

/-- Runs a callback of a tree, if it has one. -/
def runCallback (hook : Hook) (callback : Option LifecycleCallback) (session : Session) :
    Action Unit :=
  match callback with
  | none => pure ()
  | some callback => do
      match ← ask (.runHook hook callback session) with
      | .ok _ => pure ()
      | .error error => throw (.callback error)

/-- Marks that a call is over and runs the callback for it. Only the one who sets the mark runs the
callback, so it runs at most once. -/
def finishedCall (registry : Registry) (id : SessionId) : Action Unit := do
  let session ← findSession id
  let (session, marked) ← updateSession session fun session =>
    (session.markFinished, if session.finished then none else some ())
  match marked with
  | none => pure ()
  | some _ => do
      let tree ← findTree registry session.treeName
      runCallback .finished tree.onFinished session

/-- Marks that a call was not answered and runs the callback for it. Nothing is done for a call that
came in. -/
def unansweredCall (registry : Registry) (id : SessionId) : Action Unit := do
  let session ← findSession id
  if !session.isOutbound then pure ()
  else
    let (session, marked) ← updateSession session fun session =>
      (session.markUnanswered, if session.unanswered then none else some ())
    match marked with
    | none => pure ()
    | some _ => do
        let tree ← findTree registry session.treeName
        runCallback .unanswered tree.onUnanswered session

/-- Does the work of a job. -/
def runJob (registry : Registry) : Job → Action Unit
  | .unansweredCall session => unansweredCall registry session
  | .finishedCall session => finishedCall registry session
  | .attachRecording recording => attachRecording recording

end PhoneTree.Service

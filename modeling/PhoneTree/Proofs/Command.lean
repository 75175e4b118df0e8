import PhoneTree.Proofs.OpenWorld
import PhoneTree.Service.Call
import PhoneTree.Service.Jobs
import PhoneTree.Service.Outgoing

namespace PhoneTree

open Service

/-- What the program is asked to do. -/
inductive Command
  | webhook (entry : Webhook) (params : Params)
  | startCall (tree recipient : String) (sender : Option String) (machineDetection : Bool)
  | sendMessages (recipient : String) (sender : Option String) (bodies : List String)
  | findCaller (number : String)
  | job (work : Job)

/-- What a command comes to. -/
inductive Outcome
  | greeted (session : Session) (reply : Reply)
  | replied (reply : Reply)
  | session (session : Session)
  | turn (turn : Turn)
  | messages (caller : Caller) (sids : List String)
  | caller (caller : Caller)
  | nothing

/-- The markup of an outcome, if it has one. -/
def Outcome.response? : Outcome → Option VoiceResponse
  | greeted _ reply => some reply.response
  | replied reply => some reply.response
  | _ => none

/-- What answers a webhook. -/
def Webhook.action (account : Account) (registry : Registry) (params : Params) :
    Webhook → Action Outcome
  | inbound tree => do
      let (session, reply) ← inboundCall registry tree params
      return .greeted session reply
  | outbound tree => return .replied (← outboundCall registry tree params)
  | prompt tree turn => return .replied (← Service.prompt registry tree turn params)
  | promptResponse tree turn =>
      return .replied (← Service.promptResponse account registry tree turn params)
  | timeout tree turn => return .replied (← Service.timeout registry tree turn params)
  | receiveRecording turn => return .turn (← Service.receiveRecording account turn params)
  | transcribe turn => return .turn (← Service.transcribe account turn params)
  | status => return .session (← updateCall params)

/-- The tree that a webhook names in its path. -/
def Webhook.tree? : Webhook → Option String
  | inbound tree | outbound tree => some tree
  | prompt tree _ | promptResponse tree _ | timeout tree _ => some tree
  | receiveRecording _ | transcribe _ | status => none

/-- The turn that a webhook names in its path. -/
def Webhook.turn? : Webhook → Option TurnId
  | prompt _ turn | promptResponse _ turn | timeout _ turn => some turn
  | receiveRecording turn | transcribe turn => some turn
  | inbound _ | outbound _ | status => none

namespace Command

/-- What the service does for a command, with its result. -/
def action (account : Account) (registry : Registry) : Command → Action Outcome
  | webhook entry params => entry.action account registry params
  | startCall tree recipient sender machineDetection =>
      return .session
        (← Service.startCall account registry tree recipient sender machineDetection)
  | sendMessages recipient sender bodies => do
      let (caller, sids) ← Service.sendMessages account recipient sender bodies
      return .messages caller sids
  | findCaller number => return .caller (← findOrCreateCaller number)
  | job work => do
      runJob registry work
      return .nothing

def isWebhook : Command → Bool
  | webhook _ _ => true
  | _ => false

/-- The command, if it names a tree and is about a stored call, names the tree of that call. -/
def NamesOwnTree (state : OpenWorld) : Command → Prop
  | webhook entry params =>
      ∀ tree sid, entry.tree? = some tree → params.callSid? = some sid →
        ∀ session ∈ state.store.sessions, session.sid = sid → session.treeName = tree
  | _ => True

end Command

/-- What may happen besides the commands that are done one after another: which commands come in a
state, and how the world changes between them. -/
structure Traffic where
  Admits : OpenWorld → Command → Prop
  Stirs : OpenWorld → OpenWorld → Prop

/-- Commands done one after another, each with what it came to. -/
inductive Served (account : Account) (registry : Registry) (traffic : Traffic)
    (start : OpenWorld) : List (Command × Except CallError Outcome) → OpenWorld → Prop
  | nothing : Served account registry traffic start [] start
  | stir {served : List (Command × Except CallError Outcome)} {state state' : OpenWorld}
      (before : Served account registry traffic start served state)
      (stirred : traffic.Stirs state state') :
      Served account registry traffic start served state'
  | serve {served : List (Command × Except CallError Outcome)} {command : Command}
      {result : Except CallError Outcome} {state state' : OpenWorld}
      (before : Served account registry traffic start served state)
      (admitted : traffic.Admits state command)
      (run : Action.Runs OpenWorld.rules (command.action account registry) state result state') :
      Served account registry traffic start (served ++ [(command, result)]) state'

section Serve

variable {account : Account} {registry : Registry} {traffic : Traffic}

/-- Does commands one after another in a world that counts its identifiers. -/
def World.serve (account : Account) (registry : Registry) :
    List Command → World → List (Command × Except CallError Outcome) × World
  | [], world => ([], world)
  | command :: rest, world =>
      let (result, world) := world.perform (command.action account registry)
      let (served, world) := serve account registry rest world
      ((command, result) :: served, world)

theorem World.nextId_le_serve (commands : List Command) (world : World) :
    world.nextId ≤ (World.serve account registry commands world).2.nextId := by
  induction commands generalizing world with
  | nil => exact Nat.le_refl _
  | cons command rest ih =>
      exact Nat.le_trans (OpenWorld.isOpen_answer.nextId_le_run _ world) (ih _)

theorem Served.append_serve {start : OpenWorld} {served : List (Command × Except CallError Outcome)}
    {world : World} {commands : List Command} (admits : ∀ state command, traffic.Admits state command)
    (before : Served account registry traffic start served (.ofWorld world))
    (room : (World.serve account registry commands world).2.nextId ≤ Nat.pow 2 128) :
    Served account registry traffic start
      (served ++ (World.serve account registry commands world).1)
      (.ofWorld (World.serve account registry commands world).2) := by
  induction commands generalizing served world with
  | nil => simpa [World.serve] using before
  | cons command rest ih =>
      have hroom := Nat.le_trans (World.nextId_le_serve rest _) room
      have hserved := ih (.serve before (admits _ command) (OpenWorld.runs_perform _ world hroom)) room
      rwa [List.append_assoc] at hserved

/-- Doing commands one after another is one of their runs, as long as the identifiers last. -/
theorem Served.of_serve (commands : List Command) (world : World)
    (admits : ∀ state command, traffic.Admits state command)
    (room : (World.serve account registry commands world).2.nextId ≤ Nat.pow 2 128) :
    Served account registry traffic (.ofWorld world)
      (World.serve account registry commands world).1
      (.ofWorld (World.serve account registry commands world).2) :=
  Served.append_serve admits .nothing room

end Serve

end PhoneTree

import PhoneTree.Service.Caller

namespace PhoneTree.Service

open PhoneTree.Action

/-- The canonical form of a number that must have one. -/
def requireNumber (field number : String) : Action String :=
  match PhoneNumber.normalize number with
  | some number => pure number
  | none => throw (.validationFailed field s!"'{number}' is not a valid phone number")

/-- The number that a call or message comes from. -/
def requireSender (account : Account) (sender : Option String) : Action String :=
  match sender with
  | some number => requireNumber "from" number
  | none => pure account.outgoingNumber

/-- Places a call that will walk a tree. -/
def startCall (account : Account) (registry : Registry) (treeName recipient : String)
    (sender : Option String) (machineDetection : Bool) : Action Session := do
  let tree ← findTree registry treeName
  let recipient ← requireNumber "to" recipient
  let sender ← requireSender account sender
  let sid ← ofTransport (← ask (.startCall
    { recipient, sender, machineDetection
      url := Webhook.address account.publicHost (.outbound tree.name)
      statusCallback := Webhook.address account.publicHost .status }))
  let caller ← findOrCreateCaller recipient
  let id ← freshId
  let createdAt ← now
  let session ← ofAnswer (Session.create ⟨id⟩ createdAt sid .outbound tree.name caller.id
    { fromNumber := recipient, toNumber := some sender })
  ofAnswer (← ask (.saveSession session))
  pure session

/-- Sends the bodies in order and gives the provider's identifiers. A recipient who wants no
messages is passed over; any other failure ends the batch. -/
def sendBodies (recipient sender : String) : List String → Action (List String)
  | [] => pure []
  | body :: rest => do
      match ← ask (.sendMessage { recipient, sender, body }) with
      | .ok sid => return sid :: (← sendBodies recipient sender rest)
      | .error error =>
          if error.isUnsubscribed then sendBodies recipient sender rest
          else throw (.transport error)

/-- Sends text messages to a caller; blank ones are left out. -/
def sendMessages (account : Account) (recipient : String) (sender : Option String)
    (bodies : List String) : Action (Caller × List String) := do
  let sender ← requireSender account sender
  let caller ← findOrCreateCaller recipient
  let sids ← sendBodies caller.number sender (bodies.filter fun body => !Text.isBlank body)
  pure (caller, sids)

end PhoneTree.Service

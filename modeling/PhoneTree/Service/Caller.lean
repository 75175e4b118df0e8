import PhoneTree.Service.Session

namespace PhoneTree.Service

open PhoneTree.Action

/-- The caller of a number. Numbers with one canonical form belong to one caller; a caller that
somebody else stores at the same moment is found again. -/
def findOrCreateCaller (raw : String) : Action Caller :=
  if Text.isBlank raw then throw (.validationFailed "phone_number" "cannot be empty")
  else do
    let number := PhoneNumber.key raw
    match ← ofAnswer (← ask (.callerByNumber number)) with
    | some caller => pure caller
    | none => do
        let id ← freshId
        let createdAt ← now
        let caller : Caller := ⟨⟨id⟩, number, createdAt⟩
        match ← ask (.saveCaller caller) with
        | .ok _ => pure caller
        | .error error =>
            if error.kind = .duplicate then do
              match ← ofAnswer (← ask (.callerByNumber number)) with
              | some caller => pure caller
              | none => throw (.infrastructure error.text)
            else throw (.ofFailure error)

end PhoneTree.Service

import PhoneTree.Http.Address
import PhoneTree.Text.Base64

namespace PhoneTree.Provider

/-- The account with the provider, and the address of its interface. -/
structure Account where
  sid : String
  token : String
  api : String
  deriving DecidableEq, Inhabited

namespace Account

/-- What identifies the account in a request. -/
def authorization (account : Account) : String :=
  "Basic " ++ .ofList (Text.Base64.encode (Text.Utf8.encode (account.sid ++ ":" ++ account.token)))

/-- The address of a kind of resources of the account. -/
def resource (account : Account) (kind : String) : String :=
  let api := String.ofList (account.api.toList.reverse.dropWhile (· == '/')).reverse
  s!"{api}/2010-04-01/Accounts/{account.sid}/{kind}.json"

end Account

/-- A request to the provider. One with a form is a post. -/
structure Request where
  address : Http.Address
  authorization : String
  form : Option String := none
  deriving DecidableEq, Inhabited

namespace Request

def method (request : Request) : String :=
  if request.form.isSome then "POST" else "GET"

def contentType? (request : Request) : Option String :=
  request.form.map fun _ => "application/x-www-form-urlencoded"

def body (request : Request) : String :=
  request.form.getD ""

end Request

/-- What comes back for a request: nothing, or a status with a body that may break off. -/
inductive Reply
  | unanswered (reason : String)
  | answered (status : Nat) (contentType : Option String) (body : Option (List UInt8))
  deriving DecidableEq, Inhabited

namespace Reply

def isSuccess (status : Nat) : Bool :=
  200 ≤ status && status < 300

/-- The text of a header, if all of it is printable. -/
def printable? (header : String) : Option String :=
  if header.toList.all fun c => c == '\t' || (' '.toNat ≤ c.toNat && c.toNat < 0x7F) then
    some header
  else none

end Reply

end PhoneTree.Provider

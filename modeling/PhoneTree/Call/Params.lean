import PhoneTree.Text.Blank

namespace PhoneTree

/-- The fields of a request by name. -/
structure Params where
  fields : List (String × String) := []
  deriving DecidableEq, Inhabited

namespace Params

/-- Sets a field, in place of its former value if it has one. -/
def insert (params : Params) (key value : String) : Params :=
  ⟨params.fields.filter (fun field => field.1 != key) ++ [(key, value)]⟩

/-- The fields of pairs; of several with one name the last counts. -/
def ofList (pairs : List (String × String)) : Params :=
  pairs.foldl (fun params pair => params.insert pair.1 pair.2) {}

/-- The value of a field that is filled. A blank field counts as missing. -/
def get? (params : Params) (key : String) : Option String :=
  ((params.fields.find? fun field => field.1 == key).map (·.2)).filter
    fun value => !Text.isBlank value

/-- The value of the first field of a list that is present. -/
def firstOf? (params : Params) (keys : List String) : Option String :=
  keys.findSome? params.get?

def contains (params : Params) (key : String) : Bool :=
  (params.get? key).isSome

/-- The provider account that a request names. -/
def accountSid? (params : Params) : Option String :=
  params.get? "AccountSid"

/-- The call that a request is about, as the provider names it. -/
def callSid? (params : Params) : Option String :=
  params.get? "CallSid"

end Params

end PhoneTree

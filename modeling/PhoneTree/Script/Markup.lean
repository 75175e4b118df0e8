import PhoneTree.Flow.Markup
import PhoneTree.Json.Field
import PhoneTree.Script.Expression

namespace PhoneTree.Script

/-- An attribute: a name with a text, a truth value or a number. -/
def attribute? (script : Json) : Option (String × String) :=
  match script with
  | .list [.text name, .text value] => some (name, value)
  | .list [.text name, .bool value] => some (flagAttribute name value)
  | .list [.text name, value] => value.nat?.map (numberAttribute name)
  | _ => none

/-- A verb without its attributes and nested verbs. -/
def bareVerb (script : Json) : Verb :=
  let text := script.textAt "text"
  match script.textAt "verb" with
  | "Say" => .say text (script.textAt "voice")
  | "Play" => .play text
  | "Pause" => .pause (script.natAt "length")
  | "Gather" => { kind := .gather }
  | "Record" => { kind := .record }
  | "Redirect" => .redirect text
  | _ => .hangup

/-- A verb with at most `fuel` levels of nested verbs. -/
def verbWithin : Nat → Json → Verb
  | 0, script => bareVerb script
  | fuel + 1, script =>
      let verb := bareVerb script
      { verb with
        attributes := verb.attributes ++ (script.listAt "attrs").filterMap attribute?
        children := (script.listAt "children").map (verbWithin fuel) }

def verb (script : Json) : Verb :=
  verbWithin (depth script) script

end PhoneTree.Script

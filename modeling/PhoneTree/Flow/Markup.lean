import PhoneTree.Text.Decimal

namespace PhoneTree

/-- The kinds of instructions to the provider. -/
inductive VerbKind
  | say
  | play
  | pause
  | gather
  | record
  | redirect
  | hangup
  deriving DecidableEq, Inhabited

def VerbKind.name : VerbKind → String
  | say => "Say"
  | play => "Play"
  | pause => "Pause"
  | gather => "Gather"
  | record => "Record"
  | redirect => "Redirect"
  | hangup => "Hangup"

/-- An instruction with attributes in order, and a text or nested verbs. -/
structure Verb where
  kind : VerbKind
  attributes : List (String × String) := []
  text : Option String := none
  children : List Verb := []
  deriving Inhabited

namespace Verb

/-- Reads a text to the caller. -/
def say (text voice : String) : Verb :=
  { kind := .say, attributes := [("voice", voice)], text := some text }

/-- Plays the audio at an address to the caller. -/
def play (url : String) : Verb :=
  { kind := .play, text := some url }

/-- Waits for some seconds. -/
def pause (seconds : Nat) : Verb :=
  { kind := .pause, attributes := [("length", Text.Decimal.text seconds)] }

/-- Goes on with the markup at another address. -/
def redirect (url : String) : Verb :=
  { kind := .redirect, text := some url }

/-- Ends the call. -/
def hangup : Verb :=
  { kind := .hangup }

section Data

theorem say_eq (text voice : String) :
    say text voice = ⟨.say, [("voice", voice)], some text, []⟩ :=
  rfl

theorem play_eq (url : String) : play url = ⟨.play, [], some url, []⟩ :=
  rfl

/-- The length of a pause is written in decimal. -/
theorem pause_eq (seconds : Nat) :
    pause seconds = ⟨.pause, [("length", toString seconds)], none, []⟩ :=
  rfl

theorem redirect_eq (url : String) : redirect url = ⟨.redirect, [], some url, []⟩ :=
  rfl

theorem hangup_eq : hangup = ⟨.hangup, [], none, []⟩ :=
  rfl

end Data

/-- Whether a verb lets the caller hear something or wait. -/
def isMessage (verb : Verb) : Bool :=
  match verb.kind with
  | .say | .play | .pause => true
  | _ => false

/-- The value of an attribute; of a repeated one, the first. -/
def attribute? (verb : Verb) (name : String) : Option String :=
  (verb.attributes.find? fun pair => pair.1 == name).map (·.2)

end Verb

def flagAttribute (name : String) (value : Bool) : String × String :=
  (name, if value then "true" else "false")

def numberAttribute (name : String) (value : Nat) : String × String :=
  (name, Text.Decimal.text value)

/-- The markup that answers a webhook. -/
structure VoiceResponse where
  verbs : List Verb := []
  deriving Inhabited

namespace VoiceResponse

/-- The response that ends the call at once. -/
def hangupOnly : VoiceResponse :=
  ⟨[.hangup]⟩

/-- Whether the call is over once a response has been heard. -/
def endsWithHangup (response : VoiceResponse) : Bool :=
  response.verbs.getLast?.any fun verb => verb.kind == .hangup

/-- The form of a character outside of tags. -/
def escapeChar : Char → List Char
  | '&' => "&amp;".toList
  | '<' => "&lt;".toList
  | '>' => "&gt;".toList
  | '"' => "&quot;".toList
  | '\'' => "&apos;".toList
  | c => [c]

/-- A text without the characters that markup is made of. -/
def escape (text : String) : List Char :=
  text.toList.flatMap escapeChar

/-- The attributes of a tag, each after a space. -/
def writeAttributes : List (String × String) → List Char
  | [] => []
  | (name, value) :: rest =>
      ' ' :: name.toList ++ '=' :: '"' :: escape value ++ '"' :: writeAttributes rest

mutual

/-- The element of a verb; one without text and nested verbs is written as a single tag. -/
def writeVerb : Verb → List Char
  | ⟨kind, attributes, text, children⟩ =>
      '<' :: kind.name.toList ++ writeAttributes attributes ++
        match text, children with
        | none, [] => ['/', '>']
        | text, children =>
            '>' :: escape (text.getD "") ++ writeVerbs children
              ++ '<' :: '/' :: kind.name.toList ++ ['>']

/-- The elements of verbs in order. -/
def writeVerbs : List Verb → List Char
  | [] => []
  | verb :: rest => writeVerb verb ++ writeVerbs rest

end

def opening : List Char :=
  "<?xml version=\"1.0\" encoding=\"UTF-8\"?><Response>".toList

def closing : List Char :=
  "</Response>".toList

/-- The document that the provider is answered with. -/
def toXml (response : VoiceResponse) : String :=
  .ofList (opening ++ writeVerbs response.verbs ++ closing)

end VoiceResponse

end PhoneTree

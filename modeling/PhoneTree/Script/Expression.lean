import PhoneTree.Json.Writer
import PhoneTree.Tree.Menu
/-!
Scripts: computed parts of trees, written as JSON.

An expression is evaluated in the context of a call and gives a JSON value. Values other than
objects stand for themselves; the keys of an object say what is computed. Scripts are read in as
many steps as they are deep.
-/
namespace PhoneTree.Script

def fail {α : Type} (text : String) : Computed α :=
  fun _ => .error ⟨text⟩

def failInternal {α : Type} (text : String) : Computed α :=
  fun _ => .error (.ofFailure { kind := .internal, message := text })

def constant {α : Type} (value : α) : Computed α :=
  fun _ => .ok value

def part (script : Json) (name : String) : Json :=
  (script.field? name).getD .null

def partText (script : Json) (name : String) : String :=
  ((script.field? name).bind Json.text?).getD ""

def partItems (script : Json) (name : String) : List Json :=
  ((script.field? name).bind Json.list?).getD []

def partTexts (script : Json) (name : String) : List String :=
  (partItems script name).filterMap Json.text?

/-- A value as it goes into a text. -/
def valueText : Json → String
  | .null => ""
  | .text text => text
  | value => value.render

/-- Whether a value counts as true; zero does. -/
def isTrue : Json → Bool
  | .null => false
  | .bool value => value
  | .text text => !text.isEmpty
  | _ => true

def idNumber (id : Uuid) : Json :=
  .ofNat id.bits.toNat

def turnNumber (turn : Option Turn) : Json :=
  .ofOption (fun (turn : Turn) => idNumber turn.id.uuid) turn

def turnQuery? (name : String) (argument : Json) (context : FlowContext) :
    Option (Except CallbackError Json) :=
  match name with
  | "has_turn" => some (.ok (.bool context.turn.isSome))
  | "handle" => some (.ok (.ofOption (fun turn => .text turn.handle.text) context.turn))
  | "is_timeout" => some (.ok (.bool (context.turn.any (·.timedOut))))
  | "digits" => some (.ok (.ofOption .text context.digits))
  | "transcription" => some (.ok (.ofOption .text context.transcription))
  | "integer_digits" => some (.ok (.ofOption .ofNat (context.turn.bind (·.integerDigits))))
  | "pound_star" => some (.ok (.bool (context.turn.any (·.poundStar))))
  | "matches" =>
      let patterns := (argument.list?.getD []).filterMap Json.text?
      some (.ok (.bool (context.turn.any (·.mentions patterns))))
  | "answer_yes" => some (.ok (.bool context.answersYes))
  | "answer_no" => some (.ok (.bool context.answersNo))
  | "numbered_choice" =>
      match context.turn with
      | none => some (.ok .null)
      | some turn =>
          some (((Menu.isChoice (argument.nat?.getD 0) turn).map Json.bool).mapError
            (·.toCallbackError))
  | _ => none

/-- What a context knows about the session and about earlier turns, by name. -/
def sessionQuery (name : String) (argument : Json) (context : FlowContext) : Json :=
  let handle : PromptHandle := ⟨argument.text?.getD ""⟩
  let session := context.session
  match name with
  | "sid" => .text session.sid
  | "from_number" => .text session.details.fromNumber
  | "location" => .ofOption .text session.details.location
  | "direction" => .text session.direction.text
  | "call_status" => .ofOption (fun status => .text status.text) session.status
  | "answered_by" => .ofOption (fun verdict => .text verdict.text) session.answeredBy
  | "is_in_progress" => .bool session.isInProgress
  | "turn_count" => .ofNat session.turns.length
  | "completed_turn" => turnNumber (context.completedTurnFor? handle)
  | "first_turn" => turnNumber (context.firstTurnFor? handle)
  | "response_turn" => turnNumber (context.responseFor? handle)
  | "completed_digits" => .ofOption .text ((context.completedTurnFor? handle).bind (·.digits))
  | "first_digits" => .ofOption .text ((context.firstTurnFor? handle).bind (·.digits))
  | "response_text" => .ofOption .text ((context.responseFor? handle).bind (·.transcription))
  | "response_reached" => .bool (context.responseReached handle)
  | "response_digits" => .ofOption .ofNat (context.responseDigits handle)
  | "call_count" => .ofNat context.callCount
  | "outbound_call_count" => .ofNat context.outboundCallCount
  | "first_for_caller" => .bool (context.firstForCaller (argument.bool?.getD false))
  | _ => .null

/-- The answer to a question about the context. -/
def query (name : String) (argument : Json) : Computed Json := fun context =>
  (turnQuery? name argument context).getD (.ok (sessionQuery name argument context))

mutual

/-- The number of objects and lists around the innermost value. -/
def depth : Json → Nat
  | .list items => listDepth items + 1
  | .object fields => fieldDepth fields + 1
  | _ => 1

def listDepth : List Json → Nat
  | [] => 0
  | item :: rest => max (depth item) (listDepth rest)

def fieldDepth : List (String × Json) → Nat
  | [] => 0
  | (_, value) :: rest => max (depth value) (fieldDepth rest)

end

/-- What an expression of at most `fuel` levels computes. -/
def evaluate : Nat → Json → Computed Json
  | 0, _ => constant .null
  | fuel + 1, script =>
      match script with
      | .object fields =>
          match ["fail", "domain_fail", "q", "cat", "eq", "spell", "choices", "if"].find?
              (fields.map (·.1)).contains with
          | some "fail" => fail (partText script "fail")
          | some "domain_fail" => failInternal (partText script "domain_fail")
          | some "q" => query (partText script "q") (part script "arg")
          | some "cat" => fun context => do
              let values ← (partItems script "cat").mapM fun item => evaluate fuel item context
              return .text ("".intercalate (values.map valueText))
          | some "eq" => fun context => do
              let values ← (partItems script "eq").mapM fun item => evaluate fuel item context
              let texts := values.map Json.render
              return .bool (texts.all fun text => text == texts.headD "")
          | some "spell" => fun context => do
              let value ← evaluate fuel (part script "spell") context
              return .text (Menu.spell (valueText value))
          | some "choices" => fun _ =>
              ((Menu.announce (partTexts script "choices")
                ((script.field? "prefix").bind Json.text?)).map Json.text).mapError
                  (·.toCallbackError)
          | some "if" => fun context => do
              let value ← evaluate fuel (part script "if") context
              evaluate fuel (part script (if isTrue value then "then" else "else")) context
          | _ => constant .null
      | value => constant value

/-- Evaluates a script, as deep as it is. -/
def expression (script : Json) : Computed Json :=
  evaluate (depth script) script

def text (script : Json) : Computed String := fun context =>
  (expression script context).map valueText

/-- Computes one of several parts of a script: a failure, the part that a condition selects, or
what `finish` makes of the script. -/
def choose {α : Type} (finish : Json → Computed α) : Nat → Json → Computed α
  | 0, _ => fail ""
  | fuel + 1, script =>
      match script with
      | .object fields =>
          match ["fail", "domain_fail", "if"].find? (fields.map (·.1)).contains with
          | some "fail" => fail (partText script "fail")
          | some "domain_fail" => failInternal (partText script "domain_fail")
          | some "if" => fun context => do
              let value ← expression (part script "if") context
              choose finish fuel (part script (if isTrue value then "then" else "else")) context
          | _ => finish script
      | script => finish script

end PhoneTree.Script

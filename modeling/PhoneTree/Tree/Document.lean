import PhoneTree.Document.Record
import PhoneTree.Tree.Definition

namespace PhoneTree

/-- A message as it is written with field names. -/
structure MessageFields where
  say : Option String := none
  play : Option String := none
  pause : Option Nat := none
  voice : Option String := none
  deriving DecidableEq, Inhabited

/-- Messages as they are written: a text, a list of messages, or fields. -/
inductive MessageDoc
  | text (text : String)
  | list (items : List MessageDoc)
  | fields (fields : MessageFields)
  deriving Inhabited

/-- A transition as it is written with field names. -/
structure AfterFields where
  message : Option MessageDoc := none
  prompt : Option String := none
  hangup : Option Bool := none
  deriving Inhabited

/-- A transition in a document: the handle of a prompt or a record. -/
inductive AfterDoc
  | handle (handle : String)
  | fields (fields : AfterFields)
  deriving Inhabited

/-- A prompt as it is written. -/
structure PromptDoc where
  name : String
  message : Option MessageDoc
  gather : Option Gather
  after : AfterDoc
  deriving Inhabited

/-- A tree as it is written, before anything in it is compiled. -/
structure TreeDoc where
  name : String
  voice : String
  finalTimeoutMessage : Option MessageDoc
  finalTimeoutAttempts : Nat
  invalidPhoneNumber : Option MessageDoc
  yesAnswers : Option (List String)
  noAnswers : Option (List String)
  greeting : AfterDoc
  prompts : List PromptDoc
  deriving Inhabited

namespace MessageFields

def read? (datum : Datum) : Option MessageFields := do
  let record ← Record.read? .shaped ["say", "play", "pause", "voice"] true datum
  return {
    say := ← record.optional "say" (Datum.text? .shaped)
    play := ← record.optional "play" (Datum.text? .shaped)
    pause := ← record.optional "pause" (Datum.natural? .shaped 32)
    voice := ← record.optional "voice" (Datum.text? .shaped) }

/-- The message of fields, of which exactly one of `say`, `play` and `pause` must be there. -/
def message (fields : MessageFields) : Except MessageFault Message :=
  let described : Except MessageFault Message :=
    match fields.say, fields.play, fields.pause, fields.voice with
    | some words, none, none, voice => .ok (.say (.fixed words) voice)
    | none, some url, none, none => .ok (.play (.fixed url))
    | none, none, some seconds, none => .ok (.pause seconds)
    | none, none, none, _ => .error .missingKind
    | _, _, _, some _ => .error .strayVoice
    | _, _, _, none => .error .severalKinds
  described.bind fun message =>
    match message.fault? with
    | some fault => .error fault
    | none => .ok message

end MessageFields

namespace MessageDoc

mutual

/-- Reads messages of any shape. A list that is no list of messages may be fields in their order. -/
def read? : Datum → Option MessageDoc
  | .scalar .word words => some (.text words)
  | .scalar _ _ => none
  | .list items =>
      match readItems? items with
      | some docs => some (.list docs)
      | none => (MessageFields.read? (.list items)).map .fields
  | .fields pairs => (MessageFields.read? (.fields pairs)).map .fields

def readItems? : List Datum → Option (List MessageDoc)
  | [] => some []
  | item :: rest => do return (← read? item) :: (← readItems? rest)

end

mutual

/-- Adds messages at the end of a set. Blank texts leave no message. -/
def appendTo (set : MessageSet) : MessageDoc → Except TreeError MessageSet
  | .text words => .ok (set.push (.ofText words))
  | .list items => appendItems set items
  | .fields record => (record.message.mapError .badMessage).map set.push

/-- Adds the messages of items to a set in order. -/
def appendItems (set : MessageSet) : List MessageDoc → Except TreeError MessageSet
  | [] => .ok set
  | item :: rest => (appendTo set item).bind fun set => appendItems set rest

end

/-- The set of messages that a document describes. -/
def compile (doc : MessageDoc) : Except TreeError MessageSet :=
  doc.appendTo {}

mutual

/-- The records in order, a text counting as one that says it; blank texts are left out. -/
def leaves : MessageDoc → List MessageFields
  | .text words => if Text.isBlank words then [] else [{ say := some words }]
  | .list items => itemLeaves items
  | .fields record => [record]

/-- The records of a list in order. -/
def itemLeaves : List MessageDoc → List MessageFields
  | [] => []
  | item :: rest => leaves item ++ itemLeaves rest

end

def compileOptional (doc : Option MessageDoc) : Except TreeError (Option MessageSet) :=
  match doc with
  | some doc => doc.compile.map some
  | none => .ok none

end MessageDoc

namespace AfterDoc

/-- Reads a transition in any of its shapes. -/
def read? : Datum → Option AfterDoc
  | .scalar .word name => some (.handle name)
  | datum => do
      let record ← Record.read? .shaped ["message", "prompt", "hangup"] true datum
      return .fields {
        message := ← record.optional "message" MessageDoc.read?
        prompt := ← record.optional "prompt" (Datum.text? .shaped)
        hangup := ← record.optional "hangup" Datum.truth? }

/-- Where the fields of a transition lead. -/
def target (fields : AfterFields) : Except AfterFault Target :=
  match fields.prompt, fields.hangup.getD false with
  | some name, false => .ok (.prompt ⟨name⟩)
  | none, true => .ok .hangup
  | some _, true => .error .promptAndHangup
  | none, false => .error .noTarget

/-- The rule that a document describes; its texts and its target are checked. -/
def compile : AfterDoc → Except TreeError AfterRule
  | .handle name =>
      if Text.isBlank name then .error (.badAfter .blankHandle) else .ok (.goto ⟨name⟩)
  | .fields record => do
      let target ← (target record).mapError .badAfter
      let messages ← MessageDoc.compileOptional record.message
      return .fixed { messages := messages.getD {}, target }

end AfterDoc

/-- Keeps a part until its shape is known and reads it then. -/
def readShaped {α : Type} (read : Datum → Option α) (datum : Datum) : Option α :=
  if datum.isKept then read datum else none

namespace Gather

/-- A number of seconds or keys. -/
def count? : Datum → Option Nat :=
  Datum.natural? .shaped 32

def readDigits? (datum : Datum) : Option DigitsGather := do
  let record ← Record.read? .shaped ["timeout", "number", "finish_on_key", "interrupt"] false datum
  let default : DigitsGather := {}
  return {
    timeout := ← record.withDefault "timeout" default.timeout count?
    number := ← record.withDefault "number" default.number count?
    finishOnKey := ← record.withDefault "finish_on_key" default.finishOnKey
      (Datum.optional? (Datum.text? .shaped))
    interrupt := ← record.withDefault "interrupt" default.interrupt Datum.truth? }

def readVoice? (datum : Datum) : Option VoiceGather := do
  let record ← Record.read? .shaped
    ["length", "timeout", "beep", "transcribe", "profanity_filter"] false datum
  let default : VoiceGather := {}
  return {
    length := ← record.withDefault "length" default.length count?
    timeout := ← record.withDefault "timeout" default.timeout (Datum.optional? count?)
    beep := ← record.withDefault "beep" default.beep Datum.truth?
    transcribe := ← record.withDefault "transcribe" default.transcribe Datum.truth?
    profanityFilter := ← record.withDefault "profanity_filter" default.profanityFilter
      Datum.truth? }

def readSpeech? (datum : Datum) : Option SpeechGather := do
  let record ← Record.read? .shaped
    ["language", "timeout", "speech_timeout", "speech_model", "enhanced", "profanity_filter"]
    false datum
  let default : SpeechGather := {}
  let optionalText := Datum.optional? (Datum.text? .shaped)
  return {
    language := ← record.withDefault "language" default.language (Datum.text? .shaped)
    timeout := ← record.withDefault "timeout" default.timeout (Datum.optional? count?)
    speechTimeout := ← record.withDefault "speech_timeout" default.speechTimeout optionalText
    speechModel := ← record.withDefault "speech_model" default.speechModel optionalText
    enhanced := ← record.withDefault "enhanced" default.enhanced Datum.truth?
    profanityFilter := ← record.withDefault "profanity_filter" default.profanityFilter
      Datum.truth? }

/-- Reads how an answer is collected, by the name of its kind. -/
def readKind? (kind : String) (datum : Datum) : Option Gather :=
  match kind with
  | "digits" => (readDigits? datum).map digits
  | "voice" => (readVoice? datum).map voice
  | "speech" => (readSpeech? datum).map speech
  | _ => none

def isKindKey : Datum → Bool
  | .scalar .word name => name == "type"
  | _ => false

/-- Reads how input is collected: a record with the kind in a field of its own, or a list that
begins with it. -/
def read? (dialect : Dialect) : Datum → Option Gather
  | .fields pairs =>
      match pairs.filter fun pair => isKindKey pair.1 with
      | [(_, kind)] => do
          let rest := Datum.fields (pairs.filter fun pair => !isKindKey pair.1)
          readShaped (readKind? (← kind.text? dialect)) rest
      | _ => none
  | .list (kind :: rest) => do readShaped (readKind? (← kind.text? dialect)) (.list rest)
  | _ => none

/-- The JSON form of how input is collected, with every field. -/
def toJson : Gather → Json
  | digits spec =>
      .object
        [("type", .text "digits"), ("timeout", .ofNat spec.timeout),
          ("number", .ofNat spec.number),
          ("finish_on_key", .ofOption .text spec.finishOnKey),
          ("interrupt", .bool spec.interrupt)]
  | voice spec =>
      .object
        [("type", .text "voice"), ("length", .ofNat spec.length),
          ("timeout", .ofOption .ofNat spec.timeout), ("beep", .bool spec.beep),
          ("transcribe", .bool spec.transcribe),
          ("profanity_filter", .bool spec.profanityFilter)]
  | speech spec =>
      .object
        [("type", .text "speech"), ("language", .text spec.language),
          ("timeout", .ofOption .ofNat spec.timeout),
          ("speech_timeout", .ofOption .text spec.speechTimeout),
          ("speech_model", .ofOption .text spec.speechModel),
          ("enhanced", .bool spec.enhanced),
          ("profanity_filter", .bool spec.profanityFilter)]

end Gather

namespace PromptDoc

/-- Reads a prompt; without a message it is silent. -/
def read? (dialect : Dialect) (datum : Datum) : Option PromptDoc := do
  let record ← Record.read? dialect ["name", "message", "gather", "after"] true datum
  return {
    name := ← record.required "name" (Datum.text? dialect)
    message := ← record.withDefault "message" none
      (Datum.optional? (readShaped MessageDoc.read?))
    gather := ← record.withDefault "gather" none (Datum.optional? (Gather.read? dialect))
    after := ← record.required "after" (readShaped AfterDoc.read?) }

/-- Compiles the messages of a prompt and what comes after it. -/
def compile (doc : PromptDoc) : Except TreeError Prompt := do
  let messages ← MessageDoc.compileOptional doc.message
  let after ← doc.after.compile
  return { handle := ⟨doc.name⟩, messages := messages.getD {}, gather := doc.gather, after }

end PromptDoc

namespace TreeDoc

def names : List String :=
  ["name", "voice", "final_timeout_message", "final_timeout_attempts", "invalid_phone_number",
    "yes_answers", "no_answers", "greeting", "prompts"]

/-- Reads a tree; what is left out has its default. -/
def read? (dialect : Dialect) (datum : Datum) : Option TreeDoc := do
  let record ← Record.read? dialect names true datum
  let default : TreeConfig := {}
  let optionalMessage := Datum.optional? (readShaped MessageDoc.read?)
  let optionalTexts := Datum.optional? (Datum.texts? dialect)
  return {
    name := ← record.required "name" (Datum.text? dialect)
    voice := ← record.withDefault "voice" default.voice (Datum.text? dialect)
    finalTimeoutMessage := ← record.withDefault "final_timeout_message" none optionalMessage
    finalTimeoutAttempts := ← record.withDefault "final_timeout_attempts"
      default.finalTimeoutAttempts (Datum.natural? dialect 64)
    invalidPhoneNumber := ← record.withDefault "invalid_phone_number" none optionalMessage
    yesAnswers := ← record.withDefault "yes_answers" none optionalTexts
    noAnswers := ← record.withDefault "no_answers" none optionalTexts
    greeting := ← record.required "greeting" (readShaped AfterDoc.read?)
    prompts := ← record.withDefault "prompts" [] fun datum => do
      (← datum.items? dialect).mapM (PromptDoc.read? dialect) }

/-- Reads a document in JSON. -/
def ofJson (source : String) : Except TreeError TreeDoc :=
  match ((Json.parse source).bind Datum.ofJson?).bind (read? .json) with
  | some doc => .ok doc
  | none => .error .unreadable

/-- Reads a document in YAML. -/
def ofYaml (source : String) : Except TreeError TreeDoc :=
  match (Yaml.Node.parse source).bind fun node => read? .yaml node.datum with
  | some doc => .ok doc
  | none => .error .unreadable

/-- The draft of a document, with its messages and rules compiled. -/
def draft (doc : TreeDoc) : Except TreeError TreeDraft := do
  let default : TreeConfig := {}
  let greeting ← doc.greeting.compile
  let finalTimeoutMessage ← MessageDoc.compileOptional doc.finalTimeoutMessage
  let invalidPhoneNumber ← MessageDoc.compileOptional doc.invalidPhoneNumber
  let prompts ← doc.prompts.mapM PromptDoc.compile
  return {
    name := doc.name
    config :=
      { voice := doc.voice
        finalTimeoutMessage := finalTimeoutMessage.getD default.finalTimeoutMessage
        finalTimeoutAttempts := doc.finalTimeoutAttempts
        invalidPhoneNumber
        answers :=
          { yes := doc.yesAnswers.getD default.answers.yes
            no := doc.noAnswers.getD default.answers.no } }
    greeting := some greeting
    prompts }

/-- Compiles a document and checks the tree that it describes. -/
def compile (doc : TreeDoc) : Except TreeError Tree := do
  (← doc.draft).build

end TreeDoc

end PhoneTree

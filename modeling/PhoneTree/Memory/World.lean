import PhoneTree.Memory.Store
import PhoneTree.Action

namespace PhoneTree

/-- A provider that remembers what it was asked and answers as it was told to. -/
structure ScriptedProvider where
  calls : List OutboundCall := []
  messages : List OutboundMessage := []
  fetched : List String := []
  media : List (String × Media) := []
  callError : Option TransportError := none
  messageError : Option TransportError := none
  fetchError : Option TransportError := none
  sids : Nat := 0

namespace ScriptedProvider

/-- The identifier of a number in the provider's form. -/
def sid (kind : String) (number : Nat) : String :=
  kind ++ .ofList (Text.Decimal.padded 32 number)

/-- Starts a call, unless the script has an error for it. Each call is noted. -/
def startCall (provider : ScriptedProvider) (request : OutboundCall) :
    Except TransportError String × ScriptedProvider :=
  match provider.callError with
  | some error => (.error error, provider)
  | none =>
      (.ok (sid "CA" (provider.sids + 1)),
        { provider with calls := provider.calls ++ [request], sids := provider.sids + 1 })

/-- Sends a message, unless the script has an error for it. -/
def sendMessage (provider : ScriptedProvider) (request : OutboundMessage) :
    Except TransportError String × ScriptedProvider :=
  match provider.messageError with
  | some error => (.error error, provider)
  | none =>
      (.ok (sid "SM" (provider.sids + 1)),
        { provider with messages := provider.messages ++ [request], sids := provider.sids + 1 })

/-- Fetches the media that are served at an address. -/
def fetch (provider : ScriptedProvider) (url : String) :
    Except TransportError Media × ScriptedProvider :=
  match provider.fetchError with
  | some error => (.error error, provider)
  | none =>
      let provider := { provider with fetched := provider.fetched ++ [url] }
      match provider.media.find? fun entry => entry.1 == url with
      | some (_, media) => (.ok media, provider)
      | none => (.error (.rejected 404 s!"No media at {url}" none), provider)

def serve (provider : ScriptedProvider) (url : String) (media : Media) : ScriptedProvider :=
  { provider with media := (url, media) :: provider.media }

end ScriptedProvider

/-- All that the action of a call may read and write. -/
structure World where
  store : Store := {}
  audio : List (RecordingId × Media) := []
  scheduled : List (Job × Nat) := []
  provider : ScriptedProvider := {}
  hooks : List (Hook × Session) := []
  nextId : Nat := 1
  clock : Timestamp := ⟨0⟩

namespace World

/-- How far the clock moves with every reading, in nanoseconds. -/
def tick : Int := 1000

/-- Takes over the outcome of a write; a failed write changes nothing. -/
def write (world : World) (result : Except Failure Store) : Except Failure Unit × World :=
  match result with
  | .ok store => (.ok (), { world with store })
  | .error error => (.error error, world)

def audioOf? (world : World) (recording : RecordingId) : Option Media :=
  (world.audio.find? fun entry => entry.1 == recording).map (·.2)

/-- Keeps audio in place of what was kept before. -/
def keepAudio (world : World) (recording : RecordingId) (media : Media) : World :=
  { world with audio := (recording, media) :: world.audio.filter fun entry => entry.1 != recording }

/-- Answers one question and gives the world as it is afterwards. -/
def answer : (question : Question) → World → question.Answer × World
  | .saveSession session, world => world.write (world.store.saveSession session)
  | .updateSession session, world =>
      let (result, store) := world.store.updateSession session
      (result, { world with store })
  | .sessionById id, world => (.ok (world.store.sessionById id), world)
  | .sessionBySid sid, world => (.ok (world.store.sessionBySid sid), world)
  | .countCalls caller tree direction, world =>
      (.ok (world.store.countCalls caller tree direction), world)
  | .saveTurn turn, world => world.write (world.store.saveTurn turn)
  | .recordInput turn input, world => world.write (world.store.recordInput turn input)
  | .markTimedOut turn, world => world.write (world.store.markTimedOut turn)
  | .attachToTurn turn recording, world => world.write (world.store.attachToTurn turn recording)
  | .turnById id, world => (.ok (world.store.turnById id), world)
  | .latestTurns session handle limit, world =>
      (.ok (world.store.latestTurns session handle limit), world)
  | .callerTurns caller tree, world => (.ok (world.store.callerTurns caller tree), world)
  | .recordingExists session sid, world => (.ok (world.store.recordingExists session sid), world)
  | .saveRecording recording, world => world.write (world.store.saveRecording recording)
  | .updateRecording recording, world => world.write (world.store.updateRecording recording)
  | .recordingById id, world => (.ok (world.store.recordingById id), world)
  | .callerByNumber number, world => (.ok (world.store.callerByNumber number), world)
  | .saveCaller caller, world => world.write (world.store.saveCaller caller)
  | .schedule job delay, world =>
      (.ok (), { world with scheduled := world.scheduled ++ [(job, delay)] })
  | .storeAudio recording media, world =>
      (.ok s!"memory://recordings/{recording.uuid.text}", world.keepAudio recording media)
  | .startCall request, world =>
      let (result, provider) := world.provider.startCall request
      (result, { world with provider })
  | .sendMessage request, world =>
      let (result, provider) := world.provider.sendMessage request
      (result, { world with provider })
  | .fetchRecording url, world =>
      let (result, provider) := world.provider.fetch url
      (result, { world with provider })
  | .runHook hook callback session, world =>
      (callback session, { world with hooks := world.hooks ++ [(hook, session)] })
  | .freshId, world => (.ofNat world.nextId, { world with nextId := world.nextId + 1 })
  | .currentTime, world => (world.clock, { world with clock := ⟨world.clock.nanos + tick⟩ })

/-- Performs an action to its end. What was written before an error stays written. -/
def perform {α : Type} (action : Action α) (world : World) : Except CallError α × World :=
  Dialogue.run answer (ExceptT.run action) world

end World

end PhoneTree

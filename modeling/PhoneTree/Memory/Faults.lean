import PhoneTree.Memory.World

namespace PhoneTree

/-- A kind of question that can be made to fail. -/
inductive FaultSite
  | sessionSave
  | sessionUpdate
  | sessionById
  | sessionBySid
  | sessionCount
  | turnSave
  | turnRecordInput
  | turnMarkTimedOut
  | turnAttach
  | turnById
  | turnLatest
  | turnHistory
  | recordingExists
  | recordingSave
  | recordingUpdate
  | recordingById
  | callerByNumber
  | callerSave
  | schedule
  | storeAudio
  deriving DecidableEq, Inhabited

/-- The names by which faults are asked for. -/
def FaultSite.names : List (String × FaultSite) :=
  [("session.save", sessionSave), ("session.update", sessionUpdate),
    ("session.find_by_id", sessionById), ("session.find_by_sid", sessionBySid),
    ("session.count_for_caller", sessionCount), ("turn.save", turnSave),
    ("turn.record_input", turnRecordInput), ("turn.mark_timed_out", turnMarkTimedOut),
    ("turn.attach_recording", turnAttach), ("turn.find_by_id", turnById),
    ("turn.latest_for_handle", turnLatest), ("turn.history_for_caller", turnHistory),
    ("recording.exists_for_session", recordingExists), ("recording.save", recordingSave),
    ("recording.update", recordingUpdate), ("recording.find_by_id", recordingById),
    ("caller.find_by_number", callerByNumber), ("caller.save", callerSave),
    ("scheduler.schedule", schedule), ("storage.store", storeAudio)]

def FaultSite.ofName? (name : String) : Option FaultSite :=
  names.lookup name

/-- The site of a question. Some questions cannot be made to fail. -/
def Question.site? : Question → Option FaultSite
  | saveSession _ => some .sessionSave
  | updateSession _ => some .sessionUpdate
  | sessionById _ => some .sessionById
  | sessionBySid _ => some .sessionBySid
  | countCalls _ _ _ => some .sessionCount
  | saveTurn _ => some .turnSave
  | recordInput _ _ => some .turnRecordInput
  | markTimedOut _ => some .turnMarkTimedOut
  | attachToTurn _ _ => some .turnAttach
  | turnById _ => some .turnById
  | latestTurns _ _ _ => some .turnLatest
  | callerTurns _ _ => some .turnHistory
  | recordingExists _ _ => some .recordingExists
  | saveRecording _ => some .recordingSave
  | updateRecording _ => some .recordingUpdate
  | recordingById _ => some .recordingById
  | callerByNumber _ => some .callerByNumber
  | saveCaller _ => some .callerSave
  | schedule _ _ => some .schedule
  | storeAudio _ _ => some .storeAudio
  | startCall _ => none
  | sendMessage _ => none
  | fetchRecording _ => none
  | runHook _ _ _ => none
  | freshId => none
  | currentTime => none

/-- A planned fault, which waits for its turn at one site and takes the place of one answer. Without
a kind of failure the question is answered that there is nothing, and a write is lost unnoticed. -/
structure Fault where
  site : FaultSite
  kind : Option FailureKind
  message : String
  skip : Nat

namespace Fault

/-- The answer at a site at which a fault happens, or the value for nothing. -/
def outcome {α : Type} (fault : Fault) (nothing : α) : Except Failure α :=
  match fault.kind with
  | some kind => .error { kind, message := fault.message }
  | none => .ok nothing

/-- What a fault answers to a question in the place of the world. -/
def answer? (fault : Fault) : (question : Question) → Option question.Answer
  | .saveSession _ => some (fault.outcome ())
  | .updateSession session => some (fault.outcome session)
  | .sessionById _ => some (fault.outcome none)
  | .sessionBySid _ => some (fault.outcome none)
  | .countCalls _ _ _ => some (fault.outcome 0)
  | .saveTurn _ => some (fault.outcome ())
  | .recordInput _ _ => some (fault.outcome ())
  | .markTimedOut _ => some (fault.outcome ())
  | .attachToTurn _ _ => some (fault.outcome ())
  | .turnById _ => some (fault.outcome none)
  | .latestTurns _ _ _ => some (fault.outcome [])
  | .callerTurns _ _ => some (fault.outcome [])
  | .recordingExists _ _ => some (fault.outcome false)
  | .saveRecording _ => some (fault.outcome ())
  | .updateRecording _ => some (fault.outcome ())
  | .recordingById _ => some (fault.outcome none)
  | .callerByNumber _ => some (fault.outcome none)
  | .saveCaller _ => some (fault.outcome ())
  | .schedule _ _ => some (fault.outcome ())
  | .storeAudio _ _ =>
      some (if fault.kind.isSome then .error ⟨fault.message⟩ else .ok "")
  | _ => none

/-- Lets the first fault of a site wait or happen: the faults left, and the one that happens. -/
def next (site : FaultSite) : List Fault → List Fault × Option Fault
  | [] => ([], none)
  | fault :: rest =>
      if fault.site = site then
        match fault.skip with
        | 0 => (rest, some fault)
        | skip + 1 => ({ fault with skip } :: rest, none)
      else
        let (rest, happened) := next site rest
        (fault :: rest, happened)

end Fault

/-- A world with the faults that are still to come. -/
structure FaultyWorld where
  world : World := {}
  faults : List Fault := []

namespace FaultyWorld

/-- Answers with the next fault of the question's site, or as the world does. -/
def answer (question : Question) (faulty : FaultyWorld) : question.Answer × FaultyWorld :=
  let (faults, happened) :=
    match question.site? with
    | some site => Fault.next site faulty.faults
    | none => (faulty.faults, none)
  match happened.bind fun fault => fault.answer? question with
  | some reply => (reply, { faulty with faults })
  | none =>
      let (reply, world) := World.answer question faulty.world
      (reply, { world, faults })

/-- Runs an action to its end. -/
def perform {α : Type} (action : Action α) (faulty : FaultyWorld) :
    Except CallError α × FaultyWorld :=
  Dialogue.run answer (ExceptT.run action) faulty

end FaultyWorld

end PhoneTree

import PhoneTree.Proofs.Callbacks
import PhoneTree.Proofs.TurnConduct

namespace PhoneTree

/-- What has been filled into a turn goes together. -/
structure Turn.Sound (turn : Turn) : Prop where
  silent : turn.timedOut = true → turn.digits = none
  recorded : turn.timedOut = true → turn.transcription.isSome = true → turn.recording.isSome = true
  transcribed : turn.transcribed = turn.transcription.isSome

/-- Every stored turn is sound. -/
def Store.TurnsSound (store : Store) : Prop :=
  ∀ turn ∈ store.turns, turn.Sound

section Turns

variable {turn : Turn}

theorem Turn.IsBlank.sound (h : turn.IsBlank) : turn.Sound := by
  rw [h]
  constructor <;> simp

theorem Turn.acceptable_of_timedOut (htimeout : turn.timedOut = true) (offered : TurnInput) :
    turn.acceptable offered =
      { digits := none
        transcription :=
          if turn.recording.isSome && turn.transcription.isNone then offered.transcription
          else none } := by
  simp [acceptable, isSettled, htimeout]

theorem Turn.merge_transcribed (h : turn.transcribed = turn.transcription.isSome)
    (input : TurnInput) : (turn.merge input).transcribed = (turn.merge input).transcription.isSome := by
  simp only [merge, h]
  cases turn.transcription <;> simp

/-- A turn that timed out takes no digits, and a transcription only for its recording. -/
theorem Turn.Sound.merge (h : turn.Sound) (offered : TurnInput) :
    (turn.merge (turn.acceptable offered)).Sound := by
  refine ⟨?_, ?_, merge_transcribed h.transcribed _⟩
  · intro htimeout
    have hmarked : turn.timedOut = true := htimeout
    simp [Turn.merge, acceptable_of_timedOut hmarked, h.silent hmarked]
  · intro htimeout htranscription
    have hmarked : turn.timedOut = true := htimeout
    cases hrecording : turn.recording with
    | some recording => simp [Turn.merge, hrecording]
    | none =>
        -- without a recording it accepts no transcription, so it had the one that it has
        have hown : turn.transcription.isSome = true := by
          simpa [Turn.merge, acceptable_of_timedOut hmarked, hrecording] using htranscription
        have hrecorded := h.recorded hmarked hown
        rw [hrecording] at hrecorded
        cases hrecorded

theorem Turn.Sound.markTimedOut (h : turn.Sound) (hopen : turn.hasInput = false) :
    turn.markTimedOut.Sound := by
  have hnone : turn.digits = none ∧ turn.transcription = none := by
    simpa [hasInput] using hopen
  refine ⟨fun _ => hnone.1, ?_, h.transcribed⟩
  intro _ htranscription
  have hsome : turn.transcription.isSome = true := htranscription
  rw [hnone.2] at hsome
  cases hsome

theorem Turn.Sound.attach (h : turn.Sound) (recording : RecordingId) :
    (turn.attach recording).Sound :=
  ⟨h.silent, fun _ _ => rfl, h.transcribed⟩

end Turns

namespace Store

variable {store : Store}

theorem forall_modifyTurn {id : TurnId} {change : Turn → Turn} {turns : List Turn}
    {P : Turn → Prop} (h : ∀ turn ∈ turns, P turn)
    (changed : ∀ turn, (turns.find? fun other => other.id == id) = some turn → P (change turn)) :
    ∀ turn ∈ modifyTurn id change turns, P turn := by
  induction turns with
  | nil => simp [modifyTurn]
  | cons first rest ih =>
      rw [modifyTurn]
      split
      · rename_i hid
        intro turn hturn
        rcases List.mem_cons.mp hturn with rfl | hturn
        · exact changed first (by simp [hid])
        · exact h turn (List.mem_cons_of_mem _ hturn)
      · rename_i hid
        intro turn hturn
        rcases List.mem_cons.mp hturn with rfl | hturn
        · exact h _ List.mem_cons_self
        · refine ih (fun other hother => h other (List.mem_cons_of_mem _ hother)) ?_ turn hturn
          intro other hother
          exact changed other (by simpa [hid] using hother)

theorem TurnsSound.write (h : store.TurnsSound) (write : TurnWrite)
    (suits : store.Suits write.question) :
    ∀ turn ∈ writtenTurns [write] store.turns, turn.Sound := by
  apply forall_modifyTurn h
  intro turn hfound
  have hsound := h turn (List.mem_of_find?_eq_some hfound)
  cases write with
  | input id input =>
      obtain ⟨stored, offered, hstored, rfl⟩ := suits
      obtain rfl := Option.some.inj (hstored.symm.trans hfound)
      exact hsound.merge offered
  | timeout id =>
      obtain ⟨stored, hstored, hopen⟩ := suits
      obtain rfl := Option.some.inj (hstored.symm.trans hfound)
      exact hsound.markTimedOut hopen
  | recording id attached =>
      rw [TurnWrite.change]
      split
      · exact hsound.attach attached
      · exact hsound

end Store

namespace OpenWorld

variable {state state' : OpenWorld} {question : Question} {answer : question.Answer}

/-- What suits the stored turns keeps them sound, however it is answered. -/
theorem sound_of_answers (h : state.store.TurnsSound) (suits : state.store.Suits question)
    (answered : state.Answers question answer state') : state'.store.TurnsSound := by
  by_cases hpart : question.part? = some .turns
  · cases question with
    | saveTurn turn =>
        obtain ⟨hsaved, hfailed⟩ := answers_saveTurn_turns answered
        rw [Store.TurnsSound]
        by_cases hok : answer = .ok ()
        · rw [(hsaved hok).2]
          intro other hother
          rcases List.mem_append.mp hother with hother | hother
          · exact h other hother
          · obtain rfl := List.mem_singleton.mp hother
            exact suits.sound
        · rw [hfailed hok]
          exact h
    | recordInput id input =>
        rw [Store.TurnsSound, answers_write (.input id input) answered]
        exact h.write (.input id input) suits
    | markTimedOut id =>
        rw [Store.TurnsSound, answers_write (.timeout id) answered]
        exact h.write (.timeout id) suits
    | attachToTurn id recording =>
        rw [Store.TurnsSound, answers_write (.recording id recording) answered]
        exact h.write (.recording id recording) suits
    | _ => cases hpart
  · rw [Store.TurnsSound, answers_turns answered hpart]
    exact h

theorem sound_of_runs {α : Type} {program : Dialogue Question Question.Answer α}
    {post : α → OpenWorld → Prop} {value : α} (h : state.store.TurnsSound)
    (conducts : program.Ensures turnConduct state post)
    (run : program.Runs rules state value state') : state'.store.TurnsSound := by
  induction run with
  | done => exact h
  | ask answered _ ih =>
      exact ih (sound_of_answers h conducts.1 answered) (conducts.2 _ _ answered)

end OpenWorld

section Runs

variable {account : Service.Account} {registry : Registry} {start state : OpenWorld}
  {served : List (Command × Except CallError Outcome)}

theorem Served.turnsSound (h : start.store.TurnsSound)
    (run : Served account registry .any start served state) : state.store.TurnsSound := by
  induction run with
  | nothing => exact h
  | stir before stirred ih =>
      obtain ⟨due, rfl⟩ := stirred
      exact ih
  | @serve _ command _ _ _ before admitted run ih =>
      exact OpenWorld.sound_of_runs ih command.conductsTurns run

/-- However webhooks and other commands come one after another, and whatever comes of each of them,
no stored turn is timed out and has digits, one that is timed out and has a transcription has a
recording, and a turn counts as transcribed exactly if it has a transcription. -/
theorem turns_take_input_or_timeout (empty : start.store = {})
    (run : Served account registry .any start served state) :
    ∀ turn ∈ state.store.turns,
      ¬(turn.timedOut = true ∧ turn.digits.isSome = true) ∧
      (turn.timedOut = true → turn.transcription.isSome = true → turn.recording.isSome = true) ∧
      (turn.transcribed = true ↔ turn.transcription.isSome = true) := by
  have hstart : start.store.TurnsSound := by simp [Store.TurnsSound, empty]
  intro turn hturn
  have hsound := run.turnsSound hstart turn hturn
  refine ⟨?_, hsound.recorded, by rw [hsound.transcribed]⟩
  rintro ⟨htimeout, hdigits⟩
  rw [hsound.silent htimeout] at hdigits
  cases hdigits

end Runs

section Late

/-- A call whose caller is silent at first: the timeout comes before digits, the recording and its
transcription. -/
def lateCommands : List Command :=
  let turn : TurnId := ⟨.ofNat 3⟩
  let call : List (String × String) := [("CallSid", "CA0"), ("From", "+12025550123")]
  let recording : List (String × String) := [("RecordingSid", "RE0")]
  [.webhook (.inbound "main") ⟨call⟩,
    .webhook (.timeout "main" turn) ⟨call⟩,
    .webhook (.promptResponse "main" turn) ⟨("Digits", "5") :: call⟩,
    .webhook (.receiveRecording turn) ⟨recording ++ call⟩,
    .webhook (.transcribe turn)
      ⟨("TranscriptionStatus", "completed") :: ("TranscriptionText", "five") :: recording ++ call⟩]

def lateCalls : List (Command × Except CallError Outcome) × World :=
  World.serve default ⟨[questionTree]⟩ lateCommands {}

theorem lateCalls_served :
    Served default ⟨[questionTree]⟩ .any (.ofWorld {}) lateCalls.1 (.ofWorld lateCalls.2) :=
  Served.of_serve lateCommands {} (fun _ _ => trivial) (by decide +kernel)

theorem lateCalls_take_the_timeout :
    (lateCalls.2.store.turns.any fun turn => turn.timedOut && turn.transcription == some "five") =
        true ∧
      ∀ turn ∈ lateCalls.2.store.turns,
        ¬(turn.timedOut = true ∧ turn.digits.isSome = true) ∧
        (turn.timedOut = true → turn.transcription.isSome = true →
          turn.recording.isSome = true) ∧
        (turn.transcribed = true ↔ turn.transcription.isSome = true) := by
  have hlate : (lateCalls.2.store.turns.any fun turn =>
      turn.timedOut && turn.transcription == some "five") = true := by
    decide +kernel
  have hserved := lateCalls_served
  generalize lateCalls = calls at hlate hserved ⊢
  exact ⟨hlate, turns_take_input_or_timeout rfl hserved⟩

end Late

end PhoneTree

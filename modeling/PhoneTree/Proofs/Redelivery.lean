import PhoneTree.Proofs.StepShape
import PhoneTree.Proofs.StepView

namespace PhoneTree

section Turns

variable {turn : Turn}

/-- The turn waits for neither an answer nor the transcription of its recording. -/
structure Turn.IsComplete (turn : Turn) : Prop where
  settled : turn.isSettled = true
  transcribed : turn.recording = none ∨ turn.transcription.isSome = true

theorem Turn.IsComplete.acceptable (h : turn.IsComplete) (input : TurnInput) :
    turn.acceptable input = {} := by
  have hclosed : (turn.recording.isSome && turn.transcription.isNone) = false := by
    rcases h.transcribed with hnone | hsome
    · simp [hnone]
    · obtain ⟨text, htext⟩ := Option.isSome_iff_exists.mp hsome
      simp [htext]
  simp [Turn.acceptable, h.settled, hclosed]

@[simp] theorem Turn.takes_nothing (turn : Turn) : turn.takes {} = false := by
  simp [takes]

@[simp] theorem Turn.merge_nothing (turn : Turn) : turn.merge {} = turn :=
  merge_eq_self_iff.mpr turn.takes_nothing

end Turns

namespace Session

variable {session : Session} {turn : Turn} {turns : List Turn}

theorem find?_replaceFirst (h : (turns.any fun other => other.id == turn.id) = true) :
    (replaceFirst turn turns).find? (fun other => other.id == turn.id) = some turn := by
  induction turns with
  | nil => cases h
  | cons other rest ih =>
      rw [replaceFirst]
      split
      · simp
      · rename_i hother
        have hrest : (rest.any fun other => other.id == turn.id) = true := by
          simpa [hother] using h
        simpa [hother] using ih hrest

theorem turn?_recordTurn (session : Session) (turn : Turn) :
    (session.recordTurn turn).turn? turn.id = some turn := by
  rw [recordTurn]
  split
  · rename_i hhas
    exact find?_replaceFirst hhas
  · rename_i hnew
    have hnone : session.turns.find? (fun other => other.id == turn.id) = none := by
      simpa [hasTurn] using hnew
    simp [turn?, recalculate, List.find?_append, hnone]

theorem replaceFirst_of_find? (h : turns.find? (fun other => other.id == turn.id) = some turn) :
    replaceFirst turn turns = turns := by
  induction turns with
  | nil => rfl
  | cons other rest ih =>
      rw [replaceFirst]
      split
      · rename_i hid
        rw [List.find?_cons_of_pos (by simpa using hid)] at h
        rw [Option.some.inj h]
      · rename_i hid
        rw [List.find?_cons_of_neg (by simpa using hid)] at h
        rw [ih h]

theorem recordTurn_of_turn? (h : session.turn? turn.id = some turn) :
    session.recordTurn turn = session.recalculate := by
  have hhas : session.hasTurn turn.id = true :=
    List.any_eq_true.mpr ⟨turn, List.mem_of_find?_eq_some h, by simp⟩
  rw [recordTurn, if_pos hhas, replaceTurn, replaceFirst_of_find? h]

theorem recalculate_recordTurn (session : Session) (turn : Turn) :
    (session.recordTurn turn).recalculate = session.recordTurn turn := rfl

@[simp] theorem recordTurn_recordTurn (session : Session) (turn : Turn) :
    (session.recordTurn turn).recordTurn turn = session.recordTurn turn :=
  (recordTurn_of_turn? (session.turn?_recordTurn turn)).trans (session.recalculate_recordTurn turn)

@[simp] theorem recordTurn_isAnsweringMachine (session : Session) (turn : Turn) :
    (session.recordTurn turn).isAnsweringMachine = session.isAnsweringMachine := by
  rw [recordTurn]
  split <;> rfl

end Session

namespace FlowScene

/-- The verb with which a call is sent on to a turn, or else ended. -/
def sendOff (scene : FlowScene) : Option Turn → Verb
  | none => .hangup
  | some next => .redirect (Webhook.prompt scene.tree.name next.id).path

/-- A step leads the caller the same way as another one, with the same words and to the same
prompt. -/
structure LeadsAlike (scene : FlowScene) (step replay : FlowStep) : Prop where
  outcome : replay.outcome = step.outcome
  prompt : replay.nextTurn.map (·.handle) = step.nextTurn.map (·.handle)
  response : ∃ said, step.response = ⟨said ++ [scene.sendOff step.nextTurn]⟩ ∧
    replay.response = ⟨said ++ [scene.sendOff replay.nextTurn]⟩

variable {scene : FlowScene} {session : Session} {turn updated : Turn} {step : FlowStep}
  {first : TurnInput}

theorem follow_again {context : FlowContext} {transition : Transition} (fresh : TurnId)
    (now : Timestamp) (h : scene.follow session context transition = .ok step) :
    ∃ replay, ({ scene with freshTurn := fresh, now } : FlowScene).follow session context transition =
      .ok replay ∧ scene.LeadsAlike step replay := by
  obtain ⟨said, hsaid, ⟨htarget, rfl⟩ | ⟨handle, htarget, hknown, rfl⟩⟩ := follow_eq_ok.mp h
  · exact ⟨_, follow_eq_ok.mpr ⟨said, hsaid, .inl ⟨htarget, rfl⟩⟩, rfl, rfl, said, rfl, rfl⟩
  · exact ⟨_, follow_eq_ok.mpr ⟨said, hsaid, .inr ⟨handle, htarget, hknown, rfl⟩⟩, rfl, rfl, said,
      rfl, rfl⟩

theorem onInput_of_complete (person : session.isAnsweringMachine = false)
    (complete : turn.IsComplete) (input : TurnInput) :
    scene.onInput session turn input = scene.leavePrompt session turn none := by
  simp [onInput, person, complete.acceptable]

/-- Once an answer is complete, a further delivery, whatever it carries and whenever it comes, leads
the caller the same way and changes nothing. -/
theorem redelivered_input_leads_alike (taken : scene.onInput session turn first = .ok step)
    (updates : step.updatedTurn = some updated) (complete : updated.IsComplete) (fresh : TurnId)
    (now : Timestamp) (second : TurnInput) :
    ∃ replay, ({ scene with freshTurn := fresh, now } : FlowScene).onInput
        (session.recordTurn updated) updated second = .ok replay ∧
      replay.updatedTurn = some updated ∧ replay.turnChange = none ∧
      scene.LeadsAlike step replay := by
  cases person : session.isAnsweringMachine with
  | true =>
      rw [onInput, if_pos person] at taken
      obtain rfl := Except.ok.inj taken
      cases updates
  | false =>
      simp only [onInput, person, Bool.false_eq_true, if_false] at taken
      obtain ⟨prompt, transition, followed, hprompt, hresolve, hfollow, rfl⟩ :=
        leavePrompt_eq_ok.mp taken
      rw [Option.some.inj updates] at hprompt hresolve hfollow
      obtain ⟨replayed, hagain, halike⟩ := follow_again fresh now hfollow
      have hperson : (session.recordTurn updated).isAnsweringMachine = false := by
        rw [Session.recordTurn_isAnsweringMachine, person]
      refine ⟨{ replayed with updatedTurn := some updated, turnChange := none }, ?_, rfl, rfl,
        halike.outcome, halike.prompt, halike.response⟩
      rw [onInput_of_complete hperson complete]
      refine leavePrompt_eq_ok.mpr ⟨prompt, transition, replayed, hprompt, ?_, ?_, rfl⟩
      · rw [Session.recordTurn_recordTurn]
        exact hresolve
      · rw [Session.recordTurn_recordTurn]
        exact hagain

end FlowScene

section Choice

def chosenTurn : Turn :=
  choiceTurn.merge { digits := some "1" }

/-- The key that would have ended the call comes too late. -/
theorem choice_leads_alike :
    ∃ step, choiceScene.onInput default choiceTurn { digits := some "1" } = .ok step ∧
      ∃ replay, ({ choiceScene with freshTurn := ⟨.ofNat 7⟩, now := ⟨7⟩ } : FlowScene).onInput
          (Session.recordTurn default chosenTurn) chosenTurn { digits := some "0" } = .ok replay ∧
        replay.updatedTurn = some chosenTurn ∧ replay.turnChange = none ∧
        choiceScene.LeadsAlike step replay := by
  have hchosen : (choiceScene.onInput default choiceTurn { digits := some "1" }).toOption.map
      (·.updatedTurn) = some (some chosenTurn) := by decide +kernel
  cases hstep : choiceScene.onInput default choiceTurn { digits := some "1" } with
  | error error =>
      rw [hstep] at hchosen
      cases hchosen
  | ok step =>
      rw [hstep] at hchosen
      exact ⟨step, rfl, FlowScene.redelivered_input_leads_alike hstep (Option.some.inj hchosen)
        ⟨rfl, .inl rfl⟩ _ _ _⟩

end Choice

end PhoneTree

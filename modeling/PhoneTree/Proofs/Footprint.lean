import PhoneTree.Proofs.Exchange

namespace PhoneTree

/-- The parts of the world that questions write to. -/
inductive Part
  | sessions
  | turns
  | recordings
  | callers
  | jobs
  | audio
  | provider
  | hooks
  deriving DecidableEq

/-- The part that a question writes to. Identifiers and the clock belong to none. -/
def Question.part? : Question → Option Part
  | saveSession _ | updateSession _ => some .sessions
  | saveTurn _ | recordInput _ _ | markTimedOut _ | attachToTurn _ _ => some .turns
  | saveRecording _ | updateRecording _ => some .recordings
  | saveCaller _ => some .callers
  | schedule _ _ => some .jobs
  | storeAudio _ _ => some .audio
  | startCall _ | sendMessage _ | fetchRecording _ => some .provider
  | runHook _ _ _ => some .hooks
  | sessionById _ | sessionBySid _ | countCalls _ _ _ | turnById _ | latestTurns _ _ _
  | callerTurns _ _ | recordingExists _ _ | recordingById _ | callerByNumber _ | freshId
  | currentTime => none

namespace Dialogue

variable {Q : Type} {A : Q → Type} {σ α β : Type}

/-- The program asks only such questions, whatever it is answered. -/
inductive AsksOnly (allowed : Q → Prop) : Dialogue Q A α → Prop
  | done {value : α} : AsksOnly allowed (done value)
  | ask {question : Q} {next : A question → Dialogue Q A α} (first : allowed question)
      (rest : ∀ answer, AsksOnly allowed (next answer)) : AsksOnly allowed (ask question next)

theorem AsksOnly.mono {allowed allowed' : Q → Prop} {program : Dialogue Q A α}
    (h : program.AsksOnly allowed) (weaker : ∀ question, allowed question → allowed' question) :
    program.AsksOnly allowed' := by
  induction h with
  | done => exact .done
  | ask allows _ ih => exact .ask (weaker _ allows) ih

theorem AsksOnly.bind {allowed : Q → Prop} {program : Dialogue Q A α}
    {rest : α → Dialogue Q A β} (first : program.AsksOnly allowed)
    (second : ∀ value, (rest value).AsksOnly allowed) : (program.bind rest).AsksOnly allowed := by
  induction first with
  | done => exact second _
  | ask allows _ ih => exact .ask allows ih

/-- What no question that a program asks can change still holds when it ends. -/
theorem AsksOnly.ensures {rules : Rules Q A σ} {allowed : Q → Prop} {kept : σ → Prop}
    {program : Dialogue Q A α} {state : σ} (h : program.AsksOnly allowed)
    (mayAsk : ∀ state question, allowed question → rules.MayAsk state question)
    (keeps : ∀ state question answer state', allowed question → kept state →
      rules.Answers state question answer state' → kept state') (holds : kept state) :
    program.Ensures rules state fun _ state' => kept state' := by
  induction h generalizing state with
  | done => exact holds
  | @ask question next allows _ ih =>
      refine ⟨mayAsk state question allows, ?_⟩
      intro answer state' answered
      exact ih answer (keeps state question answer state' allows holds answered)

end Dialogue

namespace Action

variable {α β : Type} {parts parts' : List Part}

/-- The action writes to no other parts of the world. -/
def Touches (parts : List Part) (action : Action α) : Prop :=
  action.run.AsksOnly fun question => ∀ part, question.part? = some part → part ∈ parts

theorem Touches.mono {action : Action α} (h : action.Touches parts) (weaker : parts ⊆ parts') :
    action.Touches parts' :=
  Dialogue.AsksOnly.mono h fun _ hparts part hpart => weaker (hparts part hpart)

theorem touches_pure {value : α} : Touches parts (pure value : Action α) :=
  .done

theorem touches_throw {error : CallError} : Touches parts (throw error : Action α) :=
  .done

theorem touches_ask {question : Question}
    (h : ∀ part, question.part? = some part → part ∈ parts) : Touches parts (ask question) :=
  .ask h fun _ => .done

theorem touches_read {question : Question} (h : question.part? = none) :
    Touches parts (ask question) := by
  refine touches_ask ?_
  intro part hpart
  rw [h] at hpart
  cases hpart

theorem touches_write {question : Question} {part : Part} (h : question.part? = some part)
    (hpart : part ∈ parts) : Touches parts (ask question) := by
  refine touches_ask ?_
  intro other hother
  rw [h] at hother
  rwa [← Option.some.inj hother]

theorem touches_bind {action : Action α} {rest : α → Action β} (first : Touches parts action)
    (second : ∀ value, Touches parts (rest value)) : Touches parts (action >>= rest) := by
  refine Dialogue.AsksOnly.bind first ?_
  rintro (error | value)
  · exact .done
  · exact second value

theorem touches_ofAnswer {answer : Except Failure α} : Touches parts (ofAnswer answer) := by
  cases answer <;> exact .done

theorem touches_ofFlow {result : Except FlowError α} : Touches parts (ofFlow result) := by
  cases result <;> exact .done

theorem touches_ofTransport {answer : Except TransportError α} :
    Touches parts (ofTransport answer) := by
  cases answer <;> exact .done

end Action

/-- The world with a part of it blotted out, as well as identifiers and the clock. -/
def World.without (world : World) (part? : Option Part) : World :=
  let world := { world with nextId := 0, clock := ⟨0⟩ }
  match part? with
  | none => world
  | some .sessions => { world with store := { world.store with sessions := [], conflicts := 0 } }
  | some .turns => { world with store := { world.store with turns := [] } }
  | some .recordings => { world with store := { world.store with recordings := [] } }
  | some .callers => { world with store := { world.store with callers := [] } }
  | some .jobs => { world with scheduled := [] }
  | some .audio => { world with audio := [] }
  | some .provider => { world with provider := {} }
  | some .hooks => { world with hooks := [] }

theorem World.store_answer {question : Question}
    (h : ∀ part, question.part? = some part → part ∈ [Part.jobs]) (world : World) :
    (answer question world).2.store = world.store := by
  cases question with
  | saveSession session | updateSession session | saveTurn turn | recordInput turn input
  | markTimedOut turn | attachToTurn turn recording | saveRecording recording
  | updateRecording recording | saveCaller caller => exact absurd (h _ rfl) (by decide)
  | _ => rfl

theorem World.turns_without (world : World) (part? : Option Part) (h : part? ≠ some .turns) :
    (world.without part?).store.turns = world.store.turns := by
  rcases part? with _ | _ | _ | _ | _ | _ | _ | _ | _
  case some.turns => exact absurd rfl h
  all_goals rfl

theorem World.recordings_without (world : World) (part? : Option Part) (h : part? ≠ some .recordings) :
    (world.without part?).store.recordings = world.store.recordings := by
  rcases part? with _ | _ | _ | _ | _ | _ | _ | _ | _
  case some.recordings => exact absurd rfl h
  all_goals rfl

theorem World.sessions_without (world : World) (part? : Option Part) (h : part? ≠ some .sessions) :
    (world.without part?).store.sessions = world.store.sessions := by
  rcases part? with _ | _ | _ | _ | _ | _ | _ | _ | _
  case some.sessions => exact absurd rfl h
  all_goals rfl

theorem World.callers_without (world : World) (part? : Option Part) (h : part? ≠ some .callers) :
    (world.without part?).store.callers = world.store.callers := by
  rcases part? with _ | _ | _ | _ | _ | _ | _ | _ | _
  case some.callers => exact absurd rfl h
  all_goals rfl

theorem World.hooks_without (world : World) (part? : Option Part) (h : part? ≠ some .hooks) :
    (world.without part?).hooks = world.hooks := by
  rcases part? with _ | _ | _ | _ | _ | _ | _ | _ | _
  case some.hooks => exact absurd rfl h
  all_goals rfl

namespace OpenWorld

variable {state state' : OpenWorld} {question : Question} {answer : question.Answer}

theorem write_without {world : World} {result : Except Failure Store} {part? : Option Part}
    (h : ∀ store, result = .ok store → { world with store }.without part? = world.without part?) :
    (world.write result).2.without part? = world.without part? := by
  cases result with
  | ok store => exact h store rfl
  | error error => rfl

theorem answers_without (h : state.Answers question answer state') :
    state'.world.without question.part? = state.world.without question.part? := by
  cases question with
  | startCall command | sendMessage command | fetchRecording url =>
      obtain ⟨provider, rfl⟩ := h
      rfl
  | runHook hook callback session =>
      obtain rfl := h
      rfl
  | freshId =>
      obtain ⟨_, nextId, rfl⟩ := h
      rfl
  | currentTime =>
      obtain ⟨clock, rfl⟩ := h
      rfl
  | saveSession session =>
      rcases answers_saveSession h with ⟨_, rfl, rfl⟩ | ⟨_, ⟨failure, _, rfl⟩, rfl⟩
      · rfl
      · rfl
  | updateSession session =>
      cases answers_updateSession h with
      | stored => rfl
      | stale => rfl
      | missing => rfl
      | injected => rfl
  | recordInput turn input | markTimedOut turn | attachToTurn turn recording =>
      obtain ⟨_, rfl⟩ := h
      exact write_without fun _ hstore => by rw [Store.changeTurn_eq_ok hstore]; rfl
  | saveTurn turn =>
      obtain ⟨_, rfl⟩ := h
      exact write_without fun _ hstore => by rw [Store.saveTurn_eq_ok hstore]; rfl
  | saveRecording recording =>
      obtain ⟨_, rfl⟩ := h
      exact write_without fun _ hstore => by rw [Store.saveRecording_eq_ok hstore]; rfl
  | updateRecording recording =>
      obtain ⟨_, rfl⟩ := h
      exact write_without fun _ hstore => by rw [Store.updateRecording_eq_ok hstore]; rfl
  | saveCaller caller =>
      obtain ⟨_, rfl⟩ := h
      exact write_without fun _ hstore => by rw [Store.saveCaller_eq_ok hstore]; rfl
  | _ =>
      obtain ⟨_, rfl⟩ := h
      rfl

theorem answers_store (h : state.Answers question answer state')
    (hparts : ∀ part, question.part? = some part → part ∈ [Part.jobs]) :
    state'.store = state.store := by
  have hrest := answers_without h
  generalize question.part? = part? at hparts hrest
  have hstore := congrArg World.store hrest
  rcases part? with _ | _ | _ | _ | _ | _ | _ | _ | _
  case none => exact hstore
  case some.jobs => exact hstore
  all_goals exact absurd (hparts _ rfl) (by decide)

section Parts

variable {β : Type} {part : Part}

theorem answers_same (read : World → β)
    (hread : ∀ world part?, part? ≠ some part → read (world.without part?) = read world)
    (h : state.Answers question answer state') (hpart : question.part? ≠ some part) :
    read state'.world = read state.world := by
  rw [← hread _ _ hpart, answers_without h, hread _ _ hpart]

/-- What is read off other parts of the world than an action writes to stays as it is. -/
theorem same_of_runs {α : Type} {parts : List Part} {action : Action α}
    {result : Except CallError α} (read : World → β)
    (hread : ∀ world part?, part? ≠ some part → read (world.without part?) = read world)
    (touches : action.Touches parts) (hpart : part ∉ parts)
    (run : Action.Runs rules action state result state') : read state'.world = read state.world := by
  have hkept : Dialogue.Ensures rules action.run state fun _ state' =>
      read state'.world = read state.world := by
    refine Dialogue.AsksOnly.ensures touches (fun _ _ _ => trivial) ?_ rfl
    intro before question answer after hparts hbefore hanswer
    refine (answers_same read hread hanswer ?_).trans hbefore
    exact fun hsame => hpart (hparts _ hsame)
  have hend := Dialogue.Ensures.of_runs hkept run
  exact hend

end Parts

theorem answers_turns (h : state.Answers question answer state')
    (hpart : question.part? ≠ some .turns) : state'.store.turns = state.store.turns :=
  answers_same (·.store.turns) World.turns_without h hpart

theorem answers_recordings (h : state.Answers question answer state')
    (hpart : question.part? ≠ some .recordings) :
    state'.store.recordings = state.store.recordings :=
  answers_same (·.store.recordings) World.recordings_without h hpart

theorem answers_callers (h : state.Answers question answer state')
    (hpart : question.part? ≠ some .callers) : state'.store.callers = state.store.callers :=
  answers_same (·.store.callers) World.callers_without h hpart

theorem turns_of_runs {α : Type} {parts : List Part} {action : Action α}
    {result : Except CallError α} (touches : action.Touches parts) (hturns : .turns ∉ parts)
    (run : Action.Runs rules action state result state') :
    state'.store.turns = state.store.turns :=
  same_of_runs (·.store.turns) World.turns_without touches hturns run

theorem recordings_of_runs {α : Type} {parts : List Part} {action : Action α}
    {result : Except CallError α} (touches : action.Touches parts) (hrecordings : .recordings ∉ parts)
    (run : Action.Runs rules action state result state') :
    state'.store.recordings = state.store.recordings :=
  same_of_runs (·.store.recordings) World.recordings_without touches hrecordings run

theorem sessions_of_runs {α : Type} {parts : List Part} {action : Action α}
    {result : Except CallError α} (touches : action.Touches parts) (hsessions : .sessions ∉ parts)
    (run : Action.Runs rules action state result state') :
    state'.store.sessions = state.store.sessions :=
  same_of_runs (·.store.sessions) World.sessions_without touches hsessions run

theorem store_of_runs {α : Type} {action : Action α} {result : Except CallError α}
    (touches : action.Touches [.jobs]) (run : Action.Runs rules action state result state') :
    state'.store = state.store := by
  have hkept : Dialogue.Ensures rules action.run state fun _ later => later.store = state.store := by
    refine Dialogue.AsksOnly.ensures touches (fun _ _ _ => trivial) ?_ rfl
    intro before question answer after hparts hbefore hanswer
    exact (answers_store hanswer hparts).trans hbefore
  have hend := Dialogue.Ensures.of_runs hkept run
  exact hend

end OpenWorld

end PhoneTree

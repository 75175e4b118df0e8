import PhoneTree.Proofs.CommandFootprint
import PhoneTree.Proofs.TurnCopies

namespace PhoneTree

/-- Nothing has been filled into the turn. -/
def Turn.IsBlank (turn : Turn) : Prop :=
  turn = { id := turn.id, session := turn.session, handle := turn.handle, createdAt := turn.createdAt }

/-- What a command may ask about the turns of a store. -/
def Store.Suits (store : Store) : Question → Prop
  | .saveTurn turn => turn.IsBlank
  | .recordInput id input =>
      ∃ turn offered, store.turnById id = some turn ∧ input = turn.acceptable offered
  | .markTimedOut id => ∃ turn, store.turnById id = some turn ∧ turn.hasInput = false
  | _ => True

/-- The rules by which every command goes about turns. -/
def turnConduct : Rules Question Question.Answer OpenWorld where
  MayAsk state := state.store.Suits
  Answers := OpenWorld.Answers

/-- The action goes by these rules, and ends with a value only as `post` says. -/
def ConductsTurns {α : Type} (action : Action α) (state : OpenWorld)
    (post : α → OpenWorld → Prop) : Prop :=
  Action.Ensures turnConduct action state post fun _ _ => True

/-- The write of a change to a turn. -/
def TurnChange.write (turn : TurnId) : TurnChange → TurnWrite
  | input accepted => .input turn accepted
  | timedOut => .timeout turn

/-- What a step writes to the current turn. -/
def FlowStep.write? (step : FlowStep) : Option TurnWrite :=
  step.updatedTurn.bind fun turn => step.turnChange.map (·.write turn.id)

/-- The turns as a step leaves them, the new one at the end. -/
def FlowStep.turnsAfter (step : FlowStep) (turns : List Turn) : List Turn :=
  Store.writtenTurns step.write?.toList turns ++ step.nextTurn.toList

section Rules

variable {α β : Type} {state state' : OpenWorld} {turn : Turn}
  {post : α → OpenWorld → Prop}

theorem conductsTurns_throw {error : CallError} : ConductsTurns (throw error : Action α) state post :=
  trivial

theorem conductsTurns_bind {action : Action α} {rest : α → Action β}
    {post : β → OpenWorld → Prop} :
    ConductsTurns (action >>= rest) state post ↔
      ConductsTurns action state fun value state' => ConductsTurns (rest value) state' post :=
  Action.ensures_bind

theorem ConductsTurns.mono {action : Action α} {post' : α → OpenWorld → Prop}
    (h : ConductsTurns action state post)
    (weaker : ∀ value state', post value state' → post' value state') :
    ConductsTurns action state post' :=
  Action.Ensures.mono h weaker fun _ _ _ => trivial

theorem ConductsTurns.of_runs {action : Action α} {value : α} (h : ConductsTurns action state post)
    (run : Action.Runs OpenWorld.rules action state (.ok value) state') : post value state' := by
  have hensures : Action.Ensures OpenWorld.rules action state post fun _ _ => True :=
    Dialogue.Ensures.of_answers h (fun _ _ => trivial) fun _ _ _ _ answered => answered
  have hend := Dialogue.Ensures.of_runs hensures run
  exact hend

theorem suits_of_part? {store : Store} {question : Question}
    (h : question.part? ≠ some .turns) : store.Suits question := by
  cases question with
  | saveTurn turn | recordInput turn input | markTimedOut turn => exact absurd rfl h
  | _ => trivial

theorem conductsTurns_of_touches (parts : List Part) {action : Action α}
    (h : Action.Touches parts action) (hturns : .turns ∉ parts)
    (done : ∀ value state', state'.store.turns = state.store.turns → post value state') :
    ConductsTurns action state post := by
  have hother : ∀ question : Question,
      (∀ part, question.part? = some part → part ∈ parts) → question.part? ≠ some .turns :=
    fun question hparts hturn => hturns (hparts _ hturn)
  have hkept : Dialogue.Ensures turnConduct action.run state fun _ state' =>
      state'.store.turns = state.store.turns := by
    refine Dialogue.AsksOnly.ensures h ?_ ?_ rfl
    · exact fun _ question hparts => suits_of_part? (hother question hparts)
    · intro before question answer after hparts hbefore hanswer
      exact (OpenWorld.answers_turns hanswer (hother question hparts)).trans hbefore
  refine Dialogue.Ensures.mono hkept ?_
  rintro (error | value) state' hsame
  · trivial
  · exact done value state' hsame

theorem conductsTurns_bind_touches (parts : List Part) {turns : List Turn} {action : Action α}
    {rest : α → Action β} {post : β → OpenWorld → Prop} (h : Action.Touches parts action)
    (hturns : .turns ∉ parts) (same : state.store.turns = turns)
    (next : ∀ value state', state'.store.turns = turns → ConductsTurns (rest value) state' post) :
    ConductsTurns (action >>= rest) state post := by
  refine conductsTurns_bind.mpr (conductsTurns_of_touches parts h hturns ?_)
  intro value state' hsame
  exact next value state' (hsame.trans same)

theorem conductsTurns_bind_reads {turns : List Turn} {action : Action α} {rest : α → Action β}
    {post : β → OpenWorld → Prop} (h : Action.Touches [] action)
    (same : state.store.turns = turns)
    (next : ∀ value state', state'.store.turns = turns → ConductsTurns (rest value) state' post) :
    ConductsTurns (action >>= rest) state post :=
  conductsTurns_bind_touches [] h List.not_mem_nil same next

theorem answers_write (write : TurnWrite) {answer : write.question.Answer}
    (h : state.Answers write.question answer state') :
    state'.store.turns = Store.writtenTurns [write] state.store.turns := by
  have hworld : state'.world = (World.answer write.question state.world).2 := by
    cases write <;> exact congrArg OpenWorld.world h.2
  rw [OpenWorld.store, hworld, World.answer_write]
  rfl

theorem answers_saveTurn_turns {answer : Except Failure Unit}
    (h : state.Answers (.saveTurn turn) answer state') :
    (answer = .ok () → turn.id ∉ state.store.turns.map (·.id) ∧
        state'.store.turns = state.store.turns ++ [turn]) ∧
      (answer ≠ .ok () → state'.store.turns = state.store.turns) := by
  obtain ⟨rfl, rfl⟩ := h
  simp only [OpenWorld.store, World.answer, Store.saveTurn]
  split
  · simp [World.write]
  · rename_i hfree
    refine ⟨fun _ => ⟨?_, rfl⟩, fun h => absurd rfl h⟩
    simpa [OpenWorld.store] using hfree

theorem findTurn_conductsTurns {session : Session} {id : TurnId} {post : Turn → OpenWorld → Prop}
    (found : ∀ turn, turn.id = id → state.store.turnById turn.id = some turn →
      turn.session = session.id → post turn state) :
    ConductsTurns (Service.findTurn session id) state post := by
  rw [ConductsTurns, Service.findTurn, Action.ensures_bind, Action.ensures_ask]
  refine ⟨trivial, ?_⟩
  rintro answer state' ⟨rfl, rfl⟩
  simp only [World.answer, Action.ensures_bind, Action.ensures_ofAnswer]
  split
  · rename_i turn hfound
    have hid : turn.id = id := by simpa using List.find?_some hfound
    rw [← hid] at hfound
    split
    · rename_i howned
      exact found turn hid hfound howned
    · trivial
  · trivial

theorem write_conductsTurns (write : TurnWrite)
    {outcome : write.question.Answer → Except Failure Unit} {post : Unit → OpenWorld → Prop}
    (suits : state.store.Suits write.question)
    (done : ∀ state', state'.store.turns = Store.writtenTurns [write] state.store.turns →
      post () state') :
    ConductsTurns (Action.ask write.question >>= fun answer => Action.ofAnswer (outcome answer))
      state post := by
  refine conductsTurns_bind.mpr ⟨suits, ?_⟩
  intro answer state' hanswer
  refine Action.ensures_ofAnswer.mpr ?_
  cases outcome answer with
  | ok _ => exact done state' (answers_write write hanswer)
  | error failure => trivial

theorem loadHistory_conductsTurns {session : Session} {post : History → OpenWorld → Prop}
    (done : post (state.store.historyOf session.caller session.treeName) state) :
    ConductsTurns (Service.loadHistory session) state post := by
  rw [Service.loadHistory]
  refine conductsTurns_bind.mpr (Action.ensures_ask.mpr ⟨trivial, ?_⟩)
  rintro _ _ ⟨rfl, rfl⟩
  refine conductsTurns_bind.mpr (Action.ensures_ofAnswer.mpr ?_)
  refine conductsTurns_bind.mpr (Action.ensures_ask.mpr ⟨trivial, ?_⟩)
  rintro _ _ ⟨rfl, rfl⟩
  refine conductsTurns_bind.mpr (Action.ensures_ofAnswer.mpr ?_)
  refine conductsTurns_bind.mpr (Action.ensures_ask.mpr ⟨trivial, ?_⟩)
  rintro _ _ ⟨rfl, rfl⟩
  exact done

theorem loadScene_conductsTurns {tree : Tree} {session : Session}
    {post : FlowScene → OpenWorld → Prop}
    (done : ∀ scene state', scene.tree = tree →
      scene.history = some (state'.store.historyOf session.caller session.treeName) →
      state'.store = state.store → post scene state') :
    ConductsTurns (Service.loadScene tree session) state post := by
  refine conductsTurns_bind.mpr (loadHistory_conductsTurns ?_)
  refine conductsTurns_bind.mpr (Action.ensures_ask.mpr ⟨trivial, ?_⟩)
  rintro id _ ⟨_, nextId, rfl⟩
  refine conductsTurns_bind.mpr (Action.ensures_ask.mpr ⟨trivial, ?_⟩)
  rintro time _ ⟨clock, rfl⟩
  exact done _ _ rfl rfl rfl

theorem keepTurnChange_conductsTurns {step : FlowStep} {post : Unit → OpenWorld → Prop}
    (suits : ∀ write, step.write? = some write → state.store.Suits write.question)
    (done : ∀ state',
      state'.store.turns = Store.writtenTurns step.write?.toList state.store.turns →
        post () state') :
    ConductsTurns (Service.keepTurnChange step) state post := by
  rw [Service.keepTurnChange]
  rw [FlowStep.write?] at suits done
  rcases hturn : step.updatedTurn with _ | turn
  · simp only [hturn] at done
    exact done state rfl
  · rcases hchange : step.turnChange with _ | input | _
    · simp only [hturn, hchange] at done
      exact done state rfl
    · simp only [hturn, hchange] at suits done
      exact write_conductsTurns (.input turn.id input) (suits _ rfl) done
    · simp only [hturn, hchange] at suits done
      exact write_conductsTurns (.timeout turn.id) (suits _ rfl) done

theorem keepNextTurn_conductsTurns {step : FlowStep} {post : Unit → OpenWorld → Prop}
    (blank : ∀ turn, step.nextTurn = some turn → turn.IsBlank)
    (done : ∀ state', (∀ turn ∈ step.nextTurn, turn.id ∉ state.store.turns.map (·.id)) →
      state'.store.turns = state.store.turns ++ step.nextTurn.toList → post () state') :
    ConductsTurns (Service.keepNextTurn step) state post := by
  rw [Service.keepNextTurn]
  cases hnext : step.nextTurn with
  | none =>
      rw [hnext] at done
      exact done state (by simp) (by simp)
  | some turn =>
      rw [hnext] at blank done
      refine conductsTurns_bind.mpr ⟨blank turn rfl, ?_⟩
      intro answer state' hanswer
      refine Action.ensures_ofAnswer.mpr ?_
      cases answer with
      | error failure => trivial
      | ok _ =>
          obtain ⟨hfresh, hturns⟩ := (answers_saveTurn_turns hanswer).1 rfl
          exact done state' (by simpa using hfresh) hturns

/-- Everything that a step does to turns is kept, if it suits the turns that are stored. -/
theorem keepStep_conductsTurns {session : Session} {step : FlowStep}
    {post : Session → OpenWorld → Prop}
    (suits : ∀ write, step.write? = some write → state.store.Suits write.question)
    (blank : ∀ turn, step.nextTurn = some turn → turn.IsBlank)
    (done : ∀ kept state', (∀ turn ∈ step.nextTurn, turn.id ∉ state.store.turns.map (·.id)) →
      state'.store.turns = step.turnsAfter state.store.turns → post kept state') :
    ConductsTurns (Service.keepStep session step) state post := by
  rw [Service.keepStep]
  refine conductsTurns_bind.mpr (keepTurnChange_conductsTurns suits ?_)
  intro second hsecond
  refine conductsTurns_bind.mpr (keepNextTurn_conductsTurns blank ?_)
  intro third hfresh hthird
  rw [hsecond, Store.map_writtenTurns TurnWrite.change_id] at hfresh
  rw [hsecond] at hthird
  split
  · exact done session third hfresh hthird
  · refine conductsTurns_bind_touches [.sessions] (Service.updateSession_touches (by simp))
      (by decide) hthird ?_
    intro updated last hlast
    exact done updated.1 last hfresh hlast

end Rules

section Loading

open Service

variable {state state' : OpenWorld} {session : Session} {tree : Tree}

theorem loadHistory_runs {result : Except CallError History} :
    Action.Runs OpenWorld.rules (loadHistory session) state result state' ↔
      result = .ok (state.store.historyOf session.caller session.treeName) ∧ state' = state := by
  rw [loadHistory]
  refine (Action.runs_given (fun _ _ => Iff.rfl) rfl).trans ?_
  refine (Action.runs_given (fun _ _ => Iff.rfl) rfl).trans ?_
  refine (Action.runs_given (fun _ _ => Iff.rfl) rfl).trans ?_
  exact Action.runs_pure

theorem loadScene_runs {result : Except CallError FlowScene}
    (run : Action.Runs OpenWorld.rules (loadScene tree session) state result state') :
    ∃ scene, result = .ok scene ∧ scene.tree = tree ∧
      scene.history = some (state.store.historyOf session.caller session.treeName) ∧
      state'.store = state.store := by
  rcases Action.runs_bind.mp run with ⟨error, _, failed⟩ | ⟨history, middle, loaded, rest⟩
  · cases (loadHistory_runs.mp failed).1
  · obtain ⟨hhistory, rfl⟩ := loadHistory_runs.mp loaded
    obtain ⟨id, _, ⟨_, nextId, rfl⟩, rest⟩ := Action.runs_ask_bind.mp rest
    obtain ⟨time, _, ⟨clock, rfl⟩, rest⟩ := Action.runs_ask_bind.mp rest
    obtain ⟨rfl, rfl⟩ := Action.runs_pure.mp rest
    exact ⟨_, rfl, rfl, congrArg some (Except.ok.inj hhistory), rfl⟩

end Loading

section Steps

variable {scene : FlowScene} {session : Session} {turn : Turn} {step : FlowStep} {store : Store}

theorem beginTurn_isBlank (scene : FlowScene) (session : Session) (handle : PromptHandle) :
    (scene.beginTurn session handle).IsBlank :=
  rfl

theorem FlowScene.Goes.blank {turn? : Option Turn} (h : scene.Goes session turn? step) :
    ∀ next, step.nextTurn = some next → next.IsBlank := by
  intro next hnext
  obtain ⟨handle, _, rfl⟩ := h.begins hnext
  exact beginTurn_isBlank scene session handle

theorem FlowScene.Goes.write?_eq_none (h : scene.Goes session none step) : step.write? = none := by
  rw [FlowStep.write?]
  cases hupdated : step.updatedTurn with
  | none => rfl
  | some updated =>
      obtain ⟨_, hnone, _⟩ := h.updates updated hupdated
      cases hnone

theorem leavePrompt_write? {updated : Turn} {change : Option TurnChange}
    (h : scene.leavePrompt session updated change = .ok step) :
    step.updatedTurn = some updated ∧ step.turnChange = change := by
  obtain ⟨_, _, followed, _, _, _, rfl⟩ := FlowScene.leavePrompt_eq_ok.mp h
  exact ⟨rfl, rfl⟩

theorem onInput_write? {input : TurnInput} (h : scene.onInput session turn input = .ok step) :
    step = FlowScene.machineStep ∨
      step.write? =
        if turn.takes (turn.acceptable input) then some (.input turn.id (turn.acceptable input))
        else none := by
  rw [FlowScene.onInput] at h
  split at h
  · exact .inl (Except.ok.inj h).symm
  · obtain ⟨hupdated, hchange⟩ := leavePrompt_write? h
    rw [FlowStep.write?, hupdated, hchange]
    right
    rw [Option.bind_some]
    split <;> rfl

theorem onTimeout_write? {recent : List Turn} (h : scene.onTimeout session turn recent = .ok step) :
    step = FlowScene.machineStep ∨
      step.write? = if turn.isSettled then none else some (.timeout turn.id) := by
  have hid : (FlowScene.timedOutTurn turn).id = turn.id :=
    congrArg TurnFacts.id (FlowScene.timedOutTurn_facts turn)
  have hwrite : ∀ step : FlowStep, step.updatedTurn = some (FlowScene.timedOutTurn turn) →
      step.turnChange = FlowScene.timeoutChange turn →
        step.write? = if turn.isSettled then none else some (.timeout turn.id) := by
    intro step hupdated hchange
    rw [FlowStep.write?, hupdated, hchange, FlowScene.timeoutChange, Turn.isSettled, ← hid,
      Option.bind_some]
    split <;> rfl
  rw [FlowScene.onTimeout] at h
  split at h
  · exact .inl (Except.ok.inj h).symm
  · right
    dsimp only at h
    split at h
    · obtain ⟨verbs, _, hstep⟩ := bind_eq_ok.mp h
      rw [← Except.ok.inj hstep]
      exact hwrite _ rfl rfl
    · obtain ⟨hupdated, hchange⟩ := leavePrompt_write? h
      exact hwrite step hupdated hchange

theorem onInput_suits {input : TurnInput} (h : scene.onInput session turn input = .ok step)
    (found : store.turnById turn.id = some turn) :
    ∀ write, step.write? = some write → store.Suits write.question := by
  intro write hwrite
  rcases onInput_write? h with rfl | hstep
  · cases hwrite
  · rw [hstep] at hwrite
    split at hwrite
    · obtain rfl := Option.some.inj hwrite
      exact ⟨turn, input, found, rfl⟩
    · cases hwrite

theorem onTimeout_suits {recent : List Turn} (h : scene.onTimeout session turn recent = .ok step)
    (found : store.turnById turn.id = some turn) :
    ∀ write, step.write? = some write → store.Suits write.question := by
  intro write hwrite
  rcases onTimeout_write? h with rfl | hstep
  · cases hwrite
  · rw [hstep] at hwrite
    split at hwrite
    · cases hwrite
    · rename_i hopen
      obtain rfl := Option.some.inj hwrite
      refine ⟨turn, found, ?_⟩
      simp only [Turn.isSettled, Bool.or_eq_true, not_or] at hopen
      exact eq_false_of_ne_true hopen.1

end Steps

section Handlers

open Service PhoneTree.Action TurnWrite

variable {α : Type} {account : Account} {registry : Registry} {params : Params}
  {state : OpenWorld} {session : Session} {turn : Turn}

theorem receive_conductsTurns {post : Turn → OpenWorld → Prop}
    (done : ∀ writes state', (∀ write ∈ writes, write.turn = turn.id) →
      state'.store.turns = Store.writtenTurns writes state.store.turns →
        post (turn.filledBy writes) state') :
    ConductsTurns (receive account session turn params) state post := by
  have hdone : ∀ state' : OpenWorld, state'.store.turns = state.store.turns → post turn state' := by
    intro state' hsame
    have hnone := done [] state' (fun _ hwrite => absurd hwrite List.not_mem_nil) hsame
    rwa [Turn.filledBy_nil] at hnone
  refine conductsTurns_bind_reads requireField_touches rfl ?_
  intro sid state' hsame
  refine conductsTurns_bind_reads (touches_read rfl) hsame ?_
  intro answer state' hsame
  refine conductsTurns_bind_reads touches_ofAnswer hsame ?_
  intro exist state' hsame
  split
  · exact hdone state' hsame
  · refine conductsTurns_bind_reads (touches_read rfl) hsame ?_
    intro id state' hsame
    refine conductsTurns_bind_reads (touches_read rfl) hsame ?_
    intro time state' hsame
    refine conductsTurns_bind_reads touches_ofAnswer hsame ?_
    intro recording state' hsame
    refine conductsTurns_bind_touches [.recordings] (touches_write rfl (by simp)) (by decide)
      hsame ?_
    rintro (failure | _) state' hsame
    · simp only
      split
      · exact hdone state' hsame
      · exact conductsTurns_throw
    · refine Action.ensures_bind_assoc.mpr
        (write_conductsTurns (.recording turn.id recording.id) trivial ?_)
      intro attached hattached
      rw [hsame] at hattached
      have hreceived : ∀ later : OpenWorld, later.store.turns = attached.store.turns →
          post (change (.recording turn.id recording.id) turn) later := by
        intro later hlater
        have hwritten := done [.recording turn.id recording.id] later
          (fun write hwrite => by rw [List.mem_singleton.mp hwrite]; rfl) (hlater.trans hattached)
        rwa [Turn.filledBy_recording, Turn.filledBy_nil] at hwritten
      rw [change] at hreceived
      generalize (if turn.recording.isNone then turn.attach recording.id else turn) = received
        at hreceived ⊢
      split
      · refine Action.ensures_bind_assoc.mpr (conductsTurns_of_touches [.jobs]
          (touches_store rfl (by simp)) (by decide) ?_)
        intro _ later hlater
        exact hreceived later hlater
      · exact hreceived attached rfl

theorem receiveIfAny_conductsTurns {post : Turn → OpenWorld → Prop}
    (done : ∀ writes state', (∀ write ∈ writes, write.turn = turn.id) →
      state'.store.turns = Store.writtenTurns writes state.store.turns →
        post (turn.filledBy writes) state') :
    ConductsTurns (receiveIfAny account session turn params) state post := by
  rw [receiveIfAny]
  split
  · exact receive_conductsTurns done
  · have hnone := done [] state (fun _ hwrite => absurd hwrite List.not_mem_nil) rfl
    rwa [Turn.filledBy_nil] at hnone

theorem greet_conductsTurns {tree : Tree} {post : Session × Reply → OpenWorld → Prop}
    (done : ∀ (kept : Session) (step : FlowStep) state',
      (∀ turn ∈ step.nextTurn, turn.IsBlank) →
      state'.store.turns = state.store.turns ++ step.nextTurn.toList →
      post (kept, ⟨step.response, step.outcome⟩) state') :
    ConductsTurns (greet tree session) state post := by
  rw [greet]
  generalize PhoneNumber.isValid session.details.fromNumber = numberValid
  refine conductsTurns_bind_reads loadScene_touches rfl ?_
  intro scene state' hsame
  refine conductsTurns_bind.mpr (Action.ensures_ofFlow.mpr ?_)
  cases hstep : scene.onGreeting session numberValid with
  | error error => trivial
  | ok step =>
      have hgoes := FlowScene.onGreeting_goes hstep
      have hwrite := hgoes.write?_eq_none
      refine conductsTurns_bind.mpr (keepStep_conductsTurns ?_ hgoes.blank ?_)
      · simp [hwrite]
      · intro kept last _ hlast
        refine done kept step last (fun turn hturn => hgoes.blank turn hturn) ?_
        rw [hlast, FlowStep.turnsAfter, hwrite, hsame]
        rfl

variable {name : String} {id : TurnId}

theorem inboundCall_conductsTurns {post : Session × Reply → OpenWorld → Prop}
    (done : ∀ (kept : Session) (step : FlowStep) state',
      (∀ turn ∈ step.nextTurn, turn.IsBlank) →
      state'.store.turns = state.store.turns ++ step.nextTurn.toList →
      post (kept, ⟨step.response, step.outcome⟩) state') :
    ConductsTurns (inboundCall registry name params) state post := by
  refine conductsTurns_bind_reads findTree_touches rfl ?_
  intro tree state' hsame
  refine conductsTurns_bind_reads requireField_touches hsame ?_
  intro sid state' hsame
  refine conductsTurns_bind_reads (touches_read rfl) hsame ?_
  intro answer state' hsame
  refine conductsTurns_bind_reads touches_ofAnswer hsame ?_
  intro found state' hsame
  rw [← hsame] at done
  cases found with
  | some session =>
      refine conductsTurns_bind_touches [.sessions, .jobs]
        (applyUpdate_touches (by simp) (by simp)) (by decide) rfl ?_
      intro session later hlater
      rw [← hlater] at done
      exact greet_conductsTurns done
  | none =>
      refine conductsTurns_bind_touches [.callers, .sessions]
        (createSession_touches (by simp) (by simp)) (by decide) rfl ?_
      intro session later hlater
      rw [← hlater] at done
      exact greet_conductsTurns done

theorem outboundCall_conductsTurns {post : Reply → OpenWorld → Prop}
    (done : ∀ (step : FlowStep) state', (∀ turn ∈ step.nextTurn, turn.IsBlank) →
      state'.store.turns = state.store.turns ++ step.nextTurn.toList →
      post ⟨step.response, step.outcome⟩ state') :
    ConductsTurns (outboundCall registry name params) state post := by
  refine conductsTurns_bind_reads findTree_touches rfl ?_
  intro tree state' hsame
  refine conductsTurns_bind_touches [.sessions, .jobs]
    (findUpdatedCall_touches (by simp) (by simp)) (by decide) hsame ?_
  intro session state' hsame
  rw [← hsame] at done
  refine conductsTurns_bind.mpr (greet_conductsTurns ?_)
  intro kept step later hblank hlater
  exact done step later hblank hlater

theorem promptResponse_conductsTurns :
    ConductsTurns (Service.promptResponse account registry name id params) state
      fun _ _ => True := by
  refine conductsTurns_bind_reads findTree_touches rfl ?_
  intro tree state' hsame
  refine conductsTurns_bind_touches [.sessions, .jobs]
    (findUpdatedCall_touches (by simp) (by simp)) (by decide) hsame ?_
  intro session state' hsame
  refine conductsTurns_bind.mpr (findTurn_conductsTurns ?_)
  intro turn _ hfound _
  refine conductsTurns_bind.mpr (receiveIfAny_conductsTurns ?_)
  intro writes later _ hwritten
  have hreceived := Store.turnById_written hfound hwritten
  refine conductsTurns_bind_reads loadScene_touches rfl ?_
  intro scene last hlast
  refine conductsTurns_bind.mpr (Action.ensures_ofFlow.mpr ?_)
  cases hstep : scene.onInput session (turn.filledBy writes) (.ofParams params) with
  | error error => trivial
  | ok step =>
      refine conductsTurns_bind.mpr (keepStep_conductsTurns ?_
        (FlowScene.onInput_goes hstep).blank fun _ _ _ _ => trivial)
      apply onInput_suits hstep
      rw [Store.turnById, hlast]
      exact hreceived

theorem timeout_conductsTurns {post : Reply → OpenWorld → Prop}
    (done : ∀ (scene : FlowScene) session turn step state',
      registry.get? name = some scene.tree → turn.id = id →
      state.store.turnById turn.id = some turn → turn.session = session.id →
      scene.onTimeout session turn (state.store.latestTurns turn.session turn.handle
        scene.tree.config.finalTimeoutAttempts) = .ok step →
      (∀ turn ∈ step.nextTurn, turn.id ∉ state.store.turns.map (·.id)) →
      state'.store.turns = step.turnsAfter state.store.turns →
      post ⟨step.response, step.outcome⟩ state') :
    ConductsTurns (Service.timeout registry name id params) state post := by
  refine conductsTurns_bind.mpr (findTree_rule ?_ fun _ => trivial)
  intro tree hregistered
  refine conductsTurns_bind_touches [.sessions, .jobs]
    (findUpdatedCall_touches (by simp) (by simp)) (by decide) rfl ?_
  intro session first hfirst
  refine conductsTurns_bind.mpr (findTurn_conductsTurns ?_)
  intro turn hid hfound howned
  refine conductsTurns_bind.mpr (Action.ensures_ask.mpr ⟨trivial, ?_⟩)
  rintro answer second ⟨rfl, rfl⟩
  have hrecent : (World.answer (.latestTurns session.id turn.handle
      tree.config.finalTimeoutAttempts) first.world).1 =
        .ok (state.store.latestTurns turn.session turn.handle tree.config.finalTimeoutAttempts) := by
    rw [World.answer, Store.latestTurns, Store.latestTurns, ← hfirst, howned]
    rfl
  rw [hrecent]
  refine conductsTurns_bind.mpr (Action.ensures_ofAnswer.mpr ?_)
  refine conductsTurns_bind.mpr (loadScene_conductsTurns ?_)
  rintro scene third rfl _ hthird
  refine conductsTurns_bind.mpr (Action.ensures_ofFlow.mpr ?_)
  split
  · rename_i step hstep
    have hfirst' : third.store.turns = state.store.turns :=
      (congrArg Store.turns hthird).trans hfirst
    refine conductsTurns_bind.mpr (keepStep_conductsTurns (onTimeout_suits hstep ?_)
      (FlowScene.onTimeout_goes hstep).blank ?_)
    · rw [hthird]
      exact hfound
    · intro kept last hfresh hlast
      rw [hfirst'] at hfresh hlast
      rw [Store.turnById, hfirst] at hfound
      exact done scene session turn step last hregistered hid hfound howned hstep hfresh hlast
  · trivial

theorem receiveRecording_conductsTurns :
    ConductsTurns (Service.receiveRecording account id params) state fun _ _ => True := by
  refine conductsTurns_bind_reads findCall_touches rfl ?_
  intro session state' hsame
  refine conductsTurns_bind.mpr (findTurn_conductsTurns ?_)
  intro turn _ _ _
  exact receive_conductsTurns fun _ _ _ _ => trivial

theorem transcribe_conductsTurns :
    ConductsTurns (Service.transcribe account id params) state fun _ _ => True := by
  refine conductsTurns_bind_reads findCall_touches rfl ?_
  intro session state' hsame
  refine conductsTurns_bind.mpr (findTurn_conductsTurns ?_)
  intro turn _ hfound _
  refine conductsTurns_bind.mpr (receiveIfAny_conductsTurns ?_)
  intro writes later _ hwritten
  dsimp only
  split
  · refine Action.ensures_bind_assoc.mpr (write_conductsTurns (.input turn.id _)
      ⟨_, _, Store.turnById_written hfound hwritten, rfl⟩ fun _ _ => trivial)
  · trivial

theorem Command.conductsTurns (command : Command) :
    ConductsTurns (command.action account registry) state fun _ _ => True := by
  cases hkind : command.isWebhook with
  | false =>
      exact conductsTurns_of_touches _ (Command.touches hkind) (by decide) fun _ _ _ => trivial
  | true =>
      cases command with
      | webhook entry params =>
          cases entry with
          | inbound tree =>
              exact conductsTurns_bind.mpr (inboundCall_conductsTurns fun _ _ _ _ _ => trivial)
          | outbound tree =>
              exact conductsTurns_bind.mpr (outboundCall_conductsTurns fun _ _ _ _ => trivial)
          | prompt tree turn =>
              exact conductsTurns_bind_touches [.sessions, .jobs]
                (prompt_touches (by simp) (by simp)) (by decide) rfl fun _ _ _ => trivial
          | promptResponse tree turn => exact conductsTurns_bind.mpr promptResponse_conductsTurns
          | timeout tree turn =>
              exact conductsTurns_bind.mpr
                (timeout_conductsTurns fun _ _ _ _ _ _ _ _ _ _ _ _ => trivial)
          | receiveRecording turn => exact conductsTurns_bind.mpr receiveRecording_conductsTurns
          | transcribe turn => exact conductsTurns_bind.mpr transcribe_conductsTurns
          | status =>
              exact conductsTurns_bind_touches [.sessions, .jobs]
                (findUpdatedCall_touches (by simp) (by simp)) (by decide) rfl fun _ _ _ => trivial
      | startCall | sendMessages | findCaller | job => cases hkind

end Handlers

end PhoneTree

import PhoneTree.Proofs.References
import PhoneTree.Proofs.TurnConduct
/-!
What the rule of a prompt sees of the store.

A step that leaves a prompt is taken on copies of the turn, of the session with its turns and of the
caller's history. They were read at different moments, and the turn changes with the step. The rule
of the prompt sees the changed turn in the place of the old one in each of them, and so it sees what
the store has as soon as the change of the turn is written.
-/
namespace PhoneTree

/-- Why a prompt is left: for an answer, or for the lack of one after the latest turns there. -/
inductive Leaving
  | input (input : TurnInput)
  | timeout (recent : List Turn)

/-- Where a webhook that leaves a prompt has come to when it takes its step. -/
structure Visit where
  scene : FlowScene
  session : Session
  turn : Turn
  leaving : Leaving

section Turns

variable {turn : Turn}

theorem Turn.merge_eq_self_iff {input : TurnInput} :
    turn.merge input = turn ↔ turn.takes input = false := by
  obtain ⟨id, session, handle, digits, transcription, _⟩ := turn
  obtain ⟨digits', transcription'⟩ := input
  cases digits <;> cases transcription <;> cases digits' <;> cases transcription' <;>
    simp [merge, takes]

theorem FlowScene.timeoutChange_eq_none :
    timeoutChange turn = none ↔ timedOutTurn turn = turn := by
  rw [timeoutChange, timedOutTurn]
  cases hasInput : turn.hasInput with
  | true => simp
  | false =>
      have hmarked : turn.markTimedOut = turn ↔ turn.timedOut = true := by
        constructor
        · intro hsame
          rw [← hsame]
          rfl
        · intro hmarked
          rw [Turn.markTimedOut, ← hmarked]
      simp [hmarked]

end Turns

namespace Visit

open Service

/-- The step of a visit, by what the caller leaves the prompt with. -/
def step (visit : Visit) : Except FlowError FlowStep :=
  match visit.leaving with
  | .input input => visit.scene.onInput visit.session visit.turn input
  | .timeout recent => visit.scene.onTimeout visit.session visit.turn recent

/-- What becomes of the turn. -/
def updated (visit : Visit) : Turn :=
  match visit.leaving with
  | .input input => visit.turn.merge (visit.turn.acceptable input)
  | .timeout _ => FlowScene.timedOutTurn visit.turn

/-- How the store is told of it. -/
def change (visit : Visit) : Option TurnChange :=
  match visit.leaving with
  | .input input =>
      if visit.turn.takes (visit.turn.acceptable input) then
        some (.input (visit.turn.acceptable input))
      else none
  | .timeout _ => FlowScene.timeoutChange visit.turn

/-- What a visit writes to its turn, if anything. -/
def write? (visit : Visit) : Option TurnWrite :=
  visit.change.map (·.write visit.turn.id)

/-- A visit that ends the call since too many prompts in a row timed out. -/
def saysGoodbye (visit : Visit) : Bool :=
  match visit.leaving with
  | .input _ => false
  | .timeout recent =>
      TimeoutPolicy.isExhausted ⟨visit.scene.tree.config.finalTimeoutAttempts⟩
        (FlowScene.timeoutWindow visit.updated recent)

/-- The session as the callbacks see it, with the updated turn. -/
def view (visit : Visit) : Session :=
  visit.session.recordTurn visit.updated

/-- The context that a visit gives to the callbacks. -/
def context (visit : Visit) : FlowContext :=
  visit.scene.context visit.view (some visit.updated)

/-- The step that follows the rule of the prompt. -/
def followed (visit : Visit) : Except FlowError FlowStep := do
  let prompt ← visit.scene.findPrompt visit.turn.handle
  let transition ← (prompt.after.resolve visit.context).mapError .callback
  let step ← visit.scene.follow visit.view visit.context transition
  return { step with updatedTurn := some visit.updated, turnChange := visit.change }

/-- What a webhook does from its step on. -/
def leave (visit : Visit) : Action Reply := do
  let step ← Action.ofFlow visit.step
  let _ ← keepStep visit.session step
  return ⟨step.response, step.outcome⟩

/-- What a visit has at hand is what is stored, save for the turn in the session's own copy. -/
structure StandsIn (visit : Visit) (store : Store) : Prop where
  ids : (store.turns.map (·.id)).Nodup
  found : store.turnById visit.turn.id = some visit.turn
  owned : visit.turn.session = visit.session.id
  turns : visit.session.turns.map (·.replacedBy visit.turn) = store.turnsOf visit.session.id
  history : visit.scene.history =
    some (store.historyOf visit.session.caller visit.session.treeName)

variable {visit : Visit} {step : FlowStep} {store store' : Store}

section Steps

theorem updated_facts : visit.updated.facts = visit.turn.facts := by
  rw [updated]
  split
  · exact Turn.merge_facts _ _
  · exact FlowScene.timedOutTurn_facts _

theorem updated_id : visit.updated.id = visit.turn.id :=
  congrArg TurnFacts.id updated_facts

/-- A step that neither gives way to a machine nor says goodbye follows the rule of the prompt. -/
theorem step_eq_followed (person : visit.session.isAnsweringMachine = false)
    (stays : visit.saysGoodbye = false) : visit.step = visit.followed := by
  have hmachine : ¬visit.session.isAnsweringMachine = true := by simp [person]
  have hhandle : visit.updated.handle = visit.turn.handle := congrArg TurnFacts.handle updated_facts
  have hleaves : visit.followed =
      visit.scene.leavePrompt visit.session visit.updated visit.change := by
    rw [followed, FlowScene.leavePrompt, hhandle]
    refine congrArg (visit.scene.findPrompt visit.turn.handle >>= ·) ?_
    funext prompt
    simp only [FlowScene.followRule, bind_assoc]
    rfl
  rw [hleaves]
  obtain ⟨scene, session, turn, input | recent⟩ := visit
  · exact if_neg hmachine
  · refine (if_neg hmachine).trans (if_neg ?_)
    exact Bool.eq_false_iff.mp stays

theorem step_eq_ok (h : visit.step = .ok step) :
    step = FlowScene.machineStep ∨
      step.updatedTurn = some visit.updated ∧ step.turnChange = visit.change := by
  obtain ⟨scene, session, turn, input | recent⟩ := visit
  · change scene.onInput session turn input = .ok step at h
    rw [FlowScene.onInput] at h
    split at h
    · exact .inl (Except.ok.inj h).symm
    · exact .inr (leavePrompt_write? h)
  · change scene.onTimeout session turn recent = .ok step at h
    rw [FlowScene.onTimeout] at h
    split at h
    · exact .inl (Except.ok.inj h).symm
    · dsimp only at h
      split at h
      · obtain ⟨verbs, _, hstep⟩ := bind_eq_ok.mp h
        rw [← Except.ok.inj hstep]
        exact .inr ⟨rfl, rfl⟩
      · exact .inr (leavePrompt_write? h)

theorem step_goes (h : visit.step = .ok step) :
    visit.scene.Goes visit.session (some visit.turn) step := by
  obtain ⟨scene, session, turn, input | recent⟩ := visit
  · exact FlowScene.onInput_goes h
  · exact FlowScene.onTimeout_goes h

theorem write?_eq (hupdated : step.updatedTurn = some visit.updated)
    (hchange : step.turnChange = visit.change) : step.write? = visit.write? := by
  rw [FlowStep.write?, hupdated, hchange, write?, ← updated_id]
  rfl

theorem step_suits (h : visit.step = .ok step)
    (found : store.turnById visit.turn.id = some visit.turn) :
    ∀ write, step.write? = some write → store.Suits write.question := by
  obtain ⟨scene, session, turn, input | recent⟩ := visit
  · exact onInput_suits h found
  · exact onTimeout_suits h found

theorem change_eq_none : visit.change = none ↔ visit.updated = visit.turn := by
  obtain ⟨scene, session, turn, input | recent⟩ := visit
  · change (if _ then _ else none) = none ↔ turn.merge (turn.acceptable input) = turn
    rw [Turn.merge_eq_self_iff]
    cases turn.takes (turn.acceptable input) <;> simp
  · exact FlowScene.timeoutChange_eq_none

theorem filledBy_write : visit.turn.filledBy visit.write?.toList = visit.updated := by
  rw [write?]
  rcases hchange : visit.change with _ | change
  · exact Turn.filledBy_nil.trans (change_eq_none.mp hchange).symm
  · obtain ⟨scene, session, turn, input | recent⟩ := visit
    · obtain ⟨-, hinput⟩ := Option.ite_none_right_eq_some.mp hchange
      rw [← Option.some.inj hinput]
      exact (Turn.filledBy_input _ []).trans Turn.filledBy_nil
    · obtain ⟨hopen, htimeout⟩ := Option.ite_none_left_eq_some.mp hchange
      rw [← Option.some.inj htimeout]
      rw [Bool.or_eq_true, not_or] at hopen
      exact ((Turn.filledBy_timeout []).trans Turn.filledBy_nil).trans (if_neg hopen.1).symm

end Steps

section Seeing

theorem standsIn_of_written {scene : FlowScene} {session : Session} {turn : Turn}
    {leaving : Leaving} {writes : List TurnWrite} (hids : (store.turns.map (·.id)).Nodup)
    (hturns : session.turns = store.turnsOf session.id)
    (hfound : store.turnById turn.id = some turn) (howned : turn.session = session.id)
    (hwrites : ∀ write ∈ writes, write.turn = turn.id)
    (hwritten : store'.turns = Store.writtenTurns writes store.turns)
    (hhistory : scene.history = some (store'.historyOf session.caller session.treeName)) :
    (Visit.mk scene session (turn.filledBy writes) leaving).StandsIn store' where
  ids := by
    rw [hwritten, Store.map_writtenTurns TurnWrite.change_id]
    exact hids
  found := Store.turnById_written hfound hwritten
  owned := howned
  turns := by
    rw [(Store.replaces_of_written hids hfound hwrites hwritten).turnsOf, ← hturns]
  history := hhistory

theorem StandsIn.replaces (h : visit.StandsIn store)
    (hturns : store'.turns = Store.writtenTurns visit.write?.toList store.turns) :
    store.Replaces store' visit.updated := by
  rw [← filledBy_write]
  refine Store.replaces_of_written h.ids h.found ?_ hturns
  intro write hwrite
  obtain ⟨change, _, rfl⟩ := Option.map_eq_some_iff.mp (Option.mem_toList.mp hwrite)
  cases change <;> rfl

/-- The session that the rule sees has what the store has, and the changed turn in its place. -/
theorem StandsIn.view_turns (h : visit.StandsIn store) :
    visit.view.turns = (store.turnsOf visit.session.id).map (·.replacedBy visit.updated) := by
  have hids : (visit.session.turns.map (·.id)).Nodup := by
    have hids : ((store.turnsOf visit.session.id).map (·.id)).Nodup :=
      h.ids.sublist (List.filter_sublist.map _)
    rwa [← h.turns, map_replacedBy_ids] at hids
  have hhas : visit.session.hasTurn visit.updated.id = true := by
    have hmem : visit.turn ∈ store.turnsOf visit.session.id :=
      List.mem_filter.mpr ⟨List.mem_of_find?_eq_some h.found, beq_iff_eq.mpr h.owned⟩
    have hmem := List.mem_map_of_mem (f := (·.id)) hmem
    rw [← h.turns, map_replacedBy_ids] at hmem
    obtain ⟨other, hother, hid⟩ := List.mem_map.mp hmem
    exact List.any_eq_true.mpr ⟨other, hother, beq_iff_eq.mpr (hid.trans updated_id.symm)⟩
  rw [view, Session.recordTurn_eq_map hids hhas, ← h.turns, List.map_map]
  exact (List.map_congr_left fun _ _ => Turn.replacedBy_replacedBy updated_id).symm

theorem StandsIn.shows (h : visit.StandsIn store)
    (hturns : store'.turns = Store.writtenTurns visit.write?.toList store.turns)
    (hsessions : store'.sessions = store.sessions) : visit.context.Shows store' := by
  have hreplaces := h.replaces hturns
  have hfacts := FlowScene.recordTurn_facts visit.session visit.updated
  have hupdated : visit.context.turn = some visit.updated := rfl
  refine FlowContext.shows_of_callerTurns ⟨visit.updated, hupdated, ?_⟩ ?_ ?_
  · rw [← filledBy_write]
    exact Store.turnById_written h.found hturns
  · have hid : visit.context.session.id = visit.session.id := congrArg CallFacts.id hfacts
    rw [hid, hreplaces.turnsOf]
    exact h.view_turns
  · intro handle
    have hcaller : visit.context.session.caller = visit.session.caller :=
      congrArg CallFacts.caller hfacts
    have htree : visit.context.session.treeName = visit.session.treeName :=
      congrArg CallFacts.treeName hfacts
    rw [FlowContext.callerTurns_eq hupdated h.history,
      @FlowContext.callerTurns_eq (visit.context.reread store') _ _ hupdated rfl, hcaller, htree,
      hreplaces.turnsFor hsessions, List.map_map]
    exact (List.map_congr_left fun _ _ => Turn.replacedBy_replacedBy rfl).symm

end Seeing

end Visit

namespace Service

/-- What comes before the step when an answer to a prompt is taken. -/
def beforeAnswer (account : Account) (registry : Registry) (treeName : String) (turn : TurnId)
    (params : Params) : Action Visit := do
  let tree ← findTree registry treeName
  let session ← findUpdatedCall params
  let turn ← findTurn session turn
  let turn ← receiveIfAny account session turn params
  let scene ← loadScene tree session
  return ⟨scene, session, turn, .input (.ofParams params)⟩

/-- What is read before a timeout is handled. -/
def beforeTimeout (registry : Registry) (treeName : String) (turn : TurnId) (params : Params) :
    Action Visit := do
  let tree ← findTree registry treeName
  let session ← findUpdatedCall params
  let turn ← findTurn session turn
  let recent ← Action.ofAnswer (← Action.ask
    (.latestTurns session.id turn.handle tree.config.finalTimeoutAttempts))
  let scene ← loadScene tree session
  return ⟨scene, session, turn, .timeout recent⟩

end Service

/-- What a webhook does before the step with which it leaves a prompt. -/
def Webhook.arrival? (account : Service.Account) (registry : Registry) (params : Params) :
    Webhook → Option (Action Visit)
  | promptResponse tree turn => some (Service.beforeAnswer account registry tree turn params)
  | timeout tree turn => some (Service.beforeTimeout registry tree turn params)
  | _ => none

section Handlers

open Service PhoneTree.Action

variable {α : Type} {account : Account} {registry : Registry} {params : Params} {entry : Webhook}
  {arrival : Action Visit} {state : OpenWorld} {session : Session} {visit : Visit}

theorem timeout_eq (name : String) (id : TurnId) :
    Service.timeout registry name id params =
      beforeTimeout registry name id params >>= Visit.leave := by
  simp only [Service.timeout, beforeTimeout, Visit.leave, bind_assoc, pure_bind]
  rfl

theorem Webhook.action_eq_arrival (h : entry.arrival? account registry params = some arrival) :
    entry.action account registry params = (do
      let visit ← arrival
      return .replied (← visit.leave)) := by
  cases entry with
  | promptResponse tree turn =>
      obtain rfl := Option.some.inj h
      simp only [action, Service.promptResponse, beforeAnswer, Visit.leave, bind_assoc, pure_bind]
      rfl
  | timeout tree turn =>
      obtain rfl := Option.some.inj h
      rw [action, timeout_eq, bind_assoc]
  | _ => cases h

theorem turns_of_sessionBySid {store : Store} {sid : String}
    (h : store.sessionBySid sid = some session) : session.turns = store.turnsOf session.id := by
  obtain ⟨row, _, rfl⟩ := Option.map_eq_some_iff.mp h
  rfl

theorem turns_of_sessionById {store : Store} {id : SessionId}
    (h : store.sessionById id = some session) : session.turns = store.turnsOf session.id := by
  obtain ⟨row, _, rfl⟩ := Option.map_eq_some_iff.mp h
  rfl

theorem updateSession_turns {change : Session → Session × Option α}
    {post : Session × Option α → OpenWorld → Prop}
    (hturns : session.turns = state.store.turnsOf session.id)
    (hchange : ∀ base, (change base).1.turns = base.turns ∧ (change base).1.id = base.id)
    (done : ∀ changed outcome state', changed.turns = state'.store.turnsOf changed.id →
      state'.store.turns = state.store.turns → post (changed, outcome) state') :
    ConductsTurns (updateSession session change) state post := by
  have hkept : ∀ {base changed : Session} {outcome : Option α} {later last : OpenWorld},
      base.turns = later.store.turnsOf base.id → change base = (changed, outcome) →
        last.store.turns = later.store.turns → changed.turns = last.store.turnsOf changed.id := by
    intro base changed outcome later last hbase hchanged hsame
    have hsent := hchange base
    rw [hchanged] at hsent
    rw [hsent.1, hsent.2, Store.turnsOf_congr hsame]
    exact hbase
  refine @changeSession_loop α change session _ _ state
    (fun base later => base.turns = later.store.turnsOf base.id ∧
      later.store.turns = state.store.turns)
    post _ (maxAttempts - 1) ?_ (fun _ _ _ _ _ _ => trivial) ?_ ?_ ⟨hturns, rfl⟩
  · rintro base changed later ⟨hbase, hsame⟩ hnone
    exact done changed none later (hkept hbase hnone rfl) hsame
  · rintro base sent outcome later updated last ⟨hbase, hsame⟩ hsent
      (answered : later.Answers (.updateSession sent) (.ok updated) last)
    have hturns := OpenWorld.answers_turns answered (by simp [Question.part?])
    have hafter := hkept hbase hsent hturns
    cases OpenWorld.answers_updateSession answered with
    | stored calm found current => exact done sent.advance _ _ hafter (hturns.trans hsame)
  · rintro base sent outcome later failure last ⟨hbase, hsame⟩ hsent
      (answered : later.Answers (.updateSession sent) (.error failure) last)
    have hturns := OpenWorld.answers_turns answered (by simp [Question.part?])
    refine ⟨trivial, fun _ => ?_⟩
    refine ensures_bind.mpr (ensures_ask.mpr ⟨trivial, ?_⟩)
    rintro _ _ ⟨rfl, rfl⟩
    refine ensures_ofAnswer.mpr ?_
    simp only [World.answer]
    -- after a conflict it goes on with the session as it is stored
    split
    · rename_i loaded hloaded
      exact ⟨turns_of_sessionById hloaded, hturns.trans hsame⟩
    · trivial

theorem leaveWork_turns {jobs : List Job} {post : Session → OpenWorld → Prop}
    (done : ∀ state', state'.store.turns = state.store.turns → post session state') :
    ConductsTurns (leaveWork session jobs) state post := by
  induction jobs generalizing state with
  | nil => exact done state rfl
  | cons job jobs ih =>
      refine ensures_bind_assoc.mpr (conductsTurns_of_touches [.jobs]
        (touches_store rfl (by simp)) (by decide) ?_)
      intro _ later hlater
      exact ih fun last hlast => done last (hlast.trans hlater)

theorem findUpdatedCall_conductsTurns {post : Session → OpenWorld → Prop}
    (idle : ∀ sid session, params.get? "CallSid" = some sid →
      state.store.sessionBySid sid = some session →
        (StatusUpdate.ofParams params).isEmpty = true → post session state)
    (updates : ∀ sid session, params.get? "CallSid" = some sid →
      state.store.sessionBySid sid = some session →
        ConductsTurns (updateSession session (Session.takeOver (.ofParams params))) state
          fun updated later => ∀ last, last.store.turns = later.store.turns →
            post updated.1 last) :
    ConductsTurns (findUpdatedCall params) state post := by
  refine conductsTurns_bind.mpr (conductsTurns_bind.mpr (requireField_rule ?_ trivial))
  intro sid hsid
  refine conductsTurns_bind.mpr (ensures_ask.mpr ⟨trivial, ?_⟩)
  rintro _ _ ⟨rfl, rfl⟩
  refine conductsTurns_bind.mpr (ensures_ofAnswer.mpr ?_)
  simp only [World.answer]
  split
  · rename_i session hfound
    change ConductsTurns (applyUpdate session _) _ _
    rw [applyUpdate_eq]
    split
    · exact idle sid session hsid hfound ‹_›
    · refine conductsTurns_bind.mpr ((updates sid session hsid hfound).mono ?_)
      exact fun updated later hupdated => leaveWork_turns hupdated
  · trivial

theorem findUpdatedCall_turns {post : Session → OpenWorld → Prop}
    (found : ∀ session state', session.turns = state'.store.turnsOf session.id →
      state'.store.turns = state.store.turns → post session state') :
    ConductsTurns (findUpdatedCall params) state post := by
  refine findUpdatedCall_conductsTurns ?_ ?_
  · intro sid session _ hfound _
    exact found session state (turns_of_sessionBySid hfound) rfl
  · intro sid session _ hfound
    refine updateSession_turns (turns_of_sessionBySid hfound) ?_ ?_
    · intro base
      rw [Session.takeOver, Session.afterUpdate_eq]
      exact ⟨rfl, rfl⟩
    · intro updated change later hupdated hsame last hlast
      rw [← Store.turnsOf_congr hlast] at hupdated
      exact found updated last hupdated (hlast.trans hsame)

theorem arrival_standsIn (hids : (state.store.turns.map (·.id)).Nodup)
    (h : entry.arrival? account registry params = some arrival) :
    ConductsTurns arrival state fun visit seen => visit.StandsIn seen.store := by
  cases entry with
  | promptResponse name id =>
      obtain rfl := Option.some.inj h
      refine conductsTurns_bind.mpr (findTree_rule ?_ fun _ => trivial)
      intro tree _
      refine conductsTurns_bind.mpr (findUpdatedCall_turns ?_)
      intro session found hturns hfound
      rw [← hfound] at hids
      refine conductsTurns_bind.mpr (findTurn_conductsTurns ?_)
      intro turn _ hturn howned
      refine conductsTurns_bind.mpr (receiveIfAny_conductsTurns ?_)
      intro writes received hwrites hwritten
      refine conductsTurns_bind.mpr (loadScene_conductsTurns ?_)
      intro scene seen _ hhistory hseen
      rw [← hseen] at hwritten
      exact Visit.standsIn_of_written hids hturns hturn howned hwrites hwritten hhistory
  | timeout name id =>
      obtain rfl := Option.some.inj h
      refine conductsTurns_bind.mpr (findTree_rule ?_ fun _ => trivial)
      intro tree _
      refine conductsTurns_bind.mpr (findUpdatedCall_turns ?_)
      intro session found hturns hfound
      rw [← hfound] at hids
      refine conductsTurns_bind.mpr (findTurn_conductsTurns ?_)
      intro turn _ hturn howned
      refine conductsTurns_bind.mpr (ensures_ask.mpr ⟨trivial, ?_⟩)
      rintro _ _ ⟨rfl, rfl⟩
      refine conductsTurns_bind.mpr (ensures_ofAnswer.mpr ?_)
      refine conductsTurns_bind.mpr (loadScene_conductsTurns ?_)
      intro scene seen _ hhistory hseen
      have hsame : seen.store.turns = Store.writtenTurns [] found.store.turns :=
        congrArg Store.turns hseen
      have hnone : ∀ write ∈ [], TurnWrite.turn write = turn.id := nofun
      rw [← @Turn.filledBy_nil turn]
      exact Visit.standsIn_of_written hids hturns hturn howned hnone hsame hhistory
  | _ => cases h

end Handlers

theorem World.write_changeTurn {world : World} {id : TurnId} {turn : Turn} {change : Turn → Turn}
    (found : world.store.turnById id = some turn) :
    world.write (world.store.changeTurn id change) =
      (.ok (), { world with store := { world.store with
        turns := Store.modifyTurn id change world.store.turns } }) := by
  rw [Store.changeTurn, found]
  rfl

namespace Visit

open Service

variable {visit : Visit} {step : FlowStep} {seen final : OpenWorld} {updated : Turn}

theorem runs_write {question : Question} {outcome : question.Answer → Except Failure Unit}
    {only : question.Answer} {store : Store}
    (hanswers : ∀ answer after, seen.Answers question answer after ↔
      answer = (World.answer question seen.world).1 ∧
        after = { seen with world := (World.answer question seen.world).2 })
    (hanswer : World.answer question seen.world = (only, { seen.world with store }))
    (houtcome : outcome only = .ok ()) :
    ∃ written, (∀ result after,
      Action.Runs OpenWorld.rules
        (Action.ask question >>= fun answer => Action.ofAnswer (outcome answer)) seen result after ↔
          result = .ok () ∧ after = written) ∧ written.store = store := by
  refine ⟨seen.withStore store, ?_, rfl⟩
  intro result after
  refine Action.runs_outcome ?_ houtcome
  intro answer middle
  refine (hanswers answer middle).trans ?_
  rw [hanswer]
  rfl

theorem StandsIn.writes (h : visit.StandsIn seen.store)
    (hupdated : step.updatedTurn = some visit.updated) (hchange : step.turnChange = visit.change) :
    ∃ written,
      (∀ outcome state, Action.Runs OpenWorld.rules (keepTurnChange step) seen outcome state ↔
        outcome = .ok () ∧ state = written) ∧
      written.store.turns = Store.writtenTurns visit.write?.toList seen.store.turns ∧
      written.store.sessions = seen.store.sessions := by
  have hfound : seen.world.store.turnById visit.updated.id = some visit.turn := by
    rw [updated_id]
    exact h.found
  rw [keepTurnChange, hupdated, hchange, write?, ← updated_id]
  rcases visit.change with _ | input | _
  · exact ⟨seen, fun _ _ => Action.runs_pure, rfl, rfl⟩
  · obtain ⟨written, hruns, hstore⟩ := @runs_write seen (.recordInput visit.updated.id input)
      (fun answer => answer) _ _ (fun _ _ => Iff.rfl) (World.write_changeTurn hfound) rfl
    refine ⟨written, hruns, ?_, ?_⟩
    · rw [hstore]
      rfl
    · rw [hstore]
      rfl
  · obtain ⟨written, hruns, hstore⟩ := @runs_write seen (.markTimedOut visit.updated.id)
      (fun answer => answer) _ _ (fun _ _ => Iff.rfl) (World.write_changeTurn hfound) rfl
    refine ⟨written, hruns, ?_, ?_⟩
    · rw [hstore]
      rfl
    · rw [hstore]
      rfl

theorem StandsIn.leaves (h : visit.StandsIn seen.store) :
    ConductsTurns visit.leave seen fun reply final => ∃ step, visit.step = .ok step ∧
      reply = ⟨step.response, step.outcome⟩ ∧
      final.store.turns = step.turnsAfter seen.store.turns := by
  refine conductsTurns_bind.mpr (Action.ensures_ofFlow.mpr ?_)
  cases hstep : visit.step with
  | error error => trivial
  | ok step =>
      refine conductsTurns_bind.mpr (keepStep_conductsTurns (step_suits hstep h.found)
        (step_goes hstep).blank ?_)
      intro kept final _ hfinal
      exact ⟨step, rfl, rfl, hfinal⟩

theorem StandsIn.stores (h : visit.StandsIn seen.store) (hstep : visit.step = .ok step)
    (hfinal : final.store.turns = step.turnsAfter seen.store.turns)
    (hupdated : step.updatedTurn = some updated) :
    final.store.turnById updated.id = some updated ∧
      (step.turnChange = none ↔ updated = visit.turn) := by
  rcases step_eq_ok hstep with rfl | ⟨hturn, hchange⟩
  · cases hupdated
  · obtain rfl := Option.some.inj (hturn.symm.trans hupdated)
    have hwritten : (Store.writtenTurns visit.write?.toList seen.store.turns).find?
        (fun turn => turn.id == visit.updated.id) = some visit.updated := by
      rw [Store.find_writtenTurns, updated_id]
      exact (congrArg _ h.found).trans (congrArg some filledBy_write)
    refine ⟨?_, hchange ▸ change_eq_none⟩
    rw [Store.turnById, hfinal, FlowStep.turnsAfter, write?_eq hturn hchange, List.find?_append,
      hwritten]
    rfl

end Visit

section Runs

open Service

variable {account : Account} {registry : Registry} {params : Params} {start final : OpenWorld}
  {log : List (Nat × Exchange)} {pool : Pool Command Outcome} {entry : Webhook}
  {arrival : Action Visit} {result : Except CallError Outcome}

/-- A webhook that leaves a prompt fails before its step, or takes the step where the rule of the
prompt sees what is stored as soon as the change of the turn is written. If it succeeds, the turn is
stored as the step has it, and was written just if it has changed. -/
theorem rules_see_what_is_stored (empty : start.store = {})
    (before : Reaches (fun command : Command => command.action account registry) start log pool)
    (arrives : entry.arrival? account registry params = some arrival)
    (ran : Action.Runs OpenWorld.rules (entry.action account registry params) pool.state result
      final) :
    (∃ error, result = .error error ∧
      Action.Runs OpenWorld.rules arrival pool.state (.error error) final) ∨
    ∃ visit seen, Action.Runs OpenWorld.rules arrival pool.state (.ok visit) seen ∧
      Action.Runs OpenWorld.rules (do return .replied (← visit.leave)) seen result final ∧
      (visit.session.isAnsweringMachine = false → visit.saysGoodbye = false →
        visit.step = visit.followed) ∧
      (∀ step : FlowStep, step.updatedTurn = some visit.updated → step.turnChange = visit.change →
        ∃ written, (∀ outcome state,
          Action.Runs OpenWorld.rules (keepTurnChange step) seen outcome state ↔
            outcome = .ok () ∧ state = written) ∧ visit.context.Shows written.store) ∧
      ∀ outcome, result = .ok outcome → ∃ step, visit.step = .ok step ∧
        outcome = .replied ⟨step.response, step.outcome⟩ ∧
        ∀ updated, step.updatedTurn = some updated →
          final.store.turnById updated.id = some updated ∧
            (step.turnChange = none ↔ updated = visit.turn) := by
  have hids : (pool.state.store.turns.map (·.id)).Nodup := by
    have hids := (before.coherent_of_empty empty).store.turns.ids
    rw [Store.turnFacts, List.map_map] at hids
    exact hids
  rw [Webhook.action_eq_arrival arrives] at ran
  rcases Action.runs_bind.mp ran with ⟨error, rfl, failed⟩ | ⟨visit, seen, arrived, left⟩
  · exact .inl ⟨error, rfl, failed⟩
  · have hstands := (arrival_standsIn hids arrives).of_runs arrived
    refine .inr ⟨visit, seen, arrived, left, Visit.step_eq_followed, ?_, ?_⟩
    · intro step hupdated hchange
      obtain ⟨written, hruns, hturns, hsessions⟩ := hstands.writes hupdated hchange
      exact ⟨written, hruns, hstands.shows hturns hsessions⟩
    · rintro outcome rfl
      rcases Action.runs_bind.mp left with ⟨_, ⟨⟩, _⟩ | ⟨reply, last, replied, rest⟩
      obtain ⟨houtcome, rfl⟩ := Action.runs_pure.mp rest
      obtain ⟨step, hstep, rfl, hfinal⟩ := hstands.leaves.of_runs replied
      refine ⟨step, hstep, Except.ok.inj houtcome, ?_⟩
      exact fun updated hupdated => hstands.stores hstep hfinal hupdated

end Runs

section Dialled

/-- A tree that lets the caller go who has dialled seven on the first occasion. -/
def dialTree : Tree where
  name := "main"
  config := {}
  greeting := .goto ⟨"question"⟩
  prompts := [
    { handle := ⟨"question"⟩
      messages := .ofText "Which?"
      gather := some default
      after := .computed fun context => .ok
        { target :=
            if context.firstForCaller true && context.responseDigits ⟨"question"⟩ == some 7 then
              .hangup
            else .prompt ⟨"question"⟩ } }]

def dialCall : List (Nat × Exchange) × Pool Command Outcome :=
  Pool.play []
    { state := .ofWorld {}
      threads := [.webhook (.inbound "main") questionParams].map fun command =>
        { origin := command, rest := (command.action default ⟨[dialTree]⟩).run } }
    (List.replicate 20 0)

/-- Seven, and a recording of the same turn with it. -/
def dialParams : Params :=
  ⟨[("CallSid", "CA0"), ("Digits", "7"), ("RecordingSid", "RE0"),
    ("RecordingUrl", "https://api.example/RE0")]⟩

def dialled : Except CallError Outcome × World :=
  World.perform ((Webhook.promptResponse "main" ⟨.ofNat 3⟩).action default ⟨[dialTree]⟩ dialParams)
    dialCall.2.state.world

/-- The rule sees the answer that is not stored yet, and the recording that was stored just now. -/
theorem dialled_rule_sees_the_answer :
    (match dialled.1 with
      | .ok (.replied reply) => some reply.outcome
      | _ => none) = some .hangup ∧
      dialled.2.store.turns.map (fun turn => (turn.digits, turn.recording.isSome)) =
        [(some "7", true)] ∧
      ∃ visit : Visit, ∃ seen written : OpenWorld,
        Action.Runs OpenWorld.rules
          (Service.beforeAnswer default ⟨[dialTree]⟩ "main" ⟨.ofNat 3⟩ dialParams)
          dialCall.2.state (.ok visit) seen ∧ visit.context.Shows written.store := by
  have hok : dialled.1.isOk = true := by decide +kernel
  refine ⟨by decide +kernel, by decide +kernel, ?_⟩
  have hreaches : Reaches (fun command : Command => command.action default ⟨[dialTree]⟩)
      (.ofWorld {}) dialCall.1 dialCall.2 := Reaches.play (.begin _ .nothing) rfl (by decide +kernel)
  have hcounted : dialCall.2.state = .ofWorld dialCall.2.state.world := by
    rw [dialCall]
    exact Pool.play_counted _ _ rfl
  have hran : Action.Runs OpenWorld.rules
      ((Webhook.promptResponse "main" ⟨.ofNat 3⟩).action default ⟨[dialTree]⟩ dialParams)
        dialCall.2.state dialled.1 (.ofWorld dialled.2) := by
    rw [hcounted]
    exact OpenWorld.runs_perform _ _ (by decide +kernel)
  rcases rules_see_what_is_stored rfl hreaches rfl hran with
    ⟨error, hfailed, _⟩ | ⟨visit, seen, arrived, _, _, writes, _⟩
  · rw [hfailed] at hok
    cases hok
  · -- any step that makes this change will do
    obtain ⟨written, _, shows⟩ := writes
      { (default : FlowStep) with updatedTurn := some visit.updated, turnChange := visit.change }
      rfl rfl
    exact ⟨visit, seen, written, arrived, shows⟩

end Dialled

end PhoneTree

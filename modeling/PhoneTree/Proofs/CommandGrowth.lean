import PhoneTree.Proofs.CommandFootprint
import PhoneTree.Proofs.WebhookService

namespace PhoneTree.Service

open OpenWorld

variable {α : Type} {state state' : OpenWorld} {registry : Registry} {account : Account}

/-- However an action ends, it has at most added calls. -/
def AddsCalls (state : OpenWorld) (action : Action α) : Prop :=
  Action.Ensures OpenWorld.rules action state
    (fun _ state' => ∃ calls, state.Meets state' calls)
    fun _ state' => ∃ calls, state.Meets state' calls

/-- The parts of the world that hold neither calls nor turns. -/
def sideParts : List Part :=
  [.recordings, .callers, .jobs, .audio, .provider, .hooks]

theorem isQuiet_of_part? {question : Question}
    (h : ∀ part, question.part? = some part → part ∈ sideParts) : isQuiet question = true := by
  cases question with
  | saveSession session | updateSession session => exact absurd (h .sessions rfl) (by decide)
  | saveTurn turn => exact absurd (h .turns rfl) (by decide)
  | _ => rfl

theorem addsCalls_of_touches {action : Action α} (touches : action.Touches sideParts)
    (h : state.Intact) : AddsCalls state action := by
  have hadds : Dialogue.Ensures OpenWorld.rules action.run state fun _ state' =>
      state.Adds state' [] := by
    refine Dialogue.AsksOnly.ensures touches (fun _ _ _ => trivial) ?_ (.refl h)
    intro before question answer after hparts hbefore hanswer
    exact hbefore.trans (.of_answers hbefore.extension.intact (isQuiet_of_part? hparts) hanswer)
  refine Dialogue.Ensures.mono hadds ?_
  rintro (error | value) state' hstate
  · exact ⟨[], .of_adds hstate⟩
  · exact ⟨[], .of_adds hstate⟩

theorem AddsCalls.after {action : Action α} (h : AddsCalls state' action)
    (before : state.Meets state' []) :
    Action.Ensures OpenWorld.rules action state'
      (fun _ later => ∃ calls, state.Meets later calls)
      fun _ later => ∃ calls, state.Meets later calls := by
  refine h.mono ?_ ?_
  · rintro _ later ⟨calls, hlater⟩
    exact ⟨_, before.trans hlater⟩
  · rintro _ later ⟨calls, hlater⟩
    exact ⟨_, before.trans hlater⟩

theorem startCall_addsCalls {name recipient : String} {sender : Option String}
    {machineDetection : Bool} (h : state.Intact) :
    AddsCalls state (startCall account registry name recipient sender machineDetection) := by
  have hsame : ∃ calls, state.Meets state calls := ⟨[], .refl h⟩
  have hnumber := requireNumber_eq "to" recipient
  rw [AddsCalls, startCall]
  generalize requireNumber "to" recipient = number at hnumber ⊢
  rw [Action.ensures_bind]
  refine findTree_rule ?_ fun _ => hsame
  intro tree _
  rw [Action.ensures_bind]
  obtain ⟨called, hcalled⟩ | ⟨error, herror⟩ := hnumber
  rotate_left
  · rw [herror]
    exact hsame
  rw [hcalled, Action.ensures_pure, Action.ensures_bind]
  obtain ⟨caller, hcaller⟩ | ⟨error, herror⟩ := requireSender_eq account sender
  rotate_left
  · rw [herror]
    exact hsame
  rw [hcaller, Action.ensures_pure]
  rw [Action.ensures_bind, ensures_ask]
  intro answer second hanswer
  have hsecond := Adds.of_answers h rfl hanswer
  rw [Action.ensures_bind]
  refine Action.ensures_ofTransport.mpr ?_
  cases answer with
  | error error => exact ⟨[], .of_adds hsecond⟩
  | ok sid =>
      simp only
      rw [Action.ensures_bind]
      refine findOrCreateCaller_rule hsecond.extension.intact ?_
        fun _ _ => ⟨[], .of_adds hsecond⟩
      intro caller third hthird
      rw [Action.ensures_bind]
      refine freshId_rule hthird.extension.intact ?_
      intro id fourth hfourth hunused
      rw [Action.ensures_bind]
      refine now_rule hfourth.extension.intact ?_
      intro time fifth hfifth
      have hnow := ((hsecond.trans hthird).trans hfourth).trans hfifth
      rw [Action.ensures_bind, Action.ensures_ofAnswer]
      split
      · rename_i session hsession
        have hid : session.id.uuid = id := by rw [create_eq_ok hsession]
        rw [Action.ensures_bind, ensures_ask]
        intro answer last hlast
        rcases answers_saveSession hlast with ⟨hsid, rfl, rfl⟩ | ⟨_, ⟨failure, _, rfl⟩, rfl⟩
        · have hnew : fifth.Unused session.id.uuid := by
            rw [hid]
            exact hunused.extends hfifth.extension
          have hlength : session.lengthSeconds = 0 := by rw [create_eq_ok hsession]
          have hmeets := Meets.addSession hnow.extension.intact hnew hsid hlength
          exact ⟨_, (Meets.of_adds hnow).trans hmeets⟩
        · exact ⟨[], .of_adds hnow⟩
      · exact ⟨[], .of_adds hnow⟩

theorem findSession_rule {id : SessionId} {post : Session → OpenWorld → Prop}
    {fails : CallError → OpenWorld → Prop} (h : state.Intact)
    (found : ∀ session, state.Holds session → post session state)
    (missing : ∀ error, fails error state) :
    Action.Ensures OpenWorld.rules (findSession id) state post fails := by
  rw [findSession, Action.ensures_bind, ensures_ask]
  rintro answer state' ⟨rfl, rfl⟩
  rw [Action.ensures_bind, World.answer, Action.ensures_ofAnswer]
  simp only
  split
  · exact found _ (loads_of_sessionById h ‹_›).1.holds
  · exact missing _

theorem finishedCall_addsCalls {id : SessionId} (h : state.Intact) :
    AddsCalls state (finishedCall registry id) := by
  rw [AddsCalls, finishedCall, Action.ensures_bind]
  refine findSession_rule h ?_ fun _ => ⟨[], .refl h⟩
  intro session hholds
  rw [Action.ensures_bind]
  refine updateSession_rewrites h hholds rowChange_markFinished ?_
    fun _ _ hadds _ => ⟨[], .of_adds hadds⟩
  intro updated outcome second hrewrites
  have hsecond := hrewrites.meets hholds rowChange_markFinished fun _ => rfl
  cases outcome
  · exact ⟨[], hsecond⟩
  · simp only
    rw [Action.ensures_bind]
    refine findTree_rule ?_ fun _ => ⟨[], hsecond⟩
    intro tree _
    refine AddsCalls.after ?_ hsecond
    exact addsCalls_of_touches (runCallback_touches (by decide)) hsecond.extension.intact

theorem unansweredCall_addsCalls {id : SessionId} (h : state.Intact) :
    AddsCalls state (unansweredCall registry id) := by
  rw [AddsCalls, unansweredCall, Action.ensures_bind]
  refine findSession_rule h ?_ fun _ => ⟨[], .refl h⟩
  intro session hholds
  split
  · exact ⟨[], .refl h⟩
  · rw [Action.ensures_bind]
    refine updateSession_rewrites h hholds rowChange_markUnanswered ?_
      fun _ _ hadds _ => ⟨[], .of_adds hadds⟩
    intro updated outcome second hrewrites
    have hsecond := hrewrites.meets hholds rowChange_markUnanswered fun _ => rfl
    cases outcome
    · exact ⟨[], hsecond⟩
    · simp only
      rw [Action.ensures_bind]
      refine findTree_rule ?_ fun _ => ⟨[], hsecond⟩
      intro tree _
      refine AddsCalls.after ?_ hsecond
      exact addsCalls_of_touches (runCallback_touches (by decide)) hsecond.extension.intact

theorem runJob_addsCalls (h : state.Intact) (work : Job) :
    AddsCalls state (runJob registry work) := by
  cases work with
  | unansweredCall session => exact unansweredCall_addsCalls h
  | finishedCall session => exact finishedCall_addsCalls h
  | attachRecording recording =>
      exact addsCalls_of_touches (attachRecording_touches (by decide) (by decide) (by decide)) h

end PhoneTree.Service

namespace PhoneTree

open Service

theorem Command.addsCalls {account : Account} {registry : Registry} {state : OpenWorld}
    {command : Command} (h : state.Intact) (hother : command.isWebhook = false) :
    AddsCalls state (command.action account registry) := by
  cases command with
  | webhook entry params => cases hother
  | startCall tree recipient sender machineDetection =>
      exact Action.ensures_bind.mpr (startCall_addsCalls h)
  | sendMessages recipient sender bodies =>
      exact Action.ensures_bind.mpr
        (addsCalls_of_touches (sendMessages_touches (by decide) (by decide)) h)
  | findCaller number =>
      exact Action.ensures_bind.mpr
        (addsCalls_of_touches (findOrCreateCaller_touches (by decide)) h)
  | job work => exact Action.ensures_bind.mpr (runJob_addsCalls h work)

theorem Command.extends_of_runs {account : Account} {registry : Registry}
    {state state' : OpenWorld} {command : Command} {result : Except CallError Outcome}
    (h : state.Intact)
    (run : Action.Runs OpenWorld.rules (command.action account registry) state result state') :
    ∃ calls turns, state.Extends state' calls turns ∧ (command.isWebhook = false → turns = []) := by
  cases hkind : command.isWebhook with
  | true =>
      cases command with
      | webhook entry params =>
          cases Webhook.ends_of_runs h run with
          | walked walks extension response => exact ⟨_, _, extension, by simp⟩
          | quiet extension silent => exact ⟨_, _, extension, by simp⟩
          | refused extension cause calm => exact ⟨_, _, extension, by simp⟩
      | _ => cases hkind
  | false =>
      have hend := Dialogue.Ensures.of_runs (Command.addsCalls h hkind) run
      cases result with
      | ok outcome =>
          obtain ⟨calls, hmeets⟩ := hend
          exact ⟨calls, [], hmeets.extension, fun _ => rfl⟩
      | error error =>
          obtain ⟨calls, hmeets⟩ := hend
          exact ⟨calls, [], hmeets.extension, fun _ => rfl⟩

end PhoneTree

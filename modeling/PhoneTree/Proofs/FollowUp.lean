import PhoneTree.Proofs.Callbacks
import PhoneTree.Proofs.Pool
import PhoneTree.Proofs.StoreSteps
import PhoneTree.Proofs.WebhookWalk

namespace PhoneTree

/-- Whether a call has come to its end. -/
def Session.isOver (session : Session) : Bool :=
  session.status.any CallStatus.isTerminal

namespace OpenWorld

/-- Work has been left for the end of a call. -/
def HasFollowUp (state : OpenWorld) (id : SessionId) : Prop :=
  ∃ delay, (Job.finishedCall id, delay) ∈ state.world.scheduled

/-- Work has been left for the end of every stored call that is over, except for some. -/
def FollowedUp (excused : CallFacts → Prop) (state : OpenWorld) : Prop :=
  ∀ session ∈ state.store.sessions, session.isOver = true →
    state.HasFollowUp session.id ∨ excused session.facts

/-- A stored session has the facts and the status of a session. -/
def Shows (state : OpenWorld) (session : Session) : Prop :=
  ∃ row ∈ state.store.sessions, row.facts = session.facts ∧ row.status = session.status

/-- The sessions stay as they are, and so does the work that has been left. -/
structure StandsStill (state state' : OpenWorld) : Prop where
  sessions : state'.store.sessions = state.store.sessions
  work : state.world.scheduled ⊆ state'.world.scheduled

end OpenWorld

/-- A command is about to store a call that is over already. -/
def Command.BeginsOver (state : OpenWorld) : Command → String → Prop
  | .webhook (.inbound _) params, sid =>
      params.callSid? = some sid ∧ (∀ call ∈ state.callFacts, call.sid ≠ sid) ∧
        (StatusUpdate.ofParams params).status.any CallStatus.isTerminal = true
  | _, _ => False

/-- One of the commands that were done began a call that was over already. -/
def BegunOver (account : Service.Account) (registry : Registry) (start : OpenWorld)
    (served : List (Command × Except CallError Outcome)) (sid : String) : Prop :=
  ∃ earlier command result later before, served = earlier ++ (command, result) :: later ∧
    Served account registry .any start earlier before ∧ command.BeginsOver before sid

namespace OpenWorld

variable {state state' : OpenWorld} {excused excused' : CallFacts → Prop} {session : Session}
  {question : Question} {answer : question.Answer}

theorem StandsStill.refl (state : OpenWorld) : state.StandsStill state :=
  ⟨rfl, List.Subset.refl _⟩

theorem StandsStill.trans {third : OpenWorld} (h : state.StandsStill state')
    (h' : state'.StandsStill third) : state.StandsStill third :=
  ⟨h'.sessions.trans h.sessions, List.Subset.trans h.work h'.work⟩

theorem HasFollowUp.later {id : SessionId} (h : state.HasFollowUp id)
    (hwork : state.world.scheduled ⊆ state'.world.scheduled) : state'.HasFollowUp id := by
  obtain ⟨delay, hmem⟩ := h
  exact ⟨delay, hwork hmem⟩

theorem FollowedUp.still (h : state.FollowedUp excused) (still : state.StandsStill state') :
    state'.FollowedUp excused := by
  intro session hsession hover
  rw [still.sessions] at hsession
  exact (h session hsession hover).imp_left fun hwork => hwork.later still.work

theorem Shows.still (h : state.Shows session) (still : state.StandsStill state') :
    state'.Shows session := by
  rw [Shows, still.sessions]
  exact h

theorem FollowedUp.mono (h : state.FollowedUp excused)
    (weaker : ∀ call, excused call → excused' call) : state.FollowedUp excused' :=
  fun session hsession hover => (h session hsession hover).imp_right (weaker _)

theorem FollowedUp.shown (h : state.FollowedUp excused) (shown : state.Shows session)
    (hover : session.isOver = true) : state.HasFollowUp session.id ∨ excused session.facts := by
  obtain ⟨row, hrow, hfacts, hstatus⟩ := shown
  have hid : row.id = session.id := congrArg CallFacts.id hfacts
  rw [← hid, ← hfacts]
  refine h row hrow ?_
  rwa [Session.isOver, hstatus]

theorem work_of_answers (answered : state.Answers question answer state') :
    state.world.scheduled ⊆ state'.world.scheduled := by
  rw [answers_scheduled answered]
  exact List.subset_append_left _ _

theorem standsStill_of_unstored (unstored : Exchange.stored? ⟨question, answer⟩ = none)
    (answered : state.Answers question answer state') : state.StandsStill state' := by
  refine ⟨?_, work_of_answers answered⟩
  rw [answers_sessions answered, unstored]

theorem shows_of_stored (answered : state.Answers question answer state')
    (stored : Exchange.stored? ⟨question, answer⟩ = some session) : state'.Shows session := by
  have hsessions := answers_sessions answered
  rw [stored] at hsessions
  have hrow := (Store.sessionRow?_putRow hsessions session.id).trans (if_pos rfl)
  exact ⟨Store.row session, List.mem_of_find?_eq_some hrow, rfl, rfl⟩

theorem shows_of_found (answered : state.Answers question answer state')
    (found : Exchange.found? ⟨question, answer⟩ = some session) : state'.Shows session := by
  have took := took_of_answers answered
  generalize hstore : state'.store = store' at took
  cases took with
  | read sessions turns recordings callers tells =>
      have told : Exchange.told? ⟨question, answer⟩ = some session := by
        cases question with
        | sessionById id | sessionBySid sid => cases answer <;> exact found
        | _ => cases found
      obtain ⟨row, hrow, rfl⟩ := tells.session session told
      rw [Shows, hstore, sessions]
      exact ⟨row, hrow, rfl, rfl⟩
  | _ => cases found

/-- A session takes the place of one with its facts. If it is over, then the other was, or it is
excused from now on. -/
theorem FollowedUp.updated {base sent updated : Session} (h : state.FollowedUp excused)
    (shown : state.Shows base) (weaker : ∀ call, excused call → excused' call)
    (hfacts : sent.facts = base.facts)
    (hover : sent.isOver = true → base.isOver = true ∨ excused' sent.facts)
    (answered : state.Answers (.updateSession sent) (.ok updated) state') :
    state'.FollowedUp excused' := by
  have hsessions := answers_sessions answered
  have hlater := work_of_answers answered
  obtain rfl : updated = sent.advance := answers_truthful answered updated rfl
  intro session hsession hend
  rw [hsessions] at hsession
  rcases Store.mem_putRow hsession with rfl | hsession
  · rcases hover hend with hbase | hexcused
    · rcases h.shown shown hbase with hwork | hexcused
      · have hid : sent.id = base.id := congrArg CallFacts.id hfacts
        have hsent : state.HasFollowUp sent.id := hid ▸ hwork
        exact .inl (hsent.later hlater)
      · exact .inr (weaker _ (hfacts ▸ hexcused))
    · exact .inr hexcused
  · exact (h session hsession hend).imp (fun hwork => hwork.later hlater) (weaker _)

theorem FollowedUp.saved {value : Unit} (h : state.FollowedUp excused)
    (hover : session.isOver = true → excused session.facts)
    (answered : state.Answers (.saveSession session) (.ok value) state') :
    state'.FollowedUp excused := by
  have hsessions := answers_sessions answered
  have hlater := work_of_answers answered
  intro other hother hend
  rw [hsessions] at hother
  rcases Store.mem_putRow hother with rfl | hother
  · exact .inr (hover hend)
  · exact (h other hother hend).imp_left fun hwork => hwork.later hlater

end OpenWorld

/-- The parts of the world that may be written to while the sessions stay as they are. -/
def stillParts : List Part :=
  [.turns, .recordings, .callers, .jobs, .audio, .provider, .hooks]

/-- The action ends with a value only as `post` says, and if it fails, work has been left for the
end of every call all the same. -/
def FollowsUp {α : Type} (excused : CallFacts → Prop) (action : Action α) (state : OpenWorld)
    (post : α → OpenWorld → Prop) : Prop :=
  Action.Ensures OpenWorld.rules action state post fun _ state' => state'.FollowedUp excused

section Rules

variable {α β : Type} {excused : CallFacts → Prop} {state : OpenWorld}
  {post : α → OpenWorld → Prop}

theorem followsUp_bind {action : Action α} {rest : α → Action β} {post : β → OpenWorld → Prop} :
    FollowsUp excused (action >>= rest) state post ↔
      FollowsUp excused action state
        fun value state' => FollowsUp excused (rest value) state' post :=
  Action.ensures_bind

theorem Action.Touches.followsUp {action : Action α} (h : action.Touches stillParts)
    (holds : state.FollowedUp excused)
    (done : ∀ value state', state.StandsStill state' → post value state') :
    FollowsUp excused action state post := by
  have hstill : Dialogue.Ensures OpenWorld.rules action.run state
      fun _ state' => state.StandsStill state' := by
    refine Dialogue.AsksOnly.ensures h (fun _ _ _ => trivial) ?_ (.refl state)
    intro before question answer after hparts hbefore answered
    refine hbefore.trans (OpenWorld.standsStill_of_unstored ?_ answered)
    cases question with
    | saveSession session | updateSession session =>
        exact absurd (hparts .sessions rfl) (by decide)
    | _ => rfl
  refine Dialogue.Ensures.mono hstill ?_
  rintro (error | value) state' hstate
  · exact holds.still hstate
  · exact done value state' hstate

theorem Action.Touches.staysFollowedUp {action : Action α} (h : action.Touches stillParts)
    (holds : state.FollowedUp excused) :
    FollowsUp excused action state fun _ state' => state'.FollowedUp excused :=
  h.followsUp holds fun _ _ => holds.still

theorem followsUp_ask {question : Question} {post : question.Answer → OpenWorld → Prop}
    (done : ∀ answer state', state.Answers question answer state' → post answer state') :
    FollowsUp excused (Action.ask question) state post :=
  OpenWorld.ensures_ask.mpr done

end Rules

namespace Service

open PhoneTree.Action

variable {registry : Registry} {account : Account} {params : Params} {session : Session}
  {tree : Tree} {state : OpenWorld} {excused : CallFacts → Prop}

section Updating

variable {α : Type} {change : Session → Session × Option α}
  {post : Session × Option α → OpenWorld → Prop}

/-- A change after which calls may be over that were not, if these are excused for now. -/
theorem changeSession_followsUp {owed : Session → α → CallFacts → Prop} (retries : Nat)
    (hchange : RowChange change)
    (hover : ∀ base sent outcome, change base = (sent, some outcome) → sent.isOver = true →
      base.isOver = true ∨ owed sent.advance outcome sent.facts)
    (unchanged : ∀ changed state', state'.FollowedUp excused → state'.Shows changed →
      post (changed, none) state')
    (updated : ∀ changed outcome state',
      (state'.FollowedUp fun call => excused call ∨ owed changed outcome call) →
        state'.Shows changed → post (changed, some outcome) state')
    (h : state.FollowedUp excused) (shown : state.Shows session) :
    FollowsUp excused (changeSession change retries session) state post := by
  refine @changeSession_loop α change session _ _ state
    (fun base state => state.FollowedUp excused ∧ state.Shows base) post _ retries
    ?_ (fun _ _ _ _ _ _ => trivial) ?_ ?_ ⟨h, shown⟩
  · rintro base changed state ⟨h, shown⟩ hchanged
    have hfacts := (hchange.revises base).facts
    have hquiet := hchange.quiet base
    rw [hchanged] at hfacts hquiet
    obtain ⟨row, hrow, hrowFacts, hrowStatus⟩ := shown
    have hrows : Store.row changed = Store.row base := hquiet rfl
    have hstatus : (Store.row changed).status = (Store.row base).status :=
      congrArg Session.status hrows
    exact unchanged changed state h
      ⟨row, hrow, hrowFacts.trans hfacts.symm, hrowStatus.trans hstatus.symm⟩
  · rintro base sent outcome state changed state' ⟨h, shown⟩ hsent
      (answered : state.Answers (.updateSession sent) (.ok changed) state')
    have hfacts := (hchange.revises base).facts
    rw [hsent] at hfacts
    obtain rfl : changed = sent.advance := OpenWorld.answers_truthful answered changed rfl
    refine updated _ outcome state' ?_ (OpenWorld.shows_of_stored answered rfl)
    exact h.updated shown (fun _ => .inl) hfacts
      (fun hend => (hover base sent outcome hsent hend).imp_right .inr) answered
  · rintro base sent outcome state failure state' ⟨h, shown⟩ hsent
      (answered : state.Answers (.updateSession sent) (.error failure) state')
    have hstill := OpenWorld.standsStill_of_unstored rfl answered
    refine ⟨h.still hstill, fun _ => ?_⟩
    refine followsUp_bind.mpr (followsUp_ask ?_)
    intro answer third hanswer
    have hthird := (h.still hstill).still (OpenWorld.standsStill_of_unstored rfl hanswer)
    refine Action.ensures_ofAnswer.mpr ?_
    rcases answer with failure | _ | loaded
    · exact hthird
    · exact hthird
    · exact ⟨hthird, OpenWorld.shows_of_found hanswer rfl⟩

theorem updateSession_followsUp (hchange : RowChange change)
    (hstatus : ∀ base, (change base).1.status = base.status)
    (done : ∀ changed outcome state', state'.FollowedUp excused → state'.Shows changed →
      post (changed, outcome) state')
    (h : state.FollowedUp excused) (shown : state.Shows session) :
    FollowsUp excused (updateSession session change) state post := by
  refine @changeSession_followsUp _ _ _ _ _ _ (fun _ _ _ => False) _ hchange ?_
    (fun changed state' => done changed none state') ?_ h shown
  · intro base sent outcome hsent hend
    have hsame := hstatus base
    rw [hsent] at hsame
    exact .inl (by rwa [Session.isOver, ← hsame])
  · intro changed outcome state' hstate hshown
    exact done changed (some outcome) state' (hstate.mono fun call hcall => hcall.resolve_right id)
      hshown

end Updating

section Walking

variable {post : Session → OpenWorld → Prop}

theorem leaveWork_followsUp {jobs : List Job}
    (h : state.FollowedUp fun call => excused call ∨ .finishedCall call.id ∈ jobs)
    (shown : state.Shows session)
    (done : ∀ state', state'.FollowedUp excused → state'.Shows session → post session state') :
    FollowsUp excused (leaveWork session jobs) state post := by
  induction jobs generalizing state with
  | nil =>
      refine done state ?_ shown
      exact h.mono fun call hcall => hcall.resolve_right List.not_mem_nil
  | cons job jobs ih =>
      refine Action.ensures_bind_assoc.mpr (followsUp_bind.mpr (followsUp_ask ?_))
      intro answer state' answered
      have hstill := OpenWorld.standsStill_of_unstored rfl answered
      have hwork := OpenWorld.answers_scheduled answered
      obtain ⟨rfl, -⟩ := answered
      refine ih ?_ (shown.still hstill)
      intro other hother hend
      rcases h.still hstill other hother hend with hfollowed | hexcused | hjob
      · exact .inl hfollowed
      · exact .inr (.inl hexcused)
      · rcases List.mem_cons.mp hjob with rfl | hjob
        · refine .inl ⟨settleDelay, ?_⟩
          rw [hwork]
          exact List.mem_append_right _ List.mem_cons_self
        · exact .inr (.inr hjob)

/-- Whoever takes over that a call is over leaves work for its end. -/
theorem isOver_of_takeOver {update : StatusUpdate} {base sent : Session} {change : StatusChange}
    (hsent : base.takeOver update = (sent, some change)) (hend : sent.isOver = true) :
    base.isOver = true ∨ .finishedCall sent.facts.id ∈ jobsAfter sent.advance (some change) := by
  cases hbase : base.isOver with
  | true => exact .inl rfl
  | false =>
      obtain ⟨rfl, hchange⟩ := Prod.mk.inj hsent
      have hsame : base.changeBy update = change := by
        split at hchange
        · exact Option.some.inj hchange
        · cases hchange
      have hmoved : (base.afterUpdate update).status ≠ base.status := by
        intro hstatus
        rw [Session.isOver, hstatus, ← Session.isOver, hbase] at hend
        cases hend
      have hfinished : change.becameFinished = true := by
        rw [Session.isOver] at hbase hend
        rw [← hsame]
        simp [Session.changeBy, hmoved, hend, hbase]
      refine .inr ?_
      rw [jobsAfter, if_pos hfinished]
      exact List.mem_append_right _ List.mem_cons_self

theorem applyUpdate_followsUp {update : StatusUpdate} (h : state.FollowedUp excused)
    (shown : state.Shows session)
    (done : ∀ updated state', state'.FollowedUp excused → state'.Shows updated →
      post updated state') :
    FollowsUp excused (applyUpdate session update) state post := by
  rw [applyUpdate_eq]
  split
  · exact done session state h shown
  · refine followsUp_bind.mpr ?_
    refine @changeSession_followsUp _ _ _ _ _ _
      (fun updated change call => .finishedCall call.id ∈ jobsAfter updated (some change)) _
      (rowChange_takeOver update) (fun _ _ _ => isOver_of_takeOver) ?_ ?_ h shown
    · exact done
    · intro updated change state' hstate hshown
      exact leaveWork_followsUp hstate hshown (done updated)

theorem sessionBySid_followsUp {sid : String}
    {post : Except Failure (Option Session) → OpenWorld → Prop}
    (found : ∀ session, state.Shows session → post (.ok (some session)) state)
    (missing : (∀ call ∈ state.callFacts, call.sid ≠ sid) → post (.ok none) state) :
    FollowsUp excused (Action.ask (.sessionBySid sid)) state post := by
  refine followsUp_ask ?_
  intro answer state' answered
  have hsame := answered
  obtain ⟨rfl, rfl⟩ := hsame
  have hanswer : (World.answer (.sessionBySid sid) state.world).1 =
      .ok (state.store.sessionBySid sid) := rfl
  cases hfound : state.store.sessionBySid sid with
  | some session =>
      rw [hanswer, hfound] at answered ⊢
      exact found session (OpenWorld.shows_of_found answered rfl)
  | none =>
      rw [hanswer, hfound]
      exact missing (OpenWorld.sid_ne_of_sessionBySid hfound)

theorem createSession_followsUp {sid treeName : String} (h : state.FollowedUp excused)
    (hover : (StatusUpdate.ofParams params).status.any CallStatus.isTerminal = true →
      ∀ call : CallFacts, call.sid = sid → excused call)
    (done : ∀ session state', state'.FollowedUp excused → state'.Shows session →
      post session state') :
    FollowsUp excused (createSession sid treeName params) state post := by
  rw [createSession]
  refine followsUp_bind.mpr ((findOrCreateCaller_touches (by decide)).followsUp h ?_)
  intro caller second hsecond
  refine followsUp_bind.mpr ((touches_read rfl).followsUp (h.still hsecond) ?_)
  intro id third hthird
  refine followsUp_bind.mpr ((touches_read rfl).followsUp (h.still (hsecond.trans hthird)) ?_)
  intro time fourth hfourth
  have hstate := h.still ((hsecond.trans hthird).trans hfourth)
  refine followsUp_bind.mpr ?_
  cases hsession : Session.create ⟨id⟩ time sid (Direction.ofParam (params.get? "Direction"))
      treeName caller.id (CallDetails.ofParams params) with
  | error failure => exact hstate
  | ok session =>
      have hcreated := create_eq_ok hsession
      refine followsUp_bind.mpr (followsUp_ask ?_)
      rintro (failure | value) last answered
      · have hlast := hstate.still (OpenWorld.standsStill_of_unstored rfl answered)
        simp only
        split
        · exact followsUp_bind.mpr (sessionBySid_followsUp (fun loaded => done loaded last hlast)
            fun _ => hlast)
        · exact hlast
      · refine done _ last (hstate.saved ?_ answered) (OpenWorld.shows_of_stored answered rfl)
        intro hend
        refine hover hend _ ?_
        rw [hcreated]
        rfl

theorem followedUp_keeps :
    Keeps OpenWorld.rules (OpenWorld.FollowedUp excused)
      fun session state => state.Shows session where
  still touches h := by
    refine (touches.mono (by decide)).followsUp h ?_
    exact fun _ _ still => ⟨h.still still, fun _ shown => shown.still still⟩
  reads _ _ h := by
    refine sessionBySid_followsUp ?_ ?_
    · intro session shown
      refine ⟨h, ?_⟩
      rintro _ ⟨rfl⟩
      exact shown
    · exact fun _ => ⟨h, fun _ hnone => nomatch hnone⟩
  applies h shown := applyUpdate_followsUp h shown fun _ _ hlater hupdated => ⟨hlater, hupdated⟩
  records h shown := by
    refine updateSession_followsUp (rowChange_recordTurns _) ?_ ?_ h shown
    · intro base
      obtain ⟨recorded, length, hbase⟩ := Session.foldl_recordTurn _ base
      rw [recordTurns, hbase]
    · exact fun _ _ _ hlater _ => hlater

theorem webhook_followsUp (entry : Webhook) (h : state.FollowedUp excused)
    (begins : ∀ call : CallFacts,
      (Command.webhook entry params).BeginsOver state call.sid → excused call) :
    FollowsUp excused (entry.action account registry params) state
      fun _ state' => state'.FollowedUp excused := by
  refine webhook_keeps followedUp_keeps entry h ?_
  rintro name sid treeName later rfl hsid ⟨hanswer, rfl⟩ hlater
  have hnew := OpenWorld.sid_ne_of_sessionBySid (Except.ok.inj hanswer).symm
  refine createSession_followsUp hlater ?_ fun _ _ hlast shown => ⟨hlast, shown⟩
  rintro hreported call rfl
  exact begins call ⟨hsid, hnew, hreported⟩

end Walking

section Others

theorem startCall_followsUp {name recipient : String} {sender : Option String}
    {machineDetection : Bool} (h : state.FollowedUp excused) :
    FollowsUp excused (startCall account registry name recipient sender machineDetection) state
      fun _ state' => state'.FollowedUp excused := by
  have hnumber : Touches stillParts (requireNumber "to" recipient) := requireNumber_touches
  rw [startCall]
  generalize requireNumber "to" recipient = number at hnumber ⊢
  refine followsUp_bind.mpr (findTree_rule ?_ fun _ => h)
  intro tree _
  refine followsUp_bind.mpr (hnumber.followsUp h ?_)
  intro called second hsecond
  refine followsUp_bind.mpr (requireSender_touches.followsUp (h.still hsecond) ?_)
  intro calling third hthird
  have hthird := h.still (hsecond.trans hthird)
  refine followsUp_bind.mpr ((touches_write rfl (by decide)).followsUp hthird ?_)
  intro answer fourth hfourth
  refine followsUp_bind.mpr (touches_ofTransport.followsUp (hthird.still hfourth) ?_)
  intro sid fifth hfifth
  have hplaced := hthird.still (hfourth.trans hfifth)
  refine followsUp_bind.mpr ((findOrCreateCaller_touches (by decide)).followsUp hplaced ?_)
  intro caller sixth hsixth
  refine followsUp_bind.mpr ((touches_read rfl).followsUp (hplaced.still hsixth) ?_)
  intro id seventh hseventh
  refine followsUp_bind.mpr ((touches_read rfl).followsUp
    (hplaced.still (hsixth.trans hseventh)) ?_)
  intro time eighth heighth
  have hstate := hplaced.still ((hsixth.trans hseventh).trans heighth)
  refine followsUp_bind.mpr ?_
  cases hsession : Session.create ⟨id⟩ time sid .outbound tree.name caller.id
      { fromNumber := called, toNumber := some calling } with
  | error failure => exact hstate
  | ok session =>
      have hcreated := create_eq_ok hsession
      refine followsUp_bind.mpr (followsUp_ask ?_)
      rintro (failure | value) last answered
      · exact hstate.still (OpenWorld.standsStill_of_unstored rfl answered)
      · refine hstate.saved ?_ answered
        rw [hcreated]
        intro hend
        cases hend

theorem findSession_followsUp {id : SessionId} {post : Session → OpenWorld → Prop}
    (h : state.FollowedUp excused)
    (found : ∀ session, state.Shows session → post session state) :
    FollowsUp excused (findSession id) state post := by
  refine followsUp_bind.mpr (followsUp_ask ?_)
  intro answer state' answered
  have hsame := answered
  obtain ⟨-, rfl⟩ := hsame
  refine Action.ensures_bind.mpr (Action.ensures_ofAnswer.mpr ?_)
  rcases answer with failure | _ | session
  · exact h
  · exact h
  · exact found session (OpenWorld.shows_of_found answered rfl)

theorem finishedCall_followsUp {id : SessionId} (h : state.FollowedUp excused) :
    FollowsUp excused (finishedCall registry id) state
      fun _ state' => state'.FollowedUp excused := by
  rw [finishedCall]
  refine followsUp_bind.mpr (findSession_followsUp h ?_)
  intro session shown
  refine followsUp_bind.mpr (updateSession_followsUp rowChange_markFinished (fun _ => rfl) ?_ h
    shown)
  rintro updated (_ | _) second hsecond _
  · exact hsecond
  · refine followsUp_bind.mpr (findTree_rule ?_ fun _ => hsecond)
    intro tree _
    exact (runCallback_touches (by decide)).staysFollowedUp hsecond

theorem unansweredCall_followsUp {id : SessionId} (h : state.FollowedUp excused) :
    FollowsUp excused (unansweredCall registry id) state
      fun _ state' => state'.FollowedUp excused := by
  rw [unansweredCall]
  refine followsUp_bind.mpr (findSession_followsUp h ?_)
  intro session shown
  split
  · exact h
  · refine followsUp_bind.mpr (updateSession_followsUp rowChange_markUnanswered (fun _ => rfl) ?_ h
      shown)
    rintro updated (_ | _) second hsecond _
    · exact hsecond
    · refine followsUp_bind.mpr (findTree_rule ?_ fun _ => hsecond)
      intro tree _
      exact (runCallback_touches (by decide)).staysFollowedUp hsecond

theorem runJob_followsUp (work : Job) (h : state.FollowedUp excused) :
    FollowsUp excused (runJob registry work) state fun _ state' => state'.FollowedUp excused := by
  cases work with
  | unansweredCall session => exact unansweredCall_followsUp h
  | finishedCall session => exact finishedCall_followsUp h
  | attachRecording recording =>
      exact (attachRecording_touches (by decide) (by decide) (by decide)).staysFollowedUp h

end Others

end Service

section Runs

open Service

variable {account : Account} {registry : Registry} {start state state' : OpenWorld}
  {excused : CallFacts → Prop} {served : List (Command × Except CallError Outcome)}

theorem Command.followsUp (command : Command) (h : state.FollowedUp excused)
    (begins : ∀ call : CallFacts, command.BeginsOver state call.sid → excused call) :
    FollowsUp excused (command.action account registry) state
      fun _ state' => state'.FollowedUp excused := by
  cases command with
  | webhook entry params => exact webhook_followsUp entry h begins
  | startCall tree recipient sender machineDetection =>
      exact followsUp_bind.mpr (startCall_followsUp h)
  | sendMessages recipient sender bodies =>
      exact followsUp_bind.mpr ((sendMessages_touches (by decide) (by decide)).staysFollowedUp h)
  | findCaller number =>
      exact followsUp_bind.mpr ((findOrCreateCaller_touches (by decide)).staysFollowedUp h)
  | job work => exact followsUp_bind.mpr (runJob_followsUp work h)

theorem BegunOver.later {sid : String} (h : BegunOver account registry start served sid)
    (entry : Command × Except CallError Outcome) :
    BegunOver account registry start (served ++ [entry]) sid := by
  obtain ⟨earlier, command, result, later, before, rfl, hserved, hover⟩ := h
  refine ⟨earlier, command, result, later ++ [entry], before, ?_, hserved, hover⟩
  rw [List.append_assoc, List.cons_append]

/-- Work is left for the end of every call, unless the call was over when it began. -/
theorem finished_calls_are_followed_up (empty : start.store = {})
    (run : Served account registry .any start served state) :
    ∀ session ∈ state.store.sessions, session.isOver = true →
      (∃ delay, (Job.finishedCall session.id, delay) ∈ state.world.scheduled) ∨
        BegunOver account registry start served session.sid := by
  suffices h : state.FollowedUp fun call => BegunOver account registry start served call.sid from h
  induction run with
  | nothing =>
      intro session hsession
      rw [empty] at hsession
      cases hsession
  | stir before stirred ih =>
      obtain ⟨due, rfl⟩ := stirred
      exact ih.still ⟨rfl, List.Subset.refl _⟩
  | @serve served command result state state' before admitted run ih =>
      have hbefore := ih.mono fun call hcall => hcall.later (command, result)
      have hafter := Dialogue.Ensures.of_runs (command.followsUp hbefore ?_) run
      · cases result <;> exact hafter
      · exact fun call hover => ⟨served, command, result, [], state, rfl, before, hover⟩

end Runs

section Ends

/-- A call that comes in and is reported to be over afterwards. -/
def endedCommands : List Command :=
  [.webhook (.inbound "main") questionParams,
    .webhook .status ⟨[("CallSid", "CA0"), ("CallStatus", "completed")]⟩]

def endedCall : List (Command × Except CallError Outcome) × World :=
  World.serve default ⟨[questionTree]⟩ endedCommands {}

theorem endedCall_served :
    Served default ⟨[questionTree]⟩ .any (.ofWorld {}) endedCall.1 (.ofWorld endedCall.2) :=
  Served.of_serve endedCommands {} (fun _ _ => trivial) (by decide +kernel)

theorem endedCall_is_followed_up :
    (endedCall.2.store.sessions.map (·.isOver)) = [true] ∧
      ∀ session ∈ endedCall.2.store.sessions, session.isOver = true →
        (∃ delay, (Job.finishedCall session.id, delay) ∈ endedCall.2.scheduled) ∨
          BegunOver default ⟨[questionTree]⟩ (.ofWorld {}) endedCall.1 session.sid := by
  have hover : (endedCall.2.store.sessions.map (·.isOver)) = [true] := by decide +kernel
  have hserved := endedCall_served
  generalize endedCall = calls at hover hserved ⊢
  exact ⟨hover, finished_calls_are_followed_up rfl hserved⟩

/-- A call that is over when it comes in. -/
def overCommands : List Command :=
  [.webhook (.inbound "main")
    ⟨[("CallSid", "CA0"), ("From", "+12025550123"), ("CallStatus", "completed")]⟩]

def overCall : List (Command × Except CallError Outcome) × World :=
  World.serve default ⟨[questionTree]⟩ overCommands {}

/-- The call is answered and stored as completed, and no work is left for it. -/
theorem overCall_is_left_alone :
    Served default ⟨[questionTree]⟩ .any (.ofWorld {}) overCall.1 (.ofWorld overCall.2) ∧
      (overCall.1.map fun entry => entry.2.isOk) = [true] ∧
        (overCall.2.store.sessions.map (·.status)) = [some .completed] ∧
          overCall.2.scheduled.isEmpty = true :=
  ⟨Served.of_serve overCommands {} (fun _ _ => trivial) (by decide +kernel), by decide +kernel,
    by decide +kernel, by decide +kernel⟩

end Ends

end PhoneTree

import PhoneTree.Proofs.CommandFootprint
import PhoneTree.Proofs.Ties

namespace PhoneTree.Service

open PhoneTree.Action

variable {registry : Registry} {account : Account} {params : Params} {session : Session}
  {tree : Tree} {turn : Turn} {about : Session → Prop} {past : List Exchange}

section Finding

theorem requireField_ties {field : String} {post : String → List Exchange → Prop}
    (found : ∀ value, params.get? field = some value → post value past) :
    Ties about (requireField params field) past post := by
  rw [requireField]
  split
  · exact found _ ‹_›
  · exact ties_throw

theorem sessionBySid_ties {sid : String} {post : Option Session → List Exchange → Prop}
    (habout : ∀ session : Session, session.sid = sid → about session)
    (found : ∀ session past', past <:+ past' → Walks about past' session →
      post (some session) past')
    (missing : ∀ past', past <:+ past' → post none past') :
    Ties about (do ofAnswer (← ask (.sessionBySid sid))) past post := by
  refine ties_outcome trivial ?_
  rintro answer (_ | session) htruthful hanswer
  · exact missing _ (List.suffix_cons _ past)
  · obtain rfl : answer = .ok (some session) := hanswer
    have hlearned : Learned (⟨.sessionBySid sid, .ok (some session)⟩ :: past) session := .first rfl
    refine found session _ (List.suffix_cons _ past) ⟨hlearned.derived, ?_⟩
    exact ⟨session, hlearned, habout session (htruthful session rfl), rfl⟩

theorem findCall_ties {post : Session → List Exchange → Prop}
    (habout : ∀ session : Session, params.callSid? = some session.sid → about session)
    (found : ∀ session past', past <:+ past' → Walks about past' session → post session past') :
    Ties about (findCall params) past post := by
  refine ties_bind.mpr (requireField_ties ?_)
  intro sid hsid
  refine ties_bind_assoc.mpr (sessionBySid_ties ?_ ?_ ?_)
  · rintro session rfl
    exact habout session hsid
  · exact found
  · exact fun _ _ => ties_throw

theorem findTurn_ties {id : TurnId} {post : Turn → List Exchange → Prop}
    (found : ∀ turn past', past <:+ past' → MetTurn past' turn → turn.session = session.id →
      post turn past') : Ties about (findTurn session id) past post := by
  refine ties_bind_assoc.mpr (ties_outcome trivial ?_)
  rintro answer (_ | turn) _ hanswer
  · exact ties_throw
  · obtain rfl : answer = .ok (some turn) := hanswer
    simp only
    split
    · rename_i howned
      exact found turn _ (List.suffix_cons _ past) ⟨turn, .first rfl, rfl⟩ howned
    · exact ties_throw

end Finding

section Updating

variable {α : Type} {change : Session → Session × Option α}

/-- A change is made on sessions that are derived from ones that the program has learned of, and
whatever is sent to be stored is tied to them. -/
theorem updateSession_sends {post : Session × Option α → List Exchange → Prop}
    (hchange : RowChange change) (hwalks : Walks about past session)
    (sends : ∀ base sent outcome past', past <:+ past' → Derived past' base →
      base.id = session.id → change base = (sent, some outcome) →
        Derived past' sent ∨ Known past' sent ∧ KnownOutbound past' sent.id)
    (unchanged : ∀ base changed past', past <:+ past' → Derived past' base →
      base.id = session.id → change base = (changed, none) → post (changed, none) past')
    (updated : ∀ changed outcome past', past <:+ past' → Walks about past' changed →
      changed.id = session.id → post (changed, some outcome) past') :
    Ties about (updateSession session change) past post := by
  have hsame : ∀ {base sent : Session} {outcome : Option α}, change base = (sent, outcome) →
      sent.id = base.id := by
    intro base sent outcome hsent
    have hrevises := hchange.revises base
    rw [hsent] at hrevises
    exact hrevises.id_eq
  refine @changeSession_loop α change session _ _ past
    (fun base past' => past <:+ past' ∧ Derived past' base ∧ base.id = session.id) post _ _
      ?_ ?_ ?_ ?_ ⟨List.suffix_refl past, hwalks.derived, rfl⟩
  · rintro base changed past' ⟨hlater, hderived, hid⟩ hnone
    exact unchanged base changed past' hlater hderived hid hnone
  · rintro base sent outcome past' ⟨hlater, hderived, hid⟩ hsome
    refine ⟨?_, sends base sent outcome past' hlater hderived hid hsome⟩
    rw [hsame hsome, hid]
    exact hwalks.concerns.later hlater
  · rintro base sent outcome past' after _ ⟨hlater, hderived, hid⟩ hsome ⟨htruthful, rfl⟩
    obtain rfl := htruthful after rfl
    have hall := hlater.trans (List.suffix_cons
      (⟨.updateSession sent, .ok sent.advance⟩ : Exchange) past')
    have hupdated : sent.advance.id = session.id := (hsame hsome).trans hid
    refine updated sent.advance outcome _ hall ⟨(Learned.first rfl).derived, ?_⟩ hupdated
    rw [hupdated]
    exact hwalks.concerns.later hall
  · rintro base sent outcome past' failure _ ⟨hlater, hderived, hid⟩ hsome ⟨_, rfl⟩
    refine ⟨trivial, fun _ => ?_⟩
    refine ties_outcome trivial ?_
    rintro answer (_ | loaded) htruthful hanswer
    · trivial
    · obtain rfl : answer = .ok (some loaded) := hanswer
      refine ⟨?_, (Learned.first rfl).derived, ?_⟩
      · exact (hlater.trans (List.suffix_cons _ past')).trans (List.suffix_cons _ _)
      · exact (htruthful loaded rfl).trans ((hsame hsome).trans hid)

theorem updateSession_ties {post : Session × Option α → List Exchange → Prop}
    (hchange : RowChange change) (hamends : ∀ session, (change session).1.Amends session)
    (hwalks : Walks about past session)
    (done : ∀ changed outcome past', past <:+ past' → Walks about past' changed →
      changed.id = session.id → post (changed, outcome) past') :
    Ties about (updateSession session change) past post := by
  have hmade : ∀ {base sent : Session} {outcome : Option α} {past' : List Exchange},
      Derived past' base → change base = (sent, outcome) →
        Derived past' sent ∧ sent.id = base.id := by
    intro base sent outcome past' hderived hsent
    have hsame := hamends base
    rw [hsent] at hsame
    exact ⟨hderived.amends hsame, hsame.revises.id_eq⟩
  refine updateSession_sends hchange hwalks ?_ ?_ ?_
  · exact fun base sent outcome past' _ hderived _ hsome => .inl (hmade hderived hsome).1
  · intro base changed past' hlater hderived hid hnone
    obtain ⟨hchanged, hsame⟩ := hmade hderived hnone
    refine done changed none past' hlater ⟨hchanged, ?_⟩ (hsame.trans hid)
    rw [hsame, hid]
    exact hwalks.concerns.later hlater
  · exact fun changed outcome past' => done changed (some outcome) past'

theorem leaveWork_ties {jobs : List Job} {post : Session → List Exchange → Prop}
    (hjobs : ∀ job ∈ jobs, job.IsFor about past)
    (done : ∀ past', past <:+ past' → post session past') :
    Ties about (leaveWork session jobs) past post := by
  induction jobs generalizing past with
  | nil => exact done past (List.suffix_refl past)
  | cons job jobs ih =>
      refine ties_bind_assoc.mpr (ties_outcome (hjobs job List.mem_cons_self) ?_)
      intro answer _ _ _
      refine ih ?_ ?_
      · intro other hother
        exact (hjobs other (List.mem_cons_of_mem _ hother)).later (List.suffix_cons _ past)
      · intro past' hlater
        exact done past' ((List.suffix_cons _ past).trans hlater)

theorem isFor_of_mem_jobsAfter {change : Option StatusChange} {job : Job}
    (hconcerns : Concerns about past session.id) (h : job ∈ jobsAfter session change) :
    job.IsFor about past := by
  cases change with
  | none => cases h
  | some change =>
      rcases List.mem_append.mp h with h | h
      · split at h
        · obtain rfl := List.mem_singleton.mp h
          exact hconcerns
        · cases h
      · split at h
        · obtain rfl := List.mem_singleton.mp h
          exact hconcerns
        · cases h

theorem applyUpdate_ties {update : StatusUpdate} {post : Session → List Exchange → Prop}
    (hwalks : Walks about past session)
    (done : ∀ updated past', past <:+ past' → Walks about past' updated → post updated past') :
    Ties about (applyUpdate session update) past post := by
  rw [applyUpdate_eq]
  split
  · exact done session past (List.suffix_refl past) hwalks
  · refine ties_bind.mpr (updateSession_ties (rowChange_takeOver update) ?_ hwalks ?_)
    · exact fun session => session.afterUpdate_amends update
    · intro updated change second hsecond hupdated _
      refine leaveWork_ties (fun job hjob => isFor_of_mem_jobsAfter hupdated.concerns hjob) ?_
      intro third hthird
      exact done updated third (hsecond.trans hthird) (hupdated.later hthird)

theorem findUpdatedCall_ties {post : Session → List Exchange → Prop}
    (habout : ∀ session : Session, params.callSid? = some session.sid → about session)
    (found : ∀ session past', past <:+ past' → Walks about past' session → post session past') :
    Ties about (findUpdatedCall params) past post := by
  refine ties_bind.mpr (findCall_ties habout ?_)
  intro session second hsecond hwalks
  refine applyUpdate_ties hwalks ?_
  intro updated third hthird hupdated
  exact found updated third (hsecond.trans hthird) hupdated

end Updating

section Walking

variable {step : FlowStep}

theorem keepTurnChange_ties {post : Unit → List Exchange → Prop}
    (hupdated : ∀ updated, step.updatedTurn = some updated → ConcernsTurn about past updated.id)
    (done : ∀ past', past <:+ past' → post () past') :
    Ties about (keepTurnChange step) past post := by
  rw [keepTurnChange]
  split
  · rename_i turn input hturn _
    exact ties_outcome (hupdated turn hturn) fun _ _ _ _ => done _ (List.suffix_cons _ past)
  · rename_i turn hturn _
    exact ties_outcome (hupdated turn hturn) fun _ _ _ _ => done _ (List.suffix_cons _ past)
  · exact done past (List.suffix_refl past)

theorem keepNextTurn_ties {post : Unit → List Exchange → Prop}
    (hnext : ∀ turn, step.nextTurn = some turn →
      turn.recording = none ∧ Concerns about past turn.session)
    (done : ∀ past', past <:+ past' → post () past') :
    Ties about (keepNextTurn step) past post := by
  rw [keepNextTurn]
  split
  · rename_i turn hturn
    exact ties_outcome (hnext turn hturn) fun _ _ _ _ => done _ (List.suffix_cons _ past)
  · exact done past (List.suffix_refl past)

theorem keepStep_ties {scene : FlowScene} {turn? : Option Turn}
    {post : Session → List Exchange → Prop} (hwalks : Walks about past session)
    (hturn : ∀ turn, turn? = some turn → MetTurn past turn ∧ turn.session = session.id)
    (hgoes : scene.Goes session turn? step)
    (done : ∀ kept past', post kept past') : Ties about (keepStep session step) past post := by
  rw [keepStep]
  refine ties_bind.mpr (keepTurnChange_ties ?_ ?_)
  · intro updated hupdated
    obtain ⟨turn, hsome, hfacts⟩ := hgoes.updates updated hupdated
    obtain ⟨hmet, howned⟩ := hturn turn hsome
    have hsession : updated.session = session.id :=
      (congrArg TurnFacts.session hfacts).trans howned
    exact (hmet.of_facts hfacts).concernsTurn (hsession ▸ hwalks.concerns)
  intro second hsecond
  refine ties_bind.mpr (keepNextTurn_ties ?_ ?_)
  · intro turn hnext
    obtain ⟨handle, -, rfl⟩ := hgoes.begins hnext
    exact ⟨rfl, hwalks.concerns.later hsecond⟩
  intro third hthird
  split
  · exact done session third
  · refine ties_bind.mpr (updateSession_ties (rowChange_recordTurns _) (recordTurns_amends _)
      (hwalks.later (hsecond.trans hthird)) ?_)
    intro changed outcome past' _ _ _
    exact done changed past'

theorem walk_ties {α : Type} {take : FlowScene → Except FlowError FlowStep}
    {rest : FlowStep → Session → Action α} {post : α → List Exchange → Prop} (turn? : Option Turn)
    (hwalks : Walks about past session)
    (hturn : ∀ turn, turn? = some turn → MetTurn past turn ∧ turn.session = session.id)
    (hgoes : ∀ scene step, take scene = .ok step → scene.Goes session turn? step)
    (done : ∀ step kept past', Ties about (rest step kept) past' post) :
    Ties about (do
      let scene ← loadScene tree session
      let step ← Action.ofFlow (take scene)
      let kept ← keepStep session step
      rest step kept) past post := by
  refine ties_bind.mpr (loadScene_touches.ties ?_)
  intro scene second hsecond
  refine ties_bind.mpr (Action.ensures_ofFlow.mpr ?_)
  split
  · rename_i step hstep
    refine ties_bind.mpr (keepStep_ties (hwalks.later hsecond) ?_ (hgoes scene step hstep) ?_)
    · intro turn hsome
      obtain ⟨hmet, howned⟩ := hturn turn hsome
      exact ⟨hmet.later hsecond, howned⟩
    · exact fun kept past' => done _ kept past'
  · trivial

theorem greet_ties {post : Session × Reply → List Exchange → Prop}
    (hwalks : Walks about past session) (done : ∀ greeted past', post greeted past') :
    Ties about (greet tree session) past post := by
  rw [greet]
  exact walk_ties none hwalks nofun (fun scene step hstep => FlowScene.onGreeting_goes hstep)
    fun step kept past' => done _ past'

end Walking

section Creating

theorem findOrCreateCaller_ties {raw : String} {post : Caller → List Exchange → Prop}
    (done : ∀ caller past', past <:+ past' → Met Exchange.caller? past' caller →
      post caller past') : Ties about (findOrCreateCaller raw) past post := by
  rw [findOrCreateCaller]
  split
  · exact ties_throw
  · generalize PhoneNumber.key raw = number
    refine ties_bind_assoc.mpr (ties_outcome trivial ?_)
    rintro answer (_ | caller) _ hanswer
    · refine ties_bind.mpr (ties_ask trivial ?_)
      intro id _
      refine ties_bind.mpr (ties_ask trivial ?_)
      intro time _
      refine ties_bind.mpr (ties_ask trivial ?_)
      have hlater := ((List.suffix_cons (⟨.callerByNumber number, answer⟩ : Exchange) past).trans
        (List.suffix_cons ⟨.freshId, id⟩ _)).trans (List.suffix_cons ⟨.currentTime, time⟩ _)
      rintro (failure | _) _
      · simp only
        split
        · refine ties_bind_assoc.mpr (ties_outcome trivial ?_)
          rintro answer (_ | caller) _ hanswer
          · exact ties_throw
          · obtain rfl : answer = .ok (some caller) := hanswer
            exact done caller _ ((hlater.trans (List.suffix_cons _ _)).trans
              (List.suffix_cons _ _)) (.first rfl)
        · exact ties_throw
      · exact done _ _ (hlater.trans (List.suffix_cons _ _)) (.first rfl)
    · obtain rfl : answer = .ok (some caller) := hanswer
      exact done caller _ (List.suffix_cons _ past) (.first rfl)

theorem isNew_of_create {id : SessionId} {time : Timestamp} {sid treeName : String}
    {direction : Direction} {caller : CallerId} {details : CallDetails} {status : Option CallStatus}
    (h : Session.create id time sid direction treeName caller details = .ok session) :
    ({ session with status } : Session).IsNew := by
  have hcreated := create_eq_ok h
  rw [Session.create] at h
  split at h
  · cases h
  · rename_i hnamed
    rw [hcreated]
    refine ⟨by simpa using hnamed, rfl, ?_⟩
    rintro (_ | _) <;> rfl

theorem createSession_ties {sid treeName : String} {post : Session → List Exchange → Prop}
    (habout : ∀ session : Session, session.sid = sid → about session)
    (done : ∀ session past', Walks about past' session → post session past') :
    Ties about (createSession sid treeName params) past post := by
  rw [createSession]
  refine ties_bind.mpr (findOrCreateCaller_ties ?_)
  intro caller second _ hcaller
  refine ties_bind.mpr (ties_ask trivial ?_)
  intro id _
  refine ties_bind.mpr (ties_ask trivial ?_)
  intro time _
  refine ties_bind.mpr (Action.ensures_ofAnswer.mpr ?_)
  split
  · rename_i session hsession
    have hcreated := create_eq_ok hsession
    have hsid : session.sid = sid := congrArg Session.sid hcreated
    refine ties_bind.mpr (ties_ask ?_ ?_)
    · refine ⟨habout _ hsid, ?_, isNew_of_create hsession, caller, ?_, ?_⟩
      · rw [hcreated]
        rfl
      · exact hcaller.later ((List.suffix_cons _ second).trans (List.suffix_cons _ _))
      · rw [hcreated]
    · rintro (failure | _) _
      · simp only
        split
        · refine ties_bind_assoc.mpr (sessionBySid_ties habout ?_ ?_)
          · exact fun session past' _ hwalks => done session past' hwalks
          · exact fun _ _ => ties_throw
        · exact ties_throw
      · have hlearned : Learned (⟨.saveSession { session with
            status := (StatusUpdate.ofParams params).status }, .ok ()⟩ ::
              ⟨.currentTime, time⟩ :: ⟨.freshId, id⟩ :: second) _ := .first rfl
        exact done _ _ ⟨hlearned.derived, _, hlearned, habout _ hsid, rfl⟩
  · trivial

end Creating

section Receiving

theorem made_of_params {id : RecordingId} {time : Timestamp} {owner : SessionId}
    {recording : Recording} (h : Recording.ofParams id time owner params = .ok recording) :
    recording.id = id ∧ recording.session = owner := by
  rw [Recording.ofParams] at h
  split at h
  · cases h
  · obtain rfl := Except.ok.inj h
    exact ⟨rfl, rfl⟩

theorem receive_ties {post : Turn → List Exchange → Prop} (hconcerns : Concerns about past session.id)
    (hmet : MetTurn past turn) (howned : turn.session = session.id)
    (done : ∀ received past', past <:+ past' → received.facts = turn.facts →
      post received past') : Ties about (receive account session turn params) past post := by
  rw [receive]
  refine ties_bind.mpr (requireField_ties ?_)
  intro sid _
  refine ties_bind_assoc.mpr (ties_outcome trivial ?_)
  intro answer exist _ _
  split
  · exact done turn _ (List.suffix_cons _ past) rfl
  · refine ties_bind.mpr (ties_ask trivial ?_)
    intro id _
    refine ties_bind.mpr (ties_ask trivial ?_)
    intro time _
    have hlater := ((List.suffix_cons (⟨.recordingExists session.id sid, answer⟩ : Exchange)
      past).trans (List.suffix_cons ⟨.freshId, id⟩ _)).trans
        (List.suffix_cons ⟨.currentTime, time⟩ _)
    refine ties_bind.mpr (Action.ensures_ofAnswer.mpr ?_)
    split
    · rename_i recording hrecording
      have hmade := made_of_params hrecording
      refine ties_bind.mpr (ties_ask ⟨?_, ?_⟩ ?_)
      · rw [hmade.1]
        rfl
      · rw [hmade.2]
        exact hconcerns.later hlater
      rintro (failure | _) _
      · simp only
        split
        · exact done turn _ (hlater.trans (List.suffix_cons _ _)) rfl
        · exact ties_throw
      · have hsaved := hlater.trans (List.suffix_cons
          (⟨.saveRecording recording, .ok ()⟩ : Exchange) _)
        have hkept : Met Exchange.recording? (⟨.saveRecording recording, .ok ()⟩ ::
            ⟨.currentTime, time⟩ :: ⟨.freshId, id⟩ ::
              ⟨.recordingExists session.id sid, answer⟩ :: past) recording := .first rfl
        obtain ⟨told, htold, hfacts⟩ := hmet
        have hsession : told.session = session.id :=
          (congrArg TurnFacts.session hfacts).trans howned
        refine ties_bind_assoc.mpr (ties_outcome ?_ ?_)
        · refine ⟨told, htold.later hsaved, congrArg TurnFacts.id hfacts, ?_, recording, hkept, rfl,
            hmade.2.trans hsession.symm⟩
          rw [hsession]
          exact hconcerns.later hsaved
        intro answer _ _ _
        have hattached := hsaved.trans (List.suffix_cons
          (⟨.attachToTurn turn.id recording.id, answer⟩ : Exchange) _)
        have hdone : ∀ later, past <:+ later →
            post (if turn.recording.isNone then turn.attach recording.id else turn) later := by
          intro later hlater
          refine done _ later hlater ?_
          split <;> rfl
        simp only
        split
        · refine ties_bind_assoc.mpr (ties_outcome ?_ ?_)
          · refine ⟨recording, hkept.later (List.suffix_cons _ _), rfl, ?_⟩
            rw [hmade.2]
            exact hconcerns.later hattached
          · intro _ _ _ _
            exact hdone _ (hattached.trans (List.suffix_cons _ _))
        · exact hdone _ hattached
    · trivial

theorem receiveIfAny_ties {post : Turn → List Exchange → Prop}
    (hconcerns : Concerns about past session.id) (hmet : MetTurn past turn)
    (howned : turn.session = session.id)
    (done : ∀ received past', past <:+ past' → received.facts = turn.facts →
      post received past') : Ties about (receiveIfAny account session turn params) past post := by
  rw [receiveIfAny]
  split
  · exact receive_ties hconcerns hmet howned done
  · exact done turn past (List.suffix_refl past) rfl

end Receiving

section Webhooks

variable {name : String} {id : TurnId}

theorem inboundCall_ties
    (habout : ∀ session : Session, params.callSid? = some session.sid → about session) :
    Ties about (inboundCall registry name params) past fun _ _ => True := by
  rw [inboundCall]
  refine ties_bind.mpr (findTree_touches.ties ?_)
  intro tree second _
  refine ties_bind.mpr (requireField_ties ?_)
  intro sid hsid
  have hcalled : ∀ session : Session, session.sid = sid → about session := by
    rintro session rfl
    exact habout session hsid
  refine ties_bind_assoc.mpr (sessionBySid_ties hcalled ?_ ?_)
  · intro session third _ hwalks
    change Ties about (applyUpdate session (.ofParams params) >>= greet tree) third _
    refine ties_bind.mpr (applyUpdate_ties hwalks ?_)
    intro updated fourth _ hupdated
    exact greet_ties hupdated fun _ _ => trivial
  · intro third _
    change Ties about (createSession sid tree.name params >>= greet tree) third _
    refine ties_bind.mpr (createSession_ties hcalled ?_)
    intro session fourth hwalks
    exact greet_ties hwalks fun _ _ => trivial

theorem outboundCall_ties
    (habout : ∀ session : Session, params.callSid? = some session.sid → about session) :
    Ties about (outboundCall registry name params) past fun _ _ => True := by
  refine ties_bind.mpr (findTree_touches.ties ?_)
  intro tree second _
  refine ties_bind.mpr (findUpdatedCall_ties habout ?_)
  intro session third _ hwalks
  exact ties_bind.mpr (greet_ties hwalks fun _ _ => trivial)

theorem prompt_ties
    (habout : ∀ session : Session, params.callSid? = some session.sid → about session) :
    Ties about (Service.prompt registry name id params) past fun _ _ => True := by
  refine ties_bind.mpr (findTree_touches.ties ?_)
  intro tree second _
  refine ties_bind.mpr (findUpdatedCall_ties habout ?_)
  intro session third _ _
  refine ties_bind.mpr (findTurn_touches.ties ?_)
  intro turn fourth _
  refine ties_bind.mpr (loadScene_touches.ties ?_)
  intro scene fifth _
  exact ties_bind.mpr (touches_ofFlow.ties fun _ _ _ => trivial)

theorem promptResponse_ties
    (habout : ∀ session : Session, params.callSid? = some session.sid → about session) :
    Ties about (Service.promptResponse account registry name id params) past fun _ _ => True := by
  refine ties_bind.mpr (findTree_touches.ties ?_)
  intro tree second _
  refine ties_bind.mpr (findUpdatedCall_ties habout ?_)
  intro session third _ hwalks
  refine ties_bind.mpr (findTurn_ties ?_)
  intro turn fourth hfourth hmet howned
  have hfound := hwalks.later hfourth
  refine ties_bind.mpr (receiveIfAny_ties hfound.concerns hmet howned ?_)
  intro received fifth hfifth hfacts
  refine walk_ties (some received) (hfound.later hfifth) ?_ ?_ fun _ _ _ => trivial
  · intro other hother
    obtain rfl := Option.some.inj hother
    exact ⟨(hmet.later hfifth).of_facts hfacts, (congrArg TurnFacts.session hfacts).trans howned⟩
  · exact fun scene step hstep => FlowScene.onInput_goes hstep

theorem timeout_ties
    (habout : ∀ session : Session, params.callSid? = some session.sid → about session) :
    Ties about (Service.timeout registry name id params) past fun _ _ => True := by
  refine ties_bind.mpr (findTree_touches.ties ?_)
  intro tree second _
  refine ties_bind.mpr (findUpdatedCall_ties habout ?_)
  intro session third _ hwalks
  refine ties_bind.mpr (findTurn_ties ?_)
  intro turn fourth hfourth hmet howned
  refine ties_bind_assoc.mpr (ties_outcome trivial ?_)
  intro answer recent _ _
  have hlater := hfourth.trans (List.suffix_cons
    (⟨.latestTurns session.id turn.handle tree.config.finalTimeoutAttempts, answer⟩ : Exchange) _)
  refine walk_ties (some turn) (hwalks.later hlater) ?_ ?_ fun _ _ _ => trivial
  · intro other hother
    obtain rfl := Option.some.inj hother
    exact ⟨hmet.later (List.suffix_cons _ fourth), howned⟩
  · exact fun scene step hstep => FlowScene.onTimeout_goes hstep

theorem receiveRecording_ties
    (habout : ∀ session : Session, params.callSid? = some session.sid → about session) :
    Ties about (Service.receiveRecording account id params) past fun _ _ => True := by
  refine ties_bind.mpr (findCall_ties habout ?_)
  intro session second _ hwalks
  refine ties_bind.mpr (findTurn_ties ?_)
  intro turn third hthird hmet howned
  exact receive_ties (hwalks.later hthird).concerns hmet howned fun _ _ _ _ => trivial

theorem transcribe_ties
    (habout : ∀ session : Session, params.callSid? = some session.sid → about session) :
    Ties about (Service.transcribe account id params) past fun _ _ => True := by
  refine ties_bind.mpr (findCall_ties habout ?_)
  intro session second _ hwalks
  refine ties_bind.mpr (findTurn_ties ?_)
  intro turn third hthird hmet howned
  have hfound := hwalks.later hthird
  refine ties_bind.mpr (receiveIfAny_ties hfound.concerns hmet howned ?_)
  intro received fourth hfourth hfacts
  simp only
  split
  · refine ties_bind_assoc.mpr (ties_outcome ?_ fun _ _ _ _ => trivial)
    have hsession : received.session = session.id :=
      (congrArg TurnFacts.session hfacts).trans howned
    refine ((hmet.later hfourth).of_facts hfacts).concernsTurn ?_
    rw [hsession]
    exact (hfound.later hfourth).concerns
  · exact trivial

theorem webhook_ties (entry : Webhook)
    (habout : ∀ session : Session, params.callSid? = some session.sid → about session) :
    Ties about (entry.action account registry params) past fun _ _ => True := by
  cases entry with
  | inbound tree => exact ties_bind.mpr ((inboundCall_ties habout).mono fun _ _ _ => trivial)
  | outbound tree => exact ties_bind.mpr ((outboundCall_ties habout).mono fun _ _ _ => trivial)
  | prompt tree turn => exact ties_bind.mpr ((prompt_ties habout).mono fun _ _ _ => trivial)
  | promptResponse tree turn =>
      exact ties_bind.mpr ((promptResponse_ties habout).mono fun _ _ _ => trivial)
  | timeout tree turn => exact ties_bind.mpr ((timeout_ties habout).mono fun _ _ _ => trivial)
  | receiveRecording turn =>
      exact ties_bind.mpr ((receiveRecording_ties habout).mono fun _ _ _ => trivial)
  | transcribe turn =>
      exact ties_bind.mpr ((transcribe_ties habout).mono fun _ _ _ => trivial)
  | status => exact ties_bind.mpr (findUpdatedCall_ties habout fun _ _ _ _ => trivial)

end Webhooks

section Outgoing

theorem startCall_ties {name recipient : String} {sender : Option String}
    {machineDetection : Bool} (habout : ∀ session, about session) :
    Ties about (startCall account registry name recipient sender machineDetection) past
      fun _ _ => True := by
  have hnumber := requireNumber_eq "to" recipient
  rw [startCall]
  generalize requireNumber "to" recipient = number at hnumber ⊢
  refine ties_bind.mpr (findTree_touches.ties ?_)
  intro tree second _
  rcases hnumber with ⟨called, rfl⟩ | ⟨error, rfl⟩
  · refine ties_bind.mpr ?_
    refine ties_bind.mpr (requireSender_touches.ties ?_)
    intro caller third _
    refine ties_bind.mpr (ties_ask trivial ?_)
    intro answer _
    refine ties_bind.mpr (touches_ofTransport.ties ?_)
    intro sid fourth _
    refine ties_bind.mpr (findOrCreateCaller_ties ?_)
    intro owner fifth _ howner
    refine ties_bind.mpr (ties_ask trivial ?_)
    intro id _
    refine ties_bind.mpr (ties_ask trivial ?_)
    intro time _
    refine ties_bind.mpr (Action.ensures_ofAnswer.mpr ?_)
    split
    · rename_i session hsession
      have hcreated := create_eq_ok hsession
      have hnew := @isNew_of_create session _ _ _ _ _ _ _ session.status hsession
      refine ties_bind_assoc.mpr (ties_outcome ?_ fun _ _ _ _ => trivial)
      refine ⟨habout session, ?_, hnew, owner, ?_, ?_⟩
      · rw [hcreated]
        rfl
      · exact howner.later ((List.suffix_cons _ fifth).trans (List.suffix_cons _ _))
      · rw [hcreated]
    · trivial
  · exact trivial

theorem sendMessages_ties {recipient : String} {sender : Option String} {bodies : List String} :
    Ties about (sendMessages account recipient sender bodies) past fun _ _ => True :=
  (sendMessages_touches (by decide) (by decide)).ties fun _ _ _ => trivial

end Outgoing

section Jobs

theorem findSession_ties {id : SessionId} {post : Session → List Exchange → Prop}
    (found : ∀ session past', past <:+ past' → Learned past' session → session.id = id →
      post session past') : Ties about (findSession id) past post := by
  refine ties_bind_assoc.mpr (ties_outcome trivial ?_)
  rintro answer (_ | session) htruthful hanswer
  · exact ties_throw
  · obtain rfl : answer = .ok (some session) := hanswer
    exact found session _ (List.suffix_cons _ past) (.first rfl) (htruthful session rfl)

theorem finishedCall_ties {id : SessionId} (habout : ∀ session, about session) :
    Ties about (finishedCall registry id) past fun _ _ => True := by
  refine ties_bind.mpr (findSession_ties ?_)
  intro session second _ hlearned _
  refine ties_bind.mpr (updateSession_ties rowChange_markFinished Session.markFinished_amends
    ⟨hlearned.derived, session, hlearned, habout session, rfl⟩ ?_)
  rintro changed (_ | _) third _ _ _
  · exact trivial
  · refine ties_bind.mpr (findTree_touches.ties ?_)
    intro tree fourth _
    exact (runCallback_touches (by decide)).ties fun _ _ _ => trivial

theorem unansweredCall_ties {id : SessionId} (habout : ∀ session, about session) :
    Ties about (unansweredCall registry id) past fun _ _ => True := by
  refine ties_bind.mpr (findSession_ties ?_)
  intro session second _ hlearned _
  simp only
  split
  · exact trivial
  · rename_i hinbound
    have houtbound : session.isOutbound = true := by simpa using hinbound
    refine ties_bind.mpr (updateSession_sends rowChange_markUnanswered
      ⟨hlearned.derived, session, hlearned, habout session, rfl⟩ ?_ ?_ ?_)
    · rintro base sent outcome past' hlater ⟨learned, hread, hamends⟩ hid hsent
      obtain ⟨rfl, -⟩ := Prod.mk.inj hsent
      have hrevises := rowChange_markUnanswered.revises base
      refine .inr ⟨⟨learned, hread, hrevises.trans hamends.revises⟩, session,
        hlearned.later hlater, ?_, houtbound⟩
      exact hid.symm.trans hrevises.id_eq.symm
    · exact fun _ _ _ _ _ _ _ => trivial
    · intro changed outcome third _ _ _
      refine ties_bind.mpr (findTree_touches.ties ?_)
      intro tree fourth _
      exact (runCallback_touches (by decide)).ties fun _ _ _ => trivial

theorem attachRecording_ties {id : RecordingId} (habout : ∀ session, about session) :
    Ties about (attachRecording id) past fun _ _ => True := by
  refine ties_bind_assoc.mpr (ties_outcome trivial ?_)
  rintro answer (_ | recording) _ hanswer
  · exact ties_throw
  · obtain rfl : answer = .ok (some recording) := hanswer
    simp only
    split
    · exact trivial
    · split
      · exact ties_throw
      · refine ties_bind.mpr (ties_ask trivial ?_)
        intro media _
        refine ties_bind.mpr (touches_ofTransport.ties ?_)
        intro audio second hsecond
        refine ties_bind.mpr (ties_ask trivial ?_)
        rintro (error | _) _
        · exact ties_throw
        · refine ties_outcome ⟨⟨recording, ?_, rfl⟩, fun session _ => habout session⟩
            fun _ _ _ _ => trivial
          have hmet : Met Exchange.recording? (⟨.recordingById id, .ok (some recording)⟩ :: past)
              recording := .first rfl
          exact hmet.later (((List.suffix_cons _ _).trans hsecond).trans (List.suffix_cons _ _))

theorem runJob_ties (work : Job) (habout : ∀ session, about session) :
    Ties about (runJob registry work) past fun _ _ => True := by
  cases work with
  | unansweredCall session => exact unansweredCall_ties habout
  | finishedCall session => exact finishedCall_ties habout
  | attachRecording recording => exact attachRecording_ties habout

end Jobs

end PhoneTree.Service

namespace PhoneTree

open Service

/-- The sessions that a command is about: a webhook is about the call that its request names. -/
def Command.IsAbout : Command → Session → Prop
  | webhook _ params, session => params.callSid? = some session.sid
  | _, _ => True

theorem Command.ties (account : Account) (registry : Registry) (command : Command) :
    Ties command.IsAbout (command.action account registry) [] fun _ _ => True := by
  cases command with
  | webhook entry params => exact webhook_ties entry fun _ hsid => hsid
  | startCall tree recipient sender machineDetection =>
      exact ties_bind.mpr ((startCall_ties fun _ => trivial).mono fun _ _ _ => trivial)
  | sendMessages recipient sender bodies =>
      exact ties_bind.mpr (sendMessages_ties.mono fun _ _ _ => trivial)
  | findCaller number =>
      exact ties_bind.mpr
        ((Action.Touches.ties (findOrCreateCaller_touches (by decide))) fun _ _ _ => trivial)
  | job work => exact ties_bind.mpr ((runJob_ties work fun _ => trivial).mono fun _ _ _ => trivial)

end PhoneTree

import PhoneTree.Proofs.Command
import PhoneTree.Proofs.SessionService

namespace PhoneTree.Service

open OpenWorld

variable {state : OpenWorld} {params : Params} {fails : CallError → OpenWorld → Prop}

theorem findTree_eq (registry : Registry) (name : String) :
    (∃ tree, findTree registry name = pure tree) ∨
      ∃ error, findTree registry name = throw error := by
  rw [findTree]
  split
  · exact .inl ⟨_, rfl⟩
  · exact .inr ⟨_, rfl⟩

theorem requireField_eq (params : Params) (field : String) :
    (∃ value, requireField params field = pure value) ∨
      ∃ error, requireField params field = throw error := by
  rw [requireField]
  split
  · exact .inl ⟨_, rfl⟩
  · exact .inr ⟨_, rfl⟩

theorem requireNumber_eq (field number : String) :
    (∃ canonical, requireNumber field number = pure canonical) ∨
      ∃ error, requireNumber field number = throw error := by
  rw [requireNumber]
  split
  · exact .inl ⟨_, rfl⟩
  · exact .inr ⟨_, rfl⟩

theorem requireSender_eq (account : Account) (sender : Option String) :
    (∃ number, requireSender account sender = pure number) ∨
      ∃ error, requireSender account sender = throw error := by
  cases sender with
  | some number => exact requireNumber_eq "from" number
  | none => exact .inl ⟨account.outgoingNumber, rfl⟩

theorem findOrCreateCaller_rule {raw : String} {post : Caller → OpenWorld → Prop}
    (h : state.Intact) (done : ∀ caller state', state.Adds state' [] → post caller state')
    (invalid : ∀ field message, fails (.validationFailed field message) state) :
    Action.Ensures OpenWorld.rules (findOrCreateCaller raw) state post fails := by
  rw [findOrCreateCaller]
  split
  · exact invalid _ _
  · generalize PhoneNumber.key raw = number
    rw [Action.ensures_bind, ensures_ask]
    rintro answer state' ⟨rfl, rfl⟩
    simp only [World.answer, Action.ensures_bind, Action.ensures_ofAnswer]
    split
    · exact done _ state (.refl h)
    · rw [Action.ensures_bind]
      refine freshId_rule h ?_
      intro id second hsecond _
      rw [Action.ensures_bind]
      refine now_rule hsecond.extension.intact ?_
      intro time third hthird
      have hnow := hsecond.trans hthird
      rw [Action.ensures_bind, ensures_ask]
      intro answer fourth hanswer
      have hfourth := Adds.of_answers hnow.extension.intact rfl hanswer
      obtain rfl | ⟨⟨failure, hkind, rfl⟩, htaken⟩ := answers_saveCaller hanswer
      · exact done _ fourth (hnow.trans hfourth)
      · simp only [hkind, if_true]
        rw [Action.ensures_bind, ensures_ask]
        rintro answer state' ⟨rfl, rfl⟩
        simp only [World.answer, Action.ensures_bind, Action.ensures_ofAnswer]
        split
        · exact done _ fourth (hnow.trans hfourth)
        · rename_i habsent
          rw [OpenWorld.store, habsent] at htaken
          cases htaken

section NewCalls

variable {id : SessionId} {createdAt : Timestamp} {sid treeName : String} {direction : Direction}
  {caller : CallerId} {details : CallDetails}

theorem create_eq_ok {session : Session}
    (h : Session.create id createdAt sid direction treeName caller details = .ok session) :
    session = { id, sid, direction, treeName, caller, details, createdAt } := by
  rw [Session.create] at h
  split at h
  · cases h
  · split at h
    · cases h
    · exact (Except.ok.inj h).symm

theorem create_eq_error {error : Failure}
    (h : Session.create id createdAt sid direction treeName caller details = .error error) :
    CallError.ofFailure error = .validationFailed "unknown" error.message := by
  rw [Session.create] at h
  split at h
  · rw [← Except.error.inj h]
    rfl
  · split at h
    · rw [← Except.error.inj h]
      rfl
    · cases h

theorem createSession_rule {post : Session → OpenWorld → Prop}
    (h : state.Intact) (hsid : ∀ call ∈ state.callFacts, call.sid ≠ sid)
    (done : ∀ session state', session.sid = sid → session.treeName = treeName →
      state.Meets state' [session.facts] → state'.Loads session → post session state')
    (invalid : ∀ field message state', state.Adds state' [] →
      fails (.validationFailed field message) state') :
    Action.Ensures OpenWorld.rules (createSession sid treeName params) state post fails := by
  rw [createSession, Action.ensures_bind]
  refine findOrCreateCaller_rule h ?_ fun _ _ => invalid _ _ _ (.refl h)
  intro caller second hsecond
  rw [Action.ensures_bind]
  refine freshId_rule hsecond.extension.intact ?_
  intro id third hthird hunused
  rw [Action.ensures_bind]
  refine now_rule hthird.extension.intact ?_
  intro time fourth hfourth
  have hnow := (hsecond.trans hthird).trans hfourth
  have hcalls : fourth.callFacts = state.callFacts := by
    rw [hnow.extension.calls, List.append_nil]
  rw [Action.ensures_bind, Action.ensures_ofAnswer]
  split
  · rename_i session hsession
    have hcreated := create_eq_ok hsession
    rw [Action.ensures_bind, ensures_ask]
    intro answer state' hanswer
    rcases answers_saveSession hanswer with ⟨_, rfl, rfl⟩ | ⟨⟨call, hcall, htaken⟩, _⟩
    · have hnew := hunused.extends hfourth.extension
      rw [hcreated]
      refine done _ _ rfl rfl ?_ (.addSession hnow.extension.intact hnew rfl)
      refine (Meets.of_adds hnow).trans (.addSession hnow.extension.intact hnew ?_ rfl)
      rw [hcalls]
      exact hsid
    · rw [hcalls] at hcall
      rw [hcreated] at htaken
      exact absurd htaken (hsid call hcall)
  · rename_i error herror
    rw [create_eq_error herror]
    exact invalid _ _ fourth hnow

end NewCalls

section Recordings

variable {account : Account} {session : Session} {turn : Turn} {post : Turn → OpenWorld → Prop}

theorem receive_rule (h : state.Intact) (hturn : turn.facts ∈ state.turnFacts)
    (done : ∀ received state', state.Adds state' [] → received.facts = turn.facts →
      post received state')
    (invalid : ∀ field message state', state.Adds state' [] →
      fails (.validationFailed field message) state') :
    Action.Ensures OpenWorld.rules (receive account session turn params) state post fails := by
  rw [receive, Action.ensures_bind]
  refine requireField_rule ?_ (invalid _ _ _ (.refl h))
  intro sid hsid
  rw [Action.ensures_bind, ensures_ask]
  rintro answer state' ⟨rfl, rfl⟩
  simp only [World.answer, Action.ensures_bind, Action.ensures_ofAnswer]
  split
  · exact done turn state (.refl h) rfl
  · rw [Action.ensures_bind]
    refine freshId_rule h ?_
    intro id second hsecond _
    rw [Action.ensures_bind]
    refine now_rule hsecond.extension.intact ?_
    intro time third hthird
    have hnow := hsecond.trans hthird
    rw [Recording.ofParams, hsid, Action.ensures_bind, Action.ensures_ofAnswer]
    simp only
    rw [Action.ensures_bind, ensures_ask]
    intro answer fourth hanswer
    have hfourth := Adds.of_answers hnow.extension.intact rfl hanswer
    obtain rfl | ⟨failure, hkind, rfl⟩ := answers_saveRecording hanswer
    · have hsaved := hnow.trans hfourth
      have hstored : turn.facts ∈ fourth.turnFacts := hsaved.extension.mem_turns hturn
      simp only
      refine Action.ensures_bind_assoc.mpr
        (attachToTurn_rule hsaved.extension.intact ⟨_, hstored, rfl⟩ ?_)
      intro fifth hfifth
      have hattached := hsaved.trans hfifth
      have hdone : ∀ later, state.Adds later [] →
          post (if turn.recording.isNone then turn.attach ⟨id⟩ else turn) later := by
        intro later hlater
        refine done _ later hlater ?_
        split <;> rfl
      split
      · refine Action.ensures_bind_assoc.mpr (schedule_rule hattached.extension.intact ?_)
        intro sixth hsixth _
        exact hdone sixth (hattached.trans hsixth)
      · exact hdone fifth hattached
    · simp only [hkind, if_true]
      exact done turn fourth (hnow.trans hfourth) rfl

theorem receiveIfAny_rule (h : state.Intact) (hturn : turn.facts ∈ state.turnFacts)
    (done : ∀ received state', state.Adds state' [] → received.facts = turn.facts →
      post received state')
    (invalid : ∀ field message state', state.Adds state' [] →
      fails (.validationFailed field message) state') :
    Action.Ensures OpenWorld.rules (receiveIfAny account session turn params) state post fails := by
  rw [receiveIfAny]
  split
  · exact receive_rule h hturn done invalid
  · exact done turn state (.refl h) rfl

end Recordings

end PhoneTree.Service

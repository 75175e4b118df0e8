import PhoneTree.Proofs.CommandTies

namespace PhoneTree

/-- An inbound call as it is delivered. -/
structure Delivery where
  tree : String
  params : Params

/-- What the service does with a delivery. -/
def Delivery.action (registry : Registry) (delivery : Delivery) :
    Action (Session × Service.Reply) :=
  Service.inboundCall registry delivery.tree delivery.params

/-- The error comes of something that is stored already: it is the failure to store it once more, or
says that it is not there. -/
def CallError.StemsFromDuplicate (error : CallError) : Prop :=
  (∃ failure : Failure, failure.kind = .duplicate ∧ error = .ofFailure failure) ∨
    ∃ call, error = .callNotFound call

/-- What a delivery may ask for after what it has asked before: it stores a turn under the identifier
that it has just been given, and reads again only a session that it has learned of. -/
def MayArrive (past : List Exchange) : Question → Prop
  | .saveTurn turn => unsaved past = some turn.id.uuid
  | .sessionById id => ∃ learned, Learned past learned ∧ learned.id = id
  | _ => True

/-- An answer that can be relied upon: nothing fails but what is stored already or was changed by
somebody else, and what was refused because it is stored is found from then on. -/
def Reliable (past : List Exchange) : Exchange → Prop
  | ⟨.saveSession _, .error failure⟩ | ⟨.saveCaller _, .error failure⟩ => failure.kind = .duplicate
  | ⟨.updateSession _, .error failure⟩ => failure.kind = .conflict
  | ⟨.updateSession session, .ok updated⟩ => updated = session.advance
  | ⟨.sessionById id, answer⟩ => ∃ session, answer = .ok (some session) ∧ session.id = id
  | ⟨.sessionBySid sid, .ok (some session)⟩ => session.sid = sid
  | ⟨.sessionBySid sid, .ok none⟩ =>
      ∀ session failure, (⟨.saveSession session, .error failure⟩ : Exchange) ∈ past →
        session.sid ≠ sid
  | ⟨.callerByNumber number, .ok none⟩ =>
      ∀ caller failure, (⟨.saveCaller caller, .error failure⟩ : Exchange) ∈ past →
        caller.number ≠ number
  | ⟨.sessionBySid _, .error _⟩ | ⟨.callerByNumber _, .error _⟩ | ⟨.saveTurn _, .error _⟩
  | ⟨.countCalls _ _ _, .error _⟩ | ⟨.callerTurns _ _, .error _⟩ | ⟨.schedule _ _, .error _⟩ => False
  | _ => True

/-- The rules of a delivery when its answers can be relied upon. -/
def arrival : Rules Question Question.Answer (List Exchange) where
  MayAsk := MayArrive
  Answers past question answer past' :=
    Reliable past ⟨question, answer⟩ ∧ past' = ⟨question, answer⟩ :: past

/-- A session is the one of a call that a program has learned of. -/
def Arrived (sid : String) (past : List Exchange) (session : Session) : Prop :=
  Concerns (fun learned => learned.sid = sid) past session.id

/-- The action goes by these rules, ends with a value only as `post` says and never fails because of
what is stored already. -/
def Arrives {α : Type} (action : Action α) (past : List Exchange)
    (post : α → List Exchange → Prop) : Prop :=
  Action.Ensures arrival action past post fun error _ => ¬error.StemsFromDuplicate

section Errors

theorem not_stems {error : CallError} (hinfrastructure : ∀ message, error ≠ .infrastructure message)
    (hcall : ∀ call, error ≠ .callNotFound call) : ¬error.StemsFromDuplicate := by
  rintro (⟨failure, hkind, heq⟩ | ⟨call, heq⟩)
  · rw [CallError.ofFailure, hkind] at heq
    exact hinfrastructure _ heq
  · exact hcall call heq

theorem text_ne_of_conflict {failure other : Failure} (h : failure.kind = .conflict)
    (hother : other.kind = .duplicate) : failure.text ≠ other.text := by
  intro heq
  have hchars := congrArg (fun text => text.toList[1]?) heq
  simp [Failure.text, h, hother, FailureKind.code, ToString.toString] at hchars

theorem not_stems_of_conflict {failure : Failure} (h : failure.kind = .conflict) :
    ¬(CallError.ofFailure failure).StemsFromDuplicate := by
  rintro (⟨other, hother, heq⟩ | ⟨call, heq⟩)
  · simp only [CallError.ofFailure, h, hother] at heq
    exact text_ne_of_conflict h hother (CallError.infrastructure.inj heq)
  · rw [CallError.ofFailure, h] at heq
    cases heq

end Errors

section Rules

variable {α β : Type} {past past' : List Exchange} {sid : String} {session : Session}
  {post : α → List Exchange → Prop}

theorem Arrived.later (h : Arrived sid past session) (hlater : past <:+ past') :
    Arrived sid past' session :=
  Concerns.later h hlater

theorem Arrived.of_id {other : Session} (h : Arrived sid past session) (hid : other.id = session.id) :
    Arrived sid past other := by
  rw [Arrived, hid]
  exact h

theorem Arrived.of_learned (h : Learned past session) (hsid : session.sid = sid) :
    Arrived sid past session :=
  ⟨session, h, hsid, rfl⟩

theorem Arrived.known (h : Arrived sid past session) :
    ∃ learned, Learned past learned ∧ learned.id = session.id := by
  obtain ⟨learned, hlearned, _, hid⟩ := h
  exact ⟨learned, hlearned, hid⟩

theorem arrives_bind {action : Action α} {rest : α → Action β} {post : β → List Exchange → Prop} :
    Arrives (action >>= rest) past post ↔
      Arrives action past fun value past' => Arrives (rest value) past' post :=
  Action.ensures_bind

theorem arrives_bind_assoc {γ : Type} {first : Action γ} {action : γ → Action α}
    {rest : α → Action β} {post : β → List Exchange → Prop} :
    Arrives (first >>= fun value => action value >>= rest) past post ↔
      Arrives (first >>= action) past fun value past' => Arrives (rest value) past' post :=
  Action.ensures_bind_assoc

theorem arrives_ask {question : Question} {post : question.Answer → List Exchange → Prop}
    (may : MayArrive past question)
    (done : ∀ answer, Reliable past ⟨question, answer⟩ → post answer (⟨question, answer⟩ :: past)) :
    Arrives (Action.ask question) past post := by
  refine ⟨may, ?_⟩
  rintro answer past' ⟨hreliable, rfl⟩
  exact done answer hreliable

theorem arrives_outcome {question : Question} {outcome : question.Answer → Except Failure α}
    (may : MayArrive past question)
    (works : ∀ answer failure, Reliable past ⟨question, answer⟩ → outcome answer ≠ .error failure)
    (done : ∀ answer value, Reliable past ⟨question, answer⟩ → outcome answer = .ok value →
      post value (⟨question, answer⟩ :: past)) :
    Arrives (Action.ask question >>= fun answer => Action.ofAnswer (outcome answer)) past post := by
  refine arrives_bind.mpr (arrives_ask may ?_)
  intro answer hreliable
  refine Action.ensures_ofAnswer.mpr ?_
  cases houtcome : outcome answer with
  | ok value => exact done answer value hreliable houtcome
  | error failure => exact absurd houtcome (works answer failure hreliable)

end Rules

namespace Service

open PhoneTree.Action

variable {registry : Registry} {params : Params} {past : List Exchange} {sid : String}
  {session : Session} {tree : Tree}

section Creating

theorem sessionBySid_arrives {post : Option Session → List Exchange → Prop}
    (found : ∀ session past', Arrived sid past' session → post (some session) past')
    (missing : Reliable past ⟨.sessionBySid sid, .ok none⟩ →
      post none (⟨.sessionBySid sid, .ok none⟩ :: past)) :
    Arrives (do ofAnswer (← ask (.sessionBySid sid))) past post := by
  refine arrives_outcome trivial ?_ ?_
  · rintro answer failure hreliable rfl
    exact hreliable
  · rintro answer (_ | session) hreliable hanswer
    · obtain rfl : answer = .ok none := hanswer
      exact missing hreliable
    · obtain rfl : answer = .ok (some session) := hanswer
      exact found session _ (.of_learned (.first rfl) hreliable)

theorem findOrCreateCaller_arrives {raw : String} {post : Caller → List Exchange → Prop}
    (done : ∀ caller past', post caller past') :
    Arrives (findOrCreateCaller raw) past post := by
  rw [findOrCreateCaller]
  split
  · exact not_stems (by simp) (by simp)
  · generalize PhoneNumber.key raw = number
    refine arrives_bind_assoc.mpr (arrives_outcome trivial ?_ ?_)
    · rintro answer failure hreliable rfl
      exact hreliable
    rintro answer (_ | caller) _ _
    · refine arrives_bind.mpr (arrives_ask trivial ?_)
      intro id _
      refine arrives_bind.mpr (arrives_ask trivial ?_)
      intro time _
      refine arrives_bind.mpr (arrives_ask trivial ?_)
      rintro (failure | _) hrefused
      · have hkind : failure.kind = .duplicate := hrefused
        simp only [hkind, if_true]
        -- the caller whom the store refused is the one who is found
        refine arrives_bind_assoc.mpr (arrives_outcome trivial ?_ ?_)
        · rintro answer failure hreliable rfl
          exact hreliable
        rintro answer (_ | caller) hreliable hanswer
        · obtain rfl : answer = .ok none := hanswer
          exact absurd rfl (hreliable _ failure List.mem_cons_self)
        · exact done caller _
      · exact done _ _
    · exact done caller _

/-- A call is stored as a new session, or somebody else has stored it and it is found. -/
theorem createSession_arrives {treeName : String} {post : Session → List Exchange → Prop}
    (done : ∀ session past', Arrived sid past' session → post session past') :
    Arrives (createSession sid treeName params) past post := by
  rw [createSession]
  refine arrives_bind.mpr (findOrCreateCaller_arrives ?_)
  intro caller second
  refine arrives_bind.mpr (arrives_ask trivial ?_)
  intro id _
  refine arrives_bind.mpr (arrives_ask trivial ?_)
  intro time _
  refine arrives_bind.mpr (ensures_ofAnswer.mpr ?_)
  split
  · rename_i session hsession
    have hsid : session.sid = sid := congrArg Session.sid (create_eq_ok hsession)
    refine arrives_bind.mpr (arrives_ask trivial ?_)
    rintro (failure | _) hrefused
    · have hkind : failure.kind = .duplicate := hrefused
      simp only [hkind, if_true]
      -- the store refused the session for one that is stored, and that one is found
      refine arrives_bind_assoc.mpr (sessionBySid_arrives done ?_)
      intro hreliable
      exact (hreliable _ failure List.mem_cons_self hsid).elim
    · exact done _ _ (.of_learned (.first rfl) hsid)
  · rename_i error herror
    rw [create_eq_error herror]
    exact not_stems (by simp) (by simp)

end Creating

section Updating

variable {α : Type} {change : Session → Session × Option α}

theorem updateSession_arrives {post : Session × Option α → List Exchange → Prop}
    (hchange : RowChange change) (harrived : Arrived sid past session)
    (done : ∀ changed outcome past', Arrived sid past' changed → post (changed, outcome) past') :
    Arrives (updateSession session change) past post := by
  have hsame : ∀ {base sent : Session} {outcome : Option α}, change base = (sent, outcome) →
      sent.id = base.id := by
    intro base sent outcome hsent
    have hrevises := hchange.revises base
    rw [hsent] at hrevises
    exact hrevises.id_eq
  refine @changeSession_loop α change session _ arrival past
    (fun base past' => past <:+ past' ∧ base.id = session.id) post _ _ ?_ ?_ ?_ ?_
    ⟨List.suffix_refl past, rfl⟩
  · rintro base changed past' ⟨hlater, hid⟩ hnone
    exact done changed none past' ((harrived.later hlater).of_id ((hsame hnone).trans hid))
  · exact fun _ _ _ _ _ _ => trivial
  · rintro base sent outcome past' updated _ ⟨hlater, hid⟩ hsome ⟨hreliable, rfl⟩
    obtain rfl : updated = sent.advance := hreliable
    refine done sent.advance (some outcome) _ ?_
    exact (harrived.later (hlater.trans (List.suffix_cons _ past'))).of_id ((hsame hsome).trans hid)
  · rintro base sent outcome past' failure _ ⟨hlater, hid⟩ hsome ⟨hreliable, rfl⟩
    refine ⟨not_stems_of_conflict hreliable, fun _ => ?_⟩
    have hlast := hlater.trans
      (List.suffix_cons (⟨.updateSession sent, .error failure⟩ : Exchange) past')
    refine arrives_outcome ?_ ?_ ?_
    · exact ((harrived.later hlast).of_id ((hsame hsome).trans hid)).known
    · rintro answer failure ⟨loaded, hloaded, _⟩ rfl
      cases hloaded
    · rintro answer value ⟨loaded, rfl, hloaded⟩ hvalue
      obtain rfl := Except.ok.inj hvalue
      refine ⟨hlast.trans (List.suffix_cons _ _), ?_⟩
      exact hloaded.trans ((hsame hsome).trans hid)

theorem leaveWork_arrives {jobs : List Job} {post : Session → List Exchange → Prop}
    (done : ∀ past', past <:+ past' → post session past') :
    Arrives (leaveWork session jobs) past post := by
  induction jobs generalizing past with
  | nil => exact done past (List.suffix_refl past)
  | cons job jobs ih =>
      refine arrives_bind_assoc.mpr (arrives_outcome trivial ?_ ?_)
      · rintro answer failure hreliable rfl
        exact hreliable
      · intro answer _ _ _
        refine ih ?_
        exact fun past' hlater => done past' ((List.suffix_cons _ past).trans hlater)

theorem applyUpdate_arrives {update : StatusUpdate} {post : Session → List Exchange → Prop}
    (harrived : Arrived sid past session)
    (done : ∀ updated past', Arrived sid past' updated → post updated past') :
    Arrives (applyUpdate session update) past post := by
  rw [applyUpdate_eq]
  split
  · exact done session past harrived
  · refine arrives_bind.mpr (updateSession_arrives (rowChange_takeOver update) harrived ?_)
    intro updated change second hupdated
    refine leaveWork_arrives ?_
    exact fun third hlater => done updated third (hupdated.later hlater)

end Updating

section Greeting

variable {step : FlowStep}

theorem loadHistory_arrives {post : History → List Exchange → Prop}
    (done : ∀ history past', past <:+ past' → post history past') :
    Arrives (loadHistory session) past post := by
  rw [loadHistory]
  refine arrives_bind_assoc.mpr (arrives_outcome trivial ?_ ?_)
  · rintro answer failure hreliable rfl
    exact hreliable
  intro inbound _ _ _
  refine arrives_bind_assoc.mpr (arrives_outcome trivial ?_ ?_)
  · rintro answer failure hreliable rfl
    exact hreliable
  intro outbound _ _ _
  refine arrives_bind_assoc.mpr (arrives_outcome trivial ?_ ?_)
  · rintro answer failure hreliable rfl
    exact hreliable
  intro turns _ _ _
  exact done _ _ (List.suffix_append [_, _, _] past)

theorem loadScene_arrives {post : FlowScene → List Exchange → Prop}
    (done : ∀ scene past', past <:+ past' → unsaved past' = some scene.freshTurn.uuid →
      post scene past') : Arrives (loadScene tree session) past post := by
  rw [loadScene]
  refine arrives_bind.mpr (loadHistory_arrives ?_)
  intro history second hsecond
  refine arrives_bind.mpr (arrives_ask trivial ?_)
  intro id _
  refine arrives_bind.mpr (arrives_ask trivial ?_)
  intro time _
  exact done _ _ ((hsecond.trans (List.suffix_cons _ _)).trans (List.suffix_cons _ _)) rfl

theorem keepStep_arrives {post : Session → List Exchange → Prop}
    (harrived : Arrived sid past session) (hupdated : step.updatedTurn = none)
    (hnext : ∀ turn, step.nextTurn = some turn → unsaved past = some turn.id.uuid)
    (done : ∀ kept past', Arrived sid past' kept → post kept past') :
    Arrives (keepStep session step) past post := by
  have hchange : keepTurnChange step = pure () := by
    rw [keepTurnChange, hupdated]
  rw [keepStep, hchange, pure_bind, keepNextTurn]
  cases hturn : step.nextTurn with
  | none =>
      rw [hupdated]
      exact done session past harrived
  | some turn =>
      rw [hupdated]
      refine arrives_bind.mpr (arrives_outcome (hnext turn hturn) ?_ ?_)
      · rintro answer failure hreliable rfl
        exact hreliable
      · intro answer _ _ _
        refine arrives_bind.mpr (updateSession_arrives (rowChange_recordTurns _)
          (harrived.later (List.suffix_cons _ past)) ?_)
        exact fun changed outcome past' => done changed past'

theorem greet_arrives {post : Session × Reply → List Exchange → Prop}
    (harrived : Arrived sid past session)
    (done : ∀ kept reply past', Arrived sid past' kept → post (kept, reply) past') :
    Arrives (greet tree session) past post := by
  rw [greet]
  generalize PhoneNumber.isValid session.details.fromNumber = numberValid
  refine arrives_bind.mpr (loadScene_arrives ?_)
  intro scene second hsecond hfresh
  refine arrives_bind.mpr (ensures_ofFlow.mpr ?_)
  split
  · rename_i step hstep
    have hgoes := FlowScene.onGreeting_goes hstep
    refine arrives_bind.mpr (keepStep_arrives (harrived.later hsecond) ?_ ?_ ?_)
    · rw [Option.eq_none_iff_forall_ne_some]
      intro updated hupdated
      obtain ⟨turn, hnone, _⟩ := hgoes.updates updated hupdated
      cases hnone
    · intro turn hturn
      obtain ⟨handle, -, rfl⟩ := hgoes.begins hturn
      exact hfresh
    · exact fun kept past' => done kept _ past'
  · exact not_stems (by simp) (by simp)

end Greeting

/-- A delivery comes to the session of its call, and nothing that is stored already makes it fail. -/
theorem inboundCall_arrives {name : String} :
    Arrives (inboundCall registry name params) past fun greeted past' =>
      ∀ sid, params.callSid? = some sid → Arrived sid past' greeted.1 := by
  rw [inboundCall]
  refine arrives_bind.mpr (findTree_rule ?_ fun _ => not_stems (by simp) (by simp))
  intro tree _
  refine arrives_bind.mpr (requireField_rule ?_ (not_stems (by simp) (by simp)))
  intro sid hsid
  have hdone : ∀ kept (reply : Reply) past', Arrived sid past' kept →
      ∀ other, params.callSid? = some other → Arrived other past' kept := by
    intro kept reply past' harrived other hother
    obtain rfl := Option.some.inj (hsid.symm.trans hother)
    exact harrived
  refine arrives_bind_assoc.mpr (sessionBySid_arrives ?_ ?_)
  · intro session second harrived
    change Arrives (applyUpdate session (.ofParams params) >>= greet tree) second _
    refine arrives_bind.mpr (applyUpdate_arrives harrived ?_)
    exact fun updated third hupdated => greet_arrives hupdated hdone
  · intro _
    change Arrives (createSession sid tree.name params >>= greet tree) _ _
    refine arrives_bind.mpr (createSession_arrives ?_)
    exact fun session third hcreated => greet_arrives hcreated hdone

end Service

end PhoneTree

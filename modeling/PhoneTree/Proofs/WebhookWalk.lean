import PhoneTree.Proofs.CommandFootprint
import PhoneTree.Proofs.Conduct
import PhoneTree.Proofs.SessionService

namespace PhoneTree.Service

open PhoneTree.Action

/-- The parts of webhooks that have to do with sessions keep a property of states, and the sessions
that they come to have a property of their own. The other parts of webhooks keep both. -/
structure Keeps {σ : Type} (rules : Rules Question Question.Answer σ) (kept : σ → Prop)
    (has : Session → σ → Prop) : Prop where
  still : ∀ {α : Type} {action : Action α} {state : σ}, action.Touches harmlessParts →
    kept state → Ensures rules action state
      (fun _ later => kept later ∧ ∀ session, has session state → has session later) fun _ => kept
  reads : ∀ (sid : String) {state : σ}, kept state → Ensures rules (ask (.sessionBySid sid)) state
    (fun answer later => kept later ∧ ∀ session, answer = .ok (some session) → has session later)
      fun _ => kept
  applies : ∀ {session : Session} {update : StatusUpdate} {state : σ}, kept state →
    has session state → Ensures rules (applyUpdate session update) state
      (fun updated later => kept later ∧ has updated later) fun _ => kept
  records : ∀ {session : Session} {turns : List Turn} {state : σ}, kept state →
    has session state → Ensures rules (updateSession session (recordTurns turns)) state
      (fun _ => kept) fun _ => kept

variable {registry : Registry} {account : Account} {params : Params} {session : Session}
  {tree : Tree} {name : String} {id : TurnId} {σ : Type}
  {rules : Rules Question Question.Answer σ} {kept : σ → Prop} {has : Session → σ → Prop}
  {state : σ}

section Parts

variable {α : Type}

theorem Keeps.passes {action : Action α} {post : α → σ → Prop} (keeps : Keeps rules kept has)
    (touches : action.Touches harmlessParts) (h : kept state)
    (done : ∀ value later, kept later → (∀ session, has session state → has session later) →
      post value later) : Ensures rules action state post fun _ => kept :=
  (keeps.still touches h).mono (fun value later hlater => done value later hlater.1 hlater.2)
    fun _ _ h => h

theorem findCall_keeps {post : Session → σ → Prop} (keeps : Keeps rules kept has) (h : kept state)
    (found : ∀ session later, kept later → has session later → post session later) :
    Ensures rules (findCall params) state post fun _ => kept := by
  refine ensures_bind.mpr (keeps.passes requireField_touches h ?_)
  intro sid second hsecond _
  refine ensures_bind.mpr ((keeps.reads sid hsecond).mono ?_ fun _ _ h => h)
  rintro (failure | _ | session) third ⟨hthird, hread⟩
  · exact hthird
  · exact hthird
  · exact found session third hthird (hread session rfl)

theorem findUpdatedCall_keeps {post : Session → σ → Prop} (keeps : Keeps rules kept has)
    (h : kept state)
    (found : ∀ session later, kept later → has session later → post session later) :
    Ensures rules (findUpdatedCall params) state post fun _ => kept := by
  refine ensures_bind.mpr (findCall_keeps keeps h ?_)
  intro session second hsecond hsession
  refine (keeps.applies hsecond hsession).mono ?_ fun _ _ h => h
  exact fun updated third hthird => found updated third hthird.1 hthird.2

theorem keepStep_keeps {step : FlowStep} (keeps : Keeps rules kept has) (h : kept state)
    (hsession : has session state) :
    Ensures rules (keepStep session step) state (fun _ => kept) fun _ => kept := by
  rw [keepStep]
  refine ensures_bind.mpr (keeps.passes (keepTurnChange_touches (by decide)) h ?_)
  intro _ second hsecond hfirst
  refine ensures_bind.mpr (keeps.passes (keepNextTurn_touches (by decide)) hsecond ?_)
  intro _ third hthird hnext
  split
  · exact hthird
  · exact ensures_bind.mpr (keeps.records hthird (hnext session (hfirst session hsession)))

theorem walk_keeps {take : FlowScene → Except FlowError FlowStep}
    {rest : FlowStep → Session → Action α} {post : α → σ → Prop} (keeps : Keeps rules kept has)
    (h : kept state) (hsession : has session state)
    (done : ∀ step session later, kept later →
      Ensures rules (rest step session) later post fun _ => kept) :
    Ensures rules (do
      let scene ← loadScene tree session
      let step ← ofFlow (take scene)
      let session ← keepStep session step
      rest step session) state post fun _ => kept := by
  refine ensures_bind.mpr (keeps.passes loadScene_touches h ?_)
  intro scene second hsecond hscene
  refine ensures_bind.mpr (keeps.passes touches_ofFlow hsecond ?_)
  intro step third hthird hstep
  have hkept : Ensures rules (keepStep session step) third (fun _ => kept) fun _ => kept :=
    keepStep_keeps keeps hthird (hstep session (hscene session hsession))
  exact ensures_bind.mpr (hkept.mono (done step) fun _ _ h => h)

theorem greet_keeps (keeps : Keeps rules kept has) (h : kept state) (hsession : has session state) :
    Ensures rules (greet tree session) state (fun _ => kept) fun _ => kept := by
  rw [greet]
  exact walk_keeps keeps h hsession fun _ _ _ hlater => hlater

end Parts

theorem inboundCall_keeps (keeps : Keeps rules kept has) (h : kept state)
    (begins : ∀ sid treeName later, params.callSid? = some sid →
      rules.Answers state (.sessionBySid sid) (.ok none) later → kept later →
        Ensures rules (createSession sid treeName params) later
          (fun session last => kept last ∧ has session last) fun _ => kept) :
    Ensures rules (inboundCall registry name params) state (fun _ => kept) fun _ => kept := by
  rw [inboundCall]
  refine ensures_bind.mpr (findTree_rule ?_ fun _ => h)
  intro tree _
  refine ensures_bind.mpr (requireField_rule ?_ h)
  intro sid hsid
  obtain ⟨mayAsk, hread⟩ := ensures_ask.mp (keeps.reads sid h)
  refine ensures_bind.mpr (ensures_ask.mpr ⟨mayAsk, ?_⟩)
  rintro (failure | _ | session) second answered
  · exact (hread _ _ answered).1
  · change Ensures rules (createSession sid tree.name params >>= greet tree) second _ _
    have hcreated := begins sid tree.name second hsid answered (hread _ _ answered).1
    refine ensures_bind.mpr (hcreated.mono ?_ fun _ _ h => h)
    exact fun session third hthird => greet_keeps keeps hthird.1 hthird.2
  · change Ensures rules (applyUpdate session (.ofParams params) >>= greet tree) second _ _
    obtain ⟨hsecond, hfound⟩ := hread _ _ answered
    refine ensures_bind.mpr ((keeps.applies hsecond (hfound session rfl)).mono ?_ fun _ _ h => h)
    exact fun updated third hthird => greet_keeps keeps hthird.1 hthird.2

theorem outboundCall_keeps (keeps : Keeps rules kept has) (h : kept state) :
    Ensures rules (outboundCall registry name params) state (fun _ => kept) fun _ => kept := by
  refine ensures_bind.mpr (findTree_rule ?_ fun _ => h)
  intro tree _
  refine ensures_bind.mpr (findUpdatedCall_keeps keeps h ?_)
  intro session second hsecond hsession
  exact ensures_bind.mpr (greet_keeps keeps hsecond hsession)

theorem prompt_keeps (keeps : Keeps rules kept has) (h : kept state) :
    Ensures rules (Service.prompt registry name id params) state (fun _ => kept)
      fun _ => kept := by
  refine ensures_bind.mpr (findTree_rule ?_ fun _ => h)
  intro tree _
  refine ensures_bind.mpr (findUpdatedCall_keeps keeps h ?_)
  intro session second hsecond _
  refine ensures_bind.mpr (keeps.passes findTurn_touches hsecond ?_)
  intro turn third hthird _
  refine ensures_bind.mpr (keeps.passes loadScene_touches hthird ?_)
  intro scene fourth hfourth _
  exact ensures_bind.mpr (keeps.passes touches_ofFlow hfourth fun _ _ hlater _ => hlater)

theorem promptResponse_keeps (keeps : Keeps rules kept has) (h : kept state) :
    Ensures rules (Service.promptResponse account registry name id params) state (fun _ => kept)
      fun _ => kept := by
  refine ensures_bind.mpr (findTree_rule ?_ fun _ => h)
  intro tree _
  refine ensures_bind.mpr (findUpdatedCall_keeps keeps h ?_)
  intro session second hsecond hsession
  refine ensures_bind.mpr (keeps.passes findTurn_touches hsecond ?_)
  intro turn third hthird hfound
  refine ensures_bind.mpr
    (keeps.passes (receiveIfAny_touches (by decide) (by decide) (by decide)) hthird ?_)
  intro received fourth hfourth hreceived
  exact walk_keeps keeps hfourth (hreceived session (hfound session hsession))
    fun _ _ _ hlater => hlater

theorem timeout_keeps (keeps : Keeps rules kept has) (h : kept state) :
    Ensures rules (Service.timeout registry name id params) state (fun _ => kept)
      fun _ => kept := by
  refine ensures_bind.mpr (findTree_rule ?_ fun _ => h)
  intro tree _
  refine ensures_bind.mpr (findUpdatedCall_keeps keeps h ?_)
  intro session second hsecond hsession
  refine ensures_bind.mpr (keeps.passes findTurn_touches hsecond ?_)
  intro turn third hthird hfound
  refine ensures_bind_assoc.mpr
    (keeps.passes (touches_bind (touches_read rfl) fun _ => touches_ofAnswer) hthird ?_)
  intro recent fourth hfourth hrecent
  exact walk_keeps keeps hfourth (hrecent session (hfound session hsession))
    fun _ _ _ hlater => hlater

theorem webhook_keeps (keeps : Keeps rules kept has) (entry : Webhook) (h : kept state)
    (begins : ∀ name sid treeName later, entry = .inbound name → params.callSid? = some sid →
      rules.Answers state (.sessionBySid sid) (.ok none) later → kept later →
        Ensures rules (createSession sid treeName params) later
          (fun session last => kept last ∧ has session last) fun _ => kept) :
    Ensures rules (entry.action account registry params) state (fun _ => kept) fun _ => kept := by
  cases entry with
  | inbound tree =>
      refine ensures_bind.mpr (inboundCall_keeps keeps h ?_)
      exact fun sid treeName later => begins tree sid treeName later rfl
  | outbound tree => exact ensures_bind.mpr (outboundCall_keeps keeps h)
  | prompt tree turn => exact ensures_bind.mpr (prompt_keeps keeps h)
  | promptResponse tree turn => exact ensures_bind.mpr (promptResponse_keeps keeps h)
  | timeout tree turn => exact ensures_bind.mpr (timeout_keeps keeps h)
  | receiveRecording turn =>
      exact ensures_bind.mpr (keeps.passes
        (receiveRecording_touches (by decide) (by decide) (by decide)) h fun _ _ hlater _ => hlater)
  | transcribe turn =>
      exact ensures_bind.mpr (keeps.passes
        (transcribe_touches (by decide) (by decide) (by decide)) h fun _ _ hlater _ => hlater)
  | status =>
      exact ensures_bind.mpr (findUpdatedCall_keeps keeps h fun _ _ hlater _ => hlater)

end PhoneTree.Service

import PhoneTree.Proofs.CallService

namespace PhoneTree

namespace Webhook

/-- A webhook takes a step through the tree that it names, for the call that its command is about
and the stored turn that it names. -/
structure Walks (registry : Registry) (state state' : OpenWorld) (entry : Webhook) (params : Params)
    (scene : FlowScene) (session : Session) (turn? : Option Turn)
    (result : Except FlowError FlowStep) : Prop where
  tree : entry.tree? = some scene.tree.name
  registered : registry.get? scene.tree.name = some scene.tree
  sid : params.callSid? = some session.sid
  stored : session.facts ∈ state'.callFacts
  own : session.facts ∈ state.callFacts ∨ session.treeName = scene.tree.name
  turn : turn?.map (·.id) = entry.turn?
  owned : ∀ turn, turn? = some turn → turn.facts ∈ state.turnFacts ∧ turn.session = session.id
  takes : scene.Takes session turn? result

/-- Why a webhook is refused. -/
inductive Refuses (registry : Registry) (state state' : OpenWorld) (entry : Webhook)
    (params : Params) : CallError → Prop
  | unknownTree {name : String} (named : entry.tree? = some name)
      (absent : registry.get? name = none) :
      Refuses registry state state' entry params (.treeNotFound name)
  | invalid {field message : String} :
      Refuses registry state state' entry params (.validationFailed field message)
  | unknownCall {sid : String} (about : params.callSid? = some sid)
      (absent : ∀ call ∈ state.callFacts, call.sid ≠ sid) :
      Refuses registry state state' entry params (.callNotFound sid)
  | unknownTurn {call : CallFacts} {id : TurnId} {text : String}
      (about : params.callSid? = some call.sid) (stored : call ∈ state.callFacts)
      (named : entry.turn? = some id)
      (absent : ∀ turn ∈ state.turnFacts, turn.id = id → turn.session ≠ call.id) :
      Refuses registry state state' entry params (.turnNotFound text)
  | disturbed {message : String} (due : state.store.conflicts ≠ 0) :
      Refuses registry state state' entry params (.infrastructure message)
  | broken {scene : FlowScene} {session : Session} {turn? : Option Turn} {error : FlowError}
      (walks : Walks registry state state' entry params scene session turn? (.error error)) :
      Refuses registry state state' entry params (.flow error)

/-- What comes of a webhook. -/
inductive Ends (registry : Registry) (state : OpenWorld) (entry : Webhook) (params : Params) :
    Except CallError Outcome → OpenWorld → Prop
  | walked {outcome : Outcome} {scene : FlowScene} {session : Session} {turn? : Option Turn}
      {step : FlowStep} {calls : List CallFacts} {state' : OpenWorld}
      (walks : Walks registry state state' entry params scene session turn? (.ok step))
      (extension : state.Extends state' calls (Service.begun step))
      (response : outcome.response? = some step.response) :
      Ends registry state entry params (.ok outcome) state'
  | quiet {outcome : Outcome} {state' : OpenWorld} (extension : state.Extends state' [] [])
      (silent : outcome.response? = none) :
      Ends registry state entry params (.ok outcome) state'
  | refused {error : CallError} {calls : List CallFacts} {turns : List TurnFacts}
      {state' : OpenWorld} (extension : state.Extends state' calls turns)
      (cause : Refuses registry state state' entry params error)
      (calm : state.store.conflicts = 0 → turns = []) :
      Ends registry state entry params (.error error) state'

end Webhook

namespace Service

open OpenWorld

variable {registry : Registry} {account : Account} {params : Params} {state : OpenWorld}

section Steps

variable {α : Type} {session : Session} {tree : Tree} {turn? : Option Turn}
  {take : FlowScene → Except FlowError FlowStep} {post : α → OpenWorld → Prop}
  {fails : CallError → OpenWorld → Prop}

theorem findUpdatedCall_rule {post : Session → OpenWorld → Prop} (h : state.Intact)
    (found : ∀ session state', params.callSid? = some session.sid → state.Meets state' [] →
      state'.Loads session → post session state')
    (invalid : ∀ field message, fails (.validationFailed field message) state)
    (missing : ∀ sid, params.callSid? = some sid → (∀ call ∈ state.callFacts, call.sid ≠ sid) →
      fails (.callNotFound sid) state)
    (disturbed : ∀ message state', state.Extends state' [] [] → state.store.conflicts ≠ 0 →
      fails (.infrastructure message) state') :
    Action.Ensures OpenWorld.rules (findUpdatedCall params) state post fails := by
  rw [findUpdatedCall, Action.ensures_bind]
  refine findCall_rule h ?_ invalid missing
  intro session hsid hloads
  refine applyUpdate_rule h hloads ?_ disturbed
  intro updated state' hmeets hupdated hfacts
  have hsame : updated.sid = session.sid := congrArg CallFacts.sid hfacts
  exact found updated state' (by rw [hsame]; exact hsid) hmeets hupdated

theorem walk_rule {rest : FlowStep → Session → Action α} (h : state.Intact)
    (hholds : state.Holds session)
    (htakes : ∀ scene : FlowScene, scene.tree = tree → scene.Takes session turn? (take scene))
    (hturn : ∀ turn, turn? = some turn → turn.facts ∈ state.turnFacts)
    (done : ∀ (scene : FlowScene) step kept state', scene.tree = tree → take scene = .ok step →
      state.Extends state' [] (begun step) →
        Action.Ensures OpenWorld.rules (rest step kept) state' post fails)
    (broken : ∀ (scene : FlowScene) error state', scene.tree = tree → take scene = .error error →
      state.Extends state' [] [] → fails (.flow error) state')
    (disturbed : ∀ turns message state', state.Extends state' [] turns →
      state.store.conflicts ≠ 0 → fails (.infrastructure message) state') :
    Action.Ensures OpenWorld.rules (do
      let scene ← loadScene tree session
      let step ← Action.ofFlow (take scene)
      let kept ← keepStep session step
      rest step kept) state post fails := by
  rw [Action.ensures_bind]
  refine loadScene_rule h ?_
  intro scene second htree hsecond hunused
  rw [Action.ensures_bind, Action.ensures_ofFlow]
  have htakes := htakes scene htree
  cases hresult : take scene with
  | error error => exact broken scene error second htree hresult hsecond.extension
  | ok step =>
      rw [hresult] at htakes
      have hgoes := htakes.goes
      simp only
      rw [Action.ensures_bind]
      refine keepStep_rule hsecond.extension.intact (hsecond.holds hholds) ?_ ?_ ?_ ?_
      · intro updated hupdated
        obtain ⟨turn, hsome, hfacts⟩ := hgoes.updates updated hupdated
        rw [hfacts]
        exact hsecond.extension.mem_turns (hturn turn hsome)
      · intro turn hnext
        obtain ⟨handle, _, rfl⟩ := hgoes.begins hnext
        exact ⟨hunused, rfl⟩
      · intro kept state' hextends _
        exact done scene step kept state' htree hresult (hsecond.extension.trans hextends)
      · intro message state' hextends hdue
        have hless := hsecond.extension.conflicts
        exact disturbed _ message state' (hsecond.extension.trans hextends) (by omega)

end Steps

section Handlers

variable {α : Type} {entry : Webhook} {post : α → OpenWorld → Prop} {middle : OpenWorld}
  {session : Session} {tree : Tree} {turn? : Option Turn} {calls : List CallFacts}
  {take : FlowScene → Except FlowError FlowStep}

theorem walk_ends {rest : FlowStep → Session → Action α} (hextends : state.Extends middle calls [])
    (hholds : middle.Holds session) (htree : entry.tree? = some tree.name)
    (hregistered : registry.get? tree.name = some tree)
    (hsid : params.callSid? = some session.sid)
    (hown : session.facts ∈ state.callFacts ∨ session.treeName = tree.name)
    (hturn : turn?.map (·.id) = entry.turn?)
    (howned : ∀ turn, turn? = some turn →
      turn.facts ∈ state.turnFacts ∧ turn.session = session.id)
    (htakes : ∀ scene : FlowScene, scene.tree = tree → scene.Takes session turn? (take scene))
    (done : ∀ step kept state', (∀ outcome : Outcome, outcome.response? = some step.response →
      entry.Ends registry state params (.ok outcome) state') →
        Action.Ensures OpenWorld.rules (rest step kept) state' post fun error state' =>
          entry.Ends registry state params (.error error) state') :
    Action.Ensures OpenWorld.rules (do
      let scene ← loadScene tree session
      let step ← Action.ofFlow (take scene)
      let kept ← keepStep session step
      rest step kept) middle post fun error state' =>
        entry.Ends registry state params (.error error) state' := by
  have hwalks : ∀ scene result turns state', scene.tree = tree → take scene = result →
      middle.Extends state' [] turns →
        entry.Walks registry state state' params scene session turn? result := by
    rintro scene result turns state' rfl rfl hlater
    exact ⟨htree, hregistered, hsid, hlater.mem_calls hholds.facts_mem, hown, hturn, howned,
      htakes scene rfl⟩
  refine walk_rule hextends.intact hholds htakes ?_ ?_ ?_ ?_
  · intro turn hsome
    exact hextends.mem_turns (howned turn hsome).1
  · intro scene step kept state' hscene hstep hlater
    refine done step kept state' ?_
    intro outcome hresponse
    exact .walked (hwalks scene _ _ state' hscene hstep hlater) (hextends.trans hlater) hresponse
  · intro scene error state' hscene herror hlater
    have hall := hextends.trans hlater
    exact .refused hall (.broken (hwalks scene _ _ state' hscene herror hlater)) fun _ => rfl
  · intro turns message state' hlater hdue
    have hless := hextends.conflicts
    have hstart : state.store.conflicts ≠ 0 := by omega
    exact .refused (hextends.trans hlater) (.disturbed hstart) fun hcalm => absurd hcalm hstart

theorem name_of_get? {name : String} (h : registry.get? name = some tree) : tree.name = name := by
  rw [Registry.get?] at h
  have hname := List.find?_some h
  exact eq_of_beq hname

variable {id : TurnId} {name : String}

theorem find_ends {rest : Tree → Session → Turn → Action α} (h : state.Intact)
    (hentry : entry.tree? = some name) (hid : entry.turn? = some id)
    (found : ∀ tree session turn middle, registry.get? name = some tree →
      params.callSid? = some session.sid → session.facts ∈ state.callFacts →
      state.Extends middle [] [] → middle.Holds session → turn.id = id →
      turn.facts ∈ state.turnFacts → turn.session = session.id →
        Action.Ensures OpenWorld.rules (rest tree session turn) middle post fun error state' =>
          entry.Ends registry state params (.error error) state') :
    Action.Ensures OpenWorld.rules (do
      let tree ← findTree registry name
      let session ← findUpdatedCall params
      let turn ← findTurn session id
      rest tree session turn) state post fun error state' =>
        entry.Ends registry state params (.error error) state' := by
  rw [Action.ensures_bind]
  refine findTree_rule ?_ fun habsent =>
    .refused (.refl h) (.unknownTree hentry habsent) fun _ => rfl
  intro tree hregistered
  rw [Action.ensures_bind]
  refine findUpdatedCall_rule h ?_ (fun _ _ => .refused (.refl h) .invalid fun _ => rfl)
    (fun sid hsid habsent => .refused (.refl h) (.unknownCall hsid habsent) fun _ => rfl)
    (fun message state' hextends hdue =>
      .refused hextends (.disturbed hdue) fun hcalm => absurd hcalm hdue)
  intro session middle hsid ⟨hextends, _⟩ ⟨hholds, _⟩
  have hcalls : middle.callFacts = state.callFacts := by
    rw [hextends.calls, List.append_nil]
  have hturns : middle.turnFacts = state.turnFacts := by
    rw [hextends.turns, List.append_nil]
  have hstored : session.facts ∈ state.callFacts := hcalls ▸ hholds.facts_mem
  rw [Action.ensures_bind]
  refine findTurn_rule ?_ ?_
  · intro turn hsame howned hmem
    rw [hturns] at hmem
    exact found tree session turn middle hregistered hsid hstored hextends hholds hsame hmem howned
  · intro text habsent
    have hforeign := habsent hextends.intact
    rw [hturns] at hforeign
    refine .refused hextends (.unknownTurn hsid hstored hid ?_) fun _ => rfl
    exact hforeign

theorem greet_ends {post : Session × Reply → OpenWorld → Prop}
    (hextends : state.Extends middle calls []) (hholds : middle.Holds session)
    (htree : entry.tree? = some tree.name) (hregistered : registry.get? tree.name = some tree)
    (hsid : params.callSid? = some session.sid)
    (hown : session.facts ∈ state.callFacts ∨ session.treeName = tree.name)
    (hturn : entry.turn? = none)
    (done : ∀ (kept : Session) (reply : Reply) state',
      (∀ outcome : Outcome, outcome.response? = some reply.response →
        entry.Ends registry state params (.ok outcome) state') → post (kept, reply) state') :
    Action.Ensures OpenWorld.rules (greet tree session) middle post fun error state' =>
        entry.Ends registry state params (.error error) state' := by
  have hnone : (none : Option Turn).map (·.id) = entry.turn? := hturn.symm
  rw [greet]
  refine walk_ends hextends hholds htree hregistered hsid hown hnone
    (fun _ hsome => by cases hsome) ?_ ?_
  · rintro scene rfl
    exact .greeting _
  · intro step kept state' hends
    exact done kept ⟨step.response, step.outcome⟩ state' hends

/-- The action of a webhook ends as webhooks do. -/
def Concludes (account : Account) (registry : Registry) (state : OpenWorld) (params : Params)
    (entry : Webhook) : Prop :=
  Action.Ensures OpenWorld.rules (entry.action account registry params) state
    (fun outcome state' => entry.Ends registry state params (.ok outcome) state')
    fun error state' => entry.Ends registry state params (.error error) state'

theorem outbound_concludes (h : state.Intact) :
    Concludes account registry state params (.outbound name) := by
  rw [Concludes, Webhook.action, outboundCall, Action.ensures_bind, Action.ensures_bind]
  refine findTree_rule ?_ fun habsent =>
    .refused (.refl h) (.unknownTree rfl habsent) fun _ => rfl
  intro tree hregistered
  obtain rfl := name_of_get? hregistered
  rw [Action.ensures_bind]
  refine findUpdatedCall_rule h ?_ (fun _ _ => .refused (.refl h) .invalid fun _ => rfl)
    (fun sid hsid habsent => .refused (.refl h) (.unknownCall hsid habsent) fun _ => rfl)
    (fun message state' hextends hdue =>
      .refused hextends (.disturbed hdue) fun hcalm => absurd hcalm hdue)
  intro session middle hsid ⟨hextends, _⟩ ⟨hholds, _⟩
  have hstored := hholds.facts_mem
  rw [hextends.calls, List.append_nil] at hstored
  rw [Action.ensures_bind]
  refine greet_ends hextends hholds rfl hregistered hsid (.inl hstored) rfl ?_
  intro kept reply state' hends
  exact hends (.replied reply) rfl

theorem prompt_concludes (h : state.Intact) :
    Concludes account registry state params (.prompt name id) := by
  rw [Concludes, Webhook.action, Service.prompt, Action.ensures_bind]
  refine find_ends h rfl rfl ?_
  rintro tree session turn middle hregistered hsid hstored hextends hholds rfl hturn howned
  obtain rfl := name_of_get? hregistered
  rw [Action.ensures_bind]
  refine loadScene_rule hextends.intact ?_
  rintro scene state' rfl hadds _
  have hall := hextends.trans hadds.extension
  have hwalks : ∀ result, scene.onPrompt session turn = result →
      (Webhook.prompt scene.tree.name turn.id).Walks registry state state' params scene session
        (some turn) result := by
    rintro result rfl
    refine ⟨rfl, hregistered, hsid, hall.mem_calls hstored, .inl hstored, rfl, ?_, .prompt turn⟩
    rintro _ ⟨rfl⟩
    exact ⟨hturn, howned⟩
  rw [Action.ensures_bind, Action.ensures_ofFlow]
  cases hresult : scene.onPrompt session turn with
  | error error => exact .refused hall (.broken (hwalks _ hresult)) fun _ => rfl
  | ok step =>
      have hnone : begun step = [] := by
        rw [begun, FlowScene.onPrompt_nextTurn hresult]
        rfl
      have hkept : state.Extends state' [] (begun step) := by
        rw [hnone]
        exact hall
      exact .walked (hwalks _ hresult) hkept rfl

theorem promptResponse_concludes (h : state.Intact) :
    Concludes account registry state params (.promptResponse name id) := by
  rw [Concludes, Webhook.action, Service.promptResponse, Action.ensures_bind]
  refine find_ends h rfl rfl ?_
  rintro tree session turn middle hregistered hsid hstored hextends hholds rfl hturn howned
  obtain rfl := name_of_get? hregistered
  rw [Action.ensures_bind]
  refine receiveIfAny_rule hextends.intact (hextends.mem_turns hturn) ?_ ?_
  · intro received later hadds hsame
    have hid : received.id = turn.id := congrArg TurnFacts.id hsame
    have hsession : received.session = turn.session := congrArg TurnFacts.session hsame
    have hnamed : (some received).map (·.id) = (Webhook.promptResponse tree.name turn.id).turn? :=
      congrArg some hid
    refine walk_ends (hextends.trans hadds.extension) (hadds.holds hholds) rfl hregistered hsid
      (.inl hstored) hnamed ?_ ?_ ?_
    · rintro _ ⟨rfl⟩
      exact ⟨hsame ▸ hturn, hsession.trans howned⟩
    · rintro scene rfl
      exact .input received _
    · intro step kept state' hends
      exact hends _ rfl
  · intro field message state' hadds
    exact .refused (hextends.trans hadds.extension) .invalid fun _ => rfl

theorem timeout_concludes (h : state.Intact) :
    Concludes account registry state params (.timeout name id) := by
  rw [Concludes, Webhook.action, Service.timeout, Action.ensures_bind]
  refine find_ends h rfl rfl ?_
  rintro tree session turn middle hregistered hsid hstored hextends hholds rfl hturn howned
  obtain rfl := name_of_get? hregistered
  rw [Action.ensures_bind, ensures_ask]
  rintro answer state' ⟨rfl, rfl⟩
  rw [Action.ensures_bind, World.answer, Action.ensures_ofAnswer]
  have hnamed : (some turn).map (·.id) = (Webhook.timeout tree.name turn.id).turn? := rfl
  refine walk_ends hextends hholds rfl hregistered hsid (.inl hstored) hnamed ?_ ?_ ?_
  · rintro _ ⟨rfl⟩
    exact ⟨hturn, howned⟩
  · rintro scene rfl
    exact .timeout turn _
  · intro step kept state' hends
    exact hends _ rfl

theorem status_concludes (h : state.Intact) :
    Concludes account registry state params .status := by
  rw [Concludes, Webhook.action, updateCall, Action.ensures_bind]
  refine findUpdatedCall_rule h ?_ (fun _ _ => .refused (.refl h) .invalid fun _ => rfl)
    (fun sid hsid habsent => .refused (.refl h) (.unknownCall hsid habsent) fun _ => rfl)
    (fun message state' hextends hdue =>
      .refused hextends (.disturbed hdue) fun hcalm => absurd hcalm hdue)
  intro session state' _ hmeets _
  exact .quiet hmeets.extension rfl

theorem findOwn_ends {rest : Session → Turn → Action α} (h : state.Intact)
    (hid : entry.turn? = some id)
    (found : ∀ session turn, turn.facts ∈ state.turnFacts →
      Action.Ensures OpenWorld.rules (rest session turn) state post fun error state' =>
        entry.Ends registry state params (.error error) state') :
    Action.Ensures OpenWorld.rules (do
      let session ← findCall params
      let turn ← findTurn session id
      rest session turn) state post fun error state' =>
        entry.Ends registry state params (.error error) state' := by
  rw [Action.ensures_bind]
  refine findCall_rule h ?_ (fun _ _ => .refused (.refl h) .invalid fun _ => rfl)
    (fun sid hsid habsent => .refused (.refl h) (.unknownCall hsid habsent) fun _ => rfl)
  intro session hsid ⟨hholds, _⟩
  rw [Action.ensures_bind]
  refine findTurn_rule ?_ ?_
  · intro turn _ _ hmem
    exact found session turn hmem
  · intro text habsent
    exact .refused (.refl h) (.unknownTurn hsid hholds.facts_mem hid (habsent h)) fun _ => rfl

theorem receiveRecording_concludes (h : state.Intact) :
    Concludes account registry state params (.receiveRecording id) := by
  rw [Concludes, Webhook.action, Service.receiveRecording, Action.ensures_bind]
  refine findOwn_ends h rfl ?_
  intro session turn hturn
  refine receive_rule h hturn ?_ ?_
  · intro received state' hadds _
    exact .quiet hadds.extension rfl
  · intro field message state' hadds
    exact .refused hadds.extension .invalid fun _ => rfl

theorem transcribe_concludes (h : state.Intact) :
    Concludes account registry state params (.transcribe id) := by
  rw [Concludes, Webhook.action, Service.transcribe, Action.ensures_bind]
  refine findOwn_ends h rfl ?_
  intro session turn hturn
  rw [Action.ensures_bind]
  refine receiveIfAny_rule h hturn ?_ ?_
  · intro received middle hadds hsame
    have hstored : received.facts ∈ middle.turnFacts := hadds.extension.mem_turns (hsame ▸ hturn)
    simp only
    split
    · refine Action.ensures_bind_assoc.mpr
        (recordInput_rule hadds.extension.intact ⟨_, hstored, rfl⟩ ?_)
      intro state' hlater
      exact .quiet (hadds.trans hlater).extension rfl
    · exact .quiet hadds.extension rfl
  · intro field message state' hadds
    exact .refused hadds.extension .invalid fun _ => rfl

theorem inbound_concludes (h : state.Intact) :
    Concludes account registry state params (.inbound name) := by
  rw [Concludes, Webhook.action, inboundCall, Action.ensures_bind, Action.ensures_bind]
  refine findTree_rule ?_ fun habsent =>
    .refused (.refl h) (.unknownTree rfl habsent) fun _ => rfl
  intro tree hregistered
  obtain rfl := name_of_get? hregistered
  rw [Action.ensures_bind]
  refine requireField_rule ?_ (.refused (.refl h) .invalid fun _ => rfl)
  intro sid hsid
  rw [Action.ensures_bind, ensures_ask]
  rintro answer state' ⟨rfl, rfl⟩
  rw [Action.ensures_bind, World.answer, Action.ensures_ofAnswer]
  simp only
  split
  · rename_i session hfound
    obtain ⟨hloads, rfl⟩ := loads_of_sessionBySid h hfound
    rw [Action.ensures_bind]
    refine applyUpdate_rule h hloads ?_ (fun message state' hextends hdue =>
      .refused hextends (.disturbed hdue) fun hcalm => absurd hcalm hdue)
    intro updated middle hmeets hupdated hfacts
    have hsame : updated.sid = session.sid := congrArg CallFacts.sid hfacts
    refine greet_ends hmeets.extension hupdated.holds rfl hregistered (hsame ▸ hsid)
      (.inl (hfacts ▸ hloads.holds.facts_mem)) rfl ?_
    intro kept reply state' hends
    exact hends (.greeted kept reply) rfl
  · rename_i habsent
    rw [Action.ensures_bind]
    refine createSession_rule h (sid_ne_of_sessionBySid habsent) ?_ ?_
    · rintro session middle rfl htree hmeets hloads
      refine greet_ends hmeets.extension hloads.holds rfl hregistered hsid (.inr htree) rfl ?_
      intro kept reply state' hends
      exact hends (.greeted kept reply) rfl
    · intro field message state' hadds
      exact .refused hadds.extension .invalid fun _ => rfl

/-- Every webhook that is answered on its own in an intact store ends as webhooks do. -/
theorem concludes (h : state.Intact) (entry : Webhook) :
    Concludes account registry state params entry := by
  cases entry with
  | inbound tree => exact inbound_concludes h
  | outbound tree => exact outbound_concludes h
  | prompt tree turn => exact prompt_concludes h
  | promptResponse tree turn => exact promptResponse_concludes h
  | timeout tree turn => exact timeout_concludes h
  | receiveRecording turn => exact receiveRecording_concludes h
  | transcribe turn => exact transcribe_concludes h
  | status => exact status_concludes h

end Handlers

end Service

theorem Webhook.ends_of_runs {account : Service.Account} {registry : Registry} {params : Params}
    {entry : Webhook} {state state' : OpenWorld} {result : Except CallError Outcome}
    (h : state.Intact)
    (run : Action.Runs OpenWorld.rules (entry.action account registry params) state result state') :
    entry.Ends registry state params result state' := by
  have hend := Dialogue.Ensures.of_runs (Service.concludes h entry) run
  cases result <;> exact hend

end PhoneTree

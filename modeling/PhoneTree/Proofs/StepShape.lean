import PhoneTree.Proofs.TurnConduct

namespace PhoneTree

/-- A verb that collects an answer and sends it to a path. -/
structure Verb.Asks (verb : Verb) (kind : VerbKind) (path : String) (inside : List Verb) :
    Prop where
  kind : verb.kind = kind
  action : verb.attribute? "action" = some path
  text : verb.text = none
  inside : verb.children = inside

namespace FlowScene

/-- What a prompt that says something is answered with, by how it collects the answer. A key may
interrupt what is said only where the keys are collected around it. -/
inductive Plays (tree : String) (turn : TurnId) (said : List Verb) : Option Gather → List Verb → Prop
  | unasked : Plays tree turn said none
      (said ++ [⟨.redirect, [], some (Webhook.promptResponse tree turn).path, []⟩])
  | keys {spec : DigitsGather} {gather : Verb} (waits : spec.interrupt = false)
      (asks : gather.Asks .gather (Webhook.promptResponse tree turn).path [])
      (input : gather.attribute? "input" = some "dtmf") :
      Plays tree turn said (some (.digits spec))
        (said ++ [gather, ⟨.redirect, [], some (Webhook.timeout tree turn).path, []⟩])
  | interruptingKeys {spec : DigitsGather} {gather : Verb} (interrupts : spec.interrupt = true)
      (asks : gather.Asks .gather (Webhook.promptResponse tree turn).path said)
      (input : gather.attribute? "input" = some "dtmf") :
      Plays tree turn said (some (.digits spec))
        [gather, ⟨.redirect, [], some (Webhook.timeout tree turn).path, []⟩]
  | voice {spec : VoiceGather} {record : Verb}
      (asks : record.Asks .record (Webhook.promptResponse tree turn).path []) :
      Plays tree turn said (some (.voice spec)) (said ++ [record])
  | speech {spec : SpeechGather} {gather : Verb}
      (asks : gather.Asks .gather (Webhook.promptResponse tree turn).path [])
      (input : gather.attribute? "input" = some "speech") :
      Plays tree turn said (some (.speech spec)) (said ++ [gather])

/-- The transition with which a step leaves where the call stands: that of the greeting, or that of
the prompt of a turn, which sees the turn as the step leaves it. -/
inductive Leaves (scene : FlowScene) (session : Session) :
    Option Turn → Option Turn → FlowContext → Transition → Prop
  | greeting {transition : Transition}
      (resolves : scene.tree.greeting.resolve (scene.context session none) = .ok transition) :
      Leaves scene session none none (scene.context session none) transition
  | prompt {turn updated : Turn} {prompt : Prompt} {transition : Transition}
      (same : updated.facts = turn.facts) (stands : scene.tree.prompt? turn.handle = some prompt)
      (resolves : prompt.after.resolve (scene.context (session.recordTurn updated) (some updated)) =
        .ok transition) :
      Leaves scene session (some turn) (some updated)
        (scene.context (session.recordTurn updated) (some updated)) transition

/-- What the caller hears of a step, and how it ends, for each of its outcomes. -/
inductive Shape (scene : FlowScene) (session : Session) (turn? : Option Turn) (step : FlowStep)
    (said : List Verb) : Prop
  | hangup {context : FlowContext} {transition : Transition} (outcome : step.outcome = .hangup)
      (leaves : scene.Leaves session turn? step.updatedTurn context transition)
      (target : transition.target = .hangup)
      (rendered : scene.render context transition.messages = .ok said)
      (response : step.response = ⟨said ++ [⟨.hangup, [], none, []⟩]⟩)
  | redirect {context : FlowContext} {transition : Transition} {next : Turn}
      (outcome : step.outcome = .redirect)
      (leaves : scene.Leaves session turn? step.updatedTurn context transition)
      (target : transition.target = .prompt next.handle) (known : scene.Knows next.handle)
      (begins : step.nextTurn = some next)
      (rendered : scene.render context transition.messages = .ok said)
      (response : step.response =
        ⟨said ++ [⟨.redirect, [], some (Webhook.prompt scene.tree.name next.id).path, []⟩]⟩)
  | invalidPhoneNumber {messages : MessageSet} (outcome : step.outcome = .invalidPhoneNumber)
      (greets : turn? = none) (words : scene.tree.config.invalidPhoneNumber = some messages)
      (rendered : scene.render (scene.context session none) messages = .ok said)
      (response : step.response = ⟨said ++ [⟨.hangup, [], none, []⟩]⟩)
  | answeringMachine (outcome : step.outcome = .answeringMachine)
      (machine : session.isAnsweringMachine = true) (about : turn?.isSome = true)
      (silent : said = []) (response : step.response = ⟨[⟨.hangup, [], none, []⟩]⟩)
  | finalTimeout {turn updated : Turn} (outcome : step.outcome = .finalTimeout)
      (about : turn? = some turn) (updates : step.updatedTurn = some updated)
      (same : updated.facts = turn.facts)
      (rendered : scene.render (scene.context (session.recordTurn updated) (some updated))
        scene.tree.config.finalTimeoutMessage = .ok said)
      (response : step.response = ⟨said ++ [⟨.hangup, [], none, []⟩]⟩)
  | prompt {turn : Turn} {prompt : Prompt} (outcome : step.outcome = .prompt)
      (about : turn? = some turn) (stands : scene.tree.prompt? turn.handle = some prompt)
      (rendered : scene.render (scene.context session (some turn)) prompt.messages = .ok said)
      (response : Plays scene.tree.name turn.id said prompt.gather step.response.verbs)

/-- A step lets the caller hear messages, ends as its outcome says, and begins a turn just if it
sends the call on. -/
structure IsWellShaped (scene : FlowScene) (session : Session) (turn? : Option Turn)
    (step : FlowStep) : Prop where
  shape : ∃ said, (∀ verb ∈ said, verb.IsHeard) ∧ scene.Shape session turn? step said
  begins : step.nextTurn.isSome = true ↔ step.outcome = .redirect
  next : ∀ next, step.nextTurn = some next → next.IsBlank ∧ next.session = session.id
  machine : step.outcome = .answeringMachine → step.updatedTurn = none ∧ step.turnChange = none

variable {scene : FlowScene} {session : Session} {turn updated : Turn} {step : FlowStep}

theorem machineStep_isWellShaped (machine : session.isAnsweringMachine = true) :
    scene.IsWellShaped session (some turn) machineStep where
  shape := ⟨[], List.forall_mem_nil _, .answeringMachine rfl machine rfl rfl rfl⟩
  begins := by simp [machineStep]
  next := by rintro next ⟨⟩
  machine _ := ⟨rfl, rfl⟩

theorem Shape.isWellShaped {turn? : Option Turn} {said : List Verb}
    (shape : scene.Shape session turn? step said) (heard : ∀ verb ∈ said, verb.IsHeard)
    (ends : step.nextTurn = none) (stays : step.outcome ≠ .redirect)
    (person : step.outcome ≠ .answeringMachine) : scene.IsWellShaped session turn? step where
  shape := ⟨said, heard, shape⟩
  begins := by
    rw [ends]
    exact iff_of_false Bool.false_ne_true stays
  next := by
    rw [ends]
    intro next hnext
    cases hnext
  machine houtcome := absurd houtcome person

theorem follow_isWellShaped {turn? updated? : Option Turn} {view : Session} {context : FlowContext}
    {transition : Transition} {change : Option TurnChange} (hview : view.id = session.id)
    (leaves : scene.Leaves session turn? updated? context transition)
    (h : scene.follow view context transition = .ok step) :
    scene.IsWellShaped session turn?
      { step with updatedTurn := updated?, turnChange := change } := by
  obtain ⟨said, hsaid, hend⟩ := follow_eq_ok.mp h
  have hheard := renderEntries_heard _ hsaid
  rcases hend with ⟨htarget, rfl⟩ | ⟨handle, htarget, hknown, rfl⟩
  · exact Shape.isWellShaped (.hangup rfl leaves htarget hsaid rfl) hheard rfl (by rintro ⟨⟩)
      (by rintro ⟨⟩)
  · refine ⟨⟨said, hheard, .redirect rfl leaves htarget hknown rfl hsaid rfl⟩,
      iff_of_true rfl rfl, ?_, by rintro ⟨⟩⟩
    intro next hnext
    obtain rfl := Option.some.inj hnext
    exact ⟨rfl, hview⟩

theorem leavePrompt_isWellShaped {change : Option TurnChange} (same : updated.facts = turn.facts)
    (h : scene.leavePrompt session updated change = .ok step) :
    scene.IsWellShaped session (some turn) step := by
  obtain ⟨prompt, transition, followed, hprompt, hresolve, hfollow, rfl⟩ := leavePrompt_eq_ok.mp h
  have hhandle : updated.handle = turn.handle := congrArg TurnFacts.handle same
  rw [hhandle] at hprompt
  exact follow_isWellShaped (recordTurn_id session updated) (.prompt same hprompt hresolve) hfollow

theorem onGreeting_isWellShaped {numberValid : Bool}
    (h : scene.onGreeting session numberValid = .ok step) :
    scene.IsWellShaped session none step := by
  simp only [onGreeting] at h
  split at h
  · rename_i messages hwords
    obtain ⟨said, hsaid, hstep⟩ := bind_eq_ok.mp h
    obtain rfl := Except.ok.inj hstep
    exact Shape.isWellShaped (.invalidPhoneNumber rfl rfl hwords hsaid rfl)
      (renderEntries_heard _ hsaid) rfl (by rintro ⟨⟩) (by rintro ⟨⟩)
  · obtain ⟨transition, hresolve, hfollow⟩ := followRule_eq_ok.mp h
    have hupdated := (follow_leads none rfl hfollow).2
    obtain ⟨response, outcome, updated?, change, next?⟩ := step
    obtain rfl : updated? = none := hupdated
    exact follow_isWellShaped rfl (.greeting hresolve) hfollow

theorem collect_plays (tree : String) (turn : TurnId) (said : List Verb) (gather : Option Gather) :
    Plays tree turn said gather
      ((if gather.any Gather.interrupts then [] else said) ++
        collect tree turn (if gather.any Gather.interrupts then said else []) gather) := by
  rcases gather with _ | spec | spec | spec
  · exact .unasked
  · cases hinterrupt : spec.interrupt with
    | false =>
        simp only [Option.any_some, Gather.interrupts, hinterrupt]
        exact .keys hinterrupt ⟨rfl, rfl, rfl, rfl⟩ rfl
    | true =>
        simp only [Option.any_some, Gather.interrupts, hinterrupt]
        exact .interruptingKeys hinterrupt ⟨rfl, rfl, rfl, rfl⟩ rfl
  · refine .voice ⟨rfl, ?_, rfl, rfl⟩
    cases spec.timeout <;> rfl
  · exact .speech ⟨rfl, rfl, rfl, rfl⟩ rfl

theorem onPrompt_isWellShaped (h : scene.onPrompt session turn = .ok step) :
    scene.IsWellShaped session (some turn) step := by
  rw [onPrompt] at h
  split at h
  · rename_i machine
    obtain rfl := Except.ok.inj h
    exact machineStep_isWellShaped machine
  · obtain ⟨prompt, hprompt, h⟩ := bind_eq_ok.mp h
    obtain ⟨said, hsaid, hstep⟩ := bind_eq_ok.mp h
    obtain rfl := Except.ok.inj hstep
    have hstands := findPrompt_eq_ok.mp hprompt
    exact Shape.isWellShaped (.prompt rfl rfl hstands hsaid (collect_plays _ _ _ _))
      (renderEntries_heard _ hsaid) rfl (by rintro ⟨⟩) (by rintro ⟨⟩)

theorem onInput_isWellShaped {input : TurnInput} (h : scene.onInput session turn input = .ok step) :
    scene.IsWellShaped session (some turn) step := by
  rw [onInput] at h
  split at h
  · rename_i machine
    obtain rfl := Except.ok.inj h
    exact machineStep_isWellShaped machine
  · exact leavePrompt_isWellShaped (Turn.merge_facts turn _) h

theorem onTimeout_isWellShaped {recent : List Turn}
    (h : scene.onTimeout session turn recent = .ok step) :
    scene.IsWellShaped session (some turn) step := by
  rw [onTimeout] at h
  split at h
  · rename_i machine
    obtain rfl := Except.ok.inj h
    exact machineStep_isWellShaped machine
  · dsimp only at h
    split at h
    · obtain ⟨said, hsaid, hstep⟩ := bind_eq_ok.mp h
      obtain rfl := Except.ok.inj hstep
      exact Shape.isWellShaped (.finalTimeout rfl rfl rfl (timedOutTurn_facts turn) hsaid rfl)
        (renderEntries_heard _ hsaid) rfl (by rintro ⟨⟩) (by rintro ⟨⟩)
    · exact leavePrompt_isWellShaped (timedOutTurn_facts turn) h

/-- Every step that is taken lets the caller hear messages and ends in the way of its outcome. -/
theorem steps_are_well_shaped {turn? : Option Turn}
    (taken : scene.Takes session turn? (.ok step)) : scene.IsWellShaped session turn? step := by
  generalize hresult : (Except.ok step : Except FlowError FlowStep) = result at taken
  cases taken with
  | greeting numberValid => exact onGreeting_isWellShaped hresult.symm
  | prompt turn => exact onPrompt_isWellShaped hresult.symm
  | input turn input => exact onInput_isWellShaped hresult.symm
  | timeout turn recent => exact onTimeout_isWellShaped hresult.symm

end FlowScene

section Choice

/-- A prompt whose words and rule are computed, and whose words a key may interrupt. -/
def choicePrompt : Prompt where
  handle := ⟨"menu"⟩
  messages := .ofComputed fun _ => .ok (.ofText "Which?")
  gather := some (.digits { interrupt := true })
  after := .computed fun context =>
    .ok { target := if context.digits = some "0" then .hangup else .prompt ⟨"menu"⟩ }

def choiceScene : FlowScene where
  tree := { name := "main", config := {}, greeting := .goto ⟨"menu"⟩, prompts := [choicePrompt] }
  freshTurn := default
  now := default

def choiceTurn : Turn :=
  choiceScene.beginTurn default ⟨"menu"⟩

theorem choice_is_well_shaped :
    ∃ played sent, choiceScene.onPrompt default choiceTurn = .ok played ∧
      choiceScene.IsWellShaped default (some choiceTurn) played ∧
      choiceScene.onInput default choiceTurn { digits := some "1" } = .ok sent ∧
      choiceScene.IsWellShaped default (some choiceTurn) sent := by
  have hplay : (choiceScene.onPrompt default choiceTurn).isOk = true := by decide +kernel
  have hsend : (choiceScene.onInput default choiceTurn { digits := some "1" }).isOk = true := by
    decide +kernel
  obtain ⟨played, hplayed⟩ := exists_of_isOk hplay
  obtain ⟨sent, hsent⟩ := exists_of_isOk hsend
  refine ⟨played, sent, hplayed, ?_, hsent, ?_⟩
  · exact FlowScene.steps_are_well_shaped (hplayed ▸ .prompt choiceTurn)
  · exact FlowScene.steps_are_well_shaped (hsent ▸ .input choiceTurn _)

end Choice

end PhoneTree

import PhoneTree.Flow.Step
import PhoneTree.Proofs.Intact

namespace PhoneTree

theorem bind_eq_ok {ε α β : Type} {first : Except ε α} {rest : α → Except ε β} {value : β} :
    first.bind rest = .ok value ↔ ∃ middle, first = .ok middle ∧ rest middle = .ok value := by
  cases first <;> simp [Except.bind]

theorem mapError_eq_ok {ε ε' α : Type} {change : ε → ε'} {result : Except ε α} {value : α} :
    result.mapError change = .ok value ↔ result = .ok value := by
  cases result with
  | error error => exact iff_of_false nofun nofun
  | ok result =>
      constructor
      · exact fun h => congrArg Except.ok (Except.ok.inj h)
      · exact fun h => congrArg Except.ok (Except.ok.inj h)

theorem exists_of_isOk {ε α : Type} {result : Except ε α} (h : result.isOk = true) :
    ∃ value, result = .ok value := by
  cases result with
  | error error => cases h
  | ok value => exact ⟨value, rfl⟩

/-- A verb that a message is rendered as. -/
inductive Verb.IsHeard : Verb → Prop
  | say (text voice : String) : IsHeard ⟨.say, [("voice", voice)], some text, []⟩
  | play (url : String) : IsHeard ⟨.play, [], some url, []⟩
  | pause (seconds : Nat) : IsHeard ⟨.pause, [("length", toString seconds)], none, []⟩

namespace FlowScene

variable {scene : FlowScene} {session : Session} {step : FlowStep}

/-- What comes of a webhook that walks a tree, which may be about a turn. -/
inductive Takes (scene : FlowScene) (session : Session) :
    Option Turn → Except FlowError FlowStep → Prop
  | greeting (numberValid : Bool) : Takes scene session none (scene.onGreeting session numberValid)
  | prompt (turn : Turn) : Takes scene session (some turn) (scene.onPrompt session turn)
  | input (turn : Turn) (input : TurnInput) :
      Takes scene session (some turn) (scene.onInput session turn input)
  | timeout (turn : Turn) (recent : List Turn) :
      Takes scene session (some turn) (scene.onTimeout session turn recent)

/-- A handle of the tree. -/
def Knows (scene : FlowScene) (handle : PromptHandle) : Prop :=
  (scene.tree.prompt? handle).isSome = true

theorem findPrompt_eq_ok {handle : PromptHandle} {prompt : Prompt} :
    scene.findPrompt handle = .ok prompt ↔ scene.tree.prompt? handle = some prompt := by
  rw [findPrompt]
  split <;> simp_all

theorem recordTurn_facts (session : Session) (turn : Turn) :
    (session.recordTurn turn).facts = session.facts := by
  rw [Session.recordTurn]
  split <;> rfl

theorem recordTurn_id (session : Session) (turn : Turn) :
    (session.recordTurn turn).id = session.id :=
  congrArg CallFacts.id (recordTurn_facts session turn)

theorem timedOutTurn_facts (turn : Turn) : (timedOutTurn turn).facts = turn.facts := by
  rw [timedOutTurn]
  split <;> rfl

theorem findPrompt_of_knows {handle : PromptHandle} (h : scene.Knows handle) :
    ∃ prompt, scene.findPrompt handle = .ok prompt := by
  obtain ⟨prompt, hprompt⟩ := Option.isSome_iff_exists.mp h
  exact ⟨prompt, findPrompt_eq_ok.mpr hprompt⟩

/-- A transition ends the call, or begins a turn on a prompt that the tree has and sends the call
there. -/
theorem follow_eq_ok {context : FlowContext} {transition : Transition} :
    scene.follow session context transition = .ok step ↔
      ∃ verbs, scene.render context transition.messages = .ok verbs ∧
        (transition.target = .hangup ∧
            step = { response := ⟨verbs ++ [.hangup]⟩, outcome := .hangup } ∨
          ∃ handle, transition.target = .prompt handle ∧ scene.Knows handle ∧ step =
            { response := ⟨verbs ++ [.redirect (Webhook.prompt scene.tree.name
                (scene.beginTurn session handle).id).path]⟩
              outcome := .redirect
              nextTurn := some (scene.beginTurn session handle) }) := by
  constructor
  · intro h
    rw [follow] at h
    split at h
    · rename_i htarget
      obtain ⟨verbs, hverbs, hstep⟩ := bind_eq_ok.mp h
      exact ⟨verbs, hverbs, .inl ⟨htarget, (Except.ok.inj hstep).symm⟩⟩
    · rename_i handle htarget
      obtain ⟨prompt, hprompt, h⟩ := bind_eq_ok.mp h
      obtain ⟨verbs, hverbs, hstep⟩ := bind_eq_ok.mp h
      refine ⟨verbs, hverbs, .inr ⟨handle, htarget, ?_, (Except.ok.inj hstep).symm⟩⟩
      rw [Knows, findPrompt_eq_ok.mp hprompt]
      rfl
  · rintro ⟨verbs, hverbs, ⟨htarget, rfl⟩ | ⟨handle, htarget, hknown, rfl⟩⟩
    · rw [follow, htarget]
      exact bind_eq_ok.mpr ⟨verbs, hverbs, rfl⟩
    · obtain ⟨prompt, hprompt⟩ := findPrompt_of_knows hknown
      rw [follow, htarget]
      exact bind_eq_ok.mpr ⟨prompt, hprompt, bind_eq_ok.mpr ⟨verbs, hverbs, rfl⟩⟩

theorem followRule_eq_ok {context : FlowContext} {rule : AfterRule} :
    scene.followRule session context rule = .ok step ↔
      ∃ transition, rule.resolve context = .ok transition ∧
        scene.follow session context transition = .ok step := by
  refine bind_eq_ok.trans (exists_congr fun transition => and_congr_left fun _ => ?_)
  exact mapError_eq_ok

theorem leavePrompt_eq_ok {updated : Turn} {change : Option TurnChange} :
    scene.leavePrompt session updated change = .ok step ↔
      ∃ prompt transition followed, scene.tree.prompt? updated.handle = some prompt ∧
        prompt.after.resolve (scene.context (session.recordTurn updated) (some updated)) =
          .ok transition ∧
        scene.follow (session.recordTurn updated)
          (scene.context (session.recordTurn updated) (some updated)) transition = .ok followed ∧
        step = { followed with updatedTurn := some updated, turnChange := change } := by
  constructor
  · intro h
    obtain ⟨prompt, hprompt, h⟩ := bind_eq_ok.mp h
    obtain ⟨followed, hrule, hstep⟩ := bind_eq_ok.mp h
    obtain ⟨transition, hresolve, hfollow⟩ := followRule_eq_ok.mp hrule
    exact ⟨prompt, transition, followed, findPrompt_eq_ok.mp hprompt, hresolve, hfollow,
      (Except.ok.inj hstep).symm⟩
  · rintro ⟨prompt, transition, followed, hprompt, hresolve, hfollow, rfl⟩
    have hrule := followRule_eq_ok.mpr ⟨transition, hresolve, hfollow⟩
    exact bind_eq_ok.mpr ⟨prompt, findPrompt_eq_ok.mpr hprompt,
      bind_eq_ok.mpr ⟨followed, hrule, rfl⟩⟩

/-- Verbs that are what the caller hears of some messages. -/
def Says (scene : FlowScene) (verbs : List Verb) : Prop :=
  ∃ context messages, scene.render context messages = .ok verbs

theorem says_nil (scene : FlowScene) : scene.Says [] :=
  ⟨scene.context default none, {}, rfl⟩

section Heard

variable {voice : String} {context : FlowContext}

theorem renderMessage_heard {message : Message} {verb? : Option Verb}
    (h : renderMessage voice context message = .ok verb?) : ∀ verb ∈ verb?.toList, verb.IsHeard := by
  cases message with
  | say text own =>
      obtain ⟨words, _, h⟩ := bind_eq_ok.mp h
      rw [← Except.ok.inj h]
      split
      · simp
      · simpa [Verb.say_eq] using Verb.IsHeard.say words (own.getD voice)
  | play url =>
      obtain ⟨address, _, h⟩ := bind_eq_ok.mp h
      rw [← Except.ok.inj h]
      split
      · simp
      · simpa [Verb.play_eq] using Verb.IsHeard.play address
  | pause seconds =>
      rw [← Except.ok.inj h]
      simpa [Verb.pause_eq] using Verb.IsHeard.pause seconds

mutual

theorem renderEntry_heard {verbs : List Verb} :
    ∀ entry : MessageEntry, renderEntry voice context entry = .ok verbs →
      ∀ verb ∈ verbs, verb.IsHeard
  | .fixed message, h => by
      rw [renderEntry] at h
      obtain ⟨verb?, hverb, h⟩ := bind_eq_ok.mp h
      rw [← Except.ok.inj h]
      exact renderMessage_heard hverb
  | .computed value, h => by
      rw [renderEntry] at h
      exact renderComputed_heard (value context) h

theorem renderComputed_heard {verbs : List Verb} :
    ∀ computed : Except CallbackError (List MessageEntry),
      renderComputed voice context computed = .ok verbs → ∀ verb ∈ verbs, verb.IsHeard
  | .error error, h => by
      rw [renderComputed] at h
      cases h
  | .ok entries, h => by
      rw [renderComputed] at h
      exact renderEntries_heard entries h

theorem renderEntries_heard {verbs : List Verb} :
    ∀ entries : List MessageEntry, renderEntries voice context entries = .ok verbs →
      ∀ verb ∈ verbs, verb.IsHeard
  | [], h => by
      rw [renderEntries] at h
      rw [← Except.ok.inj h]
      exact List.forall_mem_nil _
  | entry :: rest, h => by
      rw [renderEntries] at h
      obtain ⟨first, hfirst, h⟩ := bind_eq_ok.mp h
      obtain ⟨others, hothers, h⟩ := bind_eq_ok.mp h
      rw [← Except.ok.inj h]
      exact List.forall_mem_append.mpr
        ⟨renderEntry_heard entry hfirst, renderEntries_heard rest hothers⟩

end

theorem Says.heard {verbs : List Verb} (h : scene.Says verbs) : ∀ verb ∈ verbs, verb.IsHeard := by
  obtain ⟨context, messages, hverbs⟩ := h
  exact renderEntries_heard messages.entries hverbs

end Heard

/-- Where an answer leads, and the turn that begins there: to the end of the call, to a prompt that
the tree has, or to the input that the prompt of the turn collects. -/
inductive Leads (scene : FlowScene) (session : Session) (turn? : Option Turn) :
    VoiceResponse → Option Turn → Prop
  | hangup {verbs : List Verb} (said : scene.Says verbs) :
      Leads scene session turn? ⟨verbs ++ [.hangup]⟩ none
  | next {verbs : List Verb} {handle : PromptHandle} (said : scene.Says verbs)
      (known : scene.Knows handle) :
      Leads scene session turn?
        ⟨verbs ++
          [.redirect (Webhook.prompt scene.tree.name (scene.beginTurn session handle).id).path]⟩
        (some (scene.beginTurn session handle))
  | collect {turn : Turn} {before inside : List Verb} {gather : Option Gather}
      (about : turn? = some turn) (said : scene.Says before) (saidInside : scene.Says inside) :
      Leads scene session turn?
        ⟨before ++ FlowScene.collect scene.tree.name turn.id inside gather⟩ none

/-- A step leads somewhere, and the turn that it updates is the one that it is about. -/
structure Goes (scene : FlowScene) (session : Session) (turn? : Option Turn) (step : FlowStep) :
    Prop where
  leads : scene.Leads session turn? step.response step.nextTurn
  updates : ∀ updated, step.updatedTurn = some updated →
    ∃ turn, turn? = some turn ∧ updated.facts = turn.facts

theorem goes_machineStep {turn? : Option Turn} : scene.Goes session turn? machineStep :=
  ⟨.hangup scene.says_nil, by simp [machineStep]⟩

theorem follow_leads {view : Session} {context : FlowContext} {transition : Transition}
    (turn? : Option Turn) (hview : view.id = session.id)
    (h : scene.follow view context transition = .ok step) :
    scene.Leads session turn? step.response step.nextTurn ∧ step.updatedTurn = none := by
  obtain ⟨verbs, hverbs, ⟨_, rfl⟩ | ⟨handle, _, hknown, rfl⟩⟩ := follow_eq_ok.mp h
  · exact ⟨.hangup ⟨context, _, hverbs⟩, rfl⟩
  · have hturn : scene.beginTurn view handle = scene.beginTurn session handle := by
      rw [beginTurn, hview]
      rfl
    rw [hturn]
    exact ⟨.next ⟨context, _, hverbs⟩ hknown, rfl⟩

theorem leavePrompt_goes {turn updated : Turn} {change : Option TurnChange}
    (hfacts : updated.facts = turn.facts)
    (h : scene.leavePrompt session updated change = .ok step) :
    scene.Goes session (some turn) step := by
  obtain ⟨_, _, followed, _, _, hfollow, rfl⟩ := leavePrompt_eq_ok.mp h
  have hleads := (follow_leads (some turn) (recordTurn_id session updated) hfollow).1
  refine ⟨hleads, ?_⟩
  intro other hother
  rw [← Option.some.inj hother]
  exact ⟨turn, rfl, hfacts⟩

theorem onGreeting_goes {numberValid : Bool}
    (h : scene.onGreeting session numberValid = .ok step) : scene.Goes session none step := by
  simp only [onGreeting] at h
  split at h
  · obtain ⟨verbs, hverbs, hstep⟩ := bind_eq_ok.mp h
    rw [← Except.ok.inj hstep]
    exact ⟨.hangup ⟨_, _, hverbs⟩, by simp⟩
  · obtain ⟨transition, _, hfollow⟩ := followRule_eq_ok.mp h
    obtain ⟨hleads, hupdated⟩ := follow_leads none rfl hfollow
    exact ⟨hleads, by simp [hupdated]⟩

theorem onPrompt_goes {turn : Turn} (h : scene.onPrompt session turn = .ok step) :
    scene.Goes session (some turn) step := by
  rw [onPrompt] at h
  split at h
  · rw [← Except.ok.inj h]
    exact goes_machineStep
  · obtain ⟨prompt, _, h⟩ := bind_eq_ok.mp h
    obtain ⟨verbs, hverbs, hstep⟩ := bind_eq_ok.mp h
    rw [← Except.ok.inj hstep]
    have hsaid : scene.Says verbs := ⟨_, _, hverbs⟩
    refine ⟨.collect rfl ?_ ?_, by simp⟩
    · split
      · exact scene.says_nil
      · exact hsaid
    · split
      · exact hsaid
      · exact scene.says_nil

theorem onPrompt_nextTurn {turn : Turn} (h : scene.onPrompt session turn = .ok step) :
    step.nextTurn = none := by
  rw [onPrompt] at h
  split at h
  · rw [← Except.ok.inj h]
    rfl
  · obtain ⟨prompt, _, h⟩ := bind_eq_ok.mp h
    obtain ⟨verbs, _, hstep⟩ := bind_eq_ok.mp h
    rw [← Except.ok.inj hstep]

theorem onInput_goes {turn : Turn} {input : TurnInput}
    (h : scene.onInput session turn input = .ok step) : scene.Goes session (some turn) step := by
  rw [onInput] at h
  split at h
  · rw [← Except.ok.inj h]
    exact goes_machineStep
  · exact leavePrompt_goes (Turn.merge_facts turn _) h

theorem onTimeout_goes {turn : Turn} {recent : List Turn}
    (h : scene.onTimeout session turn recent = .ok step) :
    scene.Goes session (some turn) step := by
  rw [onTimeout] at h
  split at h
  · rw [← Except.ok.inj h]
    exact goes_machineStep
  · dsimp only at h
    split at h
    · obtain ⟨verbs, hverbs, hstep⟩ := bind_eq_ok.mp h
      rw [← Except.ok.inj hstep]
      refine ⟨.hangup ⟨_, _, hverbs⟩, ?_⟩
      intro other hother
      rw [← Option.some.inj hother]
      exact ⟨turn, rfl, timedOutTurn_facts turn⟩
    · exact leavePrompt_goes (timedOutTurn_facts turn) h

theorem Takes.goes {turn? : Option Turn} (h : scene.Takes session turn? (.ok step)) :
    scene.Goes session turn? step := by
  generalize hresult : (Except.ok step : Except FlowError FlowStep) = result at h
  cases h with
  | greeting numberValid => exact onGreeting_goes hresult.symm
  | prompt turn => exact onPrompt_goes hresult.symm
  | input turn input => exact onInput_goes hresult.symm
  | timeout turn recent => exact onTimeout_goes hresult.symm

/-- The turn that a step begins is a fresh one of the session on a prompt of the tree. -/
theorem Goes.begins {turn? : Option Turn} {turn : Turn} (h : scene.Goes session turn? step)
    (hnext : step.nextTurn = some turn) :
    ∃ handle, scene.Knows handle ∧ turn = scene.beginTurn session handle := by
  have hleads := h.leads
  rw [hnext] at hleads
  generalize step.response = response at hleads
  cases hleads with
  | next said known => exact ⟨_, known, rfl⟩

end FlowScene

end PhoneTree

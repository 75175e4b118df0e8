import PhoneTree.Proofs.WellFormed
import PhoneTree.Tree.Document

namespace PhoneTree

/-- A text that does not depend on the call. -/
def Content.isStatic : Content → Bool
  | fixed _ => true
  | computed _ => false

/-- Whether nothing of a message is computed. -/
def Message.isStatic : Message → Bool
  | say text _ => text.isStatic
  | play url => url.isStatic
  | pause _ => true

/-- Whether an entry is a message of which nothing is computed. -/
def MessageEntry.isStatic : MessageEntry → Bool
  | fixed message => message.isStatic
  | computed _ => false

/-- Whether nothing of a set of messages is computed. -/
def MessageSet.isStatic (set : MessageSet) : Bool :=
  set.entries.all (·.isStatic)

/-- Whether nothing of a rule is computed. -/
def AfterRule.isStatic : AfterRule → Bool
  | fixed transition => transition.messages.isStatic
  | computed _ => false

/-- Whether nothing of a prompt is computed. -/
def Prompt.isStatic (prompt : Prompt) : Bool :=
  prompt.messages.isStatic && prompt.after.isStatic

namespace Tree

/-- Whether the greeting, what follows the prompts and all messages of a tree are fixed. -/
def isStatic (tree : Tree) : Bool :=
  tree.greeting.isStatic && tree.prompts.all (·.isStatic)
    && tree.config.finalTimeoutMessage.isStatic
    && tree.config.invalidPhoneNumber.all (·.isStatic)

/-- A tree that the builder has accepted. -/
def IsAccepted (tree : Tree) : Prop :=
  ∃ draft : TreeDraft, draft.build = .ok tree

/-- The tree has the prompt that a target names. -/
def Reaches (tree : Tree) : Target → Prop
  | .hangup => True
  | .prompt handle => (tree.prompt? handle).isSome = true

/-- A fixed rule leads to where the tree goes on. -/
def Leads (tree : Tree) (rule : AfterRule) : Prop :=
  ∀ transition, rule = .fixed transition → tree.Reaches transition.target

theorem prompt?_isSome {tree : Tree} {handle : PromptHandle} :
    (tree.prompt? handle).isSome = true ↔ handle ∈ tree.prompts.map (·.handle) := by
  rw [prompt?, List.find?_isSome, List.mem_map]
  constructor
  · rintro ⟨prompt, hprompt, hsame⟩
    exact ⟨prompt, hprompt, eq_of_beq hsame⟩
  · rintro ⟨prompt, hprompt, rfl⟩
    exact ⟨prompt, hprompt, beq_self_eq_true _⟩

end Tree

namespace TreeDraft

theorem leads_of_isValid {tree : Tree} {rule : AfterRule}
    (h : rule.IsValid (tree.prompts.map (·.handle))) : tree.Leads rule := by
  rintro transition rfl
  cases htarget : transition.target with
  | hangup => trivial
  | prompt handle => exact Tree.prompt?_isSome.mpr (h.2 handle htarget)

/-- A tree has the parts of its draft, and the prompts to which its rules lead. -/
structure Builds (draft : TreeDraft) (tree : Tree) : Prop where
  greeting : draft.greeting = some tree.greeting
  config : draft.config = tree.config
  prompts : draft.prompts = tree.prompts
  greetingLeads : tree.Leads tree.greeting
  aftersLead : ∀ prompt ∈ tree.prompts, tree.Leads prompt.after

theorem build_eq_ok {draft : TreeDraft} {tree : Tree} (h : draft.build = .ok tree) :
    draft.Builds tree := by
  obtain ⟨hwell, greeting, hgreeting, rfl⟩ := build_eq_ok_iff.mp h
  obtain ⟨other, hother, hvalid⟩ := hwell.greeting
  obtain rfl := Option.some.inj (hgreeting.symm.trans hother)
  exact ⟨hgreeting, rfl, rfl, leads_of_isValid hvalid,
    fun prompt hprompt => leads_of_isValid (hwell.afters prompt hprompt)⟩

end TreeDraft

theorem Tree.IsAccepted.attempts_pos {tree : Tree} (h : tree.IsAccepted) :
    0 < tree.config.finalTimeoutAttempts := by
  obtain ⟨draft, h⟩ := h
  obtain ⟨hwell, _, _, rfl⟩ := TreeDraft.build_eq_ok_iff.mp h
  exact hwell.config.attempts

namespace FlowScene

variable {scene : FlowScene} {session : Session}

theorem renderMessage_isOk {voice : String} {context : FlowContext} {message : Message}
    (h : message.isStatic = true) : ∃ verb?, renderMessage voice context message = .ok verb? := by
  cases message with
  | say text own =>
      cases text with
      | fixed words => exact ⟨_, rfl⟩
      | computed value => cases h
  | play url =>
      cases url with
      | fixed address => exact ⟨_, rfl⟩
      | computed value => cases h
  | pause seconds => exact ⟨_, rfl⟩

theorem renderEntries_isOk {voice : String} {context : FlowContext} {entries : List MessageEntry}
    (h : entries.all (·.isStatic) = true) :
    ∃ verbs, renderEntries voice context entries = .ok verbs := by
  induction entries with
  | nil => exact ⟨[], by rw [renderEntries]; rfl⟩
  | cons entry rest ih =>
      rw [List.all_cons, Bool.and_eq_true] at h
      obtain ⟨others, hothers⟩ := ih h.2
      cases entry with
      | fixed message =>
          obtain ⟨verb?, hverb⟩ := renderMessage_isOk h.1
          refine ⟨verb?.toList ++ others, ?_⟩
          rw [renderEntries, renderEntry, hverb, hothers]
          rfl
      | computed value => cases h.1

theorem render_isOk (scene : FlowScene) (context : FlowContext) {messages : MessageSet}
    (h : messages.isStatic = true) : ∃ verbs, scene.render context messages = .ok verbs :=
  renderEntries_isOk h

theorem findPrompt_isOk {handle : PromptHandle} (h : scene.Knows handle) :
    ∃ prompt, scene.findPrompt handle = .ok prompt ∧ prompt ∈ scene.tree.prompts := by
  obtain ⟨prompt, hprompt⟩ := Option.isSome_iff_exists.mp h
  exact ⟨prompt, findPrompt_eq_ok.mpr hprompt, List.mem_of_find?_eq_some hprompt⟩

theorem follow_isOk (session : Session) (context : FlowContext) {transition : Transition}
    (hstatic : transition.messages.isStatic = true)
    (hreaches : scene.tree.Reaches transition.target) :
    ∃ step, scene.follow session context transition = .ok step := by
  obtain ⟨verbs, hverbs⟩ := render_isOk scene context hstatic
  rw [follow]
  split
  · exact ⟨_, bind_eq_ok.mpr ⟨verbs, hverbs, rfl⟩⟩
  · rename_i handle htarget
    rw [htarget] at hreaches
    obtain ⟨prompt, hprompt, _⟩ := findPrompt_isOk hreaches
    exact ⟨_, bind_eq_ok.mpr ⟨prompt, hprompt, bind_eq_ok.mpr ⟨verbs, hverbs, rfl⟩⟩⟩

theorem followRule_isOk (session : Session) (context : FlowContext) {rule : AfterRule}
    (hstatic : rule.isStatic = true) (hleads : scene.tree.Leads rule) :
    ∃ step, scene.followRule session context rule = .ok step := by
  cases rule with
  | computed value => cases hstatic
  | fixed transition => exact follow_isOk session context hstatic (hleads transition rfl)

end FlowScene

/-- A tree without computed parts on which every rule leads to where the tree goes on. -/
structure Tree.IsSound (tree : Tree) : Prop where
  greeting : tree.greeting.isStatic = true
  greetingLeads : tree.Leads tree.greeting
  messages : ∀ prompt ∈ tree.prompts, prompt.messages.isStatic = true
  afters : ∀ prompt ∈ tree.prompts, prompt.after.isStatic = true
  aftersLead : ∀ prompt ∈ tree.prompts, tree.Leads prompt.after
  finalTimeout : tree.config.finalTimeoutMessage.isStatic = true
  invalidNumber : ∀ messages, tree.config.invalidPhoneNumber = some messages →
    messages.isStatic = true

theorem Tree.IsAccepted.isSound {tree : Tree} (h : tree.IsAccepted)
    (hstatic : tree.isStatic = true) : tree.IsSound := by
  obtain ⟨draft, hbuild⟩ := h
  have hbuilds := TreeDraft.build_eq_ok hbuild
  simp only [isStatic, Bool.and_eq_true, List.all_eq_true, Prompt.isStatic] at hstatic
  obtain ⟨⟨⟨hfixed, hprompts⟩, hfinal⟩, hinvalid⟩ := hstatic
  refine ⟨hfixed, hbuilds.greetingLeads, ?_, ?_, hbuilds.aftersLead, hfinal, ?_⟩
  · exact fun prompt hprompt => (hprompts prompt hprompt).1
  · exact fun prompt hprompt => (hprompts prompt hprompt).2
  · intro messages hmessages
    rw [hmessages] at hinvalid
    exact hinvalid

namespace FlowScene

variable {scene : FlowScene} {session : Session} {turn : Turn}

theorem onGreeting_isOk (h : scene.tree.IsSound) (session : Session) (numberValid : Bool) :
    ∃ step, scene.onGreeting session numberValid = .ok step := by
  simp only [onGreeting]
  split
  · rename_i messages hmessages
    obtain ⟨verbs, hverbs⟩ := render_isOk scene _ (h.invalidNumber messages hmessages)
    exact ⟨_, bind_eq_ok.mpr ⟨verbs, hverbs, rfl⟩⟩
  · exact followRule_isOk _ _ h.greeting h.greetingLeads

theorem onPrompt_isOk (h : scene.tree.IsSound) (session : Session)
    (hknown : scene.Knows turn.handle) : ∃ step, scene.onPrompt session turn = .ok step := by
  rw [onPrompt]
  split
  · exact ⟨_, rfl⟩
  · obtain ⟨prompt, hprompt, hmem⟩ := findPrompt_isOk hknown
    obtain ⟨verbs, hverbs⟩ :=
      render_isOk scene (scene.context session (some turn)) (h.messages prompt hmem)
    exact ⟨_, bind_eq_ok.mpr ⟨prompt, hprompt, bind_eq_ok.mpr ⟨verbs, hverbs, rfl⟩⟩⟩

theorem leavePrompt_isOk (h : scene.tree.IsSound) (session : Session) {updated : Turn}
    (change : Option TurnChange) (hknown : scene.Knows updated.handle) :
    ∃ step, scene.leavePrompt session updated change = .ok step := by
  obtain ⟨prompt, hprompt, hmem⟩ := findPrompt_isOk hknown
  obtain ⟨step, hstep⟩ := followRule_isOk (session.recordTurn updated)
    (scene.context (session.recordTurn updated) (some updated)) (h.afters prompt hmem)
    (h.aftersLead prompt hmem)
  exact ⟨_, bind_eq_ok.mpr ⟨prompt, hprompt, bind_eq_ok.mpr ⟨step, hstep, rfl⟩⟩⟩

theorem onInput_isOk (h : scene.tree.IsSound) (session : Session) (input : TurnInput)
    (hknown : scene.Knows turn.handle) :
    ∃ step, scene.onInput session turn input = .ok step := by
  rw [onInput]
  split
  · exact ⟨_, rfl⟩
  · exact leavePrompt_isOk h session _ hknown

theorem onTimeout_isOk (h : scene.tree.IsSound) (session : Session) (recent : List Turn)
    (hknown : scene.Knows turn.handle) :
    ∃ step, scene.onTimeout session turn recent = .ok step := by
  have hhandle : (timedOutTurn turn).handle = turn.handle :=
    congrArg TurnFacts.handle (timedOutTurn_facts turn)
  rw [onTimeout]
  split
  · exact ⟨_, rfl⟩
  · dsimp only
    split
    · obtain ⟨verbs, hverbs⟩ := render_isOk scene _ h.finalTimeout
      exact ⟨_, bind_eq_ok.mpr ⟨verbs, hverbs, rfl⟩⟩
    · refine leavePrompt_isOk h session _ ?_
      rw [hhandle]
      exact hknown

/-- No step through a sound tree fails on a turn that stands on one of its prompts. -/
theorem Takes.isOk {turn? : Option Turn} {result : Except FlowError FlowStep}
    (h : scene.tree.IsSound) (hknown : ∀ turn, turn? = some turn → scene.Knows turn.handle)
    (htakes : scene.Takes session turn? result) : ∃ step, result = .ok step := by
  cases htakes with
  | greeting numberValid => exact onGreeting_isOk h session numberValid
  | prompt turn => exact onPrompt_isOk h session (hknown turn rfl)
  | input turn input => exact onInput_isOk h session input (hknown turn rfl)
  | timeout turn recent => exact onTimeout_isOk h session recent (hknown turn rfl)

end FlowScene

end PhoneTree

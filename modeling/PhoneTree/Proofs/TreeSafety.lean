import PhoneTree.Proofs.CommandGrowth
import PhoneTree.Proofs.StaticDocument

namespace PhoneTree

/-- Whether an error is the fault of a tree, of a callback or of the stores. -/
def CallError.isBreakdown : CallError → Bool
  | flow _ | callback _ | infrastructure _ => true
  | _ => false

/-- Commands that name the trees of their calls, with nothing else happening in between. -/
def Traffic.orderly : Traffic where
  Admits state command := command.NamesOwnTree state
  Stirs _ _ := False

/-- The turn of some facts stands on a prompt of the tree of its session. -/
def TurnFacts.Stands (registry : Registry) (state : OpenWorld) (turn : TurnFacts) : Prop :=
  ∃ call tree, call ∈ state.callFacts ∧ call.id = turn.session ∧
    registry.get? call.treeName = some tree ∧ (tree.prompt? turn.handle).isSome = true

/-- What every command keeps: the store is intact, no conflict is due and every turn stands on a
prompt of the tree of its session. -/
structure OpenWorld.Settled (registry : Registry) (state : OpenWorld) : Prop where
  intact : state.Intact
  calm : state.store.conflicts = 0
  stands : ∀ turn ∈ state.turnFacts, turn.Stands registry state

section Steps

variable {account : Service.Account} {registry : Registry} {state state' : OpenWorld}
  {entry : Webhook} {params : Params} {scene : FlowScene} {session : Session}
  {turn? : Option Turn} {result : Except FlowError FlowStep}

theorem TurnFacts.Stands.extends {turn : TurnFacts} {calls : List CallFacts}
    {turns : List TurnFacts} (h : turn.Stands registry state)
    (hextends : state.Extends state' calls turns) : turn.Stands registry state' := by
  obtain ⟨call, tree, hcall, hid, htree, hprompt⟩ := h
  exact ⟨call, tree, hextends.mem_calls hcall, hid, htree, hprompt⟩

theorem OpenWorld.Settled.extends {calls : List CallFacts} {turns : List TurnFacts}
    (h : state.Settled registry) (hextends : state.Extends state' calls turns)
    (hturns : ∀ turn ∈ turns, turn.Stands registry state') : state'.Settled registry where
  intact := hextends.intact
  calm := by
    have hless := hextends.conflicts
    have hcalm := h.calm
    omega
  stands := by
    intro turn hturn
    rw [hextends.turns, List.mem_append] at hturn
    rcases hturn with hturn | hturn
    · exact (h.stands turn hturn).extends hextends
    · exact hturns turn hturn

theorem Webhook.Walks.treeName_eq (walks : entry.Walks registry state state' params scene session
    turn? result) (named : (Command.webhook entry params).NamesOwnTree state) :
    session.treeName = scene.tree.name := by
  rcases walks.own with hstored | hnew
  · obtain ⟨row, hrow, hfacts⟩ := List.mem_map.mp hstored
    have hsid : row.sid = session.sid := congrArg CallFacts.sid hfacts
    have htree : row.treeName = session.treeName := congrArg CallFacts.treeName hfacts
    rw [← htree]
    exact named _ _ walks.tree walks.sid row hrow hsid
  · exact hnew

theorem Webhook.Walks.begun_stands {step : FlowStep}
    (walks : entry.Walks registry state state' params scene session turn? (.ok step))
    (named : (Command.webhook entry params).NamesOwnTree state) :
    ∀ turn ∈ Service.begun step, turn.Stands registry state' := by
  intro turn hturn
  rw [Service.begun, Option.mem_toList, Option.map_eq_some_iff] at hturn
  obtain ⟨next, hnext, rfl⟩ := hturn
  obtain ⟨handle, hknown, rfl⟩ := walks.takes.goes.begins hnext
  refine ⟨session.facts, scene.tree, walks.stored, rfl, ?_, hknown⟩
  rw [← walks.registered, ← walks.treeName_eq named]
  rfl

theorem Webhook.Walks.knows (h : state.Settled registry) (hintact : state'.Intact)
    (hcalls : ∀ call ∈ state.callFacts, call ∈ state'.callFacts)
    (walks : entry.Walks registry state state' params scene session turn? result)
    (named : (Command.webhook entry params).NamesOwnTree state) :
    ∀ turn, turn? = some turn → scene.Knows turn.handle := by
  intro turn hturn
  obtain ⟨hmem, howned⟩ := walks.owned turn hturn
  obtain ⟨call, tree, hcall, hid, htree, hprompt⟩ := h.stands turn.facts hmem
  obtain rfl := OpenWorld.eq_of_nodup hintact.sessionIds (hcalls call hcall) walks.stored
    (hid.trans howned)
  have hname : registry.get? session.treeName = some tree := htree
  rw [walks.treeName_eq named, walks.registered] at hname
  rw [FlowScene.Knows, Option.some.inj hname]
  exact hprompt

/-- A webhook that names the tree of its call keeps every turn on a prompt, and does not break
down. -/
theorem webhook_keeps_settled {outcome : Except CallError Outcome}
    (trees : ∀ tree ∈ registry.trees, tree.IsSound) (h : state.Settled registry)
    (named : (Command.webhook entry params).NamesOwnTree state)
    (run : Action.Runs OpenWorld.rules (entry.action account registry params) state outcome state') :
    state'.Settled registry ∧ ∀ error, outcome = .error error → error.isBreakdown = false := by
  cases Webhook.ends_of_runs h.intact run with
  | walked walks extension response =>
      exact ⟨h.extends extension (walks.begun_stands named), by simp⟩
  | quiet extension silent => exact ⟨h.extends extension (by simp), by simp⟩
  | refused extension cause calm =>
      rw [calm h.calm] at extension
      refine ⟨h.extends extension (by simp), ?_⟩
      rintro _ ⟨rfl⟩
      cases cause with
      | disturbed due => exact absurd h.calm due
      | broken walks =>
          have hknown := walks.knows h extension.intact (fun _ => extension.mem_calls) named
          have hmem := List.mem_of_find?_eq_some walks.registered
          obtain ⟨step, hstep⟩ := walks.takes.isOk (trees _ hmem) hknown
          cases hstep
      | unknownTree | invalid | unknownCall | unknownTurn => rfl

theorem command_keeps_settled {command : Command} {outcome : Except CallError Outcome}
    (trees : ∀ tree ∈ registry.trees, tree.IsSound) (h : state.Settled registry)
    (named : command.NamesOwnTree state)
    (run : Action.Runs OpenWorld.rules (command.action account registry) state outcome state') :
    state'.Settled registry := by
  cases hkind : command.isWebhook with
  | true =>
      cases command with
      | webhook entry params => exact (webhook_keeps_settled trees h named run).1
      | startCall | sendMessages | findCaller | job => cases hkind
  | false =>
      obtain ⟨calls, turns, hextends, hnone⟩ := Command.extends_of_runs h.intact run
      rw [hnone hkind] at hextends
      exact h.extends hextends (by simp)

end Steps

section Runs

variable {account : Service.Account} {registry : Registry} {start state : OpenWorld}
  {served : List (Command × Except CallError Outcome)}

theorem OpenWorld.settled_of_empty (h : start.store = {}) : start.Settled registry where
  intact := by apply OpenWorld.intact_of_empty <;> rw [h]
  calm := by rw [h]
  stands := by simp [turnFacts, Store.turnFacts, h]

theorem Served.settled (trees : ∀ tree ∈ registry.trees, tree.IsSound) (empty : start.store = {})
    (run : Served account registry .orderly start served state) :
    state.Settled registry ∧ ∀ entry params error,
      (Command.webhook entry params, Except.error error) ∈ served →
        error.isBreakdown = false := by
  induction run with
  | nothing => exact ⟨OpenWorld.settled_of_empty empty, by simp⟩
  | stir before stirred ih => exact stirred.elim
  | serve before admitted run ih =>
      refine ⟨command_keeps_settled trees ih.1 admitted run, ?_⟩
      intro entry params error hmem
      rcases List.mem_append.mp hmem with hmem | hmem
      · exact ih.2 entry params error hmem
      · obtain ⟨rfl, rfl⟩ := Prod.mk.inj (List.mem_singleton.mp hmem)
        exact (webhook_keeps_settled trees ih.1 admitted run).2 error rfl

/-- On trees that the builder has accepted and of which nothing is computed, such as those of
documents, no run of commands that name the trees of their calls makes a webhook break down, and
every stored turn stands on a prompt of the tree of its session. -/
theorem static_trees_never_break (trees : ∀ tree ∈ registry.trees,
      tree.IsAccepted ∧ tree.isStatic = true) (empty : start.store = {})
    (run : Served account registry .orderly start served state) :
    (∀ entry params error, (Command.webhook entry params, Except.error error) ∈ served →
      error.isBreakdown = false) ∧
    (∀ turn ∈ state.store.turns, ∃ session tree,
      state.store.sessionRow? turn.session = some session ∧
        registry.get? session.treeName = some tree ∧
          (tree.prompt? turn.handle).isSome = true) ∧
    ∀ (doc : TreeDoc) (tree : Tree), doc.compile = .ok tree →
      tree.IsAccepted ∧ tree.isStatic = true := by
  have hsound : ∀ tree ∈ registry.trees, tree.IsSound := fun tree htree =>
    (trees tree htree).1.isSound (trees tree htree).2
  obtain ⟨hsettled, hwebhooks⟩ := run.settled hsound empty
  refine ⟨hwebhooks, ?_, fun doc tree => TreeDoc.compile_isStatic⟩
  intro turn hturn
  obtain ⟨call, tree, hcall, hid, htree, hprompt⟩ :=
    hsettled.stands turn.facts (List.mem_map_of_mem hturn)
  obtain ⟨row, hrow, rfl⟩ := List.mem_map.mp hcall
  have hfound := hsettled.intact.holds_load hrow
  have hsession : row.id = turn.session := hid
  rw [OpenWorld.Holds, Store.load, hsession] at hfound
  exact ⟨_, tree, hfound, htree, hprompt⟩

end Runs

section Survey

/-- A document with one question. -/
def surveyDoc : TreeDoc where
  name := "main"
  voice := "male"
  finalTimeoutMessage := none
  finalTimeoutAttempts := 3
  invalidPhoneNumber := none
  yesAnswers := none
  noAnswers := none
  greeting := .handle "question"
  prompts := [
    { name := "question"
      message := some (.text "Hello?")
      gather := some default
      after := .fields { hangup := some true } }]

/-- The tree of the document. -/
def surveyTree : Tree :=
  surveyDoc.compile.toOption.getD
    { name := "", config := {}, greeting := .hangup, prompts := [] }

def surveyCall : Command :=
  .webhook (.inbound "main") ⟨[("CallSid", "CA0"), ("From", "+12025550123")]⟩

def surveyAnswer : Command :=
  .webhook (.promptResponse "main" ⟨.ofNat 3⟩) ⟨[("CallSid", "CA0"), ("Digits", "1")]⟩

def surveyGreeted : Except CallError Outcome × World :=
  World.perform (surveyCall.action default ⟨[surveyTree]⟩) {}

def surveyDone : Except CallError Outcome × World :=
  World.perform (surveyAnswer.action default ⟨[surveyTree]⟩) surveyGreeted.2

theorem surveyDoc_compile : surveyDoc.compile = .ok surveyTree := by
  have hok : surveyDoc.compile.toOption.isSome = true := by decide +kernel
  rw [surveyTree]
  cases hcompile : surveyDoc.compile with
  | error error =>
      rw [hcompile] at hok
      cases hok
  | ok tree => rfl

theorem surveyAnswer_namesOwnTree :
    surveyAnswer.NamesOwnTree (.ofWorld surveyGreeted.2) := by
  have hnames : (surveyGreeted.2.store.sessions.all fun session => session.treeName == "main") =
      true := by
    decide +kernel
  generalize surveyGreeted.2 = world at hnames ⊢
  intro tree sid htree _ session hsession _
  obtain rfl := Option.some.inj htree
  exact eq_of_beq (List.all_eq_true.mp hnames session hsession)

theorem survey_served :
    Served default ⟨[surveyTree]⟩ .orderly (.ofWorld {})
      [(surveyCall, surveyGreeted.1), (surveyAnswer, surveyDone.1)] (.ofWorld surveyDone.2) := by
  have hcall : Action.Runs OpenWorld.rules (surveyCall.action default ⟨[surveyTree]⟩)
      (.ofWorld {}) surveyGreeted.1 (.ofWorld surveyGreeted.2) :=
    OpenWorld.runs_perform _ {} (by decide +kernel)
  have hanswer : Action.Runs OpenWorld.rules (surveyAnswer.action default ⟨[surveyTree]⟩)
      (.ofWorld surveyGreeted.2) surveyDone.1 (.ofWorld surveyDone.2) :=
    OpenWorld.runs_perform _ surveyGreeted.2 (by decide +kernel)
  have hnames := surveyAnswer_namesOwnTree
  generalize surveyGreeted = greeted at hcall hanswer hnames ⊢
  generalize surveyDone = done at hanswer ⊢
  refine .serve (.serve .nothing ?_ hcall) hnames hanswer
  intro tree sid _ _ session hsession
  cases hsession

theorem survey_never_breaks :
    surveyDone.2.store.turns.length = 1 ∧
    (∀ entry params error, (Command.webhook entry params, Except.error error) ∈
      [(surveyCall, surveyGreeted.1), (surveyAnswer, surveyDone.1)] →
        error.isBreakdown = false) ∧
    (∀ turn ∈ surveyDone.2.store.turns, ∃ session tree,
      surveyDone.2.store.sessionRow? turn.session = some session ∧
        Registry.get? ⟨[surveyTree]⟩ session.treeName = some tree ∧
          (tree.prompt? turn.handle).isSome = true) ∧
    ∀ (doc : TreeDoc) (tree : Tree), doc.compile = .ok tree →
      tree.IsAccepted ∧ tree.isStatic = true := by
  have hturns : surveyDone.2.store.turns.length = 1 := by decide +kernel
  have htrees : ∀ tree ∈ (⟨[surveyTree]⟩ : Registry).trees,
      tree.IsAccepted ∧ tree.isStatic = true := by
    intro tree htree
    obtain rfl := List.mem_singleton.mp htree
    exact TreeDoc.compile_isStatic surveyDoc_compile
  have hserved := survey_served
  generalize surveyDone = done at hturns hserved ⊢
  generalize surveyGreeted = greeted at hserved ⊢
  exact ⟨hturns, static_trees_never_break htrees rfl hserved⟩

end Survey

end PhoneTree

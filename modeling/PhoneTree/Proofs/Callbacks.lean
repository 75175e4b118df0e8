import PhoneTree.Proofs.CommandGrowth
import PhoneTree.Proofs.WebhookPaths

namespace PhoneTree

/-- The attributes whose values are addresses to call back. -/
def callbackNames : List String :=
  ["action", "recordingStatusCallback", "transcribeCallback"]

/-- The addresses to call back among attributes. -/
def callbackValues (attributes : List (String × String)) : List String :=
  (attributes.filter fun pair => callbackNames.contains pair.1).map (·.2)

mutual

/-- The addresses at which a verb tells the provider to call back. -/
def Verb.callbacks : Verb → List String
  | ⟨kind, attributes, text, children⟩ =>
      (if kind = .redirect then text.toList else []) ++ callbackValues attributes
        ++ Verb.callbacksOf children

/-- The addresses at which verbs tell the provider to call back. -/
def Verb.callbacksOf : List Verb → List String
  | [] => []
  | verb :: rest => verb.callbacks ++ Verb.callbacksOf rest

end

/-- The addresses at which an answer tells the provider to call back. -/
def VoiceResponse.callbacks (response : VoiceResponse) : List String :=
  Verb.callbacksOf response.verbs

theorem Verb.callbacksOf_append (verbs others : List Verb) :
    callbacksOf (verbs ++ others) = callbacksOf verbs ++ callbacksOf others := by
  induction verbs with
  | nil => rfl
  | cons verb rest ih => simp only [List.cons_append, callbacksOf, ih, List.append_assoc]

section Attributes

variable {α : Type}

theorem callbackValues_nil : callbackValues [] = [] := rfl

theorem callbackValues_cons (name value : String) (rest : List (String × String)) :
    callbackValues ((name, value) :: rest) =
      (if name ∈ callbackNames then [value] else []) ++ callbackValues rest := by
  by_cases h : name ∈ callbackNames <;> simp [callbackValues, h]

theorem callbackValues_append (attributes others : List (String × String)) :
    callbackValues (attributes ++ others) = callbackValues attributes ++ callbackValues others := by
  simp [callbackValues]

theorem callbackValues_optional {pair : α → String × String}
    (h : ∀ value, (pair value).1 ∉ callbackNames) (value : Option α) :
    callbackValues (value.map pair).toList = [] := by
  cases value with
  | none => rfl
  | some value => simp [callbackValues, h value]

theorem callbackValues_ite {attributes : List (String × String)}
    (h : callbackValues attributes = []) (condition : Prop) [Decidable condition] :
    callbackValues (if condition then attributes else []) = [] := by
  split
  · exact h
  · rfl

end Attributes

namespace FlowScene

variable {scene : FlowScene} {session : Session}

theorem Says.callbacks {verbs : List Verb} (h : scene.Says verbs) :
    Verb.callbacksOf verbs = [] := by
  have hheard := h.heard
  clear h
  induction verbs with
  | nil => rfl
  | cons verb rest ih =>
      obtain ⟨hverb, hrest⟩ := List.forall_mem_cons.mp hheard
      have hsilent : verb.callbacks = [] := by cases hverb <;> rfl
      rw [Verb.callbacksOf, hsilent, ih hrest]
      rfl

/-- A webhook for a turn, on a tree if it is on one. -/
structure IsFor (webhook : Webhook) (tree : String) (turn : TurnId) : Prop where
  turn : webhook.turn? = some turn
  tree : ∀ name, webhook.tree? = some name → name = tree

theorem collect_callbacks {tree : String} {turn : TurnId} {inside : List Verb}
    {gather : Option Gather} (hinside : Verb.callbacksOf inside = []) :
    ∀ callback ∈ Verb.callbacksOf (collect tree turn inside gather),
      ∃ webhook, webhook.path = callback ∧ IsFor webhook tree turn := by
  have hresponse : IsFor (.promptResponse tree turn) tree turn := ⟨rfl, by simp [Webhook.tree?]⟩
  have htimeout : IsFor (.timeout tree turn) tree turn := ⟨rfl, by simp [Webhook.tree?]⟩
  have hrecording : IsFor (.receiveRecording turn) tree turn := ⟨rfl, by simp [Webhook.tree?]⟩
  have htranscribe : IsFor (.transcribe turn) tree turn := ⟨rfl, by simp [Webhook.tree?]⟩
  intro callback hcallback
  rcases gather with _ | spec | spec | spec
  · obtain rfl : callback = (Webhook.promptResponse tree turn).path := by
      simpa [collect, Verb.callbacksOf, Verb.callbacks, Verb.redirect_eq, callbackValues_nil]
        using hcallback
    exact ⟨_, rfl, hresponse⟩
  · have hmem : callback = (Webhook.promptResponse tree turn).path ∨
        callback = (Webhook.timeout tree turn).path := by
      simpa [collect, Verb.callbacksOf, Verb.callbacks, Verb.redirect_eq, hinside,
        callbackValues_nil, callbackValues_cons, callbackValues_append,
        callbackValues_optional, callbackNames, numberAttribute, flagAttribute]
        using hcallback
    rcases hmem with rfl | rfl
    · exact ⟨_, rfl, hresponse⟩
    · exact ⟨_, rfl, htimeout⟩
  · cases htranscription : spec.transcribe with
    | false =>
        have hmem : callback = (Webhook.promptResponse tree turn).path ∨
            callback = (Webhook.receiveRecording turn).path := by
          simpa [collect, Verb.callbacksOf, Verb.callbacks, htranscription, callbackValues_nil,
            callbackValues_cons, callbackValues_append, callbackValues_optional,
            callbackValues_ite, callbackNames, numberAttribute, flagAttribute] using hcallback
        rcases hmem with rfl | rfl
        · exact ⟨_, rfl, hresponse⟩
        · exact ⟨_, rfl, hrecording⟩
    | true =>
        have hmem : callback = (Webhook.promptResponse tree turn).path ∨
            callback = (Webhook.receiveRecording turn).path ∨
              callback = (Webhook.transcribe turn).path := by
          simpa [collect, Verb.callbacksOf, Verb.callbacks, htranscription, callbackValues_nil,
            callbackValues_cons, callbackValues_append, callbackValues_optional,
            callbackValues_ite, callbackNames, numberAttribute, flagAttribute] using hcallback
        rcases hmem with rfl | rfl | rfl
        · exact ⟨_, rfl, hresponse⟩
        · exact ⟨_, rfl, hrecording⟩
        · exact ⟨_, rfl, htranscribe⟩
  · obtain rfl : callback = (Webhook.promptResponse tree turn).path := by
      simpa [collect, Verb.callbacksOf, Verb.callbacks, hinside, callbackValues_nil,
        callbackValues_cons, callbackValues_append, callbackValues_optional,
        callbackValues_ite, callbackNames, numberAttribute, flagAttribute]
        using hcallback
    exact ⟨_, rfl, hresponse⟩

/-- An answer tells the provider to call back for the turn that begins or for the one that it is
about, on the tree that is walked. -/
theorem Leads.callbacks {turn? next : Option Turn} {response : VoiceResponse}
    (h : scene.Leads session turn? response next) :
    ∀ callback ∈ response.callbacks, ∃ webhook turn, webhook.path = callback ∧
      IsFor webhook scene.tree.name turn.id ∧ (next = some turn ∨ turn? = some turn) := by
  intro callback hcallback
  cases h with
  | hangup said =>
      rw [VoiceResponse.callbacks, Verb.callbacksOf_append, said.callbacks] at hcallback
      cases hcallback
  | @next verbs handle said known =>
      rw [VoiceResponse.callbacks, Verb.callbacksOf_append, said.callbacks] at hcallback
      obtain rfl : callback =
          (Webhook.prompt scene.tree.name (scene.beginTurn session handle).id).path := by
        simpa [Verb.callbacksOf, Verb.callbacks, Verb.redirect_eq, callbackValues_nil] using hcallback
      refine ⟨_, scene.beginTurn session handle, rfl, ⟨rfl, ?_⟩, .inl rfl⟩
      simp [Webhook.tree?]
  | @collect turn before inside gather about said saidInside =>
      rw [VoiceResponse.callbacks, Verb.callbacksOf_append, said.callbacks] at hcallback
      obtain ⟨webhook, hpath, hfor⟩ := collect_callbacks saidInside.callbacks callback hcallback
      exact ⟨webhook, turn, hpath, hfor, .inr about⟩

end FlowScene

namespace OpenWorld

variable {state state' : OpenWorld}

/-- A call has a turn: both are found by those who look for them. -/
def CallHasTurn (state : OpenWorld) (sid : String) (id : TurnId) : Prop :=
  ∃ session turn, state.store.sessionBySid sid = some session ∧
    state.store.turnById id = some turn ∧ turn.session = session.id

theorem callHasTurn_of_mem {call : CallFacts} {turn : TurnFacts} (h : state.Intact)
    (hcall : call ∈ state.callFacts) (hturn : turn ∈ state.turnFacts)
    (howned : turn.session = call.id) : state.CallHasTurn call.sid turn.id := by
  obtain ⟨row, hrow, rfl⟩ := List.mem_map.mp hcall
  obtain ⟨stored, hstored, rfl⟩ := List.mem_map.mp hturn
  have hsids : (state.store.sessions.map (·.sid)).Nodup := by
    have hsids := h.sids
    rw [callFacts, Store.callFacts, List.map_map] at hsids
    exact hsids
  have hids : (state.store.turns.map (·.id)).Nodup := by
    have hids := h.turnIds
    rw [turnFacts, Store.turnFacts, List.map_map] at hids
    exact hids
  refine ⟨state.store.load row, stored, ?_, find_of_nodup hids hstored, howned⟩
  have hfound : state.store.sessions.find? (fun other => other.sid == row.sid) = some row :=
    find_of_nodup hsids hrow
  change (state.store.sessions.find? fun other => other.sid == row.sid).map _ = _
  rw [hfound]
  rfl

end OpenWorld

/-- Any commands, with any number of conflicts coming due in between. -/
def Traffic.any : Traffic where
  Admits _ _ := True
  Stirs state state' := ∃ due, state' = state.withConflicts due

theorem Served.keeps {account : Service.Account} {registry : Registry} {start state : OpenWorld}
    {served : List (Command × Except CallError Outcome)} (h : start.Intact)
    (run : Served account registry .any start served state) :
    state.Intact ∧ (∀ call ∈ start.callFacts, call ∈ state.callFacts) ∧
      ∀ turn ∈ start.turnFacts, turn ∈ state.turnFacts := by
  induction run with
  | nothing => exact ⟨h, fun _ hcall => hcall, fun _ hturn => hturn⟩
  | stir before stirred ih =>
      obtain ⟨due, rfl⟩ := stirred
      obtain ⟨hintact, hcalls, hturns⟩ := ih
      exact ⟨hintact.withConflicts due, hcalls, hturns⟩
  | serve before admitted run ih =>
      obtain ⟨hintact, hcalls, hturns⟩ := ih
      obtain ⟨calls, turns, hextends, _⟩ := Command.extends_of_runs hintact run
      refine ⟨hextends.intact, ?_, ?_⟩
      · exact fun call hcall => hextends.mem_calls (hcalls call hcall)
      · exact fun turn hturn => hextends.mem_turns (hturns turn hturn)

/-- Whether an error says that a tree, a call or a turn cannot be found. -/
def CallError.isNotFound : CallError → Bool
  | treeNotFound _ | callNotFound _ | turnNotFound _ => true
  | _ => false

/-- A webhook for a turn of a call can be answered: its tree is registered, the call has the turn,
and no command for the call at the webhook misses any of them. -/
structure Webhook.Answerable (account : Service.Account) (registry : Registry)
    (state : OpenWorld) (sid : String) (webhook : Webhook) (turn : TurnId) : Prop where
  tree : ∀ name, webhook.tree? = some name → (registry.get? name).isSome = true
  turn : state.CallHasTurn sid turn
  found : ∀ params error state', params.callSid? = some sid →
    Action.Runs OpenWorld.rules (webhook.action account registry params) state (.error error)
      state' → error.isNotFound = false

section Answerable

variable {account : Service.Account} {registry : Registry} {state : OpenWorld}

theorem answerable_of_mem {webhook : Webhook} {call : CallFacts} {turn : TurnFacts}
    (h : state.Intact) (hcall : call ∈ state.callFacts) (hturn : turn ∈ state.turnFacts)
    (howned : turn.session = call.id) (hid : webhook.turn? = some turn.id)
    (htree : ∀ name, webhook.tree? = some name → (registry.get? name).isSome = true) :
    webhook.Answerable account registry state call.sid turn.id := by
  refine ⟨htree, OpenWorld.callHasTurn_of_mem h hcall hturn howned, ?_⟩
  intro params error state' hsid run
  cases Webhook.ends_of_runs h run with
  | refused extension cause calm =>
      cases cause with
      | unknownTree named absent =>
          have hsome := htree _ named
          rw [absent] at hsome
          cases hsome
      | unknownCall about absent =>
          rw [hsid] at about
          exact absurd (Option.some.inj about) (absent call hcall)
      | unknownTurn about stored named absent =>
          rw [hsid] at about
          rw [hid] at named
          obtain rfl := OpenWorld.eq_of_nodup h.sids hcall stored (Option.some.inj about)
          exact absurd howned (absent turn hturn (Option.some.inj named))
      | invalid | disturbed due | broken walks => rfl

/-- Every address at which an answer tells the provider to call back can be called for good: in the
state in which the answer is given and in every later one. -/
theorem callbacks_stay_answerable {start answered last : OpenWorld}
    {served later : List (Command × Except CallError Outcome)} {entry : Webhook} {params : Params}
    {outcome : Outcome} {response : VoiceResponse} {sid : String} (empty : start.store = {})
    (before : Served account registry .any start served state)
    (run : Action.Runs OpenWorld.rules (entry.action account registry params) state (.ok outcome)
      answered)
    (answer : outcome.response? = some response) (about : params.callSid? = some sid)
    (after : Served account registry .any answered later last) :
    ∀ callback ∈ response.callbacks,
      (∃ (webhook : Webhook) (turn : TurnId), webhook.path = callback ∧
        webhook.turn? = some turn) ∧
        ∀ (webhook : Webhook) (turn : TurnId), webhook.path = callback →
          webhook.turn? = some turn → webhook.Answerable account registry last sid turn := by
  have hstart : start.Intact := by
    apply OpenWorld.intact_of_empty <;> rw [empty]
  have hintact := (before.keeps hstart).1
  cases Webhook.ends_of_runs hintact run with
  | quiet extension silent =>
      rw [silent] at answer
      cases answer
  | @walked _ scene session turn? step calls _ walks extension response =>
      rw [response] at answer
      obtain rfl := Option.some.inj answer
      have hsid : session.sid = sid := by
        rw [walks.sid] at about
        exact Option.some.inj about
      obtain ⟨hlast, hcalls, hturns⟩ := after.keeps extension.intact
      intro callback hcallback
      have hgoes := walks.takes.goes
      obtain ⟨named, turn, hpath, hfor, hturn⟩ := hgoes.leads.callbacks callback hcallback
      have hstored : turn.facts ∈ answered.turnFacts ∧ turn.session = session.id := by
        rcases hturn with hnext | hcurrent
        · obtain ⟨handle, _, hbegun⟩ := hgoes.begins hnext
          refine ⟨?_, by rw [hbegun]; rfl⟩
          rw [extension.turns, Service.begun, hnext]
          simp
        · obtain ⟨hmem, howned⟩ := walks.owned turn hcurrent
          exact ⟨extension.mem_turns hmem, howned⟩
      refine ⟨⟨named, turn.id, hpath, hfor.turn⟩, ?_⟩
      intro webhook id hsame hid
      obtain rfl := Webhook.eq_of_path_eq hid hfor.turn (hsame.trans hpath.symm)
      obtain rfl : turn.id = id := by
        rw [hfor.turn] at hid
        exact Option.some.inj hid
      rw [← hsid]
      refine answerable_of_mem hlast (hcalls _ walks.stored) (hturns _ hstored.1) hstored.2 hid ?_
      intro name hname
      rw [hfor.tree name hname, walks.registered]
      rfl

end Answerable

section Question

/-- A tree with one question. -/
def questionTree : Tree where
  name := "main"
  config := {}
  greeting := .goto ⟨"question"⟩
  prompts := [
    { handle := ⟨"question"⟩, messages := .ofText "Hello?", gather := some default, after := .hangup }]

def questionParams : Params :=
  ⟨[("CallSid", "CA0"), ("From", "+12025550123")]⟩

def questionCall : Action Outcome :=
  (Webhook.inbound "main").action default ⟨[questionTree]⟩ questionParams

/-- The first answer to the call, and the world after it. -/
def questionAnswer : Except CallError Outcome × World :=
  World.perform questionCall {}

/-- The answer to the call when it comes in again, and the world after it. -/
def questionAnswerAgain : Except CallError Outcome × World :=
  World.perform questionCall questionAnswer.2

theorem questionAnswer_calls_back :
    ((questionAnswer.1.toOption.bind Outcome.response?).any fun response =>
      !response.callbacks.isEmpty) = true := by
  decide +kernel

theorem question_stays_answerable :
    ∃ outcome response, questionAnswer.1 = .ok outcome ∧ outcome.response? = some response ∧
      response.callbacks ≠ [] ∧
      ∀ callback ∈ response.callbacks,
        (∃ (webhook : Webhook) (turn : TurnId), webhook.path = callback ∧
          webhook.turn? = some turn) ∧
          ∀ (webhook : Webhook) (turn : TurnId), webhook.path = callback →
            webhook.turn? = some turn →
              webhook.Answerable default ⟨[questionTree]⟩ (.ofWorld questionAnswerAgain.2) "CA0"
                turn := by
  obtain ⟨response, hresponse, hcallbacks⟩ := (Option.any_eq_true _ _).mp questionAnswer_calls_back
  obtain ⟨outcome, houtcome, hmarkup⟩ := Option.bind_eq_some_iff.mp hresponse
  have hok : questionAnswer.1 = .ok outcome := by
    cases hresult : questionAnswer.1 with
    | error error =>
        rw [hresult] at houtcome
        cases houtcome
    | ok other =>
        rw [hresult] at houtcome
        exact congrArg Except.ok (Option.some.inj houtcome)
  have hfirst : Action.Runs OpenWorld.rules
      ((Webhook.inbound "main").action default ⟨[questionTree]⟩ questionParams) (.ofWorld {})
        (.ok outcome) (.ofWorld questionAnswer.2) := by
    rw [← hok]
    exact OpenWorld.runs_perform questionCall {} (by decide +kernel)
  have hagain : Action.Runs OpenWorld.rules
      (Command.action default ⟨[questionTree]⟩ (.webhook (.inbound "main") questionParams))
        (.ofWorld questionAnswer.2) questionAnswerAgain.1 (.ofWorld questionAnswerAgain.2) :=
    OpenWorld.runs_perform questionCall questionAnswer.2 (by decide +kernel)
  refine ⟨outcome, response, hok, hmarkup, by simpa using hcallbacks, ?_⟩
  exact callbacks_stay_answerable rfl .nothing hfirst hmarkup (by decide +kernel)
    (.serve .nothing trivial hagain)

end Question

end PhoneTree

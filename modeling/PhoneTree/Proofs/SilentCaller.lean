import PhoneTree.Proofs.Callbacks
import PhoneTree.Proofs.StaticTree
import PhoneTree.Proofs.TurnConduct
/-!
A silent caller is always let go.

Every timeout that does not end the call begins another turn on a prompt of the tree. On every prompt
this happens less often than the tree allows timeouts, since the turns that timed out on a prompt are
the last turns of the call there. So the prompts bound the number of timeouts, however the tree leads
from one to another and whatever the clock shows.
-/
namespace PhoneTree

open Service

/-- The reply of an outcome that answers a webhook. -/
def Outcome.reply? : Outcome → Option Reply
  | greeted _ reply => some reply
  | replied reply => some reply
  | _ => none

/-- The outcome sends the call on to the prompt of a turn. -/
def Outcome.SendsTo (tree : String) (turn : TurnId) (outcome : Outcome) : Prop :=
  ∃ verbs, outcome.reply? =
    some ⟨⟨verbs ++ [⟨.redirect, [], some (Webhook.prompt tree turn).path, []⟩]⟩, .redirect⟩

/-- A verb that sends the call to a path and says nothing else. -/
def Verb.isRedirect (path : String) (verb : Verb) : Bool :=
  verb.kind == .redirect && verb.attributes.isEmpty && verb.text == some path
    && verb.children.isEmpty

theorem Verb.isRedirect_iff {path : String} {verb : Verb} :
    verb.isRedirect path = true ↔ verb = ⟨.redirect, [], some path, []⟩ := by
  cases verb
  simp [isRedirect, and_assoc]

instance {tree : String} {turn : TurnId} {outcome : Outcome} :
    Decidable (outcome.SendsTo tree turn) :=
  decidable_of_iff
    (outcome.reply?.any (fun reply => reply.outcome == .redirect &&
      reply.response.verbs.getLast?.any (Verb.isRedirect (Webhook.prompt tree turn).path)) = true)
    (by
      rw [Option.any_eq_true]
      constructor
      · rintro ⟨⟨⟨verbs⟩, result⟩, hreply, hsends⟩
        rw [Bool.and_eq_true, beq_iff_eq, Option.any_eq_true] at hsends
        obtain ⟨rfl, verb, hverb, hredirect⟩ := hsends
        obtain ⟨before, rfl⟩ := List.getLast?_eq_some_iff.mp hverb
        rw [Verb.isRedirect_iff] at hredirect
        rw [hredirect] at hreply
        exact ⟨before, hreply⟩
      · rintro ⟨verbs, hreply⟩
        exact ⟨_, hreply, by simp [Verb.isRedirect_iff]⟩)

/-- The answer ends with a hangup that nothing follows. -/
def Outcome.EndsCall (outcome : Outcome) : Prop :=
  ∃ verbs result, outcome.reply? = some ⟨⟨verbs ++ [⟨.hangup, [], none, []⟩]⟩, result⟩ ∧
    result ∈ [.hangup, .finalTimeout, .answeringMachine]

/-- A call on a tree whose caller is silent, with the number of timeouts that went on to another
turn and the turn that the last of them began. In between may come whatever leaves turns alone. -/
inductive Silent (account : Account) (registry : Registry) (name : String) (start : OpenWorld) :
    Nat → TurnId → OpenWorld → Prop
  | greeted {entry : Webhook} {params : Params} {sid : String} {outcome : Outcome} {turn : TurnId}
      {state : OpenWorld} (greets : entry = .inbound name ∨ entry = .outbound name)
      (about : params.callSid? = some sid)
      (new : ∀ session ∈ start.store.sessions, session.sid = sid →
        start.store.turnsOf session.id = [])
      (run : Action.Runs OpenWorld.rules (entry.action account registry params) start (.ok outcome)
        state)
      (sends : outcome.SendsTo name turn) : Silent account registry name start 0 turn state
  | timedOut {count : Nat} {turn next : TurnId} {params : Params} {outcome : Outcome}
      {state state' : OpenWorld} (before : Silent account registry name start count turn state)
      (run : Action.Runs OpenWorld.rules ((Webhook.timeout name turn).action account registry params)
        state (.ok outcome) state')
      (sends : outcome.SendsTo name next) :
      Silent account registry name start (count + 1) next state'
  | aside {count : Nat} {turn : TurnId} {command : Command} {result : Except CallError Outcome}
      {parts : List Part} {state state' : OpenWorld}
      (before : Silent account registry name start count turn state)
      (touches : (command.action account registry).Touches parts) (leaves : .turns ∉ parts)
      (run : Action.Runs OpenWorld.rules (command.action account registry) state result state') :
      Silent account registry name start count turn state'

/-- How many of some turns are on a prompt. -/
def countOn (handle : PromptHandle) (turns : List Turn) : Nat :=
  turns.countP fun turn => turn.handle == handle

/-- The turns of a call whose caller is silent: those that timed out, fewer on every prompt than the
tree allows timeouts, and the one that has just begun. -/
structure Silence (tree : Tree) (store : Store) (past : List Turn) (current : Turn) : Prop where
  ids : (store.turns.map (·.id)).Nodup
  turns : store.turnsOf current.session = past ++ [current]
  timedOut : ∀ turn ∈ past, turn.timedOut = true
  blank : current.IsBlank
  known : ∀ turn ∈ past ++ [current], turn.handle ∈ tree.prompts.map (·.handle)
  few : ∀ handle, countOn handle past < tree.config.finalTimeoutAttempts

/-- Turns that stand on few prompts, and on each of them not often, are not many. -/
theorem length_le_of_countOn {handles : List PromptHandle} {turns : List Turn} {most : Nat}
    (known : ∀ turn ∈ turns, turn.handle ∈ handles) (few : ∀ handle, countOn handle turns ≤ most) :
    turns.length ≤ handles.length * most := by
  induction handles generalizing turns with
  | nil =>
      cases turns with
      | nil => simp
      | cons turn rest => simpa using known turn
  | cons handle handles ih =>
      have hothers : (turns.filter fun turn => !(turn.handle == handle)).length ≤
          handles.length * most := by
        apply ih
        · intro turn hturn
          obtain ⟨hturn, hother⟩ := List.mem_filter.mp hturn
          have hne : turn.handle ≠ handle := by simpa using hother
          exact List.mem_of_ne_of_mem hne (known turn hturn)
        · intro other
          exact Nat.le_trans (List.filter_sublist.countP_le) (few other)
      have hsplit : turns.length = _ :=
        List.length_eq_countP_add_countP fun turn : Turn => turn.handle == handle
      have hhandle : turns.countP (fun turn => turn.handle == handle) ≤ most := few handle
      rw [← List.countP_eq_length_filter] at hothers
      rw [List.length_cons, Nat.add_mul, Nat.one_mul]
      simp only [decide_not, Bool.decide_eq_true] at hsplit
      omega

namespace Store

variable {store : Store}

theorem latestTurns_eq (session : SessionId) (handle : PromptHandle) (limit : Nat) :
    store.latestTurns session handle limit =
      ((store.turnsOf session).filter fun turn => turn.handle == handle).reverse.take limit := by
  rw [latestTurns, turnsOf, List.filter_filter, ← List.filter_reverse]
  congr 2
  funext turn
  exact Bool.and_comm _ _

end Store

namespace FlowScene

theorem timedOutTurn_of_blank {turn : Turn} (h : turn.IsBlank) :
    timedOutTurn turn = turn.markTimedOut := by
  rw [timedOutTurn, h]
  rfl

theorem timeoutWindow_perm {past : List Turn} {current updated : Turn}
    (ids : ((past ++ [current]).map (·.id)).Nodup) (same : updated.facts = current.facts) :
    (timeoutWindow updated
      ((past ++ [current]).filter fun turn => turn.handle == current.handle).reverse).Perm
        (updated :: past.filter fun turn => turn.handle == current.handle) := by
  have hid : updated.id = current.id := congrArg TurnFacts.id same
  have hhandle : updated.handle = current.handle := congrArg TurnFacts.handle same
  rw [timeoutWindow, hid, hhandle]
  refine (List.mergeSort_perm _ _).trans (List.Perm.cons _ ?_)
  have hpast : (past.filter fun turn => turn.id != current.id && turn.handle == current.handle) =
      past.filter fun turn => turn.handle == current.handle := by
    apply List.filter_congr
    intro turn hturn
    simp [ids_ne_of_nodup ids turn (List.mem_append_left [] hturn)]
  rw [← hpast]
  refine (List.reverse_perm _).symm.trans (.of_eq ?_)
  simp [List.filter_append, List.filter_reverse]

theorem isExhausted_of_countOn {past : List Turn} {current : Turn} {attempts : Nat}
    (ids : ((past ++ [current]).map (·.id)).Nodup) (timedOut : ∀ turn ∈ past, turn.timedOut = true)
    (blank : current.IsBlank) (all : countOn current.handle past + 1 = attempts) :
    (⟨attempts⟩ : TimeoutPolicy).isExhausted (timeoutWindow (timedOutTurn current)
      (((past ++ [current]).filter fun turn => turn.handle == current.handle).reverse.take
        attempts)) = true := by
  rw [countOn, List.countP_eq_length_filter] at all
  have hrecent : (((past ++ [current]).filter fun turn =>
      turn.handle == current.handle).reverse.take attempts) =
        ((past ++ [current]).filter fun turn => turn.handle == current.handle).reverse := by
    apply List.take_of_length_le
    simpa [List.filter_append] using Nat.le_of_eq all
  have hperm := timeoutWindow_perm ids (timedOutTurn_facts current)
  have hlength := hperm.length_eq
  rw [List.length_cons, all] at hlength
  rw [hrecent, TimeoutPolicy.isExhausted]
  simp only [List.take_of_length_le (Nat.le_of_eq hlength), hlength, beq_self_eq_true,
    Bool.and_true, Bool.and_eq_true, decide_eq_true_eq, List.all_eq_true]
  refine ⟨by omega, ?_⟩
  intro turn hturn
  rcases List.mem_cons.mp (hperm.mem_iff.mp hturn) with rfl | hturn
  · rw [timedOutTurn_of_blank blank]
    rfl
  · exact timedOut turn (List.mem_filter.mp hturn |>.1)

theorem onTimeout_eq_ok {scene : FlowScene} {session : Session} {turn : Turn} {recent : List Turn}
    {step : FlowStep} (h : scene.onTimeout session turn recent = .ok step) :
    (∃ verbs result, (⟨step.response, step.outcome⟩ : Reply) = ⟨⟨verbs ++ [.hangup]⟩, result⟩ ∧
        result ∈ [.hangup, .finalTimeout, .answeringMachine]) ∨
      ∃ verbs handle, scene.Knows handle ∧
        (⟨scene.tree.config.finalTimeoutAttempts⟩ : TimeoutPolicy).isExhausted
          (timeoutWindow (timedOutTurn turn) recent) = false ∧
        step.write? = (if turn.isSettled then none else some (.timeout turn.id)) ∧
        step.nextTurn = some (scene.beginTurn session handle) ∧
        (⟨step.response, step.outcome⟩ : Reply) =
          ⟨⟨verbs ++ [.redirect (Webhook.prompt scene.tree.name
            (scene.beginTurn session handle).id).path]⟩, .redirect⟩ := by
  have hwrite := onTimeout_write? h
  rw [onTimeout] at h
  split at h
  · rw [← Except.ok.inj h]
    exact .inl ⟨[], .answeringMachine, rfl, by simp⟩
  · dsimp only at h
    split at h
    · obtain ⟨verbs, _, hstep⟩ := bind_eq_ok.mp h
      rw [← Except.ok.inj hstep]
      exact .inl ⟨verbs, .finalTimeout, rfl, by simp⟩
    · rename_i hleft
      obtain ⟨_, _, followed, _, _, hfollow, rfl⟩ := leavePrompt_eq_ok.mp h
      obtain ⟨verbs, _, ⟨_, rfl⟩ | ⟨handle, _, hknown, rfl⟩⟩ := follow_eq_ok.mp hfollow
      · exact .inl ⟨verbs, .hangup, rfl, by simp⟩
      · have hturn : scene.beginTurn (session.recordTurn (timedOutTurn turn)) handle =
            scene.beginTurn session handle := by
          rw [beginTurn, recordTurn_id]
          rfl
        rw [hturn] at hwrite ⊢
        refine .inr ⟨verbs, handle, hknown, eq_false_of_ne_true hleft, ?_, rfl, rfl⟩
        rcases hwrite with hmachine | hwrite
        · cases congrArg FlowStep.outcome hmachine
        · exact hwrite

end FlowScene

section Silence

variable {tree : Tree} {store store' : Store} {past : List Turn} {current : Turn}

theorem Silence.ids_nodup (h : Silence tree store past current) :
    ((past ++ [current]).map (·.id)).Nodup := by
  rw [← h.turns]
  exact h.ids.sublist (List.filter_sublist.map _)

theorem Silence.found (h : Silence tree store past current) :
    store.turnById current.id = some current := by
  have hmem : current ∈ store.turnsOf current.session := by
    rw [h.turns]
    simp
  exact OpenWorld.find_of_nodup h.ids (List.mem_filter.mp hmem).1

theorem Silence.of_turns (h : Silence tree store past current) (same : store'.turns = store.turns) :
    Silence tree store' past current := by
  refine ⟨?_, ?_, h.timedOut, h.blank, h.known, h.few⟩
  · rw [same]
    exact h.ids
  · rw [Store.turnsOf, same]
    exact h.turns

theorem Turn.IsBlank.eq_of_facts {turn other : Turn} (h : turn.IsBlank) (h' : other.IsBlank)
    (same : turn.facts = other.facts) : turn = other := by
  rw [h, h']
  cases turn
  cases other
  cases same
  rfl

theorem Turn.IsBlank.isSettled_eq (h : current.IsBlank) : current.isSettled = false := by
  rw [h]
  rfl

theorem Silence.written (h : Silence tree store past current) :
    (Store.writtenTurns [.timeout current.id] store.turns).filter
        (fun turn => turn.session == current.session) = past ++ [current.markTimedOut] := by
  have hturns := h.turns
  rw [Store.turnsOf] at hturns
  rw [Store.writtenTurns_eq_map h.ids, List.filter_map]
  have hsession : ((fun turn : Turn => turn.session == current.session) ∘
      fun turn : Turn => turn.filledBy [.timeout current.id]) =
        fun turn : Turn => turn.session == current.session :=
    rfl
  rw [hsession, hturns, List.map_append, List.map_singleton, Turn.filledBy_timeout,
    Turn.filledBy_nil]
  congr 1
  refine (List.map_congr_left ?_).trans (List.map_id _)
  intro turn hturn
  have hother : TurnWrite.turn (.timeout current.id) ≠ turn.id :=
    (ids_ne_of_nodup h.ids_nodup turn (List.mem_append_left [] hturn)).symm
  rw [Turn.filledBy_other [] hother, Turn.filledBy_nil]
  rfl

theorem Silence.next {scene : FlowScene} {session : Session} {step : FlowStep}
    {handle : PromptHandle} (h : Silence scene.tree store past current)
    (owned : current.session = session.id) (known : scene.Knows handle)
    (left : (⟨scene.tree.config.finalTimeoutAttempts⟩ : TimeoutPolicy).isExhausted
      (FlowScene.timeoutWindow (FlowScene.timedOutTurn current) (store.latestTurns current.session
        current.handle scene.tree.config.finalTimeoutAttempts)) = false)
    (write : step.write? = if current.isSettled then none else some (.timeout current.id))
    (begins : step.nextTurn = some (scene.beginTurn session handle))
    (fresh : ∀ turn ∈ step.nextTurn, turn.id ∉ store.turns.map (·.id))
    (turns : store'.turns = step.turnsAfter store.turns) :
    Silence scene.tree store' (past ++ [current.markTimedOut]) (scene.beginTurn session handle) := by
  rw [h.blank.isSettled_eq] at write
  rw [FlowStep.turnsAfter, write, begins] at turns
  change store'.turns = Store.writtenTurns [.timeout current.id] store.turns ++ [_] at turns
  refine ⟨?_, ?_, ?_, beginTurn_isBlank scene session handle, ?_, ?_⟩
  · rw [turns, List.map_append, Store.map_writtenTurns TurnWrite.change_id, List.nodup_append]
    refine ⟨h.ids, by simp, ?_⟩
    intro id hid other hother heq
    rw [heq, List.mem_singleton.mp hother] at hid
    exact fresh _ begins hid
  · have hsession : (scene.beginTurn session handle).session = current.session := owned.symm
    rw [Store.turnsOf, turns, hsession, List.filter_append, h.written]
    simp [hsession]
  · intro turn hturn
    rcases List.mem_append.mp hturn with hturn | hturn
    · exact h.timedOut turn hturn
    · obtain rfl := List.mem_singleton.mp hturn
      rfl
  · intro turn hturn
    rcases List.mem_append.mp hturn with hturn | hturn
    · rcases List.mem_append.mp hturn with hturn | hturn
      · exact h.known turn (List.mem_append_left _ hturn)
      · obtain rfl := List.mem_singleton.mp hturn
        exact h.known current (by simp)
    · obtain rfl := List.mem_singleton.mp hturn
      exact Tree.prompt?_isSome.mp known
  · intro other
    have hfew := h.few other
    rw [countOn, List.countP_append, ← countOn]
    by_cases hhandle : current.handle = other
    · have hleft : countOn current.handle past + 1 ≠ scene.tree.config.finalTimeoutAttempts := by
        intro hall
        rw [Store.latestTurns_eq, h.turns,
          FlowScene.isExhausted_of_countOn h.ids_nodup h.timedOut h.blank hall] at left
        cases left
      have hmarked : [current.markTimedOut].countP (fun turn => turn.handle == other) = 1 := by
        simp [Turn.markTimedOut, hhandle]
      rw [hhandle] at hleft
      rw [hmarked]
      omega
    · simpa [Turn.markTimedOut, hhandle] using hfew

end Silence

section Runs

variable {account : Account} {registry : Registry} {name : String} {tree : Tree}
  {first start state : OpenWorld}

theorem Outcome.response?_eq (outcome : Outcome) :
    outcome.response? = outcome.reply?.map (·.response) := by
  cases outcome <;> rfl

theorem path_prompt_injective {other : String} {turn turn' : TurnId}
    (h : (Webhook.prompt name turn).path = (Webhook.prompt other turn').path) : turn = turn' := by
  have hsame := Webhook.eq_of_path_eq rfl rfl h
  exact (Webhook.prompt.inj hsame).2

theorem redirect_injective {verbs verbs' : List Verb} {path path' : String}
    (h : verbs ++ [⟨.redirect, [], some path, []⟩] = verbs' ++ [⟨.redirect, [], some path', []⟩]) :
    path = path' := by
  have hlast := List.head_eq_of_cons_eq (List.append_inj' h rfl).2
  exact Option.some.inj (congrArg Verb.text hlast)

theorem FlowScene.Goes.sends {scene : FlowScene} {session : Session} {step : FlowStep}
    {verbs : List Verb} {turn : TurnId} (h : scene.Goes session none step)
    (sends : step.response =
      ⟨verbs ++ [⟨.redirect, [], some (Webhook.prompt name turn).path, []⟩]⟩) :
    ∃ handle, scene.Knows handle ∧ step.nextTurn = some (scene.beginTurn session handle) ∧
      turn = (scene.beginTurn session handle).id := by
  have hleads := h.leads
  rw [sends] at hleads
  generalize hresponse : VoiceResponse.mk (verbs ++
    [⟨.redirect, [], some (Webhook.prompt name turn).path, []⟩]) = response at hleads
  generalize hnext : step.nextTurn = next at hleads
  cases hleads with
  | hangup said =>
      have hverbs := (List.append_inj' (congrArg VoiceResponse.verbs hresponse) rfl).2
      cases congrArg Verb.kind (List.head_eq_of_cons_eq hverbs)
  | next said known =>
      refine ⟨_, known, rfl, ?_⟩
      exact path_prompt_injective (redirect_injective (congrArg VoiceResponse.verbs hresponse))
  | collect about said saidInside => cases about

theorem greeting_conductsTurns {entry : Webhook} {params : Params}
    (greets : entry = .inbound name ∨ entry = .outbound name) :
    ConductsTurns (entry.action account registry params) start fun _ state' =>
      ∃ turns : List Turn, (∀ turn ∈ turns, turn.IsBlank) ∧
        state'.store.turns = start.store.turns ++ turns := by
  rcases greets with rfl | rfl
  · refine conductsTurns_bind.mpr (inboundCall_conductsTurns ?_)
    intro _ step _ hblank hturns
    exact ⟨step.nextTurn.toList, by simpa using hblank, hturns⟩
  · refine conductsTurns_bind.mpr (outboundCall_conductsTurns ?_)
    intro step _ hblank hturns
    exact ⟨step.nextTurn.toList, by simpa using hblank, hturns⟩

theorem Webhook.Walks.turnsOf_eq_nil {entry : Webhook} {params : Params} {sid : String}
    {scene : FlowScene} {session : Session} {turn? : Option Turn}
    {result : Except FlowError FlowStep} {calls : List CallFacts} {turns : List TurnFacts}
    (walks : entry.Walks registry start state params scene session turn? result)
    (intact : start.Intact) (extension : start.Extends state calls turns)
    (about : params.callSid? = some sid)
    (new : ∀ session ∈ start.store.sessions, session.sid = sid →
      start.store.turnsOf session.id = []) : start.store.turnsOf session.id = [] := by
  by_cases hold : session.facts ∈ start.callFacts
  · obtain ⟨row, hrow, hfacts⟩ := List.mem_map.mp hold
    have hid : row.id = session.id := congrArg CallFacts.id hfacts
    have hsid : row.sid = session.sid := congrArg CallFacts.sid hfacts
    rw [← hid]
    refine new row hrow ?_
    rw [hsid]
    exact Option.some.inj (walks.sid.symm.trans about)
  · rw [Store.turnsOf, List.filter_eq_nil_iff]
    intro turn hturn howned
    obtain ⟨call, hcall, hid⟩ := intact.owned turn.facts (List.mem_map_of_mem hturn)
    have hsession : turn.session = session.id := by simpa using howned
    have hsame := OpenWorld.eq_of_nodup extension.intact.sessionIds (extension.mem_calls hcall)
      walks.stored (hid.trans hsession)
    exact hold (hsame ▸ hcall)

theorem silence_of_greeted {entry : Webhook} {params : Params} {sid : String} {outcome : Outcome}
    {turn : TurnId} (intact : start.Intact) (registered : registry.get? name = some tree)
    (positive : 0 < tree.config.finalTimeoutAttempts)
    (greets : entry = .inbound name ∨ entry = .outbound name)
    (about : params.callSid? = some sid)
    (new : ∀ session ∈ start.store.sessions, session.sid = sid →
      start.store.turnsOf session.id = [])
    (run : Action.Runs OpenWorld.rules (entry.action account registry params) start (.ok outcome)
      state)
    (sends : outcome.SendsTo name turn) :
    ∃ current, Silence tree state.store [] current ∧ current.id = turn := by
  obtain ⟨verbs, hreply⟩ := sends
  have hentry : entry.tree? = some name ∧ entry.turn? = none := by
    rcases greets with rfl | rfl <;> exact ⟨rfl, rfl⟩
  obtain ⟨turns, hblank, hturns⟩ := (greeting_conductsTurns greets).of_runs run
  cases Webhook.ends_of_runs intact run with
  | quiet extension silent =>
      rw [Outcome.response?_eq, hreply] at silent
      cases silent
  | @walked _ scene session turn? step calls _ walks extension response =>
      rw [Outcome.response?_eq, hreply] at response
      have hnone : turn? = none := by
        have hturn := walks.turn
        rw [hentry.2] at hturn
        exact Option.map_eq_none_iff.mp hturn
      have hname : scene.tree.name = name := Option.some.inj (walks.tree.symm.trans hentry.1)
      have htree : scene.tree = tree := by
        have hregistered := walks.registered
        rw [hname, registered] at hregistered
        exact (Option.some.inj hregistered).symm
      have hgoes := walks.takes.goes
      rw [hnone] at hgoes
      obtain ⟨handle, hknown, hnext, rfl⟩ := hgoes.sends (Option.some.inj response).symm
      -- the facts of the turn that was begun are those of the blank turn that was stored
      have hfacts : turns.map Turn.facts = [(scene.beginTurn session handle).facts] := by
        have hall := extension.turns
        rw [OpenWorld.turnFacts, OpenWorld.turnFacts, Store.turnFacts, hturns, List.map_append,
          begun, hnext] at hall
        exact List.append_cancel_left hall
      have hbegun : turns = [scene.beginTurn session handle] := by
        obtain ⟨stored, rfl, hsame⟩ := List.map_eq_singleton_iff.mp hfacts
        rw [(hblank stored (by simp)).eq_of_facts (beginTurn_isBlank scene session handle) hsame]
      refine ⟨scene.beginTurn session handle, ?_, rfl⟩
      refine ⟨?_, ?_, by simp, beginTurn_isBlank scene session handle, ?_, ?_⟩
      · have hids := extension.intact.turnIds
        rw [OpenWorld.turnFacts, Store.turnFacts, List.map_map] at hids
        exact hids
      · have hempty := walks.turnsOf_eq_nil intact extension about new
        rw [Store.turnsOf] at hempty
        have hsession : (scene.beginTurn session handle).session = session.id := rfl
        rw [Store.turnsOf, hturns, List.filter_append, hsession, hempty, hbegun]
        simp [hsession]
      · intro turn hturn
        obtain rfl := List.mem_singleton.mp hturn
        rw [← htree]
        exact Tree.prompt?_isSome.mp hknown
      · intro other
        exact positive

/-- A timeout ends the call, or sends it on and leaves its caller silent. -/
theorem Silence.goes_on {past : List Turn} {current : Turn} {params : Params}
    (h : Silence tree state.store past current) (registered : registry.get? name = some tree) :
    ConductsTurns ((Webhook.timeout name current.id).action account registry params) state
      fun outcome state' => outcome.EndsCall ∨ ∃ next, outcome.SendsTo name next.id ∧
        Silence tree state'.store (past ++ [current.markTimedOut]) next := by
  refine conductsTurns_bind.mpr (timeout_conductsTurns ?_)
  intro scene session turn step state' hregistered hid hfound howned hstep hfresh hturns
  rw [hid, h.found] at hfound
  obtain rfl := Option.some.inj hfound
  obtain rfl := Option.some.inj (registered.symm.trans hregistered)
  obtain ⟨verbs, result, hreply, hresult⟩ | ⟨verbs, handle, hknown, hleft, hwrite, hnext, hreply⟩ :=
    FlowScene.onTimeout_eq_ok hstep
  · exact .inl ⟨verbs, result, congrArg some hreply, hresult⟩
  · refine .inr ⟨scene.beginTurn session handle, ⟨verbs, ?_⟩, ?_⟩
    · rw [name_of_get? registered] at hreply
      exact congrArg some hreply
    · exact h.next howned hknown hleft hwrite hnext hfresh hturns

theorem Outcome.SendsTo.unique {outcome : Outcome} {turn turn' : TurnId}
    (h : outcome.SendsTo name turn) (h' : outcome.SendsTo name turn') : turn = turn' := by
  obtain ⟨verbs, hreply⟩ := h
  obtain ⟨verbs', hreply'⟩ := h'
  have hsame := Option.some.inj (hreply.symm.trans hreply')
  exact path_prompt_injective
    (redirect_injective (congrArg (fun reply => reply.response.verbs) hsame))

theorem Outcome.SendsTo.not_endsCall {outcome : Outcome} {turn : TurnId}
    (h : outcome.SendsTo name turn) : ¬outcome.EndsCall := by
  obtain ⟨verbs, hreply⟩ := h
  rintro ⟨verbs', result, hreply', hresult⟩
  have hsame : StepOutcome.redirect = result :=
    congrArg Reply.outcome (Option.some.inj (hreply.symm.trans hreply'))
  rw [← hsame] at hresult
  simp at hresult

/-- A call whose caller is silent has as many turns that timed out as there were timeouts. -/
theorem Silent.silence {count : Nat} {turn : TurnId} (intact : start.Intact)
    (registered : registry.get? name = some tree)
    (positive : 0 < tree.config.finalTimeoutAttempts)
    (silent : Silent account registry name start count turn state) :
    ∃ past current, Silence tree state.store past current ∧ current.id = turn ∧
      past.length = count := by
  induction silent with
  | greeted greets about new run sends =>
      obtain ⟨current, hsilence, hid⟩ :=
        silence_of_greeted intact registered positive greets about new run sends
      exact ⟨[], current, hsilence, hid, rfl⟩
  | timedOut before run sends ih =>
      obtain ⟨past, current, hsilence, rfl, rfl⟩ := ih
      rcases (hsilence.goes_on registered).of_runs run with hends | ⟨next, hnext, hkept⟩
      · exact absurd hends sends.not_endsCall
      · exact ⟨_, next, hkept, hnext.unique sends, by simp⟩
  | aside before touches leaves run ih =>
      obtain ⟨past, current, hsilence, hid, hcount⟩ := ih
      have hturns := OpenWorld.turns_of_runs touches leaves run
      exact ⟨past, current, hsilence.of_turns hturns, hid, hcount⟩

theorem Silence.length_le {past : List Turn} {current : Turn}
    (h : Silence tree state.store past current) :
    past.length ≤ tree.prompts.length * (tree.config.finalTimeoutAttempts - 1) := by
  have hlength := length_le_of_countOn (fun turn hturn => h.known turn (List.mem_append_left _ hturn))
    fun handle => Nat.le_sub_one_of_lt (h.few handle)
  rwa [List.length_map] at hlength

/-- On a tree that the builder has accepted, the caller of a new call may be silent on every prompt
one time less often than the tree allows timeouts, whatever the clock shows. After that many
timeouts that send the call on, the next one that is answered ends the call. -/
theorem silent_callers_are_let_go {served : List (Command × Except CallError Outcome)}
    {count : Nat} {turn : TurnId} (accepted : tree.IsAccepted)
    (registered : registry.get? name = some tree) (empty : first.store = {})
    (before : Served account registry .any first served start)
    (silent : Silent account registry name start count turn state) :
    count ≤ tree.prompts.length * (tree.config.finalTimeoutAttempts - 1) ∧
      ∀ params outcome state', Action.Runs OpenWorld.rules
        ((Webhook.timeout name turn).action account registry params) state (.ok outcome) state' →
          outcome.EndsCall ∨ (∃ next, outcome.SendsTo name next) ∧
            count < tree.prompts.length * (tree.config.finalTimeoutAttempts - 1) := by
  have hfirst : first.Intact := by
    apply OpenWorld.intact_of_empty <;> rw [empty]
  obtain ⟨past, current, hsilence, rfl, rfl⟩ :=
    silent.silence (before.keeps hfirst).1 registered accepted.attempts_pos
  refine ⟨hsilence.length_le, ?_⟩
  intro params outcome state' run
  rcases (hsilence.goes_on registered).of_runs run with hends | ⟨next, hnext, hkept⟩
  · exact .inl hends
  · refine .inr ⟨⟨next.id, hnext⟩, ?_⟩
    have hlength := hkept.length_le
    rw [List.length_append] at hlength
    exact hlength

end Runs

section Loop

/-- A question that is asked again until the caller has missed it twice. -/
def loopDraft : TreeDraft where
  name := "main"
  config := { finalTimeoutAttempts := 2 }
  greeting := some (.goto ⟨"question"⟩)
  prompts := [
    { handle := ⟨"question"⟩, messages := .ofText "Hello?", gather := some default
      after := .goto ⟨"question"⟩ }]

def loopTree : Tree where
  name := loopDraft.name
  config := loopDraft.config
  greeting := .goto ⟨"question"⟩
  prompts := loopDraft.prompts

def loopParams : Params :=
  ⟨[("CallSid", "CA0"), ("From", "+12025550123")]⟩

def loopGreeted : Except CallError Outcome × World :=
  World.perform ((Webhook.inbound "main").action default ⟨[loopTree]⟩ loopParams) {}

def loopFirst : Except CallError Outcome × World :=
  World.perform ((Webhook.timeout "main" ⟨.ofNat 3⟩).action default ⟨[loopTree]⟩ loopParams)
    loopGreeted.2

theorem ok_of_any {result : Except CallError Outcome} {check : Outcome → Bool}
    (h : result.toOption.any check = true) :
    ∃ outcome, result = .ok outcome ∧ check outcome = true := by
  cases result with
  | error error => cases h
  | ok outcome => exact ⟨outcome, rfl, h⟩

theorem loopFirst_silent :
    Silent default ⟨[loopTree]⟩ "main" (.ofWorld {}) 1 ⟨.ofNat 4⟩ (.ofWorld loopFirst.2) := by
  have hgreeted : loopGreeted.1.toOption.any (fun outcome =>
      decide (outcome.SendsTo "main" ⟨.ofNat 3⟩)) = true := by
    decide +kernel
  have hfirst : loopFirst.1.toOption.any (fun outcome =>
      decide (outcome.SendsTo "main" ⟨.ofNat 4⟩)) = true := by
    decide +kernel
  have hcall : Action.Runs OpenWorld.rules
      ((Webhook.inbound "main").action default ⟨[loopTree]⟩ loopParams) (.ofWorld {})
        loopGreeted.1 (.ofWorld loopGreeted.2) :=
    OpenWorld.runs_perform _ {} (by decide +kernel)
  have htimeout : Action.Runs OpenWorld.rules
      ((Webhook.timeout "main" ⟨.ofNat 3⟩).action default ⟨[loopTree]⟩ loopParams)
        (.ofWorld loopGreeted.2) loopFirst.1 (.ofWorld loopFirst.2) :=
    OpenWorld.runs_perform _ loopGreeted.2 (by decide +kernel)
  generalize loopGreeted = greeted at hgreeted hcall htimeout
  generalize loopFirst = answered at hfirst htimeout ⊢
  obtain ⟨outcome, hok, hsends⟩ := ok_of_any hgreeted
  obtain ⟨outcome', hok', hsends'⟩ := ok_of_any hfirst
  rw [hok] at hcall
  rw [hok'] at htimeout
  refine .timedOut (.greeted (.inl rfl) rfl ?_ hcall (of_decide_eq_true hsends)) htimeout
    (of_decide_eq_true hsends')
  intro session hsession
  cases hsession

theorem loopFirst_is_the_last :
    1 = loopTree.prompts.length * (loopTree.config.finalTimeoutAttempts - 1) ∧
      ∀ params outcome state', Action.Runs OpenWorld.rules
        ((Webhook.timeout "main" ⟨.ofNat 4⟩).action default ⟨[loopTree]⟩ params)
          (.ofWorld loopFirst.2) (.ok outcome) state' → outcome.EndsCall := by
  have hsilent := loopFirst_silent
  generalize loopFirst = first at hsilent ⊢
  have haccepted : loopTree.IsAccepted := ⟨loopDraft, rfl⟩
  have hregistered : Registry.get? ⟨[loopTree]⟩ "main" = some loopTree := rfl
  obtain ⟨_, hnext⟩ := silent_callers_are_let_go haccepted hregistered rfl .nothing hsilent
  refine ⟨rfl, ?_⟩
  intro params outcome state' run
  rcases hnext params outcome state' run with hends | ⟨_, hless⟩
  · exact hends
  · exact absurd hless (by decide)

end Loop

end PhoneTree

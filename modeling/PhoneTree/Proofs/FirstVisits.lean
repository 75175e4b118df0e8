import PhoneTree.Proofs.References
import PhoneTree.Proofs.TurnConduct

namespace PhoneTree

open Service PhoneTree.Action

section Lists

variable {α β : Type} [DecidableEq β] {key : α → β} {list : List α} {value : α}

theorem filter_key_eq_nil (h : ∀ other ∈ list, key other ≠ key value) :
    (list.filter fun other => key value == key other) = [] := by
  refine List.filter_eq_nil_iff.mpr ?_
  exact fun other hother hsame => h other hother (eq_of_beq hsame).symm

theorem filter_key_eq_singleton (hkeys : (list.map key).Nodup) (hvalue : value ∈ list) :
    (list.filter fun other => key value == key other) = [value] := by
  induction list with
  | nil => cases hvalue
  | cons first rest ih =>
      rw [List.map_cons, List.nodup_cons] at hkeys
      rw [List.filter_cons]
      rcases List.mem_cons.mp hvalue with rfl | hvalue
      · rw [if_pos (beq_self_eq_true _), filter_key_eq_nil]
        intro other hother hsame
        exact hkeys.1 (hsame ▸ List.mem_map_of_mem hother)
      · have hne : key value ≠ key first := fun hsame =>
          hkeys.1 (hsame ▸ List.mem_map_of_mem hvalue)
        rw [beq_eq_false_iff_ne.mpr hne]
        exact ih hkeys.2 hvalue

end Lists

/-- The turns of a caller's calls on a tree that are on a prompt, in the order in which they were
stored. -/
def Store.visits (store : Store) (caller : CallerId) (tree : String) (handle : PromptHandle) :
    List Turn :=
  store.turns.filter fun turn => turn.handle == handle &&
    store.sessions.any fun session =>
      session.id == turn.session && session.caller == caller && session.treeName == tree

/-- Under distinct identifiers the history of a caller has all visits, and on a prompt nothing
else. -/
theorem Store.turnsFor_historyOf {store : Store} (hids : (store.sessions.map (·.id)).Nodup)
    (caller : CallerId) (tree : String) (handle : PromptHandle) :
    (store.historyOf caller tree).turnsFor handle = store.visits caller tree handle := by
  have howned : ∀ id, store.ownedBy caller tree id = store.sessions.any fun session =>
      session.id == id && session.caller == caller && session.treeName == tree := by
    intro id
    rw [Bool.eq_iff_iff, ownedBy, Option.any_eq_true, List.any_eq_true]
    constructor
    · rintro ⟨row, hrow, howner⟩
      refine ⟨row, List.mem_of_find?_eq_some hrow, ?_⟩
      rw [id_of_sessionRow? hrow, beq_self_eq_true, Bool.true_and]
      exact howner
    · rintro ⟨row, hrow, howner⟩
      rw [Bool.and_assoc, Bool.and_eq_true] at howner
      refine ⟨row, ?_, howner.2⟩
      rw [← eq_of_beq howner.1]
      exact OpenWorld.find_of_nodup hids hrow
  simp only [History.turnsFor, historyOf, callerTurns, visits, howned, List.filter_filter]

namespace FlowContext

variable {context : FlowContext} {history : History} {visits : List Turn} {turn : Turn}
  {handle : PromptHandle}

/-- The context as it is on a turn. -/
def on (context : FlowContext) (turn : Turn) : FlowContext :=
  { context with turn := some turn }

theorem firstForCaller_on (hhistory : context.history = some history)
    (hvisits : history.turnsFor handle = visits) (hids : (visits.map (·.id)).Nodup)
    (hturn : turn ∈ visits) (includeTimeouts : Bool) :
    (context.on turn).firstForCaller includeTimeouts =
      (visits.find? fun other => includeTimeouts || !other.timedOut).any fun first =>
        first.id == turn.id := by
  have hhandle : turn.handle = handle := by
    rw [← hvisits] at hturn
    exact eq_of_beq (List.mem_filter.mp hturn).2
  have hself : visits.map (·.replacedBy turn) = visits := by
    refine (List.map_congr_left ?_).trans (List.map_id' visits)
    intro other hother
    by_cases hid : other.id = turn.id
    · rw [Turn.replacedBy, if_pos hid]
      exact (OpenWorld.eq_of_nodup hids hother hturn hid).symm
    · exact Turn.replacedBy_of_ne hid
  have hturns : (context.on turn).callerTurns turn.handle = visits := by
    have hcurrent : (context.on turn).turn = some turn := rfl
    have hloaded : (context.on turn).history = some history := hhistory
    rw [callerTurns_eq hcurrent hloaded, hhandle, hvisits, hself]
  change (((context.on turn).callerTurns turn.handle).find? _).any _ = _
  rw [hturns]

/-- Of all visits to a prompt the first, and only the first, is told to be the first; leaving out
timeouts it is the first that did not time out, if there is any. -/
structure TellsFirst (context : FlowContext) (visits : List Turn) : Prop where
  first : (visits.filter fun turn => (context.on turn).firstForCaller true) = visits.head?.toList
  answered : (visits.filter fun turn => (context.on turn).firstForCaller false) =
    (visits.find? fun turn => !turn.timedOut).toList

theorem filter_firstForCaller (hhistory : context.history = some history)
    (hvisits : history.turnsFor handle = visits) (hids : (visits.map (·.id)).Nodup)
    (includeTimeouts : Bool) :
    (visits.filter fun turn => (context.on turn).firstForCaller includeTimeouts) =
      (visits.find? fun turn => includeTimeouts || !turn.timedOut).toList := by
  have hfirst : ∀ turn ∈ visits, (context.on turn).firstForCaller includeTimeouts =
      (visits.find? fun other => includeTimeouts || !other.timedOut).any fun first =>
        first.id == turn.id :=
    fun turn hturn => firstForCaller_on hhistory hvisits hids hturn includeTimeouts
  rw [List.filter_congr hfirst]
  cases hfound : visits.find? fun other => includeTimeouts || !other.timedOut with
  | none => exact List.filter_eq_nil_iff.mpr fun _ _ => Bool.false_ne_true
  | some first => exact filter_key_eq_singleton hids (List.mem_of_find?_eq_some hfound)

theorem tellsFirst (hhistory : context.history = some history)
    (hvisits : history.turnsFor handle = visits) (hids : (visits.map (·.id)).Nodup) :
    context.TellsFirst visits where
  first := by
    rw [filter_firstForCaller hhistory hvisits hids]
    cases visits <;> rfl
  answered := filter_firstForCaller hhistory hvisits hids false

end FlowContext

/-- The turn that was stored. -/
def Exchange.begun? : Exchange → Option TurnId
  | ⟨.saveTurn turn, .ok _⟩ => some turn.id
  | _ => none

namespace OpenWorld

variable {state state' : OpenWorld} {question : Question} {answer : question.Answer}

theorem write_changeTurn_ids {world : World} {id : TurnId} {change : Turn → Turn}
    (hid : ∀ turn, (change turn).id = turn.id) :
    (world.write (world.store.changeTurn id change)).2.store.turns.map (·.id) =
      world.store.turns.map (·.id) := by
  cases hchange : world.store.changeTurn id change with
  | error failure => rfl
  | ok store =>
      rw [Store.changeTurn_eq_ok hchange]
      exact Store.map_modifyTurn (·.id) hid _

theorem ids_of_answers (h : state.Answers question answer state') :
    state'.store.turns.map (·.id) =
      state.store.turns.map (·.id) ++ (Exchange.begun? ⟨question, answer⟩).toList := by
  by_cases hpart : question.part? = some .turns
  · cases question with
    | saveTurn turn =>
        obtain ⟨rfl, rfl⟩ := h
        simp only [World.answer]
        cases hsave : state.world.store.saveTurn turn with
        | error failure => exact (List.append_nil _).symm
        | ok store =>
            rw [Store.saveTurn_eq_ok hsave]
            exact List.map_append
    | recordInput id input | markTimedOut id =>
        obtain ⟨-, rfl⟩ := h
        refine (write_changeTurn_ids fun turn => ?_).trans (List.append_nil _).symm
        rfl
    | attachToTurn id recording =>
        obtain ⟨-, rfl⟩ := h
        refine (write_changeTurn_ids fun turn => ?_).trans (List.append_nil _).symm
        split <;> rfl
    | _ => cases hpart
  · rw [answers_turns h hpart]
    cases question with
    | saveTurn turn => exact absurd rfl hpart
    | _ => exact (List.append_nil _).symm

/-- What is loaded as the history of a session's caller, always. -/
def Recalls (state : OpenWorld) (session : Session) (history : History) : Prop :=
  ∀ result after, Runs rules (loadHistory session) state result after ↔
    result = .ok history ∧ after = state

theorem Recalls.eq_historyOf {session : Session} {history : History}
    (h : state.Recalls session history) :
    history = state.store.historyOf session.caller session.treeName := by
  have hloaded := (h (.ok history) state).mpr ⟨rfl, rfl⟩
  exact Except.ok.inj (loadHistory_runs.mp hloaded).1

end OpenWorld

section Runs

variable {ρ α : Type} {program : ρ → Action α} {start : OpenWorld} {log : List (Nat × Exchange)}
  {pool : Pool ρ α}

/-- Turns stand in the order in which they were stored. -/
theorem Reaches.turns_begun (empty : start.store = {}) (run : Reaches program start log pool) :
    pool.state.store.turns.map (·.id) = log.filterMap fun entry => entry.2.begun? := by
  induction run with
  | nothing =>
      rw [empty]
      rfl
  | begin origin before ih => exact ih
  | @ask log pool index origin past question next answer state before waiting answered ih =>
      rw [List.filterMap_append, ← ih]
      exact OpenWorld.ids_of_answers answered
  | disturb due before ih => exact ih

end Runs

section Visits

variable {account : Account} {registry : Registry} {start : OpenWorld}
  {log : List (Nat × Exchange)} {pool : Pool Command Outcome}

theorem Reaches.turnsFor_historyOf (empty : start.store = {})
    (run : Reaches (fun command : Command => command.action account registry) start log pool)
    (caller : CallerId) (tree : String) (handle : PromptHandle) :
    (pool.state.store.historyOf caller tree).turnsFor handle =
        pool.state.store.visits caller tree handle ∧
      ((pool.state.store.visits caller tree handle).map (·.id)).Nodup := by
  have hcoherent := (run.coherent_of_empty empty).store
  have hsessions := hcoherent.sessions.ids
  rw [Store.callFacts, List.map_map] at hsessions
  have hturns := hcoherent.turns.ids
  rw [Store.turnFacts, List.map_map] at hturns
  refine ⟨Store.turnsFor_historyOf hsessions caller tree handle, ?_⟩
  exact hturns.sublist (List.filter_sublist.map _)

/-- However commands run side by side, a caller has one first visit to every prompt of a tree: the
first that was stored of all turns on the prompt in the caller's calls on the tree. What else is
stored does not change the answers. -/
theorem callers_have_one_first_visit (empty : start.store = {})
    (run : Reaches (fun command : Command => command.action account registry) start log pool) :
    (pool.state.store.turns.map (·.id) = log.filterMap fun entry => entry.2.begun?) ∧
    ∀ session : Session, ∃ history, pool.state.Recalls session history ∧
      ∀ (context : FlowContext) (handle : PromptHandle), context.history = some history →
        context.TellsFirst (pool.state.store.visits session.caller session.treeName handle) ∧
        ∀ log' pool' other history',
          Reaches (fun command : Command => command.action account registry) start log' pool' →
          pool'.state.Recalls other history' →
          pool'.state.store.visits other.caller other.treeName handle =
            pool.state.store.visits session.caller session.treeName handle →
          ∀ turn ∈ pool.state.store.visits session.caller session.treeName handle,
            ∀ includeTimeouts, (context.on turn).firstForCaller includeTimeouts =
              ({ context with history := some history' }.on turn).firstForCaller includeTimeouts := by
  refine ⟨run.turns_begun empty, ?_⟩
  intro session
  refine ⟨_, fun result after => loadHistory_runs, ?_⟩
  intro context handle hhistory
  obtain ⟨hvisits, hids⟩ := run.turnsFor_historyOf empty session.caller session.treeName handle
  refine ⟨FlowContext.tellsFirst hhistory hvisits hids, ?_⟩
  intro log' pool' other history' run' recalls hsame turn hturn includeTimeouts
  have hvisits' := (run'.turnsFor_historyOf empty other.caller other.treeName handle).1
  rw [← recalls.eq_historyOf, hsame] at hvisits'
  rw [FlowContext.firstForCaller_on hhistory hvisits hids hturn]
  exact (FlowContext.firstForCaller_on rfl hvisits' hids hturn includeTimeouts).symm

end Visits

section Returning

def callFrom (sid number : String) : Command :=
  .webhook (.inbound "main") ⟨[("CallSid", sid), ("From", number)]⟩

/-- A caller who does not answer and calls again, and somebody else who calls. -/
def returningCommands : List Command :=
  [callFrom "CA0" "+12025550123",
    .webhook (.timeout "main" ⟨.ofNat 3⟩) ⟨[("CallSid", "CA0")]⟩,
    callFrom "CA1" "+12025550123", callFrom "CA2" "+12025550199"]

def returning : List (Nat × Exchange) × Pool Command Outcome :=
  Pool.play []
    { state := .ofWorld {}
      threads := returningCommands.map fun command =>
        { origin := command, rest := (command.action default ⟨[questionTree]⟩).run } }
    ([0, 1, 2, 3].flatMap (List.replicate 20))

theorem returning_reaches :
    Reaches (fun command : Command => command.action default ⟨[questionTree]⟩) (.ofWorld {})
      returning.1 returning.2 :=
  Reaches.play ((((Reaches.nothing.begin _).begin _).begin _).begin _) rfl (by decide +kernel)

/-- A call of the one who calls again. -/
def returningSession : Session :=
  { (default : Session) with caller := ⟨.ofNat 1⟩, treeName := "main" }

/-- The unanswered turn is the first visit of all, and the turn of the second call is the first that
is not timed out. -/
theorem returning_caller_has_one_first_visit :
    ∃ first second, first.timedOut = true ∧ second.timedOut = false ∧
      returning.2.state.store.turns.map (·.handle) = List.replicate 3 ⟨"question"⟩ ∧
      returning.2.state.store.visits ⟨.ofNat 1⟩ "main" ⟨"question"⟩ = [first, second] ∧
      ∃ history, returning.2.state.Recalls returningSession history ∧
        ∀ context : FlowContext, context.history = some history →
          ([first, second].filter fun turn => (context.on turn).firstForCaller true) = [first] ∧
          ([first, second].filter fun turn => (context.on turn).firstForCaller false) =
            [second] := by
  have hsilent : (returning.2.state.store.visits ⟨.ofNat 1⟩ "main" ⟨"question"⟩).map (·.timedOut) =
      [true, false] := by decide +kernel
  have hturns : returning.2.state.store.turns.map (·.handle) = List.replicate 3 ⟨"question"⟩ := by
    decide +kernel
  have hreaches := returning_reaches
  generalize returning = played at hsilent hturns hreaches ⊢
  obtain ⟨_, hvisits⟩ := callers_have_one_first_visit rfl hreaches
  obtain ⟨history, hrecalls, hcontext⟩ := hvisits returningSession
  obtain ⟨first, rest, htwo, hfirst, hrest⟩ := List.map_eq_cons_iff.mp hsilent
  obtain ⟨second, none, rfl, hsecond, hnone⟩ := List.map_eq_cons_iff.mp hrest
  obtain rfl := List.map_eq_nil_iff.mp hnone
  refine ⟨first, second, hfirst, hsecond, hturns, htwo, history, hrecalls, ?_⟩
  intro context hhistory
  have htells := (hcontext context ⟨"question"⟩ hhistory).1
  change context.TellsFirst (played.2.state.store.visits ⟨.ofNat 1⟩ "main" ⟨"question"⟩) at htells
  rw [htwo] at htells
  refine ⟨htells.first, htells.answered.trans ?_⟩
  simp [hfirst, hsecond]

end Returning

end PhoneTree

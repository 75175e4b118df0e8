import PhoneTree.Proofs.Answers
import PhoneTree.Proofs.TurnWrites

namespace PhoneTree

/-- The turn, or what it has become. -/
def Turn.replacedBy (turn updated : Turn) : Turn :=
  if turn.id = updated.id then updated else turn

section Replacing

variable {turn updated received : Turn} {turns past later : List Turn} {writes : List TurnWrite}

theorem Turn.replacedBy_of_ne (h : turn.id ≠ updated.id) : turn.replacedBy updated = turn :=
  if_neg h

theorem Turn.replacedBy_id : (turn.replacedBy updated).id = turn.id := by
  rw [replacedBy]
  split
  · exact Eq.symm ‹_›
  · rfl

theorem Turn.replacedBy_replacedBy (h : updated.id = received.id) :
    (turn.replacedBy received).replacedBy updated = turn.replacedBy updated := by
  by_cases hid : turn.id = received.id
  · simp [replacedBy, hid, h]
  · rw [replacedBy_of_ne hid]

theorem Turn.replacedBy_facts (h : turn.id = updated.id → updated.facts = turn.facts) :
    (turn.replacedBy updated).facts = turn.facts := by
  rw [replacedBy]
  split
  · exact h ‹_›
  · rfl

theorem Turn.filledBy_others (h : ∀ write ∈ writes, write.turn ≠ turn.id) :
    turn.filledBy writes = turn := by
  induction writes with
  | nil => exact filledBy_nil
  | cons write writes ih =>
      rw [filledBy_other writes (h write List.mem_cons_self)]
      exact ih fun other hother => h other (List.mem_cons_of_mem _ hother)

theorem map_replacedBy_ids : (turns.map (·.replacedBy updated)).map (·.id) = turns.map (·.id) := by
  simp [List.map_map, Function.comp_def, Turn.replacedBy_id]

theorem ids_ne_of_nodup (ids : ((past ++ turn :: later).map (·.id)).Nodup) :
    ∀ other ∈ past ++ later, other.id ≠ turn.id := by
  have hids : ((turn :: (past ++ later)).map (·.id)).Nodup :=
    (List.perm_middle.map _).nodup_iff.mp ids
  rw [List.map_cons, List.nodup_cons] at hids
  intro other hother hsame
  exact hids.1 (hsame ▸ List.mem_map_of_mem hother)

theorem map_replacedBy_eq_self (others : ∀ other ∈ turns, other.id ≠ updated.id) :
    turns.map (·.replacedBy updated) = turns := by
  refine (List.map_congr_left ?_).trans (List.map_id' turns)
  exact fun other hother => Turn.replacedBy_of_ne (others other hother)

theorem map_replacedBy_append (same : turn.id = updated.id)
    (others : ∀ other ∈ past ++ later, other.id ≠ updated.id) :
    (past ++ turn :: later).map (·.replacedBy updated) = past ++ updated :: later := by
  rw [List.map_append, List.map_cons, Turn.replacedBy, if_pos same,
    map_replacedBy_eq_self fun other hother => others other (List.mem_append_left later hother),
    map_replacedBy_eq_self fun other hother => others other (List.mem_append_right past hother)]

theorem Session.replaceFirst_eq_map (hids : (turns.map (·.id)).Nodup) :
    replaceFirst updated turns = turns.map (·.replacedBy updated) := by
  induction turns with
  | nil => rfl
  | cons other rest ih =>
      rw [List.map_cons, List.nodup_cons] at hids
      rw [replaceFirst, List.map_cons, Turn.replacedBy]
      split
      · rename_i hid
        rw [map_replacedBy_eq_self]
        intro turn hturn hsame
        exact hids.1 (hid.trans hsame.symm ▸ List.mem_map_of_mem hturn)
      · rw [ih hids.2]

theorem Session.recordTurn_eq_map {session : Session} (hids : (session.turns.map (·.id)).Nodup)
    (hhas : session.hasTurn updated.id = true) :
    (session.recordTurn updated).turns = session.turns.map (·.replacedBy updated) := by
  rw [recordTurn, if_pos hhas]
  exact replaceFirst_eq_map hids

theorem Store.writtenTurns_eq_replaced (hids : (turns.map (·.id)).Nodup) (hturn : turn ∈ turns)
    (hwrites : ∀ write ∈ writes, write.turn = turn.id) :
    writtenTurns writes turns = turns.map (·.replacedBy (turn.filledBy writes)) := by
  rw [writtenTurns_eq_map hids]
  refine List.map_congr_left ?_
  intro other hother
  have hfilled : (turn.filledBy writes).id = turn.id := rfl
  by_cases hid : other.id = turn.id
  · rw [Turn.replacedBy, hfilled, if_pos hid, OpenWorld.eq_of_nodup hids hother hturn hid]
  · rw [Turn.replacedBy, hfilled, if_neg hid]
    refine Turn.filledBy_others ?_
    intro write hwrite hsame
    exact hid (hsame.symm.trans (hwrites write hwrite))

theorem filter_replaced {keeps : Turn → Bool}
    (hkeeps : ∀ turn turn' : Turn, turn.facts = turn'.facts → keeps turn = keeps turn')
    (hfacts : ∀ turn ∈ turns, (turn.replacedBy updated).facts = turn.facts) :
    (turns.map (·.replacedBy updated)).filter keeps =
      (turns.filter keeps).map (·.replacedBy updated) := by
  rw [List.filter_map]
  congr 1
  refine List.filter_congr ?_
  exact fun turn hturn => hkeeps _ _ (hfacts turn hturn)

end Replacing

/-- What a store knows of a caller on a tree. -/
def Store.historyOf (store : Store) (caller : CallerId) (tree : String) : History where
  inboundCalls := store.countCalls caller tree .inbound
  outboundCalls := store.countCalls caller tree .outbound
  turns := store.callerTurns caller tree

/-- A store that has what has become of a turn in its place. -/
structure Store.Replaces (store store' : Store) (updated : Turn) : Prop where
  turns : store'.turns = store.turns.map (·.replacedBy updated)
  facts : ∀ turn ∈ store.turns, (turn.replacedBy updated).facts = turn.facts

namespace Store.Replaces

variable {store store' : Store} {updated : Turn} (h : store.Replaces store' updated)
include h

theorem turnsOf (id : SessionId) :
    store'.turnsOf id = (store.turnsOf id).map (·.replacedBy updated) := by
  rw [Store.turnsOf, h.turns]
  refine filter_replaced ?_ h.facts
  exact fun _ _ hsame => congrArg (fun facts : TurnFacts => facts.session == id) hsame

theorem callerTurns (hsessions : store'.sessions = store.sessions) (caller : CallerId)
    (tree : String) :
    store'.callerTurns caller tree = (store.callerTurns caller tree).map (·.replacedBy updated) := by
  have howned : ∀ id, store'.ownedBy caller tree id = store.ownedBy caller tree id := by
    intro id
    rw [ownedBy, sessionRow?_of_sessions hsessions]
    rfl
  rw [Store.callerTurns, h.turns]
  simp only [howned]
  refine filter_replaced ?_ h.facts
  exact fun _ _ hsame =>
    congrArg (fun facts : TurnFacts => store.ownedBy caller tree facts.session) hsame

theorem turnsFor (hsessions : store'.sessions = store.sessions) (caller : CallerId)
    (tree : String) (handle : PromptHandle) :
    (store'.historyOf caller tree).turnsFor handle =
      ((store.historyOf caller tree).turnsFor handle).map (·.replacedBy updated) := by
  rw [History.turnsFor, historyOf, h.callerTurns hsessions]
  refine filter_replaced ?_ ?_
  · exact fun _ _ hsame => congrArg (fun facts : TurnFacts => facts.handle == handle) hsame
  · exact fun turn hturn => h.facts turn (List.mem_filter.mp hturn).1

end Store.Replaces

theorem Store.replaces_of_written {store store' : Store} {turn : Turn} {writes : List TurnWrite}
    (hids : (store.turns.map (·.id)).Nodup) (hfound : store.turnById turn.id = some turn)
    (hwrites : ∀ write ∈ writes, write.turn = turn.id)
    (hwritten : store'.turns = writtenTurns writes store.turns) :
    store.Replaces store' (turn.filledBy writes) := by
  have hturn : turn ∈ store.turns := List.mem_of_find?_eq_some hfound
  refine ⟨hwritten.trans (writtenTurns_eq_replaced hids hturn hwrites), ?_⟩
  refine fun other hother => Turn.replacedBy_facts ?_
  intro hid
  obtain rfl := OpenWorld.eq_of_nodup hids hother hturn hid
  rfl

namespace FlowContext

/-- The context with the caller's history as a store has it. -/
def reread (context : FlowContext) (store : Store) : FlowContext :=
  { context with
    history := some (store.historyOf context.session.caller context.session.treeName) }

/-- A context sees what a store has: its turn and the turns of its session are the stored ones, and
what it says about the caller is what it would say with the history that is stored. -/
structure Shows (context : FlowContext) (store : Store) : Prop where
  turn : ∃ turn, context.turn = some turn ∧ store.turnById turn.id = some turn
  turns : context.session.turns = store.turnsOf context.session.id
  responseFor : ∀ handle, context.responseFor? handle = (context.reread store).responseFor? handle
  responseReached : ∀ handle,
    context.responseReached handle = (context.reread store).responseReached handle
  responseDigits : ∀ handle,
    context.responseDigits handle = (context.reread store).responseDigits handle
  firstForCaller : ∀ includeTimeouts,
    context.firstForCaller includeTimeouts = (context.reread store).firstForCaller includeTimeouts

variable {context : FlowContext} {store : Store} {updated : Turn}

theorem callerTurns_eq {history : History} (hturn : context.turn = some updated)
    (hhistory : context.history = some history) (handle : PromptHandle) :
    context.callerTurns handle = (history.turnsFor handle).map (·.replacedBy updated) := by
  rw [callerTurns, hhistory]
  refine List.map_congr_left ?_
  intro turn _
  simp only [refresh, hturn, Turn.replacedBy, eq_comm]

theorem shows_of_callerTurns (turn : ∃ turn, context.turn = some turn ∧
      store.turnById turn.id = some turn)
    (turns : context.session.turns = store.turnsOf context.session.id)
    (same : ∀ handle, context.callerTurns handle = (context.reread store).callerTurns handle) :
    context.Shows store := by
  have hfor : ∀ handle, context.responseFor? handle =
      (context.reread store).responseFor? handle := by
    intro handle
    rw [responseFor?, responseFor?, same]
  refine ⟨turn, turns, hfor, ?_, ?_, ?_⟩
  · intro handle
    rw [responseReached, responseReached, hfor]
  · intro handle
    rw [responseDigits, responseDigits, same]
  · intro includeTimeouts
    obtain ⟨current, hcurrent, _⟩ := turn
    have hreread : (context.reread store).turn = some current := hcurrent
    simp only [firstForCaller, hcurrent, hreread, same]

end FlowContext

end PhoneTree

import PhoneTree.Proofs.OpenWorld

namespace PhoneTree

/-- What never changes about a call session. -/
structure CallFacts where
  id : SessionId
  sid : String
  direction : Direction
  treeName : String
  caller : CallerId
  details : CallDetails
  createdAt : Timestamp

/-- What never changes about a turn. -/
structure TurnFacts where
  id : TurnId
  session : SessionId
  handle : PromptHandle
  createdAt : Timestamp

/-- What never changes of a session. -/
def Session.facts (session : Session) : CallFacts where
  id := session.id
  sid := session.sid
  direction := session.direction
  treeName := session.treeName
  caller := session.caller
  details := session.details
  createdAt := session.createdAt

/-- What never changes of a turn. -/
def Turn.facts (turn : Turn) : TurnFacts where
  id := turn.id
  session := turn.session
  handle := turn.handle
  createdAt := turn.createdAt

namespace Store

/-- The fixed parts of all sessions, in the order of the rows. -/
def callFacts (store : Store) : List CallFacts :=
  store.sessions.map Session.facts

/-- The fixed parts of all turns, in the order of the rows. -/
def turnFacts (store : Store) : List TurnFacts :=
  store.turns.map Turn.facts

theorem find_putRow (row : Session) (id : SessionId) (rows : List Session) :
    ((putRow row rows).find? fun other => other.id == id) =
      if row.id = id then some row else rows.find? fun other => other.id == id := by
  induction rows with
  | nil => by_cases h : row.id = id <;> simp [putRow, h]
  | cons other rest ih =>
      rw [putRow]
      by_cases hsame : other.id = row.id
      · by_cases h : row.id = id
        · simp [hsame, h]
        · have hother : ¬other.id = id := by rwa [hsame]
          simp [hsame, h]
      · by_cases h : row.id = id
        · have hother : ¬other.id = id := by rwa [← h]
          simp only [if_neg hsame, List.find?_cons, beq_eq_false_iff_ne.mpr hother, ih, if_pos h]
        · simp only [if_neg hsame, List.find?_cons, ih, if_neg h]

theorem sessionRow?_putRow {store store' : Store} {session : Session}
    (h : store'.sessions = putRow (row session) store.sessions) (id : SessionId) :
    store'.sessionRow? id =
      if session.id = id then some (row session) else store.sessionRow? id := by
  rw [sessionRow?, h]
  exact find_putRow (row session) id store.sessions

theorem sessionRow?_of_sessions {store store' : Store} (h : store'.sessions = store.sessions)
    (id : SessionId) : store'.sessionRow? id = store.sessionRow? id := by
  rw [sessionRow?, h]
  rfl

theorem id_of_sessionRow? {store : Store} {id : SessionId} {row : Session}
    (h : store.sessionRow? id = some row) : row.id = id := by
  have hid := List.find?_some h
  exact eq_of_beq hid

theorem find_sid_putRow {row old : Session} {rows : List Session}
    (byId : (rows.find? fun other => other.id == row.id) = some old)
    (bySid : (rows.find? fun other => other.sid == row.sid) = some old) :
    ((putRow row rows).find? fun other => other.sid == row.sid) = some row := by
  induction rows with
  | nil => cases byId
  | cons other rest ih =>
      rw [putRow]
      by_cases hid : other.id = row.id
      · simp [hid]
      · rw [List.find?_cons, beq_eq_false_iff_ne.mpr hid] at byId
        have hold : old.id = row.id := by
          have := List.find?_some byId
          exact eq_of_beq this
        by_cases hsid : other.sid = row.sid
        · rw [List.find?_cons, beq_iff_eq.mpr hsid] at bySid
          rw [Option.some.inj bySid] at hid
          exact absurd hold hid
        · rw [List.find?_cons, beq_eq_false_iff_ne.mpr hsid] at bySid
          rw [if_neg hid, List.find?_cons, beq_eq_false_iff_ne.mpr hsid]
          exact ih byId bySid

theorem map_putRow {α : Type} {row stored : Session} {rows : List Session} (f : Session → α)
    (hstored : (rows.find? fun other => other.id == row.id) = some stored)
    (hsame : f row = f stored) : (putRow row rows).map f = rows.map f := by
  induction rows with
  | nil => simp at hstored
  | cons other rest ih =>
      rw [putRow]
      by_cases h : other.id = row.id
      · have hother : other = stored := by simpa [h] using hstored
        rw [if_pos h, List.map_cons, List.map_cons, hsame, hother]
      · have hrest : (rest.find? fun other => other.id == row.id) = some stored := by
          simpa [h] using hstored
        simp [h, ih hrest]

theorem putRow_eq_append {row : Session} {rows : List Session}
    (h : ∀ other ∈ rows, other.id ≠ row.id) : putRow row rows = rows ++ [row] := by
  induction rows with
  | nil => rfl
  | cons other rest ih =>
      have hrest := ih fun x hx => h x (List.mem_cons_of_mem _ hx)
      simp [putRow, h other (by simp), hrest]

theorem mem_putRow {row other : Session} {rows : List Session} (h : other ∈ putRow row rows) :
    other = row ∨ other ∈ rows := by
  induction rows with
  | nil => simpa [putRow] using h
  | cons first rest ih =>
      rw [putRow] at h
      split at h
      · rcases List.mem_cons.mp h with h | h
        · exact .inl h
        · exact .inr (List.mem_cons_of_mem _ h)
      · rcases List.mem_cons.mp h with rfl | h
        · exact .inr (by simp)
        · exact (ih h).imp_right (List.mem_cons_of_mem _)

theorem map_modifyTurn {α : Type} {id : TurnId} {change : Turn → Turn} (f : Turn → α)
    (hsame : ∀ turn, f (change turn) = f turn) (turns : List Turn) :
    (modifyTurn id change turns).map f = turns.map f := by
  induction turns with
  | nil => rfl
  | cons turn rest ih =>
      rw [modifyTurn]
      split
      · simp [hsame]
      · simp [ih]

end Store

@[simp] theorem Turn.merge_facts (turn : Turn) (input : TurnInput) :
    (turn.merge input).facts = turn.facts := rfl

@[simp] theorem Turn.markTimedOut_facts (turn : Turn) : turn.markTimedOut.facts = turn.facts := rfl

namespace OpenWorld

theorem find_of_nodup {α β : Type} [DecidableEq β] {key : α → β} {list : List α} {value : α}
    (hkeys : (list.map key).Nodup) (hvalue : value ∈ list) :
    (list.find? fun other => key other == key value) = some value := by
  induction list with
  | nil => simp at hvalue
  | cons first rest ih =>
      rw [List.map_cons, List.nodup_cons] at hkeys
      rcases List.mem_cons.mp hvalue with rfl | hvalue
      · simp
      · have hne : key first ≠ key value := by
          intro heq
          exact hkeys.1 (heq ▸ List.mem_map_of_mem hvalue)
        rw [List.find?_cons, beq_eq_false_iff_ne.mpr hne]
        exact ih hkeys.2 hvalue

theorem eq_of_nodup {α β : Type} [DecidableEq β] {key : α → β} {list : List α} {a b : α}
    (hkeys : (list.map key).Nodup) (ha : a ∈ list) (hb : b ∈ list) (h : key a = key b) :
    a = b := by
  have hfound := find_of_nodup hkeys ha
  rw [h, find_of_nodup hkeys hb] at hfound
  exact (Option.some.inj hfound).symm

def callFacts (state : OpenWorld) : List CallFacts :=
  state.store.callFacts

def turnFacts (state : OpenWorld) : List TurnFacts :=
  state.store.turnFacts

/-- The world with a session in its place among the sessions, or at their end. -/
def putSession (state : OpenWorld) (session : Session) : OpenWorld :=
  state.withStore { state.store with
    sessions := Store.putRow (Store.row session) state.store.sessions }

/-- The state with one more turn at the end. -/
def addTurn (state : OpenWorld) (turn : Turn) : OpenWorld :=
  state.withStore { state.store with turns := state.store.turns ++ [turn] }

/-- Everything in the store is found again: identifiers and calls are distinct, were given out, and
every turn belongs to a session. -/
structure Intact (state : OpenWorld) : Prop where
  bare : ∀ session ∈ state.store.sessions, session.turns = []
  sessionIds : (state.callFacts.map (·.id)).Nodup
  sids : (state.callFacts.map (·.sid)).Nodup
  turnIds : (state.turnFacts.map (·.id)).Nodup
  owned : ∀ turn ∈ state.turnFacts, ∃ call ∈ state.callFacts, call.id = turn.session
  sessionsDrawn : ∀ call ∈ state.callFacts, call.id.uuid ∈ state.drawn
  turnsDrawn : ∀ turn ∈ state.turnFacts, turn.id.uuid ∈ state.drawn

/-- One intact state comes after another, with facts about new calls and turns and no more conflicts
due. -/
structure Extends (state state' : OpenWorld) (calls : List CallFacts) (turns : List TurnFacts) :
    Prop where
  intact : state'.Intact
  conflicts : state'.store.conflicts ≤ state.store.conflicts
  calls : state'.callFacts = state.callFacts ++ calls
  turns : state'.turnFacts = state.turnFacts ++ turns
  drawn : state.drawn ⊆ state'.drawn

/-- One state extends another by turns, with the same sessions. -/
structure Adds (state state' : OpenWorld) (turns : List TurnFacts) : Prop where
  extension : state.Extends state' [] turns
  sessions : state'.store.sessions = state.store.sessions

/-- A session has its row as it stands in the store. -/
def Holds (state : OpenWorld) (session : Session) : Prop :=
  state.store.sessionRow? session.id = some (Store.row session)

/-- A session is as the store gives it. -/
structure Loads (state : OpenWorld) (session : Session) : Prop where
  holds : state.Holds session
  turns : session.turns = state.store.turnsOf session.id

/-- An identifier was given out, and no session and no turn has it yet. -/
structure Unused (state : OpenWorld) (id : Uuid) : Prop where
  drawn : id ∈ state.drawn
  sessions : ∀ call ∈ state.callFacts, call.id.uuid ≠ id
  turns : ∀ turn ∈ state.turnFacts, turn.id.uuid ≠ id

theorem intact_of_empty {state : OpenWorld} (hsessions : state.store.sessions = [])
    (hturns : state.store.turns = []) : state.Intact := by
  constructor <;> simp [callFacts, turnFacts, Store.callFacts, Store.turnFacts, hsessions, hturns]

theorem Extends.refl {state : OpenWorld} (h : state.Intact) : state.Extends state [] [] :=
  ⟨h, Nat.le_refl _, by simp, by simp, fun _ => id⟩

theorem Extends.trans {first second third : OpenWorld} {calls calls' : List CallFacts}
    {turns turns' : List TurnFacts} (h : first.Extends second calls turns)
    (h' : second.Extends third calls' turns') :
    first.Extends third (calls ++ calls') (turns ++ turns') where
  intact := h'.intact
  conflicts := Nat.le_trans h'.conflicts h.conflicts
  calls := by rw [h'.calls, h.calls, List.append_assoc]
  turns := by rw [h'.turns, h.turns, List.append_assoc]
  drawn := fun _ hid => h'.drawn (h.drawn hid)

theorem Extends.mem_calls {state state' : OpenWorld} {calls : List CallFacts}
    {turns : List TurnFacts} (h : state.Extends state' calls turns) {call : CallFacts}
    (hcall : call ∈ state.callFacts) : call ∈ state'.callFacts := by
  rw [h.calls]
  exact List.mem_append_left _ hcall

theorem Extends.mem_turns {state state' : OpenWorld} {calls : List CallFacts}
    {turns : List TurnFacts} (h : state.Extends state' calls turns) {turn : TurnFacts}
    (hturn : turn ∈ state.turnFacts) : turn ∈ state'.turnFacts := by
  rw [h.turns]
  exact List.mem_append_left _ hturn

theorem Unused.extends {state state' : OpenWorld} {id : Uuid} (h : state.Unused id)
    (step : state.Extends state' [] []) : state'.Unused id where
  drawn := step.drawn h.drawn
  sessions := by
    rw [step.calls, List.append_nil]
    exact h.sessions
  turns := by
    rw [step.turns, List.append_nil]
    exact h.turns

theorem Adds.trans {first second third : OpenWorld} {turns turns' : List TurnFacts}
    (h : first.Adds second turns) (h' : second.Adds third turns') :
    first.Adds third (turns ++ turns') :=
  ⟨h.extension.trans h'.extension, h'.sessions.trans h.sessions⟩

theorem Adds.holds {state state' : OpenWorld} {turns : List TurnFacts} {session : Session}
    (h : state.Adds state' turns) (hholds : state.Holds session) : state'.Holds session := by
  rw [Holds, Store.sessionRow?, h.sessions]
  exact hholds

theorem Holds.facts_mem {state : OpenWorld} {session : Session} (h : state.Holds session) :
    session.facts ∈ state.callFacts := by
  have hmem := List.mem_of_find?_eq_some h
  exact List.mem_map.mpr ⟨Store.row session, hmem, rfl⟩

theorem Adds.of_same {state state' : OpenWorld} (h : state.Intact)
    (hsessions : state'.store.sessions = state.store.sessions)
    (hconflicts : state'.store.conflicts ≤ state.store.conflicts)
    (hturns : state'.turnFacts = state.turnFacts) (hdrawn : state.drawn ⊆ state'.drawn) :
    state.Adds state' [] := by
  have hcalls : state'.callFacts = state.callFacts := by
    rw [callFacts, Store.callFacts, hsessions]
    rfl
  refine ⟨⟨?_, hconflicts, by simpa using hcalls, by simpa using hturns, hdrawn⟩, hsessions⟩
  constructor
  · rw [hsessions]
    exact h.bare
  · rw [hcalls]
    exact h.sessionIds
  · rw [hcalls]
    exact h.sids
  · rw [hturns]
    exact h.turnIds
  · rw [hturns, hcalls]
    exact h.owned
  · rw [hcalls]
    exact fun call hcall => hdrawn (h.sessionsDrawn call hcall)
  · rw [hturns]
    exact fun turn hturn => hdrawn (h.turnsDrawn turn hturn)

theorem Adds.of_store {state state' : OpenWorld} (h : state.Intact)
    (hstore : state'.store = state.store) (hdrawn : state.drawn ⊆ state'.drawn) :
    state.Adds state' [] := by
  refine .of_same h ?_ ?_ ?_ hdrawn
  · rw [hstore]
  · exact Nat.le_of_eq (congrArg Store.conflicts hstore)
  · rw [turnFacts, hstore]
    rfl

theorem Adds.refl {state : OpenWorld} (h : state.Intact) : state.Adds state [] :=
  ⟨.refl h, rfl⟩

theorem Extends.putSession {state : OpenWorld} {session changed : Session} (h : state.Intact)
    (hholds : state.Holds session) (hfacts : changed.facts = session.facts) :
    state.Extends (state.putSession changed) [] [] := by
  have hid : changed.id = session.id := congrArg CallFacts.id hfacts
  have hstored : (state.store.sessions.find? fun other => other.id == (Store.row changed).id) =
      some (Store.row session) := by
    change (state.store.sessions.find? fun other => other.id == changed.id) = _
    rw [hid]
    exact hholds
  have hcalls : (state.putSession changed).callFacts = state.callFacts :=
    Store.map_putRow Session.facts hstored hfacts
  refine ⟨?_, Nat.le_refl _, by simpa using hcalls, (List.append_nil _).symm, fun _ => id⟩
  constructor
  · intro row hrow
    rcases Store.mem_putRow hrow with rfl | hrow
    · rfl
    · exact h.bare row hrow
  · rw [hcalls]
    exact h.sessionIds
  · rw [hcalls]
    exact h.sids
  · exact h.turnIds
  · rw [hcalls]
    exact h.owned
  · rw [hcalls]
    exact h.sessionsDrawn
  · exact h.turnsDrawn

theorem Holds.putSession (state : OpenWorld) (changed : Session) :
    (state.putSession changed).Holds changed := by
  change (Store.putRow (Store.row changed) state.store.sessions).find? _ = _
  rw [Store.find_putRow]
  exact if_pos rfl

theorem Extends.addSession {state : OpenWorld} {session : Session} (h : state.Intact)
    (hid : state.Unused session.id.uuid)
    (hsid : ∀ call ∈ state.callFacts, call.sid ≠ session.sid) :
    state.Extends (state.putSession session) [session.facts] [] := by
  have hnew : ∀ call ∈ state.callFacts, call.id ≠ session.id := by
    intro call hcall heq
    exact hid.sessions call hcall (congrArg SessionId.uuid heq)
  have hrows : Store.putRow (Store.row session) state.store.sessions =
      state.store.sessions ++ [Store.row session] := by
    apply Store.putRow_eq_append
    intro other hother
    exact hnew other.facts (List.mem_map_of_mem hother)
  have hcalls : (state.putSession session).callFacts = state.callFacts ++ [session.facts] := by
    change (Store.putRow (Store.row session) state.store.sessions).map Session.facts = _
    rw [hrows, List.map_append]
    rfl
  refine ⟨?_, Nat.le_refl _, hcalls, (List.append_nil _).symm, fun _ => id⟩
  constructor
  · intro row hrow
    rcases Store.mem_putRow hrow with rfl | hrow
    · rfl
    · exact h.bare row hrow
  · rw [hcalls, List.map_append, List.nodup_append]
    refine ⟨h.sessionIds, by simp, ?_⟩
    simpa [Session.facts] using hnew
  · rw [hcalls, List.map_append, List.nodup_append]
    refine ⟨h.sids, by simp, ?_⟩
    simpa [Session.facts] using hsid
  · exact h.turnIds
  · intro turn hturn
    obtain ⟨call, hcall, howns⟩ := h.owned turn hturn
    exact ⟨call, by rw [hcalls]; exact List.mem_append_left _ hcall, howns⟩
  · rw [hcalls]
    intro call hcall
    rcases List.mem_append.mp hcall with hcall | hcall
    · exact h.sessionsDrawn call hcall
    · rw [List.mem_singleton.mp hcall]
      exact hid.drawn
  · exact h.turnsDrawn

theorem Adds.addTurn {state : OpenWorld} {turn : Turn} (h : state.Intact)
    (hid : state.Unused turn.id.uuid)
    (howned : ∃ call ∈ state.callFacts, call.id = turn.session) :
    state.Adds (state.addTurn turn) [turn.facts] := by
  have hnew : ∀ other ∈ state.turnFacts, other.id ≠ turn.id := by
    intro other hother heq
    exact hid.turns other hother (congrArg TurnId.uuid heq)
  have hturns : (state.addTurn turn).turnFacts = state.turnFacts ++ [turn.facts] :=
    List.map_append
  refine ⟨⟨?_, Nat.le_refl _, (List.append_nil _).symm, hturns, fun _ => id⟩, rfl⟩
  constructor
  · exact h.bare
  · exact h.sessionIds
  · exact h.sids
  · rw [hturns, List.map_append, List.nodup_append]
    refine ⟨h.turnIds, by simp, ?_⟩
    simpa [Turn.facts] using hnew
  · rw [hturns]
    intro other hother
    rcases List.mem_append.mp hother with hother | hother
    · exact h.owned other hother
    · rw [List.mem_singleton.mp hother]
      exact howned
  · exact h.sessionsDrawn
  · rw [hturns]
    intro other hother
    rcases List.mem_append.mp hother with hother | hother
    · exact h.turnsDrawn other hother
    · rw [List.mem_singleton.mp hother]
      exact hid.drawn

end OpenWorld

end PhoneTree

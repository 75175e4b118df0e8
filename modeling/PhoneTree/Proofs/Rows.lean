import PhoneTree.Proofs.Answers

namespace PhoneTree

namespace Store

theorem putRow_of_find {row : Session} {rows : List Session}
    (h : (rows.find? fun other => other.id == row.id) = some row) : putRow row rows = rows := by
  induction rows with
  | nil => cases h
  | cons other rest ih =>
      rw [putRow]
      by_cases hid : other.id = row.id
      · have hother : other = row := by simpa [hid] using h
        rw [if_pos hid, hother]
      · rw [List.find?_cons, beq_eq_false_iff_ne.mpr hid] at h
        rw [if_neg hid, ih h]

theorem turnsOf_congr {store store' : Store} (h : store'.turns = store.turns) (id : SessionId) :
    store'.turnsOf id = store.turnsOf id := by
  rw [turnsOf, turnsOf, h]

end Store

namespace OpenWorld

/-- The stored length of each call. -/
def lengths (state : OpenWorld) : List (SessionId × Int) :=
  state.store.sessions.map fun row => (row.id, row.lengthSeconds)

/-- One state comes after another by new calls, which have no length yet. -/
structure Meets (state state' : OpenWorld) (calls : List CallFacts) : Prop where
  extension : state.Extends state' calls []
  lengths : state'.lengths = state.lengths ++ calls.map fun call => (call.id, 0)

/-- A session that somebody has, or what the store gives whoever reads it again. -/
def Rereads (state : OpenWorld) (session base : Session) : Prop :=
  base = session ∨ base = state.store.load (Store.row session)

/-- What a change of a row comes to: it was made on the session as somebody has it or, after a
conflict, as it was read again, and what was made of it has taken the place of the row. -/
structure Rewrites {α : Type} (state : OpenWorld) (change : Session → Session × Option α)
    (session : Session) (state' : OpenWorld) (changed : Session) : Prop where
  extension : state.Extends state' [] []
  turns : state'.store.turns = state.store.turns
  rows : state'.store.sessions = Store.putRow (Store.row changed) state.store.sessions
  made : ∃ base version, state.Rereads session base ∧ changed = { (change base).1 with version }

variable {state state' : OpenWorld} {session base changed : Session} {calls : List CallFacts}

theorem Loads.load_row (h : state.Loads session) :
    state.store.load (Store.row session) = session := by
  have hturns : state.store.turnsOf (Store.row session).id = session.turns := h.turns.symm
  rw [Store.load, hturns]
  rfl

section Meeting

theorem Meets.of_adds (h : state.Adds state' []) : state.Meets state' [] := by
  refine ⟨h.extension, ?_⟩
  rw [OpenWorld.lengths, h.sessions]
  exact (List.append_nil _).symm

theorem Meets.refl (h : state.Intact) : state.Meets state [] :=
  .of_adds (.refl h)

theorem Meets.trans {third : OpenWorld} {calls' : List CallFacts} (h : state.Meets state' calls)
    (h' : state'.Meets third calls') : state.Meets third (calls ++ calls') := by
  refine ⟨h.extension.trans h'.extension, ?_⟩
  rw [h'.lengths, h.lengths, List.map_append, List.append_assoc]

theorem Meets.addSession (h : state.Intact) (hid : state.Unused session.id.uuid)
    (hsid : ∀ call ∈ state.callFacts, call.sid ≠ session.sid) (hlength : session.lengthSeconds = 0) :
    state.Meets (state.putSession session) [session.facts] := by
  refine ⟨.addSession h hid hsid, ?_⟩
  have hnew : ∀ row ∈ state.store.sessions, row.id ≠ (Store.row session).id := by
    intro row hrow heq
    exact hid.sessions row.facts (List.mem_map_of_mem hrow) (congrArg SessionId.uuid heq)
  change (Store.putRow (Store.row session) state.store.sessions).map _ = _
  rw [Store.putRow_eq_append hnew, List.map_append]
  simp [OpenWorld.lengths, Store.row, hlength, Session.facts]

theorem Intact.turnsOf_eq_nil {id : SessionId} (h : state.Intact)
    (hnew : ∀ call ∈ state.callFacts, call.id ≠ id) : state.store.turnsOf id = [] := by
  refine List.filter_eq_nil_iff.mpr ?_
  intro turn hturn howned
  obtain ⟨call, hcall, hcalled⟩ := h.owned turn.facts (List.mem_map_of_mem hturn)
  exact hnew call hcall (hcalled.trans (eq_of_beq howned))

theorem Loads.addSession (h : state.Intact) (hid : state.Unused session.id.uuid)
    (hturns : session.turns = []) : (state.putSession session).Loads session := by
  refine ⟨.putSession state session, hturns.trans (h.turnsOf_eq_nil ?_).symm⟩
  intro call hcall heq
  exact hid.sessions call hcall (congrArg SessionId.uuid heq)

end Meeting

section Rewriting

variable {α : Type} {change : Session → Session × Option α}

theorem Rereads.row (h : state.Rereads session base) : Store.row base = Store.row session := by
  rcases h with rfl | rfl <;> rfl

theorem Rereads.holds {later : OpenWorld} (h : state.Rereads session base)
    (hholds : later.Holds session) : later.Holds base := by
  rcases h with rfl | rfl
  · exact hholds
  · exact hholds

theorem Rewrites.holds (h : state.Rewrites change session state' changed) : state'.Holds changed :=
  (Store.sessionRow?_putRow h.rows changed.id).trans (if_pos rfl)

theorem Rewrites.facts (h : state.Rewrites change session state' changed)
    (hchange : RowChange change) : changed.facts = session.facts := by
  obtain ⟨base, version, hbase, rfl⟩ := h.made
  have hfacts : (change base).1.facts = (Store.row base).facts := (hchange.revises base).facts
  rw [hbase.row] at hfacts
  exact hfacts

theorem Rewrites.later {third : OpenWorld} (h : state.Rewrites change session state' changed)
    (adds : state'.Adds third []) (same : third.store = state'.store) :
    state.Rewrites change session third changed where
  extension := h.extension.trans adds.extension
  turns := by rw [same, h.turns]
  rows := by rw [same, h.rows]
  made := h.made

theorem Rewrites.unchanged (adds : state.Adds state' [])
    (turns : state'.store.turns = state.store.turns) (hholds : state.Holds session)
    (hchange : RowChange change) (hbase : state.Rereads session base)
    (hnone : change base = (changed, none)) :
    state.Rewrites change session state' changed := by
  have hquiet := hchange.quiet base
  rw [hnone] at hquiet
  have hrow : Store.row changed = Store.row session := (hquiet rfl).trans hbase.row
  refine ⟨adds.extension, turns, ?_, base, changed.version, hbase, by rw [hnone]⟩
  have hfound : (state.store.sessions.find? fun other => other.id == (Store.row session).id) =
      some (Store.row session) := hholds
  rw [adds.sessions, hrow, Store.putRow_of_find hfound]

theorem Rewrites.stored {middle : OpenWorld} {sent : Session} {outcome : α}
    (adds : state.Adds middle []) (turns : middle.store.turns = state.store.turns)
    (hholds : state.Holds session) (hchange : RowChange change) (hbase : state.Rereads session base)
    (hsent : change base = (sent, some outcome)) :
    state.Rewrites change session (middle.putSession sent.advance) sent.advance := by
  have hrevises := hchange.revises base
  rw [hsent] at hrevises
  have hfacts : sent.advance.facts = (Store.row base).facts := hrevises.facts
  rw [hbase.row] at hfacts
  refine ⟨adds.extension.trans ?_, turns, ?_, base, sent.advance.version, hbase, ?_⟩
  · exact .putSession adds.extension.intact (adds.holds hholds) hfacts
  · change Store.putRow _ middle.store.sessions = _
    rw [adds.sessions]
  · rw [hsent]
    rfl

theorem Rewrites.meets (h : state.Rewrites change session state' changed)
    (hholds : state.Holds session) (hchange : RowChange change)
    (hlength : ∀ base, (change base).1.lengthSeconds = base.lengthSeconds) :
    state.Meets state' [] := by
  refine ⟨h.extension, ?_⟩
  have hid : changed.id = session.id := congrArg CallFacts.id (h.facts hchange)
  have hsame : changed.lengthSeconds = session.lengthSeconds := by
    obtain ⟨base, version, hbase, rfl⟩ := h.made
    have hrow : (Store.row base).lengthSeconds = (Store.row session).lengthSeconds := by
      rw [hbase.row]
    exact (hlength base).trans hrow
  have hfound : (state.store.sessions.find? fun other => other.id == (Store.row changed).id) =
      some (Store.row session) := by
    change (state.store.sessions.find? fun other => other.id == changed.id) = _
    rw [hid]
    exact hholds
  rw [OpenWorld.lengths, h.rows, List.map_nil, List.append_nil]
  exact Store.map_putRow _ hfound (Prod.ext hid hsame)

end Rewriting

end OpenWorld

end PhoneTree

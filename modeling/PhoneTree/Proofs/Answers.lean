import PhoneTree.Proofs.Revision

namespace PhoneTree.OpenWorld

variable {state state' : OpenWorld} {session : Session} {turn : Turn}

/-- The ways in which an update of a session is answered. -/
inductive Updated (state : OpenWorld) (session : Session) :
    Except Failure Session → OpenWorld → Prop
  | stored {row : Session} (calm : state.store.conflicts = 0)
      (found : state.store.sessionRow? session.id = some row)
      (current : row.version = session.version) :
      Updated state session (.ok session.advance) (state.putSession session.advance)
  | stale {row : Session} {failure : Failure} (calm : state.store.conflicts = 0)
      (found : state.store.sessionRow? session.id = some row)
      (outdated : row.version ≠ session.version) (kind : failure.kind = .conflict) :
      Updated state session (.error failure) state
  | missing {failure : Failure} (calm : state.store.conflicts = 0)
      (absent : state.store.sessionRow? session.id = none)
      (kind : failure.kind = .sessionNotFound) :
      Updated state session (.error failure) state
  | injected {due : Nat} {failure : Failure} (disturbed : state.store.conflicts = due + 1)
      (kind : failure.kind = .conflict) :
      Updated state session (.error failure) (state.withConflicts due)

theorem answers_updateSession {answer : Except Failure Session}
    (h : state.Answers (.updateSession session) answer state') :
    state.Updated session answer state' := by
  obtain ⟨rfl, rfl⟩ := h
  simp only [World.answer, Store.updateSession]
  split
  · rename_i due hdue
    exact .injected hdue rfl
  · rename_i hcalm
    split
    · rename_i habsent
      exact .missing hcalm habsent rfl
    · rename_i row hfound
      split
      · rename_i hcurrent
        exact .stored hcalm hfound hcurrent
      · rename_i houtdated
        exact .stale hcalm hfound houtdated rfl

theorem answers_saveSession {answer : Except Failure Unit}
    (h : state.Answers (.saveSession session) answer state') :
    ((∀ call ∈ state.callFacts, call.sid ≠ session.sid) ∧ answer = .ok () ∧
        state' = state.putSession session) ∨
      ((∃ call ∈ state.callFacts, call.sid = session.sid) ∧
        (∃ failure : Failure, failure.kind = .duplicate ∧ answer = .error failure) ∧
          state' = state) := by
  obtain ⟨rfl, rfl⟩ := h
  simp only [World.answer, Store.saveSession]
  split
  · rename_i htaken
    refine .inr ⟨?_, ⟨_, rfl, rfl⟩, rfl⟩
    obtain ⟨other, hother, hsid⟩ := List.any_eq_true.mp htaken
    exact ⟨other.facts, List.mem_map_of_mem hother, eq_of_beq hsid⟩
  · rename_i hfree
    refine .inl ⟨?_, rfl, rfl⟩
    intro call hcall hsid
    obtain ⟨other, hother, rfl⟩ := List.mem_map.mp hcall
    exact hfree (List.any_eq_true.mpr ⟨other, hother, beq_iff_eq.mpr hsid⟩)

theorem answers_saveTurn {answer : Except Failure Unit}
    (h : state.Answers (.saveTurn turn) answer state')
    (hid : ∀ other ∈ state.turnFacts, other.id ≠ turn.id) :
    answer = .ok () ∧ state' = state.addTurn turn := by
  have hfree : (state.world.store.turns.any fun other => other.id == turn.id) = false := by
    rw [List.any_eq_false]
    intro other hother hsame
    exact hid other.facts (List.mem_map_of_mem hother) (eq_of_beq hsame)
  obtain ⟨rfl, rfl⟩ := h
  simp only [World.answer, Store.saveTurn, hfree]
  exact ⟨rfl, rfl⟩

theorem answers_saveRecording {recording : Recording} {answer : Except Failure Unit}
    (h : state.Answers (.saveRecording recording) answer state') :
    answer = .ok () ∨ ∃ failure : Failure, failure.kind = .duplicate ∧ answer = .error failure := by
  obtain ⟨rfl, _⟩ := h
  simp only [World.answer, Store.saveRecording]
  split
  · exact .inr ⟨_, rfl, rfl⟩
  · exact .inl rfl

theorem answers_saveRecording_ok {recording : Recording} {saved : Unit}
    (h : state.Answers (.saveRecording recording) (.ok saved) state') :
    state.store.recordingExists recording.session recording.sid = false ∧
      state'.store =
        { state.store with recordings := Store.putRecording recording state.store.recordings } := by
  obtain ⟨hanswer, rfl⟩ := h
  simp only [World.answer, Store.saveRecording, OpenWorld.store] at hanswer ⊢
  split at hanswer
  · cases hanswer
  · rename_i hnew
    rw [if_neg hnew]
    exact ⟨eq_false_of_ne_true hnew, rfl⟩

theorem answers_saveCaller {caller : Caller} {answer : Except Failure Unit}
    (h : state.Answers (.saveCaller caller) answer state') :
    answer = .ok () ∨ (∃ failure : Failure, failure.kind = .duplicate ∧ answer = .error failure) ∧
      (state'.store.callerByNumber caller.number).isSome = true := by
  obtain ⟨rfl, rfl⟩ := h
  simp only [World.answer, Store.saveCaller]
  split
  · rename_i htaken
    refine .inr ⟨⟨_, rfl, rfl⟩, ?_⟩
    obtain ⟨other, hother, hsame⟩ := List.any_eq_true.mp htaken
    exact List.find?_isSome.mpr ⟨other, hother, hsame⟩
  · exact .inl rfl

theorem turnById_isSome {id : TurnId} (h : ∃ turn ∈ state.turnFacts, turn.id = id) :
    (state.store.turnById id).isSome = true := by
  obtain ⟨facts, hfacts, rfl⟩ := h
  obtain ⟨turn, hturn, rfl⟩ := List.mem_map.mp hfacts
  rw [Store.turnById, List.find?_isSome]
  exact ⟨turn, hturn, by simp [Turn.facts]⟩

theorem changeTurn_adds {id : TurnId} {change : Turn → Turn} (hintact : state.Intact)
    (hturn : ∃ turn ∈ state.turnFacts, turn.id = id)
    (hsame : ∀ turn, (change turn).facts = turn.facts) :
    ∃ store, state.store.changeTurn id change = .ok store ∧
      state.Adds (state.withStore store) [] := by
  obtain ⟨turn, hfound⟩ := Option.isSome_iff_exists.mp (turnById_isSome hturn)
  refine ⟨_, by rw [Store.changeTurn, hfound], ?_⟩
  refine Adds.of_same hintact rfl (Nat.le_refl _) ?_ fun _ hid => hid
  exact Store.map_modifyTurn Turn.facts hsame state.store.turns

/-- Whether a question leaves sessions alone and adds no turn. -/
def isQuiet : Question → Bool
  | .saveSession _ | .updateSession _ | .saveTurn _ => false
  | _ => true

theorem write_changeTurn_adds {id : TurnId} {change : Turn → Turn} (h : state.Intact)
    (hsame : ∀ turn, (change turn).facts = turn.facts) :
    state.Adds
      { state with world := (state.world.write (state.store.changeTurn id change)).2 } [] := by
  rw [Store.changeTurn]
  split
  · refine .of_same h rfl (Nat.le_refl _) ?_ fun _ hid => hid
    exact Store.map_modifyTurn Turn.facts hsame state.store.turns
  · exact .refl h

theorem Adds.of_answers {question : Question} {answer : question.Answer} (h : state.Intact)
    (hquiet : isQuiet question = true) (hanswer : state.Answers question answer state') :
    state.Adds state' [] := by
  have hrefl := Adds.refl h
  cases question with
  | saveSession session => cases hquiet
  | updateSession session => cases hquiet
  | saveTurn turn => cases hquiet
  | startCall command | sendMessage command | fetchRecording url =>
      obtain ⟨provider, rfl⟩ := hanswer
      exact .of_store h rfl fun _ hid => hid
  | runHook hook callback session =>
      obtain rfl := hanswer
      exact .of_store h rfl fun _ hid => hid
  | freshId =>
      obtain ⟨_, nextId, rfl⟩ := hanswer
      exact .of_store h rfl (List.subset_cons_self _ _)
  | currentTime =>
      obtain ⟨clock, rfl⟩ := hanswer
      exact .of_store h rfl fun _ hid => hid
  | recordInput turn input =>
      obtain ⟨_, rfl⟩ := hanswer
      exact write_changeTurn_adds h fun turn => turn.merge_facts input
  | markTimedOut turn =>
      obtain ⟨_, rfl⟩ := hanswer
      exact write_changeTurn_adds h Turn.markTimedOut_facts
  | attachToTurn turn recording =>
      obtain ⟨_, rfl⟩ := hanswer
      refine write_changeTurn_adds h ?_
      intro turn
      split <;> rfl
  | saveRecording recording =>
      obtain ⟨_, rfl⟩ := hanswer
      simp only [World.answer, Store.saveRecording]
      split
      · exact hrefl
      · exact .of_same h rfl (Nat.le_refl _) rfl fun _ hid => hid
  | updateRecording recording =>
      obtain ⟨_, rfl⟩ := hanswer
      simp only [World.answer, Store.updateRecording]
      split
      · exact .of_same h rfl (Nat.le_refl _) rfl fun _ hid => hid
      · exact hrefl
  | saveCaller caller =>
      obtain ⟨_, rfl⟩ := hanswer
      simp only [World.answer, Store.saveCaller]
      split
      · exact hrefl
      · exact .of_same h rfl (Nat.le_refl _) rfl fun _ hid => hid
  | _ =>
      obtain ⟨_, rfl⟩ := hanswer
      exact .of_store h rfl fun _ hid => hid

theorem Intact.ids_nodup (h : state.Intact) : (state.store.sessions.map (·.id)).Nodup := by
  have hids := h.sessionIds
  rw [callFacts, Store.callFacts, List.map_map] at hids
  exact hids

theorem Intact.holds_load {row : Session} (h : state.Intact) (hrow : row ∈ state.store.sessions) :
    state.Holds (state.store.load row) := by
  have hbare : Store.row (state.store.load row) = row := by
    rw [Store.row, Store.load, ← h.bare row hrow]
  rw [Holds, hbare]
  exact find_of_nodup h.ids_nodup hrow

theorem Intact.loads_load {row : Session} (h : state.Intact) (hrow : row ∈ state.store.sessions) :
    state.Loads (state.store.load row) :=
  ⟨h.holds_load hrow, rfl⟩

theorem sid_of_sessionBySid {store : Store} {sid : String}
    (h : store.sessionBySid sid = some session) : session.sid = sid := by
  obtain ⟨row, hrow, rfl⟩ := Option.map_eq_some_iff.mp h
  have hsid := List.find?_some hrow
  exact eq_of_beq hsid

theorem id_of_sessionById {store : Store} {id : SessionId}
    (h : store.sessionById id = some session) : session.id = id := by
  obtain ⟨row, hrow, rfl⟩ := Option.map_eq_some_iff.mp h
  rw [Store.sessionRow?] at hrow
  have hid := List.find?_some hrow
  exact eq_of_beq hid

theorem loads_of_sessionBySid {sid : String} (h : state.Intact)
    (hfound : state.store.sessionBySid sid = some session) :
    state.Loads session ∧ session.sid = sid := by
  refine ⟨?_, sid_of_sessionBySid hfound⟩
  obtain ⟨row, hrow, rfl⟩ := Option.map_eq_some_iff.mp hfound
  exact h.loads_load (List.mem_of_find?_eq_some hrow)

theorem loads_of_sessionById {id : SessionId} (h : state.Intact)
    (hfound : state.store.sessionById id = some session) :
    state.Loads session ∧ session.id = id := by
  refine ⟨?_, id_of_sessionById hfound⟩
  obtain ⟨row, hrow, rfl⟩ := Option.map_eq_some_iff.mp hfound
  exact h.loads_load (List.mem_of_find?_eq_some hrow)

theorem sid_ne_of_sessionBySid {sid : String} (h : state.store.sessionBySid sid = none) :
    ∀ call ∈ state.callFacts, call.sid ≠ sid := by
  intro call hcall hsid
  obtain ⟨other, hother, rfl⟩ := List.mem_map.mp hcall
  have hnone := List.find?_eq_none.mp (Option.map_eq_none_iff.mp h) other hother
  exact hnone (beq_iff_eq.mpr hsid)

theorem Intact.withConflicts (h : state.Intact) (due : Nat) : (state.withConflicts due).Intact :=
  ⟨h.bare, h.sessionIds, h.sids, h.turnIds, h.owned, h.sessionsDrawn, h.turnsDrawn⟩

theorem adds_withConflicts {due : Nat} (h : state.Intact)
    (hdue : due ≤ state.store.conflicts) : state.Adds (state.withConflicts due) [] :=
  Adds.of_same h rfl hdue rfl fun _ hid => hid

/-- An update of a session that somebody has as it stands in the store fails only if a conflict is
due. -/
theorem Holds.updated {changed : Session} {answer : Except Failure Session}
    (hholds : state.Holds session) (hrevises : changed.Revises session)
    (h : state.Updated changed answer state') :
    (answer = .ok changed.advance ∧ state' = state.putSession changed.advance) ∨
      ∃ failure due, failure.kind = .conflict ∧ state.store.conflicts = due + 1 ∧
        answer = .error failure ∧ state' = state.withConflicts due := by
  have hrow : state.store.sessionRow? changed.id = some (Store.row session) := by
    rw [hrevises.id_eq]
    exact hholds
  cases h with
  | stored => exact .inl ⟨rfl, rfl⟩
  | stale calm found outdated kind =>
      rw [hrow] at found
      rw [← Option.some.inj found] at outdated
      exact absurd hrevises.version.symm outdated
  | missing calm absent kind =>
      rw [hrow] at absent
      cases absent
  | injected disturbed kind => exact .inr ⟨_, _, kind, disturbed, rfl, rfl⟩

theorem Holds.sessionById (h : state.Holds session) :
    ∃ loaded, state.store.sessionById session.id = some loaded ∧ state.Holds loaded ∧
      loaded.facts = session.facts := by
  refine ⟨state.store.load (Store.row session), ?_, h, rfl⟩
  rw [Store.sessionById, h]
  rfl

end PhoneTree.OpenWorld

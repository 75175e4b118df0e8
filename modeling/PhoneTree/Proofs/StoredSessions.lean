import PhoneTree.Proofs.RecordedTurns
import PhoneTree.Proofs.Retries

namespace PhoneTree

namespace World

/-- A session is stored as somebody has it, but for the first turn of an identifier. -/
structure Tracks (world : World) (about : Option TurnId) (session : Session) : Prop where
  row : (world.store.sessionRow? session.id).map Store.row = some (Store.row session)
  turns : Session.SameBut about session.turns (world.store.turnsOf session.id)

/-- A session is stored as somebody has it, but for the turns of a step. -/
structure TracksStep (world : World) (step : FlowStep) (session : Session) : Prop where
  row : (world.store.sessionRow? session.id).map Store.row = some (Store.row session)
  turns : ∃ turns, world.store.turnsOf session.id = turns ++ step.nextTurn.toList ∧
    Session.SameBut (step.updatedTurn.map (·.id)) session.turns turns
  new : ∀ turn, step.nextTurn = some turn → turn.id ∉ session.turns.map (·.id)

/-- No session has the identifier, and no turn belongs to such a session. -/
structure IsFree (world : World) (id : SessionId) : Prop where
  rows : ∀ row ∈ world.store.sessions, row.id ≠ id
  turns : ∀ turn ∈ world.store.turns, turn.session ≠ id

/-- Sessions are kept by their identifiers, and so many of the next identifiers are free. -/
structure Ready (world : World) (source : Source) (left : Nat) : Prop where
  keyed : (world.store.sessions.map (·.id)).Nodup
  free : ∀ ahead < left, world.IsFree ⟨source.id (world.nextId + ahead)⟩

variable {source : Source} {world later : World} {about : Option TurnId} {session : Session}
  {step : FlowStep} {left : Nat}

section Tracking

theorem sessionById_of_row {session : Session}
    (h : (world.store.sessionRow? session.id).map Store.row = some (Store.row session)) :
    world.store.sessionById session.id =
      some { session with turns := world.store.turnsOf session.id } := by
  obtain ⟨row, hrow, hsame⟩ := Option.map_eq_some_iff.mp h
  rw [Store.sessionById, hrow]
  change some (world.store.load (Store.row row)) = some (world.store.load (Store.row session))
  rw [hsame]

theorem Tracks.sessionById (h : world.Tracks none session) :
    world.store.sessionById session.id = some session := by
  rw [sessionById_of_row h.row, h.turns.eq]

theorem tracks_load {row : Session} (h : world.store.sessionRow? row.id = some row) :
    world.Tracks none (world.store.load row) where
  row := congrArg (Option.map Store.row) h
  turns := Session.sameBut_none _

theorem Tracks.of_same (h : world.Tracks about session)
    (hsessions : later.store.sessions = world.store.sessions)
    (hturns : later.store.turns = world.store.turns) : later.Tracks about session := by
  refine ⟨?_, ?_⟩
  · rw [Store.sessionRow?, hsessions]
    exact h.row
  · rw [Store.turnsOf_congr hturns]
    exact h.turns

theorem Tracks.around {turn : Turn} (h : world.Tracks none session)
    (hturn : turn ∈ world.store.turnsOf session.id) : world.Tracks (some turn.id) session := by
  refine ⟨h.row, ?_⟩
  rw [h.turns.eq] at hturn ⊢
  refine .refl ?_
  intro id hid
  rw [← Option.some.inj hid]
  exact List.mem_map_of_mem hturn

theorem Tracks.write (write : TurnWrite) (h : world.Tracks (some write.turn) session) :
    (World.answer write.question world).2.Tracks (some write.turn) session := by
  rw [answer_write]
  exact ⟨h.row, h.turns.modifyTurn write.change_facts⟩

theorem Tracks.tracksStep (h : world.Tracks (step.updatedTurn.map (·.id)) session)
    (hnext : step.nextTurn = none) : world.TracksStep step session := by
  refine ⟨h.row, ⟨_, ?_, h.turns⟩, ?_⟩
  · rw [hnext]
    exact (List.append_nil _).symm
  · intro turn hturn
    rw [hnext] at hturn
    cases hturn

theorem Tracks.saveTurn {turn : Turn} {store : Store}
    (h : world.Tracks (step.updatedTurn.map (·.id)) session) (hnext : step.nextTurn = some turn)
    (howned : turn.session = session.id) (saved : world.store.saveTurn turn = .ok store) :
    { world with store }.TracksStep step session := by
  rw [Store.saveTurn] at saved
  split at saved
  · cases saved
  · rename_i hnew
    obtain rfl := Except.ok.inj saved
    refine ⟨h.row, ⟨_, ?_, h.turns⟩, ?_⟩
    · rw [hnext]
      change List.filter _ (world.store.turns ++ [turn]) = _
      rw [List.filter_append]
      simp [Store.turnsOf, howned]
    · intro other hother hmem
      obtain rfl := Option.some.inj (hnext.symm.trans hother)
      rw [← h.turns.ids] at hmem
      obtain ⟨stored, hstored, hid⟩ := List.mem_map.mp hmem
      refine hnew (List.any_eq_true.mpr ⟨stored, (List.mem_filter.mp hstored).1, ?_⟩)
      exact beq_iff_eq.mpr hid

end Tracking

section Readiness

theorem Ready.less (h : world.Ready source (left + 1)) : world.Ready source left :=
  ⟨h.keyed, fun ahead hahead => h.free ahead (Nat.lt_succ_of_lt hahead)⟩

theorem Ready.of_same (h : world.Ready source left)
    (hsessions : later.store.sessions = world.store.sessions)
    (hturns : later.store.turns = world.store.turns) (hnext : later.nextId = world.nextId) :
    later.Ready source left := by
  refine ⟨?_, ?_⟩
  · rw [hsessions]
    exact h.keyed
  · intro ahead hahead
    obtain ⟨rows, turns⟩ := h.free ahead hahead
    refine ⟨?_, ?_⟩
    · rwa [hsessions, hnext]
    · rwa [hturns, hnext]

theorem Ready.tracks {sid : String} (h : world.Ready source left)
    (found : world.store.sessionBySid sid = some session) : world.Tracks none session := by
  obtain ⟨row, hrow, rfl⟩ := Option.map_eq_some_iff.mp found
  exact tracks_load (OpenWorld.find_of_nodup h.keyed (List.mem_of_find?_eq_some hrow))

theorem IsFree.tracks (free : world.IsFree session.id) (hturns : session.turns = []) :
    { world with store := { world.store with
      sessions := world.store.sessions ++ [Store.row session] } }.Tracks none session := by
  refine ⟨?_, ?_⟩
  · have hnone : (world.store.sessions.find? fun row => row.id == session.id) = none := by
      refine List.find?_eq_none.mpr ?_
      intro row hrow hid
      exact free.rows row hrow (eq_of_beq hid)
    change ((world.store.sessions ++ [Store.row session]).find? fun row => row.id == session.id).map
      Store.row = _
    rw [List.find?_append, hnone]
    simp [Store.row]
  · have hnone : world.store.turnsOf session.id = [] := by
      refine List.filter_eq_nil_iff.mpr ?_
      intro turn hturn hid
      exact free.turns turn hturn (eq_of_beq hid)
    change Session.SameBut none session.turns (world.store.turnsOf session.id)
    rw [hnone, hturns]
    exact Session.sameBut_none []

end Readiness

end World

end PhoneTree

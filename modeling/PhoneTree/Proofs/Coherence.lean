import PhoneTree.Proofs.Ties

namespace PhoneTree

namespace Store

/-- What is fixed of the recordings of a store. -/
def recordingFacts (store : Store) : List Recording :=
  store.recordings.map Recording.facts

/-- A store has all facts of another, and all its callers. -/
structure Grows (store store' : Store) : Prop where
  calls : store.callFacts ⊆ store'.callFacts
  turns : store.turnFacts ⊆ store'.turnFacts
  recordings : store.recordingFacts ⊆ store'.recordingFacts
  callers : store.callers ⊆ store'.callers

/-- What a program was told of, as far as it never changes, is stored. -/
structure Bears (store : Store) (exchange : Exchange) : Prop where
  session : ∀ session, exchange.told? = some session →
    session.facts ∈ store.callFacts ∧ session.IsClean
  turn : ∀ turn, exchange.turn? = some turn → turn.facts ∈ store.turnFacts
  recording : ∀ recording, exchange.recording? = some recording →
    recording.facts ∈ store.recordingFacts
  caller : ∀ caller, exchange.caller? = some caller → caller ∈ store.callers

/-- The sessions of a store are named, distinct, clean and those of callers who are stored. -/
structure SessionsHold (store : Store) : Prop where
  named : ∀ call ∈ store.callFacts, Text.isBlank call.sid = false
  sids : (store.callFacts.map (·.sid)).Nodup
  ids : (store.callFacts.map (·.id)).Nodup
  clean : ∀ session ∈ store.sessions, session.IsClean
  callers : ∀ call ∈ store.callFacts, ∃ caller ∈ store.callers, caller.id = call.caller

/-- The turns of a store are distinct, belong to sessions that are stored and have recordings of
their sessions. -/
structure TurnsHold (store : Store) : Prop where
  ids : (store.turnFacts.map (·.id)).Nodup
  owned : ∀ turn ∈ store.turnFacts, ∃ call ∈ store.callFacts, call.id = turn.session
  attached : ∀ turn ∈ store.turns, ∀ id, turn.recording = some id →
    ∃ recording ∈ store.recordingFacts, recording.id = id ∧ recording.session = turn.session

/-- The recordings of a store are distinct and belong to sessions that are stored. -/
structure RecordingsHold (store : Store) : Prop where
  ids : (store.recordingFacts.map (·.id)).Nodup
  sids : (store.recordingFacts.map fun recording => (recording.session, recording.sid)).Nodup
  owned : ∀ recording ∈ store.recordingFacts, ∃ call ∈ store.callFacts, call.id = recording.session

/-- Everything in a store is distinct, and everything that is named in it is there. -/
structure Coherent (store : Store) : Prop where
  sessions : store.SessionsHold
  turns : store.TurnsHold
  recordings : store.RecordingsHold
  numbers : (store.callers.map (·.number)).Nodup

theorem coherent_of_empty : ({} : Store).Coherent := by
  constructor
  · constructor <;> simp [callFacts]
  · constructor <;> simp [turnFacts]
  · constructor <;> simp [recordingFacts]
  · exact List.nodup_nil

section Lists

theorem map_putRecording {α : Type} {recording stored : Recording} {recordings : List Recording}
    (f : Recording → α)
    (hfound : (recordings.find? fun other => other.id == recording.id) = some stored)
    (hsame : f recording = f stored) :
    (putRecording recording recordings).map f = recordings.map f := by
  induction recordings with
  | nil => cases hfound
  | cons other rest ih =>
      rw [putRecording]
      by_cases h : other.id = recording.id
      · have hother : other = stored := by simpa [h] using hfound
        rw [if_pos h, List.map_cons, List.map_cons, hsame, hother]
      · have hrest : (rest.find? fun other => other.id == recording.id) = some stored := by
          simpa [h] using hfound
        rw [if_neg h, List.map_cons, List.map_cons, ih hrest]

theorem putRecording_eq_append {recording : Recording} {recordings : List Recording}
    (h : ∀ other ∈ recordings, other.id ≠ recording.id) :
    putRecording recording recordings = recordings ++ [recording] := by
  induction recordings with
  | nil => rfl
  | cons other rest ih =>
      rw [putRecording, if_neg (h other List.mem_cons_self),
        ih fun other hother => h other (List.mem_cons_of_mem _ hother)]
      rfl

theorem mem_modifyTurn {id : TurnId} {change : Turn → Turn} {turns : List Turn} {turn : Turn}
    (h : turn ∈ modifyTurn id change turns) :
    turn ∈ turns ∨ ∃ old ∈ turns, old.id = id ∧ turn = change old := by
  induction turns with
  | nil => cases h
  | cons first rest ih =>
      rw [modifyTurn] at h
      split at h
      · rename_i hid
        rcases List.mem_cons.mp h with rfl | h
        · exact .inr ⟨first, List.mem_cons_self, hid, rfl⟩
        · exact .inl (List.mem_cons_of_mem _ h)
      · rcases List.mem_cons.mp h with rfl | h
        · exact .inl List.mem_cons_self
        · rcases ih h with h | ⟨old, hold, hid, hturn⟩
          · exact .inl (List.mem_cons_of_mem _ h)
          · exact .inr ⟨old, List.mem_cons_of_mem _ hold, hid, hturn⟩

theorem nodup_map_append {α β : Type} {key : α → β} {list : List α} {value : α}
    (h : (list.map key).Nodup) (hnew : ∀ other ∈ list, key other ≠ key value) :
    ((list ++ [value]).map key).Nodup := by
  rw [List.map_append, List.nodup_append]
  refine ⟨h, by simp, ?_⟩
  intro a ha b hb
  obtain ⟨other, hother, rfl⟩ := List.mem_map.mp ha
  obtain rfl := List.mem_singleton.mp hb
  exact hnew other hother

end Lists

variable {store store' : Store} {exchange : Exchange}

theorem Grows.refl (store : Store) : store.Grows store :=
  ⟨List.Subset.refl _, List.Subset.refl _, List.Subset.refl _, List.Subset.refl _⟩

theorem Grows.trans {third : Store} (h : store.Grows store') (h' : store'.Grows third) :
    store.Grows third where
  calls := List.Subset.trans h.calls h'.calls
  turns := List.Subset.trans h.turns h'.turns
  recordings := List.Subset.trans h.recordings h'.recordings
  callers := List.Subset.trans h.callers h'.callers

theorem Bears.grows (h : store.Bears exchange) (grows : store.Grows store') :
    store'.Bears exchange where
  session session htold := ⟨grows.calls (h.session session htold).1, (h.session session htold).2⟩
  turn turn htold := grows.turns (h.turn turn htold)
  recording recording htold := grows.recordings (h.recording recording htold)
  caller caller htold := grows.callers (h.caller caller htold)

theorem Tells.bears (h : store.Tells exchange) (hsessions : store.SessionsHold) :
    store.Bears exchange where
  session session htold := by
    obtain ⟨row, hrow, rfl⟩ := h.session session htold
    have hfacts : (store.load row).facts = row.facts := rfl
    rw [hfacts]
    exact ⟨List.mem_map_of_mem hrow, hsessions.clean row hrow⟩
  turn turn htold := List.mem_map_of_mem (h.turn turn htold)
  recording recording htold := List.mem_map_of_mem (h.recording recording htold)
  caller := h.caller

theorem SessionsHold.of_same (h : store.SessionsHold) (hsessions : store'.sessions = store.sessions)
    (hcallers : store.callers ⊆ store'.callers) : store'.SessionsHold := by
  have hcalls : store'.callFacts = store.callFacts := congrArg (List.map Session.facts) hsessions
  constructor
  · rw [hcalls]
    exact h.named
  · rw [hcalls]
    exact h.sids
  · rw [hcalls]
    exact h.ids
  · rw [hsessions]
    exact h.clean
  · rw [hcalls]
    intro call hcall
    obtain ⟨caller, hcaller, hid⟩ := h.callers call hcall
    exact ⟨caller, hcallers hcaller, hid⟩

theorem TurnsHold.of_same (h : store.TurnsHold) (hturns : store'.turns = store.turns)
    (grows : store.Grows store') : store'.TurnsHold := by
  have hfacts : store'.turnFacts = store.turnFacts := congrArg (List.map Turn.facts) hturns
  constructor
  · rw [hfacts]
    exact h.ids
  · rw [hfacts]
    intro turn hturn
    obtain ⟨call, hcall, hid⟩ := h.owned turn hturn
    exact ⟨call, grows.calls hcall, hid⟩
  · rw [hturns]
    intro turn hturn id hid
    obtain ⟨recording, hstored, hkept⟩ := h.attached turn hturn id hid
    exact ⟨recording, grows.recordings hstored, hkept⟩

theorem RecordingsHold.of_facts (h : store.RecordingsHold)
    (hrecordings : store'.recordingFacts = store.recordingFacts) (grows : store.Grows store') :
    store'.RecordingsHold := by
  constructor
  · rw [hrecordings]
    exact h.ids
  · rw [hrecordings]
    exact h.sids
  · rw [hrecordings]
    intro recording hrecording
    obtain ⟨call, hcall, hid⟩ := h.owned recording hrecording
    exact ⟨call, grows.calls hcall, hid⟩

theorem Coherent.of_same (h : store.Coherent) (sessions : store'.sessions = store.sessions)
    (turns : store'.turns = store.turns) (recordings : store'.recordings = store.recordings)
    (callers : store'.callers = store.callers) : store'.Coherent ∧ store.Grows store' := by
  have hgrows : store.Grows store' := by
    refine ⟨?_, ?_, ?_, ?_⟩
    · rw [callFacts, callFacts, sessions]
      exact List.Subset.refl _
    · rw [turnFacts, turnFacts, turns]
      exact List.Subset.refl _
    · rw [recordingFacts, recordingFacts, recordings]
      exact List.Subset.refl _
    · rw [callers]
      exact List.Subset.refl _
  refine ⟨⟨?_, ?_, ?_, ?_⟩, hgrows⟩
  · exact h.sessions.of_same sessions hgrows.callers
  · exact h.turns.of_same turns hgrows
  · exact h.recordings.of_facts (congrArg (List.map Recording.facts) recordings) hgrows
  · rw [callers]
    exact h.numbers

theorem Coherent.save {session : Session} (h : store.Coherent) (hnew : session.IsNew)
    (hcaller : ∃ caller ∈ store.callers, caller.id = session.caller)
    (hsid : ∀ row ∈ store.sessions, row.sid ≠ session.sid)
    (hid : ∀ row ∈ store.sessions, row.id ≠ session.id)
    (hstore : store' = { store with sessions := putRow (row session) store.sessions }) :
    store'.Coherent ∧ store.Grows store' ∧ session.facts ∈ store'.callFacts := by
  have hrows : store'.sessions = store.sessions ++ [row session] := by
    rw [hstore]
    exact putRow_eq_append hid
  have hcalls : store'.callFacts = store.callFacts ++ [session.facts] := by
    rw [callFacts, hrows, List.map_append]
    rfl
  have hmem : ∀ call ∈ store'.callFacts, call ∈ store.callFacts ∨ call = session.facts := by
    intro call hcall
    rw [hcalls] at hcall
    exact (List.mem_append.mp hcall).imp_right List.mem_singleton.mp
  have hgrows : store.Grows store' := by
    rw [hstore] at hcalls ⊢
    refine ⟨?_, List.Subset.refl _, List.Subset.refl _, List.Subset.refl _⟩
    rw [hcalls]
    exact List.subset_append_left _ _
  refine ⟨⟨⟨?_, ?_, ?_, ?_, ?_⟩, ?_, ?_, ?_⟩, hgrows, ?_⟩
  · intro call hcall
    rcases hmem call hcall with hcall | rfl
    · exact h.sessions.named call hcall
    · exact hnew.named
  · rw [hcalls]
    refine nodup_map_append h.sessions.sids ?_
    intro call hcall
    obtain ⟨other, hother, rfl⟩ := List.mem_map.mp hcall
    exact hsid other hother
  · rw [hcalls]
    refine nodup_map_append h.sessions.ids ?_
    intro call hcall
    obtain ⟨other, hother, rfl⟩ := List.mem_map.mp hcall
    exact hid other hother
  · intro other hother
    rw [hrows] at hother
    rcases List.mem_append.mp hother with hother | hother
    · exact h.sessions.clean other hother
    · obtain rfl := List.mem_singleton.mp hother
      exact hnew.isClean
  · intro call hcall
    rcases hmem call hcall with hcall | rfl
    · obtain ⟨caller, hstored, hsame⟩ := h.sessions.callers call hcall
      exact ⟨caller, hgrows.callers hstored, hsame⟩
    · obtain ⟨caller, hstored, hsame⟩ := hcaller
      exact ⟨caller, hgrows.callers hstored, hsame⟩
  · exact h.turns.of_same (by rw [hstore]) hgrows
  · exact h.recordings.of_facts (by rw [hstore]; rfl) hgrows
  · rw [hstore]
    exact h.numbers
  · rw [hcalls]
    exact List.mem_append_right _ List.mem_cons_self

theorem Coherent.update {session stored : Session} (h : store.Coherent)
    (hfacts : session.facts ∈ store.callFacts) (hclean : session.IsClean)
    (hfound : store.sessionRow? session.id = some stored)
    (hstore : store' = { store with sessions := putRow (row session) store.sessions }) :
    store'.Coherent ∧ store.Grows store' := by
  have hrow : stored.facts = session.facts := by
    refine OpenWorld.eq_of_nodup h.sessions.ids ?_ hfacts (id_of_sessionRow? hfound)
    exact List.mem_map_of_mem (List.mem_of_find?_eq_some hfound)
  have hcalls : store'.callFacts = store.callFacts := by
    rw [hstore]
    exact @map_putRow _ (row session) stored _ Session.facts hfound hrow.symm
  have hgrows : store.Grows store' := by
    rw [hstore] at hcalls ⊢
    refine ⟨?_, List.Subset.refl _, List.Subset.refl _, List.Subset.refl _⟩
    rw [hcalls]
    exact List.Subset.refl _
  refine ⟨⟨⟨?_, ?_, ?_, ?_, ?_⟩, ?_, ?_, ?_⟩, hgrows⟩
  · rw [hcalls]
    exact h.sessions.named
  · rw [hcalls]
    exact h.sessions.sids
  · rw [hcalls]
    exact h.sessions.ids
  · intro other hother
    rw [hstore] at hother
    rcases mem_putRow hother with rfl | hother
    · exact hclean
    · exact h.sessions.clean other hother
  · rw [hcalls, hstore]
    exact h.sessions.callers
  · exact h.turns.of_same (by rw [hstore]) hgrows
  · exact h.recordings.of_facts (by rw [hstore]; rfl) hgrows
  · rw [hstore]
    exact h.numbers

theorem Coherent.begin {turn : Turn} (h : store.Coherent) (hbare : turn.recording = none)
    (howned : ∃ call ∈ store.callFacts, call.id = turn.session)
    (hnew : ∀ other ∈ store.turns, other.id ≠ turn.id)
    (hstore : store' = { store with turns := store.turns ++ [turn] }) :
    store'.Coherent ∧ store.Grows store' := by
  have hturns : store'.turnFacts = store.turnFacts ++ [turn.facts] := by
    rw [hstore, turnFacts, List.map_append]
    rfl
  have hgrows : store.Grows store' := by
    rw [hstore] at hturns ⊢
    refine ⟨List.Subset.refl _, ?_, List.Subset.refl _, List.Subset.refl _⟩
    rw [hturns]
    exact List.subset_append_left _ _
  refine ⟨⟨?_, ⟨?_, ?_, ?_⟩, ?_, ?_⟩, hgrows⟩
  · exact h.sessions.of_same (by rw [hstore]) hgrows.callers
  · rw [hturns]
    refine nodup_map_append h.turns.ids ?_
    intro facts hmem
    obtain ⟨other, hother, rfl⟩ := List.mem_map.mp hmem
    exact hnew other hother
  · rw [hturns]
    intro facts hmem
    rcases List.mem_append.mp hmem with hmem | hmem
    · obtain ⟨call, hcall, hid⟩ := h.turns.owned facts hmem
      exact ⟨call, hgrows.calls hcall, hid⟩
    · obtain rfl := List.mem_singleton.mp hmem
      obtain ⟨call, hcall, hid⟩ := howned
      exact ⟨call, hgrows.calls hcall, hid⟩
  · intro other hother id hid
    rw [hstore] at hother
    rcases List.mem_append.mp hother with hother | hother
    · obtain ⟨recording, hstored, hkept⟩ := h.turns.attached other hother id hid
      exact ⟨recording, hgrows.recordings hstored, hkept⟩
    · obtain rfl := List.mem_singleton.mp hother
      rw [hbare] at hid
      cases hid
  · exact h.recordings.of_facts (by rw [hstore]; rfl) hgrows
  · rw [hstore]
    exact h.numbers

/-- A change of a turn that leaves its facts alone, and leaves it with the recording that it has or
with one of its session. -/
theorem Coherent.change {id : TurnId} {change : Turn → Turn} (h : store.Coherent)
    (hfacts : ∀ turn, (change turn).facts = turn.facts)
    (hattached : ∀ turn ∈ store.turns, turn.id = id → ∀ kept, (change turn).recording = some kept →
      turn.recording = some kept ∨
        ∃ recording ∈ store.recordingFacts, recording.id = kept ∧ recording.session = turn.session)
    (hstore : store' = { store with turns := modifyTurn id change store.turns }) :
    store'.Coherent ∧ store.Grows store' := by
  have hturns : store'.turnFacts = store.turnFacts := by
    rw [hstore]
    exact map_modifyTurn Turn.facts hfacts store.turns
  have hgrows : store.Grows store' := by
    rw [hstore] at hturns ⊢
    refine ⟨List.Subset.refl _, ?_, List.Subset.refl _, List.Subset.refl _⟩
    rw [hturns]
    exact List.Subset.refl _
  refine ⟨⟨?_, ⟨?_, ?_, ?_⟩, ?_, ?_⟩, hgrows⟩
  · exact h.sessions.of_same (by rw [hstore]) hgrows.callers
  · rw [hturns]
    exact h.turns.ids
  · rw [hturns]
    intro facts hmem
    obtain ⟨call, hcall, hid⟩ := h.turns.owned facts hmem
    exact ⟨call, hgrows.calls hcall, hid⟩
  · intro turn hturn kept hkept
    have hmem : turn ∈ modifyTurn id change store.turns := by rwa [hstore] at hturn
    have hrecordings : store'.recordingFacts = store.recordingFacts := by rw [hstore]; rfl
    rw [hrecordings]
    rcases mem_modifyTurn hmem with hmem | ⟨old, hold, hid, rfl⟩
    · exact h.turns.attached turn hmem kept hkept
    · have hsession : (change old).session = old.session :=
        congrArg TurnFacts.session (hfacts old)
      rw [hsession]
      rcases hattached old hold hid kept hkept with hbefore | hstored
      · exact h.turns.attached old hold kept hbefore
      · exact hstored
  · exact h.recordings.of_facts (by rw [hstore]; rfl) hgrows
  · rw [hstore]
    exact h.numbers

theorem Coherent.receive {recording : Recording} (h : store.Coherent)
    (howned : ∃ call ∈ store.callFacts, call.id = recording.session)
    (hsid : ∀ other ∈ store.recordings,
      (other.session, other.sid) ≠ (recording.session, recording.sid))
    (hid : ∀ other ∈ store.recordings, other.id ≠ recording.id)
    (hstore : store' =
      { store with recordings := putRecording recording store.recordings }) :
    store'.Coherent ∧ store.Grows store' ∧ recording.facts ∈ store'.recordingFacts := by
  have hrecordings : store'.recordingFacts = store.recordingFacts ++ [recording.facts] := by
    rw [hstore, recordingFacts, putRecording_eq_append hid, List.map_append]
    rfl
  have hgrows : store.Grows store' := by
    rw [hstore] at hrecordings ⊢
    refine ⟨List.Subset.refl _, List.Subset.refl _, ?_, List.Subset.refl _⟩
    rw [hrecordings]
    exact List.subset_append_left _ _
  refine ⟨⟨?_, ?_, ⟨?_, ?_, ?_⟩, ?_⟩, hgrows, ?_⟩
  · exact h.sessions.of_same (by rw [hstore]) hgrows.callers
  · exact h.turns.of_same (by rw [hstore]) hgrows
  · rw [hrecordings]
    refine nodup_map_append h.recordings.ids ?_
    intro facts hmem
    obtain ⟨other, hother, rfl⟩ := List.mem_map.mp hmem
    exact hid other hother
  · rw [hrecordings]
    refine nodup_map_append h.recordings.sids ?_
    intro facts hmem
    obtain ⟨other, hother, rfl⟩ := List.mem_map.mp hmem
    exact hsid other hother
  · rw [hrecordings]
    intro facts hmem
    rcases List.mem_append.mp hmem with hmem | hmem
    · obtain ⟨call, hcall, hsame⟩ := h.recordings.owned facts hmem
      exact ⟨call, hgrows.calls hcall, hsame⟩
    · obtain rfl := List.mem_singleton.mp hmem
      obtain ⟨call, hcall, hsame⟩ := howned
      exact ⟨call, hgrows.calls hcall, hsame⟩
  · rw [hstore]
    exact h.numbers
  · rw [hrecordings]
    exact List.mem_append_right _ List.mem_cons_self

theorem Coherent.fetch {recording stored : Recording} (h : store.Coherent)
    (hfacts : recording.facts ∈ store.recordingFacts)
    (hfound : store.recordingById recording.id = some stored)
    (hstore : store' =
      { store with recordings := putRecording recording store.recordings }) :
    store'.Coherent ∧ store.Grows store' := by
  have hid : stored.id = recording.id := by
    have hsame := List.find?_some hfound
    exact eq_of_beq hsame
  have hsame : stored.facts = recording.facts := by
    refine OpenWorld.eq_of_nodup h.recordings.ids ?_ hfacts hid
    exact List.mem_map_of_mem (List.mem_of_find?_eq_some hfound)
  have hrecordings : store'.recordingFacts = store.recordingFacts := by
    rw [hstore]
    exact map_putRecording Recording.facts hfound hsame.symm
  have hgrows : store.Grows store' := by
    rw [hstore] at hrecordings ⊢
    refine ⟨List.Subset.refl _, List.Subset.refl _, ?_, List.Subset.refl _⟩
    rw [hrecordings]
    exact List.Subset.refl _
  refine ⟨⟨?_, ?_, ?_, ?_⟩, hgrows⟩
  · exact h.sessions.of_same (by rw [hstore]) hgrows.callers
  · exact h.turns.of_same (by rw [hstore]) hgrows
  · exact h.recordings.of_facts hrecordings hgrows
  · rw [hstore]
    exact h.numbers

theorem Coherent.meet {caller : Caller} (h : store.Coherent)
    (hnew : ∀ other ∈ store.callers, other.number ≠ caller.number)
    (hstore : store' = { store with callers := store.callers ++ [caller] }) :
    store'.Coherent ∧ store.Grows store' := by
  have hgrows : store.Grows store' := by
    rw [hstore]
    exact ⟨List.Subset.refl _, List.Subset.refl _, List.Subset.refl _,
      List.subset_append_left _ _⟩
  refine ⟨⟨?_, ?_, ?_, ?_⟩, hgrows⟩
  · exact h.sessions.of_same (by rw [hstore]) hgrows.callers
  · exact h.turns.of_same (by rw [hstore]) hgrows
  · exact h.recordings.of_facts (by rw [hstore]; rfl) hgrows
  · rw [hstore]
    exact nodup_map_append h.numbers hnew

end Store

section Tied

variable {store store' : Store} {about : Session → Prop} {past : List Exchange}
  {exchange : Exchange}

/-- Of what a program has been told, everything that never changes is stored. -/
def Store.Recalls (store : Store) (past : List Exchange) : Prop :=
  ∀ exchange ∈ past, store.Bears exchange

theorem Store.Recalls.learned {session : Session} (h : store.Recalls past)
    (hlearned : Learned past session) :
    session.facts ∈ store.callFacts ∧ session.IsClean := by
  obtain ⟨exchange, hexchange, htold⟩ := hlearned
  exact (h exchange hexchange).session session htold

theorem Store.Recalls.concerns {id : SessionId} (h : store.Recalls past)
    (hconcerns : Concerns about past id) :
    ∃ call ∈ store.callFacts, call.id = id ∧ ∃ session, about session ∧ session.facts = call := by
  obtain ⟨session, hlearned, habout, rfl⟩ := hconcerns
  exact ⟨session.facts, (h.learned hlearned).1, rfl, session, habout, rfl⟩

theorem Store.Recalls.turn {turn : Turn} (h : store.Recalls past)
    (hmet : Met Exchange.turn? past turn) : turn.facts ∈ store.turnFacts := by
  obtain ⟨exchange, hexchange, htold⟩ := hmet
  exact (h exchange hexchange).turn turn htold

theorem Store.Recalls.recording {recording : Recording} (h : store.Recalls past)
    (hmet : Met Exchange.recording? past recording) :
    recording.facts ∈ store.recordingFacts := by
  obtain ⟨exchange, hexchange, htold⟩ := hmet
  exact (h exchange hexchange).recording recording htold

theorem Store.Recalls.caller {caller : Caller} (h : store.Recalls past)
    (hmet : Met Exchange.caller? past caller) : caller ∈ store.callers := by
  obtain ⟨exchange, hexchange, htold⟩ := hmet
  exact (h exchange hexchange).caller caller htold

/-- A session that is sent to be stored over another has the facts of a stored one and is clean. -/
theorem Store.Recalls.sent {session : Session} (h : store.Recalls past)
    (hids : (store.callFacts.map (·.id)).Nodup)
    (hsent : Derived past session ∨ Known past session ∧ KnownOutbound past session.id) :
    session.facts ∈ store.callFacts ∧ session.IsClean := by
  rcases hsent with ⟨learned, hlearned, hamends⟩ |
    ⟨⟨learned, hlearned, hrevises⟩, other, hother, hid, houtbound⟩
  · obtain ⟨hfacts, hclean⟩ := h.learned hlearned
    rw [hamends.revises.facts]
    exact ⟨hfacts, hamends.clean hclean⟩
  · have hfacts := (h.learned hlearned).1
    rw [← hrevises.facts] at hfacts
    refine ⟨hfacts, Session.isClean_of_isOutbound ?_⟩
    have hsame : other.facts = session.facts :=
      OpenWorld.eq_of_nodup hids (h.learned hother).1 hfacts hid
    have hdirection : other.direction = session.direction := congrArg CallFacts.direction hsame
    rwa [Session.isOutbound, hdirection] at houtbound

theorem Store.bears_nothing (hsession : exchange.told? = none) (hturn : exchange.turn? = none)
    (hrecording : exchange.recording? = none) (hcaller : exchange.caller? = none) :
    store.Bears exchange :=
  ⟨OpenWorld.forall_of_none hsession, OpenWorld.forall_of_none hturn,
    OpenWorld.forall_of_none hrecording, OpenWorld.forall_of_none hcaller⟩

/-- Whoever ties what it writes to what it has been told of keeps a store coherent. -/
theorem Store.Coherent.took (h : store.Coherent) (recalls : store.Recalls past)
    (tied : Tied about past exchange.1)
    (freeSession : ∀ session, exchange.1 = .saveSession session →
      ∀ row ∈ store.sessions, row.id ≠ session.id)
    (freeRecording : ∀ recording, exchange.1 = .saveRecording recording →
      ∀ other ∈ store.recordings, other.id ≠ recording.id)
    (took : store.Took exchange store') :
    store'.Coherent ∧ store.Grows store' ∧ store'.Bears exchange := by
  cases took with
  | read sessions turns recordings callers tells =>
      obtain ⟨hcoherent, hgrows⟩ := h.of_same sessions turns recordings callers
      exact ⟨hcoherent, hgrows, (tells.bears h.sessions).grows hgrows⟩
  | @save session new =>
      obtain ⟨_, _, hnew, caller, hmet, hcaller⟩ := tied
      obtain ⟨hcoherent, hgrows, hfacts⟩ :=
        h.save hnew ⟨caller, recalls.caller hmet, hcaller⟩ new (freeSession session rfl) rfl
      refine ⟨hcoherent, hgrows, ?_, OpenWorld.forall_of_none rfl, OpenWorld.forall_of_none rfl,
        OpenWorld.forall_of_none rfl⟩
      rintro _ ⟨⟩
      exact ⟨hfacts, hnew.isClean⟩
  | @update session stored found =>
      obtain ⟨hfacts, hclean⟩ := recalls.sent h.sessions.ids tied.2
      have hadvanced : session.advance.facts ∈ store.callFacts := hfacts
      have hstays : session.advance.IsClean := hclean
      have hrow : store.sessionRow? session.advance.id = some stored := found
      obtain ⟨hcoherent, hgrows⟩ := h.update hadvanced hstays hrow rfl
      refine ⟨hcoherent, hgrows, ?_, OpenWorld.forall_of_none rfl, OpenWorld.forall_of_none rfl,
        OpenWorld.forall_of_none rfl⟩
      rintro _ ⟨⟩
      exact ⟨hgrows.calls hadvanced, hstays⟩
  | begin new =>
      obtain ⟨call, hcall, hid, -⟩ := recalls.concerns tied.2
      obtain ⟨hcoherent, hgrows⟩ := h.begin tied.1 ⟨call, hcall, hid⟩ new rfl
      exact ⟨hcoherent, hgrows, bears_nothing rfl rfl rfl rfl⟩
  | input =>
      obtain ⟨hcoherent, hgrows⟩ :=
        h.change (fun turn => turn.merge_facts _) (fun _ _ _ _ hkept => .inl hkept) rfl
      exact ⟨hcoherent, hgrows, bears_nothing rfl rfl rfl rfl⟩
  | timeout =>
      obtain ⟨hcoherent, hgrows⟩ :=
        h.change Turn.markTimedOut_facts (fun _ _ _ _ hkept => .inl hkept) rfl
      exact ⟨hcoherent, hgrows, bears_nothing rfl rfl rfl rfl⟩
  | @attach id recording =>
      obtain ⟨told, htold, hid, _, kept, hkept, hsame, hsession⟩ := tied
      have hattached : ∀ turn ∈ store.turns, turn.id = id → ∀ other,
          (if turn.recording.isNone then turn.attach recording else turn).recording = some other →
            turn.recording = some other ∨ ∃ stored ∈ store.recordingFacts,
              stored.id = other ∧ stored.session = turn.session := by
        intro turn hturn hturnId other hother
        split at hother
        · obtain rfl := Option.some.inj hother
          have hfacts : turn.facts = told.facts :=
            OpenWorld.eq_of_nodup h.turns.ids (List.mem_map_of_mem hturn) (recalls.turn htold)
              (hturnId.trans hid.symm)
          refine .inr ⟨kept.facts, recalls.recording hkept, hsame, ?_⟩
          exact hsession.trans (congrArg TurnFacts.session hfacts).symm
        · exact .inl hother
      obtain ⟨hcoherent, hgrows⟩ := h.change (fun turn => by split <;> rfl) hattached rfl
      exact ⟨hcoherent, hgrows, bears_nothing rfl rfl rfl rfl⟩
  | @receive recording new =>
      obtain ⟨call, hcall, hid, -⟩ := recalls.concerns tied.2
      obtain ⟨hcoherent, hgrows, hfacts⟩ :=
        h.receive ⟨call, hcall, hid⟩ new (freeRecording recording rfl) rfl
      refine ⟨hcoherent, hgrows, OpenWorld.forall_of_none rfl, OpenWorld.forall_of_none rfl, ?_,
        OpenWorld.forall_of_none rfl⟩
      rintro _ ⟨⟩
      exact hfacts
  | fetch found =>
      obtain ⟨⟨kept, hkept, hfacts⟩, -⟩ := tied
      obtain ⟨hcoherent, hgrows⟩ := h.fetch (hfacts ▸ recalls.recording hkept) found rfl
      exact ⟨hcoherent, hgrows, bears_nothing rfl rfl rfl rfl⟩
  | meet new =>
      obtain ⟨hcoherent, hgrows⟩ := h.meet new rfl
      refine ⟨hcoherent, hgrows, OpenWorld.forall_of_none rfl, OpenWorld.forall_of_none rfl,
        OpenWorld.forall_of_none rfl, ?_⟩
      rintro _ ⟨⟩
      exact List.mem_append_right _ List.mem_cons_self

end Tied

end PhoneTree

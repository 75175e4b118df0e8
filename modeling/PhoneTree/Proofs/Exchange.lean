import PhoneTree.Proofs.Answers

namespace PhoneTree

/-- A question with the answer that it got. -/
abbrev Exchange :=
  (question : Question) × question.Answer

namespace Exchange

/-- The session that was stored. -/
def stored? : Exchange → Option Session
  | ⟨.saveSession session, .ok _⟩ => some session
  | ⟨.updateSession _, .ok updated⟩ => some updated
  | _ => none

/-- The session that the program knows of from then on. -/
def told? : Exchange → Option Session
  | ⟨.saveSession session, .ok _⟩ => some session
  | ⟨.updateSession _, .ok updated⟩ => some updated
  | ⟨.sessionById _, .ok found⟩ => found
  | ⟨.sessionBySid _, .ok found⟩ => found
  | _ => none

/-- The session that was found. -/
def found? : Exchange → Option Session
  | ⟨.sessionById _, .ok found⟩ => found
  | ⟨.sessionBySid _, .ok found⟩ => found
  | _ => none

/-- Whether a session was updated. -/
def isUpdate : Exchange → Bool
  | ⟨.updateSession _, .ok _⟩ => true
  | _ => false

/-- The identifier that was given out. -/
def drawn? : Exchange → Option Uuid
  | ⟨.freshId, id⟩ => some id
  | _ => none

/-- The lifecycle callback that ran, with the session that it was given. -/
def ran? : Exchange → Option (Hook × Session)
  | ⟨.runHook hook _ session, _⟩ => some (hook, session)
  | _ => none

/-- The work that was left for later, with its delay. -/
def scheduled? : Exchange → Option (Job × Nat)
  | ⟨.schedule job delay, _⟩ => some (job, delay)
  | _ => none

end Exchange

namespace Store

variable {store store' : Store}

theorem changeTurn_eq_ok {id : TurnId} {change : Turn → Turn}
    (h : store.changeTurn id change = .ok store') :
    store' = { store with turns := modifyTurn id change store.turns } := by
  rw [changeTurn] at h
  split at h
  · exact (Except.ok.inj h).symm
  · cases h

theorem saveTurn_eq_ok {turn : Turn} (h : store.saveTurn turn = .ok store') :
    store' = { store with turns := store.turns ++ [turn] } := by
  rw [saveTurn] at h
  split at h
  · cases h
  · exact (Except.ok.inj h).symm

theorem saveRecording_eq_ok {recording : Recording} (h : store.saveRecording recording = .ok store') :
    store' = { store with recordings := putRecording recording store.recordings } := by
  rw [saveRecording] at h
  split at h
  · cases h
  · exact (Except.ok.inj h).symm

theorem updateRecording_eq_ok {recording : Recording}
    (h : store.updateRecording recording = .ok store') :
    store' = { store with recordings := putRecording recording store.recordings } := by
  rw [updateRecording] at h
  split at h
  · exact (Except.ok.inj h).symm
  · cases h

theorem saveCaller_eq_ok {caller : Caller} (h : store.saveCaller caller = .ok store') :
    store' = { store with callers := store.callers ++ [caller] } := by
  rw [saveCaller] at h
  split at h
  · cases h
  · exact (Except.ok.inj h).symm

end Store

namespace OpenWorld

variable {state state' : OpenWorld} {question : Question} {answer : question.Answer}

theorem write_sessions {world : World} {result : Except Failure Store}
    (h : ∀ store, result = .ok store → store.sessions = world.store.sessions) :
    (world.write result).2.store.sessions = world.store.sessions := by
  cases result with
  | ok store => exact h store rfl
  | error error => rfl

theorem answers_sessions (h : state.Answers question answer state') :
    state'.store.sessions =
      match Exchange.stored? ⟨question, answer⟩ with
      | some session => Store.putRow (Store.row session) state.store.sessions
      | none => state.store.sessions := by
  cases question with
  | saveSession session =>
      rcases answers_saveSession h with ⟨_, rfl, rfl⟩ | ⟨_, ⟨failure, _, rfl⟩, rfl⟩
      · rfl
      · rfl
  | updateSession session =>
      cases answers_updateSession h with
      | stored => rfl
      | stale => rfl
      | missing => rfl
      | injected => rfl
  | startCall command | sendMessage command | fetchRecording url =>
      obtain ⟨provider, rfl⟩ := h
      rfl
  | runHook hook callback session =>
      obtain rfl := h
      rfl
  | freshId =>
      obtain ⟨_, nextId, rfl⟩ := h
      rfl
  | currentTime =>
      obtain ⟨clock, rfl⟩ := h
      rfl
  | recordInput turn input | markTimedOut turn | attachToTurn turn recording =>
      obtain ⟨_, rfl⟩ := h
      exact write_sessions fun _ hstore => by rw [Store.changeTurn_eq_ok hstore]
  | saveTurn turn =>
      obtain ⟨_, rfl⟩ := h
      exact write_sessions fun _ hstore => by rw [Store.saveTurn_eq_ok hstore]
  | saveRecording recording =>
      obtain ⟨_, rfl⟩ := h
      exact write_sessions fun _ hstore => by rw [Store.saveRecording_eq_ok hstore]
  | updateRecording recording =>
      obtain ⟨_, rfl⟩ := h
      exact write_sessions fun _ hstore => by rw [Store.updateRecording_eq_ok hstore]
  | saveCaller caller =>
      obtain ⟨_, rfl⟩ := h
      exact write_sessions fun _ hstore => by rw [Store.saveCaller_eq_ok hstore]
  | _ =>
      obtain ⟨_, rfl⟩ := h
      rfl

theorem write_hooks (world : World) (result : Except Failure Store) :
    (world.write result).2.hooks = world.hooks := by
  cases result <;> rfl

theorem answers_hooks (h : state.Answers question answer state') :
    state'.world.hooks =
      state.world.hooks ++ (Exchange.ran? ⟨question, answer⟩).toList := by
  cases question with
  | startCall command | sendMessage command | fetchRecording url =>
      obtain ⟨provider, rfl⟩ := h
      exact (List.append_nil _).symm
  | runHook hook callback session =>
      obtain rfl := h
      rfl
  | freshId =>
      obtain ⟨_, nextId, rfl⟩ := h
      exact (List.append_nil _).symm
  | currentTime =>
      obtain ⟨clock, rfl⟩ := h
      exact (List.append_nil _).symm
  | _ =>
      obtain ⟨_, rfl⟩ := h
      simp [World.answer, write_hooks, World.keepAudio, Exchange.ran?]

theorem write_scheduled (world : World) (result : Except Failure Store) :
    (world.write result).2.scheduled = world.scheduled := by
  cases result <;> rfl

theorem answers_scheduled (h : state.Answers question answer state') :
    state'.world.scheduled =
      state.world.scheduled ++ (Exchange.scheduled? ⟨question, answer⟩).toList := by
  cases question with
  | startCall command | sendMessage command | fetchRecording url =>
      obtain ⟨provider, rfl⟩ := h
      exact (List.append_nil _).symm
  | runHook hook callback session =>
      obtain rfl := h
      exact (List.append_nil _).symm
  | freshId =>
      obtain ⟨_, nextId, rfl⟩ := h
      exact (List.append_nil _).symm
  | currentTime =>
      obtain ⟨clock, rfl⟩ := h
      exact (List.append_nil _).symm
  | _ =>
      obtain ⟨_, rfl⟩ := h
      simp [World.answer, write_scheduled, World.keepAudio, Exchange.scheduled?]

theorem answers_drawn (h : state.Answers question answer state') :
    state'.drawn = (Exchange.drawn? ⟨question, answer⟩).toList ++ state.drawn ∧
      ∀ id, Exchange.drawn? ⟨question, answer⟩ = some id → id ∉ state.drawn := by
  cases question with
  | startCall command | sendMessage command | fetchRecording url =>
      obtain ⟨provider, rfl⟩ := h
      exact ⟨rfl, nofun⟩
  | runHook hook callback session =>
      obtain rfl := h
      exact ⟨rfl, nofun⟩
  | freshId =>
      obtain ⟨hfresh, nextId, rfl⟩ := h
      refine ⟨rfl, ?_⟩
      intro id hid
      obtain rfl := Option.some.inj hid
      exact hfresh
  | currentTime =>
      obtain ⟨clock, rfl⟩ := h
      exact ⟨rfl, nofun⟩
  | _ =>
      obtain ⟨_, rfl⟩ := h
      exact ⟨rfl, nofun⟩

theorem drawn_of_runs {α : Type} {action : Action α} {result : Except CallError α}
    (run : Action.Runs rules action state result state') : state.drawn ⊆ state'.drawn := by
  rw [Action.Runs] at run
  generalize action.run = program at run
  induction run with
  | done => exact List.Subset.refl _
  | ask answered _ ih =>
      rw [(answers_drawn answered).1] at ih
      exact List.Subset.trans (List.subset_append_right _ _) ih

end OpenWorld

end PhoneTree

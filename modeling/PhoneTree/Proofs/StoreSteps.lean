import PhoneTree.Proofs.Exchange

namespace PhoneTree

namespace Exchange

/-- The turn that was found. -/
def turn? : Exchange → Option Turn
  | ⟨.turnById _, .ok found⟩ => found
  | _ => none

/-- The recording that was stored or found. -/
def recording? : Exchange → Option Recording
  | ⟨.saveRecording recording, .ok _⟩ => some recording
  | ⟨.recordingById _, .ok found⟩ => found
  | _ => none

/-- The caller who was stored or found. -/
def caller? : Exchange → Option Caller
  | ⟨.saveCaller caller, .ok _⟩ => some caller
  | ⟨.callerByNumber _, .ok found⟩ => found
  | _ => none

end Exchange

namespace Store

/-- What a store tells whoever reads is stored. -/
structure Tells (store : Store) (exchange : Exchange) : Prop where
  session : ∀ session, exchange.told? = some session →
    ∃ row ∈ store.sessions, session = store.load row
  turn : ∀ turn, exchange.turn? = some turn → turn ∈ store.turns
  recording : ∀ recording, exchange.recording? = some recording → recording ∈ store.recordings
  caller : ∀ caller, exchange.caller? = some caller → caller ∈ store.callers

/-- How a question with its answer changes what is stored about calls. -/
inductive Took (store : Store) : Exchange → Store → Prop
  | read {exchange : Exchange} {store' : Store} (sessions : store'.sessions = store.sessions)
      (turns : store'.turns = store.turns) (recordings : store'.recordings = store.recordings)
      (callers : store'.callers = store.callers) (tells : store.Tells exchange) :
      Took store exchange store'
  | save {session : Session} (new : ∀ row ∈ store.sessions, row.sid ≠ session.sid) :
      Took store ⟨.saveSession session, .ok ()⟩
        { store with sessions := putRow (row session) store.sessions }
  | update {session stored : Session} (found : store.sessionRow? session.id = some stored) :
      Took store ⟨.updateSession session, .ok session.advance⟩
        { store with sessions := putRow (row session.advance) store.sessions }
  | begin {turn : Turn} (new : ∀ other ∈ store.turns, other.id ≠ turn.id) :
      Took store ⟨.saveTurn turn, .ok ()⟩ { store with turns := store.turns ++ [turn] }
  | input {id : TurnId} {input : TurnInput} :
      Took store ⟨.recordInput id input, .ok ()⟩
        { store with turns := modifyTurn id (fun turn => turn.merge input) store.turns }
  | timeout {id : TurnId} :
      Took store ⟨.markTimedOut id, .ok ()⟩
        { store with turns := modifyTurn id Turn.markTimedOut store.turns }
  | attach {id : TurnId} {recording : RecordingId} :
      Took store ⟨.attachToTurn id recording, .ok ()⟩
        { store with
          turns := modifyTurn id
            (fun turn => if turn.recording.isNone then turn.attach recording else turn)
            store.turns }
  | receive {recording : Recording}
      (new : ∀ other ∈ store.recordings,
        (other.session, other.sid) ≠ (recording.session, recording.sid)) :
      Took store ⟨.saveRecording recording, .ok ()⟩
        { store with recordings := putRecording recording store.recordings }
  | fetch {recording stored : Recording} (found : store.recordingById recording.id = some stored) :
      Took store ⟨.updateRecording recording, .ok ()⟩
        { store with recordings := putRecording recording store.recordings }
  | meet {caller : Caller} (new : ∀ other ∈ store.callers, other.number ≠ caller.number) :
      Took store ⟨.saveCaller caller, .ok ()⟩ { store with callers := store.callers ++ [caller] }

end Store

namespace OpenWorld

variable {state state' : OpenWorld} {question : Question} {answer : question.Answer}

theorem forall_of_none {τ : Type} {found : Option τ} {stored : τ → Prop} (h : found = none) :
    ∀ thing, found = some thing → stored thing := by
  intro thing hfound
  rw [h] at hfound
  cases hfound

theorem tells_nothing {store : Store} {exchange : Exchange} (hsession : exchange.told? = none)
    (hturn : exchange.turn? = none) (hrecording : exchange.recording? = none)
    (hcaller : exchange.caller? = none) : store.Tells exchange :=
  ⟨forall_of_none hsession, forall_of_none hturn, forall_of_none hrecording,
    forall_of_none hcaller⟩

theorem took_of_write {world : World} {result : Except Failure Store} (question : Question)
    (asked : Except Failure Unit → question.Answer)
    (fails : ∀ failure, world.store.Tells ⟨question, asked (.error failure)⟩)
    (succeeds : ∀ store, result = .ok store →
      world.store.Took ⟨question, asked (.ok ())⟩ store) :
    world.store.Took ⟨question, asked (world.write result).1⟩ (world.write result).2.store := by
  cases result with
  | error failure => exact .read rfl rfl rfl rfl (fails failure)
  | ok store => exact succeeds store rfl

theorem took_of_answers (h : state.Answers question answer state') :
    state.store.Took ⟨question, answer⟩ state'.store := by
  have hread (hstore : state'.store = state.store)
      (htells : state.store.Tells ⟨question, answer⟩) :
      state.store.Took ⟨question, answer⟩ state'.store := by
    rw [hstore]
    exact .read rfl rfl rfl rfl htells
  cases question with
  | startCall command | sendMessage command | fetchRecording url =>
      obtain ⟨provider, rfl⟩ := h
      exact hread rfl (tells_nothing rfl rfl rfl rfl)
  | runHook hook callback session =>
      obtain rfl := h
      exact hread rfl (tells_nothing rfl rfl rfl rfl)
  | freshId =>
      obtain ⟨_, nextId, rfl⟩ := h
      exact hread rfl (tells_nothing rfl rfl rfl rfl)
  | currentTime =>
      obtain ⟨clock, rfl⟩ := h
      exact hread rfl (tells_nothing rfl rfl rfl rfl)
  | sessionById id | sessionBySid sid =>
      obtain ⟨hanswer, rfl⟩ := h
      rcases answer with failure | _ | session
      · cases hanswer
      · exact hread rfl (tells_nothing rfl rfl rfl rfl)
      · refine hread rfl ⟨?_, forall_of_none rfl, forall_of_none rfl,
          forall_of_none rfl⟩
        rintro _ ⟨⟩
        obtain ⟨row, hrow, hload⟩ := Option.map_eq_some_iff.mp (Except.ok.inj hanswer).symm
        exact ⟨row, List.mem_of_find?_eq_some hrow, hload.symm⟩
  | turnById id =>
      obtain ⟨hanswer, rfl⟩ := h
      rcases answer with failure | _ | turn
      · cases hanswer
      · exact hread rfl (tells_nothing rfl rfl rfl rfl)
      · refine hread rfl ⟨forall_of_none rfl, ?_, forall_of_none rfl,
          forall_of_none rfl⟩
        rintro _ ⟨⟩
        exact List.mem_of_find?_eq_some (Except.ok.inj hanswer).symm
  | recordingById id =>
      obtain ⟨hanswer, rfl⟩ := h
      rcases answer with failure | _ | recording
      · cases hanswer
      · exact hread rfl (tells_nothing rfl rfl rfl rfl)
      · refine hread rfl ⟨forall_of_none rfl, forall_of_none rfl, ?_,
          forall_of_none rfl⟩
        rintro _ ⟨⟩
        exact List.mem_of_find?_eq_some (Except.ok.inj hanswer).symm
  | callerByNumber number =>
      obtain ⟨hanswer, rfl⟩ := h
      rcases answer with failure | _ | caller
      · cases hanswer
      · exact hread rfl (tells_nothing rfl rfl rfl rfl)
      · refine hread rfl ⟨forall_of_none rfl, forall_of_none rfl,
          forall_of_none rfl, ?_⟩
        rintro _ ⟨⟩
        exact List.mem_of_find?_eq_some (Except.ok.inj hanswer).symm
  | saveSession session =>
      rcases answers_saveSession h with ⟨hnew, rfl, rfl⟩ | ⟨_, ⟨failure, _, rfl⟩, rfl⟩
      · exact .save fun row hrow => hnew row.facts (List.mem_map_of_mem hrow)
      · exact hread rfl (tells_nothing rfl rfl rfl rfl)
  | updateSession session =>
      cases answers_updateSession h with
      | stored calm found current => exact .update found
      | stale calm found outdated kind => exact hread rfl (tells_nothing rfl rfl rfl rfl)
      | missing calm absent kind => exact hread rfl (tells_nothing rfl rfl rfl rfl)
      | injected disturbed kind =>
          exact .read rfl rfl rfl rfl (tells_nothing rfl rfl rfl rfl)
  | saveTurn turn =>
      obtain ⟨rfl, rfl⟩ := h
      refine took_of_write (.saveTurn turn) (fun answer => answer)
        (fun _ => tells_nothing rfl rfl rfl rfl) ?_
      intro store hstore
      rw [Store.saveTurn] at hstore
      split at hstore
      · cases hstore
      · rename_i hnew
        obtain rfl := Except.ok.inj hstore
        refine .begin ?_
        intro other hother hid
        exact hnew (List.any_eq_true.mpr ⟨other, hother, beq_iff_eq.mpr hid⟩)
  | recordInput id input =>
      obtain ⟨rfl, rfl⟩ := h
      refine took_of_write (.recordInput id input) (fun answer => answer)
        (fun _ => tells_nothing rfl rfl rfl rfl) ?_
      intro store hstore
      rw [Store.changeTurn_eq_ok hstore]
      exact .input
  | markTimedOut id =>
      obtain ⟨rfl, rfl⟩ := h
      refine took_of_write (.markTimedOut id) (fun answer => answer)
        (fun _ => tells_nothing rfl rfl rfl rfl) ?_
      intro store hstore
      rw [Store.changeTurn_eq_ok hstore]
      exact .timeout
  | attachToTurn id recording =>
      obtain ⟨rfl, rfl⟩ := h
      refine took_of_write (.attachToTurn id recording) (fun answer => answer)
        (fun _ => tells_nothing rfl rfl rfl rfl) ?_
      intro store hstore
      rw [Store.changeTurn_eq_ok hstore]
      exact .attach
  | saveRecording recording =>
      obtain ⟨rfl, rfl⟩ := h
      refine took_of_write (.saveRecording recording) (fun answer => answer)
        (fun _ => tells_nothing rfl rfl rfl rfl) ?_
      intro store hstore
      rw [Store.saveRecording] at hstore
      split at hstore
      · cases hstore
      · rename_i hnew
        obtain rfl := Except.ok.inj hstore
        refine .receive ?_
        intro other hother hsame
        obtain ⟨hsession, hsid⟩ := Prod.mk.inj hsame
        refine hnew (List.any_eq_true.mpr ⟨other, hother, ?_⟩)
        rw [hsession, hsid, beq_self_eq_true, beq_self_eq_true]
        rfl
  | updateRecording recording =>
      obtain ⟨rfl, rfl⟩ := h
      refine took_of_write (.updateRecording recording) (fun answer => answer)
        (fun _ => tells_nothing rfl rfl rfl rfl) ?_
      intro store hstore
      rw [Store.updateRecording] at hstore
      split at hstore
      · rename_i stored hfound
        obtain rfl := Except.ok.inj hstore
        exact .fetch hfound
      · cases hstore
  | saveCaller caller =>
      obtain ⟨rfl, rfl⟩ := h
      refine took_of_write (.saveCaller caller) (fun answer => answer)
        (fun _ => tells_nothing rfl rfl rfl rfl) ?_
      intro store hstore
      rw [Store.saveCaller] at hstore
      split at hstore
      · cases hstore
      · rename_i hnew
        obtain rfl := Except.ok.inj hstore
        refine .meet ?_
        intro other hother hnumber
        exact hnew (List.any_eq_true.mpr ⟨other, hother, beq_iff_eq.mpr hnumber⟩)
  | _ =>
      obtain ⟨rfl, rfl⟩ := h
      exact hread rfl (tells_nothing rfl rfl rfl rfl)

end OpenWorld

end PhoneTree

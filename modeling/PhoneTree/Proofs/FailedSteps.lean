import Mathlib.Data.List.Forall2
import PhoneTree.Proofs.Receiving
import PhoneTree.Proofs.Redelivery
import PhoneTree.Proofs.Stepless

namespace PhoneTree

namespace Service

open PhoneTree.Action

variable {registry : Registry} {params : Params} {session : Session} {tree : Tree}

section Runs

variable {α β σ : Type} {rules : Rules Question Question.Answer σ} {state final : σ}

theorem findTree_runs {name : String}
    (run : Runs rules (findTree registry name) state (.ok tree) final) : final = state := by
  rw [findTree] at run
  split at run
  · exact (runs_pure.mp run).2
  · cases run

theorem requireField_runs {field value : String}
    (run : Runs rules (requireField params field) state (.ok value) final) :
    params.get? field = some value ∧ final = state := by
  rw [requireField] at run
  split at run
  · rename_i found hfound
    obtain ⟨hsame, rfl⟩ := runs_pure.mp run
    exact ⟨hfound.trans (congrArg some (Except.ok.inj hsame).symm), rfl⟩
  · cases run

end Runs

section Walking

variable {α : Type} {take : FlowScene → Except FlowError FlowStep} {rest : FlowStep → Action α}
  {state final : OpenWorld} {failure : FlowError}

theorem loadScene_store {scene : FlowScene}
    (run : Runs OpenWorld.rules (loadScene tree session) state (.ok scene) final) :
    final.store = state.store := by
  obtain ⟨_, _, _, _, hstore⟩ := loadScene_runs run
  exact hstore

/-- A step that fails leaves the store as it was when the step was taken. -/
theorem store_of_failed_step (after : ∀ step, (rest step).Stepless)
    (failed : Runs OpenWorld.rules (do
      let scene ← loadScene tree session
      let step ← ofFlow (take scene)
      rest step) state (.error (.flow failure)) final) : final.store = state.store := by
  obtain ⟨scene, middle, loaded, failed⟩ := loadScene_stepless.passes failed
  rw [← loadScene_store loaded]
  rcases runs_bind.mp failed with ⟨error, -, taken⟩ | ⟨step, later, _, kept⟩
  · have hstays : Ensures OpenWorld.rules (ofFlow (take scene)) middle (fun _ _ => True)
        fun _ later => later = middle := by
      refine ensures_ofFlow.mpr ?_
      cases take scene <;> trivial
    have hsame := Dialogue.Ensures.of_runs hstays taken
    exact congrArg OpenWorld.store hsame
  · exact absurd kept (after step).not_runs

end Walking

end Service

/-- What a call has come to, save for how far it has progressed. -/
structure CallTally where
  id : SessionId
  lengthSeconds : Int := 0
  finished : Bool := false
  unanswered : Bool := false

/-- What is counted of a call. -/
def Session.tally (session : Session) : CallTally where
  id := session.id
  lengthSeconds := session.lengthSeconds
  finished := session.finished
  unanswered := session.unanswered

namespace Store

/-- What is counted of the calls of a store, in their order. -/
def tallies (store : Store) : List CallTally :=
  store.sessions.map Session.tally

/-- Nothing has changed but how far calls have progressed. -/
structure Advances (store store' : Store) : Prop where
  turns : store'.turns = store.turns
  recordings : store'.recordings = store.recordings
  tallies : store'.tallies = store.tallies

/-- The recording that a request announces is new to a session, it has been stored, and a turn has
it unless it had one before. -/
structure Receives (store store' : Store) (params : Params) (session : SessionId) (turn : TurnId)
    (recording : Recording) : Prop where
  sid : params.get? "RecordingSid" = some recording.sid
  owner : recording.session = session
  new : store.recordingExists session recording.sid = false
  stored : recording ∈ store'.recordings
  turns : store'.turns = writtenTurns [.recording turn recording.id] store.turns

variable {store store' : Store} {session : Session}

theorem Advances.receives {middle : Store} {params : Params} {owner : SessionId} {turn : TurnId}
    {recording : Recording} (h : store.Advances middle)
    (received : middle.Receives store' params owner turn recording) :
    store.Receives store' params owner turn recording := by
  refine { received with new := ?_, turns := ?_ }
  · rw [recordingExists, ← h.recordings]
    exact received.new
  · rw [← h.turns]
    exact received.turns

theorem tally_mem_of_find? {wanted : Session → Bool}
    (h : (store.sessions.find? wanted).map store.load = some session) :
    session.tally ∈ store.tallies := by
  obtain ⟨row, hrow, rfl⟩ := Option.map_eq_some_iff.mp h
  exact List.mem_map.mpr ⟨row, List.mem_of_find?_eq_some hrow, rfl⟩

theorem tallies_putRow {row : Session} (h : ∀ tally ∈ store.tallies, tally.id ≠ row.id) :
    (putRow row store.sessions).map Session.tally = store.tallies ++ [row.tally] := by
  rw [putRow_eq_append fun other hother => h other.tally (List.mem_map_of_mem hother),
    List.map_append]
  rfl

theorem mem_putRecording (recording : Recording) (recordings : List Recording) :
    recording ∈ putRecording recording recordings := by
  induction recordings with
  | nil => exact List.mem_singleton_self recording
  | cons other rest ih =>
      rw [putRecording]
      split
      · exact List.mem_cons_self
      · exact List.mem_cons_of_mem _ ih

end Store

namespace Service

open PhoneTree.Action

variable {params : Params} {session : Session} {state final : OpenWorld}

section Tallies

variable {α : Type} {change : Session → Session × Option α}

theorem updateSession_tallies (ids : (state.store.tallies.map (·.id)).Nodup)
    (keeps : ∀ base, (change base).1.tally = base.tally)
    (stored : session.tally ∈ state.store.tallies) :
    Ensures OpenWorld.rules (updateSession session change) state
      (fun _ later => later.store.tallies = state.store.tallies) fun _ _ => True := by
  refine @changeSession_loop α change session _ _ state
    (fun base later => base.tally ∈ state.store.tallies ∧
      later.store.tallies = state.store.tallies) _ _ (maxAttempts - 1)
    (fun _ _ _ h _ => h.2) (fun _ _ _ _ _ _ => trivial) ?_ ?_ ⟨stored, rfl⟩
  · rintro base sent outcome later updated last ⟨hbase, hsame⟩ hsent
      (answered : later.Answers (.updateSession sent) (.ok updated) last)
    cases OpenWorld.answers_updateSession answered with
    | stored calm found current =>
        rename_i row
        have hkept := keeps base
        rw [hsent] at hkept
        rw [← hsame] at hbase ids ⊢
        have hrow : row.tally = sent.tally := by
          refine OpenWorld.eq_of_nodup ids ?_ (hkept ▸ hbase) ?_
          · exact List.mem_map_of_mem (List.mem_of_find?_eq_some found)
          · exact Store.id_of_sessionRow? found
        exact Store.map_putRow Session.tally found hrow.symm
  · rintro base sent outcome later error last ⟨hbase, hsame⟩ hsent
      (answered : later.Answers (.updateSession sent) (.error error) last)
    have hlast : last.store.tallies = later.store.tallies := by
      cases OpenWorld.answers_updateSession answered <;> rfl
    refine ⟨trivial, fun _ => ?_⟩
    refine ensures_bind.mpr (ensures_ask.mpr ⟨trivial, ?_⟩)
    rintro _ _ ⟨rfl, rfl⟩
    refine ensures_ofAnswer.mpr ?_
    simp only [World.answer]
    split
    · rename_i loaded hloaded
      have hmem := Store.tally_mem_of_find? hloaded
      exact ⟨hsame ▸ hlast ▸ hmem, hlast.trans hsame⟩
    · trivial

theorem applyUpdate_advances {update : StatusUpdate} {updated : Session}
    (ids : (state.store.tallies.map (·.id)).Nodup) (stored : session.tally ∈ state.store.tallies)
    (run : Runs OpenWorld.rules (applyUpdate session update) state (.ok updated) final) :
    state.store.Advances final.store := by
  have touches : Touches [.sessions, .jobs] (applyUpdate session update) :=
    applyUpdate_touches (by simp) (by simp)
  refine ⟨OpenWorld.turns_of_runs touches (by decide) run,
    OpenWorld.recordings_of_runs touches (by decide) run, ?_⟩
  rw [applyUpdate_eq] at run
  split at run
  · obtain ⟨-, rfl⟩ := runs_pure.mp run
    rfl
  · obtain ⟨changed, middle, written, left⟩ := runs_bind_ok.mp run
    have hkeeps (base : Session) : (Session.takeOver update base).1.tally = base.tally := by
      rw [Session.takeOver, Session.afterUpdate_eq]
      rfl
    have hmiddle := Dialogue.Ensures.of_runs (updateSession_tallies ids hkeeps stored) written
    have hwork : Touches [.jobs] (leaveWork changed.1 (jobsAfter changed.1 changed.2)) :=
      leaveWork_touches (by simp)
    exact (congrArg _ (OpenWorld.sessions_of_runs hwork (by decide) left)).trans hmiddle

theorem sessionBySid_runs {sid : String} {answer : Except Failure (Option Session)}
    (run : Runs OpenWorld.rules (ask (.sessionBySid sid)) state (.ok answer) final) :
    final = state ∧ ∀ session, answer = .ok (some session) →
      session.tally ∈ state.store.tallies := by
  obtain ⟨_, ⟨⟩, rfl, rfl⟩ := runs_ask.mp run
  refine ⟨rfl, ?_⟩
  exact fun session hfound => Store.tally_mem_of_find? (Except.ok.inj hfound)

theorem findCall_runs (run : Runs OpenWorld.rules (findCall params) state (.ok session) final) :
    final = state ∧ session.tally ∈ state.store.tallies := by
  rw [findCall] at run
  obtain ⟨sid, second, required, reads⟩ := runs_bind_ok.mp run
  obtain ⟨_, rfl⟩ := requireField_runs required
  obtain ⟨answer, third, asked, chooses⟩ := runs_bind_ok.mp reads
  obtain ⟨rfl, hread⟩ := sessionBySid_runs asked
  obtain ⟨found?, fourth, answered, found⟩ := runs_bind_ok.mp chooses
  obtain ⟨rfl, rfl⟩ := runs_ofAnswer_ok.mp answered
  cases found? with
  | none => cases found
  | some loaded =>
      obtain ⟨hsame, rfl⟩ := runs_pure.mp found
      obtain rfl := Except.ok.inj hsame
      exact ⟨rfl, hread session rfl⟩

theorem findUpdatedCall_advances (ids : (state.store.tallies.map (·.id)).Nodup)
    (run : Runs OpenWorld.rules (findUpdatedCall params) state (.ok session) final) :
    state.store.Advances final.store := by
  obtain ⟨found, _, call, applied⟩ := runs_bind_ok.mp run
  obtain ⟨rfl, stored⟩ := findCall_runs call
  exact applyUpdate_advances ids stored applied

theorem createSession_tallies {sid treeName : String}
    (drawn : ∀ tally ∈ state.store.tallies, tally.id.uuid ∈ state.drawn)
    (run : Runs OpenWorld.rules (createSession sid treeName params) state (.ok session) final) :
    final.store.tallies = state.store.tallies ∨
      ∃ id, final.store.tallies = state.store.tallies ++ [{ id := id }] := by
  rw [createSession] at run
  obtain ⟨caller, second, called, creates⟩ := runs_bind_ok.mp run
  have hcaller : Touches [.callers] (findOrCreateCaller (CallDetails.ofParams params).fromNumber) :=
    findOrCreateCaller_touches (by simp)
  have hsecond : second.store.tallies = state.store.tallies :=
    congrArg (·.map Session.tally) (OpenWorld.sessions_of_runs hcaller (by decide) called)
  have hdrawn := OpenWorld.drawn_of_runs called
  rw [← hsecond] at drawn ⊢
  obtain ⟨id, third, drew, dates⟩ := runs_bind_ok.mp creates
  obtain ⟨_, ⟨⟩, hfresh, nextId, rfl⟩ := runs_ask.mp drew
  obtain ⟨time, fourth, dated, begins⟩ := runs_bind_ok.mp dates
  obtain ⟨_, ⟨⟩, clock, rfl⟩ := runs_ask.mp dated
  obtain ⟨begun, fifth, created, saves⟩ := runs_bind_ok.mp begins
  obtain ⟨hbegun, rfl⟩ := runs_ofAnswer_ok.mp created
  obtain rfl := create_eq_ok hbegun
  obtain ⟨answer, last, saved, ends⟩ := runs_bind_ok.mp saves
  obtain ⟨_, ⟨⟩, hsaved⟩ := runs_ask.mp saved
  rcases OpenWorld.answers_saveSession hsaved with ⟨_, rfl, rfl⟩ | ⟨_, ⟨error, hkind, rfl⟩, rfl⟩
  · obtain ⟨-, rfl⟩ := runs_pure.mp ends
    refine .inr ⟨⟨id⟩, ?_⟩
    refine Store.tallies_putRow ?_
    intro tally htally hsame
    have hmem := hdrawn (drawn tally htally)
    rw [hsame] at hmem
    exact hfresh hmem
  · refine .inl ?_
    simp only [hkind, if_true] at ends
    obtain ⟨_, _, asked, chooses⟩ := runs_bind_ok.mp ends
    obtain ⟨_, ⟨⟩, rfl, rfl⟩ := runs_ask.mp asked
    obtain ⟨found?, _, answered, found⟩ := runs_bind_ok.mp chooses
    obtain ⟨-, rfl⟩ := runs_ofAnswer_ok.mp answered
    cases found? with
    | none => cases found
    | some loaded =>
        obtain ⟨-, rfl⟩ := runs_pure.mp found
        rfl

end Tallies

section Recordings

variable {account : Account} {turn : Turn}

theorem findTurn_runs {id : TurnId}
    (run : Runs OpenWorld.rules (findTurn session id) state (.ok turn) final) :
    final = state ∧ turn.id = id ∧ state.store.turnById turn.id = some turn ∧
      turn.session = session.id :=
  (@findTurn_conductsTurns state session id (fun turn later => later = state ∧ turn.id = id ∧
    state.store.turnById turn.id = some turn ∧ turn.session = session.id)
    fun _ hid hfound howned => ⟨rfl, hid, hfound, howned⟩).of_runs run

theorem attach_runs {recording : RecordingId} {received : Turn}
    (run : Runs OpenWorld.rules (do
      ofAnswer (← ask (.attachToTurn turn.id recording))
      if account.attachRecordings then
        ofAnswer (← ask (.schedule (.attachRecording recording) attachDelay))
      pure (if turn.recording.isNone then turn.attach recording else turn)) state (.ok received)
      final) :
    final.store.turns = Store.writtenTurns [.recording turn.id recording] state.store.turns ∧
      final.store.recordings = state.store.recordings := by
  obtain ⟨answer, attached, attaching, schedules⟩ := runs_bind_ok.mp run
  obtain ⟨_, ⟨⟩, hattached⟩ := runs_ask.mp attaching
  have hturns := answers_write (.recording turn.id recording) hattached
  have touches : Touches [.turns] (ask (.attachToTurn turn.id recording)) :=
    touches_write rfl (by simp)
  have hrecordings := OpenWorld.recordings_of_runs touches (by decide) attaching
  obtain ⟨_, written, answered, leaves⟩ := runs_bind_ok.mp schedules
  obtain ⟨_, rfl⟩ := runs_ofAnswer_ok.mp answered
  have hlast : final.store = written.store := by
    dsimp only at leaves
    split at leaves
    · exact OpenWorld.store_of_runs (touches_bind (touches_write rfl (by simp)) fun _ =>
        touches_bind touches_ofAnswer fun _ => touches_pure) leaves
    · obtain ⟨_, rfl⟩ := runs_pure.mp leaves
      rfl
  rw [hlast]
  exact ⟨hturns, hrecordings⟩

theorem receive_runs {received : Turn}
    (run : Runs OpenWorld.rules (receive account session turn params) state (.ok received) final) :
    final.store.turns = state.store.turns ∨
      ∃ recording, state.store.Receives final.store params session.id turn.id recording := by
  rw [receive] at run
  obtain ⟨sid, second, required, looks⟩ := runs_bind_ok.mp run
  obtain ⟨_, rfl⟩ := requireField_runs required
  obtain ⟨answer, third, asked, knows⟩ := runs_bind_ok.mp looks
  obtain ⟨exist, fourth, answered, goesOn⟩ := runs_bind_ok.mp knows
  obtain ⟨_, rfl⟩ := runs_ofAnswer_ok.mp answered
  rw [← OpenWorld.store_of_runs (touches_read rfl) asked]
  split at goesOn
  · obtain ⟨_, rfl⟩ := runs_pure.mp goesOn
    exact .inl rfl
  · obtain ⟨id, fifth, drew, dates⟩ := runs_bind_ok.mp goesOn
    obtain ⟨time, sixth, dated, reads⟩ := runs_bind_ok.mp dates
    obtain ⟨recording, seventh, read, saves⟩ := runs_bind_ok.mp reads
    obtain ⟨hrecording, rfl⟩ := runs_ofAnswer_ok.mp read
    obtain ⟨_, howner⟩ := made_of_params hrecording
    rw [← OpenWorld.store_of_runs (touches_read rfl) drew,
      ← OpenWorld.store_of_runs (touches_read rfl) dated]
    obtain ⟨answer, saved, saving, attaches⟩ := runs_bind_ok.mp saves
    rcases answer with error | _
    · have hsaving : Touches [.recordings] (ask (.saveRecording recording)) :=
        touches_write rfl (by simp)
      have hsame := OpenWorld.turns_of_runs hsaving (by decide) saving
      simp only at attaches
      split at attaches
      · obtain ⟨_, rfl⟩ := runs_pure.mp attaches
        exact .inl hsame
      · cases attaches
    · obtain ⟨_, ⟨⟩, hsaved⟩ := runs_ask.mp saving
      obtain ⟨hnew, hstore⟩ := OpenWorld.answers_saveRecording_ok hsaved
      obtain ⟨hturns, hrecordings⟩ := attach_runs attaches
      rw [hstore] at hturns hrecordings
      refine .inr ⟨recording, sid_of_params hrecording, howner, howner ▸ hnew, ?_, hturns⟩
      rw [hrecordings]
      exact Store.mem_putRecording recording _

theorem receiveIfAny_runs {received : Turn}
    (run : Runs OpenWorld.rules (receiveIfAny account session turn params) state (.ok received)
      final) :
    final.store.turns = state.store.turns ∨
      ∃ recording, state.store.Receives final.store params session.id turn.id recording := by
  rw [receiveIfAny] at run
  split at run
  · exact receive_runs run
  · obtain ⟨_, rfl⟩ := runs_pure.mp run
    exact .inl rfl

end Recordings

end Service

section Sparing

variable {turn : Turn} {turns : List Turn} {input : TurnInput}

theorem Turn.acceptable_attach (recording : RecordingId)
    (takes : turn.takes (turn.acceptable input) = true) :
    (turn.attach recording).acceptable input = turn.acceptable input := by
  have hsettled : (turn.attach recording).isSettled = turn.isSettled := rfl
  cases settled : turn.isSettled with
  | false => simp [acceptable, hsettled, settled]
  | true =>
      cases had : turn.recording with
      | none =>
          -- without a recording a settled turn takes nothing
          have hnothing : turn.acceptable input = {} := by simp [acceptable, settled, had]
          rw [hnothing, takes_nothing] at takes
          cases takes
      | some other =>
          have hattached : (turn.attach recording).recording = some recording := rfl
          have hkept : (turn.attach recording).transcription = turn.transcription := rfl
          rw [acceptable, acceptable, hsettled, hattached, hkept, settled, had]
          rfl

theorem Store.forall₂_modifyTurn {R : Turn → Turn → Prop} {id : TurnId} {change : Turn → Turn}
    (same : ∀ turn, R turn turn)
    (changed : ∀ turn, turns.find? (fun turn => turn.id == id) = some turn → R turn (change turn)) :
    List.Forall₂ R turns (modifyTurn id change turns) := by
  induction turns with
  | nil => exact .nil
  | cons turn rest ih =>
      rw [modifyTurn]
      split
      · rename_i hid
        refine .cons (changed turn ?_) (List.forall₂_same.mpr fun other _ => same other)
        simp [hid]
      · rename_i hid
        refine .cons (same turn) (ih ?_)
        intro other hother
        refine changed other ?_
        simpa [hid] using hother

end Sparing

namespace Webhook

/-- How a turn is left by a webhook whose step has failed: as it was, but for a recording that the
webhook has brought, and able to take what it could take. -/
structure SparesTurn (entry : Webhook) (params : Params) (store store' : Store)
    (turn turn' : Turn) : Prop where
  same : { turn' with recording := turn.recording } = turn
  recording : turn'.recording = turn.recording ∨
    turn.recording = none ∧ (∃ name, entry = .promptResponse name turn.id) ∧
      ∃ recording ∈ store'.recordings, turn'.recording = some recording.id ∧
        recording.session = turn.session ∧ params.get? "RecordingSid" = some recording.sid ∧
        store.recordingExists turn.session recording.sid = false
  takes : ∀ input, turn.takes (turn.acceptable input) = true →
    turn'.acceptable input = turn.acceptable input ∧ turn'.takes (turn'.acceptable input) = true

/-- How a store is left by a webhook whose step has failed. A call may be new, with nothing come of
it. -/
structure Spares (entry : Webhook) (params : Params) (store store' : Store) : Prop where
  turns : List.Forall₂ (entry.SparesTurn params store store') store.turns store'.turns
  calls : store'.tallies = store.tallies ∨
    ∃ name id, entry = .inbound name ∧ store'.tallies = store.tallies ++ [{ id := id }]

variable {entry : Webhook} {params : Params} {store store' : Store}

theorem SparesTurn.refl (turn : Turn) : entry.SparesTurn params store store' turn turn :=
  ⟨rfl, .inl rfl, fun _ takes => ⟨rfl, takes⟩⟩

theorem Spares.of_turns (turns : store'.turns = store.turns)
    (calls : store'.tallies = store.tallies ∨
      ∃ name id, entry = .inbound name ∧ store'.tallies = store.tallies ++ [{ id := id }]) :
    entry.Spares params store store' := by
  refine ⟨?_, calls⟩
  rw [turns]
  exact List.forall₂_same.mpr fun turn _ => .refl turn

theorem Spares.of_advances (h : store.Advances store') : entry.Spares params store store' :=
  .of_turns h.turns (.inl h.tallies)

theorem SparesTurn.attached {name : String} {turn : Turn} {recording : Recording}
    (received : store.Receives store' params turn.session turn.id recording) :
    (Webhook.promptResponse name turn.id).SparesTurn params store store' turn
      (TurnWrite.change (.recording turn.id recording.id) turn) := by
  rw [TurnWrite.change]
  split
  · rename_i hnone
    have hnone := Option.isNone_iff_eq_none.mp hnone
    refine ⟨rfl, .inr ⟨hnone, ⟨name, rfl⟩, recording, received.stored, rfl, received.owner,
      received.sid, received.new⟩, ?_⟩
    intro input takes
    rw [Turn.acceptable_attach recording.id takes]
    exact ⟨rfl, takes⟩
  · exact .refl turn

end Webhook

section Failing

open Service PhoneTree.Action

variable {account : Account} {registry : Registry} {params : Params} {session : Session}
  {tree : Tree} {name : String} {id : TurnId} {state final : OpenWorld} {failure : FlowError}

theorem greet_fails
    (failed : Runs OpenWorld.rules (greet tree session) state (.error (.flow failure)) final) :
    final.store = state.store := by
  rw [greet] at failed
  exact store_of_failed_step
    (fun step => stepless_bind keepStep_stepless fun _ => stepless_pure) failed

theorem inboundCall_fails (ids : (state.store.tallies.map (·.id)).Nodup)
    (drawn : ∀ tally ∈ state.store.tallies, tally.id.uuid ∈ state.drawn)
    (failed : Runs OpenWorld.rules (inboundCall registry name params) state
      (.error (.flow failure)) final) :
    (Webhook.inbound name).Spares params state.store final.store := by
  rw [inboundCall] at failed
  obtain ⟨tree, second, found, requires⟩ := findTree_stepless.passes failed
  obtain rfl := findTree_runs found
  obtain ⟨sid, third, required, reads⟩ := requireField_stepless.passes requires
  obtain ⟨_, rfl⟩ := requireField_runs required
  obtain ⟨answer, fourth, asked, chooses⟩ := stepless_ask.passes reads
  obtain ⟨rfl, hread⟩ := sessionBySid_runs asked
  obtain ⟨found?, fifth, answered, begins⟩ := stepless_ofAnswer.passes chooses
  obtain ⟨rfl, rfl⟩ := runs_ofAnswer_ok.mp answered
  cases found? with
  | some found =>
      obtain ⟨updated, last, applied, greets⟩ := applyUpdate_stepless.passes begins
      rw [greet_fails greets]
      exact .of_advances (applyUpdate_advances ids (hread found rfl) applied)
  | none =>
      obtain ⟨created, last, creates, greets⟩ := createSession_stepless.passes begins
      have touches : Touches [.callers, .sessions] (createSession sid tree.name params) :=
        createSession_touches (by simp) (by simp)
      rw [greet_fails greets]
      refine .of_turns (OpenWorld.turns_of_runs touches (by decide) creates) ?_
      refine (createSession_tallies drawn creates).imp_right ?_
      rintro ⟨id, htallies⟩
      exact ⟨name, id, rfl, htallies⟩

theorem outboundCall_fails (ids : (state.store.tallies.map (·.id)).Nodup)
    (failed : Runs OpenWorld.rules (outboundCall registry name params) state
      (.error (.flow failure)) final) : state.store.Advances final.store := by
  rw [outboundCall] at failed
  obtain ⟨tree, second, found, updates⟩ := findTree_stepless.passes failed
  obtain rfl := findTree_runs found
  obtain ⟨session, third, updated, greets⟩ := findUpdatedCall_stepless.passes updates
  rw [greet_fails (failed_of_bind (fun _ => stepless_pure) greets)]
  exact findUpdatedCall_advances ids updated

/-- What a webhook for a turn does first takes no step. -/
theorem turn_reached {α : Type} {rest : Tree → Session → Turn → Action α}
    (ids : (state.store.tallies.map (·.id)).Nodup)
    (failed : Runs OpenWorld.rules (do
      let tree ← findTree registry name
      let session ← findUpdatedCall params
      let turn ← findTurn session id
      rest tree session turn) state (.error (.flow failure)) final) :
    ∃ tree session turn middle, state.store.Advances middle.store ∧ turn.id = id ∧
      middle.store.turnById turn.id = some turn ∧ turn.session = session.id ∧
      Runs OpenWorld.rules (rest tree session turn) middle (.error (.flow failure)) final := by
  obtain ⟨tree, second, found, updates⟩ := findTree_stepless.passes failed
  obtain rfl := findTree_runs found
  obtain ⟨session, third, updated, finds⟩ := findUpdatedCall_stepless.passes updates
  obtain ⟨turn, fourth, got, goesOn⟩ := findTurn_stepless.passes finds
  obtain ⟨rfl, hturn⟩ := findTurn_runs got
  exact ⟨tree, session, turn, fourth, findUpdatedCall_advances ids updated, hturn.1, hturn.2.1,
    hturn.2.2, goesOn⟩

theorem prompt_fails (ids : (state.store.tallies.map (·.id)).Nodup)
    (failed : Runs OpenWorld.rules (Service.prompt registry name id params) state
      (.error (.flow failure)) final) : state.store.Advances final.store := by
  rw [Service.prompt] at failed
  obtain ⟨tree, session, turn, middle, hadvance, -, -, -, goes⟩ := turn_reached ids failed
  rw [store_of_failed_step (fun _ => stepless_pure) goes]
  exact hadvance

theorem timeout_fails (ids : (state.store.tallies.map (·.id)).Nodup)
    (failed : Runs OpenWorld.rules (Service.timeout registry name id params) state
      (.error (.flow failure)) final) : state.store.Advances final.store := by
  rw [Service.timeout] at failed
  obtain ⟨tree, session, turn, middle, hadvance, -, -, -, looks⟩ := turn_reached ids failed
  obtain ⟨answer, fifth, asked, reads⟩ := stepless_ask.passes looks
  obtain ⟨recent, sixth, answered, goes⟩ := stepless_ofAnswer.passes reads
  obtain ⟨-, rfl⟩ := runs_ofAnswer_ok.mp answered
  rw [store_of_failed_step (fun _ => stepless_bind keepStep_stepless fun _ => stepless_pure) goes,
    OpenWorld.store_of_runs (touches_read rfl) asked]
  exact hadvance

theorem promptResponse_fails (ids : (state.store.tallies.map (·.id)).Nodup)
    (failed : Runs OpenWorld.rules (Service.promptResponse account registry name id params) state
      (.error (.flow failure)) final) :
    (Webhook.promptResponse name id).Spares params state.store final.store := by
  rw [Service.promptResponse] at failed
  obtain ⟨tree, session, turn, middle, hadvance, rfl, hfound, howned, receives⟩ :=
    turn_reached ids failed
  obtain ⟨turn', later, received, goes⟩ := receiveIfAny_stepless.passes receives
  rw [store_of_failed_step (fun _ => stepless_bind keepStep_stepless fun _ => stepless_pure) goes]
  have touches : Touches [.recordings, .turns, .jobs] (receiveIfAny account session turn params) :=
    receiveIfAny_touches (by simp) (by simp) (by simp)
  have hsessions := OpenWorld.sessions_of_runs touches (by decide) received
  have htallies : later.store.tallies = state.store.tallies :=
    (congrArg (·.map Session.tally) hsessions).trans hadvance.tallies
  rcases receiveIfAny_runs received with hturns | ⟨recording, hreceived⟩
  · exact .of_turns (hturns.trans hadvance.turns) (.inl htallies)
  · refine ⟨?_, .inl htallies⟩
    have hreceives := hadvance.receives hreceived
    rw [hreceives.turns]
    refine Store.forall₂_modifyTurn .refl ?_
    intro stored hstored
    rw [Store.turnById, hadvance.turns] at hfound
    obtain rfl : stored = turn := Option.some.inj (hstored.symm.trans hfound)
    rw [← howned] at hreceives
    exact .attached hreceives

/-- A webhook that fails for its step leaves every turn with the input that it had and open to what
it was open to. A turn may have gained the recording of the request that answers it, and nothing has
come of any call but progress. -/
theorem failed_steps_spare_answers {entry : Webhook} {start final : OpenWorld}
    (ids : (start.store.sessions.map (·.id)).Nodup)
    (drawn : ∀ session ∈ start.store.sessions, session.id.uuid ∈ start.drawn)
    (failed : Runs OpenWorld.rules (entry.action account registry params) start
      (.error (.flow failure)) final) :
    entry.Spares params start.store final.store := by
  have htallies : (start.store.tallies.map (·.id)).Nodup := by
    rw [Store.tallies, List.map_map]
    exact ids
  cases entry with
  | inbound name =>
      refine inboundCall_fails htallies ?_ (failed_of_bind (fun _ => stepless_pure) failed)
      intro tally htally
      obtain ⟨session, hsession, rfl⟩ := List.mem_map.mp htally
      exact drawn session hsession
  | outbound name =>
      exact .of_advances (outboundCall_fails htallies (failed_of_bind (fun _ => stepless_pure) failed))
  | prompt name id =>
      exact .of_advances (prompt_fails htallies (failed_of_bind (fun _ => stepless_pure) failed))
  | promptResponse name id =>
      exact promptResponse_fails htallies (failed_of_bind (fun _ => stepless_pure) failed)
  | timeout name id =>
      exact .of_advances (timeout_fails htallies (failed_of_bind (fun _ => stepless_pure) failed))
  | receiveRecording id =>
      exact absurd (failed_of_bind (fun _ => stepless_pure) failed)
        receiveRecording_stepless.not_runs
  | transcribe id =>
      exact absurd (failed_of_bind (fun _ => stepless_pure) failed) transcribe_stepless.not_runs
  | status =>
      exact absurd (failed_of_bind (fun _ => stepless_pure) failed)
        findUpdatedCall_stepless.not_runs

end Failing

section Unrouted

/-- A menu whose rule never has a place to go. -/
def unroutedTree : Tree :=
  { choiceScene.tree with
    prompts := [{ choicePrompt with after := .computed fun _ => .error ⟨"no such place"⟩ }] }

def unroutedWorld : World where
  store := { sessions := [{ (default : Session) with sid := "CA0" }], turns := [choiceTurn] }
  nextId := 1

def unroutedParams : Params :=
  ⟨[("CallSid", "CA0"), ("CallStatus", "in-progress"), ("Digits", "1"), ("RecordingSid", "RE0")]⟩

def unroutedAnswer : Except CallError Outcome × World :=
  World.perform ((Webhook.promptResponse "main" choiceTurn.id).action default ⟨[unroutedTree]⟩
    unroutedParams) unroutedWorld

theorem unrouted_answer_is_not_taken :
    unroutedAnswer.1 = .error (.flow (.callback ⟨"no such place"⟩)) ∧
      (Webhook.promptResponse "main" choiceTurn.id).Spares unroutedParams unroutedWorld.store
        unroutedAnswer.2.store ∧
      unroutedAnswer.2.store.turns = [choiceTurn.attach ⟨.ofNat 1⟩] := by
  have hfails : (match unroutedAnswer.1 with | .error error => some error | .ok _ => none) =
      some (.flow (.callback ⟨"no such place"⟩)) := by
    decide +kernel
  have hturns : unroutedAnswer.2.store.turns = [choiceTurn.attach ⟨.ofNat 1⟩] := by decide +kernel
  have hrun : Action.Runs OpenWorld.rules
      ((Webhook.promptResponse "main" choiceTurn.id).action default ⟨[unroutedTree]⟩ unroutedParams)
      (.ofWorld unroutedWorld) unroutedAnswer.1 (.ofWorld unroutedAnswer.2) :=
    OpenWorld.runs_perform _ unroutedWorld (by decide +kernel)
  generalize unroutedAnswer = answered at hfails hturns hrun ⊢
  obtain ⟨error | outcome, final⟩ := answered
  · obtain rfl := Option.some.inj hfails
    exact ⟨rfl, failed_steps_spare_answers (by decide) (by decide) hrun, hturns⟩
  · cases hfails

end Unrouted

end PhoneTree

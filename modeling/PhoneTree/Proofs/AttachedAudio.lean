import PhoneTree.Proofs.Coherence
import PhoneTree.Proofs.Transcript
import PhoneTree.Service.Jobs

namespace PhoneTree

open Service

/-- The answer to a request for audio. -/
def Exchange.fetched? : Exchange → Option (Except TransportError Media)
  | ⟨.fetchRecording _, answer⟩ => some answer
  | _ => none

section Job

open PhoneTree.Action

/-- All that the job for a recording can ask and be told. -/
inductive Attaching (id : RecordingId) : List Exchange → Except CallError Unit → Prop
  | unread {failure : Failure} :
      Attaching id [⟨.recordingById id, .error failure⟩] (.error (.ofFailure failure))
  | missing :
      Attaching id [⟨.recordingById id, .ok none⟩] (.error (.recordingNotFound id.uuid.text))
  | known {recording : Recording} (attached : recording.attached = true) :
      Attaching id [⟨.recordingById id, .ok (some recording)⟩] (.ok ())
  | unaddressed {recording : Recording} (new : recording.attached = false)
      (blank : (recording.url.filter fun url => !Text.isBlank url) = none) :
      Attaching id [⟨.recordingById id, .ok (some recording)⟩]
        (.error (.validationFailed "url" s!"recording {recording.sid} has no URL"))
  | refused {recording : Recording} {url : String} {error : TransportError}
      (new : recording.attached = false)
      (addressed : (recording.url.filter fun url => !Text.isBlank url) = some url) :
      Attaching id
        [⟨.recordingById id, .ok (some recording)⟩, ⟨.fetchRecording url, .error error⟩]
        (.error (.transport error))
  | lost {recording : Recording} {url : String} {media : Media} {error : StorageError}
      (new : recording.attached = false)
      (addressed : (recording.url.filter fun url => !Text.isBlank url) = some url) :
      Attaching id
        [⟨.recordingById id, .ok (some recording)⟩, ⟨.fetchRecording url, .ok media⟩,
          ⟨.storeAudio recording.id media, .error error⟩]
        (.error (.infrastructure error.text))
  | kept {recording : Recording} {url location : String} {media : Media}
      {updated : Except Failure Unit} (new : recording.attached = false)
      (addressed : (recording.url.filter fun url => !Text.isBlank url) = some url) :
      Attaching id
        [⟨.recordingById id, .ok (some recording)⟩, ⟨.fetchRecording url, .ok media⟩,
          ⟨.storeAudio recording.id media, .ok location⟩,
          ⟨.updateRecording recording.markAttached, updated⟩]
        (updated.mapError .ofFailure)

theorem attaching_of_records {id : RecordingId} {log : List Exchange}
    {result : Except CallError Unit} (h : Records (attachRecording id) log result) :
    Attaching id log result := by
  obtain ⟨answer, after, rfl, hfound⟩ := records_ask_bind.mp h
  rcases answer with failure | _ | recording
  · obtain ⟨rfl, rfl⟩ := records_throw.mp hfound
    exact .unread
  · obtain ⟨rfl, rfl⟩ := records_throw.mp hfound
    exact .missing
  · change Records (if recording.attached then _ else _) after result at hfound
    split at hfound
    · rename_i attached
      obtain ⟨rfl, rfl⟩ := records_pure.mp hfound
      exact .known attached
    · rename_i new
      have new := Bool.not_eq_true _ ▸ new
      split at hfound
      · rename_i blank
        obtain ⟨rfl, rfl⟩ := records_throw.mp hfound
        exact .unaddressed new blank
      · rename_i url addressed
        obtain ⟨given, after, rfl, hfetched⟩ := records_ask_bind.mp hfound
        rcases given with error | media
        · obtain ⟨rfl, rfl⟩ := records_throw.mp hfetched
          exact .refused new addressed
        · obtain ⟨stored, after, rfl, hstored⟩ := records_ask_bind.mp hfetched
          rcases stored with error | location
          · obtain ⟨rfl, rfl⟩ := records_throw.mp hstored
            exact .lost new addressed
          · obtain ⟨updated, after, rfl, hupdated⟩ := records_ask_bind.mp hstored
            rcases updated with failure | _
            · obtain ⟨rfl, rfl⟩ := records_throw.mp hupdated
              exact .kept new addressed
            · obtain ⟨rfl, rfl⟩ := records_pure.mp hupdated
              exact .kept new addressed

/-- What the job does once it knows where the audio is. -/
def fetchAudio (recording : Recording) (url : String) : Action Unit := do
  let media ← ofTransport (← ask (.fetchRecording url))
  match ← ask (.storeAudio recording.id media) with
  | .error error => throw (.infrastructure error.text)
  | .ok _ => do ofAnswer (← ask (.updateRecording recording.markAttached))

theorem records_of_fetchAudio {id : RecordingId} {recording : Recording} {url : String}
    {log : List Exchange} {result : Except CallError Unit} (new : recording.attached = false)
    (addressed : (recording.url.filter fun url => !Text.isBlank url) = some url)
    (h : Records (fetchAudio recording url) log result) :
    Records (attachRecording id) (⟨.recordingById id, .ok (some recording)⟩ :: log) result := by
  refine .ask ?_
  change Records (if recording.attached then _ else _) log result
  rw [if_neg (Bool.not_eq_true _ ▸ new), addressed]
  exact h

theorem records_of_attaching {id : RecordingId} {log : List Exchange}
    {result : Except CallError Unit} (h : Attaching id log result) :
    Records (attachRecording id) log result := by
  cases h with
  | unread | missing => exact .ask .done
  | @known recording attached =>
      refine .ask ?_
      change Records (if recording.attached then _ else _) [] (.ok ())
      rw [if_pos attached]
      exact .done
  | @unaddressed recording new blank =>
      refine .ask ?_
      change Records (if recording.attached then _ else _) [] _
      rw [if_neg (Bool.not_eq_true _ ▸ new), blank]
      exact .done
  | refused new addressed => exact records_of_fetchAudio new addressed (.ask .done)
  | lost new addressed => exact records_of_fetchAudio new addressed (.ask (.ask .done))
  | @kept recording url location media updated new addressed =>
      refine records_of_fetchAudio new addressed (.ask (.ask (.ask ?_)))
      cases updated <;> exact .done

end Job

namespace Store

theorem find?_putRecording (recording : Recording) (recordings : List Recording)
    (id : RecordingId) :
    (putRecording recording recordings).find? (fun other => other.id == id) =
      if recording.id = id then some recording
      else recordings.find? fun other => other.id == id := by
  induction recordings with
  | nil =>
      by_cases h : recording.id = id
      · simp [putRecording, h]
      · simp [putRecording, h]
  | cons other rest ih =>
      rw [putRecording]
      by_cases hplace : other.id = recording.id
      · rw [if_pos hplace]
        by_cases h : recording.id = id
        · simp [h]
        · simp [h, hplace]
      · rw [if_neg hplace, List.find?_cons, List.find?_cons, ih]
        cases hother : other.id == id with
        | true =>
            have hid : recording.id ≠ id := fun h => hplace ((eq_of_beq hother).trans h.symm)
            exact (if_neg hid).symm
        | false => rfl

theorem id_of_recordingById {store : Store} {id : RecordingId} {recording : Recording}
    (found : store.recordingById id = some recording) : recording.id = id :=
  eq_of_beq (@List.find?_some _ (fun other : Recording => other.id == id) _ _ found)

theorem new_of_found {store : Store} {id : RecordingId} {recording : Recording}
    (found : store.recordingById id = some recording) (new : recording.attached = false) :
    ∀ other, store.recordingById id = some other → other.attached = false := by
  intro other hother
  obtain rfl := Option.some.inj (found.symm.trans hother)
  exact new

end Store

theorem World.audioOf?_keepAudio (world : World) (recording id : RecordingId) (media : Media) :
    (world.keepAudio recording media).audioOf? id =
      if recording = id then some media else world.audioOf? id := by
  by_cases h : recording = id
  · simp [audioOf?, keepAudio, h]
  · rw [if_neg h, audioOf?, keepAudio, List.find?_cons, beq_eq_false_iff_ne.mpr h]
    have hother : (fun entry : RecordingId × Media =>
        decide ((entry.1 != recording) = true ∧ (entry.1 == id) = true)) =
          fun entry => entry.1 == id := by
      funext entry
      by_cases hentry : entry.1 = id
      · simp [hentry, Ne.symm h]
      · simp [hentry]
    rw [List.find?_filter, hother]
    rfl

namespace OpenWorld

/-- The world after the provider was asked. -/
def withProvider (state : OpenWorld) (provider : ScriptedProvider) : OpenWorld :=
  { state with world := { state.world with provider } }

/-- The world after a stored recording was put in its place. -/
def withRecording (state : OpenWorld) (recording : Recording) : OpenWorld :=
  state.withStore
    { state.store with recordings := Store.putRecording recording state.store.recordings }

/-- The world after audio was kept for a recording. -/
def withAudio (state : OpenWorld) (recording : RecordingId) (media : Media) : OpenWorld :=
  { state with world := state.world.keepAudio recording media }

theorem recordingById_withRecording (state : OpenWorld) (recording : Recording)
    (id : RecordingId) :
    (state.withRecording recording).store.recordingById id =
      if recording.id = id then some recording else state.store.recordingById id :=
  Store.find?_putRecording recording state.store.recordings id

theorem answers_updateRecording {state state' : OpenWorld} {recording stored : Recording}
    {answer : Except Failure Unit} (found : state.store.recordingById recording.id = some stored) :
    state.Answers (.updateRecording recording) answer state' ↔
      answer = .ok () ∧ state' = state.withRecording recording := by
  have hupdated : World.answer (.updateRecording recording) state.world =
      (.ok (), (state.withRecording recording).world) := by
    have hstore : state.store.updateRecording recording =
        .ok (state.withRecording recording).store := by
      rw [Store.updateRecording, found]
      rfl
    exact congrArg state.world.write hstore
  change answer = (World.answer (.updateRecording recording) state.world).1 ∧ _ ↔ _
  rw [hupdated]
  rfl

end OpenWorld

/-- A run of the job for a recording, with all that it asked and was told. -/
structure AudioRun where
  recording : RecordingId
  log : List Exchange
  result : Except CallError Unit

namespace AudioRun

/-- What the provider answered to the run's requests for audio. -/
def fetches (run : AudioRun) : List (Except TransportError Media) :=
  run.log.filterMap Exchange.fetched?

/-- The run is one of the job, and leads from one state of the world to another. -/
def Leads (registry : Registry) (run : AudioRun) (state state' : OpenWorld) : Prop :=
  Action.Records (runJob registry (.attachRecording run.recording)) run.log run.result ∧
    OpenWorld.rules.Leads state run.log state'

/-- What a run can come to in memory. -/
inductive Outcome (run : AudioRun) (state : OpenWorld) : OpenWorld → Prop
  | known {recording : Recording}
      (found : state.store.recordingById run.recording = some recording)
      (attached : recording.attached = true) (fetches : run.fetches = [])
      (result : run.result = .ok ()) : Outcome run state state
  | failed {provider : ScriptedProvider} {error : CallError}
      (new : ∀ recording, state.store.recordingById run.recording = some recording →
        recording.attached = false)
      (asks : ∀ recording url, state.store.recordingById run.recording = some recording →
        recording.url = some url → Text.isBlank url = false →
        ∃ refusal, run.fetches = [.error refusal])
      (fetches : run.fetches.filterMap Except.toOption = []) (result : run.result = .error error) :
      Outcome run state (state.withProvider provider)
  | kept {provider : ScriptedProvider} {recording : Recording} {media : Media}
      (found : state.store.recordingById run.recording = some recording)
      (new : recording.attached = false) (fetches : run.fetches = [.ok media])
      (result : run.result = .ok ()) :
      Outcome run state
        (((state.withProvider provider).withAudio recording.id media).withRecording
          recording.markAttached)

theorem outcome_of_leads {registry : Registry} {run : AudioRun} {state state' : OpenWorld}
    (leads : run.Leads registry state state') : run.Outcome state state' := by
  obtain ⟨id, log, result⟩ := run
  obtain ⟨records, leads⟩ := leads
  have attaching : Attaching id log result := attaching_of_records records
  clear records
  -- In memory nothing fails to be read or kept, so `unread` and `lost` do not come up.
  cases attaching with
  | unread =>
      obtain ⟨_, ⟨hanswer, _⟩, _⟩ := leads
      cases hanswer
  | missing =>
      obtain ⟨_, ⟨hanswer, rfl⟩, rfl⟩ := leads
      have absent : state.store.recordingById id = none := (Except.ok.inj hanswer).symm
      have hnothing : ∀ recording, state.store.recordingById id ≠ some recording :=
        fun recording found => nomatch absent.symm.trans found
      exact .failed (fun recording found => absurd found (hnothing recording))
        (fun recording _ found => absurd found (hnothing recording)) rfl rfl
  | @known recording attached =>
      obtain ⟨_, ⟨hanswer, rfl⟩, rfl⟩ := leads
      exact .known (Except.ok.inj hanswer).symm attached rfl rfl
  | @unaddressed recording new blank =>
      obtain ⟨_, ⟨hanswer, rfl⟩, rfl⟩ := leads
      have found : state.store.recordingById id = some recording := (Except.ok.inj hanswer).symm
      refine .failed (Store.new_of_found found new) (fun other url hother hurl hfilled => ?_)
        rfl rfl
      obtain rfl := Option.some.inj (found.symm.trans hother)
      simp [hurl, hfilled] at blank
  | @refused recording url error new addressed =>
      obtain ⟨_, ⟨hanswer, rfl⟩, _, ⟨provider, rfl⟩, rfl⟩ := leads
      have found : state.store.recordingById id = some recording := (Except.ok.inj hanswer).symm
      exact .failed (Store.new_of_found found new) (fun _ _ _ _ _ => ⟨error, rfl⟩) rfl rfl
  | lost new addressed =>
      obtain ⟨_, _, _, _, _, ⟨hanswer, _⟩, _⟩ := leads
      cases hanswer
  | @kept recording url location media updated new addressed =>
      obtain ⟨_, ⟨hanswer, rfl⟩, _, ⟨provider, rfl⟩, _, ⟨_, rfl⟩, _, hupdated, rfl⟩ := leads
      have found : state.store.recordingById id = some recording := (Except.ok.inj hanswer).symm
      obtain rfl := Store.id_of_recordingById found
      have hplace : ((state.withProvider provider).withAudio recording.id media).store.recordingById
          recording.markAttached.id = some recording := found
      obtain ⟨rfl, rfl⟩ := (OpenWorld.answers_updateRecording hplace).mp hupdated
      exact .kept found new rfl rfl

/-- What a run does, and what it leaves alone. -/
structure Conduct (run : AudioRun) (state after : OpenWorld) : Prop where
  repeated : ∀ recording, state.store.recordingById run.recording = some recording →
    recording.attached = true → run.result = .ok () ∧ run.fetches = [] ∧ after = state
  asks : ∀ recording url, state.store.recordingById run.recording = some recording →
    recording.attached = false → recording.url = some url → Text.isBlank url = false →
    ∃ answer, run.fetches = [answer]
  keeps : ∀ media, .ok media ∈ run.fetches → run.result = .ok ()
  attaches : run.result = .ok () →
    ∃ recording, after.store.recordingById run.recording = some recording ∧ recording.attached = true
  harmless : ∀ error, run.result = .error error →
    after.store = state.store ∧ after.world.audio = state.world.audio

theorem Outcome.conduct {run : AudioRun} {state after : OpenWorld}
    (outcome : run.Outcome state after) : run.Conduct state after := by
  cases outcome with
  | @known recording found attached fetches result =>
      constructor
      case repeated => exact fun _ _ _ => ⟨result, fetches, rfl⟩
      case asks =>
        intro other url hother new
        obtain rfl := Option.some.inj (found.symm.trans hother)
        cases attached.symm.trans new
      case keeps => exact fun _ _ => result
      case attaches => exact fun _ => ⟨recording, found, attached⟩
      case harmless => exact fun _ _ => ⟨rfl, rfl⟩
  | failed new asks fetches result =>
      constructor
      case repeated =>
        intro recording found attached
        cases attached.symm.trans (new recording found)
      case asks =>
        intro recording url found _ hurl hfilled
        obtain ⟨refusal, hrefusal⟩ := asks recording url found hurl hfilled
        exact ⟨.error refusal, hrefusal⟩
      case keeps =>
        intro media hmedia
        have hgiven : media ∈ run.fetches.filterMap Except.toOption :=
          List.mem_filterMap.mpr ⟨.ok media, hmedia, rfl⟩
        rw [fetches] at hgiven
        cases hgiven
      case attaches => exact fun hdone => nomatch result.symm.trans hdone
      case harmless => exact fun _ _ => ⟨rfl, rfl⟩
  | @kept provider recording media found new fetches result =>
      have hid := Store.id_of_recordingById found
      constructor
      case repeated =>
        intro other hother attached
        cases attached.symm.trans (Store.new_of_found found new other hother)
      case asks => exact fun _ _ _ _ _ _ => ⟨.ok media, fetches⟩
      case keeps => exact fun _ _ => result
      case attaches =>
        intro _
        refine ⟨recording.markAttached, ?_, rfl⟩
        exact (OpenWorld.recordingById_withRecording _ _ _).trans (if_pos hid)
      case harmless => exact fun _ hfailed => nomatch result.symm.trans hfailed

/-- Whatever the provider answers, the job can be run in memory. -/
theorem exists_attaching (state : OpenWorld) (id : RecordingId)
    (given : Except TransportError Media) :
    ∃ log result state', Attaching id log result ∧ OpenWorld.rules.Leads state log state' ∧
      ∀ answer ∈ log.filterMap Exchange.fetched?, answer = given := by
  have hfound : Except.ok (state.store.recordingById id) =
      (World.answer (.recordingById id) state.world).1 := rfl
  cases found : state.store.recordingById id with
  | none =>
      rw [found] at hfound
      exact ⟨_, _, state, .missing, ⟨_, ⟨hfound, rfl⟩, rfl⟩, nofun⟩
  | some recording =>
      rw [found] at hfound
      cases hattached : recording.attached with
      | true => exact ⟨_, _, state, .known hattached, ⟨_, ⟨hfound, rfl⟩, rfl⟩, nofun⟩
      | false =>
          cases haddress : recording.url.filter fun url => !Text.isBlank url with
          | none =>
              exact ⟨_, _, state, .unaddressed hattached haddress, ⟨_, ⟨hfound, rfl⟩, rfl⟩, nofun⟩
          | some url =>
              have hasked : OpenWorld.rules.Answers state (.fetchRecording url) given state :=
                ⟨state.world.provider, rfl⟩
              rcases given with error | media
              · refine ⟨_, _, state, .refused hattached haddress,
                  ⟨_, ⟨hfound, rfl⟩, _, hasked, rfl⟩, ?_⟩
                exact List.forall_mem_singleton.mpr rfl
              · obtain rfl := Store.id_of_recordingById found
                have hplace : (state.withAudio recording.id media).store.recordingById
                    recording.markAttached.id = some recording := found
                have hmarked := (OpenWorld.answers_updateRecording hplace).mpr ⟨rfl, rfl⟩
                refine ⟨_, _, _, .kept hattached haddress,
                  ⟨_, ⟨hfound, rfl⟩, _, hasked, _, ⟨rfl, rfl⟩, _, hmarked, rfl⟩, ?_⟩
                exact List.forall_mem_singleton.mpr rfl

end AudioRun

/-- Runs of the job for recordings, one after another. -/
inductive AudioRuns (registry : Registry) (start : OpenWorld) : List AudioRun → OpenWorld → Prop
  | nothing : AudioRuns registry start [] start
  | more {runs : List AudioRun} {run : AudioRun} {state state' : OpenWorld}
      (before : AudioRuns registry start runs state) (leads : run.Leads registry state state') :
      AudioRuns registry start (runs ++ [run]) state'

/-- The media that the provider gave for a recording. -/
def mediaFor (id : RecordingId) (runs : List AudioRun) : List Media :=
  (runs.filter (·.recording = id)).flatMap fun run => run.fetches.filterMap Except.toOption

/-- How a recording stands after some runs, with the media that the provider gave for it. -/
inductive Audible (start state : OpenWorld) (id : RecordingId) : List Media → Prop
  | untouched (same : state.store.recordingById id = start.store.recordingById id)
      (silent : state.world.audioOf? id = start.world.audioOf? id) : Audible start state id []
  | attached {recording : Recording} {media : Media}
      (found : start.store.recordingById id = some recording) (new : recording.attached = false)
      (marked : state.store.recordingById id = some recording.markAttached)
      (kept : state.world.audioOf? id = some media) : Audible start state id [media]

section Runs

variable {registry : Registry} {start state state' : OpenWorld} {id : RecordingId}
  {run : AudioRun} {runs : List AudioRun} {given : List Media}

theorem mediaFor_append :
    mediaFor id (runs ++ [run]) = mediaFor id runs ++ mediaFor id [run] := by
  rw [mediaFor, List.filter_append, List.flatMap_append]
  rfl

theorem mediaFor_self : mediaFor run.recording [run] = run.fetches.filterMap Except.toOption := by
  simp [mediaFor]

theorem mediaFor_of_silent (silent : run.fetches.filterMap Except.toOption = []) :
    mediaFor id [run] = [] := by
  by_cases h : run.recording = id <;> simp [mediaFor, h, silent]

theorem mediaFor_other (h : run.recording ≠ id) : mediaFor id [run] = [] := by
  simp [mediaFor, h]

theorem Audible.step (h : Audible start state id given) (outcome : run.Outcome state state') :
    Audible start state' id (given ++ mediaFor id [run]) := by
  cases outcome with
  | known found attached fetches result =>
      rw [mediaFor_of_silent (by rw [fetches]; rfl), List.append_nil]
      exact h
  | failed new asks fetches result =>
      rw [mediaFor_of_silent fetches, List.append_nil]
      cases h with
      | untouched same silent => exact .untouched same silent
      | attached found new marked kept => exact .attached found new marked kept
  | @kept provider recording media found new fetches result =>
      have hrecording : run.recording = recording.id := (Store.id_of_recordingById found).symm
      have hstored := OpenWorld.recordingById_withRecording
        ((state.withProvider provider).withAudio recording.id media) recording.markAttached id
      have hkept := (state.withProvider provider).world.audioOf?_keepAudio recording.id id media
      by_cases hid : recording.id = id
      · have hmedia : mediaFor id [run] = [media] := by
          rw [← hid, ← hrecording, mediaFor_self, fetches]
          rfl
        rw [hmedia]
        rw [hrecording, hid] at found
        cases h with
        | untouched same silent =>
            exact .attached (same.symm.trans found) new (hstored.trans (if_pos hid))
              (hkept.trans (if_pos hid))
        | attached found' new' marked kept =>
            -- What was attached before is marked, so this run cannot have found it new.
            obtain rfl := Option.some.inj (marked.symm.trans found)
            cases new
      · rw [mediaFor_other (hrecording ▸ hid), List.append_nil]
        have hstored := hstored.trans (if_neg hid)
        have hkept := hkept.trans (if_neg hid)
        cases h with
        | untouched same silent => exact .untouched (hstored.trans same) (hkept.trans silent)
        | attached found new marked kept =>
            exact .attached found new (hstored.trans marked) (hkept.trans kept)

theorem AudioRun.Outcome.recordingFacts (outcome : run.Outcome state state') :
    state'.store.recordingFacts = state.store.recordingFacts := by
  cases outcome with
  | known | failed => rfl
  | kept found new fetches result =>
      have hid := Store.id_of_recordingById found
      rw [← hid] at found
      exact Store.map_putRecording Recording.facts found rfl

theorem AudioRuns.audible (h : AudioRuns registry start runs state) (id : RecordingId) :
    Audible start state id (mediaFor id runs) := by
  induction h with
  | nothing => exact .untouched rfl rfl
  | more before leads ih =>
      rw [mediaFor_append]
      exact ih.step (AudioRun.outcome_of_leads leads)

theorem AudioRuns.recordingFacts (h : AudioRuns registry start runs state) :
    state.store.recordingFacts = start.store.recordingFacts := by
  induction h with
  | nothing => rfl
  | more before leads ih => exact (AudioRun.outcome_of_leads leads).recordingFacts.trans ih

/-- The audio of a recording is fetched once for good, however often the job for it is run. -/
theorem audio_is_attached_once (run : AudioRuns registry start runs state) :
    (∀ id result after,
        Action.Runs OpenWorld.rules (runJob registry (.attachRecording id)) state result after ↔
          ∃ log, AudioRun.Leads registry ⟨id, log, result⟩ state after) ∧
      (∀ id, Audible start state id (mediaFor id runs)) ∧
      (∀ id recording,
        (∀ stored, start.store.recordingById id = some stored → stored.attached = false) →
          state.store.recordingById id = some recording → recording.attached = true →
          ∃ media, mediaFor id runs = [media] ∧ state.world.audioOf? id = some media) ∧
      (∀ next after, AudioRun.Leads registry next state after → next.Conduct state after) ∧
      (∀ id given, ∃ next after, next.recording = id ∧ AudioRun.Leads registry next state after ∧
        ∀ answer ∈ next.fetches, answer = given) ∧
      state.store.recordingFacts = start.store.recordingFacts := by
  refine ⟨fun _ _ _ => Dialogue.runs_iff_records, run.audible, ?_, ?_, ?_, run.recordingFacts⟩
  · intro id recording hunmarked hfound hattached
    have h := run.audible id
    generalize mediaFor id runs = given at h ⊢
    cases h with
    | untouched same silent =>
        cases hattached.symm.trans (hunmarked recording (same.symm.trans hfound))
    | attached found new marked kept => exact ⟨_, rfl, kept⟩
  · exact fun next after leads => (AudioRun.outcome_of_leads leads).conduct
  · intro id given
    obtain ⟨log, result, after, attaching, leads, hgiven⟩ :=
      AudioRun.exists_attaching state id given
    exact ⟨⟨id, log, result⟩, after, rfl, ⟨records_of_attaching attaching, leads⟩, hgiven⟩

end Runs

section Retried

def announcedRecording : Recording where
  id := ⟨.ofNat 1⟩
  session := ⟨.ofNat 2⟩
  sid := "RE1"
  url := some "https://api.example.com/RE1"
  createdAt := ⟨0⟩

def announcedWorld : OpenWorld :=
  .ofWorld { store := { recordings := [announcedRecording] } }

def announcedMedia : Media :=
  ⟨some "audio/mpeg", [73, 68, 51]⟩

/-- The provider cannot be reached at first. -/
def refusedRun : AudioRun where
  recording := announcedRecording.id
  log :=
    [⟨.recordingById announcedRecording.id, .ok (some announcedRecording)⟩,
      ⟨.fetchRecording "https://api.example.com/RE1", .error (.network "timed out")⟩]
  result := .error (.transport (.network "timed out"))

/-- The run in which the audio is fetched and kept. -/
def keptRun : AudioRun where
  recording := announcedRecording.id
  log :=
    [⟨.recordingById announcedRecording.id, .ok (some announcedRecording)⟩,
      ⟨.fetchRecording "https://api.example.com/RE1", .ok announcedMedia⟩,
      ⟨.storeAudio announcedRecording.id announcedMedia,
        .ok s!"memory://recordings/{announcedRecording.id.uuid.text}"⟩,
      ⟨.updateRecording announcedRecording.markAttached, .ok ()⟩]
  result := .ok ()

/-- The run that finds the audio attached already. -/
def repeatedRun : AudioRun where
  recording := announcedRecording.id
  log := [⟨.recordingById announcedRecording.id, .ok (some announcedRecording.markAttached)⟩]
  result := .ok ()

theorem retriedAudio_is_attached_once :
    ∃ state, AudioRuns ⟨[]⟩ announcedWorld [refusedRun, keptRun, repeatedRun] state ∧
      state.store.recordings = [announcedRecording.markAttached] ∧
      ∃ media, mediaFor announcedRecording.id [refusedRun, keptRun, repeatedRun] = [media] ∧
        state.world.audioOf? announcedRecording.id = some media := by
  have addressed : (announcedRecording.url.filter fun url => !Text.isBlank url) =
      some "https://api.example.com/RE1" := by decide
  have refused : AudioRun.Leads ⟨[]⟩ refusedRun announcedWorld announcedWorld :=
    ⟨records_of_attaching (.refused rfl addressed), _, ⟨rfl, rfl⟩, _, ⟨{}, rfl⟩, rfl⟩
  let final :=
    (announcedWorld.withAudio announcedRecording.id announcedMedia).withRecording
      announcedRecording.markAttached
  have kept : AudioRun.Leads ⟨[]⟩ keptRun announcedWorld final :=
    ⟨records_of_attaching (@Attaching.kept _ _ _ _ _ (.ok ()) rfl addressed),
      _, ⟨rfl, rfl⟩, _, ⟨{}, rfl⟩, _, ⟨rfl, rfl⟩, _, ⟨rfl, rfl⟩, rfl⟩
  have repeated : AudioRun.Leads ⟨[]⟩ repeatedRun final final :=
    ⟨records_of_attaching (.known rfl), _, ⟨rfl, rfl⟩, rfl⟩
  have run : AudioRuns ⟨[]⟩ announcedWorld [refusedRun, keptRun, repeatedRun] final :=
    .more (.more (.more .nothing refused) kept) repeated
  refine ⟨final, run, rfl, ?_⟩
  have found : announcedWorld.store.recordingById announcedRecording.id = some announcedRecording :=
    rfl
  exact (audio_is_attached_once run).2.2.1 _ announcedRecording.markAttached
    (Store.new_of_found found rfl) rfl rfl

end Retried

end PhoneTree

import PhoneTree.Proofs.CommandFootprint
import PhoneTree.Proofs.Pool

namespace PhoneTree

/-- The recording that a program has just stored. -/
def saved? : List Exchange → Option RecordingId
  | ⟨.saveRecording recording, .ok _⟩ :: _ => some recording.id
  | _ => none

/-- The recording that a program has stored and for which it has yet to leave work, if recordings
are to be fetched at all. -/
def owed (attach : Bool) : List Exchange → Option RecordingId
  | ⟨.attachToTurn _ _, .ok _⟩ :: past => if attach then saved? past else none
  | past => if attach then saved? past else none

/-- Whether a program owes a recording its work. -/
def owes (attach : Bool) (id : RecordingId) (past : List Exchange) : Bool :=
  owed attach past == some id

/-- Whether a webhook may bring a recording. -/
def Webhook.receives : Webhook → Bool
  | promptResponse _ _ | receiveRecording _ | transcribe _ => true
  | _ => false

/-- What a report about the progress of a call calls for: work for a call that nobody took, if a
status or a verdict says so, and for a call that is over, if a status says so. -/
def StatusUpdate.CallsFor (update : StatusUpdate) : Job → Prop
  | .unansweredCall _ =>
      update.status.any CallStatus.isNoAnswer = true ∨ update.answeredBy = some .machineStart
  | .finishedCall _ => update.status.any CallStatus.isTerminal = true
  | .attachRecording _ => False

namespace Command

/-- A command that may bring a recording. -/
def receives : Command → Bool
  | webhook entry _ => entry.receives
  | _ => false

/-- The recording that a command brings, as the provider names it. -/
def recordingSid? : Command → Option String
  | webhook entry params => if entry.receives then params.get? "RecordingSid" else none
  | _ => none

/-- The work that a command may leave for the progress of a call that its request reports. Whoever
just brings a recording or a transcription takes no such report over. -/
def CallsFor : Command → Job → Prop
  | webhook (.receiveRecording _) _, _ | webhook (.transcribe _) _, _ => False
  | webhook _ params, work => (StatusUpdate.ofParams params).CallsFor work
  | _, _ => False

/-- What a command may ask for that leaves the work that it owes to a recording, and no other. -/
def MaySettle (attach : Bool) (command : Command) (past : List Exchange) : Question → Prop
  | .saveRecording recording =>
      owed attach past = none ∧ command.recordingSid? = some recording.sid
  | .updateRecording _ => owed attach past = none ∧ command.isWebhook = false
  | .attachToTurn _ recording => saved? past = some recording
  | .schedule (.attachRecording id) _ => owed attach past = some id
  | .schedule work _ => owed attach past = none ∧ command.CallsFor work
  | _ => owed attach past = none

/-- The action owes nothing in the end when it owes nothing in the beginning. -/
def Settles {α : Type} (attach : Bool) (command : Command) (action : Action α) : Prop :=
  ∀ past, owed attach past = none →
    Action.Ensures (histories (command.MaySettle attach)) action past
      (fun _ past' => owed attach past' = none) fun _ past' => owed attach past' = none

end Command

/-- Whether a question has nothing to do with recordings and work. -/
def Question.isAside : Question → Bool
  | saveRecording _ | updateRecording _ | attachToTurn _ _ | schedule _ _ => false
  | _ => true

theorem sid_of_params {id : RecordingId} {time : Timestamp} {owner : SessionId} {params : Params}
    {recording : Recording} (h : Recording.ofParams id time owner params = .ok recording) :
    params.get? "RecordingSid" = some recording.sid := by
  rw [Recording.ofParams] at h
  split at h
  · cases h
  · rename_i sid hsid
    obtain rfl := Except.ok.inj h
    exact hsid

theorem Command.recordingSid?_of_idle {command : Command} (h : command.receives = false) :
    command.recordingSid? = none := by
  cases command with
  | webhook entry params =>
      rw [recordingSid?, if_neg]
      rw [show entry.receives = false from h]
      exact Bool.false_ne_true
  | _ => rfl

section Rules

open PhoneTree.Action

variable {α β : Type} {attach : Bool} {command : Command} {past : List Exchange}
  {question : Question} {answer : question.Answer}

theorem owed_of_owed {id : RecordingId} (h : owed attach past = some id) : attach = true := by
  cases attach with
  | true => rfl
  | false =>
      rcases past with _ | ⟨⟨question, answer⟩, past⟩
      · cases h
      · cases question with
        | attachToTurn turn recording => cases answer <;> cases h
        | _ => cases h

theorem owed_attached {turn : TurnId} {recording : RecordingId}
    (h : saved? past = some recording) :
    owed attach (⟨.attachToTurn turn recording, .ok ()⟩ :: past) = owed attach past := by
  rcases past with _ | ⟨⟨question, answer⟩, past⟩
  · cases h
  · cases question with
    | attachToTurn other kept => cases h
    | _ => rfl

theorem owed_aside (haside : question.isAside = true) :
    owed attach (⟨question, answer⟩ :: past) = none := by
  cases attach <;> cases question <;> first | rfl | cases haside

theorem maySettle_aside (haside : question.isAside = true) (h : owed attach past = none) :
    command.MaySettle attach past question := by
  cases question with
  | saveRecording recording | updateRecording recording | attachToTurn turn recording
  | schedule job delay => cases haside
  | _ => exact h

namespace Command

theorem settles_pure {value : α} : Settles attach command (pure value : Action α) :=
  fun _ h => h

theorem settles_throw {error : CallError} : Settles attach command (throw error : Action α) :=
  fun _ h => h

theorem settles_bind {action : Action α} {rest : α → Action β}
    (first : Settles attach command action)
    (second : ∀ value, Settles attach command (rest value)) :
    Settles attach command (action >>= rest) := by
  intro past h
  refine ensures_bind.mpr ((first past h).mono ?_ fun _ _ h => h)
  exact fun value past' hpast => second value past' hpast

theorem settles_ask (haside : question.isAside = true) :
    Settles attach command (ask question) := by
  intro past h
  refine histories_ask (maySettle_aside haside h) ?_
  exact fun _ _ => owed_aside haside

theorem settles_ofAnswer {answer : Except Failure α} :
    Settles attach command (ofAnswer answer) := by
  cases answer <;> exact fun _ h => h

theorem settles_outcome {outcome : question.Answer → Except Failure α}
    (haside : question.isAside = true) :
    Settles attach command (ask question >>= fun answer => ofAnswer (outcome answer)) :=
  settles_bind (settles_ask haside) fun _ => settles_ofAnswer

theorem settles_of_asksOnly {action : Action α}
    (h : action.run.AsksOnly fun question => question.isAside = true) :
    Settles attach command action := by
  intro past hpast
  have hkept : Dialogue.Ensures (histories (command.MaySettle attach)) action.run past
      fun _ past' => owed attach past' = none := by
    generalize action.run = program at h
    induction h generalizing past with
    | done => exact hpast
    | ask haside _ ih =>
        refine ⟨maySettle_aside haside hpast, ?_⟩
        rintro answer _ ⟨_, rfl⟩
        exact ih answer _ (owed_aside haside)
  refine hkept.mono ?_
  rintro (error | value) past' h
  · exact h
  · exact h

theorem settles_of_touches {action : Action α}
    (h : action.Touches [.sessions, .callers, .audio, .provider, .hooks]) :
    Settles attach command action := by
  refine settles_of_asksOnly (Dialogue.AsksOnly.mono h ?_)
  intro question hparts
  cases question with
  | saveRecording recording | updateRecording recording | attachToTurn turn recording
  | schedule job delay => exact absurd (hparts _ rfl) (by decide)
  | _ => rfl

theorem not_callsFor_attachRecording (command : Command) {recording : RecordingId} :
    ¬command.CallsFor (.attachRecording recording) := by
  cases command with
  | webhook entry params => cases entry <;> exact id
  | _ => exact id

end Command

end Rules

/-- Work is left after a change of a session only if the update that was taken over calls for it. -/
theorem Session.callsFor_of_takeOver {base session : Session} {update : StatusUpdate}
    {change : StatusChange} {job : Job} (h : (base.takeOver update).2 = some change)
    (hjob : job ∈ Service.jobsAfter session (some change)) : update.CallsFor job := by
  have hchange : base.changeBy update = change := by
    rw [takeOver] at h
    split at h
    · exact Option.some.inj h
    · cases h
  rw [← hchange, Service.jobsAfter] at hjob
  rcases List.mem_append.mp hjob with hjob | hjob
  · split at hjob
    · rename_i hunanswered
      obtain rfl := List.mem_singleton.mp hjob
      simp only [changeBy, Bool.or_eq_true, Bool.and_eq_true, bne_iff_ne] at hunanswered
      rcases hunanswered with ⟨hmoved, hsilent⟩ | ⟨hmoved, hmachine⟩
      · refine .inl ?_
        rw [← status_of_moved hmoved]
        exact (Bool.and_eq_true_iff.mp hsilent).2
      · refine .inr ?_
        rw [← answeredBy_of_moved hmoved]
        exact eq_of_beq (Bool.and_eq_true_iff.mp hmachine).2
    · cases hjob
  · split at hjob
    · rename_i hfinished
      obtain rfl := List.mem_singleton.mp hjob
      simp only [changeBy, Bool.and_eq_true, bne_iff_ne] at hfinished
      rw [StatusUpdate.CallsFor, ← status_of_moved hfinished.1.1]
      exact hfinished.1.2
    · cases hjob

namespace Service

open PhoneTree.Action Command

variable {attach : Bool} {command : Command} {registry : Registry} {account : Account}
  {params : Params} {session : Session} {tree : Tree} {turn : Turn} {name : String} {id : TurnId}

section Parts

theorem leaveWork_settles {jobs : List Job} (hjobs : ∀ job ∈ jobs, command.CallsFor job) :
    Settles attach command (leaveWork session jobs) := by
  induction jobs with
  | nil => exact settles_pure
  | cons job jobs ih =>
      refine settles_bind ?_ fun _ => settles_bind settles_ofAnswer fun _ =>
        ih fun other hother => hjobs other (List.mem_cons_of_mem _ hother)
      intro past hpast
      have hjob := hjobs job List.mem_cons_self
      refine histories_ask ?_ ?_
      · cases job with
        | attachRecording recording => exact absurd hjob (not_callsFor_attachRecording command)
        | _ => exact ⟨hpast, hjob⟩
      · intro answer _
        cases attach <;> rfl

/-- What comes of changing a session is what came of the change on one of the copies of its row. -/
theorem updateSession_settles {α : Type} {change : Session → Session × Option α}
    {past : List Exchange} (hpast : owed attach past = none) :
    Ensures (histories (command.MaySettle attach)) (updateSession session change) past
      (fun result past' => owed attach past' = none ∧
        ∀ outcome, result.2 = some outcome → ∃ base, (change base).2 = some outcome)
      fun _ past' => owed attach past' = none := by
  refine @changeSession_loop α change session _ _ past (fun _ past => owed attach past = none)
    _ _ (maxAttempts - 1) ?_ ?_ ?_ ?_ hpast
  · exact fun base changed past hpast _ => ⟨hpast, nofun⟩
  · exact fun base sent outcome past hpast _ => hpast
  · rintro base sent outcome past updated _ hpast hsent ⟨_, rfl⟩
    refine ⟨owed_aside rfl, fun other hother => ⟨base, ?_⟩⟩
    rw [hsent]
    exact hother
  · rintro base sent outcome past failure _ hpast hsent ⟨_, rfl⟩
    refine ⟨owed_aside rfl, fun _ => ?_⟩
    refine (settles_outcome rfl _ (owed_aside rfl)).mono ?_ fun _ _ hlast => hlast
    rintro (_ | loaded) past' hlast
    · exact hlast
    · exact hlast

theorem applyUpdate_settles {update : StatusUpdate}
    (hreports : ∀ job, update.CallsFor job → command.CallsFor job) :
    Settles attach command (applyUpdate session update) := by
  rw [applyUpdate_eq]
  split
  · exact settles_pure
  · intro past hpast
    refine ensures_bind.mpr ((updateSession_settles hpast).mono ?_ fun _ _ h => h)
    rintro ⟨updated, _ | change⟩ past' ⟨hpast', hchange⟩
    · exact leaveWork_settles (fun _ hjob => absurd hjob List.not_mem_nil) past' hpast'
    · obtain ⟨base, hbase⟩ := hchange change rfl
      refine leaveWork_settles (fun job hjob => hreports job ?_) past' hpast'
      exact Session.callsFor_of_takeOver hbase hjob

theorem findUpdatedCall_settles
    (hreports : ∀ job, (StatusUpdate.ofParams params).CallsFor job → command.CallsFor job) :
    Settles attach command (findUpdatedCall params) :=
  settles_bind (settles_of_touches findCall_touches) fun _ => applyUpdate_settles hreports

theorem keepStep_settles {step : FlowStep} : Settles attach command (keepStep session step) := by
  rw [keepStep]
  refine settles_bind ?_ fun _ => settles_bind ?_ fun _ => ?_
  · rw [keepTurnChange]
    split
    · exact settles_outcome rfl
    · exact settles_outcome rfl
    · exact settles_pure
  · rw [keepNextTurn]
    split
    · exact settles_outcome rfl
    · exact settles_pure
  · split
    · exact settles_pure
    · exact settles_bind (settles_of_touches (updateSession_touches (by decide)))
        fun _ => settles_pure

theorem walk_settles {α : Type} {take : FlowScene → Except FlowError FlowStep}
    {rest : FlowStep → Session → Action α}
    (done : ∀ step kept, Settles attach command (rest step kept)) :
    Settles attach command (do
      let scene ← loadScene tree session
      let step ← Action.ofFlow (take scene)
      let kept ← keepStep session step
      rest step kept) :=
  settles_bind (settles_of_touches loadScene_touches) fun _ =>
    settles_bind (settles_of_touches touches_ofFlow) fun step =>
      settles_bind keepStep_settles fun kept => done step kept

theorem greet_settles : Settles attach command (greet tree session) := by
  rw [greet]
  exact walk_settles fun _ _ => settles_pure

theorem receive_settles (hsid : command.recordingSid? = params.get? "RecordingSid") :
    Settles account.attachRecordings command (receive account session turn params) := by
  rw [receive]
  generalize account.attachRecordings = attach
  refine settles_bind (settles_of_touches requireField_touches) fun sid => ?_
  refine settles_bind (settles_ask rfl) fun answer => settles_bind settles_ofAnswer fun exist => ?_
  split
  · exact settles_pure
  · refine settles_bind (settles_ask rfl) fun id => settles_bind (settles_ask rfl) fun time => ?_
    intro past hpast
    refine ensures_bind.mpr (ensures_ofAnswer.mpr ?_)
    split
    · rename_i recording hrecording
      refine ensures_bind.mpr (histories_ask ⟨hpast, hsid.trans (sid_of_params hrecording)⟩ ?_)
      rintro (failure | _) _
      · have hnone : owed attach (⟨.saveRecording recording, .error failure⟩ :: past) = none := by
          cases attach <;> rfl
        simp only
        split
        · exact hnone
        · exact hnone
      · refine ensures_bind.mpr (histories_ask rfl ?_)
        rintro (failure | _) _
        · change owed attach _ = none
          cases attach <;> rfl
        · change Ensures _ (if attach = true then _ else _) _ _ _
          cases attach with
          | false => rfl
          | true =>
              refine ensures_bind.mpr (histories_ask rfl ?_)
              rintro (failure | _) _ <;> rfl
    · exact hpast

theorem receiveIfAny_settles (hsid : command.recordingSid? = params.get? "RecordingSid") :
    Settles account.attachRecordings command (receiveIfAny account session turn params) := by
  rw [receiveIfAny]
  split
  · exact receive_settles hsid
  · exact settles_pure

end Parts

section Webhooks

theorem inboundCall_settles
    (hreports : ∀ job, (StatusUpdate.ofParams params).CallsFor job → command.CallsFor job) :
    Settles attach command (inboundCall registry name params) := by
  rw [inboundCall]
  refine settles_bind (settles_of_touches findTree_touches) fun tree => ?_
  refine settles_bind (settles_of_touches requireField_touches) fun sid => ?_
  refine settles_bind (settles_ask rfl) fun answer => settles_bind settles_ofAnswer ?_
  rintro (_ | session)
  · exact settles_bind (settles_of_touches (createSession_touches (by decide) (by decide)))
      fun _ => greet_settles
  · exact settles_bind (applyUpdate_settles hreports) fun _ => greet_settles

theorem promptResponse_settles
    (hreports : ∀ job, (StatusUpdate.ofParams params).CallsFor job → command.CallsFor job)
    (hsid : command.recordingSid? = params.get? "RecordingSid") :
    Settles account.attachRecordings command
      (Service.promptResponse account registry name id params) := by
  refine settles_bind (settles_of_touches findTree_touches) fun tree => ?_
  refine settles_bind (findUpdatedCall_settles hreports) fun session => ?_
  refine settles_bind (settles_of_touches findTurn_touches) fun turn => ?_
  refine settles_bind (receiveIfAny_settles hsid) fun received => ?_
  exact walk_settles fun _ _ => settles_pure

theorem timeout_settles
    (hreports : ∀ job, (StatusUpdate.ofParams params).CallsFor job → command.CallsFor job) :
    Settles attach command (Service.timeout registry name id params) := by
  refine settles_bind (settles_of_touches findTree_touches) fun tree => ?_
  refine settles_bind (findUpdatedCall_settles hreports) fun session => ?_
  refine settles_bind (settles_of_touches findTurn_touches) fun turn => ?_
  refine settles_bind (settles_ask rfl) fun answer => settles_bind settles_ofAnswer fun recent => ?_
  exact walk_settles fun _ _ => settles_pure

theorem transcribe_settles (hsid : command.recordingSid? = params.get? "RecordingSid") :
    Settles account.attachRecordings command (transcribe account id params) := by
  refine settles_bind (settles_of_touches findCall_touches) fun session => ?_
  refine settles_bind (settles_of_touches findTurn_touches) fun turn => ?_
  refine settles_bind (receiveIfAny_settles hsid) fun received => ?_
  simp only
  split
  · exact settles_bind (settles_ask rfl) fun _ =>
      settles_bind settles_ofAnswer fun _ => settles_pure
  · exact settles_pure

theorem webhook_settles (entry : Webhook) :
    Settles account.attachRecordings (.webhook entry params)
      (entry.action account registry params) := by
  cases entry with
  | inbound tree =>
      exact settles_bind (inboundCall_settles (fun _ => id)) fun _ => settles_pure
  | outbound tree =>
      refine settles_bind ?_ fun _ => settles_pure
      refine settles_bind (settles_of_touches findTree_touches) fun tree => ?_
      refine settles_bind (findUpdatedCall_settles (fun _ => id)) fun session => ?_
      exact settles_bind greet_settles fun _ => settles_pure
  | prompt tree turn =>
      refine settles_bind ?_ fun _ => settles_pure
      refine settles_bind (settles_of_touches findTree_touches) fun tree => ?_
      refine settles_bind (findUpdatedCall_settles (fun _ => id)) fun session => ?_
      refine settles_bind (settles_of_touches findTurn_touches) fun turn => ?_
      refine settles_bind (settles_of_touches loadScene_touches) fun scene => ?_
      exact settles_bind (settles_of_touches touches_ofFlow) fun _ => settles_pure
  | promptResponse tree turn =>
      exact settles_bind (promptResponse_settles (fun _ => id) rfl) fun _ => settles_pure
  | timeout tree turn =>
      exact settles_bind (timeout_settles (fun _ => id)) fun _ => settles_pure
  | receiveRecording turn =>
      refine settles_bind ?_ fun _ => settles_pure
      refine settles_bind (settles_of_touches findCall_touches) fun session => ?_
      exact settles_bind (settles_of_touches findTurn_touches) fun turn => receive_settles rfl
  | transcribe turn => exact settles_bind (transcribe_settles rfl) fun _ => settles_pure
  | status => exact settles_bind (findUpdatedCall_settles (fun _ => id)) fun _ => settles_pure

end Webhooks

theorem attachRecording_settles {recording : RecordingId} (hjob : command.isWebhook = false) :
    Settles attach command (attachRecording recording) := by
  refine settles_bind (settles_ask rfl) fun answer => settles_bind settles_ofAnswer ?_
  rintro (_ | recording)
  · exact settles_throw
  · simp only
    split
    · exact settles_pure
    · split
      · exact settles_throw
      · refine settles_bind (settles_ask rfl) fun answer =>
          settles_bind (settles_of_touches touches_ofTransport) fun media =>
            settles_bind (settles_ask rfl) ?_
        rintro (error | address)
        · exact settles_throw
        · refine settles_bind ?_ fun _ => settles_ofAnswer
          intro past hpast
          refine histories_ask ⟨hpast, hjob⟩ ?_
          intro answer _
          cases attach <;> rfl

end Service

open PhoneTree.Action Service in
theorem Command.settles (account : Account) (registry : Registry) (command : Command) :
    Settles account.attachRecordings command (command.action account registry) := by
  cases command with
  | webhook entry params => exact webhook_settles entry
  | startCall tree recipient sender machineDetection =>
      exact settles_of_touches (touches_bind
        (startCall_touches (by decide) (by decide) (by decide)) fun _ => touches_pure)
  | sendMessages recipient sender bodies =>
      exact settles_of_touches
        (touches_bind (sendMessages_touches (by decide) (by decide)) fun _ => touches_pure)
  | findCaller number =>
      exact settles_of_touches
        (touches_bind (findOrCreateCaller_touches (by decide)) fun _ => touches_pure)
  | job work =>
      refine settles_bind ?_ fun _ => settles_pure
      cases work with
      | unansweredCall session =>
          exact settles_of_touches (unansweredCall_touches (by decide) (by decide))
      | finishedCall session =>
          exact settles_of_touches (finishedCall_touches (by decide) (by decide))
      | attachRecording recording => exact attachRecording_settles rfl

end PhoneTree

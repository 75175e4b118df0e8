import PhoneTree.Proofs.CallService
import PhoneTree.Proofs.Footprint

namespace PhoneTree.Service

open PhoneTree.Action

variable {parts : List Part} {registry : Registry} {account : Account} {params : Params}
  {session : Session} {tree : Tree}

section Reading

theorem findTree_touches {name : String} : Touches parts (findTree registry name) := by
  rw [findTree]
  split
  · exact touches_pure
  · exact touches_throw

theorem requireField_touches {field : String} : Touches parts (requireField params field) := by
  rw [requireField]
  split
  · exact touches_pure
  · exact touches_throw

theorem findCall_touches : Touches parts (findCall params) := by
  refine touches_bind requireField_touches fun sid => touches_bind (touches_read rfl)
    fun answer => touches_bind touches_ofAnswer ?_
  rintro (_ | session)
  · exact touches_throw
  · exact touches_pure

theorem findSession_touches {id : SessionId} : Touches parts (findSession id) := by
  refine touches_bind (touches_read rfl) fun answer => touches_bind touches_ofAnswer ?_
  rintro (_ | session)
  · exact touches_throw
  · exact touches_pure

theorem findTurn_touches {id : TurnId} : Touches parts (findTurn session id) := by
  refine touches_bind (touches_read rfl) fun answer => touches_bind touches_ofAnswer ?_
  rintro (_ | turn)
  · exact touches_throw
  · simp only
    split
    · exact touches_pure
    · exact touches_throw

theorem loadHistory_touches : Touches parts (loadHistory session) := by
  refine touches_bind (touches_read rfl) fun answer => touches_bind touches_ofAnswer ?_
  intro inboundCalls
  refine touches_bind (touches_read rfl) fun answer => touches_bind touches_ofAnswer ?_
  intro outboundCalls
  refine touches_bind (touches_read rfl) fun answer => touches_bind touches_ofAnswer ?_
  intro turns
  exact touches_pure

theorem loadScene_touches : Touches parts (loadScene tree session) :=
  touches_bind loadHistory_touches fun _ => touches_bind (touches_read rfl) fun _ =>
    touches_bind (touches_read rfl) fun _ => touches_pure

theorem requireNumber_touches {field number : String} :
    Touches parts (requireNumber field number) := by
  rw [requireNumber]
  split
  · exact touches_pure
  · exact touches_throw

theorem requireSender_touches {sender : Option String} :
    Touches parts (requireSender account sender) := by
  cases sender with
  | some number =>
      rw [requireSender]
      exact requireNumber_touches
  | none => exact touches_pure

end Reading

section Writing

variable {α : Type} {change : Session → Session × Option α} {step : FlowStep} {turn : Turn}

theorem touches_store {question : Question} {outcome : question.Answer → Except Failure α}
    {part : Part} (h : question.part? = some part) (hpart : part ∈ parts) :
    Touches parts (ask question >>= fun answer => ofAnswer (outcome answer)) :=
  touches_bind (touches_write h hpart) fun _ => touches_ofAnswer

theorem changeSession_touches (retries : Nat) (hsessions : .sessions ∈ parts) :
    Touches parts (changeSession change retries session) := by
  induction retries using Nat.strongRecOn generalizing session with
  | ind retries ih =>
      rcases hchanged : change session with ⟨changed, _ | outcome⟩
      · rw [changeSession_of_none hchanged]
        exact touches_pure
      · rw [changeSession_of_some hchanged]
        refine touches_bind (touches_write rfl hsessions) ?_
        rintro (error | updated)
        · cases retries with
          | zero => exact touches_throw
          | succ retries =>
              simp only [afterFailure]
              split
              · refine touches_bind (touches_read rfl) fun answer =>
                  touches_bind touches_ofAnswer ?_
                rintro (_ | loaded)
                · exact touches_throw
                · exact ih retries (Nat.lt_succ_self _)
              · exact touches_throw
        · exact touches_pure

theorem updateSession_touches (hsessions : .sessions ∈ parts) :
    Touches parts (updateSession session change) :=
  changeSession_touches _ hsessions

theorem leaveWork_touches {jobs : List Job} (hjobs : .jobs ∈ parts) :
    Touches parts (leaveWork session jobs) := by
  induction jobs with
  | nil => exact touches_pure
  | cons job jobs ih =>
      exact touches_bind (touches_write rfl hjobs) fun _ => touches_bind touches_ofAnswer fun _ => ih

theorem applyUpdate_touches {update : StatusUpdate} (hsessions : .sessions ∈ parts)
    (hjobs : .jobs ∈ parts) : Touches parts (applyUpdate session update) := by
  rw [applyUpdate_eq]
  split
  · exact touches_pure
  · exact touches_bind (updateSession_touches hsessions) fun _ => leaveWork_touches hjobs

theorem findUpdatedCall_touches (hsessions : .sessions ∈ parts) (hjobs : .jobs ∈ parts) :
    Touches parts (findUpdatedCall params) :=
  touches_bind findCall_touches fun _ => applyUpdate_touches hsessions hjobs

theorem keepTurnChange_touches (hturns : .turns ∈ parts) : Touches parts (keepTurnChange step) := by
  rw [keepTurnChange]
  split
  · exact touches_store rfl hturns
  · exact touches_store rfl hturns
  · exact touches_pure

theorem keepNextTurn_touches (hturns : .turns ∈ parts) : Touches parts (keepNextTurn step) := by
  rw [keepNextTurn]
  split
  · exact touches_store rfl hturns
  · exact touches_pure

theorem keepStep_touches (hsessions : .sessions ∈ parts) (hturns : .turns ∈ parts) :
    Touches parts (keepStep session step) := by
  refine touches_bind (keepTurnChange_touches hturns) fun _ =>
    touches_bind (keepNextTurn_touches hturns) fun _ => ?_
  split
  · exact touches_pure
  · exact touches_bind (updateSession_touches hsessions) fun _ => touches_pure

theorem greet_touches (hsessions : .sessions ∈ parts) (hturns : .turns ∈ parts) :
    Touches parts (greet tree session) :=
  touches_bind loadScene_touches fun _ => touches_bind touches_ofFlow fun _ =>
    touches_bind (keepStep_touches hsessions hturns) fun _ => touches_pure

theorem receive_touches (hrecordings : .recordings ∈ parts) (hturns : .turns ∈ parts)
    (hjobs : .jobs ∈ parts) : Touches parts (receive account session turn params) := by
  refine touches_bind requireField_touches fun sid => touches_bind (touches_read rfl)
    fun answer => touches_bind touches_ofAnswer fun exist => ?_
  split
  · exact touches_pure
  · refine touches_bind (touches_read rfl) fun id => touches_bind (touches_read rfl)
      fun time => touches_bind touches_ofAnswer fun recording =>
        touches_bind (touches_write rfl hrecordings) ?_
    rintro (error | _)
    · simp only
      split
      · exact touches_pure
      · exact touches_throw
    · refine touches_bind (touches_write rfl hturns) fun answer =>
        touches_bind touches_ofAnswer ?_
      intro attached
      simp only
      split
      · exact touches_bind (touches_write rfl hjobs) fun answer =>
          touches_bind touches_ofAnswer fun scheduled => touches_pure
      · exact touches_pure

theorem receiveIfAny_touches (hrecordings : .recordings ∈ parts) (hturns : .turns ∈ parts)
    (hjobs : .jobs ∈ parts) : Touches parts (receiveIfAny account session turn params) := by
  rw [receiveIfAny]
  split
  · exact receive_touches hrecordings hturns hjobs
  · exact touches_pure

theorem receiveRecording_touches {id : TurnId} (hrecordings : .recordings ∈ parts)
    (hturns : .turns ∈ parts) (hjobs : .jobs ∈ parts) :
    Touches parts (receiveRecording account id params) :=
  touches_bind findCall_touches fun _ => touches_bind findTurn_touches fun _ =>
    receive_touches hrecordings hturns hjobs

theorem transcribe_touches {id : TurnId} (hrecordings : .recordings ∈ parts)
    (hturns : .turns ∈ parts) (hjobs : .jobs ∈ parts) :
    Touches parts (transcribe account id params) := by
  refine touches_bind findCall_touches fun _ => touches_bind findTurn_touches fun _ =>
    touches_bind (receiveIfAny_touches hrecordings hturns hjobs) fun turn => ?_
  simp only
  split
  · exact touches_bind (touches_write rfl hturns) fun _ =>
      touches_bind touches_ofAnswer fun _ => touches_pure
  · exact touches_pure

theorem findOrCreateCaller_touches {raw : String} (hcallers : .callers ∈ parts) :
    Touches parts (findOrCreateCaller raw) := by
  rw [findOrCreateCaller]
  split
  · exact touches_throw
  · refine touches_bind (touches_read rfl) fun answer => touches_bind touches_ofAnswer ?_
    rintro (_ | caller)
    · refine touches_bind (touches_read rfl) fun id => touches_bind (touches_read rfl) ?_
      intro time
      refine touches_bind (touches_write rfl hcallers) ?_
      rintro (error | _)
      · simp only
        split
        · refine touches_bind (touches_read rfl) fun answer => touches_bind touches_ofAnswer ?_
          rintro (_ | caller)
          · exact touches_throw
          · exact touches_pure
        · exact touches_throw
      · exact touches_pure
    · exact touches_pure

theorem createSession_eq_bind (sid treeName : String) (params : Params)
    (hsessions : .sessions ∈ parts) :
    ∃ rest : Caller → Action Session,
      createSession sid treeName params =
        findOrCreateCaller (CallDetails.ofParams params).fromNumber >>= rest ∧
      ∀ caller, Touches parts (rest caller) := by
  refine ⟨_, rfl, fun caller => ?_⟩
  refine touches_bind (touches_read rfl) fun id => touches_bind (touches_read rfl) fun time =>
    touches_bind touches_ofAnswer fun session => touches_bind (touches_write rfl hsessions) ?_
  rintro (error | _)
  · simp only
    split
    · refine touches_bind (touches_read rfl) fun answer => touches_bind touches_ofAnswer ?_
      rintro (_ | session)
      · exact touches_throw
      · exact touches_pure
    · exact touches_throw
  · exact touches_pure

theorem createSession_touches {sid treeName : String} (hcallers : .callers ∈ parts)
    (hsessions : .sessions ∈ parts) : Touches parts (createSession sid treeName params) := by
  obtain ⟨rest, hcreate, hrest⟩ := createSession_eq_bind sid treeName params hsessions
  rw [hcreate]
  exact touches_bind (findOrCreateCaller_touches hcallers) hrest

end Writing

section Commands

variable {name : String} {id : TurnId}

theorem outboundCall_touches (hsessions : .sessions ∈ parts) (hturns : .turns ∈ parts)
    (hjobs : .jobs ∈ parts) : Touches parts (outboundCall registry name params) :=
  touches_bind findTree_touches fun _ =>
    touches_bind (findUpdatedCall_touches hsessions hjobs) fun _ =>
      touches_bind (greet_touches hsessions hturns) fun _ => touches_pure

theorem prompt_touches (hsessions : .sessions ∈ parts) (hjobs : .jobs ∈ parts) :
    Touches parts (Service.prompt registry name id params) :=
  touches_bind findTree_touches fun _ =>
    touches_bind (findUpdatedCall_touches hsessions hjobs) fun _ =>
      touches_bind findTurn_touches fun _ => touches_bind loadScene_touches fun _ =>
        touches_bind touches_ofFlow fun _ => touches_pure

theorem promptResponse_touches (hsessions : .sessions ∈ parts) (hturns : .turns ∈ parts)
    (hrecordings : .recordings ∈ parts) (hjobs : .jobs ∈ parts) :
    Touches parts (Service.promptResponse account registry name id params) :=
  touches_bind findTree_touches fun _ =>
    touches_bind (findUpdatedCall_touches hsessions hjobs) fun _ =>
      touches_bind findTurn_touches fun _ =>
        touches_bind (receiveIfAny_touches hrecordings hturns hjobs) fun _ =>
          touches_bind loadScene_touches fun _ => touches_bind touches_ofFlow fun _ =>
            touches_bind (keepStep_touches hsessions hturns) fun _ => touches_pure

theorem timeout_touches (hsessions : .sessions ∈ parts) (hturns : .turns ∈ parts)
    (hjobs : .jobs ∈ parts) : Touches parts (Service.timeout registry name id params) :=
  touches_bind findTree_touches fun _ =>
    touches_bind (findUpdatedCall_touches hsessions hjobs) fun _ =>
      touches_bind findTurn_touches fun _ => touches_bind (touches_read rfl) fun _ =>
        touches_bind touches_ofAnswer fun _ => touches_bind loadScene_touches fun _ =>
          touches_bind touches_ofFlow fun _ =>
            touches_bind (keepStep_touches hsessions hturns) fun _ => touches_pure

theorem startCall_touches {recipient : String} {sender : Option String}
    {machineDetection : Bool} (hprovider : .provider ∈ parts) (hcallers : .callers ∈ parts)
    (hsessions : .sessions ∈ parts) :
    Touches parts (startCall account registry name recipient sender machineDetection) := by
  have hnumber : Touches parts (requireNumber "to" recipient) := requireNumber_touches
  rw [startCall]
  generalize requireNumber "to" recipient = number at hnumber ⊢
  refine touches_bind findTree_touches fun tree => touches_bind hnumber fun number =>
    touches_bind requireSender_touches fun sender => touches_bind (touches_write rfl hprovider)
      fun answer => touches_bind touches_ofTransport fun sid => ?_
  refine touches_bind (findOrCreateCaller_touches hcallers) fun caller =>
    touches_bind (touches_read rfl) fun id => touches_bind (touches_read rfl) fun time =>
      touches_bind touches_ofAnswer fun session => ?_
  refine touches_bind (touches_write rfl hsessions) fun answer => ?_
  exact touches_bind touches_ofAnswer fun _ => touches_pure

theorem sendBodies_touches {recipient sender : String} {bodies : List String}
    (hprovider : .provider ∈ parts) : Touches parts (sendBodies recipient sender bodies) := by
  induction bodies with
  | nil => exact touches_pure
  | cons body rest ih =>
      refine touches_bind (touches_write rfl hprovider) ?_
      rintro (error | sid)
      · simp only
        split
        · exact ih
        · exact touches_throw
      · exact touches_bind ih fun sids => touches_pure

theorem sendMessages_touches {recipient : String} {sender : Option String}
    {bodies : List String} (hprovider : .provider ∈ parts) (hcallers : .callers ∈ parts) :
    Touches parts (sendMessages account recipient sender bodies) :=
  touches_bind requireSender_touches fun _ =>
    touches_bind (findOrCreateCaller_touches hcallers) fun _ =>
      touches_bind (sendBodies_touches hprovider) fun _ => touches_pure

theorem runCallback_touches {hook : Hook} {callback : Option LifecycleCallback}
    (hhooks : .hooks ∈ parts) : Touches parts (runCallback hook callback session) := by
  cases callback with
  | none => exact touches_pure
  | some callback =>
      refine touches_bind (touches_write rfl hhooks) ?_
      rintro (error | _)
      · exact touches_throw
      · exact touches_pure

theorem attachRecording_touches {id : RecordingId} (hprovider : .provider ∈ parts)
    (haudio : .audio ∈ parts) (hrecordings : .recordings ∈ parts) :
    Touches parts (attachRecording id) := by
  refine touches_bind (touches_read rfl) fun answer => touches_bind touches_ofAnswer ?_
  rintro (_ | recording)
  · exact touches_throw
  · simp only
    split
    · exact touches_pure
    · split
      · exact touches_throw
      · refine touches_bind (touches_write rfl hprovider) fun answer =>
          touches_bind touches_ofTransport fun media => touches_bind (touches_write rfl haudio) ?_
        rintro (error | address)
        · exact touches_throw
        · exact touches_store rfl hrecordings

theorem finishedCall_touches {id : SessionId} (hsessions : .sessions ∈ parts)
    (hhooks : .hooks ∈ parts) : Touches parts (finishedCall registry id) := by
  refine touches_bind findSession_touches fun session =>
    touches_bind (updateSession_touches hsessions) ?_
  rintro ⟨updated, _ | _⟩
  · exact touches_pure
  · exact touches_bind findTree_touches fun tree => runCallback_touches hhooks

theorem unansweredCall_touches {id : SessionId} (hsessions : .sessions ∈ parts)
    (hhooks : .hooks ∈ parts) : Touches parts (unansweredCall registry id) := by
  refine touches_bind findSession_touches fun session => ?_
  split
  · exact touches_pure
  · refine touches_bind (updateSession_touches hsessions) ?_
    rintro ⟨updated, _ | _⟩
    · exact touches_pure
    · exact touches_bind findTree_touches fun tree => runCallback_touches hhooks

theorem runJob_touches (work : Job) (hsessions : .sessions ∈ parts) (hhooks : .hooks ∈ parts)
    (hprovider : .provider ∈ parts) (haudio : .audio ∈ parts)
    (hrecordings : .recordings ∈ parts) : Touches parts (runJob registry work) := by
  cases work with
  | unansweredCall session => exact unansweredCall_touches hsessions hhooks
  | finishedCall session => exact finishedCall_touches hsessions hhooks
  | attachRecording recording => exact attachRecording_touches hprovider haudio hrecordings

end Commands

end PhoneTree.Service

namespace PhoneTree

open Service PhoneTree.Action

theorem Webhook.touches_known {account : Account} {registry : Registry} {entry : Webhook}
    {params : Params} (h : ∀ tree, entry ≠ .inbound tree) :
    Touches [.sessions, .turns, .recordings, .jobs] (entry.action account registry params) := by
  cases entry with
  | inbound tree => exact absurd rfl (h tree)
  | outbound tree =>
      exact touches_bind (outboundCall_touches (by simp) (by simp) (by simp)) fun _ => touches_pure
  | prompt tree turn => exact touches_bind (prompt_touches (by simp) (by simp)) fun _ => touches_pure
  | promptResponse tree turn =>
      exact touches_bind (promptResponse_touches (by simp) (by simp) (by simp) (by simp))
        fun _ => touches_pure
  | timeout tree turn =>
      exact touches_bind (timeout_touches (by simp) (by simp) (by simp)) fun _ => touches_pure
  | receiveRecording turn =>
      exact touches_bind (receiveRecording_touches (by simp) (by simp) (by simp))
        fun _ => touches_pure
  | transcribe turn =>
      exact touches_bind (transcribe_touches (by simp) (by simp) (by simp)) fun _ => touches_pure
  | status =>
      exact touches_bind (findUpdatedCall_touches (by simp) (by simp)) fun _ => touches_pure

/-- A command that is no webhook leaves turns alone. -/
theorem Command.touches {account : Account} {registry : Registry} {command : Command}
    (hother : command.isWebhook = false) :
    Touches [.sessions, .recordings, .callers, .jobs, .audio, .provider, .hooks]
      (command.action account registry) := by
  cases command with
  | webhook entry params => cases hother
  | startCall tree recipient sender machineDetection =>
      exact touches_bind (startCall_touches (by simp) (by simp) (by simp)) fun _ => touches_pure
  | sendMessages recipient sender bodies =>
      exact touches_bind (sendMessages_touches (by simp) (by simp)) fun _ => touches_pure
  | findCaller number =>
      exact touches_bind (findOrCreateCaller_touches (by simp)) fun _ => touches_pure
  | job work =>
      exact touches_bind
        (runJob_touches work (by simp) (by simp) (by simp) (by simp) (by simp)) fun _ => touches_pure

end PhoneTree

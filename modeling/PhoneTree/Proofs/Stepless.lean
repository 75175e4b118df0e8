import PhoneTree.Proofs.CallService

namespace PhoneTree

namespace Dialogue

variable {Q : Type} {A : Q → Type} {σ α : Type} {rules : Rules Q A σ}

/-- The rules under which any question may be answered in any way. -/
def lenient : Rules Q A Unit where
  MayAsk _ _ := True
  Answers _ _ _ _ := True

theorem Runs.lenient {program : Dialogue Q A α} {state state' : σ} {value : α}
    (run : program.Runs rules state value state') :
    program.Runs Dialogue.lenient () value () := by
  induction run with
  | done => exact .done
  | ask _ _ ih => exact .ask trivial ih

end Dialogue

/-- Whether an error is the failure of a step. -/
def CallError.isOfStep : CallError → Bool
  | flow _ => true
  | _ => false

theorem CallError.ofFailure_isOfStep (error : Failure) : (ofFailure error).isOfStep = false := by
  rw [ofFailure]
  split <;> rfl

namespace Action

variable {σ α β : Type} {rules : Rules Question Question.Answer σ} {state final : σ}
  {action : Action α} {rest : α → Action β} {failure : FlowError}

/-- The action does not end with the failure of a step, whatever it is answered. -/
def Stepless (action : Action α) : Prop :=
  Ensures Dialogue.lenient action () (fun _ _ => True)
    fun error _ => error.isOfStep = false

theorem stepless_pure {value : α} : Stepless (pure value : Action α) :=
  trivial

theorem stepless_throw {error : CallError} (h : error.isOfStep = false) :
    Stepless (throw error : Action α) :=
  h

theorem stepless_ask {question : Question} : Stepless (ask question) :=
  ensures_ask.mpr ⟨trivial, fun _ _ _ => trivial⟩

theorem stepless_ofAnswer {answer : Except Failure α} : Stepless (ofAnswer answer) := by
  cases answer with
  | ok value => exact stepless_pure
  | error error => exact stepless_throw (CallError.ofFailure_isOfStep error)

theorem stepless_bind (first : action.Stepless) (second : ∀ value, (rest value).Stepless) :
    Stepless (action >>= rest) :=
  ensures_bind.mpr (first.mono (fun value _ _ => second value) fun _ _ h => h)

theorem stepless_outcome {question : Question} {outcome : question.Answer → Except Failure α} :
    Stepless (ask question >>= fun answer => ofAnswer (outcome answer)) :=
  stepless_bind stepless_ask fun _ => stepless_ofAnswer

theorem Stepless.not_runs (h : action.Stepless) :
    ¬Runs rules action state (.error (.flow failure)) final := by
  intro run
  have hends := Dialogue.Ensures.of_runs h run.lenient
  change true = false at hends
  cases hends

/-- If an action fails for a step, it has got past everything that takes none. -/
theorem Stepless.passes (h : action.Stepless)
    (failed : Runs rules (action >>= rest) state (.error (.flow failure)) final) :
    ∃ value middle, Runs rules action state (.ok value) middle ∧
      Runs rules (rest value) middle (.error (.flow failure)) final := by
  rcases runs_bind.mp failed with ⟨_, hsame, run⟩ | passed
  · rw [← Except.error.inj hsame] at run
    exact absurd run h.not_runs
  · exact passed

theorem failed_of_bind (after : ∀ value, (rest value).Stepless)
    (failed : Runs rules (action >>= rest) state (.error (.flow failure)) final) :
    Runs rules action state (.error (.flow failure)) final := by
  rcases runs_bind.mp failed with ⟨_, hsame, run⟩ | ⟨value, middle, _, run⟩
  · rwa [← Except.error.inj hsame] at run
  · exact absurd run (after value).not_runs

end Action

namespace Service

open PhoneTree.Action

variable {registry : Registry} {account : Account} {params : Params} {session : Session}
  {tree : Tree} {turn : Turn}

section Stepless

variable {α : Type} {change : Session → Session × Option α} {step : FlowStep}

theorem findTree_stepless {name : String} : Stepless (findTree registry name) := by
  rw [findTree]
  split
  · exact stepless_pure
  · exact stepless_throw rfl

theorem requireField_stepless {field : String} : Stepless (requireField params field) := by
  rw [requireField]
  split
  · exact stepless_pure
  · exact stepless_throw rfl

theorem findCall_stepless : Stepless (findCall params) := by
  refine stepless_bind requireField_stepless fun sid => stepless_bind stepless_ask fun answer =>
    stepless_bind stepless_ofAnswer ?_
  rintro (_ | session)
  · exact stepless_throw rfl
  · exact stepless_pure

theorem findTurn_stepless {id : TurnId} : Stepless (findTurn session id) := by
  refine stepless_bind stepless_ask fun answer => stepless_bind stepless_ofAnswer ?_
  rintro (_ | turn)
  · exact stepless_throw rfl
  · simp only
    split
    · exact stepless_pure
    · exact stepless_throw rfl

theorem loadScene_stepless : Stepless (loadScene tree session) := by
  refine stepless_bind ?_ fun history => stepless_bind stepless_ask fun id =>
    stepless_bind stepless_ask fun time => stepless_pure
  refine stepless_bind stepless_ask fun answer => stepless_bind stepless_ofAnswer ?_
  intro inboundCalls
  refine stepless_bind stepless_ask fun answer => stepless_bind stepless_ofAnswer ?_
  intro outboundCalls
  refine stepless_bind stepless_ask fun answer => stepless_bind stepless_ofAnswer ?_
  intro turns
  exact stepless_pure

theorem updateSession_stepless : Stepless (updateSession session change) := by
  refine @changeSession_loop α change session Unit Dialogue.lenient () (fun _ _ => True) _ _
    (maxAttempts - 1) (fun _ _ _ _ _ => trivial) (fun _ _ _ _ _ _ => trivial)
    (fun _ _ _ _ _ _ _ _ _ => trivial) ?_ trivial
  intro base sent outcome _ error _ _ _ _
  refine ⟨CallError.ofFailure_isOfStep error, fun _ => ?_⟩
  have hread : Stepless (do ofAnswer (← ask (.sessionById sent.id))) := stepless_outcome
  refine hread.mono ?_ ?_
  · rintro (_ | loaded) _ _
    · rfl
    · trivial
  · exact fun _ _ h => h

theorem leaveWork_stepless {jobs : List Job} : Stepless (leaveWork session jobs) := by
  induction jobs with
  | nil => exact stepless_pure
  | cons job jobs ih =>
      exact stepless_bind stepless_ask fun _ => stepless_bind stepless_ofAnswer fun _ => ih

theorem applyUpdate_stepless {update : StatusUpdate} : Stepless (applyUpdate session update) := by
  rw [applyUpdate_eq]
  split
  · exact stepless_pure
  · exact stepless_bind updateSession_stepless fun _ => leaveWork_stepless

theorem findUpdatedCall_stepless : Stepless (findUpdatedCall params) :=
  stepless_bind findCall_stepless fun _ => applyUpdate_stepless

theorem keepStep_stepless : Stepless (keepStep session step) := by
  rw [keepStep]
  refine stepless_bind ?_ fun _ => stepless_bind ?_ fun _ => ?_
  · rw [keepTurnChange]
    split
    · exact stepless_outcome
    · exact stepless_outcome
    · exact stepless_pure
  · rw [keepNextTurn]
    split
    · exact stepless_outcome
    · exact stepless_pure
  · split
    · exact stepless_pure
    · exact stepless_bind updateSession_stepless fun _ => stepless_pure

theorem receive_stepless : Stepless (receive account session turn params) := by
  refine stepless_bind requireField_stepless fun sid => stepless_bind stepless_ask fun answer =>
    stepless_bind stepless_ofAnswer fun exist => ?_
  split
  · exact stepless_pure
  · refine stepless_bind stepless_ask fun id => stepless_bind stepless_ask fun time =>
      stepless_bind stepless_ofAnswer fun recording => stepless_bind stepless_ask ?_
    rintro (error | _)
    · simp only
      split
      · exact stepless_pure
      · exact stepless_throw (CallError.ofFailure_isOfStep error)
    · refine stepless_bind stepless_ask fun answer => stepless_bind stepless_ofAnswer ?_
      intro attached
      simp only
      split
      · exact stepless_bind stepless_ask fun _ => stepless_bind stepless_ofAnswer fun _ =>
          stepless_pure
      · exact stepless_pure

theorem receiveIfAny_stepless : Stepless (receiveIfAny account session turn params) := by
  rw [receiveIfAny]
  split
  · exact receive_stepless
  · exact stepless_pure

theorem receiveRecording_stepless {id : TurnId} :
    Stepless (receiveRecording account id params) :=
  stepless_bind findCall_stepless fun _ => stepless_bind findTurn_stepless fun _ =>
    receive_stepless

theorem transcribe_stepless {id : TurnId} : Stepless (transcribe account id params) := by
  refine stepless_bind findCall_stepless fun session => stepless_bind findTurn_stepless fun turn =>
    stepless_bind receiveIfAny_stepless fun turn => ?_
  simp only
  split
  · exact stepless_bind stepless_ask fun _ => stepless_bind stepless_ofAnswer fun _ => stepless_pure
  · exact stepless_pure

theorem findOrCreateCaller_stepless {raw : String} : Stepless (findOrCreateCaller raw) := by
  rw [findOrCreateCaller]
  split
  · exact stepless_throw rfl
  · refine stepless_bind stepless_ask fun answer => stepless_bind stepless_ofAnswer ?_
    rintro (_ | caller)
    · refine stepless_bind stepless_ask fun id => stepless_bind stepless_ask fun time =>
        stepless_bind stepless_ask ?_
      rintro (error | _)
      · simp only
        split
        · refine stepless_bind stepless_ask fun answer => stepless_bind stepless_ofAnswer ?_
          rintro (_ | caller)
          · exact stepless_throw rfl
          · exact stepless_pure
        · exact stepless_throw (CallError.ofFailure_isOfStep error)
      · exact stepless_pure
    · exact stepless_pure

theorem createSession_stepless {sid treeName : String} :
    Stepless (createSession sid treeName params) := by
  rw [createSession]
  refine stepless_bind findOrCreateCaller_stepless fun caller => stepless_bind stepless_ask fun id =>
    stepless_bind stepless_ask fun time => stepless_bind stepless_ofAnswer fun session =>
      stepless_bind stepless_ask ?_
  rintro (error | _)
  · simp only
    split
    · refine stepless_bind stepless_ask fun answer => stepless_bind stepless_ofAnswer ?_
      rintro (_ | session)
      · exact stepless_throw rfl
      · exact stepless_pure
    · exact stepless_throw (CallError.ofFailure_isOfStep error)
  · exact stepless_pure

end Stepless

end Service

end PhoneTree

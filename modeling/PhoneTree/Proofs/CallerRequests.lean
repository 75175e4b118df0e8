import PhoneTree.Proofs.Callbacks
import PhoneTree.Proofs.CanonicalNumbers
import PhoneTree.Proofs.CommandFootprint

namespace PhoneTree

open Service PhoneTree.Action

/-- A request for the caller of a number, with what it came to. -/
abbrev CallerRequest :=
  String × Except CallError Caller

namespace Dialogue

variable {α : Type} {state state' : OpenWorld} {value : α}
  {program : Dialogue Question Question.Answer α}

/-- What comes next is to look for the caller of a number that is not blank. -/
def SeeksCaller (program : Dialogue Question Question.Answer α) : Prop :=
  ∃ number rest, Text.isBlank number = false ∧
    program = (findOrCreateCaller number).run.bind rest

/-- A run of a program that stores callers only on request, with all the requests for callers that
it makes on the way. -/
inductive Resolves : Dialogue Question Question.Answer α → OpenWorld → List CallerRequest → α →
    OpenWorld → Prop
  | done {value : α} {state : OpenWorld} : Resolves (.done value) state [] value state
  | ask {question : Question} {next : question.Answer → Dialogue Question Question.Answer α}
      {answer : question.Answer} {requests : List CallerRequest} {value : α}
      {state middle state' : OpenWorld} (other : ¬(Dialogue.ask question next).SeeksCaller)
      (keeps : question.part? ≠ some .callers) (answered : state.Answers question answer middle)
      (rest : Resolves (next answer) middle requests value state') :
      Resolves (.ask question next) state requests value state'
  | request {number : String} {result : Except CallError Caller}
      {rest : Except CallError Caller → Dialogue Question Question.Answer α}
      {requests : List CallerRequest} {value : α} {state middle state' : OpenWorld}
      (named : Text.isBlank number = false)
      (ran : Action.Runs OpenWorld.rules (findOrCreateCaller number) state result middle)
      (after : Resolves (rest result) middle requests value state') :
      Resolves ((findOrCreateCaller number).run.bind rest) state ((number, result) :: requests)
        value state'

theorem Resolves.runs {requests : List CallerRequest}
    (h : program.Resolves state requests value state') :
    program.Runs OpenWorld.rules state value state' := by
  induction h with
  | done => exact .done
  | ask other keeps answered rest ih => exact .ask answered ih
  | request named ran after ih => exact runs_bind.mpr ⟨_, _, ran, ih⟩

theorem SeeksCaller.question {question : Question}
    {next : question.Answer → Dialogue Question Question.Answer α}
    (h : (Dialogue.ask question next).SeeksCaller) : ∃ number, question = .callerByNumber number := by
  obtain ⟨number, rest, named, hprogram⟩ := h
  rw [findOrCreateCaller, if_neg (by simp [named])] at hprogram
  exact ⟨_, (Dialogue.ask.inj hprogram).1⟩

theorem AsksOnly.saveCaller {allowed : Question → Prop} (h : program.AsksOnly allowed)
    (seeks : program.SeeksCaller) : ∃ caller, allowed (.saveCaller caller) := by
  obtain ⟨number, rest, named, rfl⟩ := seeks
  rw [findOrCreateCaller, if_neg (by simp [named])] at h
  cases h with
  | ask _ found =>
      cases found (Except.ok none) with
      | ask _ given =>
          cases given (⟨0⟩ : Uuid) with
          | ask _ timed =>
              cases timed (⟨0⟩ : Timestamp) with
              | ask first _ => exact ⟨_, first⟩

theorem AsksOnly.resolves
    (h : program.AsksOnly fun question => question.part? ≠ some .callers)
    (run : program.Runs OpenWorld.rules state value state') :
    program.Resolves state [] value state' := by
  induction run with
  | done => exact .done
  | ask answered rest ih =>
      refine .ask (fun seeks => ?_) ?_ answered (ih ?_)
      · obtain ⟨caller, keeps⟩ := h.saveCaller seeks
        exact keeps rfl
      · cases h with
        | ask keeps _ => exact keeps
      · cases h with
        | ask _ rest => exact rest _

end Dialogue

theorem Service.findOrCreateCaller_of_isBlank {number : String}
    (h : Text.isBlank number = true) :
    findOrCreateCaller number = throw (.validationFailed "phone_number" "cannot be empty") :=
  if_pos h

namespace Action

variable {α β : Type} {wanted : String → Prop}

/-- In every run of the action its requests for callers can be told, and they are for such numbers
only. -/
def SeeksOnly (wanted : String → Prop) (action : Action α) : Prop :=
  ∀ state result state', Runs OpenWorld.rules action state result state' →
    ∃ requests, action.run.Resolves state requests result state' ∧
      ∀ request ∈ requests, wanted request.1

theorem seeksOnly_of_touches (parts : List Part) {action : Action α} (touches : Touches parts action)
    (h : .callers ∉ parts) : SeeksOnly wanted action := by
  intro state result state' run
  refine ⟨[], Dialogue.AsksOnly.resolves ?_ run, nofun⟩
  refine Dialogue.AsksOnly.mono touches ?_
  exact fun question hparts hpart => h (hparts _ hpart)

theorem seeksOnly_throw {error : CallError} : SeeksOnly wanted (throw error : Action α) :=
  seeksOnly_of_touches [] touches_throw List.not_mem_nil

theorem seeksOnly_ask {question : Question} {rest : question.Answer → Action α}
    (other : ∀ number, question ≠ .callerByNumber number)
    (keeps : question.part? ≠ some .callers) (h : ∀ answer, SeeksOnly wanted (rest answer)) :
    SeeksOnly wanted (ask question >>= rest) := by
  intro state result state' run
  cases run with
  | ask answered run =>
      obtain ⟨requests, hresolves, hwanted⟩ := h _ _ _ _ run
      refine ⟨requests, .ask (fun seeks => ?_) keeps answered hresolves, hwanted⟩
      obtain ⟨number, hquestion⟩ := seeks.question
      exact other number hquestion

theorem seeksOnly_ofAnswer {answer : Except Failure α} {rest : α → Action β}
    (h : ∀ value, SeeksOnly wanted (rest value)) :
    SeeksOnly wanted (ofAnswer answer >>= rest) := by
  cases answer with
  | ok value => exact h value
  | error error => exact seeksOnly_throw

theorem seeksOnly_ofTransport {answer : Except TransportError α} {rest : α → Action β}
    (h : ∀ value, SeeksOnly wanted (rest value)) :
    SeeksOnly wanted (ofTransport answer >>= rest) := by
  cases answer with
  | ok value => exact h value
  | error error => exact seeksOnly_throw

theorem seeksOnly_findOrCreateCaller {number : String} {rest : Caller → Action α}
    (hwanted : wanted number) (h : ∀ caller, SeeksOnly wanted (rest caller)) :
    SeeksOnly wanted (findOrCreateCaller number >>= rest) := by
  cases hblank : Text.isBlank number with
  | true =>
      rw [findOrCreateCaller_of_isBlank hblank]
      exact seeksOnly_throw
  | false =>
      intro state result state' run
      obtain ⟨found, middle, hfound, hrest⟩ := Dialogue.runs_bind.mp run
      cases found with
      | error error =>
          cases hrest
          refine ⟨[(number, .error error)], .request hblank hfound .done, ?_⟩
          exact List.forall_mem_singleton.mpr hwanted
      | ok caller =>
          obtain ⟨requests, hresolves, hall⟩ := h caller _ _ _ hrest
          refine ⟨(number, .ok caller) :: requests, .request hblank hfound hresolves, ?_⟩
          exact List.forall_mem_cons.mpr ⟨hwanted, hall⟩

end Action

namespace Service

open PhoneTree.Action

variable {α : Type} {wanted : String → Prop} {registry : Registry} {account : Account}
  {params : Params} {tree : Tree}

theorem seeksOnly_given {β : Type} {action : Action β} {rest : β → Action α}
    (h : (∃ value, action = pure value) ∨ ∃ error, action = throw error)
    (given : ∀ value, action = pure value → SeeksOnly wanted (rest value)) :
    SeeksOnly wanted (action >>= rest) := by
  rcases h with ⟨value, rfl⟩ | ⟨error, rfl⟩
  · exact given value rfl
  · exact seeksOnly_throw

theorem findTree_seeksOnly {name : String} {rest : Tree → Action α}
    (h : ∀ tree, SeeksOnly wanted (rest tree)) :
    SeeksOnly wanted (findTree registry name >>= rest) :=
  seeksOnly_given (findTree_eq registry name) fun tree _ => h tree

theorem requireField_seeksOnly {field : String} {rest : String → Action α}
    (h : ∀ value, SeeksOnly wanted (rest value)) :
    SeeksOnly wanted (requireField params field >>= rest) :=
  seeksOnly_given (requireField_eq params field) fun value _ => h value

theorem requireSender_seeksOnly {sender : Option String} {rest : String → Action α}
    (h : ∀ number, SeeksOnly wanted (rest number)) :
    SeeksOnly wanted (requireSender account sender >>= rest) :=
  seeksOnly_given (requireSender_eq account sender) fun number _ => h number

theorem normalize_of_requireNumber {field number canonical : String}
    (h : requireNumber field number = pure canonical) :
    PhoneNumber.normalize number = some canonical := by
  rcases hnumber : PhoneNumber.normalize number with _ | other
  · rw [requireNumber, hnumber] at h
    cases h
  · rw [requireNumber, hnumber] at h
    cases h
    rfl

variable {parts : List Part}

theorem inboundCall_seeksOnly {name : String} {rest : Session × Reply → Action α}
    (hwanted : wanted (CallDetails.ofParams params).fromNumber)
    (h : ∀ greeted, Touches [.sessions, .turns, .jobs] (rest greeted)) :
    SeeksOnly wanted (inboundCall registry name params >>= rest) := by
  rw [inboundCall, bind_assoc]
  refine findTree_seeksOnly fun tree => ?_
  rw [bind_assoc]
  refine requireField_seeksOnly fun sid => ?_
  rw [bind_assoc]
  refine seeksOnly_ask (by simp) (by simp [Question.part?]) fun answer => ?_
  rw [bind_assoc]
  refine seeksOnly_ofAnswer ?_
  have hgreet : ∀ session, Touches [.sessions, .turns, .jobs] (greet tree session >>= rest) :=
    fun session => touches_bind (greet_touches (by simp) (by simp)) h
  rintro (_ | session)
  · have hsessions : Part.sessions ∈ [Part.sessions, .turns, .jobs] := by simp
    obtain ⟨create, hcreate, hcreates⟩ := createSession_eq_bind sid tree.name params hsessions
    change SeeksOnly wanted ((createSession sid tree.name params >>= greet tree) >>= rest)
    rw [hcreate, bind_assoc, bind_assoc]
    refine seeksOnly_findOrCreateCaller hwanted fun caller => ?_
    exact seeksOnly_of_touches _ (touches_bind (hcreates caller) hgreet) (by decide)
  · change SeeksOnly wanted ((applyUpdate session (.ofParams params) >>= greet tree) >>= rest)
    rw [bind_assoc]
    exact seeksOnly_of_touches _
      (touches_bind (applyUpdate_touches (by simp) (by simp)) hgreet) (by decide)

theorem startCall_seeksOnly {name recipient : String} {sender : Option String}
    {machineDetection : Bool} {rest : Session → Action α}
    (hwanted : ∀ canonical, PhoneNumber.normalize recipient = some canonical → wanted canonical)
    (h : ∀ session, Touches [.sessions] (rest session)) :
    SeeksOnly wanted
      (startCall account registry name recipient sender machineDetection >>= rest) := by
  have hnumber := requireNumber_eq "to" recipient
  have hcanonical : ∀ canonical, requireNumber "to" recipient = pure canonical →
      wanted canonical := fun canonical hpure => hwanted canonical (normalize_of_requireNumber hpure)
  rw [startCall]
  generalize requireNumber "to" recipient = number at hnumber hcanonical ⊢
  rw [bind_assoc]
  refine findTree_seeksOnly fun tree => ?_
  rw [bind_assoc]
  refine seeksOnly_given hnumber fun canonical hpure => ?_
  rw [bind_assoc]
  refine requireSender_seeksOnly fun sender => ?_
  rw [bind_assoc]
  refine seeksOnly_ask (by simp) (by simp [Question.part?]) fun answer => ?_
  rw [bind_assoc]
  refine seeksOnly_ofTransport fun sid => ?_
  rw [bind_assoc]
  refine seeksOnly_findOrCreateCaller (hcanonical canonical hpure) fun caller =>
    seeksOnly_of_touches [.sessions] (touches_bind ?_ h) (by decide)
  refine touches_bind (touches_read rfl) fun id => touches_bind (touches_read rfl) fun time =>
    touches_bind touches_ofAnswer fun session => touches_bind (touches_write rfl (by simp)) ?_
  exact fun answer => touches_bind touches_ofAnswer fun _ => touches_pure

theorem sendMessages_seeksOnly {recipient : String} {sender : Option String}
    {bodies : List String} {rest : Caller × List String → Action α} (hwanted : wanted recipient)
    (h : ∀ sent, Touches [.provider] (rest sent)) :
    SeeksOnly wanted (sendMessages account recipient sender bodies >>= rest) := by
  rw [sendMessages, bind_assoc]
  refine requireSender_seeksOnly fun sender => ?_
  rw [bind_assoc]
  refine seeksOnly_findOrCreateCaller hwanted fun caller =>
    seeksOnly_of_touches [.provider] (touches_bind ?_ h) (by decide)
  exact touches_bind (sendBodies_touches (by simp)) fun sids => touches_pure

end Service

/-- The number of whoever a command is about, if it may be new. -/
def Command.callerNumber? : Command → Option String
  | webhook (.inbound _) params => some (CallDetails.ofParams params).fromNumber
  | startCall _ recipient _ _ => some recipient
  | sendMessages recipient _ _ => some recipient
  | findCaller number => some number
  | webhook _ _ | job _ => none

/-- A request by which a command asks for the caller that it is about. -/
def Command.Seeks (command : Command) (number : String) : Prop :=
  ∃ raw, command.callerNumber? = some raw ∧ PhoneNumber.key number = PhoneNumber.key raw

/-- Every command stores callers only on request, and asks for nobody but whom it is about. -/
theorem Command.seeksOnly (account : Account) (registry : Registry) (command : Command) :
    Action.SeeksOnly command.Seeks (command.action account registry) := by
  cases command with
  | webhook entry params =>
      by_cases hinbound : ∃ tree, entry = .inbound tree
      · obtain ⟨tree, rfl⟩ := hinbound
        exact inboundCall_seeksOnly ⟨_, rfl, rfl⟩ fun _ => touches_pure
      · exact seeksOnly_of_touches _ (Webhook.touches_known (not_exists.mp hinbound)) (by decide)
  | startCall tree recipient sender machineDetection =>
      refine startCall_seeksOnly (fun canonical hcanonical => ?_) fun _ => touches_pure
      refine ⟨_, rfl, ?_⟩
      rw [PhoneNumber.key_of_normalize hcanonical,
        PhoneNumber.key_of_normalize (PhoneNumber.normalize_normalize hcanonical)]
  | sendMessages recipient sender bodies =>
      exact sendMessages_seeksOnly ⟨_, rfl, rfl⟩ fun _ => touches_pure
  | findCaller number =>
      exact seeksOnly_findOrCreateCaller ⟨_, rfl, rfl⟩ fun _ =>
        seeksOnly_of_touches [] touches_pure List.not_mem_nil
  | job work =>
      refine seeksOnly_of_touches [.sessions, .hooks, .provider, .audio, .recordings] ?_
        (by decide)
      exact touches_bind (runJob_touches work (by simp) (by simp) (by simp) (by simp) (by simp))
        fun _ => touches_pure

/-- Commands done one after another, each with what it came to, and all the requests for callers
that they made. -/
inductive Resolved (account : Account) (registry : Registry) (start : OpenWorld) :
    List (Command × Except CallError Outcome) → List CallerRequest → OpenWorld → Prop
  | nothing : Resolved account registry start [] [] start
  | stir {served : List (Command × Except CallError Outcome)} {requests : List CallerRequest}
      {state : OpenWorld} (due : Nat)
      (before : Resolved account registry start served requests state) :
      Resolved account registry start served requests (state.withConflicts due)
  | serve {served : List (Command × Except CallError Outcome)} {requests made : List CallerRequest}
      {command : Command} {result : Except CallError Outcome} {state state' : OpenWorld}
      (before : Resolved account registry start served requests state)
      (resolves : (command.action account registry).run.Resolves state made result state') :
      Resolved account registry start (served ++ [(command, result)]) (requests ++ made) state'

section Resolved

variable {account : Account} {registry : Registry} {start state : OpenWorld}
  {served : List (Command × Except CallError Outcome)} {requests : List CallerRequest}

theorem Resolved.toServed (h : Resolved account registry start served requests state) :
    Served account registry .any start served state := by
  induction h with
  | nothing => exact .nothing
  | stir due before ih => exact .stir ih ⟨due, rfl⟩
  | serve before resolves ih => exact .serve ih trivial resolves.runs

/-- The requests for callers can be told in every run, and each is for whom a command is about. -/
theorem Served.exists_resolved (run : Served account registry .any start served state) :
    ∃ requests, Resolved account registry start served requests state ∧
      ∀ request ∈ requests, ∃ command ∈ served.map Prod.fst, command.Seeks request.1 := by
  induction run with
  | nothing => exact ⟨[], .nothing, nofun⟩
  | stir before stirred ih =>
      obtain ⟨due, rfl⟩ := stirred
      obtain ⟨requests, hresolved, hseeks⟩ := ih
      exact ⟨requests, .stir due hresolved, hseeks⟩
  | @serve served command result state state' before admitted run ih =>
      obtain ⟨requests, hresolved, hseeks⟩ := ih
      obtain ⟨made, hresolves, hmade⟩ := command.seeksOnly account registry _ _ _ run
      refine ⟨requests ++ made, .serve hresolved hresolves, ?_⟩
      intro request hrequest
      rw [List.map_append]
      rcases List.mem_append.mp hrequest with hrequest | hrequest
      · obtain ⟨other, hother, hseek⟩ := hseeks request hrequest
        exact ⟨other, List.mem_append_left _ hother, hseek⟩
      · exact ⟨command, List.mem_append_right _ (by simp), hmade request hrequest⟩

end Resolved

end PhoneTree

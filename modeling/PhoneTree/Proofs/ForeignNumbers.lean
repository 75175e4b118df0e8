import PhoneTree.Proofs.CallerIdentity
import PhoneTree.Proofs.TurnConduct

namespace PhoneTree

open Service PhoneTree.Action

namespace PhoneNumber

variable {raw other number : String}

/-- The text begins with a plus sign, and its digits do not begin with the country code `1`. -/
def IsForeign (raw : String) : Prop :=
  (raw.toList.dropWhile Text.isSpace).head? = some '+' ∧ (digits raw).head? ≠ some '1'

instance (raw : String) : Decidable (IsForeign raw) :=
  inferInstanceAs (Decidable (_ ∧ _))

theorem IsForeign.normalize_eq (foreign : IsForeign raw) :
    normalize raw =
      if (digits raw).length = 10 then some (.ofList ('+' :: '1' :: digits raw)) else none := by
  rw [PhoneNumber.normalize_eq]
  simp [foreign.2]

theorem key_ne_key (none : normalize raw = none) (some : normalize other = some number) :
    key raw ≠ key other := by
  rw [key_of_none none, key_of_normalize some]
  rintro rfl
  rw [← normalize_trim raw, normalize_normalize some] at none
  cases none

/-- A number that is not taken for one at home: callers are turned away by a tree that has words for
it, no call is placed to it, and its caller is nobody whose number has a canonical form. -/
structure KeptOut (raw : String) : Prop where
  noForm : normalize raw = none
  turnedAway : ∀ (tree : Tree) (session : Session) (messages : MessageSet),
    session.details.fromNumber = raw → tree.config.invalidPhoneNumber = some messages →
    ∀ state result state', Runs OpenWorld.rules (greet tree session) state result state' →
      state'.store = state.store ∧ ∃ scene : FlowScene, scene.tree = tree ∧
        result = ((scene.render (scene.context session .none) messages).map fun verbs =>
          (session, ⟨⟨verbs ++ [⟨.hangup, [], none, []⟩]⟩, .invalidPhoneNumber⟩)).mapError .flow
  notDialled : ∀ account registry name sender machineDetection state result state',
    Runs OpenWorld.rules (startCall account registry name raw sender machineDetection) state
        result state' ↔
      result = .error (if (registry.get? name).isSome then
        .validationFailed "to" s!"'{raw}' is not a valid phone number" else .treeNotFound name) ∧
      state' = state
  apart : ∀ account registry (start : OpenWorld) served requests state, start.store = {} →
    Resolved account registry start served requests state → ∀ other caller another,
      (normalize other).isSome = true → (raw, .ok caller) ∈ requests →
        (other, .ok another) ∈ requests → caller.id ≠ another.id

end PhoneNumber

namespace FlowScene

variable {scene : FlowScene} {session : Session} {messages : MessageSet}

theorem onGreeting_of_words (words : scene.tree.config.invalidPhoneNumber = some messages) :
    scene.onGreeting session false =
      (scene.render (scene.context session none) messages).map fun verbs =>
        { response := ⟨verbs ++ [.hangup]⟩, outcome := .invalidPhoneNumber } := by
  simp only [onGreeting, words]
  cases scene.render (scene.context session none) messages <;> rfl

end FlowScene

namespace Service

variable {account : Account} {registry : Registry} {name recipient : String}
  {sender : Option String} {machineDetection : Bool} {state state' : OpenWorld}

theorem startCall_of_invalid (invalid : PhoneNumber.normalize recipient = none) :
    startCall account registry name recipient sender machineDetection =
      throw (if (registry.get? name).isSome then
        .validationFailed "to" s!"'{recipient}' is not a valid phone number"
      else .treeNotFound name) := by
  rw [startCall, findTree, requireNumber, invalid]
  cases registry.get? name <;> rfl

/-- A call from an invalid number is answered with the words that the tree has for it and is over;
nothing is stored. -/
theorem greet_of_invalid {tree : Tree} {session : Session} {messages : MessageSet}
    {result : Except CallError (Session × Reply)}
    (invalid : PhoneNumber.isValid session.details.fromNumber = false)
    (words : tree.config.invalidPhoneNumber = some messages)
    (run : Runs OpenWorld.rules (greet tree session) state result state') :
    state'.store = state.store ∧ ∃ scene : FlowScene, scene.tree = tree ∧
      result = ((scene.render (scene.context session none) messages).map fun verbs =>
        (session, ⟨⟨verbs ++ [⟨.hangup, [], none, []⟩]⟩, .invalidPhoneNumber⟩)).mapError .flow := by
  rw [greet, invalid] at run
  rcases runs_bind.mp run with ⟨error, _, failed⟩ | ⟨scene, middle, loaded, taken⟩
  · obtain ⟨scene, hscene, _⟩ := loadScene_runs failed
    cases hscene
  · obtain ⟨_, hscene, rfl, _, hstore⟩ := loadScene_runs loaded
    obtain rfl := Except.ok.inj hscene
    rw [FlowScene.onGreeting_of_words words] at taken
    have hends : result = ((scene.render (scene.context session none) messages).map fun verbs =>
        (session, ⟨⟨verbs ++ [⟨.hangup, [], none, []⟩]⟩, .invalidPhoneNumber⟩)).mapError .flow ∧
          state' = middle := by
      revert taken
      cases scene.render (scene.context session none) messages with
      | error failure => exact runs_throw.mp
      | ok verbs => exact runs_pure.mp
    obtain ⟨hresult, rfl⟩ := hends
    exact ⟨hstore, scene, rfl, hresult⟩

end Service

theorem PhoneNumber.keptOut_of_normalize {raw : String} (none : normalize raw = none) :
    KeptOut raw where
  noForm := none
  turnedAway := by
    rintro tree session messages rfl words state result state' run
    exact greet_of_invalid (by rw [isValid, none]; rfl) words run
  notDialled := by
    intro account registry name sender machineDetection state result state'
    rw [startCall_of_invalid none]
    exact runs_throw
  apart := by
    intro account registry start served requests state empty resolved other caller another some
      hcaller hanother hid
    obtain ⟨number, hnumber⟩ := Option.isSome_iff_exists.mp some
    have hgoes := (resolved.acquainted empty).goesByKeys
    exact key_ne_key none hnumber ((hgoes.same _ _ _ _ hcaller hanother).mp hid)

/-- A foreign number is kept out unless it has ten digits. One with ten digits is taken for the
number at home that has the same digits. -/
theorem foreign_numbers_are_kept_out {raw : String} (foreign : PhoneNumber.IsForeign raw) :
    ((PhoneNumber.digits raw).length ≠ 10 → PhoneNumber.KeptOut raw) ∧
      ((PhoneNumber.digits raw).length = 10 → PhoneNumber.normalize raw =
        some (.ofList ('+' :: '1' :: PhoneNumber.digits raw))) := by
  have hform := foreign.normalize_eq
  constructor
  · intro hlength
    rw [if_neg hlength] at hform
    exact PhoneNumber.keptOut_of_normalize hform
  · intro hlength
    rw [if_pos hlength] at hform
    exact hform

section Visitors

/-- A tree with words for callers whose number is invalid. -/
def turnAwayTree : Tree where
  name := "main"
  config := { invalidPhoneNumber := some (.ofText "You are calling from outside North America.") }
  greeting := .hangup
  prompts := []

/-- How a call from a number is greeted. -/
def greetingFor (number : String) : Option StepOutcome :=
  (World.perform (inboundCall ⟨[turnAwayTree]⟩ "main" ⟨[("CallSid", "CA0"), ("From", number)]⟩)
    {}).1.toOption.map fun greeted => greeted.2.outcome

/-- The numbers that are called when a call to a number is to be placed. -/
def dialledFor (number : String) : List String :=
  (World.perform (startCall default ⟨[turnAwayTree]⟩ "main" number none false)
    {}).2.provider.calls.map (·.recipient)

/-- The numbers of callers after a call from a number and one from a number at home. -/
def callersFor (number : String) : List String :=
  (World.serve default ⟨[]⟩ [.findCaller number, .findCaller "(656) 123-4567"]
    {}).2.store.callers.map (·.number)

def londonNumber : String :=
  " +44 20 7183 8750"

theorem londonNumber_is_kept_out :
    PhoneNumber.KeptOut londonNumber ∧ greetingFor londonNumber = some .invalidPhoneNumber ∧
      dialledFor londonNumber = [] ∧
        callersFor londonNumber = ["+44 20 7183 8750", "+16561234567"] := by
  refine ⟨(foreign_numbers_are_kept_out (by decide)).1 (by decide), ?_, ?_, ?_⟩
  · decide +kernel
  · decide +kernel
  · decide +kernel

/-- The country code of Singapore and eight digits. -/
def singaporeNumber : String :=
  "+6561234567"

/-- It has ten digits, and so it is greeted, called and known as a number at home. -/
theorem singaporeNumber_is_taken_for_another :
    PhoneNumber.IsForeign singaporeNumber ∧
      PhoneNumber.normalize singaporeNumber = some "+16561234567" ∧
        greetingFor singaporeNumber = some .hangup ∧
          dialledFor singaporeNumber = ["+16561234567"] ∧
            callersFor singaporeNumber = ["+16561234567"] := by
  refine ⟨by decide, by decide, ?_, ?_, ?_⟩
  · decide +kernel
  · decide +kernel
  · decide +kernel

end Visitors

end PhoneTree

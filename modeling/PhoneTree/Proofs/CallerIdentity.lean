import Mathlib.Data.List.Dedup
import PhoneTree.Proofs.CallerRequests
import PhoneTree.Proofs.Coherence

namespace PhoneTree

open Service PhoneTree.Action

namespace OpenWorld

variable {state state' : OpenWorld} {number : String} {caller : Caller}

/-- What a request for the caller of a number comes to: someone known, or someone who is stored last
under a new identifier. -/
inductive Finds (state : OpenWorld) (number : String) : Caller → OpenWorld → Prop
  | known {caller : Caller}
      (found : state.store.callerByNumber (PhoneNumber.key number) = some caller) :
      Finds state number caller state
  | new {caller : Caller} {state' : OpenWorld}
      (absent : state.store.callerByNumber (PhoneNumber.key number) = none)
      (keyed : caller.number = PhoneNumber.key number) (fresh : caller.id.uuid ∉ state.drawn)
      (callers : state'.store.callers = state.store.callers ++ [caller])
      (drawn : caller.id.uuid ∈ state'.drawn) : Finds state number caller state'

theorem answers_saveCaller_new {answer : Except Failure Unit}
    (absent : state.store.callerByNumber caller.number = none)
    (h : state.Answers (.saveCaller caller) answer state') :
    answer = .ok () ∧
      state' = state.withStore
        { state.store with callers := state.store.callers ++ [caller] } := by
  have hfree : (state.world.store.callers.any fun other => other.number == caller.number) =
      false := by
    rw [List.any_eq_false]
    exact List.find?_eq_none.mp absent
  obtain ⟨rfl, rfl⟩ := h
  simp only [World.answer, Store.saveCaller, hfree]
  exact ⟨rfl, rfl⟩

theorem runs_callerByNumber {α : Type} {rest : Option Caller → Action α}
    {result : Except CallError α} :
    Action.Runs rules (ask (.callerByNumber number) >>= fun answer => ofAnswer answer >>= rest)
        state result state' ↔
      Action.Runs rules (rest (state.store.callerByNumber number)) state result state' :=
  runs_given (fun _ _ => Iff.rfl) rfl

theorem runs_known (named : Text.isBlank number = false)
    (found : state.store.callerByNumber (PhoneNumber.key number) = some caller)
    {result : Except CallError Caller} :
    Action.Runs rules (findOrCreateCaller number) state result state' ↔
      result = .ok caller ∧ state' = state := by
  rw [findOrCreateCaller, if_neg (by simp [named])]
  refine runs_callerByNumber.trans ?_
  rw [found]
  exact runs_pure

theorem finds_of_runs (named : Text.isBlank number = false) {result : Except CallError Caller}
    (run : Action.Runs rules (findOrCreateCaller number) state result state') :
    ∃ caller, result = .ok caller ∧ state.Finds number caller state' := by
  cases hfound : state.store.callerByNumber (PhoneNumber.key number) with
  | some caller =>
      obtain ⟨rfl, rfl⟩ := (runs_known named hfound).mp run
      exact ⟨caller, rfl, .known hfound⟩
  | none =>
      rw [findOrCreateCaller, if_neg (by simp [named])] at run
      -- From here on the key stands for itself, so that nothing looks into how it is made.
      obtain ⟨key, hkey⟩ : ∃ key, key = PhoneNumber.key number := ⟨_, rfl⟩
      rw [← hkey] at run hfound
      replace run := runs_callerByNumber.mp run
      rw [hfound] at run
      obtain ⟨id, _, ⟨hfresh, nextId, rfl⟩, run⟩ := runs_ask_bind.mp run
      obtain ⟨time, _, ⟨clock, rfl⟩, run⟩ := runs_ask_bind.mp run
      obtain ⟨answer, _, saved, run⟩ := runs_ask_bind.mp run
      obtain ⟨rfl, rfl⟩ := answers_saveCaller_new hfound saved
      obtain ⟨rfl, rfl⟩ := runs_pure.mp run
      rw [hkey] at hfound
      exact ⟨_, rfl, .new hfound hkey hfresh rfl List.mem_cons_self⟩

/-- Callers are told apart by their numbers and by their identifiers, and they are those that were
asked for. -/
structure Acquainted (state : OpenWorld) (requests : List CallerRequest) : Prop where
  numbers : (state.store.callers.map (·.number)).Nodup
  ids : (state.store.callers.map (·.id)).Nodup
  drawn : ∀ caller ∈ state.store.callers, caller.id.uuid ∈ state.drawn
  answered : ∀ request ∈ requests, Text.isBlank request.1 = false ∧
    ∃ caller ∈ state.store.callers,
      request.2 = .ok caller ∧ caller.number = PhoneNumber.key request.1
  asked : ∀ caller ∈ state.store.callers, ∃ request ∈ requests,
    PhoneNumber.key request.1 = caller.number

variable {requests : List CallerRequest}

theorem acquainted_of_empty (empty : state.store = {}) : state.Acquainted [] := by
  have hnobody : ∀ caller, caller ∉ state.store.callers := by
    rw [empty]
    exact fun caller => List.not_mem_nil
  constructor
  case numbers | ids =>
    rw [empty]
    exact List.nodup_nil
  case drawn | asked => exact fun caller hcaller => absurd hcaller (hnobody caller)
  case answered => exact fun request hrequest => absurd hrequest List.not_mem_nil

namespace Acquainted

/-- Nothing but the callers and the identifiers that were given out counts. -/
theorem of_same (h : state.Acquainted requests)
    (callers : state'.store.callers = state.store.callers) (drawn : state.drawn ⊆ state'.drawn) :
    state'.Acquainted requests := by
  constructor
  case drawn =>
    rw [callers]
    exact fun caller hcaller => drawn (h.drawn caller hcaller)
  all_goals rw [callers]
  exacts [h.numbers, h.ids, h.answered, h.asked]

theorem asked_append (h : state.Acquainted requests) (more : List CallerRequest) :
    ∀ caller ∈ state.store.callers, ∃ request ∈ requests ++ more,
      PhoneNumber.key request.1 = caller.number := by
  intro caller hcaller
  obtain ⟨request, hrequest, hkey⟩ := h.asked caller hcaller
  exact ⟨request, List.mem_append_left more hrequest, hkey⟩

theorem known (h : state.Acquainted requests) (named : Text.isBlank number = false)
    (found : state.store.callerByNumber (PhoneNumber.key number) = some caller) :
    state.Acquainted (requests ++ [(number, .ok caller)]) := by
  have hcaller := List.mem_of_find?_eq_some found
  have hnumber := List.find?_some found
  refine ⟨h.numbers, h.ids, h.drawn, ?_, h.asked_append _⟩
  refine List.forall_mem_append.mpr ⟨h.answered, List.forall_mem_singleton.mpr ?_⟩
  exact ⟨named, caller, hcaller, rfl, eq_of_beq hnumber⟩

theorem new (h : state.Acquainted requests) (named : Text.isBlank number = false)
    (drawn : state.drawn ⊆ state'.drawn)
    (absent : state.store.callerByNumber (PhoneNumber.key number) = none)
    (keyed : caller.number = PhoneNumber.key number) (fresh : caller.id.uuid ∉ state.drawn)
    (callers : state'.store.callers = state.store.callers ++ [caller])
    (given : caller.id.uuid ∈ state'.drawn) :
    state'.Acquainted (requests ++ [(number, .ok caller)]) := by
  have hlast : caller ∈ state.store.callers ++ [caller] := List.mem_concat_self
  constructor
  case numbers =>
    rw [callers]
    refine Store.nodup_map_append h.numbers ?_
    intro other hother hsame
    rw [keyed] at hsame
    exact List.find?_eq_none.mp absent other hother (beq_iff_eq.mpr hsame)
  case ids =>
    rw [callers]
    refine Store.nodup_map_append h.ids ?_
    intro other hother hsame
    exact fresh (hsame ▸ h.drawn other hother)
  case drawn =>
    rw [callers]
    refine List.forall_mem_append.mpr ⟨?_, List.forall_mem_singleton.mpr given⟩
    exact fun other hother => drawn (h.drawn other hother)
  case answered =>
    rw [callers]
    refine List.forall_mem_append.mpr ⟨?_, List.forall_mem_singleton.mpr ?_⟩
    · intro request hrequest
      obtain ⟨hnamed, known, hknown, hresult⟩ := h.answered request hrequest
      exact ⟨hnamed, known, List.mem_append_left _ hknown, hresult⟩
    · exact ⟨named, caller, hlast, rfl, keyed⟩
  case asked =>
    rw [callers]
    refine List.forall_mem_append.mpr ⟨h.asked_append _, List.forall_mem_singleton.mpr ?_⟩
    exact ⟨(number, .ok caller), List.mem_concat_self, keyed.symm⟩

theorem finds (h : state.Acquainted requests) (named : Text.isBlank number = false)
    (drawn : state.drawn ⊆ state'.drawn) (found : state.Finds number caller state') :
    state'.Acquainted (requests ++ [(number, .ok caller)]) := by
  cases found with
  | known found => exact h.known named found
  | new absent keyed fresh callers given =>
      exact h.new named drawn absent keyed fresh callers given

/-- Over a run callers stay what they are, and every request on the way is one more for somebody. -/
theorem resolves {α : Type} {program : Dialogue Question Question.Answer α} {value : α}
    {before : List CallerRequest} (h : state.Acquainted before)
    (run : program.Resolves state requests value state') :
    state'.Acquainted (before ++ requests) := by
  induction run generalizing before with
  | done =>
      rw [List.append_nil]
      exact h
  | ask other keeps answered rest ih =>
      refine ih (h.of_same (answers_callers answered keeps) ?_)
      rw [(answers_drawn answered).1]
      exact List.subset_append_right _ _
  | request named ran after ih =>
      obtain ⟨caller, rfl, hfinds⟩ := finds_of_runs named ran
      have hnext := ih (h.finds named (drawn_of_runs ran) hfinds)
      rw [List.append_assoc] at hnext
      exact hnext

theorem callerByNumber (h : state.Acquainted requests) (hcaller : caller ∈ state.store.callers) :
    state.store.callerByNumber caller.number = some caller :=
  find_of_nodup h.numbers hcaller

end Acquainted

/-- The requests of a run know callers by the keys of numbers: each comes to the caller of the key,
two come to the same one just when the keys are the same, asking for the number that a caller is
stored with gives that caller and changes nothing, and there are as many callers as keys. -/
structure GoesByKeys (state : OpenWorld) (requests : List CallerRequest) : Prop where
  answered : ∀ number result, (number, result) ∈ requests →
    ∃ caller, result = .ok caller ∧ caller.number = PhoneNumber.key number
  same : ∀ number caller other another, (number, .ok caller) ∈ requests →
    (other, .ok another) ∈ requests →
      (caller.id = another.id ↔ PhoneNumber.key number = PhoneNumber.key other)
  again : ∀ number caller, (number, .ok caller) ∈ requests → ∀ result state',
    Action.Runs rules (findOrCreateCaller caller.number) state result state' ↔
      result = .ok caller ∧ state' = state
  count : state.store.callers.length =
    (requests.map fun request => PhoneNumber.key request.1).dedup.length

theorem Acquainted.stored (h : state.Acquainted requests) (hrequest : (number, .ok caller) ∈ requests) :
    caller ∈ state.store.callers ∧ caller.number = PhoneNumber.key number := by
  obtain ⟨_, other, hother, hsame, hnumber⟩ := h.answered _ hrequest
  obtain rfl := Except.ok.inj hsame
  exact ⟨hother, hnumber⟩

theorem Acquainted.goesByKeys (h : state.Acquainted requests) : state.GoesByKeys requests where
  answered := by
    intro number result hrequest
    obtain ⟨_, caller, _, hresult⟩ := h.answered _ hrequest
    exact ⟨caller, hresult⟩
  same := by
    intro number caller other another hcaller hanother
    obtain ⟨hcaller, hnumber⟩ := h.stored hcaller
    obtain ⟨hanother, hother⟩ := h.stored hanother
    rw [← hnumber, ← hother]
    constructor
    · intro hid
      rw [eq_of_nodup h.ids hcaller hanother hid]
    · intro hsame
      rw [eq_of_nodup h.numbers hcaller hanother hsame]
  again := by
    intro number caller hrequest result state'
    obtain ⟨hcaller, hnumber⟩ := h.stored hrequest
    have hnamed := (h.answered _ hrequest).1
    refine runs_known ?_ ?_
    · rw [hnumber]
      exact PhoneNumber.isBlank_key hnamed
    · have hkey : PhoneNumber.key caller.number = caller.number := by
        rw [hnumber, PhoneNumber.key_key]
      rw [hkey]
      exact h.callerByNumber hcaller
  count := by
    rw [← List.length_map (·.number)]
    refine List.Perm.length_eq ((List.perm_ext_iff_of_nodup h.numbers (List.nodup_dedup _)).mpr ?_)
    intro key
    rw [List.mem_dedup, List.mem_map, List.mem_map]
    constructor
    · rintro ⟨caller, hcaller, rfl⟩
      exact h.asked caller hcaller
    · rintro ⟨request, hrequest, rfl⟩
      obtain ⟨_, caller, hcaller, _, hnumber⟩ := h.answered request hrequest
      exact ⟨caller, hcaller, hnumber⟩

end OpenWorld

section Identity

variable {account : Account} {registry : Registry} {start state : OpenWorld}
  {served : List (Command × Except CallError Outcome)} {requests : List CallerRequest}

theorem Resolved.acquainted (empty : start.store = {})
    (run : Resolved account registry start served requests state) : state.Acquainted requests := by
  induction run with
  | nothing => exact OpenWorld.acquainted_of_empty empty
  | stir due before ih => exact ih.of_same rfl (List.Subset.refl _)
  | serve before resolves ih => exact ih.resolves resolves

/-- Who a caller is depends on the key of the number alone, in every run of commands from the empty
store: all requests for callers can be told, each for whom a command is about, and however they are
told they go by keys. -/
theorem callers_go_by_keys (empty : start.store = {}) :
    (Served account registry .any start served state ↔
      ∃ requests, Resolved account registry start served requests state ∧
        ∀ request ∈ requests, ∃ command ∈ served.map Prod.fst, command.Seeks request.1) ∧
    ∀ requests, Resolved account registry start served requests state →
      state.GoesByKeys requests := by
  refine ⟨⟨Served.exists_resolved, ?_⟩, ?_⟩
  · rintro ⟨requests, resolved, _⟩
    exact resolved.toServed
  · exact fun _ resolved => (resolved.acquainted empty).goesByKeys

end Identity

section Spellings

/-- The same two people, spelled in several ways and come to by every way there is. -/
def spelledCommands : List Command :=
  [.findCaller "(202) 555-0123", .webhook (.inbound "main") questionParams,
    .startCall "main" "1 202 555 0123" none false,
    .sendMessages "+44 20 7946 0000" none ["Hello."], .findCaller " +44 20 7946 0000 "]

def spelledCalls : List (Command × Except CallError Outcome) × World :=
  World.serve default ⟨[questionTree]⟩ spelledCommands {}

theorem spelledCalls_served :
    Served default ⟨[questionTree]⟩ .any (.ofWorld {}) spelledCalls.1 (.ofWorld spelledCalls.2) :=
  Served.of_serve spelledCommands {} (fun _ _ => trivial) (by decide +kernel)

theorem spelledCalls_go_by_two_keys :
    spelledCalls.2.store.callers.map (·.number) = ["+12025550123", "+44 20 7946 0000"] ∧
      (spelledCalls.1.all fun entry => entry.2.isOk) = true ∧
      ∃ requests,
        Resolved default ⟨[questionTree]⟩ (.ofWorld {}) spelledCalls.1 requests
          (.ofWorld spelledCalls.2) ∧
        (OpenWorld.ofWorld spelledCalls.2).GoesByKeys requests ∧
        (requests.map fun request => PhoneNumber.key request.1).dedup.length = 2 := by
  have hnumbers : spelledCalls.2.store.callers.map (·.number) =
      ["+12025550123", "+44 20 7946 0000"] := by decide +kernel
  have hdone : (spelledCalls.1.all fun entry => entry.2.isOk) = true := by decide +kernel
  have hserved := spelledCalls_served
  generalize spelledCalls = calls at hnumbers hdone hserved ⊢
  have empty : (OpenWorld.ofWorld {}).store = {} := rfl
  obtain ⟨requests, hresolved, _⟩ := (callers_go_by_keys empty).1.mp hserved
  have hgoes := (callers_go_by_keys empty).2 requests hresolved
  refine ⟨hnumbers, hdone, requests, hresolved, hgoes, ?_⟩
  rw [← hgoes.count, ← List.length_map (·.number)]
  exact congrArg List.length hnumbers

end Spellings

end PhoneTree

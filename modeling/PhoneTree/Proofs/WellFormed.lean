import Mathlib.Tactic.MkIffOfInductiveProp
import PhoneTree.Proofs.FlowSteps

namespace PhoneTree

section Checks

variable {ε α β : Type}

theorem unit_bind_eq_ok {first : Except ε Unit} {rest : Unit → Except ε β} {value : β} :
    (first >>= rest) = .ok value ↔ first = .ok () ∧ rest () = .ok value := by
  refine bind_eq_ok.trans ⟨?_, fun h => ⟨(), h⟩⟩
  rintro ⟨⟨⟩, h⟩
  exact h

theorem refuse_eq_ok {refused : Prop} [Decidable refused] {error : ε} {other : α → Except ε β}
    {rest : Except ε β} {value : β} :
    (if refused then (throw error : Except ε α) >>= other else rest) = .ok value ↔
      ¬ refused ∧ rest = .ok value := by
  by_cases h : refused
  · simp only [h, not_true, false_and, iff_false]
    exact nofun
  · simp [h]

theorem fault_eq_none {broken : Prop} [Decidable broken] {fault : α} {rest : Option α} :
    (if broken then some fault else rest) = none ↔ ¬ broken ∧ rest = none := by
  by_cases h : broken <;> simp [h]

end Checks

/-- A text with something in it besides white space. -/
def Text.IsFilled (text : String) : Prop :=
  ∃ c ∈ text.toList, isSpace c = false

theorem Text.isFilled_iff {text : String} : IsFilled text ↔ isBlank text = false := by
  simp [IsFilled, isBlank]

/-- A fixed text has a property; a computed one may turn out to be anything. -/
def Content.Meets (p : String → Prop) : Content → Prop
  | fixed text => p text
  | computed _ => True

namespace Message

/-- An address that can be played: a scheme with something behind it on the same line. -/
def IsAddress (url : String) : Prop :=
  ∃ scheme ∈ ["http://", "https://"], ∃ c rest, c ≠ '\n' ∧ url.toList = scheme.toList ++ c :: rest

/-- A message whose fixed parts are filled and whose pause lasts. -/
def IsValid : Message → Prop
  | say text voice => text.Meets Text.IsFilled ∧ ∀ name, voice = some name → Text.IsFilled name
  | play url => url.Meets IsAddress
  | pause seconds => 1 ≤ seconds

theorem startsWith_iff (scheme chars : List Char) :
    (scheme.isPrefixOf chars && match chars.drop scheme.length with
      | [] => false
      | c :: _ => c != '\n') = true ↔ ∃ c rest, c ≠ '\n' ∧ chars = scheme ++ c :: rest := by
  rw [Bool.and_eq_true, List.isPrefixOf_iff_prefix]
  constructor
  · rintro ⟨⟨rest, rfl⟩, h⟩
    rw [List.drop_left] at h
    cases rest with
    | nil => cases h
    | cons c rest => exact ⟨c, rest, by simpa using h, rfl⟩
  · rintro ⟨c, rest, hc, rfl⟩
    simpa using hc

theorem isPlayable_iff {url : String} : isPlayable url = true ↔ IsAddress url := by
  have hschemes := or_congr (startsWith_iff "http://".toList url.toList)
    (startsWith_iff "https://".toList url.toList)
  rw [← Bool.or_eq_true] at hschemes
  refine Iff.trans hschemes ?_
  simp [IsAddress]

theorem fault?_eq_none {message : Message} : message.fault? = none ↔ message.IsValid := by
  cases message with
  | say text voice =>
      cases text <;> cases voice <;>
        simp [fault?, IsValid, Content.Meets, Text.isFilled_iff, fault_eq_none]
  | play url =>
      cases url <;> simp [fault?, IsValid, Content.Meets, isPlayable_iff]
  | pause seconds => simp [fault?, IsValid, Nat.one_le_iff_ne_zero]

end Message

namespace MessageSet

/-- Every message of a set that is not computed is valid. -/
def IsValid (set : MessageSet) : Prop :=
  ∀ message, .fixed message ∈ set.entries → message.IsValid

theorem fault?_eq_none {set : MessageSet} : set.fault? = none ↔ set.IsValid := by
  rw [fault?, List.findSome?_eq_none_iff]
  constructor
  · exact fun h message hmem => Message.fault?_eq_none.mp (h _ hmem)
  · intro h entry hmem
    cases entry with
    | fixed message => exact Message.fault?_eq_none.mpr (h message hmem)
    | computed value => rfl

theorem check_eq_ok {set : MessageSet} : set.check = .ok () ↔ set.IsValid := by
  rw [← fault?_eq_none, check]
  cases set.fault? <;> simp

end MessageSet

namespace Gather

/-- A way to collect an answer that waits for one. -/
def IsValid : Gather → Prop
  | digits spec => 1 ≤ spec.number ∧ 1 ≤ spec.timeout
  | voice spec => 1 ≤ spec.length
  | speech spec => Text.IsFilled spec.language

theorem fault?_eq_none {gather : Gather} : gather.fault? = none ↔ gather.IsValid := by
  cases gather <;>
    simp [fault?, IsValid, Nat.one_le_iff_ne_zero, Text.isFilled_iff, fault_eq_none]

end Gather

/-- A fixed rule says what can be said and leads to the end of the call or to one of the handles. -/
def AfterRule.IsValid (handles : List PromptHandle) : AfterRule → Prop
  | fixed transition => transition.messages.IsValid ∧
      ∀ handle, transition.target = .prompt handle → handle ∈ handles
  | computed _ => True

/-- A configuration in which nothing that is said or compared is blank. -/
@[mk_iff]
structure TreeConfig.IsValid (config : TreeConfig) : Prop where
  attempts : 1 ≤ config.finalTimeoutAttempts
  voice : Text.IsFilled config.voice
  answers : ∀ word ∈ config.answers.yes ++ config.answers.no, Text.IsFilled word
  finalTimeout : config.finalTimeoutMessage.IsValid
  invalidNumber : ∀ messages, config.invalidPhoneNumber = some messages → messages.IsValid

/-- What the rules say about a prompt by itself. -/
@[mk_iff]
structure Prompt.IsValid (prompt : Prompt) : Prop where
  handle : Text.IsFilled prompt.handle.text
  messages : prompt.messages.IsValid
  gather : ∀ gather, prompt.gather = some gather → gather.IsValid

namespace TreeDraft

/-- A name that fits a path. -/
@[mk_iff]
structure IsName (name : String) : Prop where
  nonempty : name ≠ ""
  chars : ∀ c ∈ name.toList, ('a' ≤ c ∧ c ≤ 'z') ∨ ('0' ≤ c ∧ c ≤ '9') ∨ c = '-' ∨ c = '_'

/-- The rules that a draft has to keep to become a tree. -/
structure IsWellFormed (draft : TreeDraft) : Prop where
  name : IsName draft.name
  config : draft.config.IsValid
  greeting : ∃ greeting, draft.greeting = some greeting ∧
    greeting.IsValid (draft.prompts.map (·.handle))
  prompts : ∀ prompt ∈ draft.prompts, prompt.IsValid
  afters : ∀ prompt ∈ draft.prompts, prompt.after.IsValid (draft.prompts.map (·.handle))
  handles : (draft.prompts.map (·.handle)).Nodup

theorem isNameChar_iff {c : Char} : isNameChar c = true ↔
    ('a' ≤ c ∧ c ≤ 'z') ∨ ('0' ≤ c ∧ c ≤ '9') ∨ c = '-' ∨ c = '_' := by
  simp [isNameChar, or_assoc]

theorem checkName_eq_ok {name : String} : checkName name = .ok () ↔ IsName name := by
  have hchars : name.toList.all isNameChar = true ↔
      ∀ c ∈ name.toList, ('a' ≤ c ∧ c ≤ 'z') ∨ ('0' ≤ c ∧ c ≤ '9') ∨ c = '-' ∨ c = '_' :=
    List.all_eq_true.trans (forall₂_congr fun _ _ => isNameChar_iff)
  rw [isName_iff, ← hchars, ne_eq, ← String.isEmpty_iff, checkName]
  by_cases hempty : name.isEmpty = true
  · simp [hempty]
  · simp [hempty]

theorem checkConfig_eq_ok {config : TreeConfig} : checkConfig config = .ok () ↔ config.IsValid := by
  simp only [checkConfig, refuse_eq_ok, unit_bind_eq_ok, MessageSet.check_eq_ok,
    TreeConfig.isValid_iff]
  refine and_congr Nat.one_le_iff_ne_zero.symm (and_congr ?_ (and_congr ?_ (and_congr_right' ?_)))
  · rw [Text.isFilled_iff, Bool.not_eq_true]
  · simp [Text.isFilled_iff, or_imp, forall_and]
  · cases config.invalidPhoneNumber with
    | none => simp [pure, Except.pure]
    | some messages => simp [MessageSet.check_eq_ok]

theorem checkPrompt_eq_ok {tree : String} {prompt : Prompt} :
    checkPrompt tree prompt = .ok () ↔ prompt.IsValid := by
  simp only [checkPrompt, refuse_eq_ok, unit_bind_eq_ok, MessageSet.check_eq_ok,
    Prompt.isValid_iff]
  refine and_congr ?_ (and_congr_right' ?_)
  · rw [Text.isFilled_iff, Bool.not_eq_true]
  · cases prompt.gather with
    | none => simp [pure, Except.pure]
    | some gather =>
        have hsome : (∀ other, some gather = some other → other.IsValid) ↔ gather.IsValid := by
          simp
        rw [Option.bind_some, hsome, ← Gather.fault?_eq_none]
        cases gather.fault? with
        | none => exact iff_of_true rfl rfl
        | some fault => exact iff_of_false nofun nofun

theorem checkPrompts_eq_ok {tree : String} {seen : List PromptHandle} {prompts : List Prompt} :
    checkPrompts tree seen prompts = .ok () ↔
      (∀ prompt ∈ prompts, prompt.IsValid) ∧ (prompts.map (·.handle)).Nodup ∧
        ∀ prompt ∈ prompts, prompt.handle ∉ seen := by
  induction prompts generalizing seen with
  | nil => simp [checkPrompts, pure, Except.pure]
  | cons prompt rest ih =>
      have hapart : prompt.handle ∉ rest.map (·.handle) ↔
          ∀ other ∈ rest, other.handle ≠ prompt.handle := by
        simp [eq_comm]
      have hseen : (∀ other ∈ rest, other.handle ∉ prompt.handle :: seen) ↔
          (∀ other ∈ rest, other.handle ≠ prompt.handle) ∧
            ∀ other ∈ rest, other.handle ∉ seen := by
        simp [forall_and]
      simp only [checkPrompts, unit_bind_eq_ok, refuse_eq_ok, checkPrompt_eq_ok, ih, hseen,
        List.contains_iff_mem, List.forall_mem_cons, List.map_cons, List.nodup_cons, hapart]
      constructor
      · rintro ⟨hvalid, hunseen, hrest, hnodup, hapart, hothers⟩
        exact ⟨⟨hvalid, hrest⟩, ⟨hapart, hnodup⟩, hunseen, hothers⟩
      · rintro ⟨⟨hvalid, hrest⟩, ⟨hapart, hnodup⟩, hunseen, hothers⟩
        exact ⟨hvalid, hunseen, hrest, hnodup, hapart, hothers⟩

theorem checkAfter_eq_ok {tree source : String} {handles : List PromptHandle} {rule : AfterRule} :
    checkAfter tree source handles rule = .ok () ↔ rule.IsValid handles := by
  cases rule with
  | computed value => exact iff_of_true rfl trivial
  | fixed transition =>
      simp only [checkAfter, unit_bind_eq_ok, MessageSet.check_eq_ok, AfterRule.IsValid]
      refine and_congr_right' ?_
      cases transition.target with
      | hangup => simp [pure, Except.pure]
      | prompt handle =>
          by_cases h : handle ∈ handles <;>
            simp [h, pure, Except.pure, throw, throwThe, MonadExceptOf.throw]

theorem checkAfters_eq_ok {tree : String} {handles : List PromptHandle} {prompts : List Prompt} :
    checkAfters tree handles prompts = .ok () ↔
      ∀ prompt ∈ prompts, prompt.after.IsValid handles := by
  induction prompts with
  | nil => simp [checkAfters, pure, Except.pure]
  | cons prompt rest ih =>
      simp only [checkAfters, unit_bind_eq_ok, checkAfter_eq_ok, ih, List.forall_mem_cons]

/-- The builder accepts a draft that keeps the rules and hands on its parts. -/
theorem build_eq_ok_iff {draft : TreeDraft} {tree : Tree} :
    draft.build = .ok tree ↔ draft.IsWellFormed ∧ ∃ greeting, draft.greeting = some greeting ∧
      tree = { draft with greeting } := by
  simp only [build, unit_bind_eq_ok, checkName_eq_ok]
  cases hgreeting : draft.greeting with
  | none =>
      constructor
      · rintro ⟨_, h⟩
        cases h
      · rintro ⟨_, greeting, hsome, _⟩
        cases hsome
  | some greeting =>
      simp only [unit_bind_eq_ok, checkConfig_eq_ok, checkPrompts_eq_ok, checkAfter_eq_ok,
        checkAfters_eq_ok]
      constructor
      · rintro ⟨hname, hconfig, ⟨hprompts, hhandles, _⟩, hvalid, hafters, htree⟩
        exact ⟨⟨hname, hconfig, ⟨greeting, hgreeting, hvalid⟩, hprompts, hafters, hhandles⟩,
          greeting, rfl, (Except.ok.inj htree).symm⟩
      · rintro ⟨⟨hname, hconfig, ⟨_, hsome, hvalid⟩, hprompts, hafters, hhandles⟩, _, hsame, rfl⟩
        obtain rfl := Option.some.inj hsame
        obtain rfl := Option.some.inj (hgreeting.symm.trans hsome)
        exact ⟨hname, hconfig, ⟨hprompts, hhandles, fun _ _ => List.not_mem_nil⟩, hvalid, hafters,
          rfl⟩

end TreeDraft

/-- A draft becomes a tree exactly if it keeps all rules, and its prompts are what is found under
their handles. -/
theorem trees_are_well_formed_drafts (draft : TreeDraft) :
    ((∃ tree, draft.build = .ok tree) ↔ draft.IsWellFormed) ∧
      ∀ tree, draft.build = .ok tree → ∀ handle prompt,
        tree.prompt? handle = some prompt ↔ prompt ∈ draft.prompts ∧ prompt.handle = handle := by
  constructor
  · constructor
    · rintro ⟨tree, h⟩
      exact (TreeDraft.build_eq_ok_iff.mp h).1
    · intro h
      obtain ⟨greeting, hgreeting, _⟩ := h.greeting
      exact ⟨_, TreeDraft.build_eq_ok_iff.mpr ⟨h, greeting, hgreeting, rfl⟩⟩
  · intro tree h handle prompt
    obtain ⟨hwell, greeting, _, rfl⟩ := TreeDraft.build_eq_ok_iff.mp h
    constructor
    · intro hfound
      refine ⟨List.mem_of_find?_eq_some hfound, ?_⟩
      simpa using List.find?_some hfound
    · rintro ⟨hmem, rfl⟩
      exact OpenWorld.find_of_nodup hwell.handles hmem

section Menu

def menuPrompt : Prompt where
  handle := ⟨"menu"⟩
  messages := .ofText "Pick a number"
  gather := some (.digits { number := 1, timeout := 10 })
  after := .goto ⟨"menu"⟩

def menuDraft : TreeDraft where
  name := "survey-2"
  greeting := some (.goto ⟨"menu"⟩)
  prompts := [menuPrompt]

theorem menuDraft_is_well_formed :
    menuDraft.IsWellFormed ∧ ∃ tree, menuDraft.build = .ok tree ∧
      tree.prompt? ⟨"menu"⟩ = some menuPrompt := by
  have hbuild : ∃ tree, menuDraft.build = .ok tree := ⟨_, rfl⟩
  obtain ⟨hwell, hfound⟩ := trees_are_well_formed_drafts menuDraft
  obtain ⟨tree, htree⟩ := hbuild
  exact ⟨hwell.mp ⟨tree, htree⟩, tree, htree,
    (hfound tree htree ⟨"menu"⟩ menuPrompt).mpr ⟨List.mem_singleton_self _, rfl⟩⟩

end Menu

end PhoneTree

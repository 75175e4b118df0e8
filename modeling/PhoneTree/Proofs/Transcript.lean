import PhoneTree.Proofs.Dialogue

namespace PhoneTree

namespace Dialogue

variable {Q : Type} {A : Q → Type} {σ α β : Type} {program : Dialogue Q A α}
  {log log' : List ((question : Q) × A question)}

/-- The program asks just these questions, is answered so, and ends with a value. -/
inductive Records : Dialogue Q A α → List ((question : Q) × A question) → α → Prop
  | done {value : α} : Records (done value) [] value
  | ask {question : Q} {next : A question → Dialogue Q A α} {answer : A question}
      {log : List ((question : Q) × A question)} {value : α}
      (rest : Records (next answer) log value) :
      Records (ask question next) (⟨question, answer⟩ :: log) value

theorem records_done {value result : α} :
    (done value : Dialogue Q A α).Records log result ↔ log = [] ∧ result = value := by
  constructor
  · rintro ⟨⟩
    exact ⟨rfl, rfl⟩
  · rintro ⟨rfl, rfl⟩
    exact .done

theorem records_ask {question : Q} {next : A question → Dialogue Q A α} {value : α} :
    (ask question next).Records log value ↔
      ∃ answer rest, log = ⟨question, answer⟩ :: rest ∧ (next answer).Records rest value := by
  constructor
  · rintro ⟨⟩
    exact ⟨_, _, rfl, ‹_›⟩
  · rintro ⟨answer, rest, rfl, hrest⟩
    exact .ask hrest

theorem records_bind {rest : α → Dialogue Q A β} {value : β} :
    (program.bind rest).Records log value ↔
      ∃ first before after, log = before ++ after ∧ program.Records before first ∧
        (rest first).Records after value := by
  constructor
  · intro h
    induction program generalizing log with
    | done first => exact ⟨first, [], log, rfl, .done, h⟩
    | ask question next ih =>
        obtain ⟨answer, tail, rfl, htail⟩ := records_ask.mp h
        obtain ⟨first, before, after, rfl, hfirst, hrest⟩ := ih answer htail
        exact ⟨first, ⟨question, answer⟩ :: before, after, rfl, .ask hfirst, hrest⟩
  · rintro ⟨first, before, after, rfl, hfirst, hrest⟩
    induction hfirst with
    | done => exact hrest
    | ask _ ih => exact .ask (ih hrest)

/-- What a program is told decides what it asks and when it ends. -/
theorem Records.unique {value value' : α} {after after' : List ((question : Q) × A question)}
    (h : program.Records log value) (h' : program.Records log' value')
    (same : log ++ after = log' ++ after') : value = value' ∧ after = after' := by
  induction h generalizing log' with
  | done =>
      obtain ⟨rfl, rfl⟩ := records_done.mp h'
      exact ⟨rfl, same⟩
  | ask _ ih =>
      obtain ⟨answer, rest, rfl, hrest⟩ := records_ask.mp h'
      obtain ⟨hanswer, hsame⟩ := List.cons.inj same
      cases hanswer
      exact ih hrest hsame

end Dialogue

/-- The answers of a transcript lead from one state to another. -/
def Rules.Leads {Q : Type} {A : Q → Type} {σ : Type} (rules : Rules Q A σ) :
    σ → List ((question : Q) × A question) → σ → Prop
  | state, [], state' => state' = state
  | state, exchange :: log, state' =>
      ∃ middle, rules.Answers state exchange.1 exchange.2 middle ∧ rules.Leads middle log state'

/-- A run is a transcript whose answers are given one after another. -/
theorem Dialogue.runs_iff_records {Q : Type} {A : Q → Type} {σ α : Type} {rules : Rules Q A σ}
    {program : Dialogue Q A α} {state state' : σ} {value : α} :
    program.Runs rules state value state' ↔
      ∃ log, program.Records log value ∧ rules.Leads state log state' := by
  constructor
  · intro run
    induction run with
    | done => exact ⟨[], .done, rfl⟩
    | ask answered _ ih =>
        obtain ⟨log, hrecords, hleads⟩ := ih
        exact ⟨_, .ask hrecords, _, answered, hleads⟩
  · rintro ⟨log, hrecords, hleads⟩
    induction hrecords generalizing state with
    | done =>
        obtain rfl := hleads
        exact .done
    | ask _ ih =>
        obtain ⟨middle, answered, hleads⟩ := hleads
        exact .ask answered (ih hleads)

namespace Action

variable {α β : Type} {log : List ((question : Question) × question.Answer)}

/-- The action asks just these questions, is answered so, and ends with a result. -/
def Records (action : Action α) (log : List ((question : Question) × question.Answer))
    (result : Except CallError α) : Prop :=
  Dialogue.Records action.run log result

theorem records_pure {value : α} {result : Except CallError α} :
    Records (pure value) log result ↔ log = [] ∧ result = .ok value :=
  Dialogue.records_done

theorem records_throw {error : CallError} {result : Except CallError α} :
    Records (throw error) log result ↔ log = [] ∧ result = .error error :=
  Dialogue.records_done

theorem records_ask_bind {question : Question} {rest : question.Answer → Action α}
    {result : Except CallError α} :
    Records (ask question >>= rest) log result ↔
      ∃ answer after, log = ⟨question, answer⟩ :: after ∧ Records (rest answer) after result :=
  Dialogue.records_ask

theorem records_bind {action : Action α} {rest : α → Action β} {result : Except CallError β} :
    Records (action >>= rest) log result ↔
      (∃ error, result = .error error ∧ Records action log (.error error)) ∨
        ∃ value before after, log = before ++ after ∧ Records action before (.ok value) ∧
          Records (rest value) after result := by
  refine Dialogue.records_bind.trans ?_
  constructor
  · rintro ⟨error | value, before, after, rfl, first, second⟩
    · obtain ⟨rfl, rfl⟩ := Dialogue.records_done.mp second
      rw [List.append_nil]
      exact .inl ⟨error, rfl, first⟩
    · exact .inr ⟨value, before, after, rfl, first, second⟩
  · rintro (⟨error, rfl, first⟩ | ⟨value, before, after, rfl, first, second⟩)
    · exact ⟨.error error, log, [], (List.append_nil log).symm, first, .done⟩
    · exact ⟨.ok value, before, after, rfl, first, second⟩

theorem records_bind_of_ok {action : Action α} {rest : α → Action β} {value : α}
    {before after : List ((question : Question) × question.Answer)} {result : Except CallError β}
    (first : Records action before (.ok value)) :
    Records (action >>= rest) (before ++ after) result ↔ Records (rest value) after result := by
  refine records_bind.trans ⟨?_, fun second => .inr ⟨value, before, after, rfl, first, second⟩⟩
  rintro (⟨error, rfl, failed⟩ | ⟨other, before', after', hlog, first', second⟩)
  · have hsame : before ++ after = before ++ after ++ [] := (List.append_nil _).symm
    obtain ⟨hvalue, _⟩ := Dialogue.Records.unique first failed hsame
    cases hvalue
  · obtain ⟨hvalue, rfl⟩ := Dialogue.Records.unique first first' hlog
    cases hvalue
    exact second

theorem records_map {action : Action α} {f : α → β} {result : Except CallError β} :
    Records (action >>= fun value => pure (f value)) log result ↔
      ∃ outcome, Records action log outcome ∧ result = outcome.map f := by
  refine records_bind.trans ⟨?_, ?_⟩
  · rintro (⟨error, rfl, failed⟩ | ⟨value, before, after, rfl, first, last⟩)
    · exact ⟨_, failed, rfl⟩
    · obtain ⟨rfl, rfl⟩ := records_pure.mp last
      rw [List.append_nil]
      exact ⟨_, first, rfl⟩
  · rintro ⟨error | value, first, rfl⟩
    · exact .inl ⟨error, rfl, first⟩
    · exact .inr ⟨value, log, [], (List.append_nil log).symm, first, records_pure.mpr ⟨rfl, rfl⟩⟩

end Action

end PhoneTree

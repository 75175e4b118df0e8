import PhoneTree.Action

namespace PhoneTree

/-- Which questions may be asked in a state, and which answers lead to which states. -/
structure Rules (Q : Type) (A : Q → Type) (σ : Type) where
  MayAsk : σ → Q → Prop
  Answers : σ → (question : Q) → A question → σ → Prop

namespace Dialogue

variable {Q : Type} {A : Q → Type} {σ α β : Type}
variable {rules : Rules Q A σ} {state state' : σ}

/-- The program asks only what it may ask, and ends only as `post` says. -/
def Ensures (rules : Rules Q A σ) : Dialogue Q A α → σ → (α → σ → Prop) → Prop
  | done value, state, post => post value state
  | ask question next, state, post =>
      rules.MayAsk state question ∧
        ∀ answer state', rules.Answers state question answer state' →
          (next answer).Ensures rules state' post

/-- A run of a program: where it began, what it ended with and where. -/
inductive Runs (rules : Rules Q A σ) : Dialogue Q A α → σ → α → σ → Prop
  | done {value : α} {state : σ} : Runs rules (done value) state value state
  | ask {question : Q} {next : A question → Dialogue Q A α} {answer : A question} {value : α}
      {state middle state' : σ} (answered : rules.Answers state question answer middle)
      (rest : Runs rules (next answer) middle value state') :
      Runs rules (ask question next) state value state'

theorem run_ask {answer : (question : Q) → σ → A question × σ} {question : Q}
    {next : A question → Dialogue Q A α} :
    (ask question next).run answer state =
      (next (answer question state).1).run answer (answer question state).2 :=
  rfl

theorem ensures_bind {program : Dialogue Q A α} {rest : α → Dialogue Q A β}
    {post : β → σ → Prop} :
    (program.bind rest).Ensures rules state post ↔
      program.Ensures rules state fun value state' => (rest value).Ensures rules state' post := by
  induction program generalizing state with
  | done value => rfl
  | ask question next ih => simp only [bind, Ensures, ih]

theorem Ensures.mono {program : Dialogue Q A α} {post post' : α → σ → Prop}
    (h : program.Ensures rules state post)
    (weaker : ∀ value state', post value state' → post' value state') :
    program.Ensures rules state post' := by
  induction program generalizing state with
  | done value => exact weaker value state h
  | ask question next ih =>
      refine ⟨h.1, ?_⟩
      intro answer state' answered
      exact ih answer (h.2 answer state' answered)

theorem Ensures.of_runs {program : Dialogue Q A α} {post : α → σ → Prop} {value : α}
    (h : program.Ensures rules state post) (run : program.Runs rules state value state') :
    post value state' := by
  induction run with
  | done => exact h
  | ask answered _ ih => exact ih (h.2 _ _ answered)

theorem runs_bind {program : Dialogue Q A α} {rest : α → Dialogue Q A β} {value : β} :
    (program.bind rest).Runs rules state value state' ↔
      ∃ first middle, program.Runs rules state first middle ∧
        (rest first).Runs rules middle value state' := by
  constructor
  · intro run
    induction program generalizing state with
    | done first => exact ⟨first, state, .done, run⟩
    | ask question next ih =>
        cases run with
        | ask answered run =>
            obtain ⟨first, middle, hfirst, hrest⟩ := ih _ run
            exact ⟨first, middle, .ask answered hfirst, hrest⟩
  · rintro ⟨first, middle, hfirst, hrest⟩
    induction hfirst with
    | done => exact hrest
    | ask answered _ ih => exact .ask answered (ih hrest)

/-- What holds under rules holds under rules that allow more questions. -/
theorem Ensures.of_answers {rules' : Rules Q A σ} {program : Dialogue Q A α} {post : α → σ → Prop}
    (h : program.Ensures rules state post) (mayAsk : ∀ state question, rules'.MayAsk state question)
    (answers : ∀ state question answer state', rules'.Answers state question answer state' →
      rules.Answers state question answer state') : program.Ensures rules' state post := by
  induction program generalizing state with
  | done value => exact h
  | ask question next ih =>
      refine ⟨mayAsk state question, ?_⟩
      intro answer state' answered
      exact ih answer (h.2 answer state' (answers _ _ _ _ answered))

/-- The rules of a program that may ask so many questions more. -/
def countdown : Rules Q A Nat where
  MayAsk left _ := left ≠ 0
  Answers left _ _ left' := left = left' + 1

/-- The program asks so many questions at most, whatever it is answered. -/
def EndsWithin (left : Nat) (program : Dialogue Q A α) : Prop :=
  program.Ensures countdown left fun _ _ => True

theorem endsWithin_done {value : α} (left : Nat) :
    (done value : Dialogue Q A α).EndsWithin left :=
  trivial

theorem EndsWithin.eq_done {program : Dialogue Q A α} (h : program.EndsWithin 0) :
    ∃ value, program = done value := by
  cases program with
  | done value => exact ⟨value, rfl⟩
  | ask question next => exact absurd rfl h.1

end Dialogue

namespace Action

variable {σ α β : Type} {rules : Rules Question Question.Answer σ} {state : σ}

/-- The action asks only what it may ask, ends with a value only as `post` says, and with an error
only as `fails` says. -/
def Ensures (rules : Rules Question Question.Answer σ) (action : Action α) (state : σ)
    (post : α → σ → Prop) (fails : CallError → σ → Prop) : Prop :=
  Dialogue.Ensures rules action.run state fun result state' =>
    match result with
    | .ok value => post value state'
    | .error error => fails error state'

/-- Runs of an action with the result that it ends with. -/
def Runs (rules : Rules Question Question.Answer σ) (action : Action α) (state : σ)
    (result : Except CallError α) (state' : σ) : Prop :=
  Dialogue.Runs rules action.run state result state'

section Laws

variable {post : α → σ → Prop} {fails : CallError → σ → Prop}

@[simp] theorem ensures_pure {value : α} :
    Ensures rules (pure value) state post fails ↔ post value state :=
  Iff.rfl

@[simp] theorem ensures_throw {error : CallError} :
    Ensures rules (throw error) state post fails ↔ fails error state :=
  Iff.rfl

@[simp] theorem ensures_ask {question : Question} {post : question.Answer → σ → Prop} :
    Ensures rules (ask question) state post fails ↔
      rules.MayAsk state question ∧
        ∀ answer state', rules.Answers state question answer state' → post answer state' :=
  Iff.rfl

@[simp] theorem ensures_ofAnswer {answer : Except Failure α} :
    Ensures rules (ofAnswer answer) state post fails ↔
      match answer with
      | .ok value => post value state
      | .error error => fails (.ofFailure error) state := by
  cases answer <;> rfl

@[simp] theorem ensures_ofFlow {result : Except FlowError α} :
    Ensures rules (ofFlow result) state post fails ↔
      match result with
      | .ok value => post value state
      | .error error => fails (.flow error) state := by
  cases result <;> rfl

@[simp] theorem ensures_ofTransport {answer : Except TransportError α} :
    Ensures rules (ofTransport answer) state post fails ↔
      match answer with
      | .ok value => post value state
      | .error error => fails (.transport error) state := by
  cases answer <;> rfl

@[simp] theorem ensures_bind {action : Action α} {rest : α → Action β} {post : β → σ → Prop} :
    Ensures rules (action >>= rest) state post fails ↔
      Ensures rules action state
        (fun value state' => Ensures rules (rest value) state' post fails) fails := by
  refine Dialogue.ensures_bind.trans ?_
  constructor
  · intro h
    refine h.mono ?_
    rintro (error | value) state' h
    · exact h
    · exact h
  · intro h
    refine h.mono ?_
    rintro (error | value) state' h
    · exact h
    · exact h

theorem ensures_bind_assoc {γ : Type} {first : Action γ} {action : γ → Action α}
    {rest : α → Action β} {post : β → σ → Prop} :
    Ensures rules (first >>= fun value => action value >>= rest) state post fails ↔
      Ensures rules (first >>= action) state
        (fun value state' => Ensures rules (rest value) state' post fails) fails := by
  simp only [ensures_bind]

theorem Ensures.mono {action : Action α} {post' : α → σ → Prop}
    {fails' : CallError → σ → Prop} (h : Ensures rules action state post fails)
    (weaker : ∀ value state', post value state' → post' value state')
    (weakerFails : ∀ error state', fails error state' → fails' error state') :
    Ensures rules action state post' fails' := by
  refine Dialogue.Ensures.mono h ?_
  rintro (error | value) state' h
  · exact weakerFails error state' h
  · exact weaker value state' h

end Laws

section Runs

variable {state' : σ}

theorem runs_pure {value : α} {result : Except CallError α} :
    Runs rules (pure value) state result state' ↔ result = .ok value ∧ state' = state := by
  constructor
  · rintro ⟨⟩
    exact ⟨rfl, rfl⟩
  · rintro ⟨rfl, rfl⟩
    exact .done

theorem runs_throw {error : CallError} {result : Except CallError α} :
    Runs rules (throw error) state result state' ↔ result = .error error ∧ state' = state := by
  constructor
  · rintro ⟨⟩
    exact ⟨rfl, rfl⟩
  · rintro ⟨rfl, rfl⟩
    exact .done

theorem runs_ask {question : Question} {result : Except CallError question.Answer} :
    Runs rules (ask question) state result state' ↔
      ∃ answer, result = .ok answer ∧ rules.Answers state question answer state' := by
  constructor
  · rintro (_ | ⟨answered, ⟨⟩⟩)
    exact ⟨_, rfl, answered⟩
  · rintro ⟨answer, rfl, answered⟩
    exact .ask answered .done

/-- A run of one action after another fails in the first, or goes on in the second from where the
first ended. -/
theorem runs_bind {action : Action α} {rest : α → Action β} {result : Except CallError β} :
    Runs rules (action >>= rest) state result state' ↔
      (∃ error, result = .error error ∧ Runs rules action state (.error error) state') ∨
        ∃ value middle, Runs rules action state (.ok value) middle ∧
          Runs rules (rest value) middle result state' := by
  refine Dialogue.runs_bind.trans ?_
  constructor
  · rintro ⟨error | value, middle, first, second⟩
    · cases second
      exact .inl ⟨error, rfl, first⟩
    · exact .inr ⟨value, middle, first, second⟩
  · rintro (⟨error, rfl, first⟩ | ⟨value, middle, first, second⟩)
    · exact ⟨.error error, state', first, .done⟩
    · exact ⟨.ok value, middle, first, second⟩

theorem runs_bind_ok {action : Action α} {rest : α → Action β} {result : β} :
    Runs rules (action >>= rest) state (.ok result) state' ↔
      ∃ value middle, Runs rules action state (.ok value) middle ∧
        Runs rules (rest value) middle (.ok result) state' :=
  runs_bind.trans (or_iff_right fun ⟨_, hsame, _⟩ => nomatch hsame)

theorem runs_ofAnswer_ok {answer : Except Failure α} {value : α} :
    Runs rules (ofAnswer answer) state (.ok value) state' ↔ answer = .ok value ∧ state' = state := by
  cases answer with
  | error error => exact iff_of_false nofun nofun
  | ok result =>
      refine runs_pure.trans (and_congr_left fun _ => ?_)
      rw [Except.ok.injEq, Except.ok.injEq]
      exact eq_comm

theorem runs_ask_bind {question : Question} {rest : question.Answer → Action α}
    {result : Except CallError α} :
    Runs rules (ask question >>= rest) state result state' ↔
      ∃ answer middle, rules.Answers state question answer middle ∧
        Runs rules (rest answer) middle result state' := by
  constructor
  · rintro (_ | ⟨answered, run⟩)
    exact ⟨_, _, answered, run⟩
  · rintro ⟨answer, middle, answered, run⟩
    exact .ask answered run

section OneAnswer

variable {question : Question} {only : question.Answer} {middle : σ}
  (answers : ∀ answer after, rules.Answers state question answer after ↔
    answer = only ∧ after = middle)
include answers

theorem runs_ask_only {rest : question.Answer → Action α} {result : Except CallError α} :
    Runs rules (ask question >>= rest) state result state' ↔
      Runs rules (rest only) middle result state' := by
  rw [runs_ask_bind]
  constructor
  · rintro ⟨answer, after, answered, run⟩
    obtain ⟨rfl, rfl⟩ := (answers _ _).mp answered
    exact run
  · exact fun run => ⟨only, middle, (answers _ _).mpr ⟨rfl, rfl⟩, run⟩

theorem runs_outcome {outcome : question.Answer → Except Failure α} {value : α}
    {result : Except CallError α} (houtcome : outcome only = .ok value) :
    Runs rules (ask question >>= fun answer => ofAnswer (outcome answer)) state result state' ↔
      result = .ok value ∧ state' = middle := by
  rw [runs_ask_only answers, houtcome]
  exact runs_pure

theorem runs_given {outcome : question.Answer → Except Failure α} {rest : α → Action β} {value : α}
    {result : Except CallError β} (houtcome : outcome only = .ok value) :
    Runs rules (ask question >>= fun answer => ofAnswer (outcome answer) >>= rest) state result
        state' ↔
      Runs rules (rest value) middle result state' := by
  rw [runs_ask_only answers, houtcome]
  rfl

end OneAnswer

end Runs

section Countdown

variable {left : Nat}

theorem countdown_ask (more : Nat) {question : Question} {post : question.Answer → Nat → Prop}
    {fails : CallError → Nat → Prop} (h : more + 1 ≤ left)
    (done : ∀ answer left', more ≤ left' → post answer left') :
    Ensures Dialogue.countdown (ask question) left post fails := by
  refine ensures_ask.mpr ⟨?_, ?_⟩
  · exact Nat.ne_zero_of_lt h
  · rintro answer left' rfl
    exact done answer left' (Nat.le_of_succ_le_succ h)

theorem countdown_outcome (more : Nat) {question : Question}
    {outcome : question.Answer → Except Failure α} {post : α → Nat → Prop} (h : more + 1 ≤ left)
    (done : ∀ value left', more ≤ left' → post value left') :
    Ensures Dialogue.countdown (ask question >>= fun answer => ofAnswer (outcome answer)) left post
      fun _ _ => True := by
  refine ensures_bind.mpr (countdown_ask more h ?_)
  intro answer left' hleft
  cases houtcome : outcome answer with
  | ok value => exact done value left' hleft
  | error failure => trivial

end Countdown

end Action

end PhoneTree

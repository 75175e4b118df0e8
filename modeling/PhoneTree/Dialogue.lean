/-!
Programs that ask questions.

A program either is done or asks a question and goes on with the answer. Who answers, in what
state and in what order with other programs, is left open: the same program runs against a store
in memory, against surroundings that fail, and in small steps beside other programs.
-/
namespace PhoneTree

/-- A program that asks questions of `Q`, each answered in `A`, and ends with a value. -/
inductive Dialogue (Q : Type) (A : Q → Type) (α : Type)
  | done (value : α)
  | ask (question : Q) (next : A question → Dialogue Q A α)

namespace Dialogue

variable {Q : Type} {A : Q → Type} {α β γ σ : Type}

/-- Goes on with the value of a program once it is done. -/
def bind (program : Dialogue Q A α) (rest : α → Dialogue Q A β) : Dialogue Q A β :=
  match program with
  | done value => rest value
  | ask question next => ask question fun answer => (next answer).bind rest

instance : Monad (Dialogue Q A) where
  pure := done
  bind := bind

/-- The program that asks one question and ends with its answer. -/
def query (question : Q) : Dialogue Q A (A question) :=
  ask question done

/-- Runs a program to its end in a state from which every question is answered. -/
def run (answer : (question : Q) → σ → A question × σ) : Dialogue Q A α → σ → α × σ
  | done value, state => (value, state)
  | ask question next, state =>
      let (reply, state) := answer question state
      (next reply).run answer state

@[simp] theorem pure_bind (value : α) (rest : α → Dialogue Q A β) :
    (done value).bind rest = rest value := rfl

@[simp] theorem bind_done (program : Dialogue Q A α) : program.bind done = program := by
  induction program with
  | done value => rfl
  | ask question next ih => exact congrArg (ask question) (funext ih)

theorem bind_assoc (program : Dialogue Q A α) (rest : α → Dialogue Q A β)
    (last : β → Dialogue Q A γ) :
    (program.bind rest).bind last = program.bind fun value => (rest value).bind last := by
  induction program with
  | done value => rfl
  | ask question next ih => exact congrArg (ask question) (funext ih)

instance : LawfulMonad (Dialogue Q A) :=
  LawfulMonad.mk' (Dialogue Q A) (fun program => bind_done program) (fun _ _ => rfl)
    (fun program rest last => bind_assoc program rest last)

/-- Running one program after another runs the second from where the first ended. -/
theorem run_bind (answer : (question : Q) → σ → A question × σ) (program : Dialogue Q A α)
    (rest : α → Dialogue Q A β) (state : σ) :
    (program.bind rest).run answer state =
      (rest (program.run answer state).1).run answer (program.run answer state).2 := by
  induction program generalizing state with
  | done value => rfl
  | ask question next ih => exact ih _ _

end Dialogue

end PhoneTree

import Mathlib.Data.List.Forall2
import PhoneTree.Database.Store
import PhoneTree.Proofs.FlowSteps
import PhoneTree.Script.Database

namespace PhoneTree

open Database

namespace Database

section Columns

variable {α β : Type} {read : Cell → Option α} {write : α → Cell} {row : Row} {column : String}

namespace Cell

end Cell

namespace Row

/-- A row has in each of some columns the cell for it. -/
def Holds (row : Row) (columns : List String) (cells : List Cell) : Prop :=
  List.Forall₂ (fun column cell => row.cells.lookup column = some cell) columns cells

section Holds

variable {columns : List String} {cells : List Cell}

theorem Holds.push {cell : Cell} (h : row.Holds columns cells) (fresh : column ∉ columns) :
    Holds ⟨(column, cell) :: row.cells⟩ columns cells := by
  induction h with
  | nil => exact .nil
  | @cons other _ _ _ hlookup _ ih =>
      have hother : other ≠ column := Ne.symm (List.ne_of_not_mem_cons fresh)
      refine .cons ?_ (ih (List.not_mem_of_not_mem_cons fresh))
      rwa [List.lookup_cons, beq_false_of_ne hother]

end Holds

end Row

end Columns

end Database

section Readers

variable {row : Row}

end Readers

namespace Database

open Script

namespace Exchange

variable {α β : Type}

/-- What comes of a program against a database with these replies, and the database after it. -/
def against (program : Exchange α) (replies : List Reply) : Except Failure α × ScriptedDatabase :=
  program.run.run ScriptedDatabase.answer { replies }

/-- The result of a program when the database replies as given. -/
def result (program : Exchange α) (replies : List Reply) : Except Failure α :=
  (program.against replies).1

end Exchange

end Database

section Survey

end Survey

end PhoneTree

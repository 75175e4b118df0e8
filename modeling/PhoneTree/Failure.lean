namespace PhoneTree

/-- The kinds of failure that callers tell apart. -/
inductive FailureKind
  | validationFailed
  | sessionNotFound
  | turnNotFound
  | recordingNotFound
  | conflict
  | duplicate
  | database
  | scheduler
  | internal
  deriving DecidableEq, Inhabited

namespace FailureKind

def all : List FailureKind :=
  [validationFailed, sessionNotFound, turnNotFound, recordingNotFound, conflict, duplicate,
    database, scheduler, internal]

/-- The word that stands for a kind of failure. -/
def code : FailureKind → String
  | validationFailed => "VALIDATION_FAILED"
  | sessionNotFound => "CALL_SESSION_NOT_FOUND"
  | turnNotFound => "TURN_NOT_FOUND"
  | recordingNotFound => "RECORDING_NOT_FOUND"
  | conflict => "CONCURRENCY_CONFLICT"
  | duplicate => "DUPLICATE_RECORD"
  | database => "DATABASE_ERROR"
  | scheduler => "SCHEDULER_ERROR"
  | internal => "INTERNAL_ERROR"

/-- The kind of failure that a word stands for. -/
def ofCode? (code : String) : Option FailureKind :=
  all.find? fun kind => kind.code == code

end FailureKind

/-- Why something failed, with a message and further details. -/
structure Failure where
  kind : FailureKind
  message : String
  details : List (String × String) := []
  deriving DecidableEq, Inhabited

namespace Failure

def text (error : Failure) : String :=
  s!"[{error.kind.code}] {error.message}"

/-- Whether the failure is a lost race. -/
def isConflict (error : Failure) : Bool :=
  error.kind == .conflict

/-- The details in the order of their names. -/
def sortedDetails (error : Failure) : List (String × String) :=
  error.details.mergeSort fun a b => decide (a.1 ≤ b.1)

/-- A failure of the database, told with what was tried. -/
def ofDatabase (context cause : String) : Failure :=
  ⟨.database, s!"{context}: {cause}", []⟩

end Failure

/-- Why a value is not acceptable. -/
inductive ValueError
  | empty (field : String)
  | badFormat (field reason : String)
  deriving DecidableEq, Inhabited

namespace ValueError

def text : ValueError → String
  | empty field => s!"Field '{field}' cannot be empty"
  | badFormat field reason => s!"Field '{field}' has invalid format: {reason}"

def toFailure (error : ValueError) : Failure :=
  ⟨.validationFailed, error.text, []⟩

end ValueError

def unknownStatus (word : String) : ValueError :=
  .badFormat "CallStatus" s!"unknown call status '{word}'"

end PhoneTree

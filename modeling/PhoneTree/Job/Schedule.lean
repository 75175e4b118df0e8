import PhoneTree.Job
import PhoneTree.Failure

namespace PhoneTree

/-- How often a job is tried, and the seconds between two attempts. -/
structure RetryPolicy where
  maxAttempts : Nat := 3
  backoffSeconds : Nat := 30
  deriving DecidableEq, Inhabited

/-- A job with the second it is due and how often it was attempted. -/
structure DueJob where
  due : Nat
  job : Job
  attempts : Nat
  deriving DecidableEq, Inhabited

/-- One attempt at a job, as it is told afterwards. -/
structure Attempt where
  second : Nat
  job : Job
  succeeded : Bool
  deriving DecidableEq, Inhabited

/-- The jobs that wait, and whether there is somebody to do them. A job that fails is tried again
after a while, until it has used up its attempts. -/
structure Schedule where
  policy : RetryPolicy := {}
  bound : Bool := false
  waiting : List DueJob := []
  deriving Inhabited

namespace Schedule

/-- Binds the schedule to its service, which succeeds only once. -/
def bind (schedule : Schedule) : Bool × Schedule :=
  (!schedule.bound, { schedule with bound := true })

/-- Lets a job wait at the given second for some seconds. -/
def add (schedule : Schedule) (now : Nat) (job : Job) (delaySeconds : Nat) :
    Except Failure Schedule :=
  if schedule.bound then
    .ok { schedule with
      waiting := schedule.waiting ++ [⟨now + delaySeconds, job, schedule.policy.maxAttempts⟩] }
  else .error { kind := .scheduler, message := "No job executor bound" }

/-- The jobs by the second they are due; jobs of one second keep their order. -/
def inOrder (jobs : List DueJob) : List DueJob :=
  jobs.mergeSort fun a b => decide (a.due ≤ b.due)

variable {σ : Type}

/-- Does waiting jobs for at most `fuel` attempts, the one that is due first at a time. -/
def runWithin (execute : Job → σ → Bool × σ) (backoff : Nat) :
    Nat → List DueJob → σ → List Attempt
  | 0, _, _ => []
  | fuel + 1, jobs, state =>
      match inOrder (jobs.filter fun job => 0 < job.attempts) with
      | [] => []
      | first :: rest =>
          let (succeeded, state) := execute first.job state
          let again : DueJob := ⟨first.due + backoff, first.job, first.attempts - 1⟩
          let rest := if succeeded then rest else rest ++ [again]
          ⟨first.due, first.job, succeeded⟩ :: runWithin execute backoff fuel rest state

/-- All attempts at the jobs that wait. There are at most as many as the jobs have left. -/
def run (schedule : Schedule) (execute : Job → σ → Bool × σ) (state : σ) : List Attempt :=
  let attempts := schedule.waiting.foldl (fun total job => total + job.attempts) 0
  runWithin execute schedule.policy.backoffSeconds attempts schedule.waiting state

end Schedule

end PhoneTree

import PhoneTree.Id

namespace PhoneTree

/-- A piece of work for later. -/
inductive Job
  | unansweredCall (session : SessionId)
  | finishedCall (session : SessionId)
  | attachRecording (recording : RecordingId)
  deriving DecidableEq, Inhabited

namespace Job

/-- The name of the kind of work. -/
def name : Job → String
  | unansweredCall _ => "unanswered_call"
  | finishedCall _ => "finished_call"
  | attachRecording _ => "attach_recording"

/-- What the work is about. -/
def subject : Job → Uuid
  | unansweredCall session => session.uuid
  | finishedCall session => session.uuid
  | attachRecording recording => recording.uuid

/-- The work of a name about a subject. -/
def ofName? (name : String) (subject : Uuid) : Option Job :=
  [unansweredCall ⟨subject⟩, finishedCall ⟨subject⟩, attachRecording ⟨subject⟩].find?
    fun job => job.name == name

def text (job : Job) : String :=
  s!"{job.name}({job.subject.text})"

end Job

end PhoneTree

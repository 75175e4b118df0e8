import PhoneTree.Proofs.FollowUp
import PhoneTree.Proofs.StatusRace

namespace PhoneTree

namespace Session

/-- The session after status updates, one after the other. -/
def afterUpdates (session : Session) (updates : List StatusUpdate) : Session :=
  updates.foldl afterUpdate session

/-- What each of a sequence of status updates does to a session. -/
def changesBy : Session → List StatusUpdate → List StatusChange
  | _, [] => []
  | session, update :: updates =>
      session.changeBy update :: (session.afterUpdate update).changesBy updates

/-- Why nobody is taken to have answered a call that we placed. -/
inductive Silence
  | status (status : CallStatus)
  | machine
  deriving DecidableEq

/-- The reasons why nobody is taken to have answered, of which there may be two. -/
def silences (session : Session) : List Silence :=
  (if session.isNoAnswer then session.status.toList.map .status else []) ++
    if session.isAnsweringMachine then [.machine] else []

/-- Nobody took the call, or only a machine did. -/
def isUnanswered (session : Session) : Bool :=
  session.isNoAnswer || session.isAnsweringMachine

section Steps

variable {session : Session} {update : StatusUpdate}

theorem isOutbound_afterUpdate (session : Session) (update : StatusUpdate) :
    (session.afterUpdate update).isOutbound = session.isOutbound := by
  rw [afterUpdate_eq]
  rfl

theorem answeredBy_afterUpdate (inbound : session.isOutbound = false) :
    (session.afterUpdate update).answeredBy = session.answeredBy := by
  rw [afterUpdate_eq_or]
  simp [inbound]

theorem changeBy_of_settled (h : session.afterUpdate update = session) :
    session.changeBy update = {} := by
  simp only [changeBy, h, bne_self_eq_false, Bool.false_and, Bool.or_self]
  cases session.status <;> rfl

theorem becameFinished_iff :
    (session.changeBy update).becameFinished = true ↔
      session.isOver = false ∧ (session.afterUpdate update).isOver = true := by
  simp only [changeBy, isOver, Bool.and_eq_true, Bool.not_eq_true', bne_iff_ne]
  constructor
  · rintro ⟨⟨_, hafter⟩, hbefore⟩
    exact ⟨hbefore, hafter⟩
  · rintro ⟨hbefore, hafter⟩
    refine ⟨⟨?_, hafter⟩, hbefore⟩
    intro hsame
    rw [hsame, hbefore] at hafter
    cases hafter

theorem canBecome_of_isTerminal {status : CallStatus} (h : status.isTerminal = true)
    (next : CallStatus) : status.canBecome next = false := by
  rw [CallStatus.isTerminal, List.isEmpty_iff] at h
  rw [CallStatus.canBecome, h]
  rfl

theorem outOfOrder_of_revived (hover : session.isOver = true)
    (hrevived : (session.afterUpdate update).isOver = false) :
    (session.changeBy update).outOfOrder = true := by
  obtain ⟨current, hcurrent, hterminal⟩ : ∃ current, session.status = some current ∧
      current.isTerminal = true := by simpa [isOver, Option.any_eq_true] using hover
  obtain ⟨next, hnext⟩ : ∃ next, (session.afterUpdate update).status = some next := by
    rw [status_afterUpdate, hcurrent]
    cases update.status <;> exact ⟨_, rfl⟩
  have hdiffers : next ≠ current := by
    rintro rfl
    rw [isOver, hnext, Option.any_some, hterminal] at hrevived
    cases hrevived
  simp [changeBy, hcurrent, hnext, hdiffers, canBecome_of_isTerminal hterminal]

theorem silences_eq_nil : session.silences = [] ↔ session.isUnanswered = false := by
  rw [silences, isUnanswered, List.append_eq_nil_iff, Bool.or_eq_false_iff]
  refine and_congr ?_ ?_
  · cases hstatus : session.status with
    | none => simp [isNoAnswer, hstatus]
    | some status => simp
  · simp

theorem exists_mem_silences :
    (∃ silence, silence ∈ session.silences) ↔ session.isUnanswered = true := by
  rw [← Bool.not_eq_false, ← silences_eq_nil]
  exact ⟨fun ⟨_, hsilence⟩ => List.ne_nil_of_mem hsilence, List.exists_mem_of_ne_nil _⟩

theorem status_mem_silences {status : CallStatus} :
    .status status ∈ session.silences ↔
      session.isNoAnswer = true ∧ session.status = some status := by
  rw [silences]
  cases session.isNoAnswer <;> cases session.isAnsweringMachine <;> simp

theorem machine_mem_silences :
    .machine ∈ session.silences ↔ session.isAnsweringMachine = true := by
  rw [silences]
  cases session.isNoAnswer <;> cases session.isAnsweringMachine <;> simp

/-- An update reports that a call went unanswered if it brings a reason for it. -/
theorem becameUnanswered_iff :
    (session.changeBy update).becameUnanswered = true ↔
      ∃ silence ∈ (session.afterUpdate update).silences, silence ∉ session.silences := by
  have hdirection := session.isOutbound_afterUpdate update
  simp only [changeBy, Bool.or_eq_true, Bool.and_eq_true, bne_iff_ne]
  constructor
  · rintro (⟨hchanged, hnoAnswer⟩ | ⟨hchanged, hmachine⟩)
    · obtain ⟨status, hstatus⟩ : ∃ status, (session.afterUpdate update).status = some status := by
        rw [isNoAnswer, Bool.and_eq_true, Option.any_eq_true] at hnoAnswer
        obtain ⟨_, status, hstatus, _⟩ := hnoAnswer
        exact ⟨status, hstatus⟩
      refine ⟨.status status, status_mem_silences.mpr ⟨hnoAnswer, hstatus⟩, ?_⟩
      intro hold
      exact hchanged (hstatus.trans (status_mem_silences.mp hold).2.symm)
    · refine ⟨.machine, machine_mem_silences.mpr hmachine, ?_⟩
      intro hold
      rw [machine_mem_silences, isAnsweringMachine, Bool.and_eq_true, beq_iff_eq] at hold
      rw [isAnsweringMachine, Bool.and_eq_true, beq_iff_eq] at hmachine
      exact hchanged (hmachine.2.trans hold.2.symm)
  · rintro ⟨status | _, hnow, hnew⟩
    · obtain ⟨hnoAnswer, hstatus⟩ := status_mem_silences.mp hnow
      refine .inl ⟨?_, hnoAnswer⟩
      intro hsame
      rw [isNoAnswer, hdirection, hsame] at hnoAnswer
      exact hnew (status_mem_silences.mpr ⟨hnoAnswer, hsame.symm.trans hstatus⟩)
    · have hmachine := machine_mem_silences.mp hnow
      refine .inr ⟨?_, hmachine⟩
      intro hsame
      rw [isAnsweringMachine, hdirection, hsame] at hmachine
      exact hnew (machine_mem_silences.mpr hmachine)

end Steps

section Sequences

variable {session : Session} {updates : List StatusUpdate} {place : Nat}

theorem length_changesBy (session : Session) (updates : List StatusUpdate) :
    (session.changesBy updates).length = updates.length := by
  induction updates generalizing session with
  | nil => rfl
  | cons update updates ih => exact congrArg (· + 1) (ih _)

theorem getElem?_changesBy (session : Session) (updates : List StatusUpdate) (place : Nat) :
    (session.changesBy updates)[place]? =
      updates[place]?.map (session.afterUpdates (updates.take place)).changeBy := by
  induction updates generalizing session place with
  | nil => rfl
  | cons update updates ih =>
      cases place with
      | zero => rfl
      | succ place => exact ih (session.afterUpdate update) place

theorem afterUpdates_take_succ {update : StatusUpdate} (h : updates[place]? = some update) :
    session.afterUpdates (updates.take (place + 1)) =
      (session.afterUpdates (updates.take place)).afterUpdate update := by
  rw [List.take_add_one, h, afterUpdates, List.foldl_append]
  rfl

/-- What the update at a place does is done to the session after all updates before it. -/
theorem changeAt {change : StatusChange}
    (h : (session.changesBy updates)[place]? = some change) :
    ∃ update, updates[place]? = some update ∧
      change = (session.afterUpdates (updates.take place)).changeBy update := by
  rw [getElem?_changesBy, Option.map_eq_some_iff] at h
  obtain ⟨update, hupdate, rfl⟩ := h
  exact ⟨update, hupdate, rfl⟩

theorem becameFinished_at {change : StatusChange}
    (h : (session.changesBy updates)[place]? = some change) :
    change.becameFinished = true ↔
      (session.afterUpdates (updates.take place)).isOver = false ∧
        (session.afterUpdates (updates.take (place + 1))).isOver = true := by
  obtain ⟨update, hupdate, rfl⟩ := changeAt h
  rw [afterUpdates_take_succ hupdate]
  exact becameFinished_iff

theorem becameUnanswered_at {change : StatusChange}
    (h : (session.changesBy updates)[place]? = some change) :
    change.becameUnanswered = true ↔
      ∃ silence ∈ (session.afterUpdates (updates.take (place + 1))).silences,
        silence ∉ (session.afterUpdates (updates.take place)).silences := by
  obtain ⟨update, hupdate, rfl⟩ := changeAt h
  rw [afterUpdates_take_succ hupdate]
  exact becameUnanswered_iff

/-- A call that is over at one time and not at a later one was taken out of its end in between. -/
theorem exists_revived {first last : Nat} (hlast : first ≤ last)
    (hover : (session.afterUpdates (updates.take first)).isOver = true)
    (hrevived : (session.afterUpdates (updates.take last)).isOver = false) :
    ∃ place, first ≤ place ∧ place < last ∧
      (session.afterUpdates (updates.take place)).isOver = true ∧
        (session.afterUpdates (updates.take (place + 1))).isOver = false := by
  induction hlast with
  | refl =>
      rw [hover] at hrevived
      cases hrevived
  | @step last hlast ih =>
      cases hbefore : (session.afterUpdates (updates.take last)).isOver with
      | true => exact ⟨last, hlast, Nat.lt_succ_self last, hbefore, hrevived⟩
      | false =>
          obtain ⟨place, hfirst, hplace, hrest⟩ := ih hbefore
          exact ⟨place, hfirst, Nat.lt_succ_of_lt hplace, hrest⟩

theorem exists_outOfOrder {first second : Nat} {change change' : StatusChange}
    (hbefore : first < second) (hfirst : (session.changesBy updates)[first]? = some change)
    (hsecond : (session.changesBy updates)[second]? = some change')
    (finishes : change.becameFinished = true) (finishes' : change'.becameFinished = true) :
    ∃ place odd, first < place ∧ place < second ∧
      (session.changesBy updates)[place]? = some odd ∧ odd.outOfOrder = true := by
  obtain ⟨_, hover⟩ := (becameFinished_at hfirst).mp finishes
  obtain ⟨hrevived, _⟩ := (becameFinished_at hsecond).mp finishes'
  obtain ⟨place, hplace, hlast, hat, hnext⟩ := exists_revived hbefore hover hrevived
  have hlength : second < (session.changesBy updates).length :=
    (List.getElem?_eq_some_iff.mp hsecond).1
  rw [length_changesBy] at hlength
  have hupdate := List.getElem?_eq_getElem (Nat.lt_trans hlast hlength)
  refine ⟨place, (session.afterUpdates (updates.take place)).changeBy updates[place], hplace,
    hlast, ?_, ?_⟩
  · rw [getElem?_changesBy, hupdate, Option.map_some]
  · rw [afterUpdates_take_succ hupdate] at hnext
    exact outOfOrder_of_revived hat hnext

/-- A call becomes finished just by the updates that end it, and between two of them some update
comes out of order. An update that comes again finds nothing to change, and none of them changes
anything but the status and, if we placed the call, who answered it. -/
theorem calls_finish_again_only_out_of_order (session : Session) (updates : List StatusUpdate) :
    (session.changesBy updates).length = updates.length ∧
      (∀ (place : Nat) (change : StatusChange), (session.changesBy updates)[place]? = some change →
        (change.becameFinished = true ↔
          (session.afterUpdates (updates.take place)).isOver = false ∧
            (session.afterUpdates (updates.take (place + 1))).isOver = true)) ∧
      (∀ (first second : Nat) (change change' : StatusChange), first < second →
        (session.changesBy updates)[first]? = some change →
        (session.changesBy updates)[second]? = some change' →
        change.becameFinished = true → change'.becameFinished = true →
        ∃ (place : Nat) (odd : StatusChange), first < place ∧ place < second ∧
          (session.changesBy updates)[place]? = some odd ∧ odd.outOfOrder = true) ∧
      ∀ (place : Nat) (update : StatusUpdate), updates[place]? = some update →
        let before := session.afterUpdates (updates.take place)
        let after := session.afterUpdates (updates.take (place + 1))
        (after.changeBy update = {} ∧ after.afterUpdate update = after) ∧
          after = { before with status := after.status, answeredBy := after.answeredBy } ∧
            (before.isOutbound = false → after.answeredBy = before.answeredBy) := by
  refine ⟨length_changesBy session updates, fun _ _ => becameFinished_at,
    fun _ _ _ _ => exists_outOfOrder, ?_⟩
  intro place update hupdate before after
  have hafter : after = before.afterUpdate update := afterUpdates_take_succ hupdate
  have hsettled : after.afterUpdate update = after := by
    rw [hafter]
    exact afterUpdate_afterUpdate before update
  refine ⟨⟨changeBy_of_settled hsettled, hsettled⟩, ?_, ?_⟩
  · rw [hafter]
    exact afterUpdate_eq before update
  · intro inbound
    rw [hafter]
    exact answeredBy_afterUpdate inbound

/-- A call that ends, rings again out of order and ends again. -/
def revivingUpdates : List StatusUpdate :=
  [{ status := some .completed }, { status := some .ringing, answeredBy := some .human },
    { status := some .busy }]

theorem revivedCall_finishes_again :
    let changes := racedRow.changesBy revivingUpdates
    (∃ place odd, 0 < place ∧ place < 2 ∧ changes[place]? = some odd ∧ odd.outOfOrder = true) ∧
      changes.map (·.becameFinished) = [true, false, true] ∧
      (racedRow.afterUpdates revivingUpdates).changeBy { status := some .busy } = {} := by
  obtain ⟨_, _, departs, settles⟩ := calls_finish_again_only_out_of_order racedRow revivingUpdates
  refine ⟨?_, by decide, ?_⟩
  · exact departs 0 2 _ _ (by decide) rfl rfl (by decide) (by decide)
  · exact (settles 2 _ rfl).1.1

end Sequences

/-- A session of the same call that has got as far. -/
structure Resembles (other session : Session) : Prop where
  facts : other.facts = session.facts
  status : other.status = session.status
  answeredBy : other.answeredBy = session.answeredBy

section Resembling

variable {session other : Session}

theorem Resembles.afterUpdate (h : other.Resembles session) (update : StatusUpdate) :
    (other.afterUpdate update).Resembles (session.afterUpdate update) where
  facts := by
    rw [(other.afterUpdate_revises update).facts, (session.afterUpdate_revises update).facts,
      h.facts]
  status := by
    rw [afterUpdate_eq_or, afterUpdate_eq_or session, h.status]
  answeredBy := by
    have hdirection : other.direction = session.direction := congrArg CallFacts.direction h.facts
    rw [afterUpdate_eq_or, afterUpdate_eq_or session, isOutbound, isOutbound, hdirection,
      h.answeredBy]

theorem Resembles.changeBy_eq (h : other.Resembles session) (update : StatusUpdate) :
    other.changeBy update = session.changeBy update := by
  have hnext := h.afterUpdate update
  have hdirection : (other.afterUpdate update).direction = (session.afterUpdate update).direction :=
    congrArg CallFacts.direction hnext.facts
  simp only [changeBy, isNoAnswer, isAnsweringMachine, isOutbound, h.status, h.answeredBy,
    hnext.status, hnext.answeredBy, hdirection]

theorem Resembles.changesBy_eq (h : other.Resembles session) (updates : List StatusUpdate) :
    other.changesBy updates = session.changesBy updates := by
  induction updates generalizing other session with
  | nil => rfl
  | cons update updates ih =>
      rw [changesBy, changesBy, h.changeBy_eq, ih (h.afterUpdate update)]

end Resembling

end Session

namespace World

open Service

variable {world : World} {row : Session} {report : Params}

/-- The world after status webhooks, one after the other. -/
def afterReports (world : World) (reports : List Params) : World :=
  reports.foldl (fun world report => (world.perform (updateCall report)).2) world

/-- The work that changes of a session leave. -/
def workFor (row : Session) (changes : List StatusChange) : List (Job × Nat) :=
  changes.flatMap fun change => (jobsAfter row (some change)).map (·, settleDelay)

theorem perform_leaveWork (world : World) (session : Session) (jobs : List Job) :
    world.perform (leaveWork session jobs) = (.ok session,
      { world with scheduled := world.scheduled ++ jobs.map (·, settleDelay) }) := by
  induction jobs generalizing world with
  | nil => rw [List.map_nil, List.append_nil]; rfl
  | cons job jobs ih =>
      change World.perform (leaveWork session jobs)
        { world with scheduled := world.scheduled ++ [(job, settleDelay)] } = _
      rw [ih, List.append_assoc]
      rfl

theorem perform_updateCall (found : world.store.Finds row) (hsid : report.callSid? = some row.sid) :
    world.perform (updateCall report) =
      world.perform (applyUpdate (world.store.load row) (.ofParams report)) := by
  have hfield : requireField report "CallSid" = pure row.sid := by
    rw [requireField, show report.get? "CallSid" = some row.sid from hsid]
  rw [updateCall, findUpdatedCall, findCall, hfield]
  change Dialogue.run World.answer (.ask (.sessionBySid row.sid) _) world = _
  rw [Dialogue.run_ask, found.answer_sessionBySid]
  rfl

theorem perform_report (found : world.store.Finds row) (calm : world.store.conflicts = 0)
    (hsid : report.callSid? = some row.sid) :
    ∃ (row' : Session) (after : World), (world.perform (updateCall report)).2 = after ∧
      row'.Resembles (row.afterUpdate (.ofParams report)) ∧ after.store.Finds row' ∧
      after.store.conflicts = 0 ∧
      after.scheduled = world.scheduled ++ workFor row [row.changeBy (.ofParams report)] := by
  rw [perform_updateCall found hsid]
  generalize StatusUpdate.ofParams report = update
  have hloaded : (world.store.load row).Resembles row := ⟨rfl, rfl, rfl⟩
  have hchange := hloaded.changeBy_eq update
  cases changes : ((world.store.load row).changeBy update).changed with
  | false =>
      have hsettled := Session.afterUpdate_of_unchanged (hchange ▸ changes)
      rw [applyUpdate_of_unchanged changes]
      refine ⟨row, world, rfl, ?_, found, calm, ?_⟩
      · rw [hsettled]
        exact ⟨rfl, rfl, rfl⟩
      · rw [Session.changeBy_of_settled hsettled]
        exact (List.append_nil _).symm
  | true =>
      have hid : (world.reported row update).id = row.id := reported_id
      obtain ⟨facts, status, answeredBy⟩ := hloaded.afterUpdate update
      rw [perform_applyUpdate found calm changes, perform_leaveWork]
      refine ⟨Store.row (world.reported row update), _, rfl, ⟨facts, status, answeredBy⟩,
        putReported_finds found, calm, ?_⟩
      rw [workReported, hchange, workFor, List.flatMap_singleton, jobsAfter, jobsAfter, hid]
      rfl

theorem scheduled_afterReports (found : world.store.Finds row) (calm : world.store.conflicts = 0)
    {reports : List Params} (hsids : ∀ report ∈ reports, report.callSid? = some row.sid) :
    (world.afterReports reports).scheduled =
      world.scheduled ++ workFor row (row.changesBy (reports.map .ofParams)) := by
  induction reports generalizing world row with
  | nil => exact (List.append_nil _).symm
  | cons report reports ih =>
      obtain ⟨row', after, hafter, resembles, found', calm', hscheduled⟩ :=
        perform_report found calm (hsids report List.mem_cons_self)
      have hfacts := resembles.facts.trans (row.afterUpdate_revises _).facts
      have hid : row'.id = row.id := congrArg CallFacts.id hfacts
      have hsid : row'.sid = row.sid := congrArg CallFacts.sid hfacts
      have hrest := ih found' calm' fun report hreport => by
        rw [hsid]
        exact hsids report (List.mem_cons_of_mem _ hreport)
      have hwork (changes : List StatusChange) : workFor row' changes = workFor row changes := by
        simp only [workFor, jobsAfter, hid]
      rw [afterReports, List.foldl_cons, hafter]
      refine hrest.trans ?_
      rw [hscheduled, resembles.changesBy_eq, hwork, List.append_assoc]
      simp only [workFor, List.map_cons, Session.changesBy, List.flatMap_cons, List.flatMap_nil,
        List.append_nil]

theorem countP_workFor (row : Session) (changes : List StatusChange) :
    (workFor row changes).countP (fun entry => entry.1 == .unansweredCall row.id) =
      changes.countP (·.becameUnanswered) := by
  induction changes with
  | nil => rfl
  | cons change changes ih =>
      have hwork : (workFor row [change]).countP (fun entry => entry.1 == .unansweredCall row.id) =
          if change.becameUnanswered then 1 else 0 := by
        rw [workFor, List.flatMap_singleton, jobsAfter]
        cases change.becameUnanswered <;> cases change.becameFinished <;> simp
      rw [workFor, List.flatMap_singleton] at hwork
      rw [workFor, List.flatMap_cons, List.countP_append, hwork, List.countP_cons, ← ih,
        Nat.add_comm]
      rfl

end World

/-- An update reports that a call went unanswered just if it brings a reason for it that was not
there before. If there was none, this is when the call goes unanswered. Status webhooks leave work
for an unanswered call as often as it is reported. -/
theorem unanswered_calls_are_reported_by_reason (session : Session) (updates : List StatusUpdate) :
    (∀ (place : Nat) (change : StatusChange), (session.changesBy updates)[place]? = some change →
      let before := session.afterUpdates (updates.take place)
      let after := session.afterUpdates (updates.take (place + 1))
      (change.becameUnanswered = true ↔
        ∃ silence ∈ after.silences, silence ∉ before.silences) ∧
        (before.isUnanswered = false →
          (change.becameUnanswered = true ↔ after.isUnanswered = true))) ∧
      ∀ (world : World) (reports : List Params), world.store.Finds session →
        world.store.conflicts = 0 → (∀ report ∈ reports, report.callSid? = some session.sid) →
        reports.map .ofParams = updates →
        (world.afterReports reports).scheduled.countP
            (fun entry => entry.1 == .unansweredCall session.id) =
          world.scheduled.countP (fun entry => entry.1 == .unansweredCall session.id) +
            (session.changesBy updates).countP (·.becameUnanswered) := by
  constructor
  · intro place change hchange before after
    have hreported := Session.becameUnanswered_at hchange
    refine ⟨hreported, ?_⟩
    intro hbefore
    rw [hreported, Session.silences_eq_nil.mpr hbefore]
    simp only [List.not_mem_nil, not_false_eq_true, and_true]
    exact Session.exists_mem_silences
  · rintro world reports found calm hsids rfl
    rw [World.scheduled_afterReports found calm hsids, List.countP_append, World.countP_workFor]

def statusReport (status : CallStatus) : Params :=
  .ofList [("CallSid", missedRow.sid), ("CallStatus", status.text)]

/-- A call that nobody takes, which is reported twice over. -/
def missedReports : List Params :=
  [statusReport .ringing, statusReport .noAnswer, statusReport .noAnswer]

theorem missedCall_is_reported_once :
    (missedCall.afterReports missedReports).scheduled.countP
      (fun entry => entry.1 == .unansweredCall missedRow.id) = 1 := by
  obtain ⟨_, hjobs⟩ := unanswered_calls_are_reported_by_reason missedRow
    (missedReports.map .ofParams)
  rw [hjobs missedCall missedReports ⟨rfl, rfl, by decide⟩ rfl (by decide) rfl]
  decide

/-- A call that is busy and fails then stays unanswered, and is reported and followed up twice. -/
theorem failedCall_is_reported_twice :
    let busy := missedRow.afterUpdate { status := some .busy }
    busy.isUnanswered = true ∧
      (busy.changeBy { status := some .failed }).becameUnanswered = true ∧
      (missedCall.afterReports [statusReport .busy, statusReport .failed]).scheduled =
        [(.unansweredCall missedRow.id, 10), (.finishedCall missedRow.id, 10),
          (.unansweredCall missedRow.id, 10)] := by
  decide +kernel

end PhoneTree

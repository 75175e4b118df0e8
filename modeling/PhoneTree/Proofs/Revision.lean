import PhoneTree.Proofs.Intact
import PhoneTree.Service.Jobs

namespace PhoneTree

/-- Whether what follows the end of a call, or an unanswered call, has been marked as done. -/
def Session.isMarked (session : Session) : Hook → Bool
  | .finished => session.finished
  | .unanswered => session.unanswered

theorem StatusUpdate.eq_of_isEmpty {update : StatusUpdate} (h : update.isEmpty = true) :
    update = {} := by
  rcases update with ⟨_ | status, _ | verdict⟩ <;> simp [isEmpty] at h ⊢

/-- A session with the facts, the version and at least the marks of another. -/
structure Session.Revises (changed session : Session) : Prop where
  facts : changed.facts = session.facts
  version : changed.version = session.version
  marked : ∀ hook, session.isMarked hook = true → changed.isMarked hook = true

/-- A change of session rows that revises every session, and leaves the row alone when it asks for
nothing to be stored. -/
structure RowChange {α : Type} (change : Session → Session × Option α) : Prop where
  revises : ∀ session, (change session).1.Revises session
  quiet : ∀ session, (change session).2 = none → Store.row (change session).1 = Store.row session

namespace Session

theorem Revises.refl (session : Session) : session.Revises session :=
  ⟨rfl, rfl, fun _ h => h⟩

theorem Revises.trans {first second third : Session} (h : first.Revises second)
    (h' : second.Revises third) : first.Revises third where
  facts := h.facts.trans h'.facts
  version := h.version.trans h'.version
  marked := fun hook hmarked => h.marked hook (h'.marked hook hmarked)

theorem Revises.id_eq {changed session : Session} (h : changed.Revises session) :
    changed.id = session.id :=
  congrArg CallFacts.id h.facts

theorem afterUpdate_eq_or (session : Session) (update : StatusUpdate) :
    session.afterUpdate update = { session with
      status := update.status.or session.status
      answeredBy := if session.isOutbound then update.answeredBy.or session.answeredBy
        else session.answeredBy } := by
  rcases update with ⟨_ | status, _ | verdict⟩ <;> simp only [afterUpdate, answer, progress] <;>
    cases session.isOutbound <;> rfl

theorem status_afterUpdate (session : Session) (update : StatusUpdate) :
    (session.afterUpdate update).status = update.status.or session.status := by
  rw [afterUpdate_eq_or]

theorem status_of_moved {session : Session} {update : StatusUpdate}
    (h : (session.afterUpdate update).status ≠ session.status) :
    (session.afterUpdate update).status = update.status := by
  rw [status_afterUpdate] at h ⊢
  cases hstatus : update.status with
  | none =>
      rw [hstatus] at h
      exact absurd rfl h
  | some status => rfl

theorem answeredBy_of_moved {session : Session} {update : StatusUpdate}
    (h : (session.afterUpdate update).answeredBy ≠ session.answeredBy) :
    (session.afterUpdate update).answeredBy = update.answeredBy := by
  rw [afterUpdate_eq_or] at h ⊢
  dsimp only at h ⊢
  split at h
  · rename_i houtbound
    rw [if_pos houtbound]
    cases hverdict : update.answeredBy with
    | none =>
        rw [hverdict] at h
        exact absurd rfl h
    | some verdict => rfl
  · exact absurd rfl h

theorem afterUpdate_eq (session : Session) (update : StatusUpdate) :
    session.afterUpdate update = { session with
      status := (session.afterUpdate update).status
      answeredBy := (session.afterUpdate update).answeredBy } := by
  rw [afterUpdate_eq_or]

theorem afterUpdate_revises (session : Session) (update : StatusUpdate) :
    (session.afterUpdate update).Revises session := by
  rw [afterUpdate_eq]
  refine ⟨rfl, rfl, ?_⟩
  intro hook hmarked
  cases hook <;> exact hmarked

theorem afterUpdate_of_unchanged {session : Session} {update : StatusUpdate}
    (h : (session.changeBy update).changed = false) : session.afterUpdate update = session := by
  have hsame : (session.afterUpdate update).status = session.status ∧
      (session.afterUpdate update).answeredBy = session.answeredBy := by
    simpa [changeBy, StatusChange.changed] using h
  rw [afterUpdate_eq, hsame.1, hsame.2]

theorem afterUpdate_afterUpdate (session : Session) (update : StatusUpdate) :
    (session.afterUpdate update).afterUpdate update = session.afterUpdate update := by
  rw [afterUpdate_eq_or (session.afterUpdate update), afterUpdate_eq_or session]
  cases hdirection : session.direction <;>
    simp [isOutbound, hdirection, ← Option.or_assoc]

theorem advance_afterUpdate (session : Session) (update : StatusUpdate) :
    session.advance.afterUpdate update = (session.afterUpdate update).advance := by
  rw [afterUpdate_eq_or, afterUpdate_eq_or]
  rfl

theorem changeBy_updated (session : Session) (update : StatusUpdate) :
    ((session.afterUpdate update).advance.changeBy update).changed = false := by
  have hsame : (session.afterUpdate update).advance.afterUpdate update =
      (session.afterUpdate update).advance := by
    rw [advance_afterUpdate, afterUpdate_afterUpdate]
  simp [changeBy, StatusChange.changed, hsame]

theorem changeBy_nothing (session : Session) : (session.changeBy {}).changed = false := by
  simp [changeBy, StatusChange.changed, afterUpdate, answer, progress]

theorem foldl_recordTurn (turns : List Turn) (session : Session) :
    ∃ recorded length, turns.foldl recordTurn session =
      { session with turns := recorded, lengthSeconds := length } := by
  induction turns generalizing session with
  | nil => exact ⟨session.turns, session.lengthSeconds, rfl⟩
  | cons turn rest ih =>
      obtain ⟨recorded, length, h⟩ := ih (session.recordTurn turn)
      refine ⟨recorded, length, ?_⟩
      rw [List.foldl_cons, h, recordTurn]
      split <;> rfl

end Session

/-- The change of a session that takes an update over. -/
def Session.takeOver (update : StatusUpdate) (session : Session) : Session × Option StatusChange :=
  let change := session.changeBy update
  (session.afterUpdate update, if change.changed then some change else none)

theorem Session.takeOver_of_unchanged {session : Session} {update : StatusUpdate}
    (h : (session.changeBy update).changed = false) :
    session.takeOver update = (session, none) := by
  simp [takeOver, afterUpdate_of_unchanged h, h]

theorem Session.takeOver_of_changed {session : Session} {update : StatusUpdate}
    (h : (session.changeBy update).changed = true) :
    session.takeOver update = (session.afterUpdate update, some (session.changeBy update)) := by
  simp [takeOver, h]

theorem rowChange_takeOver (update : StatusUpdate) : RowChange (Session.takeOver update) where
  revises session := session.afterUpdate_revises update
  quiet session h := by
    have hunchanged : (session.changeBy update).changed = false := by
      simpa [Session.takeOver] using h
    rw [Session.takeOver_of_unchanged hunchanged]

theorem rowChange_recordTurns (turns : List Turn) : RowChange (Service.recordTurns turns) where
  revises session := by
    obtain ⟨recorded, length, h⟩ := Session.foldl_recordTurn turns session
    rw [Service.recordTurns, h]
    refine ⟨rfl, rfl, ?_⟩
    intro hook hmarked
    cases hook <;> exact hmarked
  quiet session hnone := by
    obtain ⟨recorded, length, h⟩ := Session.foldl_recordTurn turns session
    simp only [Service.recordTurns, h] at hnone ⊢
    have hlength : length = session.lengthSeconds := by simpa using hnone
    rw [hlength]
    rfl

theorem rowChange_markFinished :
    RowChange fun session : Session =>
      (session.markFinished, if session.finished then none else some ()) where
  revises session := by
    refine ⟨rfl, rfl, ?_⟩
    intro hook hmarked
    cases hook
    · exact hmarked
    · rfl
  quiet session h := by
    have hfinished : session.finished = true := by simpa using h
    simp [Session.markFinished, Store.row, hfinished]

theorem rowChange_markUnanswered :
    RowChange fun session : Session =>
      (session.markUnanswered, if session.unanswered then none else some ()) where
  revises session := by
    refine ⟨rfl, rfl, ?_⟩
    intro hook hmarked
    cases hook
    · rfl
    · exact hmarked
  quiet session h := by
    have hunanswered : session.unanswered = true := by simpa using h
    simp [Session.markUnanswered, Store.row, hunanswered]

namespace Service

open PhoneTree.Action

variable {α : Type} {change : Session → Session × Option α} {session changed : Session}

/-- What follows a failed update of a session. -/
def afterFailure (change : Session → Session × Option α) (session : Session) (error : Failure) :
    (retries : Nat) → Action (Session × Option α)
  | 0 => throw (.ofFailure error)
  | retries + 1 =>
      if error.isConflict then do
        match ← ofAnswer (← ask (.sessionById session.id)) with
        | some session => changeSession change retries session
        | none => throw (.callNotFound session.id.uuid.text)
      else throw (.ofFailure error)

theorem changeSession_of_none {retries : Nat} (h : change session = (changed, none)) :
    changeSession change retries session = pure (changed, none) := by
  rw [changeSession.eq_1, h]

theorem changeSession_of_some {retries : Nat} {outcome : α}
    (h : change session = (changed, some outcome)) :
    changeSession change retries session = ask (.updateSession changed) >>= fun answer =>
      match answer with
      | .ok session => pure (session, some outcome)
      | .error error => afterFailure change changed error retries := by
  rw [changeSession.eq_1, h]
  cases retries <;> rfl

section Loop

variable {σ : Type} {rules : Rules Question Question.Answer σ} {state : σ}
  {kept : Session → σ → Prop} {post : Session × Option α → σ → Prop}
  {fails : CallError → σ → Prop}

/-- A change is made on sessions of which `kept` holds: on the one that it begins with and, after a
lost race, on the one that is read then. -/
theorem changeSession_loop (retries : Nat)
    (unchanged : ∀ base changed state, kept base state → change base = (changed, none) →
      post (changed, none) state)
    (sends : ∀ base sent outcome state, kept base state → change base = (sent, some outcome) →
      rules.MayAsk state (.updateSession sent))
    (stored : ∀ base sent outcome state updated state', kept base state →
      change base = (sent, some outcome) →
        rules.Answers state (.updateSession sent) (.ok updated) state' →
          post (updated, some outcome) state')
    (refused : ∀ base sent outcome state failure state', kept base state →
      change base = (sent, some outcome) →
        rules.Answers state (.updateSession sent) (.error failure) state' →
          fails (.ofFailure failure) state' ∧ (failure.isConflict = true →
            Ensures rules (do ofAnswer (← ask (.sessionById sent.id))) state'
              (fun loaded? state => match loaded? with
                | some loaded => kept loaded state
                | none => fails (.callNotFound sent.id.uuid.text) state) fails))
    (holds : kept session state) :
    Ensures rules (changeSession change retries session) state post fails := by
  induction retries using Nat.strongRecOn generalizing state session with
  | ind retries ih =>
      rcases hchanged : change session with ⟨changed, _ | outcome⟩
      · rw [changeSession_of_none hchanged]
        exact unchanged session changed state holds hchanged
      · rw [changeSession_of_some hchanged, ensures_bind, ensures_ask]
        refine ⟨sends session changed outcome state holds hchanged, ?_⟩
        rintro (failure | updated) state' answered
        · obtain ⟨hfails, hread⟩ :=
            refused session changed outcome state failure state' holds hchanged answered
          cases retries with
          | zero => exact hfails
          | succ retries =>
              simp only [afterFailure]
              split
              · rename_i hconflict
                refine ensures_bind_assoc.mpr ((hread hconflict).mono ?_ fun _ _ h => h)
                rintro (_ | loaded) third hloaded
                · exact hloaded
                · exact ih retries (Nat.lt_succ_self _) hloaded
              · exact hfails
        · exact stored session changed outcome state updated state' holds hchanged answered

end Loop

/-- What a change of a session leaves for later. -/
def jobsAfter (session : Session) : Option StatusChange → List Job
  | none => []
  | some change =>
      (if change.becameUnanswered then [.unansweredCall session.id] else []) ++
        if change.becameFinished then [.finishedCall session.id] else []

/-- Schedules jobs one after another for a session. -/
def leaveWork (session : Session) : List Job → Action Session
  | [] => pure session
  | job :: jobs => do
      ofAnswer (← ask (.schedule job settleDelay))
      leaveWork session jobs

theorem applyUpdate_eq (session : Session) (update : StatusUpdate) :
    applyUpdate session update =
      if update.isEmpty then pure session
      else updateSession session (Session.takeOver update) >>= fun updated =>
        leaveWork updated.1 (jobsAfter updated.1 updated.2) := by
  have hwork (session : Session) (change : StatusChange) :
      leaveWork session (jobsAfter session (some change)) = (do
        if change.becameUnanswered then
          ofAnswer (← ask (.schedule (.unansweredCall session.id) settleDelay))
        if change.becameFinished then
          ofAnswer (← ask (.schedule (.finishedCall session.id) settleDelay))
        pure session) := by
    rw [jobsAfter]
    cases change.becameUnanswered <;> cases change.becameFinished <;> rfl
  rw [applyUpdate]
  split
  · rfl
  · refine congrArg (updateSession session (Session.takeOver update) >>= ·) ?_
    funext ⟨updated, change⟩
    cases change with
    | none => rfl
    | some change => exact (hwork updated change).symm

end Service

end PhoneTree

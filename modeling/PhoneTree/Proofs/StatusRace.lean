import PhoneTree.Proofs.CommandFootprint
import PhoneTree.Proofs.SessionUpdates

namespace PhoneTree

namespace Client

/-- A client that takes over what a report says about the call. -/
def reporting (update : StatusUpdate) (bySid : Bool) : Client StatusChange where
  bySid
  change := Session.takeOver update
  id_eq session := (session.afterUpdate_revises update).id_eq
  sid_eq session := congrArg CallFacts.sid (session.afterUpdate_revises update).facts
  version_eq session := (session.afterUpdate_revises update).version

/-- A delivery of a report: the session is found and takes the update over. -/
def report (row : Session) (update : StatusUpdate) (bySid : Bool) : Action Session := do
  match ← (reporting update bySid).find row with
  | some session => Service.applyUpdate session update
  | none => throw (.callNotFound row.sid)

end Client

namespace Service

variable {session : Session} {update : StatusUpdate}

theorem applyUpdate_of_unchanged (h : (session.changeBy update).changed = false) :
    applyUpdate session update = pure session := by
  rw [applyUpdate_eq]
  split
  · rfl
  · rw [updateSession, changeSession_of_none (Session.takeOver_of_unchanged h)]
    rfl

theorem applyUpdate_of_changed (h : (session.changeBy update).changed = true) :
    ∃ next : (Question.updateSession (session.afterUpdate update)).Answer →
        Dialogue Question Question.Answer (Except CallError Session),
      (applyUpdate session update).run =
          .ask (.updateSession (session.afterUpdate update)) next ∧
        (∀ stored : Session, next (Except.ok stored) =
          (leaveWork stored (jobsAfter stored (some (session.changeBy update)))).run) ∧
        ∀ error : Failure, next (Except.error error) =
          (afterFailure (Session.takeOver update) (session.afterUpdate update) error
            (maxAttempts - 1) >>= fun updated =>
              leaveWork updated.1 (jobsAfter updated.1 updated.2)).run := by
  have hreports : ¬update.isEmpty = true := by
    intro hempty
    rw [StatusUpdate.eq_of_isEmpty hempty, Session.changeBy_nothing] at h
    cases h
  rw [applyUpdate_eq, if_neg hreports, updateSession,
    changeSession_of_some (Session.takeOver_of_changed h)]
  exact ⟨_, rfl, fun _ => rfl, fun _ => rfl⟩

end Service

namespace Store

variable {store : Store} {row session : Session}

theorem Finds.answer_sessionById {world : World} (h : world.store.Finds row) :
    World.answer (.sessionById row.id) world = (.ok (some (world.store.load row)), world) := by
  rw [World.answer, sessionById, h.byId]
  rfl

theorem Finds.answer_sessionBySid {world : World} (h : world.store.Finds row) :
    World.answer (.sessionBySid row.sid) world = (.ok (some (world.store.load row)), world) := by
  rw [World.answer, sessionBySid, h.bySid]
  rfl

theorem updateSession_of_current (calm : store.conflicts = 0)
    (found : store.sessionRow? session.id = some row) (current : row.version = session.version) :
    store.updateSession session = (.ok session.advance,
      { store with sessions := putRow (Store.row session.advance) store.sessions }) := by
  simp [updateSession, calm, found, current]

theorem updateSession_of_outdated (calm : store.conflicts = 0)
    (found : store.sessionRow? session.id = some row) (outdated : row.version ≠ session.version) :
    ∃ failure : Failure, failure.isConflict = true ∧
      store.updateSession session = (.error failure, store) := by
  simp only [updateSession, calm, found, if_neg outdated]
  exact ⟨_, rfl, rfl⟩

end Store

section Overtaken

variable {store : Store} {row stored session : Session} {update : StatusUpdate}

/-- The rules of a program that changes nothing as long as the others leave a store as it is. -/
def Store.still (store : Store) : Rules Question Question.Answer Unit where
  MayAsk _ question :=
    ∀ world : World, world.store = store → (World.answer question world).2 = world
  Answers _ question answer _ :=
    ∃ world : World, world.store = store ∧ answer = (World.answer question world).1

/-- What is left of a delivery comes to a session and changes nothing more. -/
def Overtaken (store : Store) (session : Session)
    (rest : Dialogue Question Question.Answer (Except CallError Session)) : Prop :=
  rest.Ensures store.still () fun result _ => result = .ok session

theorem overtaken_of_ensures {action : Action Session}
    (h : Action.Ensures store.still action () (fun loaded _ => loaded = session)
      fun _ _ => False) : Overtaken store session action.run := by
  refine Dialogue.Ensures.mono h ?_
  rintro (error | loaded) _ hloaded
  · exact hloaded.elim
  · exact congrArg Except.ok hloaded

theorem still_read {question : Question} {value : question.Answer}
    {post : question.Answer → Unit → Prop} {fails : CallError → Unit → Prop}
    (answered : ∀ world : World, world.store = store → World.answer question world = (value, world))
    (done : post value ()) : Action.Ensures store.still (Action.ask question) () post fails := by
  refine Action.ensures_ask.mpr ⟨?_, ?_⟩
  · intro world hworld
    rw [answered world hworld]
  · rintro _ _ ⟨world, hworld, rfl⟩
    rw [answered world hworld]
    exact done

theorem Store.Finds.sessionById_still {id : SessionId}
    {post : Except Failure (Option Session) → Unit → Prop} {fails : CallError → Unit → Prop}
    (found : store.Finds stored) (hid : stored.id = id)
    (done : post (.ok (some (store.load stored))) ()) :
    Action.Ensures store.still (Action.ask (.sessionById id)) () post fails := by
  refine still_read ?_ done
  rintro world rfl
  rw [← hid]
  exact found.answer_sessionById

theorem Store.Finds.sessionBySid_still {sid : String}
    {post : Except Failure (Option Session) → Unit → Prop} {fails : CallError → Unit → Prop}
    (found : store.Finds stored) (hsid : stored.sid = sid)
    (done : post (.ok (some (store.load stored))) ()) :
    Action.Ensures store.still (Action.ask (.sessionBySid sid)) () post fails := by
  refine still_read ?_ done
  rintro world rfl
  rw [← hsid]
  exact found.answer_sessionBySid

theorem Store.Finds.report_overtaken {bySid : Bool} (found : store.Finds stored)
    (hid : stored.id = row.id) (hsid : stored.sid = row.sid)
    (taken : ((store.load stored).changeBy update).changed = false) :
    Overtaken store (store.load stored) (Client.report row update bySid).run := by
  have hdone : Action.Ensures store.still (Service.applyUpdate (store.load stored) update) ()
      (fun loaded _ => loaded = store.load stored) fun _ _ => False := by
    rw [Service.applyUpdate_of_unchanged taken]
    rfl
  apply overtaken_of_ensures
  refine Action.ensures_bind.mpr ?_
  cases bySid with
  | true => exact Action.ensures_bind.mpr (found.sessionBySid_still hsid hdone)
  | false => exact Action.ensures_bind.mpr (found.sessionById_still hid hdone)

/-- Whoever has read the session before somebody else took the update over loses the race, reads the
session again and changes nothing. -/
theorem Store.Finds.applyUpdate_overtaken (found : store.Finds stored) (calm : store.conflicts = 0)
    (hid : stored.id = session.id) (outdated : stored.version ≠ session.version)
    (changes : (session.changeBy update).changed = true)
    (taken : ((store.load stored).changeBy update).changed = false) :
    Overtaken store (store.load stored) (Service.applyUpdate session update).run := by
  have hrevises := session.afterUpdate_revises update
  have hsent : stored.id = (session.afterUpdate update).id := hid.trans hrevises.id_eq.symm
  have hrow : store.sessionRow? (session.afterUpdate update).id = some stored := by
    rw [← hsent]
    exact found.byId
  have hbehind : stored.version ≠ (session.afterUpdate update).version := by
    rwa [hrevises.version]
  obtain ⟨failure, hconflict, hlost⟩ := Store.updateSession_of_outdated calm hrow hbehind
  have hanswer (world : World) (hworld : world.store = store) :
      World.answer (.updateSession (session.afterUpdate update)) world =
        (.error failure, world) := by
    subst hworld
    rw [World.answer, hlost]
  obtain ⟨next, hrun, _, hretry⟩ := Service.applyUpdate_of_changed changes
  rw [Overtaken, hrun]
  refine ⟨?_, ?_⟩
  · intro world hworld
    rw [hanswer world hworld]
  · rintro _ _ ⟨world, hworld, rfl⟩
    rw [hanswer world hworld, hretry]
    apply overtaken_of_ensures
    refine Action.ensures_bind.mpr ?_
    simp only [Service.maxAttempts, Service.afterFailure, if_pos hconflict]
    refine Action.ensures_bind.mpr (found.sessionById_still hsent ?_)
    refine Action.ensures_bind.mpr ?_
    change Action.Ensures _ (Service.changeSession _ _ _) _ _ _
    rw [Service.changeSession_of_none (Session.takeOver_of_unchanged taken)]
    rfl

end Overtaken

section Ends

variable {row session : Session} {update : StatusUpdate} {left : Nat}

/-- Every attempt to change a session but the last asks two questions. -/
theorem changeSession_countdown {α : Type} {change : Session → Session × Option α}
    (retries more : Nat) (h : 2 * retries + 1 + more ≤ left) :
    Action.Ensures Dialogue.countdown (Service.changeSession change retries session) left
      (fun _ left' => more ≤ left') fun _ _ => True := by
  induction retries using Nat.strongRecOn generalizing session left with
  | ind retries ih =>
      rcases hchanged : change session with ⟨changed, _ | outcome⟩
      · rw [Service.changeSession_of_none hchanged]
        exact Nat.le_trans (Nat.le_add_left _ _) h
      · rw [Service.changeSession_of_some hchanged]
        refine Action.ensures_bind.mpr (Action.countdown_ask (2 * retries + more) (by omega) ?_)
        rintro (error | stored) second hsecond
        · cases retries with
          | zero => trivial
          | succ retries =>
              simp only [Service.afterFailure]
              split
              · refine Action.ensures_bind_assoc.mpr
                  (Action.countdown_outcome (2 * retries + 1 + more) (by omega) ?_)
                rintro (_ | loaded) third hthird
                · trivial
                · exact ih retries (Nat.lt_succ_self _) hthird
              · trivial
        · exact Nat.le_trans (Nat.le_add_left _ _) hsecond

theorem leaveWork_countdown {jobs : List Job} (h : jobs.length ≤ left) :
    Action.Ensures Dialogue.countdown (Service.leaveWork session jobs) left (fun _ _ => True)
      fun _ _ => True := by
  induction jobs generalizing left with
  | nil => trivial
  | cons job jobs ih =>
      refine Action.ensures_bind_assoc.mpr (Action.countdown_outcome jobs.length h ?_)
      intro _ left' hleft
      exact ih hleft

theorem length_jobsAfter (session : Session) (change : Option StatusChange) :
    (Service.jobsAfter session change).length ≤ 2 := by
  cases change with
  | none => exact Nat.zero_le 2
  | some change =>
      rw [Service.jobsAfter]
      cases change.becameUnanswered <;> cases change.becameFinished <;> simp

theorem applyUpdate_countdown (h : 7 ≤ left) :
    Action.Ensures Dialogue.countdown (Service.applyUpdate session update) left (fun _ _ => True)
      fun _ _ => True := by
  rw [Service.applyUpdate_eq]
  split
  · trivial
  · refine Action.ensures_bind.mpr ?_
    refine (changeSession_countdown 2 2 h).mono ?_ fun _ _ h => h
    intro updated left' hleft
    exact leaveWork_countdown (Nat.le_trans (length_jobsAfter _ _) hleft)

theorem report_endsWithin (bySid : Bool) : (Client.report row update bySid).run.EndsWithin 8 := by
  have hfound (found : Option Session) (left : Nat) (h : 7 ≤ left) :
      Action.Ensures Dialogue.countdown
        (match found with
          | some session => Service.applyUpdate session update
          | none => throw (.callNotFound row.sid)) left (fun _ _ => True) fun _ _ => True := by
    cases found with
    | none => trivial
    | some session => exact applyUpdate_countdown h
  have hensures : Action.Ensures Dialogue.countdown (Client.report row update bySid) 8
      (fun _ _ => True) fun _ _ => True := by
    refine Action.ensures_bind.mpr ?_
    cases bySid with
    | true => exact Action.countdown_outcome 7 (Nat.le_refl _) hfound
    | false => exact Action.countdown_outcome 7 (Nat.le_refl _) hfound
  refine Dialogue.Ensures.mono hensures ?_
  intro _ _ _
  trivial

end Ends

section Race

variable {start : World} {row : Session} {update : StatusUpdate}

/-- What is left of a delivery that has changed nothing yet. -/
inductive Waits (start : World) (row : Session) (update : StatusUpdate) :
    Dialogue Question Question.Answer (Except CallError Session) → Prop
  | finding (bySid : Bool) : Waits start row update (Client.report row update bySid).run
  | holding : Waits start row update (Service.applyUpdate (start.store.load row) update).run

/-- The session as it is stored once an update of it has been taken over. -/
def World.reported (start : World) (row : Session) (update : StatusUpdate) : Session :=
  ((start.store.load row).afterUpdate update).advance

/-- The work that the update leaves, by its changes to the row. -/
def World.workReported (start : World) (row : Session) (update : StatusUpdate) : List Job :=
  Service.jobsAfter (start.reported row update) (some ((start.store.load row).changeBy update))

/-- The world after the update of a single delivery. -/
def World.putReported (start : World) (row : Session) (update : StatusUpdate) : World :=
  { start with store := { start.store with
      sessions := Store.putRow (Store.row (start.reported row update)) start.store.sessions } }

theorem reported_id : (start.reported row update).id = row.id :=
  (Session.afterUpdate_revises _ update).id_eq

theorem reported_sid : (start.reported row update).sid = row.sid :=
  congrArg CallFacts.sid (Session.afterUpdate_revises (start.store.load row) update).facts

theorem reported_version : (start.reported row update).version = row.version + 1 :=
  congrArg (· + 1) (Session.afterUpdate_revises (start.store.load row) update).version

theorem putReported_finds (found : start.store.Finds row) :
    (start.putReported row update).store.Finds (Store.row (start.reported row update)) :=
  found.putRow reported_id reported_sid rfl rfl

theorem putReported_load :
    (start.putReported row update).store.load (Store.row (start.reported row update)) =
      start.reported row update := by
  rw [World.reported, Session.afterUpdate_eq]
  rfl

theorem answer_putReported (found : start.store.Finds row) (calm : start.store.conflicts = 0) :
    World.answer (.updateSession ((start.store.load row).afterUpdate update)) start =
      (.ok (start.reported row update), start.putReported row update) := by
  have hrevises := (start.store.load row).afterUpdate_revises update
  have hrow : start.store.sessionRow? ((start.store.load row).afterUpdate update).id =
      some row := by
    rw [hrevises.id_eq]
    exact found.byId
  rw [World.answer, Store.updateSession_of_current calm hrow hrevises.version.symm]
  rfl

/-- Every delivery that has changed nothing yet is overtaken once another has stored its update. -/
theorem Waits.overtaken {rest : Dialogue Question Question.Answer (Except CallError Session)}
    (waits : Waits start row update rest) (found : start.store.Finds row)
    (calm : start.store.conflicts = 0)
    (changes : ((start.store.load row).changeBy update).changed = true) :
    Overtaken (start.putReported row update).store (start.reported row update) rest := by
  have hfinds : (start.putReported row update).store.Finds _ := putReported_finds found
  have htaken : (((start.putReported row update).store.load
      (Store.row (start.reported row update))).changeBy update).changed = false := by
    rw [putReported_load]
    exact Session.changeBy_updated _ update
  rw [← putReported_load]
  cases waits with
  | finding bySid =>
      exact hfinds.report_overtaken reported_id reported_sid htaken
  | holding =>
      refine hfinds.applyUpdate_overtaken calm reported_id ?_ changes htaken
      have hversion : (Store.row (start.reported row update)).version = row.version + 1 :=
        reported_version
      rw [hversion]
      exact Int.ne_of_gt (Int.lt_succ row.version)

theorem Waits.ask {question : Question}
    {next : question.Answer → Dialogue Question Question.Answer (Except CallError Session)}
    (waits : Waits start row update (.ask question next)) (found : start.store.Finds row)
    (calm : start.store.conflicts = 0) :
    ((World.answer question start).2 = start ∧
        Waits start row update (next (World.answer question start).1)) ∨
      ((start.store.load row).changeBy update).changed = true ∧
        (World.answer question start).2 = start.putReported row update ∧
        next (World.answer question start).1 =
          (Service.leaveWork (start.reported row update) (start.workReported row update)).run := by
  generalize hrest : Dialogue.ask question next = rest at waits
  cases waits with
  | finding bySid =>
      cases bySid with
      | true =>
          cases hrest
          refine .inl ⟨rfl, ?_⟩
          rw [found.answer_sessionBySid]
          exact .holding
      | false =>
          cases hrest
          refine .inl ⟨rfl, ?_⟩
          rw [found.answer_sessionById]
          exact .holding
  | holding =>
      cases changes : ((start.store.load row).changeBy update).changed with
      | false =>
          rw [Service.applyUpdate_of_unchanged changes] at hrest
          cases hrest
      | true =>
          obtain ⟨next, hrun, hstored, _⟩ := Service.applyUpdate_of_changed changes
          rw [hrun] at hrest
          cases hrest
          refine .inr ⟨rfl, ?_, ?_⟩
          · rw [answer_putReported found calm]
          · rw [answer_putReported found calm]
            exact hstored _

theorem leaveWork_run (session : Session) (jobs : List Job) (world : World) :
    ((Service.leaveWork session jobs).run.run World.answer world).1 = .ok session := by
  induction jobs generalizing world with
  | nil => rfl
  | cons job jobs ih => exact ih _

theorem perform_applyUpdate (found : start.store.Finds row) (calm : start.store.conflicts = 0)
    (changes : ((start.store.load row).changeBy update).changed = true) :
    start.perform (Service.applyUpdate (start.store.load row) update) =
      (start.putReported row update).perform
        (Service.leaveWork (start.reported row update) (start.workReported row update)) := by
  obtain ⟨next, hrun, hstored, _⟩ := Service.applyUpdate_of_changed changes
  change (Service.applyUpdate _ update).run.run World.answer start =
    (Service.leaveWork _ _).run.run World.answer _
  rw [World.workReported, ← hstored, hrun, Dialogue.run_ask, answer_putReported found calm]

theorem Waits.run {rest : Dialogue Question Question.Answer (Except CallError Session)}
    (waits : Waits start row update rest) (found : start.store.Finds row) :
    rest.run World.answer start =
      start.perform (Service.applyUpdate (start.store.load row) update) := by
  cases waits with
  | finding bySid =>
      cases bySid with
      | true =>
          change Dialogue.run World.answer (.ask (.sessionBySid row.sid) _) start = _
          rw [Dialogue.run_ask, found.answer_sessionBySid]
          rfl
      | false =>
          change Dialogue.run World.answer (.ask (.sessionById row.id) _) start = _
          rw [Dialogue.run_ask, found.answer_sessionById]
          rfl
  | holding => rfl

/-- Where deliveries of one report are: either none of them has changed anything, or one of them has
and may have work left to leave, while the others have nothing left to change. -/
inductive Pool.Racing (start : World) (row : Session) (update : StatusUpdate) (session : Session)
    (alone : World) (pool : Pool Bool Session) : Prop
  | even (unchanged : pool.state.world = start)
      (waits : ∀ thread ∈ pool.threads, Waits start row update thread.rest)
  | won {winner : Nat} {leader : Thread Bool Session}
      (leads : pool.threads[winner]? = some leader)
      (leaves : leader.rest.AsksOnly fun question =>
        ∀ part, question.part? = some part → part ∈ [Part.jobs])
      (ends : leader.rest.run World.answer pool.state.world = (.ok session, alone))
      (overtaken : ∀ place thread, place ≠ winner → pool.threads[place]? = some thread →
        Overtaken pool.state.store session thread.rest)

section Steps

variable {pool : Pool Bool Session} {session : Session} {alone : World} {place : Nat}
  {bySid : Bool} {past : List Exchange} {question : Question}
  {next : question.Answer → Dialogue Question Question.Answer (Except CallError Session)}

theorem Pool.Racing.even_step (found : start.store.Finds row)
    (calm : start.store.conflicts = 0)
    (single : start.perform (Service.applyUpdate (start.store.load row) update) =
      (.ok session, alone))
    (unchanged : pool.state.world = start)
    (waits : ∀ thread ∈ pool.threads, Waits start row update thread.rest)
    (waiting : pool.threads[place]? = some ⟨bySid, past, .ask question next⟩) :
    (pool.answered place bySid past question next).Racing start row update session alone := by
  rw [Pool.answered, unchanged]
  rcases (waits _ (List.mem_of_getElem? waiting)).ask found calm with
    ⟨hsame, hwaits⟩ | ⟨changes, hworld, hrest⟩
  · refine .even hsame ?_
    intro thread hthread
    rcases List.mem_or_eq_of_mem_set hthread with hthread | rfl
    · exact waits thread hthread
    · exact hwaits
  · -- whoever stores the update goes on as a single delivery would, and overtakes all others
    have hends := (perform_applyUpdate found calm changes).symm.trans single
    have hsession : start.reported row update = session :=
      Except.ok.inj ((leaveWork_run _ _ _).symm.trans (congrArg Prod.fst hends))
    have hleaves : Action.Touches [.jobs] (Service.leaveWork (start.reported row update)
        (start.workReported row update)) := Service.leaveWork_touches (by simp)
    rw [hworld, hrest]
    refine .won (Pool.resume_self waiting) hleaves hends ?_
    intro other thread hother hthread
    rw [Pool.resume_other (Ne.symm hother)] at hthread
    rw [← hsession]
    exact (waits thread (List.mem_of_getElem? hthread)).overtaken found calm changes

theorem Pool.Racing.won_step {winner : Nat} {leader : Thread Bool Session}
    (leads : pool.threads[winner]? = some leader)
    (leaves : leader.rest.AsksOnly fun question =>
      ∀ part, question.part? = some part → part ∈ [Part.jobs])
    (ends : leader.rest.run World.answer pool.state.world = (.ok session, alone))
    (overtaken : ∀ place thread, place ≠ winner → pool.threads[place]? = some thread →
      Overtaken pool.state.store session thread.rest)
    (waiting : pool.threads[place]? = some ⟨bySid, past, .ask question next⟩) :
    (pool.answered place bySid past question next).Racing start row update session alone := by
  rw [Pool.answered]
  by_cases hplace : place = winner
  · subst hplace
    obtain rfl := Option.some.inj (waiting.symm.trans leads)
    cases leaves with
    | ask first rest =>
        -- the winner only leaves work for later, which the others do not see
        have hstore := World.store_answer first pool.state.world
        refine .won (Pool.resume_self waiting) (rest _) ends ?_
        intro other thread hother hthread
        rw [Pool.resume_other (Ne.symm hother)] at hthread
        change Overtaken (World.answer question pool.state.world).2.store session thread.rest
        rw [hstore]
        exact overtaken other thread hother hthread
  · obtain ⟨hkeeps, hnext⟩ := overtaken place _ hplace waiting
    rw [hkeeps pool.state.world rfl]
    refine .won ((Pool.resume_other hplace).trans leads) leaves ends ?_
    intro other thread hother hthread
    by_cases hsame : place = other
    · subst hsame
      rw [Pool.resume_self waiting] at hthread
      obtain rfl := Option.some.inj hthread
      exact hnext _ () ⟨pool.state.world, rfl, rfl⟩
    · rw [Pool.resume_other hsame] at hthread
      exact overtaken other thread hother hthread

theorem Pool.Racing.returned {thread : Thread Bool Session}
    {result : Except CallError Session} (h : pool.Racing start row update session alone)
    (found : start.store.Finds row)
    (single : start.perform (Service.applyUpdate (start.store.load row) update) =
      (.ok session, alone))
    (begun : pool.threads[place]? = some thread) (hdone : thread.rest = .done result) :
    result = .ok session := by
  cases h with
  | even unchanged waits =>
      have hrun := (waits thread (List.mem_of_getElem? begun)).run found
      rw [hdone, single] at hrun
      exact congrArg Prod.fst hrun
  | @won winner leader leads leaves ends overtaken =>
      by_cases hplace : place = winner
      · subst hplace
        obtain rfl := Option.some.inj (begun.symm.trans leads)
        rw [hdone] at ends
        exact congrArg Prod.fst ends
      · have hlost := overtaken place thread hplace begun
        rw [hdone] at hlost
        exact hlost

theorem Pool.Racing.finished (h : pool.Racing start row update session alone)
    (found : start.store.Finds row)
    (single : start.perform (Service.applyUpdate (start.store.load row) update) =
      (.ok session, alone))
    (hthreads : pool.threads ≠ [])
    (hdone : ∀ thread ∈ pool.threads, ∃ result, thread.rest = .done result) :
    pool.state.world = alone := by
  cases h with
  | even unchanged waits =>
      obtain ⟨thread, hthread⟩ := List.exists_mem_of_ne_nil _ hthreads
      obtain ⟨result, hresult⟩ := hdone thread hthread
      have hrun := (waits thread hthread).run found
      rw [hresult, single] at hrun
      exact unchanged.trans (congrArg Prod.snd hrun)
  | @won winner leader leads leaves ends overtaken =>
      obtain ⟨result, hresult⟩ := hdone leader (List.mem_of_getElem? leads)
      rw [hresult] at ends
      exact congrArg Prod.snd ends

end Steps

/-- Deliveries of one report about a session after they went on, one at a time and in some order.
Each of them finds the session by its call or by its identifier. -/
def reportRace (start : World) (row : Session) (update : StatusUpdate) (finders : List Bool)
    (places : List Nat) : Pool Bool Session :=
  (Pool.play []
    { state := .ofWorld start
      threads := finders.map fun bySid =>
        { origin := bySid, rest := (Client.report row update bySid).run } } places).2

theorem exists_single (found : start.store.Finds row) (calm : start.store.conflicts = 0)
    (update : StatusUpdate) :
    ∃ session alone,
      start.perform (Service.applyUpdate (start.store.load row) update) = (.ok session, alone) := by
  cases changes : ((start.store.load row).changeBy update).changed with
  | false =>
      rw [Service.applyUpdate_of_unchanged changes]
      exact ⟨_, _, rfl⟩
  | true =>
      rw [perform_applyUpdate found calm changes]
      exact ⟨_, _, Prod.ext (leaveWork_run _ _ _) rfl⟩

theorem reportRace_racing {session : Session} {alone : World} (found : start.store.Finds row)
    (calm : start.store.conflicts = 0)
    (single : start.perform (Service.applyUpdate (start.store.load row) update) =
      (.ok session, alone)) (finders : List Bool) (places : List Nat) :
    (reportRace start row update finders places).Racing start row update session alone := by
  refine Pool.play_invariant ?_ places [] (.even rfl ?_)
  · intro pool place bySid past question next waiting h
    cases h with
    | even unchanged waits => exact .even_step found calm single unchanged waits waiting
    | won leads leaves ends overtaken => exact .won_step leads leaves ends overtaken waiting
  · intro thread hthread
    obtain ⟨bySid, _, rfl⟩ := List.mem_map.mp hthread
    exact .finding bySid

theorem reportRace_endsWithin {finders : List Bool} {place : Nat} (h : place < finders.length)
    (places : List Nat) :
    ∃ thread, (reportRace start row update finders places).threads[place]? = some thread ∧
      thread.rest.EndsWithin (8 - places.count place) := by
  have hbegun : (finders.map fun bySid =>
      ({ origin := bySid, rest := (Client.report row update bySid).run } :
        Thread Bool Session))[place]? =
      some { origin := finders[place], rest := (Client.report row update finders[place]).run } := by
    rw [List.getElem?_map, List.getElem?_eq_getElem h]
    rfl
  exact Pool.play_endsWithin places [] hbegun (report_endsWithin _)

/-- Racing deliveries of one report act as one, in whatever order they go on and whenever each of
them reads the session. Each comes to the session that a single delivery comes to, after eight
questions at most. When all of them are done, the world is as a single delivery leaves it, with the
row, its version and the work that is left for later. -/
theorem racing_reports_act_as_one (found : start.store.Finds row)
    (calm : start.store.conflicts = 0) (update : StatusUpdate) (finders : List Bool)
    (places : List Nat) :
    ∃ session alone,
      start.perform (Service.applyUpdate (start.store.load row) update) = (.ok session, alone) ∧
        (∀ place < finders.length, ∃ thread,
          (reportRace start row update finders places).threads[place]? = some thread ∧
            (∀ result, thread.rest = .done result → result = .ok session) ∧
            (8 ≤ places.count place → thread.rest = .done (.ok session))) ∧
        (finders ≠ [] →
          (∀ thread ∈ (reportRace start row update finders places).threads,
            ∃ result, thread.rest = .done result) →
          (reportRace start row update finders places).state.world = alone) := by
  obtain ⟨session, alone, single⟩ := exists_single found calm update
  have hracing := reportRace_racing found calm single finders places
  refine ⟨session, alone, single, ?_, ?_⟩
  · intro place hplace
    obtain ⟨thread, hthread, hends⟩ := reportRace_endsWithin hplace places
    have hreturned : ∀ result, thread.rest = .done result → result = .ok session :=
      fun _ => hracing.returned found single hthread
    refine ⟨thread, hthread, hreturned, ?_⟩
    intro hcount
    rw [Nat.sub_eq_zero_of_le hcount] at hends
    obtain ⟨result, hdone⟩ := hends.eq_done
    rw [hdone, hreturned result hdone]
  · intro hfinders
    obtain ⟨thread, hthread, _⟩ := reportRace_endsWithin (List.length_pos_iff.mpr hfinders) places
    exact hracing.finished found single (List.ne_nil_of_mem (List.mem_of_getElem? hthread))

def missedRow : Session :=
  { racedRow with direction := .outbound }

def missedCall : World where
  store := { sessions := [missedRow] }

/-- Three deliveries that have all read the session when the first of them stores its update. -/
def missedCallRace : Pool Bool Session :=
  reportRace missedCall missedRow { status := some .noAnswer } [true, false, true]
    [0, 1, 2, 0, 1, 2, 0, 0, 1, 2]

theorem missedCall_is_left_once :
    ∃ session alone,
      missedCall.perform (Service.applyUpdate (missedCall.store.load missedRow)
          { status := some .noAnswer }) = (.ok session, alone) ∧
        missedCallRace.state.world = alone ∧
        alone.scheduled =
          [(.unansweredCall missedRow.id, 10), (.finishedCall missedRow.id, 10)] := by
  have hdone : (missedCallRace.threads.all fun thread =>
      match thread.rest with
      | .done _ => true
      | .ask _ _ => false) = true := by decide +kernel
  have found : missedCall.store.Finds missedRow := ⟨rfl, rfl, by decide⟩
  obtain ⟨session, alone, single, _, finished⟩ :=
    racing_reports_act_as_one found rfl { status := some .noAnswer } [true, false, true]
      [0, 1, 2, 0, 1, 2, 0, 0, 1, 2]
  have hworld : missedCallRace.state.world = alone := by
    refine finished (by decide) ?_
    intro thread hthread
    have hthis := List.all_eq_true.mp hdone thread hthread
    split at hthis
    · exact ⟨_, ‹_›⟩
    · cases hthis
  refine ⟨session, alone, single, hworld, ?_⟩
  rw [← hworld]
  decide +kernel

end Race

end PhoneTree

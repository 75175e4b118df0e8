import PhoneTree.Proofs.WebhookWalk

namespace PhoneTree.Service

open PhoneTree.Action

variable {registry : Registry} {account : Account} {params : Params} {session : Session}
  {tree : Tree} {past : List Exchange}

section Updating

variable {α : Type} {change : Session → Session × Option α}
  {post : Session × Option α → List Exchange → Prop}

/-- The last thing that a program did was to update a session with a change, made on the session
that it began with or on one that it had just read. -/
inductive Updated (change : Session → Session × Option α) (past : List Exchange)
    (session : Session) (outcome : α) : Session → List Exchange → Prop
  | first {sent : Session} (made : change session = (sent, some outcome)) :
      Updated change past session outcome sent.advance
        (⟨.updateSession sent, Except.ok sent.advance⟩ :: past)
  | again {base sent : Session} {id : SessionId} {earlier : List Exchange}
      (made : change base = (sent, some outcome)) (same : base.id = session.id)
      (later : past <:+ earlier) :
      Updated change past session outcome sent.advance
        (⟨.updateSession sent, Except.ok sent.advance⟩ ::
          ⟨.sessionById id, Except.ok (some base)⟩ :: earlier)

theorem changeSession_conducts (retries : Nat) (hchange : RowChange change)
    (hknown : Known past session)
    (unchanged : ∀ changed past', past <:+ past' → Known past' changed →
      changed.id = session.id → post (changed, none) past')
    (updated : ∀ changed outcome past', past <:+ past' → Known past' changed →
      changed.id = session.id → Updated change past session outcome changed past' →
        post (changed, some outcome) past') :
    Conducts (changeSession change retries session) past post := by
  refine @changeSession_loop α change session _ _ past
    (fun base past' => past <:+ past' ∧ Known past' base ∧ base.id = session.id ∧
      (base = session ∧ past' = past ∨ ∃ id earlier,
        past' = ⟨.sessionById id, .ok (some base)⟩ :: earlier ∧ past <:+ earlier))
    post _ retries ?_ ?_ ?_ ?_ ⟨List.suffix_refl past, hknown, rfl, .inl ⟨rfl, rfl⟩⟩
  · rintro base changed past' ⟨hlater, hbase, hid, _⟩ hchanged
    have hrevises := hchange.revises base
    rw [hchanged] at hrevises
    exact unchanged changed past' hlater (hbase.revises hrevises) (hrevises.id_eq.trans hid)
  · rintro base sent outcome past' ⟨_, hbase, _, _⟩ hsent
    have hrevises := hchange.revises base
    rw [hsent] at hrevises
    exact hbase.revises hrevises
  · rintro base sent outcome past' stored _ ⟨hlater, _, hid, hread⟩ hsent ⟨htruthful, rfl⟩
    obtain rfl := htruthful stored rfl
    have hrevises := hchange.revises base
    rw [hsent] at hrevises
    refine updated _ outcome _ (hlater.trans (List.suffix_cons _ past')) (Learned.first rfl).known
      (hrevises.id_eq.trans hid) ?_
    rcases hread with ⟨rfl, rfl⟩ | ⟨id, earlier, rfl, hearlier⟩
    · exact .first hsent
    · exact .again hsent hid hearlier
  · rintro base sent outcome past' failure _ ⟨hlater, _, hid, _⟩ hsent ⟨_, rfl⟩
    refine ⟨trivial, fun _ => ?_⟩
    have hrevises := hchange.revises base
    rw [hsent] at hrevises
    have hfailed := hlater.trans (List.suffix_cons (⟨.updateSession sent, .error failure⟩ :
      Exchange) past')
    refine conducts_bind.mpr (conducts_ask trivial ?_)
    rintro (failure | _ | loaded) htruthful
    · exact trivial
    · exact trivial
    · -- the race was lost, and the session has just been read anew
      have hsame : loaded.id = session.id :=
        (htruthful loaded rfl).trans (hrevises.id_eq.trans hid)
      exact ⟨hfailed.trans (List.suffix_cons _ _), (Learned.first rfl).known, hsame,
        .inr ⟨_, _, rfl, hfailed⟩⟩

theorem updateSession_conducts (hchange : RowChange change) (hknown : Known past session)
    (done : ∀ changed outcome past', past <:+ past' → Known past' changed →
      changed.id = session.id → post (changed, outcome) past') :
    Conducts (updateSession session change) past post := by
  refine changeSession_conducts _ hchange hknown ?_ ?_
  · exact fun changed past' => done changed none past'
  · exact fun changed outcome past' hlater hchanged hid _ =>
      done changed (some outcome) past' hlater hchanged hid

end Updating

section Walking

variable {post : Session → List Exchange → Prop}

theorem sessionBySid_conducts {sid : String}
    {post : Except Failure (Option Session) → List Exchange → Prop}
    (found : ∀ session past', past <:+ past' → Known past' session →
      post (.ok (some session)) past')
    (missing : ∀ past', past <:+ past' → post (.ok none) past')
    (failed : ∀ failure past', past <:+ past' → post (.error failure) past') :
    Conducts (Action.ask (.sessionBySid sid)) past post := by
  refine conducts_ask trivial ?_
  rintro (failure | _ | session) _
  · exact failed failure _ (List.suffix_cons _ past)
  · exact missing _ (List.suffix_cons _ past)
  · exact found session _ (List.suffix_cons _ past) (Learned.first rfl).known

theorem leaveWork_conducts {jobs : List Job}
    (done : ∀ past', past <:+ past' → post session past') :
    Conducts (leaveWork session jobs) past post := by
  induction jobs generalizing past with
  | nil => exact done past (List.suffix_refl past)
  | cons job jobs ih =>
      refine Action.ensures_bind_assoc.mpr
        ((touches_store rfl (by decide)).harmless.conducts ?_)
      intro _ second hsecond
      refine ih ?_
      intro third hthird
      exact done third (hsecond.trans hthird)

theorem applyUpdate_conducts {update : StatusUpdate} (hknown : Known past session)
    (done : ∀ updated past', past <:+ past' → Known past' updated → post updated past') :
    Conducts (applyUpdate session update) past post := by
  rw [applyUpdate_eq]
  split
  · exact done session past (List.suffix_refl past) hknown
  · refine conducts_bind.mpr (updateSession_conducts (rowChange_takeOver update) hknown ?_)
    intro updated change second hsecond hupdated _
    refine leaveWork_conducts ?_
    intro third hthird
    exact done updated third (hsecond.trans hthird) (hupdated.later hthird)

theorem createSession_conducts {sid treeName : String}
    (done : ∀ session past', Known past' session → post session past') :
    Conducts (createSession sid treeName params) past post := by
  rw [createSession]
  refine conducts_bind.mpr ((findOrCreateCaller_touches (by decide)).harmless.conducts ?_)
  intro caller second _
  refine conducts_bind.mpr (conducts_ask trivial ?_)
  intro id _
  refine conducts_bind.mpr (conducts_ask trivial ?_)
  intro time _
  refine conducts_bind.mpr ?_
  cases hsession : Session.create ⟨id⟩ time sid (Direction.ofParam (params.get? "Direction"))
      treeName caller.id (CallDetails.ofParams params) with
  | error failure => exact trivial
  | ok session =>
      have hcreated := create_eq_ok hsession
      refine conducts_bind.mpr (conducts_ask ?_ ?_)
      · rw [hcreated]
        refine ⟨rfl, ?_⟩
        rintro (_ | _) <;> rfl
      · rintro (failure | _) _
        · simp only
          split
          · refine conducts_bind.mpr (sessionBySid_conducts ?_ ?_ ?_)
            · exact fun session past' _ hknown => done session past' hknown
            · exact fun _ _ => trivial
            · exact fun _ _ _ => trivial
          · exact trivial
        · exact done _ _ (Learned.first rfl).known

theorem conduct_keeps :
    Keeps conduct (fun _ => True) fun session past => Known past session where
  still touches _ :=
    touches.harmless.conducts fun _ _ hlater => ⟨trivial, fun _ hknown => hknown.later hlater⟩
  reads _ _ _ := by
    refine sessionBySid_conducts ?_ ?_ ?_
    · intro session past _ hknown
      refine ⟨trivial, ?_⟩
      rintro _ ⟨rfl⟩
      exact hknown
    · exact fun _ _ => ⟨trivial, fun _ h => nomatch h⟩
    · exact fun _ _ _ => ⟨trivial, fun _ h => nomatch h⟩
  applies _ hknown := applyUpdate_conducts hknown fun _ _ _ hupdated => ⟨trivial, hupdated⟩
  records _ hknown :=
    updateSession_conducts (rowChange_recordTurns _) hknown fun _ _ _ _ _ _ => trivial

theorem webhook_conducts (entry : Webhook) :
    Conducts (entry.action account registry params) past fun _ _ => True := by
  refine webhook_keeps conduct_keeps entry trivial ?_
  intro name sid treeName later _ _ _ _
  exact createSession_conducts fun _ _ hknown => ⟨trivial, hknown⟩

end Walking

section Outgoing

theorem startCall_conducts {name recipient : String} {sender : Option String}
    {machineDetection : Bool} :
    Conducts (startCall account registry name recipient sender machineDetection) past
      fun _ _ => True := by
  have hnumber := requireNumber_eq "to" recipient
  rw [startCall]
  generalize requireNumber "to" recipient = number at hnumber ⊢
  refine conducts_bind.mpr (findTree_touches.harmless.conducts ?_)
  intro tree second _
  rcases hnumber with ⟨called, rfl⟩ | ⟨error, rfl⟩
  · refine conducts_bind.mpr ?_
    refine conducts_bind.mpr (requireSender_touches.harmless.conducts ?_)
    intro caller third _
    refine conducts_bind.mpr (conducts_ask trivial ?_)
    intro answer _
    refine conducts_bind.mpr (touches_ofTransport.harmless.conducts ?_)
    intro sid fourth _
    refine conducts_bind.mpr ((findOrCreateCaller_touches (by decide)).harmless.conducts ?_)
    intro owner fifth _
    refine conducts_bind.mpr (conducts_ask trivial ?_)
    intro id _
    refine conducts_bind.mpr (conducts_ask trivial ?_)
    intro time _
    refine conducts_bind.mpr ?_
    cases hsession : Session.create ⟨id⟩ time sid .outbound tree.name owner.id
        { fromNumber := called, toNumber := some caller } with
    | error failure => exact trivial
    | ok session =>
        have hcreated := create_eq_ok hsession
        refine conducts_bind.mpr (conducts_ask ?_ ?_)
        · rw [hcreated]
          refine ⟨rfl, ?_⟩
          rintro (_ | _) <;> rfl
        · intro answer _
          exact conducts_bind.mpr (touches_ofAnswer.harmless.conducts fun _ _ _ => trivial)
  · exact trivial

theorem sendMessages_conducts {recipient : String} {sender : Option String}
    {bodies : List String} :
    Conducts (sendMessages account recipient sender bodies) past fun _ _ => True := by
  refine conducts_bind.mpr (requireSender_touches.harmless.conducts ?_)
  intro sender second _
  refine conducts_bind.mpr ((findOrCreateCaller_touches (by decide)).harmless.conducts ?_)
  intro caller third _
  exact conducts_bind.mpr ((sendBodies_touches (by decide)).harmless.conducts fun _ _ _ => trivial)

end Outgoing

section Jobs

variable {hook : Hook} {id : SessionId} {change : Session → Session × Option Unit}

theorem findSession_conducts {post : Session → List Exchange → Prop}
    (found : ∀ session, session.id = id →
      post session (⟨.sessionById id, Except.ok (some session)⟩ :: past)) :
    Conducts (findSession id) past post := by
  refine conducts_bind.mpr (conducts_ask trivial ?_)
  rintro (failure | _ | session) htruthful
  · exact trivial
  · exact trivial
  · exact found session (htruthful session rfl)

/-- A change of session rows that sets a mark, and asks for nothing to be stored if it is set. -/
def SetsMark (hook : Hook) (change : Session → Session × Option Unit) : Prop :=
  ∀ base sent outcome, change base = (sent, some outcome) →
    sent.Revises base ∧ base.isMarked hook = false ∧ sent.isMarked hook = true

theorem setsMark_markFinished :
    SetsMark .finished fun session =>
      (session.markFinished, if session.finished then none else some ()) := by
  intro base sent outcome h
  obtain ⟨rfl, houtcome⟩ := Prod.mk.inj h
  have hbase : base.finished = false := by simpa using houtcome
  exact ⟨rowChange_markFinished.revises base, hbase, rfl⟩

theorem setsMark_markUnanswered :
    SetsMark .unanswered fun session =>
      (session.markUnanswered, if session.unanswered then none else some ()) := by
  intro base sent outcome h
  obtain ⟨rfl, houtcome⟩ := Prod.mk.inj h
  have hbase : base.unanswered = false := by simpa using houtcome
  exact ⟨rowChange_markUnanswered.revises base, hbase, rfl⟩

/-- Whoever has set the mark on a session that was just read without it may run the callback. -/
theorem marks_of_updated {past' : List Exchange} {changed : Session} {outcome : Unit}
    (hsets : SetsMark hook change)
    (h : Updated change (⟨.sessionById id, Except.ok (some session)⟩ :: past) session outcome
      changed past') :
    Learned past' changed ∧ marks hook changed.id past' = true ∧
      changed.isMarked hook = true := by
  have hkeeps : ∀ base sent : Session, change base = (sent, some outcome) →
      sent.Revises base ∧ base.isMarked hook = false ∧ sent.isMarked hook = true ∧
        sent.advance.isMarked hook = true := by
    intro base sent hmade
    obtain ⟨hrevises, hbase, hsent⟩ := hsets base sent outcome hmade
    refine ⟨hrevises, hbase, hsent, ?_⟩
    cases hook <;> exact hsent
  cases h with
  | first made =>
      obtain ⟨hrevises, hbase, hsent, hadvanced⟩ := hkeeps _ _ made
      refine ⟨.first rfl, ?_, hadvanced⟩
      simp [marks, Session.advance, hbase, hsent, hrevises.id_eq, hrevises.version]
  | again made same later =>
      obtain ⟨hrevises, hbase, hsent, hadvanced⟩ := hkeeps _ _ made
      refine ⟨.first rfl, ?_, hadvanced⟩
      simp [marks, Session.advance, hbase, hsent, hrevises.id_eq, hrevises.version]

theorem runCallback_conducts {callback : Option LifecycleCallback} {marked : Session}
    (proper : ∀ callback, Proper past (.runHook hook callback marked)) :
    Conducts (runCallback hook callback marked) past fun _ _ => True := by
  cases callback with
  | none => exact trivial
  | some callback =>
      refine conducts_bind.mpr (conducts_ask (proper callback) ?_)
      rintro (error | _) _ <;> exact trivial

theorem finishedCall_conducts : Conducts (finishedCall registry id) past fun _ _ => True := by
  refine conducts_bind.mpr (findSession_conducts ?_)
  intro session _
  refine conducts_bind.mpr (changeSession_conducts _ rowChange_markFinished
    (Learned.first rfl).known ?_ ?_)
  · exact fun _ _ _ _ _ => trivial
  · intro changed outcome past' _ _ _ hupdated
    have hmarks := marks_of_updated setsMark_markFinished hupdated
    refine conducts_bind.mpr ?_
    rw [findTree]
    split
    · refine runCallback_conducts ?_
      intro callback
      exact ⟨hmarks.1, hmarks.2.1, hmarks.2.2, fun h => by cases h⟩
    · exact trivial

theorem unansweredCall_conducts : Conducts (unansweredCall registry id) past fun _ _ => True := by
  refine conducts_bind.mpr (findSession_conducts ?_)
  intro session _
  simp only
  split
  · exact trivial
  · rename_i hinbound
    have houtbound : session.isOutbound = true := by simpa using hinbound
    refine conducts_bind.mpr (changeSession_conducts _ rowChange_markUnanswered
      (Learned.first rfl).known ?_ ?_)
    · exact fun _ _ _ _ _ => trivial
    · intro changed outcome past' hlater _ hid hupdated
      have hmarks := marks_of_updated setsMark_markUnanswered hupdated
      have hread : Learned past' session := (Learned.first rfl).later hlater
      refine conducts_bind.mpr ?_
      rw [findTree]
      split
      · refine runCallback_conducts ?_
        intro callback
        exact ⟨hmarks.1, hmarks.2.1, hmarks.2.2, fun _ => ⟨session, hread, hid.symm, houtbound⟩⟩
      · exact trivial

theorem runJob_conducts (work : Job) :
    Conducts (runJob registry work) past fun _ _ => True := by
  cases work with
  | unansweredCall session => exact unansweredCall_conducts
  | finishedCall session => exact finishedCall_conducts
  | attachRecording recording =>
      exact (attachRecording_touches (by decide) (by decide) (by decide)).harmless.conducts
        fun _ _ _ => trivial

end Jobs

end PhoneTree.Service

namespace PhoneTree

open Service

theorem Command.conducts (account : Account) (registry : Registry) (command : Command) :
    Conducts (command.action account registry) [] fun _ _ => True := by
  cases command with
  | webhook entry params => exact webhook_conducts entry
  | startCall tree recipient sender machineDetection =>
      exact conducts_bind.mpr (startCall_conducts.mono fun _ _ _ => trivial)
  | sendMessages recipient sender bodies =>
      exact conducts_bind.mpr (sendMessages_conducts.mono fun _ _ _ => trivial)
  | findCaller number =>
      exact conducts_bind.mpr
        ((findOrCreateCaller_touches (by decide)).harmless.conducts fun _ _ _ => trivial)
  | job work => exact conducts_bind.mpr ((runJob_conducts work).mono fun _ _ _ => trivial)

end PhoneTree

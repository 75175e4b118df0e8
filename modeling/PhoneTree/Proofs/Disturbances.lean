import PhoneTree.Proofs.Retries
import PhoneTree.Proofs.StepShape
import PhoneTree.Proofs.StepView
import PhoneTree.Proofs.StoredSessions

namespace PhoneTree

namespace Service

open PhoneTree.Action

variable {source : Source} {world : World} {account : Account} {registry : Registry}
  {params : Params} {session : Session} {tree : Tree} {about : Option TurnId} {turn : Turn}
  {step : FlowStep} {left : Nat}

section Finding

variable {α : Type} {post : α → World → Prop}

theorem weathers_given {β : Type} {action : Action β} {rest : β → Action α}
    (h : (∃ value, action = pure value) ∨ ∃ error, action = throw error)
    (given : ∀ value, Weathers source (rest value) world post) :
    Weathers source (action >>= rest) world post := by
  rcases h with ⟨value, rfl⟩ | ⟨error, rfl⟩
  · exact given value
  · exact weathers_throw

theorem findTree_weathers {name : String} {rest : Tree → Action α}
    (found : ∀ tree, Weathers source (rest tree) world post) :
    Weathers source (findTree registry name >>= rest) world post :=
  weathers_given (findTree_eq registry name) found

theorem requireField_weathers {field : String} {rest : String → Action α}
    (found : ∀ value, Weathers source (rest value) world post) :
    Weathers source (requireField params field >>= rest) world post :=
  weathers_given (requireField_eq params field) found

theorem sessionBySid_weathers {sid : String} (h : world.Ready source left) :
    Weathers source (ask (.sessionBySid sid)) world fun answer later =>
      later.Ready source left ∧
        ∀ session, answer = .ok (some session) → later.Tracks none session :=
  weathers_of_ensures
    (sparing_ask (.read rfl) ⟨h, fun _ hanswer => h.tracks (Except.ok.inj hanswer)⟩)

theorem findCall_weathers (h : world.Ready source left) :
    Weathers source (findCall params) world fun session later => later.Tracks none session := by
  refine requireField_weathers fun sid => ?_
  refine Weathers.bind (sessionBySid_weathers h) ?_
  rintro (failure | _ | session) later ⟨_, hfound⟩
  · exact weathers_throw
  · exact weathers_throw
  · exact weathers_pure (hfound session rfl)

theorem findSession_weathers {id : SessionId} :
    Weathers source (findSession id) world fun session later => later.Tracks none session := by
  refine weathers_of_ensures (ensures_bind.mpr (sparing_ask (.read rfl) ?_))
  simp only [World.answerFrom, World.answer, ensures_bind, ensures_ofAnswer]
  cases found : world.store.sessionById id with
  | none => trivial
  | some session =>
      obtain ⟨row, hrow, rfl⟩ := Option.map_eq_some_iff.mp found
      obtain rfl := Store.id_of_sessionRow? hrow
      exact World.tracks_load hrow

theorem findTurn_weathers {id : TurnId} (h : world.Tracks none session) :
    Weathers source (findTurn session id) world fun turn later =>
      later.Tracks (some turn.id) session := by
  refine weathers_of_ensures (ensures_bind.mpr (sparing_ask (.read rfl) ?_))
  simp only [World.answerFrom, World.answer, ensures_bind, ensures_ofAnswer]
  cases found : world.store.turnById id with
  | none => trivial
  | some turn =>
      simp only
      split
      · rename_i howned
        refine h.around (List.mem_filter.mpr ⟨List.mem_of_find?_eq_some found, ?_⟩)
        exact beq_iff_eq.mpr howned
      · trivial

theorem weathers_apart (parts : List Part) {action : Action α}
    (touches : action.Touches parts) (harmless : parts ⊆ harmlessParts) (apart : .turns ∉ parts)
    (h : world.Tracks about session) :
    Weathers source action world fun _ later => later.Tracks about session := by
  refine (weathers_of_touches touches harmless).mono ?_
  exact fun _ later ⟨hsessions, hturns⟩ => h.of_same hsessions (hturns apart)

end Finding

section Changing

theorem applyUpdate_weathers {update : StatusUpdate} (h : world.Tracks none session) :
    Weathers source (applyUpdate session update) world fun updated later =>
      later.Tracks none updated := by
  rw [applyUpdate_eq]
  split
  · exact weathers_pure h
  · refine Weathers.bind
      (updateSession_weathers (rowChange_takeOver update) h.sessionById rfl rfl) ?_
    rintro ⟨updated, change⟩ _ ⟨rfl, hchange, rfl⟩
    have hunchanged : (session.changeBy update).changed = false := by
      simpa [Session.takeOver] using (congrArg Prod.snd hchange).symm
    rw [Session.takeOver_of_unchanged hunchanged] at hchange
    obtain ⟨rfl, _⟩ := Prod.mk.inj hchange
    exact weathers_pure h

theorem findUpdatedCall_weathers (h : world.Ready source left) :
    Weathers source (findUpdatedCall params) world fun session later =>
      later.Tracks none session :=
  Weathers.bind (findCall_weathers h) fun _ _ => applyUpdate_weathers

theorem mark_weathers {change : Session → Session × Option Unit}
    {rest : Session × Option Unit → Action Unit} (h : world.Tracks none session)
    (hchange : RowChange change) (quiet : ∀ session, rest (session, none) = pure ()) :
    Weathers source (updateSession session change >>= rest) world fun _ _ => True := by
  refine Weathers.bind (updateSession_weathers hchange h.sessionById rfl rfl) ?_
  rintro ⟨marked, outcome⟩ later ⟨_, _, hnone⟩
  -- who has set the mark goes on after the conflicts, so only the other case is left
  obtain rfl : outcome = none := hnone
  rw [quiet]
  exact weathers_pure trivial

theorem keepTurnChange_weathers (h : world.Tracks (step.updatedTurn.map (·.id)) session) :
    Weathers source (keepTurnChange step) world fun _ later =>
      later.Tracks (step.updatedTurn.map (·.id)) session := by
  rw [keepTurnChange]
  split
  · rename_i turn input hturn _
    rw [hturn] at h ⊢
    exact weathers_of_ensures (sparing_outcome (.write rfl (by decide))
      fun _ _ => h.write (.input turn.id input))
  · rename_i turn hturn _
    rw [hturn] at h ⊢
    exact weathers_of_ensures (sparing_outcome (.write rfl (by decide))
      fun _ _ => h.write (.timeout turn.id))
  · exact weathers_pure h

theorem keepNextTurn_weathers (h : world.Tracks (step.updatedTurn.map (·.id)) session)
    (owned : ∀ turn, step.nextTurn = some turn → turn.session = session.id) :
    Weathers source (keepNextTurn step) world fun _ later => later.TracksStep step session := by
  rw [keepNextTurn]
  split
  · rename_i turn hturn
    refine weathers_of_ensures (sparing_outcome (.write rfl (by decide)) ?_)
    intro _ hanswer
    change (world.write (world.store.saveTurn turn)).1 = _ at hanswer
    change (world.write (world.store.saveTurn turn)).2.TracksStep step session
    cases hsaved : world.store.saveTurn turn with
    | error failure =>
        rw [hsaved] at hanswer
        cases hanswer
    | ok store => exact h.saveTurn hturn (owned turn hturn) hsaved
  · exact weathers_pure (h.tracksStep ‹_›)

theorem keepStep_weathers (h : world.Tracks (step.updatedTurn.map (·.id)) session)
    (owned : ∀ turn, step.nextTurn = some turn → turn.session = session.id) :
    Weathers source (keepStep session step) world fun _ _ => True := by
  rw [keepStep]
  refine Weathers.bind (keepTurnChange_weathers h) ?_
  intro _ second hsecond
  refine Weathers.bind (keepNextTurn_weathers hsecond owned) ?_
  intro _ third hthird
  split
  · exact weathers_pure trivial
  · obtain ⟨turns, hturns, hsame⟩ := hthird.turns
    refine Weathers.bind (updateSession_weathers (rowChange_recordTurns _)
      (World.sessionById_of_row hthird.row) rfl ?_) fun _ _ _ => weathers_pure trivial
    -- the stored session has the new turn already, and what was written to the other one
    rw [hturns]
    exact Session.recordTurns_anew hsame hthird.new

end Changing

section Receiving

theorem receive_weathers (h : world.Tracks (some turn.id) session) :
    Weathers source (receive account session turn params) world fun received later =>
      received.id = turn.id ∧ later.Tracks (some turn.id) session := by
  refine requireField_weathers fun sid => ?_
  refine Weathers.bind (weathers_apart [] (touches_read rfl) (by decide) (by decide) h) ?_
  intro answer second hsecond
  refine weathers_ofAnswer fun exist _ => ?_
  split
  · exact weathers_pure ⟨rfl, hsecond⟩
  · refine Weathers.bind (weathers_apart [] (touches_read rfl) (by decide) (by decide) hsecond) ?_
    intro id third hthird
    refine Weathers.bind (weathers_apart [] (touches_read rfl) (by decide) (by decide) hthird) ?_
    intro createdAt fourth hfourth
    refine weathers_ofAnswer fun recording _ => ?_
    refine Weathers.bind (weathers_apart [.recordings] (touches_write rfl (by decide)) (by decide)
      (by decide) hfourth) ?_
    rintro (failure | _) fifth hfifth
    · simp only
      split
      · exact weathers_pure ⟨rfl, hfifth⟩
      · exact weathers_throw
    · have hattach : Weathers source (ask (.attachToTurn turn.id recording.id)) fifth
          fun _ later => later.Tracks (some turn.id) session :=
        weathers_of_ensures (sparing_ask (.write rfl (by decide))
          (hfifth.write (.recording turn.id recording.id)))
      refine Weathers.bind hattach ?_
      intro answer sixth hsixth
      refine weathers_ofAnswer fun attached _ => ?_
      have hid :
          (if turn.recording.isNone then turn.attach recording.id else turn).id = turn.id := by
        split <;> rfl
      simp only
      split
      · refine Weathers.bind (weathers_apart [.jobs] (touches_write rfl (by decide)) (by decide)
          (by decide) hsixth) ?_
        intro answer seventh hseventh
        exact weathers_ofAnswer fun _ _ => weathers_pure ⟨hid, hseventh⟩
      · exact weathers_pure ⟨hid, hsixth⟩

theorem receiveIfAny_weathers (h : world.Tracks (some turn.id) session) :
    Weathers source (receiveIfAny account session turn params) world fun received later =>
      received.id = turn.id ∧ later.Tracks (some turn.id) session := by
  rw [receiveIfAny]
  split
  · exact receive_weathers h
  · exact weathers_pure ⟨rfl, h⟩

end Receiving

section Beginning

variable {α : Type} {post : α → World → Prop}

theorem ask_ready {question : Question} (h : world.Ready source left)
    (touches : Touches [.callers, .provider] (ask question)) (hid : question ≠ .freshId) :
    Weathers source (ask question) world fun _ later => later.Ready source left := by
  have hparts : ∀ part, question.part? = some part → part ∈ [Part.callers, .provider] := by
    cases touches with
    | ask first _ => exact first
  have hmild : [Part.callers, .provider] ⊆ harmlessParts := by decide
  refine weathers_of_ensures
    (sparing_ask (.harmless fun part hpart => hmild (hparts part hpart)) (h.of_same ?_ ?_ ?_))
  · exact World.sessions_answerFrom fun hpart => absurd (hparts _ hpart) (by decide)
  · exact World.turns_answerFrom fun hpart => absurd (hparts _ hpart) (by decide)
  · cases question with
    | freshId => exact absurd rfl hid
    | _ => simp [World.answerFrom, World.answer, OpenWorld.write_nextId, World.keepAudio]

theorem freshId_ready (h : world.Ready source (left + 1)) :
    Weathers source freshId world fun id later => later.Ready source left ∧ later.IsFree ⟨id⟩ := by
  have hfirst := h.free 0 left.succ_pos
  refine weathers_of_ensures
    (sparing_ask (.read rfl) ⟨⟨h.keyed, ?_⟩, hfirst.rows, hfirst.turns⟩)
  intro ahead hahead
  have hfree := h.free (ahead + 1) (Nat.succ_lt_succ hahead)
  rw [← Nat.add_assoc, Nat.add_right_comm] at hfree
  exact ⟨hfree.rows, hfree.turns⟩

theorem findOrCreateCaller_ready {raw : String} (h : world.Ready source (left + 1)) :
    Weathers source (findOrCreateCaller raw) world fun _ later => later.Ready source left := by
  have hread (number : String) {left : Nat} {later : World} (hlater : later.Ready source left) :
      Weathers source (ask (.callerByNumber number)) later fun _ last => last.Ready source left :=
    ask_ready hlater (touches_read rfl) fun h => by cases h
  rw [findOrCreateCaller]
  split
  · exact weathers_throw
  · refine Weathers.bind (hread _ h) ?_
    intro answer second hsecond
    refine weathers_ofAnswer fun found _ => ?_
    cases found with
    | some caller => exact weathers_pure hsecond.less
    | none =>
        refine Weathers.bind (freshId_ready hsecond) ?_
        rintro id third ⟨hthird, _⟩
        refine Weathers.bind (ask_ready hthird (touches_read rfl) (fun h => by cases h)) ?_
        intro createdAt fourth hfourth
        refine Weathers.bind
          (ask_ready hfourth (touches_write rfl (by decide)) (fun h => by cases h)) ?_
        rintro (failure | _) fifth hfifth
        · simp only
          split
          · refine Weathers.bind (hread _ hfifth) ?_
            intro answer sixth hsixth
            refine weathers_ofAnswer fun found _ => ?_
            cases found with
            | some caller => exact weathers_pure hsixth
            | none => exact weathers_throw
          · exact weathers_throw
        · exact weathers_pure hfifth

theorem newSession_weathers {createdSid treeName : String} {direction : Direction}
    {caller : CallerId} {details : CallDetails} {rest : Session → Action α}
    (h : world.Ready source 1)
    (begins : ∀ session later, later.Ready source 0 → later.IsFree session.id →
      session.turns = [] → Weathers source (rest session) later post) :
    Weathers source (do
      let id ← freshId
      let createdAt ← now
      let session ← ofAnswer
        (Session.create ⟨id⟩ createdAt createdSid direction treeName caller details)
      rest session) world post := by
  refine Weathers.bind (freshId_ready h) ?_
  rintro id second ⟨hready, hfree⟩
  have hnow : Weathers source now second fun _ later => later.Ready source 0 ∧ later.IsFree ⟨id⟩ :=
    weathers_of_ensures (sparing_ask (.read rfl)
      ⟨hready.of_same rfl rfl rfl, hfree.rows, hfree.turns⟩)
  refine Weathers.bind hnow ?_
  rintro createdAt third ⟨hready, hfree⟩
  cases hcreated : Session.create ⟨id⟩ createdAt createdSid direction treeName caller details with
  | error failure => exact weathers_throw
  | ok session =>
      obtain rfl := create_eq_ok hcreated
      exact begins _ third hready hfree rfl

theorem createSession_weathers {sid treeName : String} (h : world.Ready source 2) :
    Weathers source (createSession sid treeName params) world fun session later =>
      later.Tracks none session := by
  rw [createSession]
  refine Weathers.bind (findOrCreateCaller_ready h) ?_
  intro caller second hsecond
  refine newSession_weathers hsecond ?_
  intro session third hready hfree hturns
  obtain ⟨begun, hbegun⟩ :
      ∃ begun, { session with status := (StatusUpdate.ofParams params).status } = begun := ⟨_, rfl⟩
  have hid : session.id = begun.id := by rw [← hbegun]
  have hnone : begun.turns = [] := by rw [← hbegun, hturns]
  rw [hid] at hfree
  rw [hbegun]
  have hsaved : Weathers source (ask (.saveSession begun)) third fun answer later =>
      (∃ failure, answer = .error failure) ∧ later = third ∨
        answer = .ok () ∧ later.Tracks none begun := by
    refine weathers_of_ensures (sparing_ask (.begins hfree.rows) ?_)
    rcases World.answerFrom_saveSession hfree.rows with ⟨failure, hsame⟩ | hadded
    · rw [hsame]
      exact .inl ⟨⟨failure, rfl⟩, rfl⟩
    · rw [hadded]
      exact .inr ⟨rfl, hfree.tracks hnone⟩
  refine Weathers.bind hsaved ?_
  rintro _ fourth (⟨⟨failure, rfl⟩, rfl⟩ | ⟨rfl, hfourth⟩)
  · -- a refusal leaves the store as it was, and the stored call is read
    simp only
    split
    · refine Weathers.bind (sessionBySid_weathers hready) ?_
      rintro (failure | _ | stored) fifth ⟨_, hfound⟩
      · exact weathers_throw
      · exact weathers_throw
      · exact weathers_pure (hfound stored rfl)
    · exact weathers_throw
  · exact weathers_pure hfourth

end Beginning

section Walking

/-- A step does nothing to turns, or writes to the turn that it is about and begins turns of the
session. -/
inductive KeepsTo (about : Option TurnId) (session : Session) (step : FlowStep) : Prop
  | nothing (updates : step.updatedTurn = none) (begins : step.nextTurn = none)
  | turns (updates : step.updatedTurn.map (·.id) = about)
      (begins : ∀ turn, step.nextTurn = some turn → turn.session = session.id)

theorem KeepsTo.of_goes {scene : FlowScene} {turn? : Option Turn}
    (goes : scene.Goes session turn? step) (updates : step.updatedTurn.map (·.id) = about) :
    KeepsTo about session step := by
  refine .turns updates ?_
  intro turn hturn
  obtain ⟨handle, _, rfl⟩ := goes.begins hturn
  rfl

theorem keepsTo_onGreeting {scene : FlowScene} {numberValid : Bool}
    (h : scene.onGreeting session numberValid = .ok step) : KeepsTo none session step := by
  have hgoes := FlowScene.onGreeting_goes h
  refine .of_goes hgoes (Option.map_eq_none_iff.mpr ?_)
  refine Option.eq_none_iff_forall_ne_some.mpr ?_
  intro updated hupdated
  obtain ⟨turn, hturn, _⟩ := hgoes.updates updated hupdated
  cases hturn

theorem keepsTo_visit {visit : Visit} (h : visit.step = .ok step) :
    KeepsTo (some visit.turn.id) visit.session step := by
  rcases Visit.step_eq_ok h with rfl | ⟨hupdated, _⟩
  · exact .nothing rfl rfl
  · refine .of_goes (Visit.step_goes h) ?_
    rw [hupdated, Option.map_some, Visit.updated_id]

theorem walk_weathers {α : Type} {take : FlowScene → Except FlowError FlowStep}
    {rest : FlowStep → Session → Action α} (h : world.Tracks about session)
    (keepsTo : ∀ scene step, take scene = .ok step → KeepsTo about session step)
    (done : ∀ step session later, Weathers source (rest step session) later fun _ _ => True) :
    Weathers source (do
      let scene ← loadScene tree session
      let step ← ofFlow (take scene)
      let session ← keepStep session step
      rest step session) world fun _ _ => True := by
  refine Weathers.bind (weathers_apart [] loadScene_touches (by decide) (by decide) h) ?_
  intro scene second hsecond
  cases hstep : take scene with
  | error failure => exact weathers_throw
  | ok step =>
      have hkept : Weathers source (keepStep session step) second fun _ _ => True := by
        cases keepsTo scene step hstep with
        | nothing updates begins =>
            rw [keepStep, keepTurnChange, keepNextTurn, updates, begins]
            exact weathers_pure trivial
        | turns updates begins =>
            rw [← updates] at hsecond
            exact keepStep_weathers hsecond begins
      change Weathers source (keepStep session step >>= rest step) second _
      exact Weathers.bind hkept fun session later _ => done step session later

theorem greet_weathers (h : world.Tracks none session) :
    Weathers source (greet tree session) world fun _ _ => True := by
  rw [greet]
  exact walk_weathers h (fun _ _ => keepsTo_onGreeting) fun _ _ _ => weathers_pure trivial

end Walking

section Commands

variable {name : String} {id : TurnId}

theorem inboundCall_weathers (h : world.Ready source 2) :
    Weathers source (inboundCall registry name params) world fun _ _ => True := by
  rw [inboundCall]
  refine findTree_weathers fun tree => requireField_weathers fun sid => ?_
  refine Weathers.bind (sessionBySid_weathers h) ?_
  rintro (failure | _ | session) second ⟨hready, hfound⟩
  · exact weathers_throw
  · change Weathers source (createSession sid tree.name params >>= greet tree) second _
    exact Weathers.bind (createSession_weathers hready) fun _ _ => greet_weathers
  · change Weathers source (applyUpdate session (.ofParams params) >>= greet tree) second _
    exact Weathers.bind (applyUpdate_weathers (hfound session rfl)) fun _ _ => greet_weathers

theorem outboundCall_weathers (h : world.Ready source left) :
    Weathers source (outboundCall registry name params) world fun _ _ => True := by
  refine findTree_weathers fun tree => Weathers.bind (findUpdatedCall_weathers h) ?_
  intro session second hsecond
  exact Weathers.bind (greet_weathers hsecond) fun _ _ _ => weathers_pure trivial

theorem prompt_weathers (h : world.Ready source left) :
    Weathers source (Service.prompt registry name id params) world fun _ _ => True := by
  refine findTree_weathers fun tree => Weathers.bind (findUpdatedCall_weathers h) ?_
  intro session second hsecond
  refine Weathers.bind (findTurn_weathers hsecond) ?_
  intro turn third hthird
  refine Weathers.bind (weathers_apart [] loadScene_touches (by decide) (by decide) hthird) ?_
  intro scene fourth hfourth
  refine Weathers.bind (weathers_apart [] touches_ofFlow (by decide) (by decide) hfourth) ?_
  exact fun _ _ _ => weathers_pure trivial

theorem promptResponse_weathers (h : world.Ready source left) :
    Weathers source (Service.promptResponse account registry name id params) world
      fun _ _ => True := by
  refine findTree_weathers fun tree => Weathers.bind (findUpdatedCall_weathers h) ?_
  intro session second hsecond
  refine Weathers.bind (findTurn_weathers hsecond) ?_
  intro turn third hthird
  refine Weathers.bind (receiveIfAny_weathers hthird) ?_
  rintro received fourth ⟨hid, hfourth⟩
  rw [← hid] at hfourth
  refine walk_weathers hfourth ?_ fun _ _ _ => weathers_pure trivial
  exact fun scene step hstep =>
    @keepsTo_visit step ⟨scene, session, received, .input (.ofParams params)⟩ hstep

theorem timeout_weathers (h : world.Ready source left) :
    Weathers source (Service.timeout registry name id params) world fun _ _ => True := by
  refine findTree_weathers fun tree => Weathers.bind (findUpdatedCall_weathers h) ?_
  intro session second hsecond
  refine Weathers.bind (findTurn_weathers hsecond) ?_
  intro turn third hthird
  refine Weathers.bind (weathers_apart [] (touches_read rfl) (by decide) (by decide) hthird) ?_
  intro answer fourth hfourth
  refine weathers_ofAnswer fun recent _ => ?_
  refine walk_weathers hfourth ?_ fun _ _ _ => weathers_pure trivial
  exact fun scene step hstep =>
    @keepsTo_visit step ⟨scene, session, turn, .timeout recent⟩ hstep

theorem startCall_weathers {recipient : String} {sender : Option String} {machineDetection : Bool}
    (h : world.Ready source 2) :
    Weathers source (startCall account registry name recipient sender machineDetection) world
      fun _ _ => True := by
  rw [startCall]
  refine findTree_weathers fun tree => ?_
  refine weathers_given (requireNumber_eq "to" recipient) fun number => ?_
  refine weathers_given (requireSender_eq account sender) fun sender => ?_
  refine Weathers.bind (ask_ready h (touches_write rfl (by decide)) (fun h => by cases h)) ?_
  intro answer second hsecond
  refine weathers_given ?_ fun sid => ?_
  · rcases answer with error | sid
    · exact .inr ⟨_, rfl⟩
    · exact .inl ⟨_, rfl⟩
  refine Weathers.bind (findOrCreateCaller_ready hsecond) ?_
  intro caller third hthird
  refine newSession_weathers hthird ?_
  intro session fourth _ hfree _
  have hsaved : Weathers source (ask (.saveSession session)) fourth fun _ _ => True :=
    weathers_of_ensures (sparing_ask (.begins hfree.rows) trivial)
  refine Weathers.bind hsaved ?_
  exact fun answer _ _ => weathers_ofAnswer fun _ _ => weathers_pure trivial

theorem finishedCall_weathers {id : SessionId} :
    Weathers source (finishedCall registry id) world fun _ _ => True := by
  refine Weathers.bind findSession_weathers ?_
  intro session second hsecond
  exact mark_weathers hsecond rowChange_markFinished fun _ => rfl

theorem unansweredCall_weathers {id : SessionId} :
    Weathers source (unansweredCall registry id) world fun _ _ => True := by
  refine Weathers.bind findSession_weathers ?_
  intro session second hsecond
  split
  · exact weathers_pure trivial
  · exact mark_weathers hsecond rowChange_markUnanswered fun _ => rfl

theorem weathers_harmless {α : Type} {action : Action α} (touches : action.Touches harmlessParts) :
    Weathers source action world fun _ _ => True :=
  (weathers_of_touches touches fun _ h => h).mono fun _ _ _ => trivial

theorem runJob_weathers (work : Job) :
    Weathers source (runJob registry work) world fun _ _ => True := by
  cases work with
  | unansweredCall session => exact unansweredCall_weathers
  | finishedCall session => exact finishedCall_weathers
  | attachRecording recording =>
      exact weathers_harmless (attachRecording_touches (by decide) (by decide) (by decide))

theorem webhook_weathers (entry : Webhook) (h : world.Ready source 2) :
    Weathers source (entry.action account registry params) world fun _ _ => True := by
  cases entry with
  | inbound name =>
      exact Weathers.bind (inboundCall_weathers h) fun _ _ _ => weathers_pure trivial
  | outbound name => exact (outboundCall_weathers h).returns
  | prompt name id => exact (prompt_weathers h).returns
  | promptResponse name id => exact (promptResponse_weathers h).returns
  | timeout name id => exact (timeout_weathers h).returns
  | receiveRecording id =>
      exact (weathers_harmless
        (receiveRecording_touches (by decide) (by decide) (by decide))).returns
  | transcribe id =>
      exact (weathers_harmless (transcribe_touches (by decide) (by decide) (by decide))).returns
  | status => exact (findUpdatedCall_weathers h).returns

end Commands

end Service

open Service

variable {account : Account} {registry : Registry} {source : Source} {world : World}

theorem Command.weathers (command : Command) (h : world.Ready source 2) :
    Weathers source (command.action account registry) world fun _ _ => True := by
  cases command with
  | webhook entry params => exact webhook_weathers entry h
  | startCall tree recipient sender machineDetection => exact (startCall_weathers h).returns
  | sendMessages recipient sender bodies =>
      exact Weathers.bind (weathers_harmless (sendMessages_touches (by decide) (by decide)))
        fun _ _ _ => weathers_pure trivial
  | findCaller number => exact (weathers_harmless (findOrCreateCaller_touches (by decide))).returns
  | job work => exact (runJob_weathers work).returns

theorem World.Spares.sessionRow? {later : World} {row : Session} (h : world.Spares later)
    (keyed : (world.store.sessions.map (·.id)).Nodup) (hrow : row ∈ world.store.sessions) :
    later.store.sessionRow? row.id = some row := by
  obtain ⟨more, hmore⟩ := h.sessions
  rw [Store.sessionRow?, ← hmore, List.find?_append, OpenWorld.find_of_nodup keyed hrow]
  rfl

/-- Up to two conflicts do not show: a command answers as it does without them, and leaves
everything as it does without them. With three or more, a command that would change the row of a
session which was there before fails, and leaves all those rows as they were without running a
callback. -/
theorem conflicts_show_from_the_third_on (command : Command) (ready : world.Ready source 2)
    (due : Nat) :
    let alone := (world.withConflicts 0).performFrom source (command.action account registry)
    let disturbed := (world.withConflicts due).performFrom source (command.action account registry)
    (due ≤ 2 →
        disturbed.1 = alone.1 ∧ disturbed.2.withConflicts 0 = alone.2.withConflicts 0) ∧
      (3 ≤ due → ∀ row ∈ world.store.sessions, alone.2.store.sessionRow? row.id ≠ some row →
        (∃ message, disturbed.1 = .error (.infrastructure message)) ∧
          (∀ row ∈ world.store.sessions, disturbed.2.store.sessionRow? row.id = some row) ∧
          disturbed.2.hooks = world.hooks) := by
  intro alone disturbed
  have hweathers : Weathers source (command.action account registry) world fun _ _ => True :=
    command.weathers ready
  rcases hweathers with ⟨undisturbed, _⟩ | retried
  · have halone : alone = _ := undisturbed.same 0
    have hdisturbed : disturbed = _ := undisturbed.same due
    refine ⟨?_, ?_⟩
    · intro _
      rw [hdisturbed, halone]
      exact ⟨rfl, rfl⟩
    · intro _ row hrow hchanged
      refine absurd ?_ hchanged
      rw [halone]
      exact undisturbed.spares.sessionRow? ready.keyed hrow
  · refine ⟨?_, ?_⟩
    · intro hfew
      have hsame : disturbed = alone := retried.few due hfew
      rw [hsame]
      exact ⟨rfl, rfl⟩
    · intro hmany _ _ _
      obtain ⟨message, later, hgaveUp, spares⟩ := retried.many due hmany
      have hdisturbed : disturbed = _ := hgaveUp
      rw [hdisturbed]
      exact ⟨⟨message, rfl⟩, fun row hrow => spares.sessionRow? ready.keyed hrow, spares.hooks⟩

def contestedWorld : World where
  store := { sessions := [{ (default : Session) with sid := "CA0" }], turns := [choiceTurn] }
  nextId := 1

/-- An answer whose request reports progress, so that the session changes twice. -/
def contestedAnswer : Command :=
  .webhook (.promptResponse "main" choiceTurn.id)
    ⟨[("CallSid", "CA0"), ("CallStatus", "in-progress"), ("Digits", "1")]⟩

def contestedRun (due : Nat) : Except CallError Outcome × World :=
  (contestedWorld.withConflicts due).perform
    (contestedAnswer.action default ⟨[choiceScene.tree]⟩)

theorem contested_answer_gives_way_to_three_conflicts :
    (contestedRun 0).2.store.sessions.map (fun row => (row.version, row.lengthSeconds)) = [(2, 5)] ∧
      (contestedRun 2).1 = (contestedRun 0).1 ∧
      (contestedRun 2).2.withConflicts 0 = (contestedRun 0).2.withConflicts 0 ∧
      (∃ message, (contestedRun 3).1 = .error (.infrastructure message)) ∧
      (contestedRun 3).2.store.sessionRow? default = contestedWorld.store.sessions.head? := by
  have ready : contestedWorld.Ready ⟨.ofNat, id⟩ 2 := by
    refine ⟨by decide, ?_⟩
    intro ahead hahead
    match ahead, hahead with
    | 0, _ => exact ⟨by decide, by decide⟩
    | 1, _ => exact ⟨by decide, by decide⟩
  have hrun (due : Nat) : (contestedWorld.withConflicts due).performFrom ⟨.ofNat, id⟩
      (contestedAnswer.action default ⟨[choiceScene.tree]⟩) = contestedRun due :=
    World.performFrom_counting _ _
  obtain ⟨few, _⟩ := @conflicts_show_from_the_third_on default ⟨[choiceScene.tree]⟩ _ _
    contestedAnswer ready 2
  obtain ⟨_, many⟩ := @conflicts_show_from_the_third_on default ⟨[choiceScene.tree]⟩ _ _
    contestedAnswer ready 3
  simp only [hrun] at few many
  obtain ⟨hanswer, hworld⟩ := few (by decide)
  have hrow : ∃ row ∈ contestedWorld.store.sessions,
      (contestedRun 0).2.store.sessionRow? row.id ≠ some row := by
    decide +kernel
  obtain ⟨row, hrow, hchanged⟩ := hrow
  obtain ⟨hfails, hrows, _⟩ := many (by decide) row hrow hchanged
  refine ⟨by decide +kernel, hanswer, hworld, hfails, ?_⟩
  exact hrows _ List.mem_cons_self

end PhoneTree

import PhoneTree.Proofs.FlowSteps
import PhoneTree.Proofs.Rows

namespace PhoneTree

@[simp] theorem OpenWorld.ensures_ask {state : OpenWorld} {question : Question}
    {post : question.Answer → OpenWorld → Prop} {fails : CallError → OpenWorld → Prop} :
    Action.Ensures OpenWorld.rules (Action.ask question) state post fails ↔
      ∀ answer state', state.Answers question answer state' → post answer state' := by
  rw [Action.ensures_ask]
  exact and_iff_right trivial

namespace Service

open OpenWorld

variable {state : OpenWorld} {registry : Registry} {params : Params} {session : Session}

section Finding

variable {α : Type} {fails : CallError → OpenWorld → Prop}

theorem findTree_rule {σ : Type} {rules : Rules Question Question.Answer σ} {state : σ}
    {name : String} {post : Tree → σ → Prop} {fails : CallError → σ → Prop}
    (found : ∀ tree, registry.get? name = some tree → post tree state)
    (missing : registry.get? name = none → fails (.treeNotFound name) state) :
    Action.Ensures rules (findTree registry name) state post fails := by
  rw [findTree]
  split
  · exact found _ ‹_›
  · exact missing ‹_›

theorem requireField_rule {σ : Type} {rules : Rules Question Question.Answer σ} {state : σ}
    {field : String} {post : String → σ → Prop} {fails : CallError → σ → Prop}
    (found : ∀ value, params.get? field = some value → post value state)
    (missing : fails (.validationFailed field "is required") state) :
    Action.Ensures rules (requireField params field) state post fails := by
  rw [requireField]
  split
  · exact found _ ‹_›
  · exact missing

theorem findCall_rule {post : Session → OpenWorld → Prop} (h : state.Intact)
    (found : ∀ session, params.callSid? = some session.sid → state.Loads session →
      post session state)
    (invalid : ∀ field message, fails (.validationFailed field message) state)
    (missing : ∀ sid, params.callSid? = some sid → (∀ call ∈ state.callFacts, call.sid ≠ sid) →
      fails (.callNotFound sid) state) :
    Action.Ensures OpenWorld.rules (findCall params) state post fails := by
  rw [findCall, Action.ensures_bind]
  refine requireField_rule ?_ (invalid _ _)
  intro sid hsid
  rw [Action.ensures_bind, ensures_ask]
  rintro answer state' ⟨rfl, rfl⟩
  simp only [World.answer, Action.ensures_bind, Action.ensures_ofAnswer]
  split
  · rename_i session hfound
    obtain ⟨hloads, rfl⟩ := loads_of_sessionBySid h hfound
    exact found session hsid hloads
  · rename_i habsent
    exact missing sid hsid (sid_ne_of_sessionBySid habsent)

theorem findTurn_rule {id : TurnId} {post : Turn → OpenWorld → Prop}
    (found : ∀ turn, turn.id = id → turn.session = session.id → turn.facts ∈ state.turnFacts →
      post turn state)
    (missing : ∀ text, (state.Intact → ∀ turn ∈ state.turnFacts, turn.id = id →
      turn.session ≠ session.id) → fails (.turnNotFound text) state) :
    Action.Ensures OpenWorld.rules (findTurn session id) state post fails := by
  rw [findTurn, Action.ensures_bind, ensures_ask]
  rintro answer state' ⟨rfl, rfl⟩
  simp only [World.answer, Action.ensures_bind, Action.ensures_ofAnswer]
  split
  · rename_i turn hfound
    rw [Store.turnById] at hfound
    have hid := List.find?_some hfound
    have hmem : turn.facts ∈ state.turnFacts :=
      List.mem_map_of_mem (List.mem_of_find?_eq_some hfound)
    split
    · rename_i howned
      exact found turn (eq_of_beq hid) howned hmem
    · rename_i hforeign
      refine missing _ ?_
      intro hintact other hother hsame howned
      have heq := eq_of_nodup hintact.turnIds hother hmem (hsame.trans (eq_of_beq hid).symm)
      rw [heq] at howned
      exact hforeign howned
  · rename_i habsent
    refine missing _ ?_
    intro _ other hother hsame
    rw [Store.turnById, List.find?_eq_none] at habsent
    obtain ⟨turn, hturn, rfl⟩ := List.mem_map.mp hother
    exact absurd (beq_iff_eq.mpr hsame) (habsent turn hturn)

end Finding

section Turns

variable {id : TurnId} {post : Unit → OpenWorld → Prop} {fails : CallError → OpenWorld → Prop}

theorem changeTurn_rule {question : Question} {change : Turn → Turn}
    {outcome : question.Answer → Except Failure Unit} (h : state.Intact)
    (hturn : ∃ turn ∈ state.turnFacts, turn.id = id)
    (hsame : ∀ turn, (change turn).facts = turn.facts)
    (hanswer : ∀ answer state', state.Answers question answer state' →
      outcome answer = (state.world.write (state.store.changeTurn id change)).1 ∧ state' =
        { state with world := (state.world.write (state.store.changeTurn id change)).2 })
    (done : ∀ state', state.Adds state' [] → post () state') :
    Action.Ensures OpenWorld.rules
      (Action.ask question >>= fun answer => Action.ofAnswer (outcome answer)) state post fails := by
  obtain ⟨store, hstore, hadds⟩ := changeTurn_adds h hturn hsame
  rw [hstore] at hanswer
  rw [Action.ensures_bind, ensures_ask]
  intro answer state' hresult
  obtain ⟨houtcome, rfl⟩ := hanswer answer state' hresult
  rw [houtcome]
  exact done _ hadds

theorem recordInput_rule {input : TurnInput} (h : state.Intact)
    (hturn : ∃ turn ∈ state.turnFacts, turn.id = id)
    (done : ∀ state', state.Adds state' [] → post () state') :
    Action.Ensures OpenWorld.rules
      (do Action.ofAnswer (← Action.ask (.recordInput id input))) state post fails :=
  changeTurn_rule h hturn (fun turn => turn.merge_facts input) (fun _ _ hanswer => hanswer) done

theorem markTimedOut_rule (h : state.Intact) (hturn : ∃ turn ∈ state.turnFacts, turn.id = id)
    (done : ∀ state', state.Adds state' [] → post () state') :
    Action.Ensures OpenWorld.rules
      (do Action.ofAnswer (← Action.ask (.markTimedOut id))) state post fails :=
  changeTurn_rule h hturn Turn.markTimedOut_facts (fun _ _ hanswer => hanswer) done

theorem attachToTurn_rule {recording : RecordingId} (h : state.Intact)
    (hturn : ∃ turn ∈ state.turnFacts, turn.id = id)
    (done : ∀ state', state.Adds state' [] → post () state') :
    Action.Ensures OpenWorld.rules
      (do Action.ofAnswer (← Action.ask (.attachToTurn id recording))) state post fails := by
  refine changeTurn_rule h hturn ?_ (fun _ _ hanswer => hanswer) done
  intro turn
  split <;> rfl

end Turns

section Updating

variable {α : Type} {change : Session → Session × Option α} {fails : CallError → OpenWorld → Prop}

/-- A row that somebody has as it stands in the store is changed, unless conflicts are due. -/
theorem changeSession_rewrites {post : Session × Option α → OpenWorld → Prop} (retries : Nat)
    (h : state.Intact) (hholds : state.Holds session) (hchange : RowChange change)
    (done : ∀ changed outcome state', state.Rewrites change session state' changed →
      post (changed, outcome) state')
    (disturbed : ∀ message state', state.Adds state' [] → state.store.conflicts ≠ 0 →
      fails (.infrastructure message) state') :
    Action.Ensures OpenWorld.rules (changeSession change retries session) state post fails := by
  refine @changeSession_loop α change session _ _ state
    (fun base later => state.Adds later [] ∧ later.store.turns = state.store.turns ∧
      state.Rereads session base)
    post fails retries ?_ (fun _ _ _ _ _ _ => trivial) ?_ ?_ ⟨.refl h, rfl, .inl rfl⟩
  · rintro base changed later ⟨hadds, hturns, hbase⟩ hnone
    exact done changed none later (.unchanged hadds hturns hholds hchange hbase hnone)
  · rintro base sent outcome later updated last ⟨hadds, hturns, hbase⟩ hsent
      (answered : later.Answers (.updateSession sent) (.ok updated) last)
    cases answers_updateSession answered with
    | stored calm found current =>
        exact done _ _ _ (.stored hadds hturns hholds hchange hbase hsent)
  · rintro base sent outcome later failure last ⟨hadds, hturns, hbase⟩ hsent
      (answered : later.Answers (.updateSession sent) (.error failure) last)
    have hrevises := hchange.revises base
    rw [hsent] at hrevises
    have hbaseHolds : later.Holds base := hbase.holds (hadds.holds hholds)
    rcases hbaseHolds.updated hrevises (answers_updateSession answered) with
      ⟨hupdated, _⟩ | ⟨failure, due, hkind, hdue, hrefused, rfl⟩
    · cases hupdated
    · obtain rfl := Except.error.inj hrefused
      have hless := hadds.extension.conflicts
      have hlost := adds_withConflicts hadds.extension.intact (by omega : due ≤ later.store.conflicts)
      have hlater := hadds.trans hlost
      constructor
      · rw [CallError.ofFailure, hkind]
        exact disturbed _ _ hlater (by omega)
      · intro _
        -- the race was lost: the row is read anew, and it is what it was
        rw [Action.ensures_bind, ensures_ask]
        rintro answer _ ⟨rfl, rfl⟩
        have hrow : (later.withConflicts due).store.sessionRow? sent.id =
            some (Store.row session) := by
          rw [hrevises.id_eq, ← hbase.row]
          exact hlost.holds hbaseHolds
        have hread : (World.answer (.sessionById sent.id) (later.withConflicts due).world).1 =
            .ok (some (state.store.load (Store.row session))) := by
          have hturnsOf := Store.turnsOf_congr hturns session.id
          change Except.ok (((later.withConflicts due).store.sessionRow? sent.id).map _) = _
          rw [hrow, Option.map_some, Store.load, Store.load]
          exact congrArg (fun turns => Except.ok (some { Store.row session with turns })) hturnsOf
        rw [hread]
        exact ⟨hlater, hturns, .inr rfl⟩

theorem updateSession_rewrites {post : Session × Option α → OpenWorld → Prop}
    (h : state.Intact) (hholds : state.Holds session) (hchange : RowChange change)
    (done : ∀ changed outcome state', state.Rewrites change session state' changed →
      post (changed, outcome) state')
    (disturbed : ∀ message state', state.Adds state' [] → state.store.conflicts ≠ 0 →
      fails (.infrastructure message) state') :
    Action.Ensures OpenWorld.rules (updateSession session change) state post fails :=
  changeSession_rewrites (maxAttempts - 1) h hholds hchange done disturbed

theorem updateSession_rule {post : Session × Option α → OpenWorld → Prop}
    (h : state.Intact) (hholds : state.Holds session) (hchange : RowChange change)
    (done : ∀ changed outcome state', state.Extends state' [] [] → state'.Holds changed →
      changed.facts = session.facts → post (changed, outcome) state')
    (disturbed : ∀ message state', state.Extends state' [] [] → state.store.conflicts ≠ 0 →
      fails (.infrastructure message) state') :
    Action.Ensures OpenWorld.rules (updateSession session change) state post fails := by
  refine updateSession_rewrites h hholds hchange ?_
    fun message state' hadds => disturbed message state' hadds.extension
  intro changed outcome state' hrewrites
  exact done changed outcome state' hrewrites.extension hrewrites.holds (hrewrites.facts hchange)

theorem schedule_rule {job : Job} {delay : Nat} {post : Unit → OpenWorld → Prop}
    (h : state.Intact)
    (done : ∀ state', state.Adds state' [] → state'.store = state.store → post () state') :
    Action.Ensures OpenWorld.rules
      (do Action.ofAnswer (← Action.ask (.schedule job delay))) state post fails := by
  rw [Action.ensures_bind, ensures_ask]
  intro answer state' hanswer
  have hadds := Adds.of_answers h rfl hanswer
  obtain ⟨rfl, rfl⟩ := hanswer
  exact done _ hadds rfl

theorem leaveWork_rule {jobs : List Job} {post : Session → OpenWorld → Prop} (h : state.Intact)
    (done : ∀ state', state.Adds state' [] → state'.store = state.store → post session state') :
    Action.Ensures OpenWorld.rules (leaveWork session jobs) state post fails := by
  induction jobs generalizing state with
  | nil => exact done state (.refl h) rfl
  | cons job jobs ih =>
      refine Action.ensures_bind_assoc.mpr (schedule_rule h ?_)
      intro second hsecond hsame
      refine ih hsecond.extension.intact ?_
      intro third hthird hlast
      exact done third (hsecond.trans hthird) (hlast.trans hsame)

theorem applyUpdate_rewrites {update : StatusUpdate} {post : Session → OpenWorld → Prop}
    (h : state.Intact) (hholds : state.Holds session)
    (done : ∀ updated state', state.Rewrites (Session.takeOver update) session state' updated →
      post updated state')
    (disturbed : ∀ message state', state.Extends state' [] [] → state.store.conflicts ≠ 0 →
      fails (.infrastructure message) state') :
    Action.Ensures OpenWorld.rules (applyUpdate session update) state post fails := by
  have hchange := rowChange_takeOver update
  rw [applyUpdate_eq]
  split
  · rename_i hempty
    obtain rfl := StatusUpdate.eq_of_isEmpty hempty
    have hnone := Session.takeOver_of_unchanged (Session.changeBy_nothing session)
    exact done session state (.unchanged (.refl h) rfl hholds hchange (.inl rfl) hnone)
  · rw [Action.ensures_bind]
    refine updateSession_rewrites h hholds hchange ?_
      fun message state' hadds => disturbed message state' hadds.extension
    intro updated change state' hrewrites
    refine leaveWork_rule hrewrites.extension.intact ?_
    intro later hlater hsame
    exact done updated later (hrewrites.later hlater hsame)

theorem applyUpdate_rule {update : StatusUpdate} {post : Session → OpenWorld → Prop}
    (h : state.Intact) (hloads : state.Loads session)
    (done : ∀ updated state', state.Meets state' [] → state'.Loads updated →
      updated.facts = session.facts → post updated state')
    (disturbed : ∀ message state', state.Extends state' [] [] → state.store.conflicts ≠ 0 →
      fails (.infrastructure message) state') :
    Action.Ensures OpenWorld.rules (applyUpdate session update) state post fails := by
  have hchange := rowChange_takeOver update
  refine applyUpdate_rewrites h hloads.holds ?_ disturbed
  intro updated state' hrewrites
  refine done updated state' ?_ ⟨hrewrites.holds, ?_⟩ (hrewrites.facts hchange)
  · refine hrewrites.meets hloads.holds hchange ?_
    intro base
    rw [Session.takeOver, Session.afterUpdate_eq]
  · obtain ⟨base, version, hbase, rfl⟩ := hrewrites.made
    obtain rfl : base = session := hbase.elim id fun hbase => hbase.trans hloads.load_row
    rw [Store.turnsOf_congr hrewrites.turns, Session.takeOver, Session.afterUpdate_eq]
    exact hloads.turns

end Updating

section Walking

variable {fails : CallError → OpenWorld → Prop} {tree : Tree} {step : FlowStep}

theorem freshId_rule {post : Uuid → OpenWorld → Prop} (h : state.Intact)
    (done : ∀ id state', state.Adds state' [] → state'.Unused id → post id state') :
    Action.Ensures OpenWorld.rules Action.freshId state post fails := by
  refine ensures_ask.mpr ?_
  intro id state' hanswer
  refine done id state' (.of_answers h rfl hanswer) ?_
  obtain ⟨hnew, nextId, rfl⟩ := hanswer
  refine ⟨List.mem_cons_self, ?_, ?_⟩
  · intro call hcall heq
    exact hnew (heq ▸ h.sessionsDrawn call hcall)
  · intro turn hturn heq
    exact hnew (heq ▸ h.turnsDrawn turn hturn)

theorem now_rule {post : Timestamp → OpenWorld → Prop} (h : state.Intact)
    (done : ∀ time state', state.Adds state' [] → post time state') :
    Action.Ensures OpenWorld.rules Action.now state post fails := by
  refine ensures_ask.mpr ?_
  intro time state' hanswer
  exact done time state' (.of_answers h rfl hanswer)

theorem loadHistory_rule {post : History → OpenWorld → Prop}
    (done : ∀ history, post history state) :
    Action.Ensures OpenWorld.rules (loadHistory session) state post fails := by
  rw [loadHistory, Action.ensures_bind, ensures_ask]
  rintro answer state' ⟨rfl, rfl⟩
  simp only [World.answer, Action.ensures_bind, Action.ensures_ofAnswer]
  rw [ensures_ask]
  rintro answer state' ⟨rfl, rfl⟩
  simp only [World.answer, Action.ensures_ofAnswer]
  rw [ensures_ask]
  rintro answer state' ⟨rfl, rfl⟩
  exact done _

theorem loadScene_rule {post : FlowScene → OpenWorld → Prop} (h : state.Intact)
    (done : ∀ scene state', scene.tree = tree → state.Adds state' [] →
      state'.Unused scene.freshTurn.uuid → post scene state') :
    Action.Ensures OpenWorld.rules (loadScene tree session) state post fails := by
  rw [loadScene, Action.ensures_bind]
  refine loadHistory_rule ?_
  intro history
  rw [Action.ensures_bind]
  refine freshId_rule h ?_
  intro id second hsecond hunused
  rw [Action.ensures_bind]
  refine now_rule hsecond.extension.intact ?_
  intro now third hthird
  exact done _ third rfl (hsecond.trans hthird) (hunused.extends hthird.extension)

theorem keepTurnChange_rule {post : Unit → OpenWorld → Prop} (h : state.Intact)
    (hupdated : ∀ updated, step.updatedTurn = some updated → updated.facts ∈ state.turnFacts)
    (done : ∀ state', state.Adds state' [] → post () state') :
    Action.Ensures OpenWorld.rules (keepTurnChange step) state post fails := by
  rw [keepTurnChange]
  split
  · rename_i turn input hturn _
    exact recordInput_rule h ⟨turn.facts, hupdated turn hturn, rfl⟩ done
  · rename_i turn hturn _
    exact markTimedOut_rule h ⟨turn.facts, hupdated turn hturn, rfl⟩ done
  · exact done state (.refl h)

/-- The facts about the turn that a step begins. -/
def begun (step : FlowStep) : List TurnFacts :=
  (step.nextTurn.map Turn.facts).toList

theorem keepNextTurn_rule {post : Unit → OpenWorld → Prop} (h : state.Intact)
    (hnext : ∀ turn, step.nextTurn = some turn →
      state.Unused turn.id.uuid ∧ ∃ call ∈ state.callFacts, call.id = turn.session)
    (done : ∀ state', state.Adds state' (begun step) → post () state') :
    Action.Ensures OpenWorld.rules (keepNextTurn step) state post fails := by
  rw [keepNextTurn]
  rw [begun] at done
  cases hturn : step.nextTurn with
  | none =>
      rw [hturn] at done
      exact done state (.refl h)
  | some turn =>
      rw [hturn] at done
      obtain ⟨hunused, howned⟩ := hnext turn hturn
      simp only
      rw [Action.ensures_bind, ensures_ask]
      intro answer state' hanswer
      obtain ⟨rfl, rfl⟩ := answers_saveTurn hanswer fun other hother heq =>
        hunused.turns other hother (congrArg TurnId.uuid heq)
      exact done _ (.addTurn h hunused howned)

theorem keepStep_rule {post : Session → OpenWorld → Prop} (h : state.Intact)
    (hholds : state.Holds session)
    (hupdated : ∀ updated, step.updatedTurn = some updated → updated.facts ∈ state.turnFacts)
    (hnext : ∀ turn, step.nextTurn = some turn →
      state.Unused turn.id.uuid ∧ turn.session = session.id)
    (done : ∀ kept state', state.Extends state' [] (begun step) → kept.facts = session.facts →
      post kept state')
    (disturbed : ∀ message state', state.Extends state' [] (begun step) →
      state.store.conflicts ≠ 0 → fails (.infrastructure message) state') :
    Action.Ensures OpenWorld.rules (keepStep session step) state post fails := by
  rw [keepStep, Action.ensures_bind]
  refine keepTurnChange_rule h hupdated ?_
  intro second hsecond
  rw [Action.ensures_bind]
  refine keepNextTurn_rule hsecond.extension.intact ?_ ?_
  · intro turn hturn
    obtain ⟨hunused, hsession⟩ := hnext turn hturn
    refine ⟨hunused.extends hsecond.extension, session.facts, ?_, hsession.symm⟩
    exact (hsecond.holds hholds).facts_mem
  · intro third hthird
    have hkept := hsecond.trans hthird
    rw [List.nil_append] at hkept
    split
    · exact done session third hkept.extension rfl
    · rw [Action.ensures_bind]
      refine updateSession_rule hkept.extension.intact (hkept.holds hholds)
        (rowChange_recordTurns _) ?_ ?_
      · intro changed outcome state' hextends _ hfacts
        have hall := hkept.extension.trans hextends
        simp only [List.append_nil] at hall
        exact done changed state' hall hfacts
      · intro message state' hextends hdisturbed
        have hall := hkept.extension.trans hextends
        simp only [List.append_nil] at hall
        have hless := hkept.extension.conflicts
        exact disturbed message state' hall (by omega)

end Walking

end Service

end PhoneTree

import PhoneTree.Proofs.Callbacks
import PhoneTree.Proofs.TurnCopies

namespace PhoneTree

theorem Timestamp.le_def {a b : Timestamp} : a ≤ b ↔ a.nanos ≤ b.nanos :=
  Iff.rfl

theorem Timestamp.secondsSince_bounds {first last : Timestamp} (h : first ≤ last) :
    1000000000 * last.secondsSince first ≤ last.nanos - first.nanos ∧
      last.nanos - first.nanos < 1000000000 * (last.secondsSince first + 1) := by
  have hforward : 0 ≤ last.nanos - first.nanos := Int.sub_nonneg.mpr h
  rw [secondsSince, Int.tdiv_eq_ediv_of_nonneg hforward]
  omega

namespace Session

section Length

variable {turns turns' : List Turn}

theorem span_eq_none (h : span turns = none) : turns = [] := by
  cases turns with
  | nil => rfl
  | cons turn rest =>
      rw [span] at h
      split at h <;> cases h

theorem span_bounds {first last : Timestamp} (h : span turns = some (first, last)) :
    (∃ turn ∈ turns, turn.createdAt = first) ∧ (∃ turn ∈ turns, turn.createdAt = last) ∧
      ∀ turn ∈ turns, first ≤ turn.createdAt ∧ turn.createdAt ≤ last := by
  induction turns generalizing first last with
  | nil => cases h
  | cons turn rest ih =>
      rw [span] at h
      split at h
      · rename_i hrest
        obtain ⟨rfl, rfl⟩ := Prod.mk.inj (Option.some.inj h)
        obtain rfl := span_eq_none hrest
        simp [Timestamp.le_def]
      · rename_i first last hrest
        obtain ⟨rfl, rfl⟩ := Prod.mk.inj (Option.some.inj h)
        obtain ⟨⟨a, ha, hfirst⟩, ⟨b, hb, hlast⟩, hall⟩ := ih hrest
        refine ⟨?_, ?_, ?_⟩
        · split
          · exact ⟨turn, List.mem_cons_self, rfl⟩
          · exact ⟨a, List.mem_cons_of_mem _ ha, hfirst⟩
        · split
          · exact ⟨turn, List.mem_cons_self, rfl⟩
          · exact ⟨b, List.mem_cons_of_mem _ hb, hlast⟩
        · intro other hother
          have hwithin : other = turn ∨ first ≤ other.createdAt ∧ other.createdAt ≤ last :=
            (List.mem_cons.mp hother).imp_right (hall other)
          simp only [Timestamp.le_def] at hwithin ⊢
          constructor
          · split
            · rcases hwithin with rfl | hwithin <;> omega
            · rcases hwithin with rfl | hwithin <;> omega
          · split
            · rcases hwithin with rfl | hwithin <;> omega
            · rcases hwithin with rfl | hwithin <;> omega

theorem span_congr (h : turns.map (·.createdAt) = turns'.map (·.createdAt)) :
    span turns = span turns' := by
  induction turns generalizing turns' with
  | nil =>
      rw [List.map_nil, eq_comm, List.map_eq_nil_iff] at h
      rw [h]
  | cons turn rest ih =>
      cases turns' with
      | nil => cases h
      | cons turn' rest' =>
          obtain ⟨hturn, hrest⟩ := List.cons.inj h
          have hsame : turn.createdAt = turn'.createdAt := hturn
          rw [span, span, ih hrest, hsame]

theorem lengthOf_congr (h : turns.map Turn.facts = turns'.map Turn.facts) :
    lengthOf turns = lengthOf turns' := by
  have htimes := congrArg (List.map TurnFacts.createdAt) h
  rw [List.map_map, List.map_map] at htimes
  rw [lengthOf, lengthOf, span_congr htimes]

end Length

section Recording

variable {session : Session} {turn : Turn} {turns : List Turn}

theorem recordTurn_known (hids : ((session.turns.map Turn.facts).map (·.id)).Nodup)
    (hturn : turn.facts ∈ session.turns.map Turn.facts) :
    (session.recordTurn turn).turns.map Turn.facts = session.turns.map Turn.facts := by
  have hhas : session.hasTurn turn.id = true := by
    obtain ⟨other, hother, hfacts⟩ := List.mem_map.mp hturn
    exact List.any_eq_true.mpr ⟨other, hother, beq_iff_eq.mpr (congrArg TurnFacts.id hfacts)⟩
  have hplain : (session.turns.map (·.id)).Nodup := by
    rw [List.map_map] at hids
    exact hids
  rw [recordTurn_eq_map hplain hhas, List.map_map]
  refine List.map_congr_left ?_
  intro other hother
  refine Turn.replacedBy_facts fun hid => ?_
  exact OpenWorld.eq_of_nodup hids hturn (List.mem_map_of_mem hother) hid.symm

theorem recordTurn_new (hnew : ∀ other ∈ session.turns.map Turn.facts, other.id ≠ turn.id) :
    (session.recordTurn turn).turns.map Turn.facts =
      session.turns.map Turn.facts ++ [turn.facts] := by
  have hlacks : ¬session.hasTurn turn.id = true := by
    intro hhas
    obtain ⟨other, hother, hid⟩ := List.any_eq_true.mp hhas
    exact hnew other.facts (List.mem_map_of_mem hother) (eq_of_beq hid)
  rw [recordTurn, if_neg hlacks]
  exact List.map_append

theorem recordTurn_known? {turn? : Option Turn}
    (hids : ((session.turns.map Turn.facts).map (·.id)).Nodup)
    (hturn : ∀ turn, turn? = some turn → turn.facts ∈ session.turns.map Turn.facts) :
    (turn?.toList.foldl recordTurn session).turns.map Turn.facts =
      session.turns.map Turn.facts := by
  cases turn? with
  | none => rfl
  | some turn => exact recordTurn_known hids (hturn turn rfl)

theorem foldl_recordTurn_length (h : session.lengthSeconds = lengthOf session.turns) :
    (turns.foldl recordTurn session).lengthSeconds =
      lengthOf (turns.foldl recordTurn session).turns := by
  induction turns generalizing session with
  | nil => exact h
  | cons turn rest ih => exact ih rfl

theorem recordTurns_length (h : turns ≠ []) :
    (Service.recordTurns turns session).1.lengthSeconds =
      lengthOf (Service.recordTurns turns session).1.turns := by
  cases turns with
  | nil => exact absurd rfl h
  | cons turn rest =>
      have hfirst : (session.recordTurn turn).lengthSeconds =
          lengthOf (session.recordTurn turn).turns := rfl
      exact @foldl_recordTurn_length (session.recordTurn turn) rest hfirst

end Recording

end Session

namespace OpenWorld

/-- What is fixed of the turns of a session, in the order in which they were saved. -/
def turnFactsOf (state : OpenWorld) (id : SessionId) : List TurnFacts :=
  state.turnFacts.filter fun turn => turn.session == id

/-- A session has its row as it stands in the store, and the turns that are stored for it as far as
what never changes about them goes. -/
structure Mirrors (state : OpenWorld) (session : Session) : Prop where
  holds : state.Holds session
  turns : session.turns.map Turn.facts = state.turnFactsOf session.id

/-- The stored length of every session is the one that its stored turns imply. -/
def Measured (state : OpenWorld) : Prop :=
  ∀ row ∈ state.store.sessions, row.lengthSeconds = Session.lengthOf (state.store.turnsOf row.id)

variable {state state' : OpenWorld} {session : Session} {id : SessionId}

theorem map_turnsOf (state : OpenWorld) (id : SessionId) :
    (state.store.turnsOf id).map Turn.facts = state.turnFactsOf id := by
  rw [turnFactsOf, turnFacts, Store.turnFacts, List.filter_map]
  rfl

theorem lengthOf_eq {turns : List Turn} (h : turns.map Turn.facts = state.turnFactsOf id) :
    Session.lengthOf turns = Session.lengthOf (state.store.turnsOf id) :=
  Session.lengthOf_congr (h.trans (state.map_turnsOf id).symm)

theorem Loads.mirrors (h : state.Loads session) : state.Mirrors session := by
  refine ⟨h.holds, ?_⟩
  rw [h.turns, map_turnsOf]

theorem Mirrors.adds (h : state.Mirrors session) (adds : state.Adds state' []) :
    state'.Mirrors session := by
  refine ⟨adds.holds h.holds, ?_⟩
  rw [turnFactsOf, adds.extension.turns, List.append_nil]
  exact h.turns

theorem Intact.turnFactsOf_nodup (h : state.Intact) (id : SessionId) :
    ((state.turnFactsOf id).map (·.id)).Nodup :=
  (List.filter_sublist.map _).nodup h.turnIds

theorem Measured.meets {calls : List CallFacts} (h : state.Measured) (hintact : state.Intact)
    (hmeets : state.Meets state' calls) : state'.Measured := by
  have hturns : state'.turnFacts = state.turnFacts := by
    rw [hmeets.extension.turns, List.append_nil]
  have hsame : ∀ id, (state.store.turnsOf id).map Turn.facts = state'.turnFactsOf id := by
    intro id
    rw [map_turnsOf, turnFactsOf, turnFactsOf, hturns]
  intro row hrow
  rw [← lengthOf_eq (hsame row.id)]
  have hlength : (row.id, row.lengthSeconds) ∈ state'.lengths := List.mem_map_of_mem hrow
  rw [hmeets.lengths] at hlength
  rcases List.mem_append.mp hlength with hlength | hlength
  · obtain ⟨old, hold, heq⟩ := List.mem_map.mp hlength
    obtain ⟨hid, hseconds⟩ := Prod.mk.inj heq
    rw [← hseconds, ← hid]
    exact h old hold
  · obtain ⟨call, hcall, heq⟩ := List.mem_map.mp hlength
    obtain ⟨hid, hseconds⟩ := Prod.mk.inj heq
    have hids := hmeets.extension.intact.sessionIds
    rw [hmeets.extension.calls, List.map_append, List.nodup_append] at hids
    -- the stored turns belong to calls that were stored before this one
    have hnone : state.store.turnsOf row.id = [] := by
      apply hintact.turnsOf_eq_nil
      intro other hother hsame
      have hdistinct := hids.2.2 _ (List.mem_map_of_mem hother) _ (List.mem_map_of_mem hcall)
      exact hdistinct (hsame.trans hid.symm)
    rw [hnone, ← hseconds]
    rfl

theorem Measured.rewrites {α : Type} {change : Session → Session × Option α} {changed : Session}
    (h : ∀ row ∈ state.store.sessions, row.id ≠ session.id →
      row.lengthSeconds = Session.lengthOf (state.store.turnsOf row.id))
    (hchange : RowChange change) (hrewrites : state.Rewrites change session state' changed)
    (hlength : changed.lengthSeconds = Session.lengthOf (state.store.turnsOf session.id)) :
    state'.Measured := by
  have hid : changed.id = session.id := congrArg CallFacts.id (hrewrites.facts hchange)
  have hintact := hrewrites.extension.intact
  have hput : Store.row changed ∈ state'.store.sessions :=
    List.mem_of_find?_eq_some hrewrites.holds
  intro row hrow
  rw [Store.turnsOf_congr hrewrites.turns]
  by_cases hother : row.id = session.id
  · obtain rfl := eq_of_nodup hintact.ids_nodup hrow hput (hother.trans hid.symm)
    rw [hother]
    exact hlength
  · rw [hrewrites.rows] at hrow
    rcases Store.mem_putRow hrow with rfl | hrow
    · exact absurd hid hother
    · exact h row hrow hother

end OpenWorld

/-- What a step has to do with a session and the stored turns: the turn that it updates is stored
for the session, and the turn that it begins is new. -/
structure FlowStep.Suits (step : FlowStep) (state : OpenWorld) (session : Session) : Prop where
  updates : ∀ updated, step.updatedTurn = some updated →
    updated.facts ∈ state.turnFacts ∧ updated.session = session.id
  begins : ∀ turn, step.nextTurn = some turn →
    state.Unused turn.id.uuid ∧ turn.session = session.id

section Steps

open Service

variable {state state' : OpenWorld} {session base : Session} {step : FlowStep}

/-- The turns that a step hands on, as it leaves them. -/
def FlowStep.turns (step : FlowStep) : List Turn :=
  step.updatedTurn.toList ++ step.nextTurn.toList

theorem FlowStep.Suits.turnFactsOf (h : step.Suits state session)
    (adds : state.Adds state' (begun step)) :
    state'.turnFactsOf session.id =
      state.turnFactsOf session.id ++ (step.nextTurn.map Turn.facts).toList := by
  rw [OpenWorld.turnFactsOf, adds.extension.turns, List.filter_append, begun]
  congr 1
  cases hnext : step.nextTurn with
  | none => rfl
  | some turn =>
      have howned : (turn.facts.session == session.id) = true :=
        beq_iff_eq.mpr (h.begins turn hnext).2
      simp [howned]

theorem FlowStep.Suits.adds (h : step.Suits state session) (adds : state.Adds state' []) :
    step.Suits state' session := by
  constructor
  · intro updated hupdated
    obtain ⟨hstored, howned⟩ := h.updates updated hupdated
    exact ⟨adds.extension.mem_turns hstored, howned⟩
  · intro turn hnext
    obtain ⟨hunused, howned⟩ := h.begins turn hnext
    exact ⟨hunused.extends adds.extension, howned⟩

theorem FlowStep.Suits.measured_others (h : step.Suits state session)
    (adds : state.Adds state' (begun step)) (measured : state.Measured) :
    ∀ row ∈ state'.store.sessions, row.id ≠ session.id →
      row.lengthSeconds = Session.lengthOf (state'.store.turnsOf row.id) := by
  intro row hrow hother
  rw [adds.sessions] at hrow
  rw [measured row hrow]
  apply OpenWorld.lengthOf_eq
  rw [OpenWorld.map_turnsOf, OpenWorld.turnFactsOf, OpenWorld.turnFactsOf, adds.extension.turns,
    List.filter_append, begun]
  cases hnext : step.nextTurn with
  | none => exact (List.append_nil _).symm
  | some turn =>
      have hforeign : turn.facts.session ≠ row.id := by
        intro howned
        exact hother (howned.symm.trans (h.begins turn hnext).2)
      simp [hforeign]

/-- Whether the session knows the turn that a step begins or not, with the turns of the step it
knows what is stored. -/
theorem FlowStep.Suits.recorded (h : step.Suits state session) (intact : state'.Intact)
    (adds : state.Adds state' (begun step))
    (hbase : base.turns.map Turn.facts = state.turnFactsOf session.id ∨
      base.turns.map Turn.facts = state'.turnFactsOf session.id) :
    (recordTurns step.turns base).1.turns.map Turn.facts = state'.turnFactsOf session.id := by
  have hturns := h.turnFactsOf adds
  have hafter := intact.turnFactsOf_nodup session.id
  have hids : ((base.turns.map Turn.facts).map (·.id)).Nodup := by
    rcases hbase with hbase | hbase <;> rw [hbase]
    · rw [hturns, List.map_append] at hafter
      exact (List.sublist_append_left _ _).nodup hafter
    · exact hafter
  have hupdated : (step.updatedTurn.toList.foldl Session.recordTurn base).turns.map Turn.facts =
      base.turns.map Turn.facts := by
    apply Session.recordTurn_known? hids
    intro updated hsome
    obtain ⟨hstored, howned⟩ := h.updates updated hsome
    have hmem : updated.facts ∈ state.turnFactsOf session.id :=
      List.mem_filter.mpr ⟨hstored, beq_iff_eq.mpr howned⟩
    rcases hbase with hbase | hbase <;> rw [hbase]
    · exact hmem
    · rw [hturns]
      exact List.mem_append_left _ hmem
  rw [recordTurns, FlowStep.turns, List.foldl_append]
  generalize step.updatedTurn.toList.foldl Session.recordTurn base = view at hupdated ⊢
  rw [← hupdated] at hbase hids
  -- the session was read before its new turn was stored, or after a conflict together with it
  rcases hbase with hbase | hbase
  · cases hnext : step.nextTurn with
    | none =>
        rw [hnext] at hturns
        rw [hturns, ← hbase]
        exact (List.append_nil _).symm
    | some turn =>
        rw [hnext] at hturns
        rw [hturns, ← hbase]
        apply Session.recordTurn_new
        intro other hother hsame
        rw [hbase] at hother
        have hunused := (h.begins turn hnext).1
        exact hunused.turns other (List.mem_filter.mp hother).1 (congrArg TurnId.uuid hsame)
  · rw [Session.recordTurn_known? hids ?_, hbase]
    intro turn hnext
    rw [hbase, hturns, hnext]
    exact List.mem_append_right _ List.mem_cons_self

end Steps

/-- The action leaves every stored length the one that the stored turns imply, unless it gives up on
the row of a session, and ends with a value only as `post` says. -/
def Measures {α : Type} (action : Action α) (state : OpenWorld) (post : α → OpenWorld → Prop) :
    Prop :=
  Action.Ensures OpenWorld.rules action state post fun error state' =>
    (∀ message, error ≠ .infrastructure message) → state'.Measured

namespace Service

open OpenWorld PhoneTree.Action

variable {α : Type} {state : OpenWorld} {session : Session} {step : FlowStep}
  {registry : Registry} {account : Account} {params : Params} {tree : Tree}

theorem measures_bind {β : Type} {action : Action α} {rest : α → Action β}
    {post : β → OpenWorld → Prop} :
    Measures (action >>= rest) state post ↔
      Measures action state fun value state' => Measures (rest value) state' post :=
  ensures_bind

theorem keepStep_measures {post : Session → OpenWorld → Prop} (h : state.Intact)
    (measured : state.Measured) (mirrors : state.Mirrors session)
    (suits : step.Suits state session)
    (done : ∀ kept state', state'.Measured → post kept state') :
    Measures (keepStep session step) state post := by
  rw [keepStep]
  refine measures_bind.mpr (keepTurnChange_rule h (fun _ h => (suits.updates _ h).1) ?_)
  intro second hsecond
  have hstill := measured.meets h (.of_adds hsecond)
  have suits := suits.adds hsecond
  refine measures_bind.mpr (keepNextTurn_rule hsecond.extension.intact ?_ ?_)
  · intro turn hnext
    obtain ⟨hunused, howned⟩ := suits.begins turn hnext
    exact ⟨hunused, _, (hsecond.holds mirrors.holds).facts_mem, howned.symm⟩
  · intro third hthird
    have hothers := suits.measured_others hthird hstill
    split
    · rename_i hnothing
      have hnext : step.nextTurn = none := by
        cases hnext : step.nextTurn with
        | none => rfl
        | some turn => simp [hnext] at hnothing
      rw [begun, hnext] at hthird
      exact done session third (hstill.meets hsecond.extension.intact (.of_adds hthird))
    · rename_i hsome
      refine measures_bind.mpr ?_
      refine updateSession_rewrites hthird.extension.intact
        (hthird.holds (hsecond.holds mirrors.holds)) (rowChange_recordTurns _) ?_ ?_
      · intro changed outcome last hrewrites
        refine done changed last (.rewrites hothers (rowChange_recordTurns _) hrewrites ?_)
        obtain ⟨base, version, hbase, rfl⟩ := hrewrites.made
        refine (Session.recordTurns_length hsome).trans (lengthOf_eq ?_)
        apply suits.recorded hthird.extension.intact hthird
        rcases hbase with rfl | rfl
        · exact .inl (mirrors.adds hsecond).turns
        · exact .inr (third.map_turnsOf session.id)
      · intro message state' _ _ hsound
        exact absurd rfl (hsound message)

section Handlers

variable {β : Type} {turn? : Option Turn} {take : FlowScene → Except FlowError FlowStep}
  {name : String} {id : TurnId}

theorem walk_measures {rest : FlowStep → Session → Action α} {post : α → OpenWorld → Prop}
    (h : state.Intact) (measured : state.Measured) (mirrors : state.Mirrors session)
    (htakes : ∀ scene : FlowScene, scene.tree = tree → scene.Takes session turn? (take scene))
    (hturn : ∀ turn, turn? = some turn → turn.facts ∈ state.turnFacts ∧ turn.session = session.id)
    (done : ∀ step kept state', state'.Measured → Measures (rest step kept) state' post) :
    Measures (do
      let scene ← loadScene tree session
      let step ← ofFlow (take scene)
      let kept ← keepStep session step
      rest step kept) state post := by
  refine measures_bind.mpr (loadScene_rule h ?_)
  intro scene second htree hsecond hunused
  have hstill := measured.meets h (.of_adds hsecond)
  refine measures_bind.mpr (ensures_ofFlow.mpr ?_)
  have htakes := htakes scene htree
  cases hresult : take scene with
  | error error => exact fun _ => hstill
  | ok step =>
      rw [hresult] at htakes
      have hgoes := htakes.goes
      refine measures_bind.mpr
        (keepStep_measures hsecond.extension.intact hstill (mirrors.adds hsecond) ?_ (done step))
      constructor
      · intro updated hupdated
        obtain ⟨turn, hsome, hfacts⟩ := hgoes.updates updated hupdated
        obtain ⟨hstored, howned⟩ := hturn turn hsome
        rw [hfacts]
        refine ⟨hsecond.extension.mem_turns hstored, ?_⟩
        exact (congrArg TurnFacts.session hfacts).trans howned
      · intro turn hnext
        obtain ⟨handle, _, rfl⟩ := hgoes.begins hnext
        exact ⟨hunused, rfl⟩

theorem greet_measures (h : state.Intact) (measured : state.Measured)
    (mirrors : state.Mirrors session) :
    Measures (greet tree session) state fun _ => Measured := by
  rw [greet]
  generalize PhoneNumber.isValid session.details.fromNumber = numberValid
  have htakes : ∀ scene : FlowScene, scene.tree = tree →
      scene.Takes session none (scene.onGreeting session numberValid) :=
    fun scene _ => .greeting numberValid
  refine walk_measures h measured mirrors htakes ?_ fun _ _ _ hlater => hlater
  rintro _ ⟨⟩

theorem findUpdatedCall_measures {rest : Session → Action α} {post : α → OpenWorld → Prop}
    (h : state.Intact) (measured : state.Measured)
    (found : ∀ session state', state'.Intact → state'.Measured → state'.Loads session →
      Measures (rest session) state' post) :
    Measures (findUpdatedCall params >>= rest) state post := by
  refine measures_bind.mpr (findUpdatedCall_rule h ?_ (fun _ _ _ => measured)
    (fun _ _ _ _ => measured) (fun message _ _ _ hsound => absurd rfl (hsound message)))
  intro session state' _ hmeets hloads
  exact found session state' hmeets.extension.intact (measured.meets h hmeets) hloads

theorem find_measures {rest : Tree → Session → Turn → Action α} {post : α → OpenWorld → Prop}
    (h : state.Intact) (measured : state.Measured)
    (found : ∀ tree session turn state', state'.Intact → state'.Measured → state'.Loads session →
      turn.facts ∈ state'.turnFacts → turn.session = session.id →
        Measures (rest tree session turn) state' post) :
    Measures (do
      let tree ← findTree registry name
      let session ← findUpdatedCall params
      let turn ← findTurn session id
      rest tree session turn) state post := by
  refine measures_bind.mpr (findTree_rule ?_ fun _ _ => measured)
  intro tree _
  refine findUpdatedCall_measures h measured ?_
  intro session state' hintact hmeasured hloads
  refine measures_bind.mpr (findTurn_rule ?_ fun _ _ _ => hmeasured)
  intro turn _ howned hstored
  exact found tree session turn state' hintact hmeasured hloads hstored howned

theorem inboundCall_measures (h : state.Intact) (measured : state.Measured) :
    Measures (inboundCall registry name params) state fun _ => Measured := by
  refine measures_bind.mpr (findTree_rule ?_ fun _ _ => measured)
  intro tree _
  refine measures_bind.mpr (requireField_rule ?_ fun _ => measured)
  intro sid _
  refine measures_bind.mpr (OpenWorld.ensures_ask.mpr ?_)
  rintro answer state' ⟨rfl, rfl⟩
  refine measures_bind.mpr (ensures_ofAnswer.mpr ?_)
  simp only [World.answer]
  split
  · rename_i session hfound
    have hloads := (loads_of_sessionBySid h hfound).1
    refine measures_bind.mpr (applyUpdate_rule h hloads ?_
      fun message _ _ _ hsound => absurd rfl (hsound message))
    intro updated state' hmeets hupdated _
    exact greet_measures hmeets.extension.intact (measured.meets h hmeets) hupdated.mirrors
  · rename_i habsent
    refine measures_bind.mpr (createSession_rule h (sid_ne_of_sessionBySid habsent) ?_ ?_)
    · intro session state' _ _ hmeets hloads
      exact greet_measures hmeets.extension.intact (measured.meets h hmeets) hloads.mirrors
    · exact fun _ _ state' hadds _ => measured.meets h (.of_adds hadds)

theorem outboundCall_measures (h : state.Intact) (measured : state.Measured) :
    Measures (outboundCall registry name params) state fun _ => Measured := by
  refine measures_bind.mpr (findTree_rule ?_ fun _ _ => measured)
  intro tree _
  refine findUpdatedCall_measures h measured ?_
  intro session state' hintact hmeasured hloads
  exact measures_bind.mpr (greet_measures hintact hmeasured hloads.mirrors)

theorem prompt_measures (h : state.Intact) (measured : state.Measured) :
    Measures (Service.prompt registry name id params) state fun _ => Measured := by
  refine find_measures h measured ?_
  intro tree session turn state' hintact hmeasured _ _ _
  refine measures_bind.mpr (loadScene_rule hintact ?_)
  intro scene later _ hadds _
  have hlater := hmeasured.meets hintact (.of_adds hadds)
  refine measures_bind.mpr (ensures_ofFlow.mpr ?_)
  split
  · exact hlater
  · exact fun _ => hlater

theorem promptResponse_measures (h : state.Intact) (measured : state.Measured) :
    Measures (Service.promptResponse account registry name id params) state fun _ => Measured := by
  refine find_measures h measured ?_
  intro tree session turn state' hintact hmeasured hloads hstored howned
  refine measures_bind.mpr (receiveIfAny_rule hintact hstored ?_ ?_)
  · -- the recording is attached to a turn of the session, which the session does not know of
    intro received later hadds hsame
    have hlater := hmeasured.meets hintact (.of_adds hadds)
    have htakes : ∀ scene : FlowScene, scene.tree = tree → scene.Takes session (some received)
        (scene.onInput session received (.ofParams params)) := fun scene _ => .input received _
    refine walk_measures hadds.extension.intact hlater (hloads.mirrors.adds hadds) htakes ?_
      fun _ _ _ hlast => hlast
    rintro _ ⟨rfl⟩
    refine ⟨hadds.extension.mem_turns (hsame ▸ hstored), ?_⟩
    exact (congrArg TurnFacts.session hsame).trans howned
  · exact fun _ _ later hadds _ => hmeasured.meets hintact (.of_adds hadds)

theorem timeout_measures (h : state.Intact) (measured : state.Measured) :
    Measures (Service.timeout registry name id params) state fun _ => Measured := by
  refine find_measures h measured ?_
  intro tree session turn state' hintact hmeasured hloads hstored howned
  refine measures_bind.mpr (OpenWorld.ensures_ask.mpr ?_)
  rintro answer later ⟨rfl, rfl⟩
  refine measures_bind.mpr (ensures_ofAnswer.mpr ?_)
  have htakes : ∀ recent (scene : FlowScene), scene.tree = tree → scene.Takes session (some turn)
      (scene.onTimeout session turn recent) := fun recent scene _ => .timeout turn recent
  simp only [World.answer]
  refine walk_measures hintact hmeasured hloads.mirrors (htakes _) ?_ fun _ _ _ hlast => hlast
  rintro _ ⟨rfl⟩
  exact ⟨hstored, howned⟩

theorem findOwn_measures {rest : Session → Turn → Action α} {post : α → OpenWorld → Prop}
    (h : state.Intact) (measured : state.Measured)
    (found : ∀ session turn, turn.facts ∈ state.turnFacts →
      Measures (rest session turn) state post) :
    Measures (do
      let session ← findCall params
      let turn ← findTurn session id
      rest session turn) state post := by
  refine measures_bind.mpr (findCall_rule h ?_ (fun _ _ _ => measured) fun _ _ _ _ => measured)
  intro session _ _
  refine measures_bind.mpr (findTurn_rule ?_ fun _ _ _ => measured)
  exact fun turn _ _ hstored => found session turn hstored

theorem receiveRecording_measures (h : state.Intact) (measured : state.Measured) :
    Measures (Service.receiveRecording account id params) state fun _ => Measured := by
  refine findOwn_measures h measured ?_
  intro session turn hstored
  refine receive_rule h hstored ?_ ?_
  · exact fun _ state' hadds _ => measured.meets h (.of_adds hadds)
  · exact fun _ _ state' hadds _ => measured.meets h (.of_adds hadds)

theorem transcribe_measures (h : state.Intact) (measured : state.Measured) :
    Measures (Service.transcribe account id params) state fun _ => Measured := by
  refine findOwn_measures h measured ?_
  intro session turn hstored
  refine measures_bind.mpr (receiveIfAny_rule h hstored ?_ ?_)
  · intro received later hadds hsame
    have hlater := measured.meets h (.of_adds hadds)
    simp only
    split
    · have hturn : received.facts ∈ later.turnFacts := hadds.extension.mem_turns (hsame ▸ hstored)
      refine ensures_bind_assoc.mpr (recordInput_rule hadds.extension.intact ⟨_, hturn, rfl⟩ ?_)
      exact fun last hlast => hlater.meets hadds.extension.intact (.of_adds hlast)
    · exact hlater
  · exact fun _ _ state' hadds _ => measured.meets h (.of_adds hadds)

theorem webhook_measures (entry : Webhook) (h : state.Intact) (measured : state.Measured) :
    Measures (entry.action account registry params) state fun _ => Measured := by
  cases entry with
  | inbound tree => exact measures_bind.mpr (inboundCall_measures h measured)
  | outbound tree => exact measures_bind.mpr (outboundCall_measures h measured)
  | prompt tree turn => exact measures_bind.mpr (prompt_measures h measured)
  | promptResponse tree turn => exact measures_bind.mpr (promptResponse_measures h measured)
  | timeout tree turn => exact measures_bind.mpr (timeout_measures h measured)
  | receiveRecording turn => exact measures_bind.mpr (receiveRecording_measures h measured)
  | transcribe turn => exact measures_bind.mpr (transcribe_measures h measured)
  | status =>
      refine findUpdatedCall_measures h measured ?_
      exact fun _ _ _ hmeasured _ => hmeasured

end Handlers

end Service

section Runs

variable {account : Service.Account} {registry : Registry} {start state state' : OpenWorld}
  {served : List (Command × Except CallError Outcome)} {command : Command}
  {result : Except CallError Outcome}

/-- A command leaves every length the one that the turns imply, unless it is a webhook that gives up
on the row of its session. -/
theorem Command.measured_of_runs (h : state.Intact) (measured : state.Measured)
    (kept : command.isWebhook = true → ∀ message, result ≠ .error (.infrastructure message))
    (run : Action.Runs OpenWorld.rules (command.action account registry) state result state') :
    state'.Measured := by
  cases hkind : command.isWebhook with
  | true =>
      cases command with
      | webhook entry params =>
          have hend := Dialogue.Ensures.of_runs (Service.webhook_measures entry h measured) run
          cases result with
          | ok outcome => exact hend
          | error error =>
              refine hend ?_
              intro message heq
              exact kept rfl message (congrArg Except.error heq)
      | _ => cases hkind
  | false =>
      have hend := Dialogue.Ensures.of_runs (Command.addsCalls h hkind) run
      cases result <;>
      · obtain ⟨calls, hmeets⟩ := hend
        exact measured.meets h hmeets

theorem Served.measured (intact : start.Intact) (measured : start.Measured)
    (run : Served account registry .any start served state)
    (kept : ∀ entry ∈ served, entry.1.isWebhook = true →
      ∀ message, entry.2 ≠ .error (.infrastructure message)) :
    state.Measured := by
  induction run with
  | nothing => exact measured
  | stir before stirred ih =>
      obtain ⟨due, rfl⟩ := stirred
      exact ih kept
  | @serve served command result state state' before admitted run ih =>
      have hbefore := ih fun entry hentry => kept entry (List.mem_append_left _ hentry)
      have hthis := kept (command, result) (List.mem_append_right _ List.mem_cons_self)
      exact Command.measured_of_runs (before.keeps intact).1 hbefore hthis run

/-- What turns imply about the length of their call: it is nothing if there are none, and otherwise
the whole seconds from the earliest of them to the latest and five seconds more. -/
inductive Session.Lasts : List Turn → Int → Prop
  | unspoken : Lasts [] 0
  | spoken {turns : List Turn} {first last : Turn} {seconds : Int} (begins : first ∈ turns)
      (ends : last ∈ turns)
      (within : ∀ turn ∈ turns, first.createdAt.nanos ≤ turn.createdAt.nanos ∧
        turn.createdAt.nanos ≤ last.createdAt.nanos)
      (full : 1000000000 * seconds ≤ last.createdAt.nanos - first.createdAt.nanos)
      (short : last.createdAt.nanos - first.createdAt.nanos < 1000000000 * (seconds + 1)) :
      Lasts turns (seconds + 5)

theorem Session.lasts_lengthOf (turns : List Turn) : Lasts turns (lengthOf turns) := by
  rw [lengthOf]
  split
  · rename_i first last hspan
    obtain ⟨⟨a, ha, rfl⟩, ⟨b, hb, rfl⟩, hall⟩ := span_bounds hspan
    have hseconds := Timestamp.secondsSince_bounds (hall a ha).2
    exact .spoken ha hb hall hseconds.1 hseconds.2
  · rename_i hspan
    rw [span_eq_none hspan]
    exact .unspoken

/-- Unless a webhook has given up on the row of its session, the stored length of every call is the
one that its stored turns imply, whatever the clock shows. -/
theorem stored_lengths_follow_turns (empty : start.store = {})
    (run : Served account registry .any start served state)
    (kept : ∀ entry ∈ served, entry.1.isWebhook = true →
      ∀ message, entry.2 ≠ .error (.infrastructure message)) :
    ∀ session ∈ state.store.sessions,
      Session.Lasts (state.store.turns.filter fun turn => turn.session == session.id)
        session.lengthSeconds := by
  have hintact : start.Intact := OpenWorld.intact_of_empty (by rw [empty]) (by rw [empty])
  have hmeasured : start.Measured := by
    intro row hrow
    rw [empty] at hrow
    cases hrow
  intro session hsession
  rw [run.measured hintact hmeasured kept session hsession]
  exact Session.lasts_lengthOf _

end Runs

section Repeated

/-- Answers as the world in memory does, with a clock that moves two and a half seconds with every
reading. -/
def World.answerSlowly : (question : Question) → World → question.Answer × World
  | .currentTime, world => (world.clock, { world with clock := ⟨world.clock.nanos + 2500000000⟩ })
  | question, world => World.answer question world

theorem World.isOpen_answerSlowly : OpenWorld.IsOpen World.answerSlowly where
  counts question world := by
    cases question with
    | currentTime => exact Nat.le_refl _
    | _ => exact OpenWorld.nextId_le_answer _ world
  allowed question world := by
    cases question with
    | currentTime => exact fun _ => ⟨_, rfl⟩
    | _ => exact OpenWorld.answers_answer

/-- The webhook of a call, whose delivery begins a turn each time. -/
def repeatedCommand : Command :=
  .webhook (.inbound "main") questionParams

def repeatedDelivery (world : World) : Except CallError Outcome × World :=
  (repeatedCommand.action default ⟨[questionTree]⟩).run.run World.answerSlowly world

theorem repeatedDelivery_runs (world : World)
    (room : (repeatedDelivery world).2.nextId ≤ Nat.pow 2 128) :
    Action.Runs OpenWorld.rules (repeatedCommand.action default ⟨[questionTree]⟩)
      (.ofWorld world) (repeatedDelivery world).1 (.ofWorld (repeatedDelivery world).2) :=
  World.isOpen_answerSlowly.runs_run _ world room

/-- The same delivery twice, each reading of the clock some seconds after the one before. -/
def repeatedCalls : List (Command × Except CallError Outcome) × World :=
  let first := repeatedDelivery {}
  let second := repeatedDelivery first.2
  ([(repeatedCommand, first.1), (repeatedCommand, second.1)], second.2)

theorem repeatedCalls_served :
    Served default ⟨[questionTree]⟩ .any (.ofWorld {}) repeatedCalls.1
      (.ofWorld repeatedCalls.2) := by
  have hfirst := repeatedDelivery_runs {} (by decide +kernel)
  have hsecond := repeatedDelivery_runs (repeatedDelivery {}).2 (by decide +kernel)
  dsimp only [repeatedCalls]
  exact .serve (.serve .nothing trivial hfirst) trivial hsecond

theorem repeatedCalls_have_their_length :
    repeatedCalls.2.store.turns.map (·.createdAt.nanos) = [5000000000, 7500000000] ∧
      repeatedCalls.2.store.sessions.map (·.lengthSeconds) = [7] ∧
      ∀ session ∈ repeatedCalls.2.store.sessions,
        Session.Lasts (repeatedCalls.2.store.turns.filter fun turn => turn.session == session.id)
          session.lengthSeconds := by
  have hturns : repeatedCalls.2.store.turns.map (·.createdAt.nanos) =
      [5000000000, 7500000000] := by decide +kernel
  have hlengths : repeatedCalls.2.store.sessions.map (·.lengthSeconds) = [7] := by
    decide +kernel
  have hdone : (repeatedCalls.1.all fun entry => entry.2.isOk) = true := by decide +kernel
  have hserved := repeatedCalls_served
  generalize repeatedCalls = calls at hturns hlengths hdone hserved ⊢
  refine ⟨hturns, hlengths, stored_lengths_follow_turns rfl hserved ?_⟩
  intro entry hentry _ message hfailed
  have hok := List.all_eq_true.mp hdone entry hentry
  rw [hfailed] at hok
  cases hok

end Repeated

end PhoneTree

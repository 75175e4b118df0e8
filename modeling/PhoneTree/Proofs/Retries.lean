import PhoneTree.Proofs.CommandFootprint
import PhoneTree.Proofs.Conduct
import PhoneTree.Proofs.Rows
import PhoneTree.Proofs.StatusRace
/-!
Programs that run while conflicts are due.

A program that stores no session over an older one does not notice conflicts. The first change of a
session that is stored is made anew after every conflict and uses them up, so that whatever follows
it runs undisturbed, unless there are more conflicts than attempts.
-/
namespace PhoneTree

/-- Where identifiers and the readings of a clock come from: the same for every number and time. -/
structure Source where
  id : Nat → Uuid
  time : Timestamp → Timestamp

namespace World

/-- The world with so many conflicts due. -/
def withConflicts (world : World) (due : Nat) : World :=
  { world with store := { world.store with conflicts := due } }

/-- Answers a question with identifiers and readings of a source. -/
def answerFrom (source : Source) : (question : Question) → World → question.Answer × World
  | .freshId, world => (source.id world.nextId, { world with nextId := world.nextId + 1 })
  | .currentTime, world =>
      (source.time world.clock, { world with clock := ⟨world.clock.nanos + tick⟩ })
  | question, world => answer question world

/-- Performs an action against a world with disturbances. -/
def performFrom {α : Type} (source : Source) (action : Action α) (world : World) :
    Except CallError α × World :=
  Dialogue.run (answerFrom source) (ExceptT.run action) world

theorem performFrom_counting {α : Type} (action : Action α) (world : World) :
    world.performFrom ⟨.ofNat, id⟩ action = world.perform action := by
  have hanswer : answerFrom ⟨.ofNat, id⟩ = answer := by
    funext question world
    cases question <;> rfl
  rw [performFrom, hanswer]
  rfl

/-- The sessions are stored as before, with new ones behind them at most, and no lifecycle callback
has run. -/
structure Spares (world world' : World) : Prop where
  sessions : world.store.sessions <+: world'.store.sessions
  hooks : world'.hooks = world.hooks

/-- A question that neither stores a session over an older one nor runs a lifecycle callback. -/
inductive Permits (world : World) : Question → Prop
  | harmless {question : Question}
      (parts : ∀ part, question.part? = some part → part ∈ harmlessParts) : Permits world question
  | begins {session : Session} (new : ∀ row ∈ world.store.sessions, row.id ≠ session.id) :
      Permits world (.saveSession session)

/-- The rules of programs that store no session over an older one. -/
def sparing (source : Source) : Rules Question Question.Answer World where
  MayAsk := Permits
  Answers world question answer world' := answerFrom source question world = (answer, world')

section Permitted

variable {source : Source} {world : World} {question : Question} {due : Nat}

theorem Spares.refl (world : World) : world.Spares world :=
  ⟨List.prefix_refl _, rfl⟩

theorem Spares.trans {first second third : World} (h : first.Spares second)
    (h' : second.Spares third) : first.Spares third :=
  ⟨h.sessions.trans h'.sessions, h'.hooks.trans h.hooks⟩

theorem Permits.read (h : question.part? = none) : world.Permits question := by
  refine .harmless ?_
  intro part hpart
  rw [h] at hpart
  cases hpart

theorem Permits.write {part : Part} (h : question.part? = some part)
    (hpart : part ∈ harmlessParts) : world.Permits question := by
  refine .harmless ?_
  intro other hother
  rw [h] at hother
  rwa [← Option.some.inj hother]

theorem write_withConflicts {result result' : Except Failure Store}
    (h : result' = result.map fun store => { store with conflicts := due }) :
    (world.withConflicts due).write result' =
      ((world.write result).1, (world.write result).2.withConflicts due) := by
  rw [h]
  cases result <;> rfl

theorem changeTurn_withConflicts (store : Store) (id : TurnId) (change : Turn → Turn) :
    { store with conflicts := due }.changeTurn id change =
      (store.changeTurn id change).map fun store => { store with conflicts := due } := by
  have hfound : { store with conflicts := due }.turnById id = store.turnById id := rfl
  rw [Store.changeTurn, Store.changeTurn, hfound]
  cases store.turnById id <;> rfl

theorem updateRecording_withConflicts (store : Store) (recording : Recording) :
    { store with conflicts := due }.updateRecording recording =
      (store.updateRecording recording).map fun store => { store with conflicts := due } := by
  have hfound : { store with conflicts := due }.recordingById recording.id =
      store.recordingById recording.id := rfl
  rw [Store.updateRecording, Store.updateRecording, hfound]
  cases store.recordingById recording.id <;> rfl

theorem saveSession_withConflicts (session : Session) :
    answerFrom source (.saveSession session) (world.withConflicts due) =
      ((answerFrom source (.saveSession session) world).1,
        (answerFrom source (.saveSession session) world).2.withConflicts due) := by
  refine write_withConflicts ?_
  rw [Store.saveSession, Store.saveSession, apply_ite (Except.map _)]
  rfl

theorem answerFrom_withConflicts (h : world.Permits question) :
    answerFrom source question (world.withConflicts due) =
      ((answerFrom source question world).1,
        (answerFrom source question world).2.withConflicts due) := by
  cases h with
  | begins new => exact saveSession_withConflicts _
  | harmless parts =>
      cases question with
      | saveSession session | updateSession session =>
          exact absurd (parts .sessions rfl) (by decide)
      | runHook hook callback session => exact absurd (parts .hooks rfl) (by decide)
      | saveTurn turn =>
          refine write_withConflicts ?_
          rw [Store.saveTurn, Store.saveTurn, apply_ite (Except.map _)]
          rfl
      | saveRecording recording =>
          refine write_withConflicts ?_
          rw [Store.saveRecording, Store.saveRecording, apply_ite (Except.map _)]
          rfl
      | saveCaller caller =>
          refine write_withConflicts ?_
          rw [Store.saveCaller, Store.saveCaller, apply_ite (Except.map _)]
          rfl
      | recordInput id input | markTimedOut id | attachToTurn id recording =>
          exact write_withConflicts (changeTurn_withConflicts _ _ _)
      | updateRecording recording =>
          exact write_withConflicts (updateRecording_withConflicts _ _)
      | _ => rfl

theorem answers_answerFrom (source : Source) (question : Question) (world : World) :
    ∃ drawn, OpenWorld.Answers ⟨world, []⟩ question (answerFrom source question world).1
      ⟨(answerFrom source question world).2, drawn⟩ := by
  cases question with
  | freshId => exact ⟨[source.id world.nextId], List.not_mem_nil, _, rfl⟩
  | startCall request | sendMessage request | fetchRecording url | currentTime => exact ⟨[], _, rfl⟩
  | runHook hook callback session => exact ⟨[], rfl⟩
  | _ => exact ⟨[], rfl, rfl⟩

theorem answerFrom_same {β : Type} {part : Part} (read : World → β)
    (hread : ∀ world part?, part? ≠ some part → read (world.without part?) = read world)
    (hpart : question.part? ≠ some part) :
    read (answerFrom source question world).2 = read world := by
  obtain ⟨_, hanswers⟩ := answers_answerFrom source question world
  exact OpenWorld.answers_same read hread hanswers hpart

theorem sessions_answerFrom (hpart : question.part? ≠ some .sessions) :
    (answerFrom source question world).2.store.sessions = world.store.sessions :=
  answerFrom_same (·.store.sessions) sessions_without hpart

theorem turns_answerFrom (hpart : question.part? ≠ some .turns) :
    (answerFrom source question world).2.store.turns = world.store.turns :=
  answerFrom_same (·.store.turns) turns_without hpart

theorem answerFrom_saveSession {session : Session}
    (new : ∀ row ∈ world.store.sessions, row.id ≠ session.id) :
    (∃ error, answerFrom source (.saveSession session) world = (.error error, world)) ∨
      answerFrom source (.saveSession session) world =
        (.ok (), { world with store := { world.store with
          sessions := world.store.sessions ++ [Store.row session] } }) := by
  have hput : Store.putRow (Store.row session) world.store.sessions =
      world.store.sessions ++ [Store.row session] := Store.putRow_eq_append new
  change (∃ error, world.write (world.store.saveSession session) = _) ∨
    world.write (world.store.saveSession session) = _
  rw [Store.saveSession]
  split
  · exact .inl ⟨_, rfl⟩
  · rw [hput]
    exact .inr rfl

theorem spares_answerFrom (h : world.Permits question) :
    world.Spares (answerFrom source question world).2 := by
  cases h with
  | harmless parts =>
      have hsessions : (answerFrom source question world).2.store.sessions = world.store.sessions :=
        sessions_answerFrom fun hpart => absurd (parts _ hpart) (by decide)
      refine ⟨⟨[], (List.append_nil _).trans hsessions.symm⟩, ?_⟩
      exact answerFrom_same (·.hooks) hooks_without fun hpart => absurd (parts _ hpart) (by decide)
  | begins new =>
      rcases answerFrom_saveSession new with ⟨_, hsame⟩ | hadded
      · rw [hsame]
        exact .refl world
      · rw [hadded]
        exact ⟨List.prefix_append _ _, rfl⟩

end Permitted

end World

/-- A program that conflicts do not concern, and after which the sessions are stored as before. -/
structure Undisturbed {α : Type} (source : Source) (action : Action α) (world : World) : Prop where
  same : ∀ due, (world.withConflicts due).performFrom source action =
    ((world.performFrom source action).1, (world.performFrom source action).2.withConflicts due)
  spares : world.Spares (world.performFrom source action).2

/-- A program that uses up as many conflicts as it has attempts left, and then runs as it does
without them. It gives up on more conflicts, with the sessions stored as before. -/
structure Retried {α : Type} (source : Source) (action : Action α) (world : World) : Prop where
  few : ∀ due ≤ 2, (world.withConflicts due).performFrom source action =
    (world.withConflicts 0).performFrom source action
  many : ∀ due, 3 ≤ due → ∃ message later,
    (world.withConflicts due).performFrom source action =
      (.error (.infrastructure message), later) ∧ world.Spares later

/-- A program weathers conflicts if they do not concern it, in which case it ends with a value only
as `post` says, or else if it tries again after each of them. -/
def Weathers {α : Type} (source : Source) (action : Action α) (world : World)
    (post : α → World → Prop) : Prop :=
  (Undisturbed source action world ∧ ∀ value, (world.performFrom source action).1 = .ok value →
    post value (world.performFrom source action).2) ∨ Retried source action world

section Rules

variable {α β : Type} {source : Source} {world : World} {action : Action α} {rest : α → Action β}
  {post : α → World → Prop}

theorem performFrom_bind (world : World) :
    world.performFrom source (action >>= rest) =
      match world.performFrom source action with
      | (.ok value, later) => later.performFrom source (rest value)
      | (.error error, later) => (.error error, later) := by
  refine (Dialogue.run_bind _ _ _ _).trans ?_
  change Dialogue.run _ (ExceptT.bindCont rest (world.performFrom source action).1)
    (world.performFrom source action).2 = _
  rcases world.performFrom source action with ⟨error | value, later⟩ <;> rfl

/-- A program that goes by the sparing rules does not notice conflicts. -/
theorem undisturbed_run {program : Dialogue Question Question.Answer α}
    (h : program.Ensures (World.sparing source) world post) :
    (∀ due, program.run (World.answerFrom source) (world.withConflicts due) =
      ((program.run (World.answerFrom source) world).1,
        (program.run (World.answerFrom source) world).2.withConflicts due)) ∧
      world.Spares (program.run (World.answerFrom source) world).2 ∧
      post (program.run (World.answerFrom source) world).1
        (program.run (World.answerFrom source) world).2 := by
  induction program generalizing world with
  | done value => exact ⟨fun _ => rfl, .refl world, h⟩
  | ask question next ih =>
      obtain ⟨permits, hnext⟩ := h
      obtain ⟨hsame, hspares, hpost⟩ := ih _ (hnext _ _ rfl)
      refine ⟨?_, (World.spares_answerFrom permits).trans hspares, hpost⟩
      intro due
      rw [Dialogue.run_ask, World.answerFrom_withConflicts permits]
      exact hsame due

theorem weathers_of_ensures
    (h : action.Ensures (World.sparing source) world post fun _ _ => True) :
    Weathers source action world post := by
  obtain ⟨same, spares, hpost⟩ := undisturbed_run h
  refine .inl ⟨⟨same, spares⟩, ?_⟩
  intro value hvalue
  have hends : (action.run.run (World.answerFrom source) world).1 = .ok value := hvalue
  rw [hends] at hpost
  exact hpost

theorem Weathers.mono {post' : α → World → Prop} (h : Weathers source action world post)
    (weaker : ∀ value later, post value later → post' value later) :
    Weathers source action world post' :=
  h.imp_left fun ⟨undisturbed, hpost⟩ =>
    ⟨undisturbed, fun value hvalue => weaker value _ (hpost value hvalue)⟩

theorem weathers_pure {value : α} (h : post value world) :
    Weathers source (pure value) world post :=
  weathers_of_ensures h

theorem weathers_throw {error : CallError} : Weathers source (throw error) world post :=
  weathers_of_ensures trivial

theorem Retried.bind (h : Retried source action world) :
    Retried source (action >>= rest) world where
  few due hdue := by
    rw [performFrom_bind, performFrom_bind, h.few due hdue]
  many due hdue := by
    obtain ⟨message, later, hgaveUp, spares⟩ := h.many due hdue
    refine ⟨message, later, ?_, spares⟩
    rw [performFrom_bind, hgaveUp]

theorem Undisturbed.bind (h : Undisturbed source action world)
    (next : ∀ value later, world.performFrom source action = (.ok value, later) →
      Undisturbed source (rest value) later) : Undisturbed source (action >>= rest) world := by
  have hspares := h.spares
  rcases hfirst : world.performFrom source action with ⟨error | value, later⟩
  · rw [hfirst] at hspares
    refine ⟨?_, ?_⟩
    · intro due
      rw [performFrom_bind, performFrom_bind, h.same due, hfirst]
    · rw [performFrom_bind, hfirst]
      exact hspares
  · rw [hfirst] at hspares
    have hnext := next value later hfirst
    refine ⟨?_, ?_⟩
    · intro due
      rw [performFrom_bind, performFrom_bind, h.same due, hfirst]
      exact hnext.same due
    · rw [performFrom_bind, hfirst]
      exact hspares.trans hnext.spares

theorem Undisturbed.retried {value : α} {later : World} (h : Undisturbed source action world)
    (ends : world.performFrom source action = (.ok value, later))
    (next : Retried source (rest value) later) : Retried source (action >>= rest) world := by
  have hspares := h.spares
  rw [ends] at hspares
  have hdue (due : Nat) : (world.withConflicts due).performFrom source (action >>= rest) =
      (later.withConflicts due).performFrom source (rest value) := by
    rw [performFrom_bind, h.same due, ends]
  refine ⟨?_, ?_⟩
  · intro due hfew
    rw [hdue, hdue]
    exact next.few due hfew
  · intro due hmany
    obtain ⟨message, last, hgaveUp, spares⟩ := next.many due hmany
    exact ⟨message, last, (hdue due).trans hgaveUp, hspares.trans spares⟩

theorem Weathers.bind {middle : α → World → Prop} {post : β → World → Prop}
    (first : Weathers source action world middle)
    (second : ∀ value later, middle value later → Weathers source (rest value) later post) :
    Weathers source (action >>= rest) world post := by
  rcases first with ⟨undisturbed, hmiddle⟩ | retried
  · rcases hfirst : world.performFrom source action with ⟨error | value, later⟩
    · refine .inl ⟨undisturbed.bind ?_, ?_⟩
      · intro value later hends
        cases hfirst.symm.trans hends
      · intro value hvalue
        rw [performFrom_bind, hfirst] at hvalue
        cases hvalue
    · rw [hfirst] at hmiddle
      rcases second value later (hmiddle value rfl) with ⟨undisturbed', hpost⟩ | retried
      · refine .inl ⟨undisturbed.bind ?_, ?_⟩
        · intro other last hends
          cases hfirst.symm.trans hends
          exact undisturbed'
        · rw [performFrom_bind, hfirst]
          exact hpost
      · exact .inr (undisturbed.retried hfirst retried)
  · exact .inr retried.bind

theorem Weathers.returns {middle : α → World → Prop} {made : α → β}
    (h : Weathers source action world middle) :
    Weathers source (action >>= fun value => pure (made value)) world fun _ _ => True :=
  Weathers.bind h fun _ _ _ => weathers_pure trivial

theorem weathers_ofAnswer {answer : Except Failure α} {post : β → World → Prop}
    (h : ∀ value, answer = .ok value → Weathers source (rest value) world post) :
    Weathers source (Action.ofAnswer answer >>= rest) world post := by
  cases answer with
  | error failure => exact weathers_throw
  | ok value => exact h value rfl

theorem sparing_ask {question : Question} {post : question.Answer → World → Prop}
    (permits : world.Permits question)
    (done : post (World.answerFrom source question world).1
      (World.answerFrom source question world).2) :
    Action.Ensures (World.sparing source) (Action.ask question) world post fun _ _ => True := by
  refine Action.ensures_ask.mpr ⟨permits, ?_⟩
  rintro answer later answered
  obtain ⟨rfl, rfl⟩ := Prod.mk.inj answered
  exact done

theorem sparing_outcome {question : Question} {outcome : question.Answer → Except Failure α}
    (permits : world.Permits question)
    (done : ∀ value, outcome (World.answerFrom source question world).1 = .ok value →
      post value (World.answerFrom source question world).2) :
    Action.Ensures (World.sparing source)
      (Action.ask question >>= fun answer => Action.ofAnswer (outcome answer)) world post
      fun _ _ => True := by
  refine Action.ensures_bind.mpr (sparing_ask permits (Action.ensures_ofAnswer.mpr ?_))
  split
  · exact done _ ‹_›
  · trivial

theorem weathers_of_touches {parts : List Part} (touches : action.Touches parts)
    (harmless : parts ⊆ harmlessParts) :
    Weathers source action world fun _ later =>
      later.store.sessions = world.store.sessions ∧
        (.turns ∉ parts → later.store.turns = world.store.turns) := by
  have hkept : Dialogue.Ensures (World.sparing source) action.run world fun _ later =>
      later.store.sessions = world.store.sessions ∧
        (.turns ∉ parts → later.store.turns = world.store.turns) := by
    refine Dialogue.AsksOnly.ensures touches ?_ ?_ ⟨rfl, fun _ => rfl⟩
    · exact fun _ _ hparts => .harmless fun part hpart => harmless (hparts part hpart)
    · rintro before question answer after hparts ⟨hsessions, hturns⟩ answered
      obtain ⟨rfl, rfl⟩ := Prod.mk.inj answered
      refine ⟨(World.sessions_answerFrom fun hpart => ?_).trans hsessions, ?_⟩
      · exact absurd (harmless (hparts _ hpart)) (by decide)
      · intro hapart
        refine (World.turns_answerFrom fun hpart => ?_).trans (hturns hapart)
        exact hapart (hparts _ hpart)
  refine weathers_of_ensures (Dialogue.Ensures.mono hkept ?_)
  rintro (error | value) later h
  · trivial
  · exact h

end Rules

section Updates

open Service

variable {α : Type} {source : Source} {world : World} {change : Session → Session × Option α}
  {base sent loaded : Session} {outcome : α} {due retries : Nat}

/-- The world after a session has been stored over the version that it is based on. -/
def World.putSession (world : World) (sent : Session) : World :=
  { world with store := { world.store with
      sessions := Store.putRow (Store.row sent.advance) world.store.sessions } }

/-- A session that is stored as it was last seen. -/
structure World.Accepts (world : World) (sent loaded : Session) : Prop where
  found : world.store.sessionById sent.id = some loaded
  version : loaded.version = sent.version

theorem World.Accepts.stores (h : world.Accepts sent loaded) :
    World.answerFrom source (.updateSession sent) (world.withConflicts 0) =
      (.ok sent.advance, (world.putSession sent).withConflicts 0) := by
  obtain ⟨row, hrow, hload⟩ := Option.map_eq_some_iff.mp h.found
  have hversion : row.version = sent.version := by
    rw [← h.version, ← hload]
    rfl
  have hstored := @Store.updateSession_of_current (world.withConflicts 0).store row sent rfl hrow
    hversion
  change (((world.withConflicts 0).store.updateSession sent).1, { world.withConflicts 0 with
    store := ((world.withConflicts 0).store.updateSession sent).2 }) = _
  rw [hstored]
  rfl

theorem refused (world : World) (sent : Session) (due : Nat) :
    World.answerFrom source (.updateSession sent) (world.withConflicts (due + 1)) =
      (.error { kind := .conflict, message := s!"Call {sent.sid} was modified concurrently" },
        world.withConflicts due) :=
  rfl

theorem performFrom_ask {β : Type} {question : Question} {rest : question.Answer → Action β}
    (world : World) :
    world.performFrom source (Action.ask question >>= rest) =
      (World.answerFrom source question world).2.performFrom source
        (rest (World.answerFrom source question world).1) :=
  rfl

theorem changeSession_anew (hchange : change base = (sent, some outcome))
    (accepts : world.Accepts sent loaded) (retries due : Nat) :
    (world.withConflicts (due + 1)).performFrom source (changeSession change (retries + 1) base) =
      (world.withConflicts due).performFrom source (changeSession change retries loaded) := by
  have hfound : (world.withConflicts due).store.sessionById sent.id = some loaded := accepts.found
  have hread : World.answerFrom source (.sessionById sent.id) (world.withConflicts due) =
      (.ok (some loaded), world.withConflicts due) := by
    rw [← hfound]
    rfl
  rw [changeSession_of_some hchange, performFrom_ask, refused]
  simp only [afterFailure]
  rw [if_pos (by rfl), performFrom_ask, hread]
  rfl

theorem changeSession_of_few (accepts : world.Accepts sent loaded)
    (hloaded : change loaded = (sent, some outcome)) {retries due : Nat} (hdue : due ≤ retries)
    (hchange : change base = (sent, some outcome)) :
    (world.withConflicts due).performFrom source (changeSession change retries base) =
      (.ok (sent.advance, some outcome), (world.putSession sent).withConflicts 0) := by
  -- after the first conflict the session that is changed is the stored one, and stays so
  induction due generalizing retries base with
  | zero =>
      rw [changeSession_of_some hchange, performFrom_ask, accepts.stores]
      rfl
  | succ due ih =>
      cases retries with
      | zero => exact absurd hdue (Nat.not_succ_le_zero due)
      | succ retries =>
          rw [changeSession_anew hchange accepts]
          exact ih (Nat.le_of_succ_le_succ hdue) hloaded

theorem changeSession_of_many (accepts : world.Accepts sent loaded)
    (hloaded : change loaded = (sent, some outcome)) {retries due : Nat} (hdue : retries < due)
    (hchange : change base = (sent, some outcome)) :
    ∃ message, (world.withConflicts due).performFrom source (changeSession change retries base) =
      (.error (.infrastructure message), world.withConflicts (due - retries - 1)) := by
  induction retries generalizing due base with
  | zero =>
      obtain ⟨due, rfl⟩ := Nat.exists_eq_succ_of_ne_zero (Nat.ne_zero_of_lt hdue)
      rw [changeSession_of_some hchange, performFrom_ask, refused]
      exact ⟨_, rfl⟩
  | succ retries ih =>
      obtain ⟨due, rfl⟩ := Nat.exists_eq_succ_of_ne_zero (Nat.ne_zero_of_lt hdue)
      rw [changeSession_anew hchange accepts, Nat.succ_sub_succ]
      exact ih (Nat.lt_of_succ_lt_succ hdue) hloaded

/-- A change that comes to the same on the session as it is stored is made anew after every
conflict, and given up after the third. -/
theorem updateSession_retried (accepts : world.Accepts sent loaded)
    (hchange : change base = (sent, some outcome))
    (hloaded : change loaded = (sent, some outcome)) :
    Retried source (updateSession base change) world where
  few due hdue := by
    have hfew : due ≤ maxAttempts - 1 := hdue
    rw [updateSession, changeSession_of_few accepts hloaded hfew hchange,
      changeSession_of_few accepts hloaded (Nat.zero_le _) hchange]
  many due hdue := by
    obtain ⟨message, hgaveUp⟩ := changeSession_of_many accepts hloaded hdue hchange
    exact ⟨message, _, hgaveUp, List.prefix_refl _, rfl⟩

theorem updateSession_weathers (hchange : RowChange change)
    (found : world.store.sessionById base.id = some loaded)
    (version : loaded.version = base.version)
    (anew : change loaded = change base) :
    Weathers source (updateSession base change) world fun changed later =>
      later = world ∧ changed = change base ∧ changed.2 = none := by
  have hrevises := hchange.revises base
  rcases hmade : change base with ⟨sent, _ | outcome⟩
  · rw [updateSession, changeSession_of_none hmade]
    exact weathers_pure ⟨rfl, rfl, rfl⟩
  · rw [hmade] at anew hrevises
    refine .inr (updateSession_retried ⟨?_, version.trans hrevises.version.symm⟩ hmade anew)
    rw [hrevises.id_eq]
    exact found

end Updates

end PhoneTree

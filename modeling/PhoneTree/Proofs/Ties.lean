import PhoneTree.Proofs.Conduct
import PhoneTree.Proofs.StoreSteps

namespace PhoneTree

/-- A program has been told of something before. -/
def Met {τ : Type} (told? : Exchange → Option τ) (past : List Exchange) (thing : τ) : Prop :=
  ∃ exchange ∈ past, told? exchange = some thing

/-- What never changes about a recording. -/
def Recording.facts (recording : Recording) : Recording :=
  { recording with attached := false }

/-- An inbound session that nobody answered and that is not marked as unanswered. -/
def Session.IsClean (session : Session) : Prop :=
  session.direction = .inbound → session.answeredBy = none ∧ session.unanswered = false

/-- A session as it is when it is stored first. -/
structure Session.IsNew (session : Session) : Prop where
  named : Text.isBlank session.sid = false
  unanswered : session.answeredBy = none
  unmarked : ∀ hook, session.isMarked hook = false

/-- A session that revises another and is clean if the other is. -/
structure Session.Amends (changed session : Session) : Prop where
  revises : changed.Revises session
  clean : session.IsClean → changed.IsClean

/-- A session that amends one that a program has learned of. -/
def Derived (past : List Exchange) (session : Session) : Prop :=
  ∃ learned, Learned past learned ∧ session.Amends learned

/-- A program has learned that a session is outbound. -/
def KnownOutbound (past : List Exchange) (id : SessionId) : Prop :=
  ∃ learned, Learned past learned ∧ learned.id = id ∧ learned.isOutbound = true

/-- A program has learned of the session of an identifier and is about it. -/
def Concerns (about : Session → Prop) (past : List Exchange) (id : SessionId) : Prop :=
  ∃ session, Learned past session ∧ about session ∧ session.id = id

/-- A program has met a turn, as far as what never changes about it goes. -/
def MetTurn (past : List Exchange) (turn : Turn) : Prop :=
  ∃ told, Met Exchange.turn? past told ∧ told.facts = turn.facts

/-- A program goes about a session: it has made it from one that it has learned of, and is about
it. -/
structure Walks (about : Session → Prop) (past : List Exchange) (session : Session) : Prop where
  derived : Derived past session
  concerns : Concerns about past session.id

/-- A program has met the turn of an identifier, which belongs to a session that it is about. -/
def ConcernsTurn (about : Session → Prop) (past : List Exchange) (id : TurnId) : Prop :=
  ∃ turn, Met Exchange.turn? past turn ∧ turn.id = id ∧ Concerns about past turn.session

/-- A piece of work is for a session or a recording that a program is about. -/
def Job.IsFor (about : Session → Prop) (past : List Exchange) : Job → Prop
  | .unansweredCall id | .finishedCall id => Concerns about past id
  | .attachRecording id =>
      ∃ recording, Met Exchange.recording? past recording ∧ recording.id = id ∧
        Concerns about past recording.session

/-- What a program that is about some sessions may ask for after what it has asked before. -/
def Tied (about : Session → Prop) (past : List Exchange) : Question → Prop
  | .saveSession session =>
      about session ∧ unsaved past = some session.id.uuid ∧ session.IsNew ∧
        ∃ caller, Met Exchange.caller? past caller ∧ caller.id = session.caller
  | .updateSession session =>
      Concerns about past session.id ∧
        (Derived past session ∨ Known past session ∧ KnownOutbound past session.id)
  | .saveTurn turn => turn.recording = none ∧ Concerns about past turn.session
  | .recordInput id _ | .markTimedOut id => ConcernsTurn about past id
  | .attachToTurn id recording =>
      ∃ turn, Met Exchange.turn? past turn ∧ turn.id = id ∧ Concerns about past turn.session ∧
        ∃ kept, Met Exchange.recording? past kept ∧ kept.id = recording ∧
          kept.session = turn.session
  | .saveRecording recording =>
      unsaved past = some recording.id.uuid ∧ Concerns about past recording.session
  | .updateRecording recording =>
      (∃ kept, Met Exchange.recording? past kept ∧ recording.facts = kept.facts) ∧
        ∀ session : Session, session.id = recording.session → about session
  | .schedule job _ => job.IsFor about past
  | _ => True

/-- The action asks for nothing that is not tied to what it has learned, and ends with a value only
as `post` says. -/
def Ties {α : Type} (about : Session → Prop) (action : Action α) (past : List Exchange)
    (post : α → List Exchange → Prop) : Prop :=
  Action.Ensures (histories (Tied about)) action past post fun _ _ => True

/-- The parts of the world to which anything may be written. -/
def untiedParts : List Part :=
  [.callers, .audio, .provider, .hooks]

section Rules

variable {α β τ : Type} {about : Session → Prop} {past past' : List Exchange} {session : Session}
  {post : α → List Exchange → Prop} {told? : Exchange → Option τ} {thing : τ}

theorem Met.first {exchange : Exchange} (h : told? exchange = some thing) :
    Met told? (exchange :: past) thing :=
  ⟨exchange, List.mem_cons_self, h⟩

theorem Met.later (h : Met told? past thing) (hlater : past <:+ past') :
    Met told? past' thing := by
  obtain ⟨exchange, hexchange, htold⟩ := h
  exact ⟨exchange, hlater.mem hexchange, htold⟩

theorem Concerns.later {id : SessionId} (h : Concerns about past id) (hlater : past <:+ past') :
    Concerns about past' id := by
  obtain ⟨session, hlearned, habout, hid⟩ := h
  exact ⟨session, hlearned.later hlater, habout, hid⟩

theorem Session.Amends.refl (session : Session) : session.Amends session :=
  ⟨.refl session, fun h => h⟩

theorem Session.Amends.trans {first second third : Session} (h : first.Amends second)
    (h' : second.Amends third) : first.Amends third :=
  ⟨h.revises.trans h'.revises, fun hclean => h.clean (h'.clean hclean)⟩

theorem Learned.derived (h : Learned past session) : Derived past session :=
  ⟨session, h, .refl session⟩

theorem Derived.later (h : Derived past session) (hlater : past <:+ past') :
    Derived past' session := by
  obtain ⟨learned, hlearned, hamends⟩ := h
  exact ⟨learned, hlearned.later hlater, hamends⟩

theorem Derived.amends {changed : Session} (h : Derived past session)
    (hamends : changed.Amends session) : Derived past changed := by
  obtain ⟨learned, hlearned, hsame⟩ := h
  exact ⟨learned, hlearned, hamends.trans hsame⟩

theorem MetTurn.later {turn : Turn} (h : MetTurn past turn) (hlater : past <:+ past') :
    MetTurn past' turn := by
  obtain ⟨told, htold, hfacts⟩ := h
  exact ⟨told, htold.later hlater, hfacts⟩

theorem MetTurn.of_facts {turn turn' : Turn} (h : MetTurn past turn)
    (hfacts : turn'.facts = turn.facts) : MetTurn past turn' := by
  obtain ⟨told, htold, hsame⟩ := h
  exact ⟨told, htold, hsame.trans hfacts.symm⟩

theorem MetTurn.concernsTurn {turn : Turn} (h : MetTurn past turn)
    (hconcerns : Concerns about past turn.session) : ConcernsTurn about past turn.id := by
  obtain ⟨told, htold, hfacts⟩ := h
  have hsession : told.session = turn.session := congrArg TurnFacts.session hfacts
  exact ⟨told, htold, congrArg TurnFacts.id hfacts, hsession ▸ hconcerns⟩

theorem Walks.later (h : Walks about past session) (hlater : past <:+ past') :
    Walks about past' session :=
  ⟨h.derived.later hlater, h.concerns.later hlater⟩

theorem Job.IsFor.later {job : Job} (h : job.IsFor about past) (hlater : past <:+ past') :
    job.IsFor about past' := by
  cases job with
  | unansweredCall id | finishedCall id => exact Concerns.later h hlater
  | attachRecording id =>
      obtain ⟨recording, hmet, hid, hconcerns⟩ := h
      exact ⟨recording, hmet.later hlater, hid, hconcerns.later hlater⟩

theorem ties_throw {error : CallError} : Ties about (throw error : Action α) past post :=
  trivial

theorem ties_bind {action : Action α} {rest : α → Action β} {post : β → List Exchange → Prop} :
    Ties about (action >>= rest) past post ↔
      Ties about action past fun value past' => Ties about (rest value) past' post :=
  Action.ensures_bind

theorem ties_bind_assoc {γ : Type} {first : Action γ} {action : γ → Action α} {rest : α → Action β}
    {post : β → List Exchange → Prop} :
    Ties about (first >>= fun value => action value >>= rest) past post ↔
      Ties about (first >>= action) past fun value past' => Ties about (rest value) past' post :=
  Action.ensures_bind_assoc

theorem ties_ask {question : Question} {post : question.Answer → List Exchange → Prop}
    (tied : Tied about past question)
    (done : ∀ answer, Truthful question answer → post answer (⟨question, answer⟩ :: past)) :
    Ties about (Action.ask question) past post :=
  histories_ask tied done

theorem ties_outcome {question : Question} {outcome : question.Answer → Except Failure α}
    (tied : Tied about past question)
    (done : ∀ answer value, Truthful question answer → outcome answer = .ok value →
      post value (⟨question, answer⟩ :: past)) :
    Ties about (Action.ask question >>= fun answer => Action.ofAnswer (outcome answer)) past
      post := by
  refine ties_bind.mpr (ties_ask tied ?_)
  intro answer htruthful
  refine Action.ensures_ofAnswer.mpr ?_
  cases houtcome : outcome answer with
  | ok value => exact done answer value htruthful houtcome
  | error failure => trivial

theorem Ties.mono {action : Action α} {post' : α → List Exchange → Prop}
    (h : Ties about action past post)
    (weaker : ∀ value past', post value past' → post' value past') :
    Ties about action past post' :=
  Action.Ensures.mono h weaker fun _ _ _ => trivial

theorem tied_of_part? {question : Question}
    (h : ∀ part, question.part? = some part → part ∈ untiedParts) : Tied about past question := by
  cases question with
  | saveSession session | updateSession session => exact absurd (h .sessions rfl) (by decide)
  | saveTurn turn | recordInput turn input | markTimedOut turn | attachToTurn turn recording =>
      exact absurd (h .turns rfl) (by decide)
  | saveRecording recording | updateRecording recording =>
      exact absurd (h .recordings rfl) (by decide)
  | schedule job delay => exact absurd (h .jobs rfl) (by decide)
  | _ => trivial

theorem Action.Touches.ties {action : Action α} (h : action.Touches untiedParts)
    (done : ∀ value past', past <:+ past' → post value past') : Ties about action past post := by
  have hlater : Dialogue.Ensures (histories (Tied about)) action.run past
      fun _ past' => past <:+ past' := by
    refine Dialogue.AsksOnly.ensures h ?_ ?_ (List.suffix_refl past)
    · exact fun _ _ hparts => tied_of_part? hparts
    · rintro before question answer _ _ hbefore ⟨_, rfl⟩
      exact hbefore.trans (List.suffix_cons _ before)
  refine Dialogue.Ensures.mono hlater ?_
  rintro (error | value) past' hpast
  · trivial
  · exact done value past' hpast

end Rules

section Changes

variable {session : Session}

theorem Session.amends_of_revises {changed : Session} (h : changed.Revises session)
    (hanswered : changed.answeredBy = session.answeredBy)
    (hunanswered : changed.unanswered = session.unanswered) : changed.Amends session := by
  refine ⟨h, ?_⟩
  intro hclean hinbound
  have hdirection : changed.direction = session.direction := congrArg CallFacts.direction h.facts
  rw [hanswered, hunanswered]
  exact hclean (hdirection ▸ hinbound)

theorem Session.afterUpdate_amends (session : Session) (update : StatusUpdate) :
    (session.afterUpdate update).Amends session := by
  refine ⟨session.afterUpdate_revises update, ?_⟩
  rw [afterUpdate_eq_or]
  intro hclean hinbound
  have houtbound : session.isOutbound = false := by
    rw [isOutbound, show session.direction = .inbound from hinbound]
    rfl
  simpa [houtbound] using hclean hinbound

theorem recordTurns_amends (turns : List Turn) (session : Session) :
    (Service.recordTurns turns session).1.Amends session := by
  refine Session.amends_of_revises ((rowChange_recordTurns turns).revises session) ?_ ?_ <;>
  · obtain ⟨recorded, length, h⟩ := Session.foldl_recordTurn turns session
    rw [Service.recordTurns, h]

theorem Session.markFinished_amends (session : Session) : session.markFinished.Amends session :=
  amends_of_revises (rowChange_markFinished.revises session) rfl rfl

theorem Session.IsNew.isClean (h : session.IsNew) : session.IsClean :=
  fun _ => ⟨h.unanswered, h.unmarked .unanswered⟩

theorem Session.isClean_of_isOutbound (h : session.isOutbound = true) : session.IsClean := by
  intro hinbound
  rw [isOutbound, hinbound] at h
  cases h

end Changes

end PhoneTree

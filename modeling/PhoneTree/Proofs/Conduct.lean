import PhoneTree.Proofs.Command
import PhoneTree.Proofs.Footprint
import PhoneTree.Proofs.Pool
import PhoneTree.Proofs.Revision

namespace PhoneTree

/-- What a program knows of a session from what it has asked before. -/
def Learned (past : List Exchange) (session : Session) : Prop :=
  ∃ exchange ∈ past, exchange.told? = some session

/-- A session that revises one that a program has learned of. -/
def Known (past : List Exchange) (session : Session) : Prop :=
  ∃ learned, Learned past learned ∧ session.Revises learned

/-- The identifier that a program has just been given for a session that it may store next. -/
def unsaved : List Exchange → Option Uuid
  | ⟨.freshId, id⟩ :: _ => some id
  | ⟨.currentTime, _⟩ :: ⟨.freshId, id⟩ :: _ => some id
  | _ => none

/-- Whether the last thing that a program did was to set a mark on a session that it had read
without it. -/
def marks (hook : Hook) (id : SessionId) : List Exchange → Bool
  | ⟨.updateSession sent, .ok _⟩ :: ⟨.sessionById _, .ok (some base)⟩ :: _ =>
      sent.id == id && base.id == id && base.version == sent.version && !base.isMarked hook
        && sent.isMarked hook
  | _ => false

/-- What a command may ask for after what it has asked before. -/
def Proper (past : List Exchange) : Question → Prop
  | .saveSession session =>
      unsaved past = some session.id.uuid ∧ ∀ hook, session.isMarked hook = false
  | .updateSession session => Known past session
  | .runHook hook _ session =>
      Learned past session ∧ marks hook session.id past = true ∧ session.isMarked hook = true ∧
        (hook = .unanswered →
          ∃ learned, Learned past learned ∧ learned.id = session.id ∧ learned.isOutbound = true)
  | _ => True

/-- The rules by which every command goes. -/
def conduct : Rules Question Question.Answer (List Exchange) :=
  histories Proper

/-- The action goes by these rules after what has been asked before, and ends with a value only as
`post` says. -/
def Conducts {α : Type} (action : Action α) (past : List Exchange)
    (post : α → List Exchange → Prop) : Prop :=
  Action.Ensures conduct action past post fun _ _ => True

/-- Whether a question touches no session and is no lifecycle callback. -/
def Question.isHarmless : Question → Bool
  | .saveSession _ | .updateSession _ | .runHook _ _ _ => false
  | _ => true

/-- The parts of the world that harmless questions write to. -/
def harmlessParts : List Part :=
  [.turns, .recordings, .callers, .jobs, .audio, .provider]

/-- The action goes by the rules whatever has been asked before. -/
def Harmless {α : Type} (action : Action α) : Prop :=
  ∀ past, Conducts action past fun _ past' => past <:+ past'

section Rules

variable {α β : Type} {past past' : List Exchange} {session : Session}
  {post : α → List Exchange → Prop}

theorem Learned.first {exchange : Exchange} (h : exchange.told? = some session) :
    Learned (exchange :: past) session :=
  ⟨exchange, List.mem_cons_self, h⟩

theorem Learned.later (h : Learned past session) (hlater : past <:+ past') :
    Learned past' session := by
  obtain ⟨exchange, hexchange, htold⟩ := h
  exact ⟨exchange, hlater.mem hexchange, htold⟩

theorem Learned.known (h : Learned past session) : Known past session :=
  ⟨session, h, .refl session⟩

theorem Known.later (h : Known past session) (hlater : past <:+ past') : Known past' session := by
  obtain ⟨learned, hlearned, hrevises⟩ := h
  exact ⟨learned, hlearned.later hlater, hrevises⟩

theorem Known.revises {changed : Session} (h : Known past session)
    (hrevises : changed.Revises session) : Known past changed := by
  obtain ⟨learned, hlearned, hsame⟩ := h
  exact ⟨learned, hlearned, hrevises.trans hsame⟩

theorem proper_of_isHarmless {question : Question} (h : question.isHarmless = true) :
    Proper past question := by
  cases question with
  | saveSession session | updateSession session | runHook hook callback session => cases h
  | _ => trivial

theorem conducts_bind {action : Action α} {rest : α → Action β}
    {post : β → List Exchange → Prop} :
    Conducts (action >>= rest) past post ↔
      Conducts action past fun value past' => Conducts (rest value) past' post :=
  Action.ensures_bind

theorem conducts_ask {question : Question} {post : question.Answer → List Exchange → Prop}
    (proper : Proper past question)
    (done : ∀ answer, Truthful question answer → post answer (⟨question, answer⟩ :: past)) :
    Conducts (Action.ask question) past post :=
  histories_ask proper done

theorem Conducts.mono {action : Action α} {post' : α → List Exchange → Prop}
    (h : Conducts action past post)
    (weaker : ∀ value past', post value past' → post' value past') :
    Conducts action past post' :=
  Action.Ensures.mono h weaker fun _ _ _ => trivial

theorem Harmless.conducts {action : Action α} (h : Harmless action)
    (done : ∀ value past', past <:+ past' → post value past') : Conducts action past post :=
  (h past).mono done

theorem isHarmless_of_part? {question : Question}
    (h : ∀ part, question.part? = some part → part ∈ harmlessParts) :
    question.isHarmless = true := by
  cases question with
  | saveSession session | updateSession session => exact absurd (h .sessions rfl) (by decide)
  | runHook hook callback session => exact absurd (h .hooks rfl) (by decide)
  | _ => rfl

theorem Action.Touches.harmless {action : Action α} (h : action.Touches harmlessParts) :
    Harmless action := by
  intro past
  have hlater : Dialogue.Ensures conduct action.run past fun _ past' => past <:+ past' := by
    refine Dialogue.AsksOnly.ensures h ?_ ?_ (List.suffix_refl past)
    · intro before question hparts
      exact proper_of_isHarmless (isHarmless_of_part? hparts)
    · rintro before question answer _ _ hbefore ⟨_, rfl⟩
      exact hbefore.trans (List.suffix_cons _ before)
  refine Dialogue.Ensures.mono hlater ?_
  rintro (error | value) past' hpast
  · trivial
  · exact hpast

end Rules

end PhoneTree

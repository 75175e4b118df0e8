import PhoneTree.Proofs.CallLength

namespace PhoneTree

namespace Session

variable {session : Session} {turn : Turn} {turns turns' more : List Turn} {about : Option TurnId}
  {written next : Option Turn}

/-- Turns with one of them, if any, in the place of the first with its identifier. -/
def overwritten (written : Option Turn) (turns : List Turn) : List Turn :=
  written.elim turns fun turn => replaceFirst turn turns

/-- Turns that differ in no more than the first one of an identifier, which they have. -/
structure SameBut (about : Option TurnId) (turns turns' : List Turn) : Prop where
  known : ∀ id, about = some id → id ∈ turns.map (·.id)
  same : ∀ written : Option Turn, written.map (·.id) = about →
    overwritten written turns' = overwritten written turns

section Replacing

theorem map_replaceFirst (turn : Turn) (turns : List Turn) :
    (replaceFirst turn turns).map (·.id) = turns.map (·.id) := by
  induction turns with
  | nil => rfl
  | cons other rest ih =>
      rw [replaceFirst]
      split
      · rename_i hid
        rw [List.map_cons, List.map_cons, hid]
      · rw [List.map_cons, List.map_cons, ih]

theorem replaceFirst_append_of_mem (h : turn.id ∈ turns.map (·.id)) :
    replaceFirst turn (turns ++ more) = replaceFirst turn turns ++ more := by
  induction turns with
  | nil => cases h
  | cons other rest ih =>
      rw [List.cons_append, replaceFirst, replaceFirst]
      split
      · rfl
      · rename_i hother
        rw [ih ((List.mem_cons.mp h).resolve_left fun hid => hother hid.symm)]
        rfl

theorem replaceFirst_append_of_not_mem (h : turn.id ∉ turns.map (·.id)) :
    replaceFirst turn (turns ++ more) = turns ++ replaceFirst turn more := by
  induction turns with
  | nil => rfl
  | cons other rest ih =>
      obtain ⟨hother, hrest⟩ := not_or.mp fun hmem => h (List.mem_cons.mpr hmem)
      rw [List.cons_append, replaceFirst, if_neg fun hid => hother hid.symm, ih hrest]
      rfl

theorem map_overwritten (written : Option Turn) (turns : List Turn) :
    (overwritten written turns).map (·.id) = turns.map (·.id) := by
  cases written with
  | none => rfl
  | some turn => exact map_replaceFirst turn turns

theorem replaceFirst_filter_modifyTurn {change : Turn → Turn} {owner : SessionId}
    (hchange : ∀ turn, (change turn).facts = turn.facts) (turns : List Turn) :
    replaceFirst turn
        ((Store.modifyTurn turn.id change turns).filter fun turn => turn.session == owner) =
      replaceFirst turn (turns.filter fun turn => turn.session == owner) := by
  induction turns with
  | nil => rfl
  | cons other rest ih =>
      rw [Store.modifyTurn]
      split
      · rename_i hid
        have hsession : (change other).session = other.session :=
          congrArg TurnFacts.session (hchange other)
        have hsame : (change other).id = turn.id :=
          (congrArg TurnFacts.id (hchange other)).trans hid
        rw [List.filter_cons, List.filter_cons, hsession]
        split
        · rw [replaceFirst, replaceFirst, if_pos hsame, if_pos hid]
        · rfl
      · rename_i hother
        rw [List.filter_cons, List.filter_cons]
        split
        · rw [replaceFirst, replaceFirst, if_neg hother, if_neg hother, ih]
        · exact ih

end Replacing

section SameBut

theorem SameBut.refl (h : ∀ id, about = some id → id ∈ turns.map (·.id)) :
    SameBut about turns turns :=
  ⟨h, fun _ _ => rfl⟩

theorem sameBut_none (turns : List Turn) : SameBut none turns turns := by
  refine .refl ?_
  intro id hid
  cases hid

theorem SameBut.eq (h : SameBut none turns turns') : turns' = turns :=
  h.same none rfl

theorem SameBut.ids (h : SameBut about turns turns') : turns'.map (·.id) = turns.map (·.id) := by
  have hwritten : ∃ written : Option Turn, written.map (·.id) = about := by
    cases about with
    | none => exact ⟨none, rfl⟩
    | some id => exact ⟨some { (default : Turn) with id }, rfl⟩
  obtain ⟨written, hwritten⟩ := hwritten
  rw [← map_overwritten written, h.same written hwritten, map_overwritten]

theorem SameBut.modifyTurn {id : TurnId} {change : Turn → Turn} {owner : SessionId}
    {all : List Turn} (hchange : ∀ turn, (change turn).facts = turn.facts)
    (h : SameBut (some id) turns (all.filter fun turn => turn.session == owner)) :
    SameBut (some id) turns
      ((Store.modifyTurn id change all).filter fun turn => turn.session == owner) := by
  refine ⟨h.known, ?_⟩
  intro written hwritten
  refine Eq.trans ?_ (h.same written hwritten)
  obtain ⟨turn, rfl, rfl⟩ := Option.map_eq_some_iff.mp hwritten
  exact replaceFirst_filter_modifyTurn hchange all

end SameBut

section Recording

theorem hasTurn_iff {id : TurnId} : session.hasTurn id = true ↔ id ∈ session.turns.map (·.id) := by
  simp [hasTurn]

theorem recordTurn_of_mem (h : turn.id ∈ session.turns.map (·.id)) :
    (session.recordTurn turn).turns = replaceFirst turn session.turns := by
  rw [recordTurn, if_pos (hasTurn_iff.mpr h)]
  rfl

theorem recordTurn_of_not_mem (h : turn.id ∉ session.turns.map (·.id)) :
    (session.recordTurn turn).turns = session.turns ++ [turn] := by
  rw [recordTurn, if_neg fun hhas => h (hasTurn_iff.mp hhas)]
  rfl

theorem foldl_recordTurn_written
    (known : ∀ turn, written = some turn → turn.id ∈ session.turns.map (·.id)) :
    (written.toList.foldl recordTurn session).turns = overwritten written session.turns := by
  cases written with
  | none => rfl
  | some turn => exact recordTurn_of_mem (known turn rfl)

theorem foldl_recordTurn_new
    (known : ∀ turn, written = some turn → turn.id ∈ session.turns.map (·.id))
    (new : ∀ turn, next = some turn → turn.id ∉ session.turns.map (·.id)) :
    ((written.toList ++ next.toList).foldl recordTurn session).turns =
      overwritten written session.turns ++ next.toList := by
  rw [List.foldl_append, ← foldl_recordTurn_written known]
  cases next with
  | none => exact (List.append_nil _).symm
  | some turn =>
      refine recordTurn_of_not_mem ?_
      rw [foldl_recordTurn_written known, map_overwritten]
      exact new turn rfl

theorem overwritten_append
    (known : ∀ turn, written = some turn → turn.id ∈ turns.map (·.id)) :
    overwritten written (turns ++ more) = overwritten written turns ++ more := by
  cases written with
  | none => rfl
  | some turn => exact replaceFirst_append_of_mem (known turn rfl)

theorem foldl_recordTurn_again (hturns : session.turns = turns ++ next.toList)
    (known : ∀ turn, written = some turn → turn.id ∈ turns.map (·.id))
    (new : ∀ turn, next = some turn → turn.id ∉ turns.map (·.id)) :
    ((written.toList ++ next.toList).foldl recordTurn session).turns =
      overwritten written turns ++ next.toList := by
  have hwritten : (written.toList.foldl recordTurn session).turns =
      overwritten written turns ++ next.toList := by
    rw [foldl_recordTurn_written, hturns, overwritten_append known]
    intro turn hturn
    rw [hturns, List.map_append]
    exact List.mem_append_left _ (known turn hturn)
  rw [List.foldl_append]
  cases next with
  | none => exact hwritten
  | some turn =>
      have hnew : turn.id ∉ (overwritten written turns).map (·.id) := by
        rw [map_overwritten]
        exact new turn rfl
      change ((written.toList.foldl recordTurn session).recordTurn turn).turns = _
      rw [recordTurn_of_mem, hwritten, Option.toList_some, replaceFirst_append_of_not_mem hnew,
        replaceFirst, if_pos rfl]
      rw [hwritten]
      exact List.mem_map_of_mem (List.mem_append_right _ List.mem_cons_self)

theorem foldl_recordTurn_eq {taken : List Turn} (nonempty : taken ≠ []) (session : Session) :
    taken.foldl recordTurn session =
      { session with turns := (taken.foldl recordTurn session).turns }.recalculate := by
  have hlength : (taken.foldl recordTurn session).lengthSeconds =
      lengthOf (taken.foldl recordTurn session).turns := recordTurns_length nonempty
  obtain ⟨recorded, length, hrecorded⟩ := foldl_recordTurn taken session
  rw [hrecorded] at hlength ⊢
  obtain rfl : length = lengthOf recorded := hlength
  rfl

theorem recordTurns_congr {taken : List Turn} (nonempty : taken ≠ [])
    (hturns : (taken.foldl recordTurn { session with turns }).turns =
      (taken.foldl recordTurn session).turns) :
    Service.recordTurns taken { session with turns } = Service.recordTurns taken session := by
  have hsame : taken.foldl recordTurn { session with turns } = taken.foldl recordTurn session := by
    rw [foldl_recordTurn_eq nonempty session, foldl_recordTurn_eq nonempty, hturns]
  rw [Service.recordTurns, Service.recordTurns, hsame]

/-- Turns that are taken into a session which has some of them already come to the same. -/
theorem recordTurns_anew (same : SameBut (written.map (·.id)) session.turns turns)
    (new : ∀ turn, next = some turn → turn.id ∉ session.turns.map (·.id)) :
    Service.recordTurns (written.toList ++ next.toList)
        { session with turns := turns ++ next.toList } =
      Service.recordTurns (written.toList ++ next.toList) session := by
  have hknown (turn : Turn) (hturn : written = some turn) :
      turn.id ∈ session.turns.map (·.id) := by
    refine same.known turn.id ?_
    rw [hturn]
    rfl
  by_cases hnone : written.toList ++ next.toList = []
  · obtain ⟨hwritten, hnext⟩ := List.append_eq_nil_iff.mp hnone
    obtain rfl := Option.toList_eq_nil_iff.mp hwritten
    obtain rfl := Option.toList_eq_nil_iff.mp hnext
    obtain rfl := same.eq
    simp only [Option.toList_none, List.append_nil]
  · refine recordTurns_congr hnone ?_
    rw [foldl_recordTurn_new hknown new, ← same.same written rfl]
    refine foldl_recordTurn_again rfl ?_ ?_
    · rwa [same.ids]
    · rwa [same.ids]

end Recording

end Session

end PhoneTree

import PhoneTree.Proofs.Conduct
/-!
Copies of sessions that programs side by side have, and the rows that they are copies of.

Every identifier is given out once, so it is either held by one program that may store a session
under it, or is that of one stored session. The row of a session only ever moves on from the copies
that programs have of it.
-/
namespace PhoneTree

/-- How many of the programs have asked what a test holds of. -/
def Pool.count {ρ α : Type} (test : List Exchange → Bool) (pool : Pool ρ α) : Nat :=
  pool.threads.countP fun thread => test thread.past

/-- Whether a program may store something new under an identifier. -/
def holds (id : Uuid) (past : List Exchange) : Bool :=
  unsaved past == some id

/-- Whether a program may store a session under an identifier. -/
def mayStore (id : SessionId) (past : List Exchange) : Bool :=
  unsaved past == some id.uuid

/-- How many stored sessions have an identifier. -/
def OpenWorld.stored (state : OpenWorld) (id : SessionId) : Nat :=
  (state.store.sessions.map (·.id)).count id

/-- An identifier is held by a program or owned by what is stored at most once, and neither before
it was given out. -/
def Pool.OwnsOnce {ρ α : Type} (pool : Pool ρ α) (owned : Uuid → Nat) : Prop :=
  ∀ id : Uuid, pool.count (holds id) + owned id ≤ if id ∈ pool.state.drawn then 1 else 0

/-- An identifier is held or stored at most once, and neither before it was given out. -/
def Pool.Distinct {ρ α : Type} (pool : Pool ρ α) : Prop :=
  ∀ id : SessionId, pool.count (mayStore id) + pool.state.stored id ≤
    if id.uuid ∈ pool.state.drawn then 1 else 0

/-- A row that has moved on from a copy: the same facts, no mark less, and no mark more if it is no
newer. -/
structure Session.Succeeds (row copy : Session) : Prop where
  facts : row.facts = copy.facts
  version : copy.version ≤ row.version
  marked : ∀ hook, copy.isMarked hook = true → row.isMarked hook = true
  same : row.version = copy.version → ∀ hook, row.isMarked hook = copy.isMarked hook

/-- A session is stored, and its row has moved on from the copy. -/
def OpenWorld.Remembers (state : OpenWorld) (copy : Session) : Prop :=
  ∃ row, state.store.sessionRow? copy.id = some row ∧ row.Succeeds copy

/-- Every row stays or moves on. -/
def OpenWorld.Advances (state state' : OpenWorld) : Prop :=
  ∀ id row, state.store.sessionRow? id = some row →
    ∃ row', state'.store.sessionRow? id = some row' ∧ row'.Succeeds row

/-- Every copy that a program has is one of a stored session. -/
def Pool.UpToDate {ρ α : Type} (pool : Pool ρ α) : Prop :=
  ∀ thread ∈ pool.threads, ∀ copy, Learned thread.past copy → pool.state.Remembers copy

theorem unsaved_cons {question : Question} {answer : question.Answer} {past : List Exchange}
    {id : Uuid} (h : unsaved (⟨question, answer⟩ :: past) = some id) :
    Exchange.drawn? ⟨question, answer⟩ = some id ∨
      Exchange.drawn? ⟨question, answer⟩ = none ∧ unsaved past = some id := by
  cases question with
  | freshId => exact .inl h
  | currentTime =>
      refine .inr ⟨rfl, ?_⟩
      cases past with
      | nil => cases h
      | cons exchange past =>
          obtain ⟨question, answer⟩ := exchange
          cases question with
          | freshId => exact h
          | _ => cases h
  | _ => cases h

namespace Session

theorem Succeeds.refl (row : Session) : row.Succeeds row :=
  ⟨rfl, Int.le_refl _, fun _ h => h, fun _ _ => rfl⟩

theorem Succeeds.trans {first second third : Session} (h : second.Succeeds first)
    (h' : third.Succeeds second) : third.Succeeds first where
  facts := h'.facts.trans h.facts
  version := Int.le_trans h.version h'.version
  marked := fun hook hmarked => h'.marked hook (h.marked hook hmarked)
  same := by
    intro hsame hook
    have hversion := h.version
    have hversion' := h'.version
    rw [h'.same (by omega), h.same (by omega)]

@[simp] theorem row_isMarked (session : Session) (hook : Hook) :
    (Store.row session).isMarked hook = session.isMarked hook := by
  cases hook <;> rfl

@[simp] theorem load_isMarked (store : Store) (row : Session) (hook : Hook) :
    (store.load row).isMarked hook = row.isMarked hook := by
  cases hook <;> rfl

@[simp] theorem advance_isMarked (session : Session) (hook : Hook) :
    session.advance.isMarked hook = session.isMarked hook := by
  cases hook <;> rfl

theorem row_succeeds (session : Session) : (Store.row session).Succeeds session :=
  ⟨rfl, Int.le_refl _, fun hook h => by rwa [row_isMarked], fun _ hook => row_isMarked session hook⟩

theorem succeeds_load (store : Store) (row : Session) : row.Succeeds (store.load row) :=
  ⟨rfl, Int.le_refl _, fun hook h => by rwa [load_isMarked] at h,
    fun _ hook => (load_isMarked store row hook).symm⟩

end Session

namespace Pool

variable {ρ α : Type} {pool : Pool ρ α} {state : OpenWorld} {index : Nat}
  {thread thread' : Thread ρ α} {test : List Exchange → Bool}

theorem count_resume (test : List Exchange → Bool) (thread' : Thread ρ α) (state : OpenWorld)
    (waiting : pool.threads[index]? = some thread) :
    (pool.resume index thread' state).count test + (test thread.past).toNat =
      pool.count test + (test thread'.past).toNat := by
  obtain ⟨hindex, hthread⟩ := List.getElem?_eq_some_iff.mp waiting
  have hpositive : test thread.past = true →
      0 < pool.threads.countP fun thread => test thread.past := by
    intro htest
    exact List.countP_pos_iff.mpr ⟨thread, List.mem_of_getElem? waiting, htest⟩
  simp only [count, resume, List.countP_set hindex, hthread]
  cases htest : test thread.past
  · cases test thread'.past <;> simp
  · have := hpositive htest
    cases test thread'.past <;> simp <;> omega

theorem count_begin {test : List Exchange → Bool} (hnothing : test [] = false) (origin : ρ)
    (rest : Dialogue Question Question.Answer (Except CallError α)) :
    ({ pool with threads := pool.threads ++ [{ origin, rest }] } : Pool ρ α).count test =
      pool.count test := by
  simp [count, List.countP_append, hnothing]

end Pool

section Distinct

variable {state state' : OpenWorld} {session : Session}

theorem id_ne_of_stored (h : state.stored session.id = 0) :
    ∀ row ∈ state.store.sessions, row.id ≠ session.id := by
  intro row hrow hid
  exact List.count_eq_zero.mp h (List.mem_map.mpr ⟨row, hrow, hid⟩)

theorem stored_save {id : SessionId} (hnew : state.stored session.id = 0)
    (h : state'.store.sessions = Store.putRow (Store.row session) state.store.sessions) :
    state'.stored id = state.stored id + if session.id = id then 1 else 0 := by
  rw [OpenWorld.stored, h, @Store.putRow_eq_append (Store.row session) _ (id_ne_of_stored hnew),
    List.map_append, List.count_append]
  simp [OpenWorld.stored, Store.row, List.count_singleton]

theorem stored_update {id : SessionId} {row : Session}
    (hfound : state.store.sessionRow? session.id = some row)
    (h : state'.store.sessions = Store.putRow (Store.row session) state.store.sessions) :
    state'.stored id = state.stored id := by
  have hid := Store.id_of_sessionRow? hfound
  rw [OpenWorld.stored, h, @Store.map_putRow _ (Store.row session) row _ (·.id) hfound hid.symm]
  rfl

end Distinct

namespace Pool

variable {ρ α : Type} {pool : Pool ρ α} {state : OpenWorld} {index : Nat} {origin : ρ}
  {past : List Exchange} {question : Question} {answer : question.Answer}
  {rest rest' : Dialogue Question Question.Answer (Except CallError α)}

theorem OwnsOnce.unowned {owned : Uuid → Nat} {thread : Thread ρ α} {id : Uuid}
    (h : pool.OwnsOnce owned) (waiting : pool.threads[index]? = some thread)
    (hheld : holds id thread.past = true) : owned id = 0 := by
  have hbefore := h id
  have hpositive : 0 < pool.count (holds id) :=
    List.countP_pos_iff.mpr ⟨thread, List.mem_of_getElem? waiting, hheld⟩
  split at hbefore <;> omega

/-- Whoever stores something new under an identifier gives the identifier away for it. -/
theorem OwnsOnce.ask {owned owned' : Uuid → Nat} (h : pool.OwnsOnce owned)
    (waiting : pool.threads[index]? = some ⟨origin, past, rest⟩)
    (answered : pool.state.Answers question answer state)
    (howned : ∀ id, owned' id ≤ owned id +
      if unsaved past = some id ∧ unsaved (⟨question, answer⟩ :: past) = none then 1 else 0) :
    (pool.resume index ⟨origin, ⟨question, answer⟩ :: past, rest'⟩ state).OwnsOnce owned' := by
  obtain ⟨hdrawn, hfresh⟩ := OpenWorld.answers_drawn answered
  intro id
  have hbefore := h id
  have hstored := howned id
  have hcount := count_resume (holds id) ⟨origin, ⟨question, answer⟩ :: past, rest'⟩ state waiting
  simp only at hcount
  change _ + owned' id ≤ if id ∈ state.drawn then 1 else 0
  have hgiven : (if id ∈ pool.state.drawn then 1 else 0) ≤ if id ∈ state.drawn then 1 else 0 := by
    rw [hdrawn]
    split
    · rename_i hmem
      exact Nat.le_of_eq (if_pos (List.mem_append_right _ hmem)).symm
    · exact Nat.zero_le _
  cases hafter : unsaved (⟨question, answer⟩ :: past) with
  | none =>
      -- what the program held, if anything, may now be owned by something stored
      have hnothing : holds id (⟨question, answer⟩ :: past) = false := by
        rw [holds, hafter]
        rfl
      rw [hnothing, Bool.toNat_false] at hcount
      by_cases hheld : unsaved past = some id
      · have hbit : holds id past = true := beq_iff_eq.mpr hheld
        rw [if_pos ⟨hheld, hafter⟩] at hstored
        rw [hbit, Bool.toNat_true] at hcount
        omega
      · rw [if_neg fun hboth => hheld hboth.1] at hstored
        omega
  | some fresh =>
      rw [if_neg fun hboth => Option.some_ne_none fresh (hafter.symm.trans hboth.2)] at hstored
      rcases unsaved_cons hafter with hnew | ⟨_, hold⟩
      · by_cases hid : id = fresh
        · subst hid
          rw [if_neg (hfresh id hnew)] at hbefore
          rw [hdrawn, hnew, if_pos (by simp)]
          have hone := Bool.toNat_le (holds id (⟨question, answer⟩ :: past))
          omega
        · have hother : holds id (⟨question, answer⟩ :: past) = false := by
            simpa [holds, hafter] using Ne.symm hid
          rw [hother, Bool.toNat_false] at hcount
          omega
      · have hsame : holds id (⟨question, answer⟩ :: past) = holds id past := by
          rw [holds, holds, hafter, hold]
        rw [hsame] at hcount
        omega

theorem Distinct.ownsOnce (h : pool.Distinct) :
    pool.OwnsOnce fun id => pool.state.stored ⟨id⟩ :=
  fun id => h ⟨id⟩

theorem Distinct.unstored {thread : Thread ρ α} {id : SessionId} (h : pool.Distinct)
    (waiting : pool.threads[index]? = some thread) (hheld : mayStore id thread.past = true) :
    pool.state.stored id = 0 :=
  h.ownsOnce.unowned waiting hheld

theorem Distinct.ask (h : pool.Distinct) (proper : Proper past question)
    (waiting : pool.threads[index]? = some ⟨origin, past, rest⟩)
    (answered : pool.state.Answers question answer state) :
    (pool.resume index ⟨origin, ⟨question, answer⟩ :: past, rest'⟩ state).Distinct := by
  suffices hstored : ∀ id, state.stored ⟨id⟩ ≤ pool.state.stored ⟨id⟩ +
      if unsaved past = some id ∧ unsaved (⟨question, answer⟩ :: past) = none then 1 else 0 from
    fun id => h.ownsOnce.ask waiting answered hstored id.uuid
  have hsessions := OpenWorld.answers_sessions answered
  intro id
  have hsame (hrows : state.store.sessions = pool.state.store.sessions) {more : Nat} :
      state.stored ⟨id⟩ ≤ pool.state.stored ⟨id⟩ + more := by
    rw [OpenWorld.stored, hrows]
    exact Nat.le_add_right _ _
  cases question with
  | saveSession session =>
      cases answer with
      | error failure => exact hsame hsessions
      | ok value =>
          have hheld : mayStore session.id past = true := beq_iff_eq.mpr proper.1
          rw [stored_save (h.unstored waiting hheld) hsessions, proper.1]
          refine Nat.add_le_add_left (Nat.le_of_eq ?_) _
          by_cases hid : session.id = ⟨id⟩
          · rw [if_pos hid, if_pos ⟨by rw [hid], rfl⟩]
          · rw [if_neg hid, if_neg fun hboth => hid (congrArg SessionId.mk (Option.some.inj hboth.1))]
  | updateSession session =>
      cases answer with
      | error failure => exact hsame hsessions
      | ok updated =>
          have hupdated := OpenWorld.answers_updateSession answered
          cases hupdated with
          | stored calm found current =>
              rw [@stored_update _ _ session.advance ⟨id⟩ _ found rfl]
              exact Nat.le_add_right _ _
  | _ => exact hsame hsessions

end Pool

namespace OpenWorld

variable {state state' : OpenWorld} {past : List Exchange} {question : Question}
  {answer : question.Answer} {copy session : Session}

theorem Advances.of_same (h : state'.store.sessions = state.store.sessions) :
    state.Advances state' := by
  intro id row hrow
  refine ⟨row, ?_, .refl row⟩
  rwa [Store.sessionRow?_of_sessions h]

theorem Advances.of_putRow
    (h : state'.store.sessions = Store.putRow (Store.row session) state.store.sessions)
    (hrow : ∀ row, state.store.sessionRow? session.id = some row →
      (Store.row session).Succeeds row) : state.Advances state' := by
  intro id row hfound
  rw [Store.sessionRow?_putRow h]
  by_cases hid : session.id = id
  · subst hid
    exact ⟨_, if_pos rfl, hrow row hfound⟩
  · exact ⟨row, by rwa [if_neg hid], .refl row⟩

theorem Remembers.advances (h : state.Remembers copy) (step : state.Advances state') :
    state'.Remembers copy := by
  obtain ⟨row, hrow, hsucceeds⟩ := h
  obtain ⟨row', hrow', hnext⟩ := step _ _ hrow
  exact ⟨row', hrow', hsucceeds.trans hnext⟩

theorem sessionRow?_of_stored (h : state.stored session.id = 0) :
    state.store.sessionRow? session.id = none := by
  rw [Store.sessionRow?, List.find?_eq_none]
  intro row hrow
  simpa using id_ne_of_stored h row hrow

/-- What was made from a copy of the row as it is may take its place. -/
theorem Updated.succeeds {row : Session} (known : Known past session)
    (copies : ∀ copy, Learned past copy → state.Remembers copy)
    (found : state.store.sessionRow? session.id = some row)
    (current : row.version = session.version) :
    (Store.row session.advance).Succeeds row ∧
      ∀ hook, row.isMarked hook = true → session.isMarked hook = true := by
  obtain ⟨copy, hcopy, hrevises⟩ := known
  obtain ⟨row', hrow', hsucceeds⟩ := copies copy hcopy
  rw [← hrevises.id_eq, found] at hrow'
  obtain rfl := Option.some.inj hrow'
  have hsame := hsucceeds.same (current.trans hrevises.version)
  have hmarked : ∀ hook, row.isMarked hook = true → session.isMarked hook = true := by
    intro hook hmarked
    rw [hsame] at hmarked
    exact hrevises.marked hook hmarked
  have hversion : (Store.row session.advance).version = row.version + 1 := by
    rw [current]
    rfl
  refine ⟨⟨?_, by omega, ?_, by omega⟩, hmarked⟩
  · exact hrevises.facts.trans hsucceeds.facts.symm
  · intro hook h
    rw [Session.row_isMarked, Session.advance_isMarked]
    exact hmarked hook h

theorem advances_of_answers (proper : Proper past question)
    (copies : ∀ copy, Learned past copy → state.Remembers copy)
    (hnew : ∀ id, mayStore id past = true → state.stored id = 0)
    (answered : state.Answers question answer state') : state.Advances state' := by
  have hsessions := answers_sessions answered
  cases question with
  | saveSession session =>
      cases answer with
      | error failure => exact .of_same hsessions
      | ok value =>
          refine .of_putRow hsessions ?_
          intro row hrow
          rw [sessionRow?_of_stored (hnew _ (beq_iff_eq.mpr proper.1))] at hrow
          cases hrow
  | updateSession session =>
      cases answer with
      | error failure => exact .of_same hsessions
      | ok updated =>
          have hupdated := answers_updateSession answered
          cases hupdated with
          | stored calm found current =>
              refine .of_putRow hsessions ?_
              intro row hrow
              obtain rfl := Option.some.inj (found.symm.trans hrow)
              exact (Updated.succeeds proper copies found current).1
  | _ => exact .of_same hsessions

theorem remembers_of_told (hids : (state.store.sessions.map (·.id)).Nodup)
    (answered : state.Answers question answer state')
    (told : Exchange.told? ⟨question, answer⟩ = some copy) : state'.Remembers copy := by
  have hsessions := answers_sessions answered
  cases question with
  | saveSession session =>
      cases answer with
      | error failure => cases told
      | ok value =>
          obtain rfl := Option.some.inj told
          exact ⟨_, (Store.sessionRow?_putRow hsessions _).trans (if_pos rfl), Session.row_succeeds _⟩
  | updateSession session =>
      cases answer with
      | error failure => cases told
      | ok updated =>
          obtain rfl := Option.some.inj told
          exact ⟨_, (Store.sessionRow?_putRow hsessions _).trans (if_pos rfl), Session.row_succeeds _⟩
  | sessionById id =>
      cases answer with
      | error failure => cases told
      | ok found =>
          obtain ⟨hanswer, rfl⟩ := answered
          obtain rfl : found = some copy := told
          obtain ⟨row, hrow, rfl⟩ := Option.map_eq_some_iff.mp (Except.ok.inj hanswer).symm
          have hid := Store.id_of_sessionRow? hrow
          subst hid
          exact ⟨row, hrow, Session.succeeds_load _ row⟩
  | sessionBySid sid =>
      cases answer with
      | error failure => cases told
      | ok found =>
          obtain ⟨hanswer, rfl⟩ := answered
          obtain rfl : found = some copy := told
          obtain ⟨row, hrow, rfl⟩ := Option.map_eq_some_iff.mp (Except.ok.inj hanswer).symm
          have hfound := find_of_nodup hids (List.mem_of_find?_eq_some hrow)
          exact ⟨row, hfound, Session.succeeds_load _ row⟩
  | _ => cases told

end OpenWorld

namespace Pool

variable {ρ α : Type} {pool : Pool ρ α} {state : OpenWorld} {index : Nat} {origin : ρ}
  {past : List Exchange} {question : Question} {answer : question.Answer}
  {rest rest' : Dialogue Question Question.Answer (Except CallError α)}

theorem Distinct.nodup (h : pool.Distinct) :
    (pool.state.store.sessions.map (·.id)).Nodup := by
  rw [List.nodup_iff_count]
  intro id
  have hid := h id
  change pool.state.stored id ≤ 1
  split at hid <;> omega

theorem UpToDate.copies {thread : Thread ρ α} (h : pool.UpToDate)
    (waiting : pool.threads[index]? = some thread) :
    ∀ copy, Learned thread.past copy → pool.state.Remembers copy :=
  h thread (List.mem_of_getElem? waiting)

theorem UpToDate.advances (h : pool.UpToDate) (hdistinct : pool.Distinct)
    (proper : Proper past question)
    (waiting : pool.threads[index]? = some ⟨origin, past, rest⟩)
    (answered : pool.state.Answers question answer state) : pool.state.Advances state :=
  OpenWorld.advances_of_answers proper (h.copies waiting)
    (fun _ hheld => hdistinct.unstored waiting hheld) answered

theorem UpToDate.ask (h : pool.UpToDate) (hdistinct : pool.Distinct)
    (proper : Proper past question)
    (waiting : pool.threads[index]? = some ⟨origin, past, rest⟩)
    (answered : pool.state.Answers question answer state) :
    (pool.resume index ⟨origin, ⟨question, answer⟩ :: past, rest'⟩ state).UpToDate := by
  have hadvances := h.advances hdistinct proper waiting answered
  rintro thread hthread copy ⟨exchange, hexchange, htold⟩
  rcases exchange_of_resume waiting hthread hexchange with rfl | ⟨before, hbefore, hexchange⟩
  · exact OpenWorld.remembers_of_told hdistinct.nodup answered htold
  · exact (h before hbefore copy ⟨exchange, hexchange, htold⟩).advances hadvances

end Pool

theorem OpenWorld.Intact.distinct {ρ α : Type} {start : OpenWorld} (h : start.Intact) :
    ({ state := start } : Pool ρ α).Distinct := by
  intro id
  change 0 + List.count id _ ≤ _
  rw [h.ids_nodup.count, Nat.zero_add]
  split
  · rename_i hstored
    obtain ⟨row, hrow, rfl⟩ := List.mem_map.mp hstored
    have hdrawn : row.id.uuid ∈ start.drawn :=
      h.sessionsDrawn row.facts (List.mem_map_of_mem hrow)
    change 1 ≤ if row.id.uuid ∈ start.drawn then 1 else 0
    exact Nat.le_of_eq (if_pos hdrawn).symm
  · exact Nat.zero_le _

section Runs

variable {ρ α : Type} {program : ρ → Action α} {start : OpenWorld}
  {log : List (Nat × Exchange)} {pool : Pool ρ α}

theorem Reaches.proper {index : Nat} {origin : ρ} {past : List Exchange} {question : Question}
    {next : question.Answer → Dialogue Question Question.Answer (Except CallError α)}
    (alone : ∀ origin, Conducts (program origin) [] fun _ _ => True)
    (run : Reaches program start log pool)
    (waiting : pool.threads[index]? = some ⟨origin, past, .ask question next⟩) :
    Proper past question :=
  @Reaches.mayAsk _ _ program start log pool (fun _ => Proper) _ _ _ _ _ _ alone run waiting

/-- Beside each other, programs that go by the rules never share an identifier. -/
theorem Reaches.distinct (alone : ∀ origin, Conducts (program origin) [] fun _ _ => True)
    (fresh : ({ state := start } : Pool ρ α).Distinct) (run : Reaches program start log pool) :
    pool.Distinct := by
  induction run with
  | nothing => exact fresh
  | begin origin before ih =>
      intro id
      rw [Pool.count_begin rfl]
      exact ih id
  | ask before waiting answered ih => exact ih.ask (before.proper alone waiting) waiting answered
  | disturb due before ih => exact ih

/-- Beside each other, programs that go by the rules have copies of stored sessions only. -/
theorem Reaches.upToDate (alone : ∀ origin, Conducts (program origin) [] fun _ _ => True)
    (fresh : ({ state := start } : Pool ρ α).Distinct) (run : Reaches program start log pool) :
    pool.UpToDate := by
  induction run with
  | nothing => exact nofun
  | begin origin before ih =>
      intro thread hthread copy hcopy
      rcases List.mem_append.mp hthread with hthread | hthread
      · exact ih thread hthread copy hcopy
      · obtain rfl := List.mem_singleton.mp hthread
        obtain ⟨exchange, hexchange, _⟩ := hcopy
        cases hexchange
  | ask before waiting answered ih =>
      exact ih.ask (before.distinct alone fresh) (before.proper alone waiting) waiting answered
  | disturb due before ih => exact ih

end Runs

end PhoneTree

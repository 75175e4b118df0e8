import PhoneTree.Proofs.Arrival
import PhoneTree.Proofs.Callbacks
import PhoneTree.Proofs.CommandConduct
import PhoneTree.Proofs.Copies

namespace PhoneTree

/-- Sessions are kept by their identifiers and callers by their numbers, and the identifiers of
sessions and turns were given out. -/
structure OpenWorld.Keyed (state : OpenWorld) : Prop where
  sessions : (state.store.sessions.map (·.id)).Nodup
  callers : (state.store.callers.map (·.number)).Nodup
  sessionsDrawn : ∀ session ∈ state.store.sessions, session.id.uuid ∈ state.drawn
  turnsDrawn : ∀ turn ∈ state.store.turns, turn.id.uuid ∈ state.drawn

/-- What a program was refused because it is stored already is stored. -/
structure Store.Refuses (store : Store) (past : List Exchange) : Prop where
  calls : ∀ session failure, (⟨.saveSession session, .error failure⟩ : Exchange) ∈ past →
    ∃ call ∈ store.callFacts, call.sid = session.sid
  callers : ∀ caller failure, (⟨.saveCaller caller, .error failure⟩ : Exchange) ∈ past →
    ∃ other ∈ store.callers, other.number = caller.number

theorem Store.Refuses.nothing (store : Store) : store.Refuses [] :=
  ⟨fun _ _ h => absurd h List.not_mem_nil, fun _ _ h => absurd h List.not_mem_nil⟩

namespace Delivery

/-- A session is about the call of a delivery. -/
def IsAbout (delivery : Delivery) (session : Session) : Prop :=
  delivery.params.callSid? = some session.sid

/-- What a delivery may come to: the session that arrived, or an error that no duplicate caused. -/
def Comes (delivery : Delivery) :
    Except CallError (Session × Service.Reply) → List Exchange → Prop
  | .ok greeted, past => ∀ sid, delivery.params.callSid? = some sid → Arrived sid past greeted.1
  | .error error, _ => ¬error.StemsFromDuplicate

variable {registry : Registry}

theorem comes (delivery : Delivery) :
    Dialogue.Ensures arrival (delivery.action registry).run [] delivery.Comes := by
  refine Dialogue.Ensures.mono Service.inboundCall_arrives ?_
  rintro (error | greeted) past h
  · exact h
  · exact h

theorem ties (delivery : Delivery) :
    Ties delivery.IsAbout (delivery.action registry) [] fun _ _ => True :=
  Service.inboundCall_ties fun _ h => h

theorem conducts (delivery : Delivery) :
    Conducts (delivery.action registry) [] fun _ _ => True := by
  refine Service.inboundCall_keeps Service.conduct_keeps trivial ?_
  intro sid treeName later _ _ _
  exact Service.createSession_conducts fun _ _ hknown => ⟨trivial, hknown⟩

end Delivery

/-- How many times an identifier is that of a stored turn, if it is one at all. -/
def Store.turnsUnder (store : Store) (id : Uuid) : Nat :=
  if id ∈ store.turns.map (·.id.uuid) then 1 else 0

theorem Store.turnsUnder_append (store : Store) (turn : Turn) (id : Uuid) :
    ({ store with turns := store.turns ++ [turn] } : Store).turnsUnder id ≤
      store.turnsUnder id + if turn.id.uuid = id then 1 else 0 := by
  by_cases hid : turn.id.uuid = id
  · rw [if_pos hid, turnsUnder]
    split <;> omega
  · have hother : id ≠ turn.id.uuid := Ne.symm hid
    simp [turnsUnder, hother]

/-- Beside each other deliveries go on as they would on their own with answers that can be relied
upon. -/
structure Pool.Arriving (pool : Pool Delivery (Session × Service.Reply)) : Prop where
  comes : ∀ thread ∈ pool.threads,
    Dialogue.Ensures arrival thread.rest thread.past thread.origin.Comes
  turns : pool.OwnsOnce pool.state.store.turnsUnder
  refuses : ∀ thread ∈ pool.threads, pool.state.store.Refuses thread.past

namespace OpenWorld

variable {state state' : OpenWorld} {past : List Exchange} {question : Question}
  {answer : question.Answer}

theorem Advances.callFacts_subset (h : state.Advances state')
    (hids : (state.store.sessions.map (·.id)).Nodup) : state.callFacts ⊆ state'.callFacts := by
  intro call hcall
  obtain ⟨row, hrow, rfl⟩ := List.mem_map.mp hcall
  obtain ⟨row', hrow', hsucceeds⟩ := h row.id row (find_of_nodup hids hrow)
  rw [← hsucceeds.facts]
  exact List.mem_map_of_mem (List.mem_of_find?_eq_some hrow')

theorem callers_of_answers (h : state.Answers question answer state') :
    state.store.callers <+: state'.store.callers := by
  have took := took_of_answers h
  generalize state'.store = store' at took
  cases took with
  | read _ _ _ callers _ => exact callers ▸ List.prefix_refl _
  | meet new => exact List.prefix_append _ _
  | _ => exact List.prefix_refl _

theorem reliable (may : MayArrive past question) (proper : Proper past question)
    (refuses : state.store.Refuses past) (remembers : ∀ copy, Learned past copy → state.Remembers copy)
    (fresh : ∀ turn, question = .saveTurn turn → ∀ other ∈ state.store.turns, other.id ≠ turn.id)
    (answered : state.Answers question answer state') : Reliable past ⟨question, answer⟩ := by
  cases question with
  | saveSession session =>
      rcases answers_saveSession answered with ⟨_, rfl, _⟩ | ⟨_, ⟨failure, hkind, rfl⟩, _⟩
      · trivial
      · exact hkind
  | saveCaller caller =>
      rcases answers_saveCaller answered with rfl | ⟨⟨failure, hkind, rfl⟩, _⟩
      · trivial
      · exact hkind
  | updateSession session =>
      obtain ⟨copy, hcopy, hrevises⟩ := proper
      obtain ⟨row, hrow, _⟩ := remembers copy hcopy
      cases answers_updateSession answered with
      | stored calm found current => rfl
      | stale calm found outdated kind => exact kind
      | injected disturbed kind => exact kind
      | missing calm absent kind =>
          rw [hrevises.id_eq, hrow] at absent
          cases absent
  | sessionById id =>
      obtain ⟨rfl, rfl⟩ := answered
      obtain ⟨copy, hcopy, rfl⟩ := may
      obtain ⟨row, hrow, _⟩ := remembers copy hcopy
      have hloaded : state.store.sessionById copy.id = some (state.store.load row) := by
        rw [Store.sessionById, hrow]
        rfl
      have hid : row.id = copy.id := Store.id_of_sessionRow? hrow
      exact ⟨_, congrArg Except.ok hloaded, hid⟩
  | sessionBySid sid =>
      obtain ⟨hanswer, rfl⟩ := answered
      rcases answer with failure | _ | session
      · cases hanswer
      · intro session failure hrefused hsid
        obtain ⟨call, hcall, hsame⟩ := refuses.calls session failure hrefused
        exact sid_ne_of_sessionBySid (Except.ok.inj hanswer).symm call hcall (hsame.trans hsid)
      · exact sid_of_sessionBySid (Except.ok.inj hanswer).symm
  | callerByNumber number =>
      obtain ⟨hanswer, rfl⟩ := answered
      rcases answer with failure | _ | caller
      · cases hanswer
      · intro caller failure hrefused hnumber
        obtain ⟨other, hother, hsame⟩ := refuses.callers caller failure hrefused
        have hnone := List.find?_eq_none.mp (Except.ok.inj hanswer).symm other hother
        exact hnone (beq_iff_eq.mpr (hsame.trans hnumber))
      · trivial
  | saveTurn turn =>
      have hfree : ∀ other ∈ state.turnFacts, other.id ≠ turn.id := by
        intro facts hfacts
        obtain ⟨other, hother, rfl⟩ := List.mem_map.mp hfacts
        exact fresh turn rfl other hother
      obtain ⟨rfl, -⟩ := answers_saveTurn answered hfree
      trivial
  | countCalls caller tree direction | callerTurns caller tree | schedule job delay =>
      obtain ⟨rfl, -⟩ := answered
      trivial
  | _ => trivial

/-- What comes of a question leaves every call one session at most. -/
theorem sids_of_answers (proper : Proper past question)
    (copies : ∀ copy, Learned past copy → state.Remembers copy)
    (hnew : ∀ id, mayStore id past = true → state.stored id = 0)
    (answered : state.Answers question answer state') :
    state'.store.sessions.map (·.sid) = state.store.sessions.map (·.sid) ∨
      ∃ session : Session, (∀ row ∈ state.store.sessions, row.sid ≠ session.sid) ∧
        state'.store.sessions.map (·.sid) = state.store.sessions.map (·.sid) ++ [session.sid] := by
  have took := took_of_answers answered
  generalize state'.store = store' at took
  cases took with
  | read sessions _ _ _ _ => exact .inl (by rw [sessions])
  | @save session new =>
      have hids := id_ne_of_stored (hnew session.id (beq_iff_eq.mpr proper.1))
      refine .inr ⟨session, new, ?_⟩
      rw [@Store.putRow_eq_append (Store.row session) _ hids, List.map_append]
      rfl
  | @update session stored found =>
      cases answers_updateSession answered with
      | stored calm found current =>
          have hsucceeds := (Updated.succeeds proper copies found current).1
          have hsid := congrArg CallFacts.sid hsucceeds.facts
          exact .inl (Store.map_putRow (·.sid) found hsid)
  | _ => exact .inl rfl

theorem numbers_of_answers (h : state.Answers question answer state')
    (hnumbers : (state.store.callers.map (·.number)).Nodup) :
    (state'.store.callers.map (·.number)).Nodup := by
  have took := took_of_answers h
  generalize state'.store = store' at took
  cases took with
  | read _ _ _ callers _ => rwa [callers]
  | @meet caller new =>
      rw [List.map_append]
      refine List.nodup_append.mpr ⟨hnumbers, List.pairwise_singleton _ _, ?_⟩
      intro number hnumber other hother heq
      obtain ⟨known, hknown, rfl⟩ := List.mem_map.mp hnumber
      exact new known hknown (heq.trans (List.mem_singleton.mp hother))
  | _ => exact hnumbers

end OpenWorld

namespace Pool

variable {pool : Pool Delivery (Session × Service.Reply)} {state : OpenWorld} {index : Nat}
  {origin : Delivery} {past : List Exchange} {question : Question} {answer : question.Answer}
  {next : question.Answer →
    Dialogue Question Question.Answer (Except CallError (Session × Service.Reply))}

theorem Arriving.fresh (h : pool.Arriving)
    (waiting : pool.threads[index]? = some ⟨origin, past, .ask question next⟩) :
    ∀ turn, question = .saveTurn turn → ∀ other ∈ pool.state.store.turns, other.id ≠ turn.id := by
  rintro turn rfl other hother hid
  have hmay : unsaved past = some turn.id.uuid := (h.comes _ (List.mem_of_getElem? waiting)).1
  have hunowned := h.turns.unowned waiting (beq_iff_eq.mpr hmay)
  have hstored : turn.id.uuid ∈ pool.state.store.turns.map (·.id.uuid) :=
    List.mem_map.mpr ⟨other, hother, congrArg TurnId.uuid hid⟩
  rw [Store.turnsUnder, if_pos hstored] at hunowned
  cases hunowned

theorem Arriving.reliable (h : pool.Arriving) (upToDate : pool.UpToDate)
    (proper : Proper past question)
    (waiting : pool.threads[index]? = some ⟨origin, past, .ask question next⟩)
    (answered : pool.state.Answers question answer state) :
    Reliable past ⟨question, answer⟩ :=
  OpenWorld.reliable (h.comes _ (List.mem_of_getElem? waiting)).1 proper
    (h.refuses _ (List.mem_of_getElem? waiting)) (upToDate.copies waiting) (h.fresh waiting) answered

theorem Arriving.turns_ask (h : pool.Arriving)
    (waiting : pool.threads[index]? = some ⟨origin, past, .ask question next⟩)
    (answered : pool.state.Answers question answer state) :
    (pool.resume index ⟨origin, ⟨question, answer⟩ :: past, next answer⟩ state).OwnsOnce
      state.store.turnsUnder := by
  refine h.turns.ask waiting answered ?_
  intro id
  have hsame : state.store.turns.map (·.id.uuid) = pool.state.store.turns.map (·.id.uuid) →
      state.store.turnsUnder id ≤ pool.state.store.turnsUnder id + if unsaved past = some id ∧
        unsaved (⟨question, answer⟩ :: past) = none then 1 else 0 := by
    intro hturns
    rw [Store.turnsUnder, hturns]
    exact Nat.le_add_right _ _
  have may := (h.comes _ (List.mem_of_getElem? waiting)).1
  have took := OpenWorld.took_of_answers answered
  generalize state.store = store' at took hsame
  cases took with
  | read _ turns _ _ _ => exact hsame (by rw [turns])
  | @begin turn new =>
      have hmay : unsaved past = some turn.id.uuid := may
      refine Nat.le_trans (Store.turnsUnder_append _ turn id) (Nat.add_le_add_left ?_ _)
      by_cases hid : turn.id.uuid = id
      · exact Nat.le_of_eq
          ((if_pos hid).trans (if_pos ⟨hmay.trans (congrArg some hid), rfl⟩).symm)
      · rw [if_neg hid]
        exact Nat.zero_le _
  | input | timeout | attach =>
      refine hsame (Store.map_modifyTurn _ ?_ _)
      intro turn
      first | rfl | (split <;> rfl)
  | _ => exact hsame rfl

theorem Arriving.ask (h : pool.Arriving) (distinct : pool.Distinct) (upToDate : pool.UpToDate)
    (proper : Proper past question)
    (waiting : pool.threads[index]? = some ⟨origin, past, .ask question next⟩)
    (answered : pool.state.Answers question answer state) :
    (pool.resume index ⟨origin, ⟨question, answer⟩ :: past, next answer⟩ state).Arriving where
  comes := by
    intro thread hthread
    rcases List.mem_or_eq_of_mem_set hthread with hthread | rfl
    · exact h.comes thread hthread
    · refine (h.comes _ (List.mem_of_getElem? waiting)).2 _ _ ⟨?_, rfl⟩
      exact h.reliable upToDate proper waiting answered
  turns := h.turns_ask waiting answered
  refuses := by
    have hadvances := upToDate.advances distinct proper waiting answered
    have hcalls := hadvances.callFacts_subset distinct.nodup
    have hcallers := OpenWorld.callers_of_answers answered
    intro thread hthread
    constructor
    case calls =>
      intro session failure hrefused
      rcases exchange_of_resume waiting hthread hrefused with heq | ⟨before, hbefore, hrefused⟩
      · cases heq
        rcases OpenWorld.answers_saveSession answered with ⟨_, hanswer, _⟩ | ⟨htaken, _, rfl⟩
        · cases hanswer
        · exact htaken
      · obtain ⟨call, hcall, hsid⟩ := (h.refuses before hbefore).calls session failure hrefused
        exact ⟨call, hcalls hcall, hsid⟩
    case callers =>
      intro caller failure hrefused
      rcases exchange_of_resume waiting hthread hrefused with heq | ⟨before, hbefore, hrefused⟩
      · cases heq
        rcases OpenWorld.answers_saveCaller answered with hanswer | ⟨_, htaken⟩
        · cases hanswer
        · obtain ⟨other, hother, hsame⟩ := List.find?_isSome.mp htaken
          exact ⟨other, hother, eq_of_beq hsame⟩
      · obtain ⟨other, hother, hsame⟩ := (h.refuses before hbefore).callers caller failure hrefused
        exact ⟨other, hcallers.subset hother, hsame⟩

end Pool

namespace OpenWorld.Keyed

variable {start : OpenWorld}

theorem of_empty (h : start.store = {}) : start.Keyed := by
  constructor <;> rw [h]
  · exact List.nodup_nil
  · exact List.nodup_nil
  · exact fun _ hmem => absurd hmem List.not_mem_nil
  · exact fun _ hmem => absurd hmem List.not_mem_nil

theorem distinct {ρ α : Type} (h : start.Keyed) : ({ state := start } : Pool ρ α).Distinct := by
  intro id
  change 0 + List.count id _ ≤ _
  rw [h.sessions.count, Nat.zero_add]
  split
  · rename_i hstored
    obtain ⟨row, hrow, rfl⟩ := List.mem_map.mp hstored
    exact Nat.le_of_eq (if_pos (h.sessionsDrawn row hrow)).symm
  · exact Nat.zero_le _

theorem arriving (h : start.Keyed) :
    ({ state := start } : Pool Delivery (Session × Service.Reply)).Arriving := by
  refine ⟨nofun, ?_, nofun⟩
  intro id
  change 0 + start.store.turnsUnder id ≤ _
  rw [Nat.zero_add, Store.turnsUnder]
  split
  · rename_i hstored
    obtain ⟨turn, hturn, rfl⟩ := List.mem_map.mp hstored
    exact Nat.le_of_eq (if_pos (h.turnsDrawn turn hturn)).symm
  · exact Nat.zero_le _

end OpenWorld.Keyed

section Runs

variable {registry : Registry} {start : OpenWorld} {log : List (Nat × Exchange)}
  {pool : Pool Delivery (Session × Service.Reply)}

theorem Reaches.arriving (keyed : start.Keyed)
    (run : Reaches (Delivery.action registry) start log pool) : pool.Arriving := by
  have alone : ∀ delivery, Conducts (Delivery.action registry delivery) [] fun _ _ => True :=
    Delivery.conducts
  induction run with
  | nothing => exact keyed.arriving
  | @begin log pool delivery before ih =>
      constructor
      case comes =>
        intro thread hthread
        rcases List.mem_append.mp hthread with hthread | hthread
        · exact ih.comes thread hthread
        · obtain rfl := List.mem_singleton.mp hthread
          exact delivery.comes
      case turns =>
        intro id
        rw [Pool.count_begin rfl]
        exact ih.turns id
      case refuses =>
        intro thread hthread
        rcases List.mem_append.mp hthread with hthread | hthread
        · exact ih.refuses thread hthread
        · obtain rfl := List.mem_singleton.mp hthread
          exact .nothing _
  | ask before waiting answered ih =>
      exact ih.ask (before.distinct alone keyed.distinct) (before.upToDate alone keyed.distinct)
        (before.proper alone waiting) waiting answered
  | disturb due before ih =>
      refine ⟨ih.comes, ih.turns, ?_⟩
      intro thread hthread
      exact ⟨(ih.refuses thread hthread).calls, (ih.refuses thread hthread).callers⟩

/-- Of a call that was not stored there is never more than one session, and of a number never more
than one caller. -/
theorem Reaches.single (keyed : start.Keyed) {sid : String}
    (new : ∀ session ∈ start.store.sessions, session.sid ≠ sid)
    (run : Reaches (Delivery.action registry) start log pool) :
    (pool.state.store.sessions.map (·.sid)).count sid ≤ 1 ∧
      (pool.state.store.callers.map (·.number)).Nodup := by
  have alone : ∀ delivery, Conducts (Delivery.action registry delivery) [] fun _ _ => True :=
    Delivery.conducts
  induction run with
  | nothing =>
      refine ⟨?_, keyed.callers⟩
      have hnone : sid ∉ start.store.sessions.map (·.sid) := by
        intro hsid
        obtain ⟨session, hsession, hsame⟩ := List.mem_map.mp hsid
        exact new session hsession hsame
      rw [List.count_eq_zero.mpr hnone]
      exact Nat.zero_le 1
  | begin delivery before ih => exact ih
  | ask before waiting answered ih =>
      refine ⟨?_, OpenWorld.numbers_of_answers answered ih.2⟩
      have hdistinct := before.distinct alone keyed.distinct
      rcases OpenWorld.sids_of_answers (before.proper alone waiting)
          ((before.upToDate alone keyed.distinct).copies waiting)
          (fun _ hheld => hdistinct.unstored waiting hheld) answered with hsame | ⟨session, hnew, hsids⟩
      · exact hsame ▸ ih.1
      · change List.count sid (List.map _ _) ≤ 1
        rw [Pool.resume, hsids, List.count_append]
        by_cases hsid : session.sid = sid
        · -- a session is stored only if its call has none, so the count goes from none to one
          subst hsid
          have hnone : session.sid ∉ _ := fun hmem => by
            obtain ⟨row, hrow, hsame⟩ := List.mem_map.mp hmem
            exact hnew row hrow hsame
          refine Nat.le_of_eq ?_
          rw [List.count_eq_zero.mpr hnone, List.count_singleton_self]
        · rw [List.count_singleton, if_neg (by simpa using hsid)]
          exact ih.1
  | disturb due before ih => exact ih

theorem Pool.UpToDate.stored_of_concerns {thread : Thread Delivery (Session × Service.Reply)}
    {sid : String} {id : SessionId} (h : pool.UpToDate) (hthread : thread ∈ pool.threads)
    (concerns : Concerns (fun session => session.sid = sid) thread.past id) :
    ∃ row ∈ pool.state.store.sessions, row.sid = sid ∧ row.id = id := by
  obtain ⟨copy, hcopy, rfl, rfl⟩ := concerns
  obtain ⟨row, hrow, hsucceeds⟩ := h thread hthread copy hcopy
  refine ⟨row, List.mem_of_find?_eq_some hrow, congrArg CallFacts.sid hsucceeds.facts, ?_⟩
  exact Store.id_of_sessionRow? hrow

theorem Reaches.savesOwn (run : Reaches (Delivery.action registry) start log pool) :
    ∀ thread ∈ pool.threads, ∀ turn, (⟨.saveTurn turn, .ok ()⟩ : Exchange) ∈ thread.past →
      Concerns thread.origin.IsAbout thread.past turn.session := by
  refine run.always (fun delivery past => ∀ turn, (⟨.saveTurn turn, .ok ()⟩ : Exchange) ∈ past →
    Concerns delivery.IsAbout past turn.session) Delivery.ties (fun _ _ => nofun) ?_
  intro delivery past question answer tied kept turn hturn
  refine Concerns.later ?_ (List.suffix_cons _ past)
  rcases List.mem_cons.mp hturn with heq | hturn
  · cases heq
    exact tied.2
  · exact kept turn hturn

/-- However deliveries of a call that is not stored race, the call comes to be stored once at most
and so does its caller. Every delivery that succeeds comes to that one session, to which the turns
that it stores belong, and none fails because another was first. -/
theorem racing_deliveries_create_one_call (keyed : start.Keyed) {sid : String}
    (new : ∀ session ∈ start.store.sessions, session.sid ≠ sid)
    (run : Reaches (Delivery.action registry) start log pool) :
    (pool.state.store.sessions.map (·.sid)).count sid ≤ 1 ∧
    (pool.state.store.callers.map (·.number)).Nodup ∧
    ∀ thread ∈ pool.threads, thread.origin.params.callSid? = some sid →
      (∀ session reply, thread.rest = .done (.ok (session, reply)) →
        ∃ row ∈ pool.state.store.sessions, row.sid = sid ∧ row.id = session.id) ∧
      (∀ turn, (⟨.saveTurn turn, .ok ()⟩ : Exchange) ∈ thread.past →
        ∃ row ∈ pool.state.store.sessions, row.sid = sid ∧ row.id = turn.session) ∧
      ∀ error, thread.rest = .done (.error error) → ¬error.StemsFromDuplicate := by
  obtain ⟨hcalls, hcallers⟩ := run.single keyed new
  have hcurrent := run.upToDate Delivery.conducts keyed.distinct
  refine ⟨hcalls, hcallers, ?_⟩
  intro thread hthread hsid
  have hcomes := (run.arriving keyed).comes thread hthread
  refine ⟨?_, ?_, ?_⟩
  · intro session reply hdone
    rw [hdone] at hcomes
    exact hcurrent.stored_of_concerns hthread (hcomes sid hsid)
  · intro turn hturn
    obtain ⟨copy, hcopy, habout, hid⟩ := run.savesOwn thread hthread turn hturn
    refine hcurrent.stored_of_concerns hthread ⟨copy, hcopy, ?_, hid⟩
    exact Option.some.inj (habout.symm.trans hsid)
  · intro error hdone
    rw [hdone] at hcomes
    exact hcomes

end Runs

section Raced

def twoDeliveries : Pool Delivery (Session × Service.Reply) :=
  (({ state := .ofWorld {} } : Pool _ _).begun (Delivery.action ⟨[questionTree]⟩)
    ⟨"main", questionParams⟩).begun (Delivery.action ⟨[questionTree]⟩) ⟨"main", questionParams⟩

def racedDeliveries : List (Nat × Exchange) × Pool Delivery (Session × Service.Reply) :=
  twoDeliveries.play [] (List.replicate 25 [0, 1]).flatten

theorem racedDeliveries_reach :
    Reaches (Delivery.action ⟨[questionTree]⟩) (.ofWorld {}) racedDeliveries.1
      racedDeliveries.2 := by
  have hbegun : Reaches (Delivery.action ⟨[questionTree]⟩) (.ofWorld {}) [] twoDeliveries :=
    .begin _ (.begin _ .nothing)
  exact hbegun.play rfl (by decide +kernel)

/-- Both succeed, one of them after the store has refused it the session and the caller. -/
theorem racedDeliveries_create_one_call :
    racedDeliveries.2.threads.map (fun thread =>
      match thread.rest with
      | .done (.ok (session, _)) => some session.id
      | _ => none) = [some ⟨.ofNat 3⟩, some ⟨.ofNat 3⟩] ∧
    racedDeliveries.2.threads.countP (fun thread => thread.past.any fun exchange =>
      match exchange with
      | ⟨.saveSession _, .error _⟩ | ⟨.saveCaller _, .error _⟩ => true
      | _ => false) = 1 ∧
    (racedDeliveries.2.state.store.sessions.map (·.sid)).count "CA0" ≤ 1 := by
  refine ⟨by decide +kernel, by decide +kernel, ?_⟩
  have hnew : ∀ session ∈ (OpenWorld.ofWorld {}).store.sessions, session.sid ≠ "CA0" :=
    fun _ hsession => absurd hsession List.not_mem_nil
  exact (racing_deliveries_create_one_call (.of_empty rfl) hnew racedDeliveries_reach).1

end Raced

end PhoneTree

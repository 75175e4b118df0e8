import PhoneTree.Proofs.Copies
import PhoneTree.Proofs.CommandConduct
/-!
The callbacks of trees run at most once for a call.

A program may run a callback once it has set the mark on a session that was without it. Of all
programs together, those that have run the callback of a session and those that still may are at
most one, and none as long as the stored session is without the mark.
-/
namespace PhoneTree

namespace OpenWorld

/-- How often a callback ran for a session. -/
def runs (state : OpenWorld) (hook : Hook) (id : SessionId) : Nat :=
  state.world.hooks.countP fun entry => entry.1 == hook && entry.2.id == id

/-- Whether the stored session of an identifier has a mark. -/
def isMarked (state : OpenWorld) (hook : Hook) (id : SessionId) : Bool :=
  (state.store.sessionRow? id).any (·.isMarked hook)

/-- A callback was given a stored session with the mark, and for an unanswered call an outbound one. -/
structure WasGiven (state : OpenWorld) (hook : Hook) (session : Session) : Prop where
  marked : session.isMarked hook = true
  stored : state.Remembers session
  outbound : hook = .unanswered → session.isOutbound = true

theorem isMarked_of_row {state : OpenWorld} {hook : Hook} {id : SessionId} {row : Session}
    (h : state.store.sessionRow? id = some row) : state.isMarked hook id = row.isMarked hook := by
  rw [isMarked, h]
  rfl

theorem Advances.isMarked {state state' : OpenWorld} {hook : Hook} {id : SessionId}
    (h : state.Advances state') (hmarked : state.isMarked hook id = true) :
    state'.isMarked hook id = true := by
  obtain ⟨row, hrow, hhook⟩ := (Option.any_eq_true _ _).mp hmarked
  obtain ⟨row', hrow', hsucceeds⟩ := h id row hrow
  rw [isMarked_of_row hrow']
  exact hsucceeds.marked hook hhook

end OpenWorld

namespace Pool

variable {ρ α : Type}

/-- Runs of a callback and programs that may still run it are at most one, and none before the
mark is set. -/
structure Licensed (pool : Pool ρ α) : Prop where
  once : ∀ hook id, pool.state.runs hook id + pool.count (marks hook id) ≤
    (pool.state.isMarked hook id).toNat
  given : ∀ entry ∈ pool.state.world.hooks, pool.state.WasGiven entry.1 entry.2

end Pool

theorem update_of_marks {hook : Hook} {id : SessionId} {exchange : Exchange}
    {past : List Exchange} (h : marks hook id (exchange :: past) = true) :
    ∃ sent updated base, exchange = ⟨.updateSession sent, .ok updated⟩ ∧ Learned past base ∧
      sent.id = id ∧ base.id = id ∧ base.version = sent.version ∧
        base.isMarked hook = false ∧ sent.isMarked hook = true := by
  rw [marks.eq_def] at h
  split at h
  · rename_i sent updated id' base rest heq
    obtain ⟨rfl, rfl⟩ := List.cons.inj heq
    simp only [Bool.and_eq_true, beq_iff_eq, Bool.not_eq_true'] at h
    obtain ⟨⟨⟨⟨hsent, hbase⟩, hversion⟩, hunmarked⟩, hmarked⟩ := h
    exact ⟨sent, updated, base, rfl, .first rfl, hsent, hbase, hversion, hunmarked, hmarked⟩
  · cases h

namespace OpenWorld

variable {state state' : OpenWorld} {past : List Exchange} {question : Question}
  {answer : question.Answer} {hook : Hook} {id : SessionId}

theorem runs_of_answers (proper : Proper past question)
    (answered : state.Answers question answer state') :
    state'.runs hook id ≤ state.runs hook id + (marks hook id past).toNat := by
  rw [runs, answers_hooks answered, List.countP_append]
  refine Nat.add_le_add_left ?_ _
  cases question with
  | runHook ran callback session =>
      obtain ⟨_, hmarks, _⟩ := proper
      by_cases hsame : ran = hook ∧ session.id = id
      · obtain ⟨rfl, rfl⟩ := hsame
        simp [Exchange.ran?, hmarks]
      · have hother : (ran == hook && session.id == id) = false := by
          simpa using hsame
        simp [Exchange.ran?, hother]
  | _ => exact Nat.zero_le _

/-- Whoever gets a licence has set a mark that was not there. -/
theorem marks_of_answers (copies : ∀ copy, Learned past copy → state.Remembers copy)
    (answered : state.Answers question answer state')
    (h : marks hook id (⟨question, answer⟩ :: past) = true) :
    state.isMarked hook id = false ∧ state'.isMarked hook id = true ∧
      state'.runs hook id = state.runs hook id := by
  obtain ⟨sent, updated, base, hexchange, hbase, rfl, hid, hversion, hunmarked, hmarked⟩ :=
    update_of_marks h
  obtain ⟨rfl, hanswer⟩ := Sigma.mk.inj hexchange
  obtain rfl := eq_of_heq hanswer
  have hupdated := answers_updateSession answered
  cases hupdated with
  | stored calm found current =>
      refine ⟨?_, ?_, rfl⟩
      · -- the update was stored, so the copy that was read before has all marks of the row
        obtain ⟨row, hrow, hsucceeds⟩ := copies base hbase
        rw [hid] at hrow
        obtain rfl := Option.some.inj (found.symm.trans hrow)
        rw [isMarked_of_row hrow, hsucceeds.same (current.trans hversion.symm), hunmarked]
      · have hrow := (Store.sessionRow?_putRow (answers_sessions answered) sent.id).trans
          (if_pos rfl)
        rw [isMarked_of_row hrow, Session.row_isMarked, Session.advance_isMarked, hmarked]

theorem WasGiven.advances {session : Session} (h : state.WasGiven hook session)
    (step : state.Advances state') : state'.WasGiven hook session :=
  ⟨h.marked, h.stored.advances step, h.outbound⟩

theorem isOutbound_of_id {session copy : Session} (h : state.Remembers session)
    (h' : state.Remembers copy) (hid : copy.id = session.id) :
    copy.isOutbound = session.isOutbound := by
  obtain ⟨row, hrow, hsucceeds⟩ := h
  obtain ⟨row', hrow', hsucceeds'⟩ := h'
  rw [hid, hrow] at hrow'
  obtain rfl := Option.some.inj hrow'
  have hfacts := hsucceeds'.facts.symm.trans hsucceeds.facts
  have hdirection : copy.direction = session.direction := congrArg CallFacts.direction hfacts
  rw [Session.isOutbound, hdirection, Session.isOutbound]

theorem given_of_answers (proper : Proper past question)
    (copies : ∀ copy, Learned past copy → state.Remembers copy) (step : state.Advances state')
    (answered : state.Answers question answer state')
    (given : ∀ entry ∈ state.world.hooks, state.WasGiven entry.1 entry.2) :
    ∀ entry ∈ state'.world.hooks, state'.WasGiven entry.1 entry.2 := by
  rw [answers_hooks answered]
  intro entry hentry
  rcases List.mem_append.mp hentry with hentry | hentry
  · exact (given entry hentry).advances step
  · cases question with
    | runHook ran callback session =>
        obtain rfl := List.mem_singleton.mp hentry
        obtain ⟨hlearned, _, hmarked, houtbound⟩ := proper
        refine ⟨hmarked, (copies session hlearned).advances step, ?_⟩
        intro hran
        obtain ⟨copy, hcopy, hid, hout⟩ := houtbound hran
        rwa [← isOutbound_of_id (copies session hlearned) (copies copy hcopy) hid]
    | _ => cases hentry

end OpenWorld

namespace Pool

variable {ρ α : Type} {pool : Pool ρ α} {state : OpenWorld} {index : Nat} {origin : ρ}
  {past : List Exchange} {question : Question} {answer : question.Answer}
  {rest rest' : Dialogue Question Question.Answer (Except CallError α)}

theorem Licensed.ask (h : pool.Licensed) (hdistinct : pool.Distinct) (hcurrent : pool.UpToDate)
    (proper : Proper past question)
    (waiting : pool.threads[index]? = some ⟨origin, past, rest⟩)
    (answered : pool.state.Answers question answer state) :
    (pool.resume index ⟨origin, ⟨question, answer⟩ :: past, rest'⟩ state).Licensed := by
  have hcopies := hcurrent.copies waiting
  have hadvances := hcurrent.advances hdistinct proper waiting answered
  refine ⟨?_, OpenWorld.given_of_answers proper hcopies hadvances answered h.given⟩
  intro hook id
  have hbefore := h.once hook id
  have hcount := count_resume (marks hook id) ⟨origin, ⟨question, answer⟩ :: past, rest'⟩ state
    waiting
  simp only at hcount
  change state.runs hook id + _ ≤ (state.isMarked hook id).toNat
  -- a licence is either new, and then so is the mark, or it is used up by the run
  cases hmarks : marks hook id (⟨question, answer⟩ :: past)
  · have hruns := @OpenWorld.runs_of_answers _ _ _ _ _ hook id proper answered
    have hmarked : (pool.state.isMarked hook id).toNat ≤ (state.isMarked hook id).toNat := by
      cases hbit : pool.state.isMarked hook id
      · exact Nat.zero_le _
      · exact Nat.le_of_eq (by rw [hadvances.isMarked hbit])
    rw [hmarks, Bool.toNat_false] at hcount
    omega
  · obtain ⟨hunmarked, hmarked, hruns⟩ := OpenWorld.marks_of_answers hcopies answered hmarks
    rw [hunmarked, Bool.toNat_false] at hbefore
    rw [hmarks, Bool.toNat_true] at hcount
    rw [hmarked, hruns, Bool.toNat_true]
    omega

end Pool

/-- Beside each other, programs that go by the rules run callbacks only as they may. -/
theorem Reaches.licensed {ρ α : Type} {program : ρ → Action α} {start : OpenWorld}
    {log : List (Nat × Exchange)} {pool : Pool ρ α}
    (alone : ∀ origin, Conducts (program origin) [] fun _ _ => True)
    (fresh : ({ state := start } : Pool ρ α).Distinct) (silent : start.world.hooks = [])
    (run : Reaches program start log pool) : pool.Licensed := by
  induction run with
  | nothing =>
      constructor
      · intro hook id
        simp [OpenWorld.runs, Pool.count, silent]
      · intro entry hentry
        change entry ∈ start.world.hooks at hentry
        rw [silent] at hentry
        cases hentry
  | begin origin before ih =>
      refine ⟨?_, ih.given⟩
      intro hook id
      rw [Pool.count_begin rfl]
      exact ih.once hook id
  | ask before waiting answered ih =>
      exact ih.ask (before.distinct alone fresh) (before.upToDate alone fresh)
        (before.mayAsk alone waiting) waiting answered
  | disturb due before ih =>
      refine ⟨ih.once, ?_⟩
      intro entry hentry
      exact (ih.given entry hentry).advances (.of_same rfl)

section Runs

variable {account : Service.Account} {registry : Registry} {start : OpenWorld}
  {log : List (Nat × Exchange)} {pool : Pool Command Outcome}

/-- However commands run side by side, each callback of a tree runs at most once for a session. It
is given a session with the mark, which the stored session has too, and the callback for unanswered
calls is never given an inbound one. -/
theorem callbacks_run_at_most_once (intact : start.Intact) (silent : start.world.hooks = [])
    (run : Reaches (fun command : Command => command.action account registry) start log pool) :
    (∀ hook id, (pool.state.world.hooks.countP fun entry =>
      entry.1 == hook && entry.2.id == id) ≤ 1) ∧
    ∀ entry ∈ pool.state.world.hooks,
      entry.2.isMarked entry.1 = true ∧
      (entry.1 = .unanswered → entry.2.direction ≠ .inbound) ∧
      ∃ row, pool.state.store.sessionRow? entry.2.id = some row ∧
        row.facts = entry.2.facts ∧ row.isMarked entry.1 = true := by
  have hlicensed := run.licensed (Command.conducts account registry) intact.distinct silent
  constructor
  · intro hook id
    have honce := hlicensed.once hook id
    have hbit := Bool.toNat_le (pool.state.isMarked hook id)
    rw [OpenWorld.runs] at honce
    omega
  · intro entry hentry
    obtain ⟨hmarked, ⟨row, hrow, hsucceeds⟩, houtbound⟩ := hlicensed.given entry hentry
    refine ⟨hmarked, ?_, row, hrow, hsucceeds.facts, hsucceeds.marked _ hmarked⟩
    intro hhook hinbound
    have hout := houtbound hhook
    rw [Session.isOutbound, hinbound] at hout
    cases hout

end Runs

section Race

def unansweredRow : Session where
  id := ⟨.ofNat 0⟩
  sid := "CA0"
  direction := .outbound
  treeName := "main"
  caller := ⟨.ofNat 0⟩
  details := {}
  createdAt := ⟨0⟩

def callbackTree : Tree where
  name := "main"
  config := {}
  greeting := .hangup
  prompts := []
  onUnanswered := some fun _ => .ok ()

def hookRaceStart : OpenWorld :=
  .ofWorld { store := { sessions := [unansweredRow] } }

def hookRaceCommand : Command :=
  .job (.unansweredCall unansweredRow.id)

/-- Two who do the same work and both read the session before either marks it. -/
def hookRace : List (Nat × Exchange) × Pool Command Outcome :=
  Pool.play []
    { state := hookRaceStart
      threads := List.replicate 2
        { origin := hookRaceCommand, rest := (hookRaceCommand.action default ⟨[callbackTree]⟩).run } }
    [0, 1, 0, 1, 1, 0]

theorem hookRace_reaches :
    Reaches (fun command : Command => command.action default ⟨[callbackTree]⟩) hookRaceStart
      hookRace.1 hookRace.2 :=
  Reaches.play ((Reaches.nothing.begin hookRaceCommand).begin hookRaceCommand) rfl
    (by decide +kernel)

theorem hookRace_intact : hookRaceStart.Intact := by
  constructor <;> decide

theorem hookRace_runs_callback_once :
    hookRace.2.state.world.hooks.length = 1 ∧
      (∀ hook id, (hookRace.2.state.world.hooks.countP fun entry =>
        entry.1 == hook && entry.2.id == id) ≤ 1) ∧
      ∀ entry ∈ hookRace.2.state.world.hooks,
        entry.2.isMarked entry.1 = true ∧
        (entry.1 = .unanswered → entry.2.direction ≠ .inbound) ∧
        ∃ row, hookRace.2.state.store.sessionRow? entry.2.id = some row ∧
          row.facts = entry.2.facts ∧ row.isMarked entry.1 = true :=
  ⟨by decide +kernel, callbacks_run_at_most_once hookRace_intact rfl hookRace_reaches⟩

end Race

end PhoneTree

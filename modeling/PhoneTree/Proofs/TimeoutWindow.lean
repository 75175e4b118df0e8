import PhoneTree.Proofs.SilentCaller
import PhoneTree.Proofs.StepView
/-!
When a timeout is the last one that a tree allows.

A timeout is about one turn. The tree looks at that turn and at the latest turns of the call on the
same prompt, as many as it allows timeouts. The turn may be the latest of them, or an older one, or
too old to be among them. Wherever it stands, what is looked at begins with the latest turns on the
prompt as they are once this turn has timed out, and these decide whether the caller is let go.
-/
namespace PhoneTree

/-- The turns of a call on the prompt of one of them, with what has become of that one. -/
def Store.triesWith (store : Store) (updated : Turn) : List Turn :=
  ((store.turnsOf updated.session).filter fun turn => turn.handle == updated.handle).map
    (·.replacedBy updated)

/-- There are as many turns as attempts, and the last so many of them have all timed out. -/
def UsesUp (attempts : Nat) (tries : List Turn) : Prop :=
  attempts ≤ tries.length ∧ ∀ turn ∈ tries.drop (tries.length - attempts), turn.timedOut = true

instance {attempts : Nat} {tries : List Turn} : Decidable (UsesUp attempts tries) :=
  inferInstanceAs (Decidable (_ ∧ _))

namespace Visit

/-- The visit with other prompts in its tree. -/
def withPrompts (visit : Visit) (prompts : List Prompt) : Visit :=
  { visit with scene := { visit.scene with tree := { visit.scene.tree with prompts } } }

/-- A timeout of a turn has come to its step, with a session as it is but for its version. -/
structure IsTimeout (visit : Visit) (tree : Tree) (store : Store) (session : Session)
    (turn : Turn) : Prop where
  leaving : visit.leaving = .timeout
    (store.latestTurns session.id turn.handle tree.config.finalTimeoutAttempts)
  tree : visit.scene.tree = tree
  turn : visit.turn = turn
  session : ∃ version, visit.session = { session with version }

/-- The caller hears the final message and is let go. No turn is begun, and it would be the same on
a tree with other prompts. -/
structure LetsGo (visit : Visit) (turns turns' : List Turn) (reply : Service.Reply) : Prop where
  outcome : reply.outcome = .finalTimeout
  response : ∃ verbs, visit.scene.render visit.context
      visit.scene.tree.config.finalTimeoutMessage = .ok verbs ∧
    reply.response = ⟨verbs ++ [⟨.hangup, [], none, []⟩]⟩
  stored : turns' = turns.map (·.replacedBy visit.updated)
  unasked : ∀ prompts, (visit.withPrompts prompts).step = visit.step

/-- The rule of the prompt is followed. -/
structure FollowsRule (visit : Visit) (turns turns' : List Turn) (reply : Service.Reply) :
    Prop where
  outcome : reply.outcome ≠ .finalTimeout
  rule : ∃ prompt transition step,
    visit.scene.tree.prompt? visit.turn.handle = some prompt ∧
      prompt.after.resolve visit.context = .ok transition ∧
      visit.scene.follow visit.view visit.context transition = .ok step ∧
      reply = ⟨step.response, step.outcome⟩ ∧
      turns' = turns.map (·.replacedBy visit.updated) ++ step.nextTurn.toList

end Visit

section Window

open FlowScene

variable {turn updated : Turn} {later earlier tries : List Turn} {attempts : Nat}

theorem timeoutWindow_skip (h : turn.id = updated.id) :
    timeoutWindow updated (later ++ turn :: earlier) =
      timeoutWindow updated (later ++ earlier) := by
  simp [timeoutWindow, List.filter_append, h]

theorem latestFirst_trans (a b c : Turn) (hab : decide (b.createdAt ≤ a.createdAt) = true)
    (hbc : decide (c.createdAt ≤ b.createdAt) = true) : decide (c.createdAt ≤ a.createdAt) = true :=
  decide_eq_true (Int.le_trans (of_decide_eq_true hbc) (of_decide_eq_true hab))

theorem latestFirst_total (a b : Turn) :
    (decide (b.createdAt ≤ a.createdAt) || decide (a.createdAt ≤ b.createdAt)) = true := by
  rw [Bool.or_eq_true, decide_eq_true_eq, decide_eq_true_eq]
  exact Int.le_total _ _

theorem timeoutWindow_eq
    (falling : (later ++ updated :: earlier).Pairwise fun a b => b.createdAt < a.createdAt)
    (others : ∀ turn ∈ later ++ earlier, turn.id ≠ updated.id ∧ turn.handle = updated.handle) :
    timeoutWindow updated (later ++ earlier) = later ++ updated :: earlier := by
  have hkept : ((later ++ earlier).filter fun turn =>
      turn.id != updated.id && turn.handle == updated.handle) = later ++ earlier := by
    apply List.filter_eq_self.mpr
    intro turn hturn
    obtain ⟨hid, hhandle⟩ := others turn hturn
    simp [hid, hhandle]
  have htimes : ((later ++ updated :: earlier).map (·.createdAt)).Nodup := by
    apply List.pairwise_map.mpr
    refine falling.imp ?_
    intro a b hless hsame
    rw [hsame] at hless
    exact Int.lt_irrefl _ hless
  rw [timeoutWindow, hkept]
  have hperm := (List.mergeSort_perm (updated :: (later ++ earlier)) fun a b =>
    decide (b.createdAt ≤ a.createdAt)).trans List.perm_middle.symm
  refine List.Perm.eq_of_pairwise ?_
    (List.pairwise_mergeSort latestFirst_trans latestFirst_total _) ?_ hperm
  · intro a b ha hb hle hge
    refine OpenWorld.eq_of_nodup htimes (hperm.mem_iff.mp ha) hb ?_
    exact congrArg Timestamp.mk (Int.le_antisymm (of_decide_eq_true hge) (of_decide_eq_true hle))
  · exact falling.imp fun hless => decide_eq_true (Int.le_of_lt hless)

theorem timeoutWindow_eq_of_sublist {later' earlier' : List Turn} (hlater : later'.Sublist later)
    (hearlier : earlier'.Sublist earlier)
    (falling : (later ++ updated :: earlier).Pairwise fun a b => b.createdAt < a.createdAt)
    (others : ∀ turn ∈ later ++ earlier, turn.id ≠ updated.id ∧ turn.handle = updated.handle) :
    timeoutWindow updated (later' ++ earlier') = later' ++ updated :: earlier' := by
  refine timeoutWindow_eq (falling.sublist (hlater.append (hearlier.cons_cons _))) ?_
  exact fun turn hturn => others turn ((hlater.append hearlier).subset hturn)

/-- The turn may be among the latest turns, which are looked at, or older than all of them. -/
theorem take_timeoutWindow (same : turn.id = updated.id)
    (falling : (later ++ updated :: earlier).Pairwise fun a b => b.createdAt < a.createdAt)
    (others : ∀ turn ∈ later ++ earlier, turn.id ≠ updated.id ∧ turn.handle = updated.handle) :
    (timeoutWindow updated ((later ++ turn :: earlier).take attempts)).take attempts =
      (later ++ updated :: earlier).take attempts := by
  rw [List.take_append, List.take_append]
  rcases hleft : attempts - later.length with _ | left
  · -- the later turns are enough, and the turn comes last and is cut off again
    have hwindow := timeoutWindow_eq_of_sublist (List.take_sublist attempts later)
      (List.nil_sublist earlier) falling others
    have hlength : (later.take attempts).length = attempts := by
      rw [List.length_take]
      omega
    rw [List.append_nil] at hwindow
    rw [List.take_zero, List.append_nil, hwindow, List.take_zero, List.append_nil]
    exact List.take_left' hlength
  · -- the turn is looked at, and what it has become takes its place
    have hall : later.take attempts = later := List.take_of_length_le (by omega)
    have hwindow := timeoutWindow_eq_of_sublist (List.Sublist.refl later)
      (List.take_sublist left earlier) falling others
    rw [hall, List.take_succ_cons, List.take_succ_cons, timeoutWindow_skip same, hwindow]
    apply List.take_of_length_le
    simp only [List.length_append, List.length_cons, List.length_take]
    omega

theorem take_timeoutWindow_tries (ids : (tries.map (·.id)).Nodup)
    (rising : tries.Pairwise fun a b => a.createdAt < b.createdAt)
    (handles : ∀ other ∈ tries, other.handle = turn.handle) (mem : turn ∈ tries)
    (same : updated.facts = turn.facts) :
    (timeoutWindow updated (tries.reverse.take attempts)).take attempts =
      (tries.map (·.replacedBy updated)).reverse.take attempts := by
  have hid : turn.id = updated.id := (congrArg TurnFacts.id same).symm
  have hhandle : updated.handle = turn.handle := congrArg TurnFacts.handle same
  have htime : updated.createdAt = turn.createdAt := congrArg TurnFacts.createdAt same
  obtain ⟨past, later, rfl⟩ := List.append_of_mem mem
  have hothers : ∀ other ∈ past ++ later, other.id ≠ updated.id := by
    rw [← hid]
    exact ids_ne_of_nodup ids
  have hrising : (past ++ updated :: later).Pairwise fun a b => a.createdAt < b.createdAt := by
    have hsame : (past ++ updated :: later).map (·.createdAt) =
        (past ++ turn :: later).map (·.createdAt) := by
      simp [htime]
    rwa [← List.pairwise_map (R := (· < ·)), hsame, List.pairwise_map]
  have hfalling := List.pairwise_reverse.mpr hrising
  rw [map_replacedBy_append hid hothers]
  simp only [List.reverse_append, List.reverse_cons, List.append_assoc, List.singleton_append]
    at hfalling ⊢
  refine take_timeoutWindow hid hfalling ?_
  intro other hother
  have hmem : other ∈ past ++ later := by
    simpa [or_comm] using hother
  rw [hhandle]
  refine ⟨hothers other hmem, handles other ?_⟩
  exact List.perm_middle.mem_iff.mpr (List.mem_cons_of_mem _ hmem)

theorem isExhausted_iff {window : List Turn} (positive : 0 < attempts)
    (same : window.take attempts = tries.reverse.take attempts) :
    (⟨attempts⟩ : TimeoutPolicy).isExhausted window = true ↔ UsesUp attempts tries := by
  have hlength : (tries.drop (tries.length - attempts)).length = attempts ↔
      attempts ≤ tries.length := by
    rw [List.length_drop]
    omega
  rw [TimeoutPolicy.isExhausted, same, List.take_reverse]
  simp only [positive, decide_true, Bool.true_and, List.length_reverse, List.all_reverse,
    Bool.and_eq_true, beq_iff_eq, hlength, List.all_eq_true, UsesUp]

end Window

namespace Visit

variable {visit : Visit} {step : FlowStep} {seen : OpenWorld} {tree : Tree} {store : Store}
  {session : Session} {turn : Turn}

theorem StandsIn.turnsAfter (h : visit.StandsIn store)
    (hupdated : step.updatedTurn = some visit.updated) (hchange : step.turnChange = visit.change) :
    step.turnsAfter store.turns =
      store.turns.map (·.replacedBy visit.updated) ++ step.nextTurn.toList := by
  have hreplaces := @StandsIn.replaces visit store
    { store with turns := Store.writtenTurns visit.write?.toList store.turns } h rfl
  rw [FlowStep.turnsAfter, write?_eq hupdated hchange, ← hreplaces.turns]

theorem IsTimeout.updated (h : visit.IsTimeout tree store session turn)
    (unanswered : turn.hasInput = false) : visit.updated = turn.markTimedOut := by
  rw [Visit.updated, h.leaving, h.turn]
  exact if_neg (by simp [unanswered])

theorem IsTimeout.saysGoodbye_iff (h : visit.IsTimeout tree store session turn)
    (positive : 0 < tree.config.finalTimeoutAttempts) (unanswered : turn.hasInput = false)
    (stored : turn ∈ store.turns) (owned : turn.session = session.id)
    (ids : (store.turns.map (·.id)).Nodup)
    (rising : (store.turnsOf session.id).Pairwise fun a b => a.createdAt < b.createdAt) :
    visit.saysGoodbye = true ↔
      UsesUp tree.config.finalTimeoutAttempts (store.triesWith turn.markTimedOut) := by
  rw [saysGoodbye, h.leaving, h.tree, h.updated unanswered]
  refine isExhausted_iff positive ?_
  have hmem : turn ∈ (store.turnsOf session.id).filter fun other => other.handle == turn.handle :=
    List.mem_filter.mpr ⟨List.mem_filter.mpr ⟨stored, beq_iff_eq.mpr owned⟩, beq_self_eq_true _⟩
  have hsame : turn.markTimedOut.facts = turn.facts := rfl
  rw [Store.latestTurns_eq]
  refine (take_timeoutWindow_tries ?_ (rising.sublist List.filter_sublist) ?_ hmem hsame).trans ?_
  · exact ids.sublist ((List.filter_sublist.trans List.filter_sublist).map _)
  · exact fun other hother => beq_iff_eq.mp (List.mem_filter.mp hother).2
  · rw [← owned]
    rfl

theorem step_of_goodbye {recent : List Turn} (leaving : visit.leaving = .timeout recent)
    (person : visit.session.isAnsweringMachine = false) (goodbye : visit.saysGoodbye = true) :
    visit.step = (do
      let verbs ← visit.scene.render visit.context visit.scene.tree.config.finalTimeoutMessage
      return {
        response := ⟨verbs ++ [.hangup]⟩
        outcome := .finalTimeout
        updatedTurn := some visit.updated
        turnChange := visit.change }) := by
  have hmachine : ¬visit.session.isAnsweringMachine = true := by simp [person]
  obtain ⟨scene, session, turn, _⟩ := visit
  obtain rfl : _ = Leaving.timeout recent := leaving
  exact (if_neg hmachine).trans (if_pos goodbye)

theorem StandsIn.letsGo {recent : List Turn} {turns : List Turn} (h : visit.StandsIn store)
    (leaving : visit.leaving = .timeout recent) (person : visit.session.isAnsweringMachine = false)
    (goodbye : visit.saysGoodbye = true) (hstep : visit.step = .ok step)
    (hturns : turns = step.turnsAfter store.turns) :
    visit.LetsGo store.turns turns ⟨step.response, step.outcome⟩ := by
  have hgoodbye := step_of_goodbye leaving person goodbye
  have hasked := hstep
  rw [hgoodbye] at hasked
  obtain ⟨verbs, hverbs, hsaid⟩ := bind_eq_ok.mp hasked
  obtain rfl := Except.ok.inj hsaid
  refine ⟨rfl, ⟨verbs, hverbs, rfl⟩, ?_, ?_⟩
  · rw [hturns, h.turnsAfter rfl rfl]
    exact List.append_nil _
  · intro prompts
    exact (@step_of_goodbye (visit.withPrompts prompts) recent leaving person goodbye).trans
      hgoodbye.symm

theorem StandsIn.followsRule {turns : List Turn} (h : visit.StandsIn store)
    (person : visit.session.isAnsweringMachine = false) (stays : visit.saysGoodbye = false)
    (hstep : visit.step = .ok step) (hturns : turns = step.turnsAfter store.turns) :
    visit.FollowsRule store.turns turns ⟨step.response, step.outcome⟩ := by
  rw [step_eq_followed person stays] at hstep
  obtain ⟨prompt, hprompt, hfollow⟩ := bind_eq_ok.mp hstep
  obtain ⟨transition, hresolve, hfollow⟩ := bind_eq_ok.mp hfollow
  obtain ⟨followed, hfollowed, hstored⟩ := bind_eq_ok.mp hfollow
  obtain rfl := Except.ok.inj hstored
  refine ⟨?_, prompt, transition, followed, FlowScene.findPrompt_eq_ok.mp hprompt,
    mapError_eq_ok.mp hresolve, hfollowed, rfl, hturns.trans (h.turnsAfter rfl rfl)⟩
  obtain ⟨_, _, ⟨_, rfl⟩ | ⟨_, _, _, rfl⟩⟩ := FlowScene.follow_eq_ok.mp hfollowed
  · nofun
  · nofun

end Visit

section Runs

open Service PhoneTree.Action

variable {registry : Registry} {name sid : String} {id : TurnId} {params : Params} {tree : Tree}
  {start seen final : OpenWorld} {session : Session} {turn : Turn} {visit : Visit} {reply : Reply}

theorem sessionById_of_sessionBySid {store : Store} (ids : (store.sessions.map (·.id)).Nodup)
    (call : store.sessionBySid sid = some session) :
    store.sessionById session.id = some session := by
  obtain ⟨row, hrow, rfl⟩ := Option.map_eq_some_iff.mp call
  have hfound := OpenWorld.find_of_nodup ids (List.mem_of_find?_eq_some hrow)
  exact congrArg (Option.map store.load) hfound

/-- A session that is read again under its identifier is the same, so that its change comes to the
same whatever races are lost on the way. -/
theorem updateSession_changes {α : Type} {change : Session → Session × Option α}
    {post : Session × Option α → OpenWorld → Prop}
    (call : start.store.sessionById session.id = some session)
    (hid : (change session).1.id = session.id)
    (done : ∀ version state', state'.store.turns = start.store.turns →
      post ({ (change session).1 with version }, (change session).2) state') :
    ConductsTurns (updateSession session change) start post := by
  refine @changeSession_loop α change session _ _ start
    (fun base later => base = session ∧ later.store.turns = start.store.turns ∧
      later.store.sessionById session.id = some session) post _ (maxAttempts - 1)
    ?_ (fun _ _ _ _ _ _ => trivial) ?_ ?_ ⟨rfl, rfl, call⟩
  · rintro base changed later ⟨rfl, hturns, _⟩ hchanged
    rw [hchanged] at done
    exact done changed.version later hturns
  · rintro base sent outcome later updated last ⟨rfl, hturns, _⟩ hsent
      (answered : later.Answers (.updateSession sent) (.ok updated) last)
    have hlast := OpenWorld.answers_turns answered (by simp [Question.part?])
    rw [hsent] at done
    cases OpenWorld.answers_updateSession answered with
    | stored calm found current => exact done sent.advance.version _ (hlast.trans hturns)
  · rintro base sent outcome later failure last ⟨rfl, hturns, hcall⟩ hsent
      (answered : later.Answers (.updateSession sent) (.error failure) last)
    have hlast := OpenWorld.answers_turns answered (by simp [Question.part?])
    have hrows : last.store.sessions = later.store.sessions := OpenWorld.answers_sessions answered
    have hagain : last.store.sessionById base.id = some base := by
      rw [← hcall, Store.sessionById, Store.sessionById, Store.sessionRow?_of_sessions hrows]
      congr 1
      funext row
      rw [Store.load, Store.load, Store.turnsOf_congr hlast]
    rw [hsent] at hid
    refine ⟨trivial, fun _ => ?_⟩
    refine ensures_bind.mpr (ensures_ask.mpr ⟨trivial, ?_⟩)
    rintro _ _ ⟨rfl, rfl⟩
    refine ensures_ofAnswer.mpr ?_
    have hread : last.world.store.sessionById sent.id = some base := hid.symm ▸ hagain
    simp only [World.answer, hread]
    exact ⟨trivial, hlast.trans hturns, hagain⟩

theorem findUpdatedCall_updates {post : Session → OpenWorld → Prop}
    (ids : (start.store.sessions.map (·.id)).Nodup) (about : params.get? "CallSid" = some sid)
    (call : start.store.sessionBySid sid = some session)
    (done : ∀ version state', state'.store.turns = start.store.turns →
      post { session.afterUpdate (.ofParams params) with version } state') :
    ConductsTurns (findUpdatedCall params) start post := by
  have hcall : ∀ other found, params.get? "CallSid" = some other →
      start.store.sessionBySid other = some found → found = session := by
    intro other found hother hfound
    obtain rfl := Option.some.inj (about.symm.trans hother)
    exact Option.some.inj (hfound.symm.trans call)
  refine findUpdatedCall_conductsTurns ?_ ?_
  · intro other found hother hfound hempty
    obtain rfl := hcall other found hother hfound
    rw [StatusUpdate.eq_of_isEmpty hempty] at done
    exact done found.version start rfl
  · intro other found hother hfound
    obtain rfl := hcall other found hother hfound
    refine updateSession_changes (sessionById_of_sessionBySid ids call) ?_ ?_
    · exact (Session.afterUpdate_revises found _).id_eq
    · intro version later hlater last hlast
      exact done version last (hlast.trans hlater)

theorem beforeTimeout_visits (registered : registry.get? name = some tree)
    (sessionIds : (start.store.sessions.map (·.id)).Nodup)
    (about : params.get? "CallSid" = some sid) (call : start.store.sessionBySid sid = some session)
    (found : start.store.turnById id = some turn) :
    ConductsTurns (beforeTimeout registry name id params) start fun visit seen =>
      visit.IsTimeout tree start.store (session.afterUpdate (.ofParams params)) turn ∧
        turn.session = session.id ∧ seen.store.turns = start.store.turns := by
  have hid : (session.afterUpdate (.ofParams params)).id = session.id :=
    (Session.afterUpdate_revises session _).id_eq
  refine conductsTurns_bind.mpr (findTree_rule ?_ fun _ => trivial)
  intro other hregistered
  obtain rfl := Option.some.inj (registered.symm.trans hregistered)
  refine conductsTurns_bind.mpr (findUpdatedCall_updates sessionIds about call ?_)
  intro version first hfirst
  refine conductsTurns_bind.mpr (findTurn_conductsTurns ?_)
  intro stored hstored hfound howned
  rw [hstored, Store.turnById, hfirst] at hfound
  obtain rfl := Option.some.inj (hfound.symm.trans found)
  refine conductsTurns_bind.mpr (ensures_ask.mpr ⟨trivial, ?_⟩)
  rintro _ _ ⟨rfl, rfl⟩
  refine conductsTurns_bind.mpr (ensures_ofAnswer.mpr ?_)
  refine conductsTurns_bind.mpr (loadScene_conductsTurns ?_)
  intro scene seen htree _ hseen
  refine ⟨⟨?_, htree, rfl, version, rfl⟩, howned.trans hid, ?_⟩
  · simp only [Store.latestTurns, ← hfirst]
    rfl
  · exact (congrArg Store.turns hseen).trans hfirst

/-- Where the turns of a call are in order, an answered timeout of a turn without input lets the
caller go if the last turns of the call on the prompt of that turn, as many as the tree allows
timeouts, have all timed out, with this turn counted among those that have. Otherwise it follows the
rule of the prompt. No store has two sessions or two turns with one identifier. -/
theorem latest_timeouts_end_the_call (accepted : tree.IsAccepted)
    (registered : registry.get? name = some tree)
    (sessionIds : (start.store.sessions.map (·.id)).Nodup)
    (turnIds : (start.store.turns.map (·.id)).Nodup) (about : params.get? "CallSid" = some sid)
    (call : start.store.sessionBySid sid = some session)
    (found : start.store.turnById id = some turn)
    (rising : (start.store.turnsOf session.id).Pairwise fun a b => a.createdAt < b.createdAt)
    (unanswered : turn.hasInput = false)
    (person : (session.afterUpdate (.ofParams params)).isAnsweringMachine = false)
    (run : Action.Runs OpenWorld.rules (Service.timeout registry name id params) start (.ok reply)
      final) :
    ∃ visit seen, Action.Runs OpenWorld.rules (beforeTimeout registry name id params) start
        (.ok visit) seen ∧
      visit.IsTimeout tree start.store (session.afterUpdate (.ofParams params)) turn ∧
      visit.updated = turn.markTimedOut ∧
      (UsesUp tree.config.finalTimeoutAttempts (start.store.triesWith turn.markTimedOut) →
        visit.LetsGo start.store.turns final.store.turns reply) ∧
      (¬UsesUp tree.config.finalTimeoutAttempts (start.store.triesWith turn.markTimedOut) →
        visit.FollowsRule start.store.turns final.store.turns reply) := by
  rw [timeout_eq] at run
  rcases Action.runs_bind.mp run with ⟨_, ⟨⟩, _⟩ | ⟨visit, seen, arrived, left⟩
  have hstands := (@arrival_standsIn default registry params (.timeout name id) _ start turnIds
    rfl).of_runs arrived
  obtain ⟨htimeout, howned, hturns⟩ :=
    (beforeTimeout_visits registered sessionIds about call found).of_runs arrived
  obtain ⟨step, hstep, rfl, hfinal⟩ := hstands.leaves.of_runs left
  have hid : (session.afterUpdate (.ofParams params)).id = session.id :=
    (Session.afterUpdate_revises session _).id_eq
  have hperson : visit.session.isAnsweringMachine = false := by
    obtain ⟨version, hsession⟩ := htimeout.session
    rw [hsession]
    exact person
  have hgoodbye := htimeout.saysGoodbye_iff accepted.attempts_pos unanswered
    (List.mem_of_find?_eq_some found) (howned.trans hid.symm) turnIds (by rwa [hid])
  rw [← hgoodbye, ← hturns]
  refine ⟨visit, seen, arrived, htimeout, htimeout.updated unanswered, ?_, ?_⟩
  · intro goodbye
    exact hstands.letsGo htimeout.leaving hperson goodbye hstep hfinal
  · intro stays
    exact hstands.followsRule hperson (eq_false_of_ne_true stays) hstep hfinal

end Runs

section Impatience

open Service

def impatientDraft : TreeDraft :=
  { loopDraft with config := { finalTimeoutAttempts := 1 } }

def impatientTree : Tree :=
  { loopTree with config := impatientDraft.config }

def askedCall : Session where
  id := ⟨.ofNat 1⟩
  sid := "CA0"
  direction := .inbound
  treeName := "main"
  caller := ⟨.ofNat 2⟩
  details := {}
  createdAt := ⟨0⟩

def askedTurn (number : Nat) (digits : Option String) : Turn where
  id := ⟨.ofNat number⟩
  session := askedCall.id
  handle := ⟨"question"⟩
  digits
  createdAt := ⟨number⟩

/-- A question that was answered when it was asked first. -/
def askedWorld : World where
  store := { sessions := [askedCall], turns := [askedTurn 3 (some "7"), askedTurn 4 none] }
  nextId := 5

def askedTimeout : Except CallError Reply × World :=
  World.perform (Service.timeout ⟨[impatientTree]⟩ "main" ⟨.ofNat 4⟩ loopParams) askedWorld

theorem one_timeout_is_enough :
    ∃ reply, askedTimeout.1 = .ok reply ∧ ∃ visit : Visit,
      visit.updated = (askedTurn 4 none).markTimedOut ∧
        visit.LetsGo askedWorld.store.turns askedTimeout.2.store.turns reply := by
  have hok : askedTimeout.1.isOk = true := by decide +kernel
  have hrun : Action.Runs OpenWorld.rules
      (Service.timeout ⟨[impatientTree]⟩ "main" ⟨.ofNat 4⟩ loopParams) (.ofWorld askedWorld)
        askedTimeout.1 (.ofWorld askedTimeout.2) :=
    OpenWorld.runs_perform _ askedWorld (by decide +kernel)
  generalize askedTimeout = answered at hok hrun ⊢
  obtain ⟨_ | reply, final⟩ := answered
  · cases hok
  · obtain ⟨visit, _, _, _, hupdated, letsGo, _⟩ := latest_timeouts_end_the_call
      ⟨impatientDraft, rfl⟩ rfl (by decide) (by decide) rfl rfl rfl (by decide) rfl rfl hrun
    exact ⟨reply, rfl, visit, hupdated, letsGo (by decide)⟩

end Impatience

end PhoneTree

import PhoneTree.Proofs.TimeoutWindow

namespace PhoneTree

namespace FlowScene

/-- Whether a turn is another one than a turn, on the same prompt. -/
def isBeside (turn other : Turn) : Bool :=
  other.id != turn.id && other.handle == turn.handle

/-- The recent turns beside a turn, those before it and those after it, from the earliest to the
latest. Of turns with the same time this one counts as the latest. -/
structure Surrounds (turn : Turn) (recent earlier later : List Turn) : Prop where
  others : (earlier ++ later).Perm (recent.filter (isBeside turn))
  rising : (earlier ++ turn :: later).Pairwise fun a b => a.createdAt ≤ b.createdAt
  after : ∀ other ∈ later, turn.createdAt < other.createdAt

/-- The last turns on a prompt use up the timeouts that the tree allows. -/
def GivesUpAfter (scene : FlowScene) (tries : List Turn) : Prop :=
  0 < scene.tree.config.finalTimeoutAttempts ∧
    UsesUp scene.tree.config.finalTimeoutAttempts tries

/-- A step lets the caller go with the final message of the tree. -/
structure LetsGo (scene : FlowScene) (session : Session) (turn : Turn) (step : FlowStep) : Prop where
  outcome : step.outcome = .finalTimeout
  response : ∃ verbs, scene.render (scene.context (session.recordTurn turn) (some turn))
      scene.tree.config.finalTimeoutMessage = .ok verbs ∧
    step.response = ⟨verbs ++ [⟨.hangup, [], none, []⟩]⟩
  ends : step.nextTurn = none

/-- A step leads where the rule of the prompt of a turn leads. -/
structure FollowsRule (scene : FlowScene) (session : Session) (turn : Turn) (step : FlowStep) :
    Prop where
  outcome : step.outcome ≠ .finalTimeout
  rule : ∃ prompt transition followed, scene.tree.prompt? turn.handle = some prompt ∧
    prompt.after.resolve (scene.context (session.recordTurn turn) (some turn)) = .ok transition ∧
    scene.follow (session.recordTurn turn)
      (scene.context (session.recordTurn turn) (some turn)) transition = .ok followed ∧
    step.response = followed.response ∧ step.outcome = followed.outcome ∧
    step.nextTurn = followed.nextTurn

variable {scene : FlowScene} {session : Session} {turn : Turn} {recent earlier later : List Turn}
  {step : FlowStep} {attempts : Nat}

section Window

/-- What is looked at is the turn and the turns beside it, the latest first. -/
theorem timeoutWindow_surrounds (turn : Turn) (recent : List Turn) :
    ∃ earlier later, Surrounds turn recent earlier later ∧
      timeoutWindow turn recent = (earlier ++ turn :: later).reverse := by
  obtain ⟨above, below, hwindow, hothers, habove⟩ :=
    List.mergeSort_cons latestFirst_trans latestFirst_total turn (recent.filter (isBeside turn))
  change timeoutWindow turn recent = above ++ turn :: below at hwindow
  have hsame : (below.reverse ++ turn :: above.reverse).reverse = above ++ turn :: below := by simp
  refine ⟨below.reverse, above.reverse, ⟨?_, ?_, ?_⟩, hwindow.trans hsame.symm⟩
  · rw [← List.reverse_append, ← hothers]
    exact (List.reverse_perm _).trans (List.mergeSort_perm _ _)
  · refine List.pairwise_reverse.mp ?_
    rw [hsame, ← hwindow]
    exact (List.pairwise_mergeSort latestFirst_trans latestFirst_total _).imp of_decide_eq_true
  · intro other hother
    have hlater := habove other (List.mem_reverse.mp hother)
    rw [Bool.not_eq_true', decide_eq_false_iff_not] at hlater
    exact Int.not_le.mp hlater

theorem timeoutWindow_stored
    (falling : (later ++ turn :: earlier).Pairwise fun a b => b.createdAt < a.createdAt)
    (others : ∀ other ∈ later ++ earlier, other.id ≠ turn.id ∧ other.handle = turn.handle) :
    timeoutWindow turn (later ++ turn :: earlier) = later ++ turn :: earlier :=
  (timeoutWindow_skip rfl).trans (timeoutWindow_eq falling others)

theorem isExhausted_reverse_iff {tries : List Turn} :
    (⟨attempts⟩ : TimeoutPolicy).isExhausted tries.reverse = true ↔
      0 < attempts ∧ UsesUp attempts tries := by
  rcases Nat.eq_zero_or_pos attempts with rfl | positive
  · simp [TimeoutPolicy.isExhausted]
  · rw [isExhausted_iff positive rfl, and_iff_right positive]

theorem Surrounds.length_later (h : Surrounds turn recent earlier later) :
    later.length = (recent.filter (isBeside turn)).countP fun other =>
      decide (turn.createdAt < other.createdAt) := by
  have hearlier : earlier.countP (fun other => decide (turn.createdAt < other.createdAt)) = 0 := by
    refine List.countP_eq_zero.mpr ?_
    intro other hother hless
    have hle := (List.pairwise_append.mp h.rising).2.2 other hother turn (by simp)
    exact Int.not_lt.mpr hle (of_decide_eq_true hless)
  have hlater : later.countP (fun other => decide (turn.createdAt < other.createdAt)) =
      later.length :=
    List.countP_eq_length.mpr fun other hother => decide_eq_true (h.after other hother)
  rw [← h.others.countP_eq, List.countP_append, hearlier, hlater, Nat.zero_add]

theorem le_length_later (waiting : turn.timedOut = false)
    (h : UsesUp attempts (earlier ++ turn :: later)) : attempts ≤ later.length := by
  refine Nat.not_lt.mp fun hmore => ?_
  have hmem : turn ∈ (earlier ++ turn :: later).drop
      ((earlier ++ turn :: later).length - attempts) := by
    rw [List.drop_append_of_le_length]
    · simp
    · rw [List.length_append, List.length_cons]
      omega
  rw [h.2 turn hmem] at waiting
  cases waiting

end Window

/-- The farewell of a tree, with a turn as it is. -/
def farewell (scene : FlowScene) (session : Session) (turn : Turn) : Except FlowError FlowStep := do
  let verbs ← scene.render (scene.context (session.recordTurn turn) (some turn))
    scene.tree.config.finalTimeoutMessage
  return { response := ⟨verbs ++ [.hangup]⟩, outcome := .finalTimeout, updatedTurn := some turn }

theorem onTimeout_of_answered (person : session.isAnsweringMachine = false)
    (answered : turn.hasInput = true) (recent : List Turn) :
    scene.onTimeout session turn recent =
      if (⟨scene.tree.config.finalTimeoutAttempts⟩ : TimeoutPolicy).isExhausted
        (timeoutWindow turn recent)
      then scene.farewell session turn
      else scene.leavePrompt session turn none := by
  have hmachine : ¬session.isAnsweringMachine = true := by simp [person]
  have hsame : timedOutTurn turn = turn := if_pos answered
  have hchange : timeoutChange turn = none := timeoutChange_eq_none.mpr hsame
  simp only [onTimeout, if_neg hmachine, hsame, hchange]
  rfl

/-- A timeout for an answered turn leaves the turn as it is. If the last turns on the prompt, as many
as the tree allows timeouts and this one counted among them in its place, have all timed out, the
caller is let go; otherwise the rule of the prompt is followed. -/
theorem late_timeouts_change_no_answer (person : session.isAnsweringMachine = false)
    (answered : turn.hasInput = true) (taken : scene.onTimeout session turn recent = .ok step) :
    step.updatedTurn = some turn ∧ step.turnChange = none ∧
      ∃ earlier later, Surrounds turn recent earlier later ∧
        (scene.GivesUpAfter (earlier ++ turn :: later) → scene.LetsGo session turn step) ∧
        (¬scene.GivesUpAfter (earlier ++ turn :: later) →
          scene.FollowsRule session turn step) := by
  obtain ⟨earlier, later, hsurrounds, hwindow⟩ := timeoutWindow_surrounds turn recent
  rw [onTimeout_of_answered person answered, hwindow] at taken
  split at taken
  · rename_i hexhausted
    rw [isExhausted_reverse_iff] at hexhausted
    obtain ⟨verbs, hverbs, hstep⟩ := bind_eq_ok.mp taken
    obtain rfl := Except.ok.inj hstep
    refine ⟨rfl, rfl, earlier, later, hsurrounds, ?_, fun hleft => absurd hexhausted hleft⟩
    exact fun _ => ⟨rfl, ⟨verbs, hverbs, rfl⟩, rfl⟩
  · rename_i hleft
    rw [isExhausted_reverse_iff] at hleft
    obtain ⟨prompt, transition, followed, hprompt, hresolve, hfollow, rfl⟩ :=
      leavePrompt_eq_ok.mp taken
    refine ⟨rfl, rfl, earlier, later, hsurrounds, fun hall => absurd hall hleft, ?_⟩
    refine fun _ => ⟨?_, prompt, transition, followed, hprompt, hresolve, hfollow, rfl, rfl, rfl⟩
    obtain ⟨_, _, ⟨_, rfl⟩ | ⟨_, _, _, rfl⟩⟩ := follow_eq_ok.mp hfollow
    · nofun
    · nofun

end FlowScene

section Outlasting

def loopScene : FlowScene where
  tree := loopTree
  freshTurn := ⟨.ofNat 9⟩
  now := ⟨9⟩

/-- A turn on the question that was answered with `7`. -/
def answeredTurn : Turn :=
  askedTurn 4 (some "7")

/-- A question that was answered between two that were not. -/
def mixedTurns : List Turn :=
  [(askedTurn 5 none).markTimedOut] ++ answeredTurn :: [(askedTurn 3 none).markTimedOut]

theorem mixedTurns_follow_the_rule :
    ∃ step, loopScene.onTimeout askedCall answeredTurn mixedTurns = .ok step ∧
      step.updatedTurn = some answeredTurn ∧
        loopScene.FollowsRule askedCall answeredTurn step := by
  have hok : (loopScene.onTimeout askedCall answeredTurn mixedTurns).isOk = true := by
    rw [FlowScene.onTimeout_of_answered rfl rfl, mixedTurns,
      FlowScene.timeoutWindow_stored (by decide) (by decide)]
    decide +kernel
  obtain ⟨step, htaken⟩ := exists_of_isOk hok
  obtain ⟨hupdated, -, _, later, hsurrounds, -, follows⟩ :=
    FlowScene.late_timeouts_change_no_answer rfl rfl htaken
  refine ⟨step, htaken, hupdated, follows ?_⟩
  rintro ⟨_, hspent⟩
  have hmore : 2 ≤ later.length := FlowScene.le_length_later rfl hspent
  have hone : later.length = 1 := hsurrounds.length_later.trans (by decide)
  omega

/-- An answered question that was asked twice again, in vain. -/
def outlivedTurns : List Turn :=
  [(askedTurn 6 none).markTimedOut, (askedTurn 5 none).markTimedOut] ++ answeredTurn :: []

/-- The caller may be let go by a timeout for a turn that has been answered. -/
theorem outlivedTurn_is_let_go :
    ¬ ∀ (scene : FlowScene) (session : Session) (turn : Turn) (recent : List Turn)
      (step : FlowStep), session.isAnsweringMachine = false → turn.hasInput = true →
        scene.onTimeout session turn recent = .ok step → step.outcome ≠ .finalTimeout := by
  intro never
  have hlast : (loopScene.onTimeout askedCall answeredTurn outlivedTurns).toOption.map
      (·.outcome) = some .finalTimeout := by
    rw [FlowScene.onTimeout_of_answered rfl rfl, outlivedTurns,
      FlowScene.timeoutWindow_stored (by decide) (by decide)]
    decide +kernel
  cases htaken : loopScene.onTimeout askedCall answeredTurn outlivedTurns with
  | error error =>
      rw [htaken] at hlast
      cases hlast
  | ok step =>
      rw [htaken] at hlast
      exact never _ _ _ _ step rfl rfl htaken (Option.some.inj hlast)

end Outlasting

end PhoneTree

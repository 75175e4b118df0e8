import PhoneTree.Proofs.References

namespace PhoneTree

/-- A piece of work is for a session or for a recording of it. -/
def Job.IsOf (store : Store) (session : SessionId) : Job → Prop
  | .unansweredCall id | .finishedCall id => id = session
  | .attachRecording id => ∃ recording ∈ store.recordings,
      recording.id = id ∧ recording.session = session

namespace Store

/-- What is stored about calls other than one is as before, and so is every caller. -/
structure Spares (sid? : Option String) (store store' : Store) : Prop where
  sessions : (store'.sessions.filter fun session => sid? ≠ some session.sid) =
    store.sessions.filter fun session => sid? ≠ some session.sid
  turns : ∀ session ∈ store.sessions, sid? ≠ some session.sid →
    store'.turnsOf session.id = store.turnsOf session.id
  recordings : ∀ session ∈ store.sessions, sid? ≠ some session.sid →
    store'.recordingsOf session.id = store.recordingsOf session.id
  callers : store.callers <+: store'.callers

/-- The session of an identifier, if it is stored, is that of a call. -/
def IsOwn (sid? : Option String) (store : Store) (id : SessionId) : Prop :=
  ∀ session ∈ store.sessions, session.id = id → sid? = some session.sid

section Lists

variable {p : Session → Bool} {q : Turn → Bool} {r : Recording → Bool}

theorem filter_putRow {row : Session} {rows : List Session} (hrow : p row = false)
    (hrows : ∀ other ∈ rows, other.id = row.id → p other = false) :
    (putRow row rows).filter p = rows.filter p := by
  induction rows with
  | nil => simp [putRow, hrow]
  | cons other rest ih =>
      have hrest := ih fun other hother => hrows other (List.mem_cons_of_mem _ hother)
      rw [putRow]
      split
      · rename_i hid
        simp [hrow, hrows other List.mem_cons_self hid]
      · rw [List.filter_cons, List.filter_cons, hrest]

theorem filter_putRecording {recording : Recording} {recordings : List Recording}
    (hrecording : r recording = false)
    (hrecordings : ∀ other ∈ recordings, other.id = recording.id → r other = false) :
    (putRecording recording recordings).filter r = recordings.filter r := by
  induction recordings with
  | nil => simp [putRecording, hrecording]
  | cons other rest ih =>
      have hrest := ih fun other hother => hrecordings other (List.mem_cons_of_mem _ hother)
      rw [putRecording]
      split
      · rename_i hid
        simp [hrecording, hrecordings other List.mem_cons_self hid]
      · rw [List.filter_cons, List.filter_cons, hrest]

theorem filter_modifyTurn {id : TurnId} {change : Turn → Turn} {turns : List Turn}
    (h : ∀ turn ∈ turns, turn.id = id → q turn = false ∧ q (change turn) = false) :
    (modifyTurn id change turns).filter q = turns.filter q := by
  induction turns with
  | nil => rfl
  | cons turn rest ih =>
      have hrest := ih fun other hother => h other (List.mem_cons_of_mem _ hother)
      rw [modifyTurn]
      split
      · rename_i hid
        obtain ⟨hbefore, hafter⟩ := h turn List.mem_cons_self hid
        simp [hbefore, hafter]
      · rw [List.filter_cons, List.filter_cons, hrest]

end Lists

variable {sid? : Option String} {store store' : Store} {past : List Exchange}
  {exchange : Exchange}

theorem mem_foreign {session : Session} :
    (session ∈ store.sessions.filter fun session => sid? ≠ some session.sid) ↔
      session ∈ store.sessions ∧ sid? ≠ some session.sid := by
  simp

theorem Spares.of_same (sessions : store'.sessions = store.sessions)
    (turns : store'.turns = store.turns) (recordings : store'.recordings = store.recordings)
    (callers : store.callers <+: store'.callers) : store.Spares sid? store' := by
  refine ⟨by rw [sessions], ?_, ?_, callers⟩
  · intro session _ _
    rw [turnsOf, turnsOf, turns]
  · intro session _ _
    rw [recordingsOf, recordingsOf, recordings]

theorem Spares.refl (store : Store) : store.Spares sid? store :=
  .of_same rfl rfl rfl (List.prefix_refl _)

theorem Spares.trans {third : Store} (h : store.Spares sid? store')
    (h' : store'.Spares sid? third) : store.Spares sid? third := by
  -- the sessions of other calls are the same ones in between
  have hbetween : ∀ session ∈ store.sessions, sid? ≠ some session.sid →
      session ∈ store'.sessions := by
    intro session hsession hforeign
    have hmem := mem_foreign.mpr ⟨hsession, hforeign⟩
    rw [← h.sessions] at hmem
    exact (mem_foreign.mp hmem).1
  refine ⟨h'.sessions.trans h.sessions, ?_, ?_, h.callers.trans h'.callers⟩
  · intro session hsession hforeign
    rw [h'.turns session (hbetween session hsession hforeign) hforeign,
      h.turns session hsession hforeign]
  · intro session hsession hforeign
    rw [h'.recordings session (hbetween session hsession hforeign) hforeign,
      h.recordings session hsession hforeign]

theorem Spares.of_sessions {session : Session} (hsid : sid? = some session.sid)
    (hown : store.IsOwn sid? session.id)
    (hstore : store' = { store with sessions := putRow (row session) store.sessions }) :
    store.Spares sid? store' := by
  subst hstore
  refine ⟨?_, fun _ _ _ => rfl, fun _ _ _ => rfl, List.prefix_refl _⟩
  refine filter_putRow ?_ ?_
  · simp [row, hsid]
  · intro other hother hid
    simp [← hown other hother hid]

theorem Spares.of_turns {turns : List Turn}
    (h : ∀ id, ¬store.IsOwn sid? id →
      (turns.filter fun turn => turn.session == id) = store.turnsOf id)
    (hstore : store' = { store with turns }) : store.Spares sid? store' := by
  subst hstore
  refine ⟨rfl, ?_, fun _ _ _ => rfl, List.prefix_refl _⟩
  intro session hsession hforeign
  exact h session.id fun hown => hforeign (hown session hsession rfl)

theorem Spares.of_change {id : TurnId} {change : Turn → Turn}
    (hfacts : ∀ turn, (change turn).facts = turn.facts)
    (hown : ∀ turn ∈ store.turns, turn.id = id → store.IsOwn sid? turn.session)
    (hstore : store' = { store with turns := modifyTurn id change store.turns }) :
    store.Spares sid? store' := by
  refine .of_turns ?_ hstore
  intro session hforeign
  refine filter_modifyTurn ?_
  intro turn hturn hid
  have hsession : (change turn).session = turn.session := congrArg TurnFacts.session (hfacts turn)
  have hother : turn.session ≠ session := fun hsame => hforeign (hsame ▸ hown turn hturn hid)
  exact ⟨beq_eq_false_iff_ne.mpr hother, beq_eq_false_iff_ne.mpr (hsession ▸ hother)⟩

theorem Spares.of_recording {recording : Recording} (hown : store.IsOwn sid? recording.session)
    (hsame : ∀ other ∈ store.recordings, other.id = recording.id →
      other.session = recording.session)
    (hstore : store' =
      { store with recordings := putRecording recording store.recordings }) :
    store.Spares sid? store' := by
  subst hstore
  refine ⟨rfl, fun _ _ _ => rfl, ?_, List.prefix_refl _⟩
  intro session hsession hforeign
  have hother : recording.session ≠ session.id := by
    intro hid
    exact hforeign (hown session hsession hid.symm)
  refine filter_putRecording (beq_eq_false_iff_ne.mpr hother) ?_
  intro other hmem hid
  rw [hsame other hmem hid]
  exact beq_eq_false_iff_ne.mpr hother

theorem Recalls.isOwn {id : SessionId} (h : store.Recalls past) (hcoherent : store.Coherent)
    (hconcerns : Concerns (fun session => sid? = some session.sid) past id) :
    store.IsOwn sid? id := by
  obtain ⟨call, hcall, rfl, session, hsid, rfl⟩ := h.concerns hconcerns
  intro other hother hid
  have hsame : other.facts = session.facts :=
    OpenWorld.eq_of_nodup hcoherent.sessions.ids (List.mem_map_of_mem hother) hcall hid
  rw [hsid, show other.sid = session.sid from congrArg CallFacts.sid hsame]

theorem Recalls.isOwn_turn {id : TurnId} (h : store.Recalls past) (hcoherent : store.Coherent)
    (hconcerns : ConcernsTurn (fun session => sid? = some session.sid) past id) :
    ∀ turn ∈ store.turns, turn.id = id → store.IsOwn sid? turn.session := by
  obtain ⟨told, htold, rfl, hsession⟩ := hconcerns
  intro turn hturn hid
  have hsame : turn.facts = told.facts :=
    OpenWorld.eq_of_nodup hcoherent.turns.ids (List.mem_map_of_mem hturn) (h.turn htold) hid
  rw [show turn.session = told.session from congrArg TurnFacts.session hsame]
  exact h.isOwn hcoherent hsession

/-- Whoever ties what it writes to one call spares the others. -/
theorem Coherent.spares (h : store.Coherent) (recalls : store.Recalls past)
    (tied : Tied (fun session => sid? = some session.sid) past exchange.1)
    (freeSession : ∀ session, exchange.1 = .saveSession session →
      ∀ row ∈ store.sessions, row.id ≠ session.id)
    (freeRecording : ∀ recording, exchange.1 = .saveRecording recording →
      ∀ other ∈ store.recordings, other.id ≠ recording.id)
    (took : store.Took exchange store') : store.Spares sid? store' := by
  cases took with
  | read sessions turns recordings callers tells =>
      exact .of_same sessions turns recordings (callers ▸ List.prefix_refl _)
  | @save session new =>
      refine .of_sessions tied.1 ?_ rfl
      exact fun other hother hid => absurd hid (freeSession session rfl other hother)
  | @update session stored found =>
      have hown := recalls.isOwn h tied.1
      obtain ⟨other, hother, hfacts⟩ := List.mem_map.mp (recalls.sent h.sessions.ids tied.2).1
      have hid : other.id = session.id := congrArg CallFacts.id hfacts
      have hsid : other.sid = session.sid := congrArg CallFacts.sid hfacts
      have hadvanced : sid? = some session.advance.sid :=
        (hown other hother hid).trans (congrArg some hsid)
      exact .of_sessions hadvanced hown rfl
  | @begin turn new =>
      have hown := recalls.isOwn h tied.2
      refine .of_turns ?_ rfl
      intro id hforeign
      have hother : turn.session ≠ id := fun hsame => hforeign (hsame ▸ hown)
      simp [turnsOf, hother]
  | input => exact .of_change (fun turn => turn.merge_facts _) (recalls.isOwn_turn h tied) rfl
  | timeout => exact .of_change Turn.markTimedOut_facts (recalls.isOwn_turn h tied) rfl
  | attach =>
      obtain ⟨told, htold, hid, hsession, _⟩ := tied
      refine .of_change (fun turn => by split <;> rfl) ?_ rfl
      exact recalls.isOwn_turn h ⟨told, htold, hid, hsession⟩
  | @receive recording new =>
      refine .of_recording (recalls.isOwn h tied.2) ?_ rfl
      exact fun other hother hid => absurd hid (freeRecording recording rfl other hother)
  | @fetch recording stored found =>
      obtain ⟨⟨kept, hkept, hfacts⟩, habout⟩ := tied
      refine .of_recording (fun session hsession hid => habout session hid) ?_ rfl
      intro other hother hid
      have hmem : recording.facts ∈ store.recordingFacts := hfacts ▸ recalls.recording hkept
      have hsame : other.facts = recording.facts :=
        OpenWorld.eq_of_nodup h.recordings.ids (List.mem_map_of_mem hother) hmem hid
      have hsession : other.facts.session = recording.facts.session :=
        congrArg Recording.session hsame
      exact hsession
  | meet new => exact .of_same rfl rfl rfl (List.prefix_append _ _)

theorem Recalls.isOf {job : Job} (h : store.Recalls past)
    (hjob : job.IsFor (fun session => sid? = some session.sid) past) :
    ∃ session ∈ store.sessions, sid? = some session.sid ∧ job.IsOf store session.id := by
  have hfound : ∀ id, Concerns (fun session => sid? = some session.sid) past id →
      ∃ session ∈ store.sessions, sid? = some session.sid ∧ id = session.id := by
    intro id hconcerns
    obtain ⟨call, hcall, rfl, told, hsid, hfacts⟩ := h.concerns hconcerns
    obtain ⟨session, hsession, hsame⟩ := List.mem_map.mp hcall
    have hcalled : told.sid = session.sid := congrArg CallFacts.sid (hfacts.trans hsame.symm)
    exact ⟨session, hsession, hcalled ▸ hsid, (congrArg CallFacts.id hsame).symm⟩
  cases job with
  | unansweredCall id | finishedCall id => exact hfound id hjob
  | attachRecording id =>
      obtain ⟨kept, hkept, rfl, hconcerns⟩ := hjob
      obtain ⟨session, hsession, hsid, hid⟩ := hfound kept.session hconcerns
      obtain ⟨recording, hrecording, hfacts⟩ := List.mem_map.mp (h.recording hkept)
      have hsame : recording.facts.session = kept.facts.session := congrArg Recording.session hfacts
      refine ⟨session, hsession, hsid, recording, hrecording, ?_, hsame.trans hid⟩
      have hkeptId : recording.facts.id = kept.facts.id := congrArg Recording.id hfacts
      exact hkeptId

theorem Grows.isOf {job : Job} (h : store.Grows store')
    (hwork : ∃ session ∈ store.sessions, sid? = some session.sid ∧ job.IsOf store session.id) :
    ∃ session ∈ store'.sessions, sid? = some session.sid ∧ job.IsOf store' session.id := by
  obtain ⟨session, hsession, hsid, hjob⟩ := hwork
  obtain ⟨session', hsession', hfacts⟩ := List.mem_map.mp (h.calls (List.mem_map_of_mem hsession))
  have hid : session'.id = session.id := congrArg CallFacts.id hfacts
  have hcalled : session'.sid = session.sid := congrArg CallFacts.sid hfacts
  refine ⟨session', hsession', hcalled ▸ hsid, ?_⟩
  rw [hid]
  cases job with
  | unansweredCall id | finishedCall id => exact hjob
  | attachRecording id =>
      obtain ⟨recording, hrecording, hkept, howned⟩ := hjob
      obtain ⟨recording', hrecording', hsame⟩ :=
        List.mem_map.mp (h.recordings (List.mem_map_of_mem hrecording))
      have hrecordingId : recording'.facts.id = recording.facts.id := congrArg Recording.id hsame
      have hrecordingOwner : recording'.facts.session = recording.facts.session :=
        congrArg Recording.session hsame
      exact ⟨recording', hrecording', hrecordingId.trans hkept, hrecordingOwner.trans howned⟩

end Store

/-- From one state to another nothing happens to calls other than one, and work is left for that
call alone. -/
structure OpenWorld.KeepsApart (sid? : Option String) (state state' : OpenWorld) : Prop where
  spares : state.store.Spares sid? state'.store
  work : ∃ jobs, state'.world.scheduled = state.world.scheduled ++ jobs ∧
    ∀ entry ∈ jobs, ∃ session ∈ state'.store.sessions,
      sid? = some session.sid ∧ entry.1.IsOf state'.store session.id

namespace OpenWorld

variable {sid? : Option String} {state state' : OpenWorld}

theorem KeepsApart.refl (state : OpenWorld) : state.KeepsApart sid? state :=
  ⟨.refl _, [], (List.append_nil _).symm, fun _ hentry => absurd hentry List.not_mem_nil⟩

theorem KeepsApart.trans {third : OpenWorld} (h : state.KeepsApart sid? state')
    (h' : state'.KeepsApart sid? third) (grows : state'.store.Grows third.store) :
    state.KeepsApart sid? third := by
  obtain ⟨jobs, hjobs, hown⟩ := h.work
  obtain ⟨jobs', hjobs', hown'⟩ := h'.work
  refine ⟨h.spares.trans h'.spares, jobs ++ jobs', ?_, ?_⟩
  · rw [hjobs', hjobs, List.append_assoc]
  · intro entry hentry
    rcases List.mem_append.mp hentry with hentry | hentry
    · exact grows.isOf (hown entry hentry)
    · exact hown' entry hentry

end OpenWorld

section Runs

variable {account : Service.Account} {registry : Registry} {start : OpenWorld}
  {log : List (Nat × Exchange)} {pool : Pool Command Outcome} {webhook : Webhook}
  {params : Params}

/-- One step of a webhook, whoever else is under way. -/
theorem Reaches.keepsApart {index : Nat} {past : List Exchange} {question : Question}
    {next : question.Answer → Dialogue Question Question.Answer (Except CallError Outcome)}
    {answer : question.Answer} {state : OpenWorld} (empty : start.store = {})
    (run : Reaches (fun command : Command => command.action account registry) start log pool)
    (waiting : pool.threads[index]? = some ⟨.webhook webhook params, past, .ask question next⟩)
    (answered : pool.state.Answers question answer state) :
    pool.state.KeepsApart params.callSid? state ∧ pool.state.store.Grows state.store := by
  have alone := Command.ties account registry
  have hunique : pool.Unique := run.unique alone (Pool.unique_of_empty empty)
  have hcoherent : pool.Coherent := run.coherent_of_empty empty
  have tied : Tied (fun session => params.callSid? = some session.sid) past question :=
    run.tied alone waiting
  have recalls : pool.state.store.Recalls past :=
    hcoherent.recalls _ (List.mem_of_getElem? waiting)
  have took := OpenWorld.took_of_answers answered
  obtain ⟨-, hgrows, -⟩ := hcoherent.took hunique tied waiting answered
  refine ⟨⟨?_, _, OpenWorld.answers_scheduled answered, ?_⟩, hgrows⟩
  · exact hcoherent.store.spares recalls tied (hunique.freeSession tied waiting)
      (hunique.freeRecording tied waiting) took
  · intro entry hentry
    cases question with
    | schedule job delay =>
        obtain rfl := List.mem_singleton.mp hentry
        exact hgrows.isOf (recalls.isOf tied)
    | _ => cases hentry

/-- Whatever a webhook comes to, and in whatever state it finds the world, everything about other
calls is afterwards as it was, and work is left only for the call that its request names. -/
theorem calls_are_kept_apart {result : Except CallError Outcome} {state : OpenWorld}
    (empty : start.store = {})
    (before : Reaches (fun command : Command => command.action account registry) start log pool)
    (ran : Action.Runs OpenWorld.rules (webhook.action account registry params) pool.state result
      state) :
    pool.state.KeepsApart params.callSid? state := by
  have hrun : Action.Runs OpenWorld.rules
      (Command.action account registry (.webhook webhook params)) pool.state result state := ran
  have hwhole := @Reaches.alone _ _ _ _ _ _ _ _ _
    (fun state state' => state.KeepsApart params.callSid? state' ∧ state.store.Grows state'.store)
    (fun state => ⟨.refl state, .refl _⟩)
    (fun h h' => ⟨h.1.trans h'.1 h'.2, h.2.trans h'.2⟩)
    (fun run waiting answered => run.keepsApart empty waiting answered) before hrun
  exact hwhole.1

end Runs

section Beside

def besideAccount : Service.Account :=
  { (default : Service.Account) with attachRecordings := true }

def otherCall : Command :=
  .webhook (.inbound "main") ⟨[("CallSid", "CA1"), ("From", "+12025550124")]⟩

/-- Two calls that have come in one after the other. -/
def beside : List (Nat × Exchange) × Pool Command Outcome :=
  Pool.play []
    { state := .ofWorld {}
      threads := [.webhook (.inbound "main") questionParams, otherCall].map fun command =>
        { origin := command, rest := (command.action besideAccount ⟨[questionTree]⟩).run } }
    (List.replicate 20 0 ++ List.replicate 20 1)

theorem beside_reaches :
    Reaches (fun command : Command => command.action besideAccount ⟨[questionTree]⟩) (.ofWorld {})
      beside.1 beside.2 :=
  Reaches.play ((Reaches.nothing.begin _).begin otherCall) rfl (by decide +kernel)

theorem beside_counted : beside.2.state = .ofWorld beside.2.state.world := by
  rw [beside]
  exact Pool.play_counted _ _ rfl

/-- A recording of the first of the two. -/
def besideParams : Params :=
  ⟨[("CallSid", "CA0"), ("RecordingSid", "RE0"), ("RecordingUrl", "https://api.example/RE0")]⟩

def besideRecording : Except CallError Outcome × World :=
  World.perform ((Webhook.receiveRecording ⟨.ofNat 3⟩).action besideAccount ⟨[questionTree]⟩ besideParams)
    beside.2.state.world

/-- The recording goes to the first call, and the second stays as it was. -/
theorem besideRecording_spares_the_other :
    (besideRecording.2.store.turns.map fun turn => turn.recording.isSome) = [true, false] ∧
      besideRecording.2.scheduled.length = beside.2.state.world.scheduled.length + 1 ∧
        beside.2.state.KeepsApart (some "CA0") (.ofWorld besideRecording.2) := by
  refine ⟨by decide +kernel, by decide +kernel, ?_⟩
  have hran : Action.Runs OpenWorld.rules
      ((Webhook.receiveRecording ⟨.ofNat 3⟩).action besideAccount ⟨[questionTree]⟩ besideParams)
        beside.2.state besideRecording.1 (.ofWorld besideRecording.2) := by
    rw [beside_counted]
    exact OpenWorld.runs_perform _ _ (by decide +kernel)
  have hapart := calls_are_kept_apart rfl beside_reaches hran
  rwa [show besideParams.callSid? = some "CA0" by decide +kernel] at hapart

end Beside

end PhoneTree

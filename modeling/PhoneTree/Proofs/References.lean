import PhoneTree.Proofs.Callbacks
import PhoneTree.Proofs.Coherence
import PhoneTree.Proofs.CommandConduct
import PhoneTree.Proofs.CommandTies
import PhoneTree.Proofs.Copies

namespace PhoneTree

/-- The identifiers of what programs store under identifiers that they were given for it. -/
def Store.taken (store : Store) : List Uuid :=
  store.sessions.map (·.id.uuid) ++ store.recordings.map (·.id.uuid)

namespace Store

variable {store store' : Store} {about : Session → Prop} {past : List Exchange}
  {question : Question} {answer : question.Answer}

theorem Took.taken (took : store.Took ⟨question, answer⟩ store') (tied : Tied about past question)
    (free : ∀ id, unsaved past = some id → id ∉ store.taken) (id : Uuid) :
    store'.taken.count id ≤ store.taken.count id +
      if unsaved past = some id ∧ unsaved (⟨question, answer⟩ :: past) = none then 1 else 0 := by
  simp only [Store.taken, List.count_append]
  cases took with
  | read sessions turns recordings callers tells =>
      rw [sessions, recordings]
      exact Nat.le_add_right _ _
  | @save session new =>
      have hgiven : unsaved past = some session.id.uuid := tied.2.1
      have hfresh : ∀ other ∈ store.sessions, other.id ≠ session.id := by
        intro other hother hid
        refine free _ hgiven (List.mem_append_left _ ?_)
        exact List.mem_map.mpr ⟨other, hother, congrArg SessionId.uuid hid⟩
      rw [@putRow_eq_append (row session) _ hfresh, hgiven, List.map_append, List.count_append]
      simp [row, unsaved, List.count_singleton]
      omega
  | @update session stored found =>
      have hid : session.id.uuid = stored.id.uuid :=
        (congrArg SessionId.uuid (id_of_sessionRow? found)).symm
      rw [@map_putRow _ (row session.advance) stored _ (·.id.uuid) found hid]
      exact Nat.le_add_right _ _
  | @receive recording new =>
      have hgiven : unsaved past = some recording.id.uuid := tied.1
      have hfresh : ∀ other ∈ store.recordings, other.id ≠ recording.id := by
        intro other hother hid
        refine free _ hgiven (List.mem_append_right _ ?_)
        exact List.mem_map.mpr ⟨other, hother, congrArg RecordingId.uuid hid⟩
      rw [putRecording_eq_append hfresh, hgiven, List.map_append, List.count_append]
      simp [unsaved, List.count_singleton]
      omega
  | @fetch recording stored found =>
      have hsame := List.find?_some found
      have hid : stored.id = recording.id := eq_of_beq hsame
      rw [map_putRecording (·.id.uuid) found (congrArg RecordingId.uuid hid).symm]
      exact Nat.le_add_right _ _
  | _ => exact Nat.le_add_right _ _

end Store

namespace Pool

variable {ρ α : Type} {pool : Pool ρ α} {state : OpenWorld} {index : Nat} {origin : ρ}
  {past : List Exchange} {question : Question} {answer : question.Answer}
  {rest rest' : Dialogue Question Question.Answer (Except CallError α)}
  {about : Session → Prop}

/-- An identifier is held by a program or taken at most once, and neither before it was given
out. -/
def Unique (pool : Pool ρ α) : Prop :=
  pool.OwnsOnce fun id => pool.state.store.taken.count id

/-- The store is coherent and has what the programs have been told of. -/
structure Coherent (pool : Pool ρ α) : Prop where
  store : pool.state.store.Coherent
  recalls : ∀ thread ∈ pool.threads, pool.state.store.Recalls thread.past

theorem Unique.untaken {thread : Thread ρ α} {id : Uuid} (h : pool.Unique)
    (waiting : pool.threads[index]? = some thread) (hheld : unsaved thread.past = some id) :
    id ∉ pool.state.store.taken :=
  List.count_eq_zero.mp (OwnsOnce.unowned h waiting (beq_iff_eq.mpr hheld))

theorem Unique.ask (h : pool.Unique) (tied : Tied about past question)
    (waiting : pool.threads[index]? = some ⟨origin, past, rest⟩)
    (answered : pool.state.Answers question answer state) :
    (pool.resume index ⟨origin, ⟨question, answer⟩ :: past, rest'⟩ state).Unique :=
  OwnsOnce.ask h waiting answered
    ((OpenWorld.took_of_answers answered).taken tied fun _ => h.untaken waiting)

theorem Unique.freeSession (h : pool.Unique) (tied : Tied about past question)
    (waiting : pool.threads[index]? = some ⟨origin, past, rest⟩) :
    ∀ session, question = .saveSession session →
      ∀ row ∈ pool.state.store.sessions, row.id ≠ session.id := by
  rintro session rfl row hrow hid
  refine h.untaken waiting tied.2.1 ?_
  rw [← hid]
  exact List.mem_append_left _ (List.mem_map_of_mem hrow)

theorem Unique.freeRecording (h : pool.Unique) (tied : Tied about past question)
    (waiting : pool.threads[index]? = some ⟨origin, past, rest⟩) :
    ∀ recording, question = .saveRecording recording →
      ∀ other ∈ pool.state.store.recordings, other.id ≠ recording.id := by
  rintro recording rfl other hother hid
  refine h.untaken waiting tied.1 ?_
  rw [← hid]
  exact List.mem_append_right _ (List.mem_map_of_mem hother)

theorem Coherent.took (h : pool.Coherent) (hunique : pool.Unique) (tied : Tied about past question)
    (waiting : pool.threads[index]? = some ⟨origin, past, rest⟩)
    (answered : pool.state.Answers question answer state) :
    state.store.Coherent ∧ pool.state.store.Grows state.store ∧
      state.store.Bears ⟨question, answer⟩ := by
  have recalls := h.recalls _ (List.mem_of_getElem? waiting)
  exact h.store.took recalls tied (hunique.freeSession tied waiting)
    (hunique.freeRecording tied waiting) (OpenWorld.took_of_answers answered)

theorem Coherent.ask (h : pool.Coherent) (hunique : pool.Unique) (tied : Tied about past question)
    (waiting : pool.threads[index]? = some ⟨origin, past, rest⟩)
    (answered : pool.state.Answers question answer state) :
    (pool.resume index ⟨origin, ⟨question, answer⟩ :: past, rest'⟩ state).Coherent := by
  obtain ⟨hcoherent, hgrows, hbears⟩ := h.took hunique tied waiting answered
  refine ⟨hcoherent, ?_⟩
  intro thread hthread exchange hexchange
  rcases exchange_of_resume waiting hthread hexchange with rfl | ⟨before, hbefore, hexchange⟩
  · exact hbears
  · exact (h.recalls before hbefore exchange hexchange).grows hgrows

end Pool

section Runs

variable {ρ α : Type} {program : ρ → Action α} {about : ρ → Session → Prop} {start : OpenWorld}
  {log : List (Nat × Exchange)} {pool : Pool ρ α}

theorem Reaches.tied {index : Nat} {origin : ρ} {past : List Exchange} {question : Question}
    {next : question.Answer → Dialogue Question Question.Answer (Except CallError α)}
    (alone : ∀ origin, Ties (about origin) (program origin) [] fun _ _ => True)
    (run : Reaches program start log pool)
    (waiting : pool.threads[index]? = some ⟨origin, past, .ask question next⟩) :
    Tied (about origin) past question :=
  @Reaches.mayAsk _ _ program start log pool (fun origin => Tied (about origin)) _ _ _ _ _ _ alone
    run waiting

theorem Reaches.unique (alone : ∀ origin, Ties (about origin) (program origin) [] fun _ _ => True)
    (fresh : ({ state := start } : Pool ρ α).Unique) (run : Reaches program start log pool) :
    pool.Unique := by
  induction run with
  | nothing => exact fresh
  | begin origin before ih =>
      intro id
      rw [Pool.count_begin rfl]
      exact ih id
  | ask before waiting answered ih => exact ih.ask (before.tied alone waiting) waiting answered
  | disturb due before ih => exact ih

/-- Beside each other, programs that tie what they store to what they were told keep the store
coherent. -/
theorem Reaches.coherent (alone : ∀ origin, Ties (about origin) (program origin) [] fun _ _ => True)
    (fresh : ({ state := start } : Pool ρ α).Unique) (coherent : start.store.Coherent)
    (run : Reaches program start log pool) : pool.Coherent := by
  induction run with
  | nothing => exact ⟨coherent, fun _ hthread => absurd hthread List.not_mem_nil⟩
  | begin origin before ih =>
      refine ⟨ih.store, ?_⟩
      intro thread hthread
      rcases List.mem_append.mp hthread with hthread | hthread
      · exact ih.recalls thread hthread
      · obtain rfl := List.mem_singleton.mp hthread
        exact fun _ hexchange => absurd hexchange List.not_mem_nil
  | ask before waiting answered ih =>
      exact ih.ask (before.unique alone fresh) (before.tied alone waiting) waiting answered
  | @disturb _ pool due before ih =>
      obtain ⟨hcoherent, hgrows⟩ :=
        @Store.Coherent.of_same _ (pool.state.withConflicts due).store ih.store rfl rfl rfl rfl
      exact ⟨hcoherent, fun thread hthread exchange hexchange =>
        (ih.recalls thread hthread exchange hexchange).grows hgrows⟩

end Runs

theorem Pool.unique_of_empty {ρ α : Type} {start : OpenWorld} (empty : start.store = {}) :
    ({ state := start } : Pool ρ α).Unique := by
  intro id
  have hnothing : start.store.taken = [] := by
    rw [empty]
    rfl
  change 0 + start.store.taken.count id ≤ _
  rw [hnothing]
  exact Nat.zero_le _

/-- Everything in a store is distinct, what is named in it is there, and nobody has answered an
inbound call or left it unanswered. -/
structure Store.Resolves (store : Store) : Prop where
  sidsNamed : ∀ session ∈ store.sessions, Text.isBlank session.sid = false
  sidsDistinct : (store.sessions.map (·.sid)).Nodup
  sessionsKeyed : ∀ session ∈ store.sessions, store.sessionRow? session.id = some session
  callersStored : ∀ session ∈ store.sessions, ∃ caller ∈ store.callers, caller.id = session.caller
  callersKeyed : ∀ caller ∈ store.callers, store.callerByNumber caller.number = some caller
  turnsDistinct : (store.turns.map (·.id)).Nodup
  turnsOwned : ∀ turn ∈ store.turns, ∃ session ∈ store.sessions, session.id = turn.session
  turnsRecorded : ∀ turn ∈ store.turns, ∀ id, turn.recording = some id →
    ∃ recording, store.recordingById id = some recording ∧ recording.session = turn.session
  recordingsOwned : ∀ recording ∈ store.recordings,
    ∃ session ∈ store.sessions, session.id = recording.session
  recordingsDistinct :
    (store.recordings.map fun recording => (recording.session, recording.sid)).Nodup
  inboundUnanswered : ∀ session ∈ store.sessions, session.direction = .inbound →
    session.answeredBy = none ∧ session.unanswered = false

section Commands

variable {account : Service.Account} {registry : Registry} {start : OpenWorld}
  {log : List (Nat × Exchange)} {pool : Pool Command Outcome}

theorem Reaches.coherent_of_empty (empty : start.store = {})
    (run : Reaches (fun command : Command => command.action account registry) start log pool) :
    pool.Coherent := by
  have fresh : ({ state := start } : Pool Command Outcome).Unique := Pool.unique_of_empty empty
  refine run.coherent (Command.ties account registry) fresh ?_
  rw [empty]
  exact Store.coherent_of_empty

/-- However commands run side by side, every reference in the store resolves. -/
theorem references_always_resolve (empty : start.store = {})
    (run : Reaches (fun command : Command => command.action account registry) start log pool) :
    pool.state.store.Resolves := by
  obtain ⟨sessions, turns, recordings, numbers⟩ := (run.coherent_of_empty empty).store
  have hsids := sessions.sids
  have hids := sessions.ids
  rw [Store.callFacts, List.map_map] at hsids hids
  have hturns := turns.ids
  rw [Store.turnFacts, List.map_map] at hturns
  have hrecordings := recordings.sids
  have hrecordingIds := recordings.ids
  rw [Store.recordingFacts, List.map_map] at hrecordings hrecordingIds
  constructor
  case sidsNamed => exact fun session hsession => sessions.named _ (List.mem_map_of_mem hsession)
  case sidsDistinct => exact hsids
  case sessionsKeyed => exact fun session hsession => OpenWorld.find_of_nodup hids hsession
  case callersStored =>
    exact fun session hsession => sessions.callers _ (List.mem_map_of_mem hsession)
  case callersKeyed => exact fun caller hcaller => OpenWorld.find_of_nodup numbers hcaller
  case turnsDistinct => exact hturns
  case turnsOwned =>
    intro turn hturn
    obtain ⟨_, hcall, hid⟩ := turns.owned turn.facts (List.mem_map_of_mem hturn)
    obtain ⟨session, hsession, rfl⟩ := List.mem_map.mp hcall
    exact ⟨session, hsession, hid⟩
  case turnsRecorded =>
    intro turn hturn id hid
    obtain ⟨_, hkept, rfl, hsame⟩ := turns.attached turn hturn id hid
    obtain ⟨recording, hrecording, rfl⟩ := List.mem_map.mp hkept
    exact ⟨recording, OpenWorld.find_of_nodup hrecordingIds hrecording, hsame⟩
  case recordingsOwned =>
    intro recording hrecording
    obtain ⟨_, hcall, hid⟩ := recordings.owned recording.facts (List.mem_map_of_mem hrecording)
    obtain ⟨session, hsession, rfl⟩ := List.mem_map.mp hcall
    exact ⟨session, hsession, hid⟩
  case recordingsDistinct => exact hrecordings
  case inboundUnanswered => exact sessions.clean

end Commands

section Twice

/-- A recording of the first turn of the call that comes in twice. -/
def twiceRecording : Command :=
  .webhook (.receiveRecording ⟨.ofNat 5⟩)
    ⟨[("CallSid", "CA0"), ("RecordingSid", "RE0"), ("RecordingUrl", "https://api.example/RE0")]⟩

def twiceCall : Command :=
  .webhook (.inbound "main") questionParams

/-- One call that comes in twice at once, and then a recording of it. -/
def twice : List (Nat × Exchange) × Pool Command Outcome :=
  Pool.play []
    { state := .ofWorld {}
      threads := [twiceCall, twiceCall, twiceRecording].map fun command =>
        { origin := command, rest := (command.action default ⟨[questionTree]⟩).run } }
    ((List.replicate 20 [0, 1]).flatten ++ List.replicate 10 2)

theorem twice_reaches :
    Reaches (fun command : Command => command.action default ⟨[questionTree]⟩) (.ofWorld {})
      twice.1 twice.2 :=
  Reaches.play (((Reaches.nothing.begin twiceCall).begin twiceCall).begin twiceRecording) rfl
    (by decide +kernel)

/-- The call is stored once, and the recording goes to the turn that it was made in. -/
theorem twice_resolves :
    twice.2.state.store.sessions.length = 1 ∧
      (twice.2.state.store.turns.map fun turn => turn.recording.isSome) = [true, false] ∧
        twice.2.state.store.Resolves :=
  ⟨by decide +kernel, by decide +kernel, references_always_resolve rfl twice_reaches⟩

end Twice

end PhoneTree

import PhoneTree.Proofs.Receiving
import PhoneTree.Proofs.References

namespace PhoneTree

namespace OpenWorld

/-- How often work has been left for a recording. -/
def fetches (state : OpenWorld) (id : RecordingId) : Nat :=
  (state.world.scheduled.map (·.1)).count (.attachRecording id)

/-- How many recordings of an identifier are stored. -/
def received (state : OpenWorld) (id : RecordingId) : Nat :=
  (state.store.recordings.map (·.id)).count id

variable {state state' : OpenWorld} {question : Question} {answer : question.Answer}
  {attach : Bool} {command : Command} {past : List Exchange}

theorem fetches_of_answers (id : RecordingId) (h : state.Answers question answer state') :
    state'.fetches id = state.fetches id +
      ((Exchange.scheduled? ⟨question, answer⟩).toList.map (·.1)).count (.attachRecording id) := by
  rw [fetches, answers_scheduled h, List.map_append, List.count_append]
  rfl

/-- Work is left for a recording by whoever owes it, and owed by whoever stores the recording. -/
theorem balance_of_answers (id : RecordingId)
    (maySettle : command.MaySettle attach past question)
    (attached : ∀ turn recording failure,
      (⟨question, answer⟩ : Exchange) ≠ ⟨.attachToTurn turn recording, .error failure⟩)
    (fresh : ∀ recording, question = .saveRecording recording →
      ∀ other ∈ state.store.recordings, other.id ≠ recording.id)
    (answered : state.Answers question answer state') :
    state'.fetches id + (owes attach id (⟨question, answer⟩ :: past)).toNat +
        (if attach then state.received id else 0) =
      state.fetches id + (owes attach id past).toNat +
        if attach then state'.received id else 0 := by
  rw [fetches_of_answers id answered]
  have hkept (hpart : question.part? ≠ some .recordings) :
      state'.received id = state.received id := by
    rw [received, answers_recordings answered hpart]
    rfl
  cases question with
  | saveRecording recording =>
      obtain ⟨hnothing, -⟩ := maySettle
      rw [owes, owes, hnothing]
      have took := took_of_answers answered
      generalize hstore : state'.store = store' at took
      cases took with
      | read _ _ recordings _ tells =>
          rcases answer with failure | _
          · rw [received, received, hstore, recordings]
            cases attach <;> rfl
          · exact absurd rfl (fresh recording rfl recording (tells.recording recording rfl))
      | receive new =>
          have happend := Store.putRecording_eq_append (fresh recording rfl)
          rw [received, received, hstore, happend, List.map_append, List.count_append]
          cases attach with
          | false => rfl
          | true =>
              simp only [owed, saved?, Exchange.scheduled?, List.map_cons, List.map_nil,
                List.count_singleton, if_true]
              by_cases hid : recording.id = id
              · simp [hid]
                omega
              · simp [hid]
  | updateRecording recording =>
      obtain ⟨hnothing, -⟩ := maySettle
      rw [owes, owes, hnothing]
      have took := took_of_answers answered
      generalize hstore : state'.store = store' at took
      have hsame : state'.received id = state.received id := by
        rw [received, received, hstore]
        cases took with
        | read _ _ recordings _ _ => rw [recordings]
        | fetch found =>
            have hid := List.find?_some found
            exact congrArg (List.count id)
              (Store.map_putRecording (·.id) found (eq_of_beq hid).symm)
      rw [hsame]
      cases attach <;> rfl
  | attachToTurn turn recording =>
      rcases answer with failure | _
      · exact absurd rfl (attached turn recording failure)
      · rw [hkept (by simp [Question.part?]), owes, owes, owed_attached maySettle]
        rfl
  | schedule job delay =>
      rw [hkept (by simp [Question.part?]), owes, owes]
      cases job with
      | attachRecording recording =>
          have howed : owed attach past = some recording := maySettle
          rw [howed, owed_of_owed howed]
          simp only [owed, saved?, Exchange.scheduled?, Option.toList_some, List.map_cons,
            List.map_nil, List.count_singleton, if_true]
          by_cases hid : recording = id <;> simp [hid]
      | unansweredCall session | finishedCall session =>
          rw [maySettle.1]
          cases attach <;> rfl
  | _ =>
      rw [hkept (by simp [Question.part?]), owes, owes, maySettle, owed_aside rfl]
      rfl

end OpenWorld

theorem Pool.Coherent.attaches {ρ α : Type} {pool : Pool ρ α} {thread : Thread ρ α}
    {about : Session → Prop} {turn : TurnId} {recording : RecordingId} {failure : Failure}
    {state : OpenWorld} (h : pool.Coherent) (hthread : thread ∈ pool.threads)
    (tied : Tied about thread.past (.attachToTurn turn recording)) :
    ¬pool.state.Answers (.attachToTurn turn recording) (.error failure) state := by
  rintro ⟨hanswer, -⟩
  obtain ⟨told, htold, hid, -⟩ := tied
  have hstored := (h.recalls thread hthread).turn htold
  obtain ⟨found, hfound⟩ :=
    Option.isSome_iff_exists.mp (OpenWorld.turnById_isSome ⟨told.facts, hstored, hid⟩)
  rw [World.answer, Store.attachToTurn, Store.changeTurn,
    show pool.state.world.store.turnById turn = some found from hfound] at hanswer
  cases hanswer

/-- Work has been left, or is owed, for every recording that is stored if recordings are to be
fetched, and for nothing else. -/
def Pool.Settled {ρ α : Type} (attach : Bool) (pool : Pool ρ α) : Prop :=
  ∀ id, pool.state.fetches id + pool.count (owes attach id) =
    if attach then pool.state.received id else 0

section Runs

variable {account : Service.Account} {registry : Registry} {start : OpenWorld}
  {log : List (Nat × Exchange)} {pool : Pool Command Outcome}

theorem owed_nil (attach : Bool) : owed attach [] = none := by
  cases attach <;> rfl

theorem Command.settles_run (account : Service.Account) (registry : Registry) (command : Command) :
    Dialogue.Ensures (histories (command.MaySettle account.attachRecordings))
      (command.action account registry).run [] fun _ past =>
        owed account.attachRecordings past = none := by
  refine Dialogue.Ensures.mono (command.settles account registry [] (owed_nil _)) ?_
  rintro (error | outcome) past h
  · exact h
  · exact h

theorem Reaches.settled (empty : start.store = {}) (idle : start.world.scheduled = [])
    (run : Reaches (fun command : Command => command.action account registry) start log pool) :
    pool.Settled account.attachRecordings := by
  induction run with
  | nothing =>
      intro id
      rw [OpenWorld.fetches, OpenWorld.received, idle, empty]
      cases account.attachRecordings <;> rfl
  | begin origin before ih =>
      intro id
      have hnothing : owes account.attachRecordings id [] = false := by
        rw [owes, owed_nil]
        rfl
      rw [Pool.count_begin hnothing]
      exact ih id
  | @ask _ pool index command past question next answer state before waiting answered ih =>
      have hcoherent := before.coherent_of_empty empty
      have tied := before.tied (Command.ties account registry) waiting
      have hunique := before.unique (Command.ties account registry) (Pool.unique_of_empty empty)
      have hmay := before.mayAsk (Command.settles_run account registry) waiting
      intro id
      have hcount := Pool.count_resume (owes account.attachRecordings id)
        ⟨command, ⟨question, answer⟩ :: past, next answer⟩ state waiting
      have hbalance := OpenWorld.balance_of_answers id hmay ?_ (hunique.freeRecording tied waiting)
        answered
      · -- what this thread owes more or less is what is stored or left with this answer
        have hbefore := ih id
        simp only at hcount
        change state.fetches id + _ = if account.attachRecordings then state.received id else 0
        omega
      · intro turn recording failure heq
        cases heq
        exact hcoherent.attaches (List.mem_of_getElem? waiting) tied answered
  | disturb due before ih => exact ih

theorem Reaches.owed_of_receives
    (run : Reaches (fun command : Command => command.action account registry) start log pool) :
    ∀ thread ∈ pool.threads, thread.origin.receives = false →
      owed account.attachRecordings thread.past = none := by
  have hnothing := run.always
    (fun command past => command.receives = false →
      saved? past = none ∧ owed account.attachRecordings past = none)
    (Command.settles_run account registry) ?_ ?_
  · exact fun thread hthread hidle => (hnothing thread hthread hidle).2
  · exact fun _ _ => ⟨rfl, owed_nil _⟩
  · intro command past question answer hmay ih hidle
    obtain ⟨hsaved, howed⟩ := ih hidle
    cases question with
    | saveRecording recording =>
        have hsid := hmay.2
        rw [Command.recordingSid?_of_idle hidle] at hsid
        cases hsid
    | attachToTurn turn recording =>
        have hnew := hsaved.symm.trans hmay
        cases hnew
    | _ => exact ⟨rfl, by cases account.attachRecordings <;> rfl⟩

/-- Once everybody who brought a recording is done, work has been left for each recording once. -/
theorem Reaches.fetches_of_done (empty : start.store = {}) (idle : start.world.scheduled = [])
    (run : Reaches (fun command : Command => command.action account registry) start log pool)
    (returned : ∀ thread ∈ pool.threads, thread.origin.receives = true →
      ∃ result, thread.rest = .done result) (id : RecordingId) :
    pool.state.fetches id = if account.attachRecordings then pool.state.received id else 0 := by
  have hbalance := run.settled empty idle id
  have hnobody : pool.count (owes account.attachRecordings id) = 0 := by
    refine List.countP_eq_zero.mpr ?_
    intro thread hthread
    have hpaid : owed account.attachRecordings thread.past = none := by
      cases hreceives : thread.origin.receives with
      | false => exact run.owed_of_receives thread hthread hreceives
      | true =>
          obtain ⟨result, hdone⟩ := returned thread hthread hreceives
          have hend := run.conducts (Command.settles_run account registry) thread hthread
          rw [hdone] at hend
          exact hend
    rw [owes, hpaid]
    exact Bool.false_ne_true
  rwa [hnobody] at hbalance

end Runs

section Repeats

/-- A command brings a recording of a call, both as the provider names them. -/
def Command.Brings (callSid recordingSid : String) : Command → Prop
  | webhook entry params =>
      entry.receives = true ∧ params.callSid? = some callSid ∧
        params.get? "RecordingSid" = some recordingSid
  | _ => False

/-- What a command does on a session has nothing to do with recordings: none is added, no turn has
another one or no longer one, and work is left only as the progress of the call calls for it that
the same request reports. -/
structure OpenWorld.KeepsRecordings (command : Command) (session : SessionId)
    (state state' : OpenWorld) : Prop where
  recordings : state'.store.recordings = state.store.recordings
  attached : (state.store.turns.map fun turn => (turn.id, turn.recording)) <+:
    state'.store.turns.map fun turn => (turn.id, turn.recording)
  work : ∃ work, state'.world.scheduled = state.world.scheduled ++ work ∧ ∀ entry ∈ work,
    command.CallsFor entry.1 ∧ (entry.1 = .unansweredCall session ∨ entry.1 = .finishedCall session)

theorem OpenWorld.KeepsRecordings.refl (command : Command) (session : SessionId)
    (state : OpenWorld) : state.KeepsRecordings command session state where
  recordings := rfl
  attached := List.prefix_refl _
  work := ⟨[], (List.append_nil _).symm, nofun⟩

theorem OpenWorld.KeepsRecordings.trans {command : Command} {session : SessionId}
    {first second third : OpenWorld} (h : first.KeepsRecordings command session second)
    (h' : second.KeepsRecordings command session third) :
    first.KeepsRecordings command session third where
  recordings := h'.recordings.trans h.recordings
  attached := h.attached.trans h'.attached
  work := by
    obtain ⟨work, hwork, hcalled⟩ := h.work
    obtain ⟨work', hwork', hcalled'⟩ := h'.work
    refine ⟨work ++ work', ?_, ?_⟩
    · rw [hwork', hwork, List.append_assoc]
    · intro entry hentry
      exact (List.mem_append.mp hentry).elim (hcalled entry) (hcalled' entry)

/-- A program has stored no recording. -/
def StoresNothing (past : List Exchange) : Prop :=
  ∀ recording, (⟨.saveRecording recording, .ok ()⟩ : Exchange) ∉ past

variable {attach : Bool} {command : Command} {past : List Exchange} {question : Question}
  {answer : question.Answer} {store : Store} {call : CallFacts} {kept : Recording}

theorem StoresNothing.saved? (h : StoresNothing past) : saved? past = none := by
  rcases past with _ | ⟨⟨question, answer⟩, past⟩
  · rfl
  · cases question with
    | saveRecording recording =>
        rcases answer with failure | _
        · rfl
        · exact absurd List.mem_cons_self (h recording)
    | _ => rfl

theorem StoresNothing.tail {exchange : Exchange} (h : StoresNothing (exchange :: past)) :
    StoresNothing past :=
  fun recording hmem => h recording (List.mem_cons_of_mem _ hmem)

theorem StoresNothing.owed (h : StoresNothing past) : owed attach past = none := by
  have hnothing {saved : Option RecordingId} (hsaved : saved = none) :
      (if attach then saved else none) = none := by
    rw [hsaved, ite_self]
  rcases past with _ | ⟨⟨question, answer⟩, past⟩
  · exact owed_nil attach
  · cases question with
    | attachToTurn turn recording =>
        rcases answer with failure | _
        · exact hnothing rfl
        · exact hnothing h.tail.saved?
    | _ => exact hnothing h.saved?

theorem Store.Coherent.id_of_concerns (h : store.Coherent) (recalls : store.Recalls past)
    (hcall : call ∈ store.callFacts) {recordingSid : String}
    (brings : command.Brings call.sid recordingSid) {id : SessionId}
    (concerns : Concerns command.IsAbout past id) : id = call.id := by
  obtain ⟨other, hother, rfl, session, habout, rfl⟩ := recalls.concerns concerns
  cases command with
  | webhook entry params =>
      have hsid : session.sid = call.sid := Option.some.inj (habout.symm.trans brings.2.1)
      exact congrArg CallFacts.id (OpenWorld.eq_of_nodup h.sessions.sids hother hcall hsid)
  | _ => exact brings.elim

theorem Command.Brings.recordingSid? {callSid recordingSid : String}
    (h : command.Brings callSid recordingSid) : command.recordingSid? = some recordingSid := by
  cases command with
  | webhook entry params => exact (if_pos h.1).trans h.2.2
  | _ => exact h.elim

theorem Command.Brings.isWebhook {callSid recordingSid : String}
    (h : command.Brings callSid recordingSid) : command.isWebhook = true := by
  cases command with
  | webhook entry params => rfl
  | _ => exact h.elim

end Repeats

section Runs

variable {account : Service.Account} {registry : Registry} {start state : OpenWorld}
  {log : List (Nat × Exchange)} {pool : Pool Command Outcome} {command : Command}
  {past : List Exchange} {question : Question} {answer : question.Answer} {index : Nat}
  {next : question.Answer → Dialogue Question Question.Answer (Except CallError Outcome)}
  {call : CallFacts} {kept : Recording}

theorem Reaches.refuses (empty : start.store = {})
    (run : Reaches (fun command : Command => command.action account registry) start log pool)
    (waiting : pool.threads[index]? = some ⟨command, past, .ask question next⟩)
    (answered : pool.state.Answers question answer state)
    (hcall : call ∈ pool.state.store.callFacts)
    (hkept : kept ∈ pool.state.store.recordingFacts) (howned : kept.session = call.id)
    (brings : command.Brings call.sid kept.sid) (recording : Recording) :
    (⟨question, answer⟩ : Exchange) ≠ ⟨.saveRecording recording, .ok ()⟩ := by
  intro heq
  cases heq
  have hcoherent := run.coherent_of_empty empty
  have tied := run.tied (Command.ties account registry) waiting
  have hmay := run.mayAsk (Command.settles_run account registry) waiting
  have hunique := run.unique (Command.ties account registry) (Pool.unique_of_empty empty)
  have hsid : kept.sid = recording.sid :=
    Option.some.inj (brings.recordingSid?.symm.trans hmay.2)
  have hsession : recording.session = call.id :=
    hcoherent.store.id_of_concerns (hcoherent.recalls _ (List.mem_of_getElem? waiting)) hcall brings
      tied.2
  have took := OpenWorld.took_of_answers answered
  generalize state.store = store' at took
  cases took with
  | read _ _ _ _ tells =>
      exact hunique.freeRecording tied waiting recording rfl recording
        (tells.recording recording rfl) rfl
  | receive new =>
      obtain ⟨other, hother, rfl⟩ := List.mem_map.mp hkept
      refine new other hother (Prod.ext ?_ hsid)
      exact howned.trans hsession.symm

theorem Reaches.keepsRecordings (empty : start.store = {})
    (run : Reaches (fun command : Command => command.action account registry) start log pool)
    (waiting : pool.threads[index]? = some ⟨command, past, .ask question next⟩)
    (answered : pool.state.Answers question answer state)
    (hcall : call ∈ pool.state.store.callFacts)
    (hkept : kept ∈ pool.state.store.recordingFacts) (howned : kept.session = call.id)
    (brings : command.Brings call.sid kept.sid) (nothing : StoresNothing past) :
    pool.state.KeepsRecordings command call.id state := by
  have hcoherent := run.coherent_of_empty empty
  have recalls := hcoherent.recalls _ (List.mem_of_getElem? waiting)
  have tied := run.tied (Command.ties account registry) waiting
  have hmay := run.mayAsk (Command.settles_run account registry) waiting
  have hrefuses := run.refuses empty waiting answered hcall hkept howned brings
  have took := OpenWorld.took_of_answers answered
  have hscheduled := OpenWorld.answers_scheduled answered
  constructor
  case recordings =>
    generalize state.store = store' at took
    cases took with
    | read _ _ recordings _ _ => exact recordings
    | receive new => exact absurd rfl (hrefuses _)
    | fetch found => exact absurd (brings.isWebhook.symm.trans hmay.2) (by decide)
    | _ => rfl
  case attached =>
    generalize state.store = store' at took
    cases took with
    | read _ turns _ _ _ => exact turns ▸ List.prefix_refl _
    | begin new =>
        rw [List.map_append]
        exact List.prefix_append _ _
    | input | timeout =>
        refine (Store.map_modifyTurn _ ?_ _).symm ▸ List.prefix_refl _
        exact fun _ => rfl
    | attach => exact absurd (nothing.saved?.symm.trans hmay) nofun
    | _ => exact List.prefix_refl _
  case work =>
    refine ⟨_, hscheduled, ?_⟩
    cases question with
    | schedule job delay =>
        intro entry hentry
        obtain rfl := List.mem_singleton.mp hentry
        cases job with
        | attachRecording recording => exact absurd (nothing.owed.symm.trans hmay) nofun
        | unansweredCall session =>
            have hsession := hcoherent.store.id_of_concerns recalls hcall brings tied
            exact ⟨hmay.2, .inl (congrArg Job.unansweredCall hsession)⟩
        | finishedCall session =>
            have hsession := hcoherent.store.id_of_concerns recalls hcall brings tied
            exact ⟨hmay.2, .inr (congrArg Job.finishedCall hsession)⟩
    | _ => exact fun entry hentry => absurd hentry List.not_mem_nil

/-- Whoever begins to bring what the call has already stores no recording, however long the others
go on beside it. -/
theorem Reaches.storesNothing {later : Pool Command Outcome} {log' : List (Nat × Exchange)}
    (empty : start.store = {})
    (run : Reaches (fun command : Command => command.action account registry) start log pool)
    (hcall : call ∈ pool.state.store.callFacts)
    (hkept : kept ∈ pool.state.store.recordingFacts) (howned : kept.session = call.id)
    (brings : command.Brings call.sid kept.sid)
    (goes : (pool.begun (fun command : Command => command.action account registry) command).GoesOn
      (fun command : Command => command.action account registry) log' later) :
    call ∈ later.state.store.callFacts ∧ kept ∈ later.state.store.recordingFacts ∧
      ∃ thread, later.threads[pool.threads.length]? = some thread ∧ thread.origin = command ∧
        StoresNothing thread.past := by
  have begun := run.begin command
  induction goes with
  | nothing =>
      exact ⟨hcall, hkept, _, List.getElem?_concat_length, rfl, fun _ => List.not_mem_nil⟩
  | begin origin before ih =>
      obtain ⟨hcall, hkept, thread, hthread, hrest⟩ := ih
      refine ⟨hcall, hkept, thread, ?_, hrest⟩
      exact (List.getElem?_append_left (List.getElem?_eq_some_iff.mp hthread).1).trans hthread
  | @ask log' later index origin past question next answer state before waiting answered ih =>
      obtain ⟨hcall, hkept, thread, hthread, horigin, hnothing⟩ := ih
      have reached := begun.goesOn before
      have tied := reached.tied (Command.ties account registry) waiting
      have hunique := reached.unique (Command.ties account registry) (Pool.unique_of_empty empty)
      obtain ⟨-, hgrows, -⟩ :=
        (reached.coherent_of_empty empty).took hunique tied waiting answered
      refine ⟨hgrows.calls hcall, hgrows.recordings hkept, ?_⟩
      by_cases hplace : index = pool.threads.length
      · subst hplace
        obtain rfl := Option.some.inj (waiting.symm.trans hthread)
        refine ⟨_, Pool.resume_self waiting, horigin, ?_⟩
        intro recording hmem
        rcases List.mem_cons.mp hmem with heq | hmem
        · obtain rfl : origin = command := horigin
          exact reached.refuses empty waiting answered hcall hkept howned brings recording heq.symm
        · exact hnothing recording hmem
      · -- the others do not touch what this thread has asked
        exact ⟨thread, (Pool.resume_other hplace).trans hthread, horigin, hnothing⟩
  | disturb due before ih => exact ih

/-- Whoever goes on alone from where it brings what the call has already keeps the recordings to the
end, for it keeps them with every question. -/
theorem Reaches.keepsRecordings_alone {later : Pool Command Outcome} {log' : List (Nat × Exchange)}
    {rest : Dialogue Question Question.Answer (Except CallError Outcome)}
    {result : Except CallError Outcome} {before after : OpenWorld} (empty : start.store = {})
    (run : Reaches (fun command : Command => command.action account registry) start log pool)
    (hcall : call ∈ pool.state.store.callFacts)
    (hkept : kept ∈ pool.state.store.recordingFacts) (howned : kept.session = call.id)
    (brings : command.Brings call.sid kept.sid)
    (goes : (pool.begun (fun command : Command => command.action account registry) command).GoesOn
      (fun command : Command => command.action account registry) log' later)
    (waiting : later.threads[pool.threads.length]? = some ⟨command, past, rest⟩)
    (here : later.state = before) (ran : Dialogue.Runs OpenWorld.rules rest before result after) :
    before.KeepsRecordings command call.id after := by
  induction ran generalizing past log' later with
  | done => exact .refl command call.id _
  | ask answered ran ih =>
      subst here
      obtain ⟨hcall', hkept', thread, hthread, -, hnothing⟩ :=
        run.storesNothing empty hcall hkept howned brings goes
      obtain rfl := Option.some.inj (waiting.symm.trans hthread)
      have reached := (run.begin command).goesOn goes
      have hstep :=
        reached.keepsRecordings empty waiting answered hcall' hkept' howned brings hnothing
      exact hstep.trans (ih (goes.ask waiting answered) (Pool.resume_self waiting) rfl)

/-- However commands run side by side, a call has every recording once, work is left once for each
recording if recordings are to be fetched, and whoever brings a recording that the call has already
adds none, leaves no work for one and leaves the recordings of turns as they are, with every question
among the others and from its beginning to its end when it runs alone. -/
theorem recordings_are_received_once (empty : start.store = {})
    (idle : start.world.scheduled = [])
    (run : Reaches (fun command : Command => command.action account registry) start log pool) :
    (pool.state.store.recordings.map fun recording => (recording.session, recording.sid)).Nodup ∧
    ((∀ thread ∈ pool.threads, thread.origin.receives = true →
        ∃ result, thread.rest = .done result) →
      ∀ id, pool.state.fetches id =
        if account.attachRecordings ∧ id ∈ pool.state.store.recordings.map (·.id) then 1 else 0) ∧
    ∀ session ∈ pool.state.store.sessions, ∀ recording ∈ pool.state.store.recordings,
      recording.session = session.id →
      ∀ command : Command, command.Brings session.sid recording.sid →
      (∀ log' later, (pool.begun (fun command : Command => command.action account registry)
        command).GoesOn (fun command : Command => command.action account registry) log' later →
      ∀ past question next answer state,
        later.threads[pool.threads.length]? = some ⟨command, past, .ask question next⟩ →
        later.state.Answers question answer state →
        later.state.KeepsRecordings command session.id state) ∧
      ∀ result state,
        Action.Runs OpenWorld.rules (command.action account registry) pool.state result state →
        pool.state.KeepsRecordings command session.id state := by
  have hrecordings := (run.coherent_of_empty empty).store.recordings
  refine ⟨?_, ?_, ?_⟩
  · have hsids := hrecordings.sids
    rw [Store.recordingFacts, List.map_map] at hsids
    exact hsids
  · intro returned id
    have hids := hrecordings.ids
    rw [Store.recordingFacts, List.map_map] at hids
    have hcount : pool.state.received id =
        if id ∈ pool.state.store.recordings.map (·.id) then 1 else 0 := hids.count
    rw [run.fetches_of_done empty idle returned id, hcount]
    cases account.attachRecordings <;> simp
  · intro session hsession recording hrecording howned command brings
    have hcall := List.mem_map_of_mem (f := Session.facts) hsession
    have hkept := List.mem_map_of_mem (f := Recording.facts) hrecording
    constructor
    · intro log' later goes past question next answer state waiting answered
      obtain ⟨hcall, hkept, thread, hthread, -, hnothing⟩ :=
        run.storesNothing empty hcall hkept howned brings goes
      obtain rfl := Option.some.inj (waiting.symm.trans hthread)
      have reached := (run.begin command).goesOn goes
      exact reached.keepsRecordings empty waiting answered hcall hkept howned brings hnothing
    · intro result state ran
      exact run.keepsRecordings_alone empty hcall hkept howned brings .nothing
        List.getElem?_concat_length rfl ran

end Runs

section Raced

def fetchingAccount : Service.Account :=
  { (default : Service.Account) with attachRecordings := true }

def racedParams : Params :=
  ⟨[("CallSid", "CA0"), ("RecordingSid", "RE0"), ("RecordingUrl", "https://api.example/RE0")]⟩

/-- A call, and one recording of its first turn that two webhooks bring. -/
def racedWebhooks : Pool Command Outcome where
  state := .ofWorld {}
  threads := [.webhook (.inbound "main") questionParams,
    .webhook (.receiveRecording ⟨.ofNat 3⟩) racedParams,
    .webhook (.transcribe ⟨.ofNat 3⟩) racedParams].map fun command =>
      { origin := command, rest := (command.action fetchingAccount ⟨[questionTree]⟩).run }

/-- The two webhooks go on in turns once the call has been answered. -/
def racedRecording : List (Nat × Exchange) × Pool Command Outcome :=
  racedWebhooks.play [] (List.replicate 20 0 ++ (List.replicate 20 [1, 2]).flatten)

theorem racedRecording_reached :
    Reaches (fun command : Command => command.action fetchingAccount ⟨[questionTree]⟩)
      (.ofWorld {}) racedRecording.1 racedRecording.2 :=
  Reaches.play (((Reaches.nothing.begin _).begin _).begin _) rfl (by decide +kernel)

/-- An answer that brings the recording once more, and reports that the call is over. -/
def lastAnswer : Command :=
  .webhook (.promptResponse "main" ⟨.ofNat 3⟩)
    ⟨("CallStatus", "completed") :: racedParams.fields⟩

theorem racedRecording_stored :
    ∃ session ∈ racedRecording.2.state.store.sessions,
      ∃ recording ∈ racedRecording.2.state.store.recordings,
        recording.session = session.id ∧ session.id = ⟨.ofNat 2⟩ ∧
          lastAnswer.Brings session.sid recording.sid := by
  have hstored : (racedRecording.2.state.store.sessions.any fun session =>
      racedRecording.2.state.store.recordings.any fun recording =>
        recording.session = session.id ∧ session.id = ⟨.ofNat 2⟩ ∧ session.sid = "CA0" ∧
          recording.sid = "RE0") = true := by decide +kernel
  obtain ⟨session, hsession, hany⟩ := List.any_eq_true.mp hstored
  obtain ⟨recording, hrecording, hsame⟩ := List.any_eq_true.mp hany
  obtain ⟨howned, hid, hcallSid, hsid⟩ := of_decide_eq_true hsame
  refine ⟨session, hsession, recording, hrecording, howned, hid, ?_⟩
  rw [hcallSid, hsid]
  exact ⟨rfl, rfl, rfl⟩

def afterLastAnswer : World :=
  (racedRecording.2.state.world.perform (lastAnswer.action fetchingAccount ⟨[questionTree]⟩)).2

theorem lastAnswer_runs :
    ∃ result, Action.Runs OpenWorld.rules (lastAnswer.action fetchingAccount ⟨[questionTree]⟩)
      racedRecording.2.state result (.ofWorld afterLastAnswer) := by
  have hcounted : racedRecording.2.state = .ofWorld racedRecording.2.state.world := by
    rw [racedRecording]
    exact Pool.play_counted _ _ rfl
  have ran := OpenWorld.runs_perform (lastAnswer.action fetchingAccount ⟨[questionTree]⟩)
    racedRecording.2.state.world (by decide +kernel)
  rw [← hcounted] at ran
  exact ⟨_, ran⟩

/-- Both find the call without the recording, and one of them stores it. The answer that brings it
once more leaves work for the end of the call and nothing else. -/
theorem racedRecording_is_received_once :
    racedRecording.2.state.store.recordings.length = 1 ∧
      (racedRecording.2.threads.countP fun thread => thread.past.any fun exchange =>
        match exchange with
        | ⟨.saveRecording _, _⟩ => true
        | _ => false) = 2 ∧
      (∀ id, racedRecording.2.state.fetches id =
        if id ∈ racedRecording.2.state.store.recordings.map (·.id) then 1 else 0) ∧
      racedRecording.2.state.KeepsRecordings lastAnswer ⟨.ofNat 2⟩ (.ofWorld afterLastAnswer) := by
  have hdone : (racedRecording.2.threads.all fun thread =>
      match thread.rest with
      | .done _ => true
      | .ask _ _ => false) = true := by decide +kernel
  obtain ⟨_, hfetches, hrepeated⟩ := recordings_are_received_once rfl rfl racedRecording_reached
  refine ⟨by decide +kernel, by decide +kernel, ?_, ?_⟩
  · intro id
    have hreturned := hfetches ?_ id
    · simpa only [fetchingAccount, true_and] using hreturned
    · intro thread hthread _
      have hthis := List.all_eq_true.mp hdone thread hthread
      split at hthis
      · exact ⟨_, ‹_›⟩
      · cases hthis
  · obtain ⟨session, hsession, recording, hrecording, howned, hid, brings⟩ := racedRecording_stored
    obtain ⟨result, ran⟩ := lastAnswer_runs
    have hkeeps := (hrepeated session hsession recording hrecording howned _ brings).2 result _ ran
    rwa [hid] at hkeeps

/-- So it is not true that a recording that the call has already leaves no work at all. -/
theorem repeated_recordings_may_leave_work :
    ¬∀ session ∈ racedRecording.2.state.store.sessions,
      ∀ recording ∈ racedRecording.2.state.store.recordings, recording.session = session.id →
      ∀ command : Command, command.Brings session.sid recording.sid →
      ∀ result state,
        Action.Runs OpenWorld.rules (command.action fetchingAccount ⟨[questionTree]⟩)
          racedRecording.2.state result state →
        state.world.scheduled = racedRecording.2.state.world.scheduled := by
  intro leavesNothing
  obtain ⟨session, hsession, recording, hrecording, howned, -, brings⟩ := racedRecording_stored
  obtain ⟨result, ran⟩ := lastAnswer_runs
  have hsame :=
    leavesNothing session hsession recording hrecording howned lastAnswer brings result _ ran
  have hadded : (OpenWorld.ofWorld afterLastAnswer).world.scheduled =
      racedRecording.2.state.world.scheduled ++ [(.finishedCall ⟨.ofNat 2⟩, 10)] := by
    decide +kernel
  rw [hadded] at hsame
  exact absurd (List.append_right_eq_self.mp hsame) (List.cons_ne_nil _ _)

end Raced

end PhoneTree

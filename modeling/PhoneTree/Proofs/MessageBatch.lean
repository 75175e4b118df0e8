import PhoneTree.Proofs.Exchange
import PhoneTree.Proofs.Transcript
import PhoneTree.Service.Outgoing

namespace PhoneTree

/-- A message that the provider was asked to send, with its answer. -/
abbrev Dispatch :=
  OutboundMessage × Except TransportError String

/-- The provider failed, and not because the recipient wants no messages. -/
def EndsBatch (answer : Except TransportError String) : Prop :=
  ∃ error, answer = .error error ∧ ∀ status message, error ≠ .rejected status message (some 21610)

/-- The messages of a batch: one for each body that is not blank. -/
def batchMessages (recipient sender : String) (bodies : List String) : List OutboundMessage :=
  (bodies.filter fun body => !Text.isBlank body).map fun body => ⟨recipient, sender, body⟩

/-- Messages sent in order, each once, until one of them ends the batch. -/
inductive Dispatched (messages : List OutboundMessage) :
    List Dispatch → Except CallError (List String) → Prop
  | all {dispatches : List Dispatch} (each : dispatches.map Prod.fst = messages)
      (passes : ∀ dispatch ∈ dispatches, ¬EndsBatch dispatch.2) :
      Dispatched messages dispatches
        (.ok (dispatches.filterMap fun dispatch => dispatch.2.toOption))
  | stopped {dispatches : List Dispatch} {last : OutboundMessage} {rest : List OutboundMessage}
      {error : TransportError} (each : dispatches.map Prod.fst ++ last :: rest = messages)
      (passes : ∀ dispatch ∈ dispatches, ¬EndsBatch dispatch.2) (ends : EndsBatch (.error error)) :
      Dispatched messages (dispatches ++ [(last, .error error)]) (.error (.transport error))

/-- The entry of a message in a transcript. -/
def Dispatch.exchange (dispatch : Dispatch) : Exchange :=
  ⟨.sendMessage dispatch.1, dispatch.2⟩

theorem endsBatch_error {error : TransportError} :
    EndsBatch (.error error) ↔ error.isUnsubscribed = false := by
  constructor
  · rintro ⟨_, ⟨⟩, hother⟩
    rw [← Bool.not_eq_true]
    intro hunsubscribed
    cases error with
    | rejected status message code =>
        obtain rfl := eq_of_beq hunsubscribed
        exact hother status message rfl
    | network message | invalidResponse message => cases hunsubscribed
  · rintro hlistening
    refine ⟨error, rfl, ?_⟩
    rintro status message rfl
    cases hlistening

theorem not_endsBatch_ok {sid : String} : ¬EndsBatch (.ok sid) := by
  rintro ⟨error, ⟨⟩, _⟩

namespace Dispatched

variable {message : OutboundMessage} {messages : List OutboundMessage} {dispatches : List Dispatch}
  {outcome : Except CallError (List String)}

theorem nil_iff : Dispatched [] dispatches outcome ↔ dispatches = [] ∧ outcome = .ok [] := by
  constructor
  · intro dispatched
    cases dispatched with
    | all each passes =>
        obtain rfl := List.map_eq_nil_iff.mp each
        exact ⟨rfl, rfl⟩
    | stopped each passes ends => simp at each
  · rintro ⟨rfl, rfl⟩
    exact .all rfl nofun

theorem cons_iff :
    Dispatched (message :: messages) dispatches outcome ↔
      (∃ error, EndsBatch (.error error) ∧ dispatches = [(message, .error error)] ∧
        outcome = .error (.transport error)) ∨
      ∃ answer others rest, ¬EndsBatch answer ∧ dispatches = (message, answer) :: others ∧
        Dispatched messages others rest ∧ outcome = rest.map (answer.toOption.toList ++ ·) := by
  constructor
  · intro dispatched
    cases dispatched with
    | all each passes =>
        obtain ⟨⟨_, answer⟩, others, rfl, rfl, hothers⟩ := List.map_eq_cons_iff.mp each
        obtain ⟨hanswer, passes⟩ := List.forall_mem_cons.mp passes
        refine .inr ⟨answer, others, _, hanswer, rfl, .all hothers passes, ?_⟩
        cases answer <;> rfl
    | @stopped dispatches last rest error each passes ends =>
        cases dispatches with
        | nil =>
            obtain ⟨rfl, rfl⟩ := List.cons.inj each
            exact .inl ⟨error, ends, rfl, rfl⟩
        | cons dispatch others =>
            obtain ⟨rfl, hothers⟩ := List.cons.inj each
            obtain ⟨hanswer, passes⟩ := List.forall_mem_cons.mp passes
            exact .inr ⟨dispatch.2, _, _, hanswer, rfl, .stopped hothers passes ends, rfl⟩
  · rintro (⟨error, ends, rfl, rfl⟩ | ⟨answer, others, rest, hanswer, rfl, dispatched, rfl⟩)
    · exact @stopped _ [] _ _ _ rfl nofun ends
    · cases dispatched with
      | all each passes =>
          have hsids : (((message, answer) : Dispatch) :: others).filterMap (·.2.toOption) =
              answer.toOption.toList ++ others.filterMap (·.2.toOption) := by
            cases answer <;> rfl
          rw [Except.map, ← hsids]
          exact .all (congrArg _ each) (List.forall_mem_cons.mpr ⟨hanswer, passes⟩)
      | @stopped others last rest error each passes ends =>
          exact @stopped _ ((message, answer) :: others) _ _ _ (congrArg _ each)
            (List.forall_mem_cons.mpr ⟨hanswer, passes⟩) ends

theorem ok_iff (dispatched : Dispatched messages dispatches outcome) :
    (∃ sids, outcome = .ok sids) ↔ ∀ dispatch ∈ dispatches, ¬EndsBatch dispatch.2 := by
  cases dispatched with
  | all each passes => exact iff_of_true ⟨_, rfl⟩ passes
  | stopped each passes ends =>
      refine iff_of_false nofun fun h => ?_
      exact h _ (List.mem_append_right _ (List.mem_singleton_self _)) ends

/-- Whatever the provider answers, a batch is dispatched with the first of its answers. -/
theorem exists_of_answers {answers : List (Except TransportError String)}
    (enough : answers.length = messages.length) :
    ∃ dispatches outcome, Dispatched messages dispatches outcome ∧
      dispatches.map Prod.snd <+: answers := by
  induction messages generalizing answers with
  | nil => exact ⟨[], .ok [], .all rfl nofun, List.nil_prefix⟩
  | cons message messages ih =>
      obtain ⟨answer, answers, rfl⟩ := List.exists_cons_of_length_eq_add_one enough
      obtain ⟨others, rest, dispatched, hprefix⟩ := ih (Nat.succ.inj enough)
      by_cases ends : EndsBatch answer
      · obtain ⟨error, rfl, hother⟩ := ends
        refine ⟨_, _, cons_iff.mpr (.inl ⟨error, ⟨error, rfl, hother⟩, rfl, rfl⟩), ?_⟩
        exact List.prefix_append [_] answers
      · refine ⟨_, _, cons_iff.mpr (.inr ⟨answer, others, rest, ends, rfl, dispatched, rfl⟩), ?_⟩
        exact List.cons_prefix_cons.mpr ⟨rfl, hprefix⟩

end Dispatched

namespace Service

open PhoneTree.Action

variable {log : List Exchange} {outcome : Except CallError (List String)}
  {recipient sender : String}

theorem records_sendBodies_cons {body : String} {bodies : List String} :
    Records (sendBodies recipient sender (body :: bodies)) log outcome ↔
      ∃ answer after, log = Dispatch.exchange (⟨recipient, sender, body⟩, answer) :: after ∧
        ((∃ error, EndsBatch (.error error) ∧ answer = .error error ∧ after = [] ∧
            outcome = .error (.transport error)) ∨
          ∃ rest, ¬EndsBatch answer ∧ Records (sendBodies recipient sender bodies) after rest ∧
            outcome = rest.map (answer.toOption.toList ++ ·)) := by
  refine records_ask_bind.trans (exists_congr fun answer => exists_congr fun after => ?_)
  refine and_congr_right fun _ => ?_
  rcases answer with error | sid
  · change Records (if error.isUnsubscribed then _ else _) after outcome ↔ _
    split
    · rename_i hunsubscribed
      have passes : ¬EndsBatch (.error error) := by
        rw [endsBatch_error, hunsubscribed]
        exact nofun
      constructor
      · exact fun others => .inr ⟨outcome, passes, others, by cases outcome <;> rfl⟩
      · rintro (⟨_, ends, ⟨⟩, _⟩ | ⟨rest, _, others, rfl⟩)
        · exact absurd ends passes
        · cases rest <;> exact others
    · rename_i hlistening
      have ends : EndsBatch (.error error) :=
        endsBatch_error.mpr (Bool.not_eq_true _ ▸ hlistening)
      refine records_throw.trans ⟨?_, ?_⟩
      · rintro ⟨rfl, rfl⟩
        exact .inl ⟨error, ends, rfl, rfl, rfl⟩
      · rintro (⟨_, _, ⟨⟩, rfl, rfl⟩ | ⟨_, passes, _⟩)
        · exact ⟨rfl, rfl⟩
        · exact absurd ends passes
  · refine records_map.trans ⟨?_, ?_⟩
    · rintro ⟨rest, others, rfl⟩
      exact .inr ⟨rest, not_endsBatch_ok, others, rfl⟩
    · rintro (⟨_, _, ⟨⟩, _⟩ | ⟨rest, _, others, rfl⟩)
      exact ⟨rest, others, rfl⟩

theorem records_sendBodies {bodies : List String} :
    Records (sendBodies recipient sender bodies) log outcome ↔
      ∃ dispatches, log = dispatches.map Dispatch.exchange ∧
        Dispatched (bodies.map fun body => ⟨recipient, sender, body⟩) dispatches outcome := by
  induction bodies generalizing log outcome with
  | nil =>
      refine records_pure.trans ⟨?_, ?_⟩
      · rintro ⟨rfl, rfl⟩
        exact ⟨[], rfl, Dispatched.nil_iff.mpr ⟨rfl, rfl⟩⟩
      · rintro ⟨dispatches, rfl, dispatched⟩
        obtain ⟨rfl, rfl⟩ := Dispatched.nil_iff.mp dispatched
        exact ⟨rfl, rfl⟩
  | cons body bodies ih =>
      refine records_sendBodies_cons.trans ⟨?_, ?_⟩
      · rintro ⟨_, _, rfl, ⟨error, ends, rfl, rfl, rfl⟩ | ⟨rest, passes, others, rfl⟩⟩
        · exact ⟨_, rfl, Dispatched.cons_iff.mpr (.inl ⟨error, ends, rfl, rfl⟩)⟩
        · obtain ⟨dispatches, rfl, dispatched⟩ := ih.mp others
          refine ⟨_ :: dispatches, rfl, Dispatched.cons_iff.mpr (.inr ?_)⟩
          exact ⟨_, dispatches, rest, passes, rfl, dispatched, rfl⟩
      · rintro ⟨_, rfl, dispatched⟩
        rcases Dispatched.cons_iff.mp dispatched with
          ⟨error, ends, rfl, rfl⟩ | ⟨answer, others, rest, passes, rfl, hothers, rfl⟩
        · exact ⟨_, [], rfl, .inl ⟨error, ends, rfl, rfl, rfl⟩⟩
        · exact ⟨answer, _, rfl, .inr ⟨rest, passes, ih.mpr ⟨others, rfl, hothers⟩, rfl⟩⟩

theorem stored_of_records {number : String} {caller : Caller}
    (found : Records (findOrCreateCaller number) log (.ok caller)) :
    ⟨.callerByNumber (PhoneNumber.key number), .ok (some caller)⟩ ∈ log ∨
      ⟨.saveCaller caller, .ok ()⟩ ∈ log := by
  rw [findOrCreateCaller] at found
  split at found
  · cases (records_throw.mp found).2
  · obtain ⟨answer, after, rfl, hlooked⟩ := records_ask_bind.mp found
    rcases answer with failure | _ | known
    · cases (records_throw.mp hlooked).2
    · obtain ⟨id, _, rfl, hdrawn⟩ := records_ask_bind.mp hlooked
      obtain ⟨createdAt, _, rfl, htimed⟩ := records_ask_bind.mp hdrawn
      obtain ⟨answer, after, rfl, hsaved⟩ := records_ask_bind.mp htimed
      rcases answer with failure | _
      · change Records (if failure.kind = .duplicate then _ else _) after _ at hsaved
        split at hsaved
        · obtain ⟨answer, after, rfl, hagain⟩ := records_ask_bind.mp hsaved
          rcases answer with failure | _ | known
          · cases (records_throw.mp hagain).2
          · cases (records_throw.mp hagain).2
          · obtain ⟨rfl, hcaller⟩ := records_pure.mp hagain
            cases hcaller
            exact .inl (by simp)
        · cases (records_throw.mp hsaved).2
      · obtain ⟨rfl, hcaller⟩ := records_pure.mp hsaved
        cases hcaller
        exact .inr (by simp)
    · obtain ⟨rfl, hcaller⟩ := records_pure.mp hlooked
      cases hcaller
      exact .inl (List.mem_singleton_self _)

/-- A batch is sent in order and each of its messages once, up to the first failure that is not the
recipient's wish, whatever the provider answers. -/
theorem batches_are_sent_in_order {account : Account} {recipient number : String}
    {sender : Option String} {caller : Caller} {found : List Exchange}
    (sends : requireSender account sender = pure number)
    (finds : Records (findOrCreateCaller recipient) found (.ok caller)) (bodies : List String) :
    (⟨.callerByNumber (PhoneNumber.key recipient), .ok (some caller)⟩ ∈ found ∨
        ⟨.saveCaller caller, .ok ()⟩ ∈ found) ∧
      (∀ log result,
        Records (sendMessages account recipient sender bodies) (found ++ log) result ↔
          ∃ dispatches outcome, log = dispatches.map Dispatch.exchange ∧
            Dispatched (batchMessages caller.number number bodies) dispatches outcome ∧
            result = outcome.map fun sids => (caller, sids)) ∧
      (∀ dispatches outcome,
        Dispatched (batchMessages caller.number number bodies) dispatches outcome →
          ((∃ sids, outcome = .ok sids) ↔ ∀ dispatch ∈ dispatches, ¬EndsBatch dispatch.2)) ∧
      ∀ answers : List (Except TransportError String),
        answers.length = (batchMessages caller.number number bodies).length →
          ∃ dispatches outcome,
            Dispatched (batchMessages caller.number number bodies) dispatches outcome ∧
            dispatches.map Prod.snd <+: answers := by
  refine ⟨stored_of_records finds, fun log result => ?_, fun _ _ => Dispatched.ok_iff,
    fun _ => Dispatched.exists_of_answers⟩
  have hbatch : sendMessages account recipient sender bodies =
      findOrCreateCaller recipient >>= fun caller =>
        sendBodies caller.number number (bodies.filter fun body => !Text.isBlank body) >>=
          fun sids => pure (caller, sids) := by
    rw [sendMessages, sends]
    rfl
  rw [hbatch, records_bind_of_ok finds, records_map]
  constructor
  · rintro ⟨outcome, sent, rfl⟩
    obtain ⟨dispatches, rfl, dispatched⟩ := records_sendBodies.mp sent
    exact ⟨dispatches, outcome, rfl, dispatched, rfl⟩
  · rintro ⟨dispatches, outcome, rfl, dispatched, rfl⟩
    exact ⟨outcome, records_sendBodies.mpr ⟨dispatches, rfl, dispatched⟩, rfl⟩

section Mixed

def sendingAccount : Account :=
  ⟨"phone.example.com", "+16135550100", false⟩

def messagedCaller : Caller :=
  ⟨⟨.ofNat 1⟩, "+16135550000", ⟨0⟩⟩

/-- Four bodies and a blank one. -/
def mixedBodies : List String :=
  ["Hello.", " ", "You missed our call.", "Please call back.", "Goodbye."]

/-- The second message is not wanted, and the third cannot be sent. -/
def mixedDispatches : List Dispatch :=
  [(⟨"+16135550000", "+16135550100", "Hello."⟩, .ok "SM1"),
    (⟨"+16135550000", "+16135550100", "You missed our call."⟩,
      .error (.rejected 400 "STOP" (some 21610))),
    (⟨"+16135550000", "+16135550100", "Please call back."⟩, .error (.network "timed out"))]

theorem mixedBodies_are_sent_in_order :
    ∃ found, requireSender sendingAccount none = pure "+16135550100" ∧
      Records (findOrCreateCaller "(613) 555-0000") found (.ok messagedCaller) ∧
      Records (sendMessages sendingAccount "(613) 555-0000" none mixedBodies)
        (found ++ mixedDispatches.map Dispatch.exchange)
        (.error (.transport (.network "timed out"))) ∧
      Records (sendMessages sendingAccount "(613) 555-0000" none (mixedBodies.take 3))
        (found ++ (mixedDispatches.take 2).map Dispatch.exchange) (.ok (messagedCaller, ["SM1"])) := by
  have sends : requireSender sendingAccount none = pure "+16135550100" := rfl
  have finds : Records (findOrCreateCaller "(613) 555-0000")
      [⟨.callerByNumber (PhoneNumber.key "(613) 555-0000"), .ok (some messagedCaller)⟩]
      (.ok messagedCaller) := by
    rw [findOrCreateCaller, if_neg (by decide)]
    exact .ask .done
  have hpasses : ∀ dispatch ∈ mixedDispatches.take 2, ¬EndsBatch dispatch.2 := by
    simp [mixedDispatches, not_endsBatch_ok, endsBatch_error, TransportError.isUnsubscribed,
      TransportError.unsubscribedCode]
  have hbatch := fun bodies => (batches_are_sent_in_order sends finds bodies).2.1
  refine ⟨_, sends, finds, ?_, ?_⟩
  · refine (hbatch _ _ _).mpr
      ⟨mixedDispatches, .error (.transport (.network "timed out")), rfl, ?_, rfl⟩
    have each : (mixedDispatches.take 2).map Prod.fst ++
        [⟨"+16135550000", "+16135550100", "Please call back."⟩,
          ⟨"+16135550000", "+16135550100", "Goodbye."⟩] =
        batchMessages messagedCaller.number "+16135550100" mixedBodies := by decide
    exact .stopped each hpasses (endsBatch_error.mpr rfl)
  · refine (hbatch _ _ _).mpr ⟨mixedDispatches.take 2, .ok ["SM1"], rfl, ?_, rfl⟩
    exact .all (by decide) hpasses

end Mixed

end Service

end PhoneTree

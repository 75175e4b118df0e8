import PhoneTree.Proofs.Copies

namespace PhoneTree

/-- Somebody who changes a session: how the session is found first, and the change, which leaves
the identifier, the call and the version alone. -/
structure Client (α : Type) where
  bySid : Bool
  change : Session → Session × Option α
  id_eq : ∀ session, (change session).1.id = session.id
  sid_eq : ∀ session, (change session).1.sid = session.sid
  version_eq : ∀ session, (change session).1.version = session.version

/-- Whether a program that changes a session ended with an outcome of its change. -/
def hasOutcome {α : Type} : Except CallError (Session × Option α) → Bool
  | .ok (_, some _) => true
  | _ => false

/-- How many updates a program that changes a session contributed: one if it ended with an outcome
of its change. -/
def Thread.updates {ρ α : Type} (thread : Thread ρ (Session × Option α)) : Nat :=
  match thread.rest with
  | .done result => (hasOutcome result).toNat
  | .ask _ _ => 0

/-- A row is found under its identifier and under its call, and is kept without turns. -/
structure Store.Finds (store : Store) (row : Session) : Prop where
  bare : row.turns = []
  byId : store.sessionRow? row.id = some row
  bySid : (store.sessions.find? fun other => other.sid == row.sid) = some row

namespace Client

variable {α : Type}

/-- How a client finds the session. -/
def find (row : Session) (client : Client α) : Action (Option Session) :=
  if client.bySid then do Action.ofAnswer (← Action.ask (.sessionBySid row.sid))
  else do Action.ofAnswer (← Action.ask (.sessionById row.id))

/-- What a client does: it finds the session and updates it. -/
def program (row : Session) (client : Client α) : Action (Session × Option α) := do
  match ← client.find row with
  | some session => Service.updateSession session client.change
  | none => throw (.callNotFound row.sid)

/-- The row that a client leaves in place of one that it has read. -/
def applied (client : Client α) (store : Store) (row : Session) : Session :=
  Store.row (client.change (store.load row)).1.advance

/-- The row after the changes of clients, which are named by their places. -/
def replay (store : Store) (clients : List (Client α)) (row : Session) (places : List Nat) :
    Session :=
  places.foldl (fun row place => (clients[place]?).elim row fun client => client.applied store row)
    row

/-- A program has found a session. -/
def Found (past : List Exchange) (session : Session) : Prop :=
  ∃ exchange ∈ past, exchange.found? = some session

/-- A client reads only its session and, unless it has updated it, sends only what it has made of a
copy that it has found. -/
def MayAsk (row : Session) (client : Client α) (past : List Exchange) (question : Question) : Prop :=
  past.countP Exchange.isUpdate = 0 ∧
    match question with
    | .updateSession sent =>
        ∃ base outcome, Found past base ∧ client.change base = (sent, some outcome)
    | .sessionById id => id = row.id ∨ ∃ base, Found past base ∧ base.id = id
    | .sessionBySid sid => sid = row.sid
    | _ => False

section Alone

variable {row base : Session} {client : Client α} {past : List Exchange}

end Alone

section Replay

variable {store : Store} {clients : List (Client α)} {row : Session}

theorem applied_id (client : Client α) : (client.applied store row).id = row.id :=
  client.id_eq (store.load row)

theorem applied_sid (client : Client α) : (client.applied store row).sid = row.sid :=
  client.sid_eq (store.load row)

theorem applied_version (client : Client α) :
    (client.applied store row).version = row.version + 1 :=
  congrArg (· + 1) (client.version_eq (store.load row))

theorem replay_cons (place : Nat) (places : List Nat) :
    replay store clients row (place :: places) =
      replay store clients
        ((clients[place]?).elim row fun client => client.applied store row) places :=
  rfl

theorem replay_concat {place : Nat} {places : List Nat} {client : Client α}
    (h : clients[place]? = some client) :
    replay store clients row (places ++ [place]) =
      client.applied store (replay store clients row places) := by
  rw [replay, List.foldl_append, List.foldl_cons, h]
  rfl

theorem replay_id (places : List Nat) : (replay store clients row places).id = row.id := by
  induction places generalizing row with
  | nil => rfl
  | cons place places ih =>
      rw [replay_cons, ih]
      cases clients[place]? with
      | none => rfl
      | some client => exact applied_id client

theorem replay_sid (places : List Nat) : (replay store clients row places).sid = row.sid := by
  induction places generalizing row with
  | nil => rfl
  | cons place places ih =>
      rw [replay_cons, ih]
      cases clients[place]? with
      | none => rfl
      | some client => exact applied_sid client

end Replay

end Client

namespace Store

theorem Finds.putRow {store store' : Store} {old row : Session} (h : store.Finds old)
    (hid : row.id = old.id) (hsid : row.sid = old.sid) (bare : row.turns = [])
    (hsessions : store'.sessions = Store.putRow row store.sessions) : store'.Finds row where
  bare := bare
  byId := by
    rw [sessionRow?, hsessions, find_putRow]
    exact if_pos rfl
  bySid := by
    rw [hsessions]
    refine @find_sid_putRow row old _ ?_ ?_
    · rw [hid]
      exact h.byId
    · rw [hsid]
      exact h.bySid

end Store

section Beside

variable {α β : Type}

/-- The places of the clients whose updates were stored, in the order in which they were. -/
def updatePlaces (log : List (Nat × Exchange)) : List Nat :=
  (log.filter fun entry => entry.2.isUpdate).map (·.1)

/-- The clients in the order in which they were begun. -/
def Pool.clients (pool : Pool (Client α) β) : List (Client α) :=
  pool.threads.map (·.origin)

/-- The row that the updates so far make of the first row. -/
def Pool.serial (start : Store) (row : Session) (log : List (Nat × Exchange))
    (pool : Pool (Client α) β) : Session :=
  Client.replay start pool.clients row (updatePlaces log)

/-- The stored row is the one that the updates so far make of the first row, and whoever has a copy
of it in its version has it as it is. -/
structure Pool.IsSerial (start : Store) (row : Session) (log : List (Nat × Exchange))
    (pool : Pool (Client α) β) : Prop where
  finds : pool.state.store.Finds (pool.serial start row log)
  turns : pool.state.store.turns = start.turns
  counts : ∀ place, (updatePlaces log).count place =
    (pool.threads[place]?).elim 0 fun thread => thread.past.countP Exchange.isUpdate
  copies : ∀ thread ∈ pool.threads, ∀ copy, Client.Found thread.past copy →
    copy.id = row.id ∧ copy.version ≤ (pool.serial start row log).version ∧
      (copy.version = (pool.serial start row log).version →
        copy = start.load (pool.serial start row log))

theorem updatePlaces_concat (log : List (Nat × Exchange)) (place : Nat) (exchange : Exchange) :
    updatePlaces (log ++ [(place, exchange)]) =
      updatePlaces log ++ if exchange.isUpdate then [place] else [] := by
  rw [updatePlaces, List.filter_append, List.map_append, ← updatePlaces]
  cases h : exchange.isUpdate <;> simp [h]

namespace Pool

variable {pool : Pool (Client α) β} {start : Store} {row : Session}
  {log : List (Nat × Exchange)} {state : OpenWorld} {index : Nat} {client : Client α}
  {past : List Exchange} {rest rest' : Dialogue Question Question.Answer (Except CallError β)}

theorem clients_resume {thread thread' : Thread (Client α) β}
    (waiting : pool.threads[index]? = some thread) (horigin : thread'.origin = thread.origin) :
    (pool.resume index thread' state).clients = pool.clients := by
  apply List.ext_getElem?
  intro place
  change ((pool.threads.set index thread').map _)[place]? = (pool.threads.map _)[place]?
  by_cases hplace : index = place
  · subst hplace
    obtain ⟨hindex, hthread⟩ := List.getElem?_eq_some_iff.mp waiting
    simp [hindex, hthread, horigin]
  · simp [List.getElem?_set_ne hplace]

theorem IsSerial.counts_resume {exchange : Exchange} (h : pool.IsSerial start row log)
    (waiting : pool.threads[index]? = some ⟨client, past, rest⟩) (place : Nat) :
    (updatePlaces (log ++ [(index, exchange)])).count place =
      ((pool.resume index ⟨client, exchange :: past, rest'⟩ state).threads[place]?).elim 0
        fun thread => thread.past.countP Exchange.isUpdate := by
  rw [updatePlaces_concat, List.count_append, h.counts place]
  change _ = (pool.threads.set index _)[place]?.elim 0 _
  by_cases hplace : index = place
  · subst hplace
    obtain ⟨hindex, _⟩ := List.getElem?_eq_some_iff.mp waiting
    rw [waiting, List.getElem?_set_self hindex, Option.elim_some, Option.elim_some,
      List.countP_cons]
    cases exchange.isUpdate <;> simp
  · have hnone : (if exchange.isUpdate then [index] else []).count place = 0 := by
      cases exchange.isUpdate <;> simp [hplace]
    rw [List.getElem?_set_ne hplace, hnone, Nat.add_zero]

theorem IsSerial.quiet {exchange : Exchange} (h : pool.IsSerial start row log)
    (waiting : pool.threads[index]? = some ⟨client, past, rest⟩)
    (hquiet : exchange.isUpdate = false)
    (hsessions : state.store.sessions = pool.state.store.sessions)
    (hturns : state.store.turns = pool.state.store.turns)
    (hfound : ∀ copy, exchange.found? = some copy →
      copy = start.load (pool.serial start row log)) :
    (pool.resume index ⟨client, exchange :: past, rest'⟩ state).IsSerial start row
      (log ++ [(index, exchange)]) := by
  have hserial : (pool.resume index ⟨client, exchange :: past, rest'⟩ state).serial start row
      (log ++ [(index, exchange)]) = pool.serial start row log := by
    rw [serial, @clients_resume _ _ _ _ _ _ ⟨client, exchange :: past, rest'⟩ waiting rfl,
      updatePlaces_concat, hquiet]
    exact congrArg (Client.replay start pool.clients row) (List.append_nil _)
  refine ⟨?_, hturns.trans h.turns, h.counts_resume waiting, ?_⟩
  · rw [hserial]
    refine ⟨h.finds.bare, ?_, ?_⟩
    · exact (Store.sessionRow?_of_sessions hsessions _).trans h.finds.byId
    · change state.store.sessions.find? _ = _
      rw [hsessions]
      exact h.finds.bySid
  · rw [hserial]
    rintro thread hthread copy ⟨other, hother, hcopy⟩
    rcases exchange_of_resume waiting hthread hother with rfl | ⟨before, hbefore, hother⟩
    · rw [hfound copy hcopy]
      exact ⟨Client.replay_id _, Int.le_refl _, fun _ => rfl⟩
    · exact h.copies before hbefore copy ⟨other, hother, hcopy⟩

/-- A step that stores what a client makes of the row as it is. -/
theorem IsSerial.update {exchange : Exchange} (h : pool.IsSerial start row log)
    (waiting : pool.threads[index]? = some ⟨client, past, rest⟩)
    (hupdate : exchange.isUpdate = true) (hfound : exchange.found? = none)
    (hsessions : state.store.sessions =
      Store.putRow (client.applied start (pool.serial start row log)) pool.state.store.sessions)
    (hturns : state.store.turns = pool.state.store.turns) :
    (pool.resume index ⟨client, exchange :: past, rest'⟩ state).IsSerial start row
      (log ++ [(index, exchange)]) := by
  have hclient : pool.clients[index]? = some client := by
    rw [clients, List.getElem?_map, waiting]
    rfl
  have hserial : (pool.resume index ⟨client, exchange :: past, rest'⟩ state).serial start row
      (log ++ [(index, exchange)]) = client.applied start (pool.serial start row log) := by
    rw [serial, @clients_resume _ _ _ _ _ _ ⟨client, exchange :: past, rest'⟩ waiting rfl,
      updatePlaces_concat, hupdate]
    exact Client.replay_concat hclient
  refine ⟨?_, hturns.trans h.turns, h.counts_resume waiting, ?_⟩
  · rw [hserial]
    exact h.finds.putRow (Client.applied_id client) (Client.applied_sid client) rfl hsessions
  · rw [hserial, Client.applied_version]
    rintro thread hthread copy ⟨other, hother, hcopy⟩
    rcases exchange_of_resume waiting hthread hother with rfl | ⟨before, hbefore, hother⟩
    · rw [hfound] at hcopy
      cases hcopy
    · -- every copy is behind from now on, so nothing is left to show about its row
      obtain ⟨hid, hversion, _⟩ := h.copies before hbefore copy ⟨other, hother, hcopy⟩
      exact ⟨hid, by omega, by omega⟩

theorem IsSerial.ask {question : Question} {answer : question.Answer}
    (h : pool.IsSerial start row log) (mayAsk : client.MayAsk row past question)
    (waiting : pool.threads[index]? = some ⟨client, past, rest⟩)
    (answered : pool.state.Answers question answer state) :
    (pool.resume index ⟨client, ⟨question, answer⟩ :: past, rest'⟩ state).IsSerial start row
      (log ++ [(index, ⟨question, answer⟩)]) := by
  have hcopies := h.copies _ (List.mem_of_getElem? waiting)
  have hload : pool.state.store.load (pool.serial start row log) =
      start.load (pool.serial start row log) := by
    rw [Store.load, Store.turnsOf, h.turns]
    rfl
  cases question with
  | updateSession sent =>
      obtain ⟨_, base, outcome, hbase, hmade⟩ := mayAsk
      obtain ⟨hid, hversion, hcopy⟩ := hcopies base hbase
      have hsent : (client.change base).1 = sent := by rw [hmade]
      have hupdated := OpenWorld.answers_updateSession answered
      have hnothing (failure : Failure) (copy : Session)
          (hfound : Exchange.found? ⟨.updateSession sent, .error failure⟩ = some copy) :
          copy = start.load (pool.serial start row log) := by
        cases hfound
      cases hupdated with
      | stale => exact h.quiet waiting rfl rfl rfl (hnothing _)
      | missing => exact h.quiet waiting rfl rfl rfl (hnothing _)
      | injected => exact h.quiet waiting rfl rfl rfl (hnothing _)
      | stored calm found current =>
          -- the update was stored, so the copy has the version of the row and is the row itself
          refine h.update waiting rfl rfl ?_ rfl
          have hrow := h.finds.byId
          have hserial : (pool.serial start row log).id = sent.id := by
            rw [← hsent, client.id_eq, hid]
            exact Client.replay_id _
          rw [hserial, found] at hrow
          rw [Option.some.inj hrow, ← hsent, client.version_eq] at current
          rw [Client.applied, ← hcopy current.symm, hsent]
          rfl
  | sessionById id =>
      have hid : id = row.id := by
        rcases mayAsk.2 with hid | ⟨base, hbase, rfl⟩
        · exact hid
        · exact (hcopies base hbase).1
      have hserial : (pool.serial start row log).id = id := (Client.replay_id _).trans hid.symm
      obtain ⟨rfl, rfl⟩ := answered
      refine h.quiet waiting rfl rfl rfl ?_
      intro copy hcopy
      obtain ⟨found, hfound, rfl⟩ := Option.map_eq_some_iff.mp hcopy
      rw [← hserial] at hfound
      obtain rfl := Option.some.inj (h.finds.byId.symm.trans hfound)
      exact hload
  | sessionBySid sid =>
      have hserial : (pool.serial start row log).sid = sid :=
        (Client.replay_sid _).trans mayAsk.2.symm
      obtain ⟨rfl, rfl⟩ := answered
      refine h.quiet waiting rfl rfl rfl ?_
      intro copy hcopy
      obtain ⟨found, hfound, rfl⟩ := Option.map_eq_some_iff.mp hcopy
      rw [← hserial] at hfound
      obtain rfl := Option.some.inj (h.finds.bySid.symm.trans hfound)
      exact hload
  | _ => exact mayAsk.2.elim

end Pool

section Runs

variable {start : OpenWorld} {row : Session} {log : List (Nat × Exchange)}
  {pool : Pool (Client α) (Session × Option α)}

end Runs

section Race

def racedRow : Session where
  id := ⟨.ofNat 0⟩
  sid := "CA0"
  direction := .inbound
  treeName := "main"
  caller := ⟨.ofNat 0⟩
  details := {}
  createdAt := ⟨0⟩

end Race

end Beside

end PhoneTree

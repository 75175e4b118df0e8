import PhoneTree.Proofs.Exchange
/-!
Programs side by side in one world.

Any number of programs may be begun at any time, and whichever of them is waiting may have its
question answered next. What every program does on its own, in terms of what it has asked before
and of answers that are never wrong, it also does beside the others.
-/
namespace PhoneTree

/-- A program under way: what it was begun for, what it has asked so far, the latest first, and
what is left of it. -/
structure Thread (ρ α : Type) where
  origin : ρ
  past : List Exchange := []
  rest : Dialogue Question Question.Answer (Except CallError α)

/-- Programs under way in one world, in the order in which they were begun. -/
structure Pool (ρ α : Type) where
  state : OpenWorld
  threads : List (Thread ρ α) := []

variable {ρ α : Type}

/-- The programs with one of them gone on to another point, and the world as it is then. -/
def Pool.resume (pool : Pool ρ α) (index : Nat) (thread : Thread ρ α) (state : OpenWorld) :
    Pool ρ α :=
  { state, threads := pool.threads.set index thread }

theorem Pool.resume_self {pool : Pool ρ α} {place : Nat} {thread thread' : Thread ρ α}
    {state : OpenWorld} (h : pool.threads[place]? = some thread) :
    (pool.resume place thread' state).threads[place]? = some thread' :=
  List.getElem?_set_self (List.getElem?_eq_some_iff.mp h).1

theorem Pool.resume_other {pool : Pool ρ α} {place other : Nat} {thread' : Thread ρ α}
    {state : OpenWorld} (h : place ≠ other) :
    (pool.resume place thread' state).threads[other]? = pool.threads[other]? :=
  List.getElem?_set_ne h

theorem Pool.exchange_of_resume {pool : Pool ρ α} {index : Nat} {origin : ρ}
    {past : List Exchange}
    {rest rest' : Dialogue Question Question.Answer (Except CallError α)} {state : OpenWorld}
    {exchange other : Exchange} {thread : Thread ρ α}
    (waiting : pool.threads[index]? = some ⟨origin, past, rest⟩)
    (hthread : thread ∈ (pool.resume index ⟨origin, exchange :: past, rest'⟩ state).threads)
    (hother : other ∈ thread.past) :
    other = exchange ∨ ∃ before ∈ pool.threads, other ∈ before.past := by
  rcases List.mem_or_eq_of_mem_set hthread with hthread | rfl
  · exact .inr ⟨thread, hthread, hother⟩
  · rcases List.mem_cons.mp hother with rfl | hother
    · exact .inl rfl
    · exact .inr ⟨_, List.mem_of_getElem? waiting, hother⟩

/-- What programs come to side by side, with which of them asked what. Conflicts may come due at
any time. -/
inductive Reaches (program : ρ → Action α) (start : OpenWorld) :
    List (Nat × Exchange) → Pool ρ α → Prop
  | nothing : Reaches program start [] { state := start }
  | begin {log : List (Nat × Exchange)} {pool : Pool ρ α} (origin : ρ)
      (before : Reaches program start log pool) :
      Reaches program start log
        { pool with threads := pool.threads ++ [{ origin, rest := (program origin).run }] }
  | ask {log : List (Nat × Exchange)} {pool : Pool ρ α} {index : Nat} {origin : ρ}
      {past : List Exchange} {question : Question}
      {next : question.Answer → Dialogue Question Question.Answer (Except CallError α)}
      {answer : question.Answer} {state : OpenWorld} (before : Reaches program start log pool)
      (waiting : pool.threads[index]? = some ⟨origin, past, .ask question next⟩)
      (answered : pool.state.Answers question answer state) :
      Reaches program start (log ++ [(index, ⟨question, answer⟩)])
        (pool.resume index ⟨origin, ⟨question, answer⟩ :: past, next answer⟩ state)
  | disturb {log : List (Nat × Exchange)} {pool : Pool ρ α} (due : Nat)
      (before : Reaches program start log pool) :
      Reaches program start log { pool with state := pool.state.withConflicts due }

/-- What an answer always is, whatever is stored. -/
def Truthful : (question : Question) → question.Answer → Prop
  | .updateSession session, answer => ∀ updated, answer = .ok updated → updated = session.advance
  | .sessionById id, answer => ∀ session, answer = .ok (some session) → session.id = id
  | .sessionBySid sid, answer => ∀ session, answer = .ok (some session) → session.sid = sid
  | _, _ => True

/-- The rules of a program that goes by what it has asked before. -/
def histories (MayAsk : List Exchange → Question → Prop) :
    Rules Question Question.Answer (List Exchange) where
  MayAsk := MayAsk
  Answers past question answer past' :=
    Truthful question answer ∧ past' = ⟨question, answer⟩ :: past

theorem histories_ask {MayAsk : List Exchange → Question → Prop} {past : List Exchange}
    {question : Question} {post : question.Answer → List Exchange → Prop}
    {fails : CallError → List Exchange → Prop} (mayAsk : MayAsk past question)
    (done : ∀ answer, Truthful question answer → post answer (⟨question, answer⟩ :: past)) :
    Action.Ensures (histories MayAsk) (Action.ask question) past post fails := by
  refine ⟨mayAsk, ?_⟩
  rintro answer past' ⟨htruthful, rfl⟩
  exact done answer htruthful

theorem OpenWorld.answers_truthful {state state' : OpenWorld} {question : Question}
    {answer : question.Answer} (h : state.Answers question answer state') :
    Truthful question answer := by
  cases question with
  | updateSession session =>
      rintro updated rfl
      cases answers_updateSession h with
      | stored calm found current => rfl
  | sessionById id =>
      rintro session rfl
      exact id_of_sessionById (Except.ok.inj h.1).symm
  | sessionBySid sid =>
      rintro session rfl
      exact sid_of_sessionBySid (Except.ok.inj h.1).symm
  | _ => trivial

/-- What every program does on its own it does beside the others. -/
theorem Reaches.conducts {program : ρ → Action α} {start : OpenWorld}
    {log : List (Nat × Exchange)} {pool : Pool ρ α}
    {MayAsk : ρ → List Exchange → Question → Prop}
    {post : ρ → Except CallError α → List Exchange → Prop}
    (alone : ∀ origin,
      Dialogue.Ensures (histories (MayAsk origin)) (program origin).run [] (post origin))
    (run : Reaches program start log pool) :
    ∀ thread ∈ pool.threads, Dialogue.Ensures (histories (MayAsk thread.origin)) thread.rest
      thread.past (post thread.origin) := by
  induction run with
  | nothing => simp
  | begin origin before ih =>
      intro thread hthread
      rcases List.mem_append.mp hthread with hthread | hthread
      · exact ih thread hthread
      · obtain rfl := List.mem_singleton.mp hthread
        exact alone origin
  | ask before waiting answered ih =>
      intro thread hthread
      rcases List.mem_or_eq_of_mem_set hthread with hthread | rfl
      · exact ih thread hthread
      · -- the program that was answered goes on from what held when it asked
        have hwaiting := ih _ (List.mem_of_getElem? waiting)
        exact hwaiting.2 _ _ ⟨OpenWorld.answers_truthful answered, rfl⟩
  | disturb due before ih => exact ih

/-- What a program asks beside the others it may ask. -/
theorem Reaches.mayAsk {program : ρ → Action α} {start : OpenWorld} {log : List (Nat × Exchange)}
    {pool : Pool ρ α} {MayAsk : ρ → List Exchange → Question → Prop}
    {post : ρ → Except CallError α → List Exchange → Prop} {index : Nat} {origin : ρ}
    {past : List Exchange} {question : Question}
    {next : question.Answer → Dialogue Question Question.Answer (Except CallError α)}
    (alone : ∀ origin,
      Dialogue.Ensures (histories (MayAsk origin)) (program origin).run [] (post origin))
    (run : Reaches program start log pool)
    (waiting : pool.threads[index]? = some ⟨origin, past, .ask question next⟩) :
    MayAsk origin past question :=
  (run.conducts alone _ (List.mem_of_getElem? waiting)).1

/-- What every step of a program brings about, a run of it with nobody beside it does too. -/
theorem Reaches.alone {program : ρ → Action α} {start : OpenWorld} {log : List (Nat × Exchange)}
    {pool : Pool ρ α} {origin : ρ} {result : Except CallError α} {state : OpenWorld}
    {related : OpenWorld → OpenWorld → Prop} (refl : ∀ state, related state state)
    (trans : ∀ {first second third}, related first second → related second third →
      related first third)
    (step : ∀ {log : List (Nat × Exchange)} {pool : Pool ρ α} {index : Nat} {past : List Exchange}
      {question : Question}
      {next : question.Answer → Dialogue Question Question.Answer (Except CallError α)}
      {answer : question.Answer} {state : OpenWorld}, Reaches program start log pool →
        pool.threads[index]? = some ⟨origin, past, .ask question next⟩ →
          pool.state.Answers question answer state → related pool.state state)
    (before : Reaches program start log pool)
    (ran : Action.Runs OpenWorld.rules (program origin) pool.state result state) :
    related pool.state state := by
  suffices h : ∀ {rest value before after}, Dialogue.Runs OpenWorld.rules rest before value after →
      ∀ (log : List (Nat × Exchange)) (pool : Pool ρ α) (index : Nat) (past : List Exchange),
        Reaches program start log pool → pool.threads[index]? = some ⟨origin, past, rest⟩ →
          pool.state = before → related before after by
    refine h ran log _ pool.threads.length [] (.begin origin before) ?_ rfl
    exact List.getElem?_concat_length
  intro rest value before after run
  induction run with
  | done => exact fun _ _ _ _ _ _ _ => refl _
  | @ask question next answer value before middle after answered run ih =>
      rintro log pool index past reached waiting rfl
      refine trans (step reached waiting answered) ?_
      exact ih _ _ index _ (.ask reached waiting answered) (Pool.resume_self waiting) rfl

/-- What is kept by whatever a program may ask holds of all that the programs have asked. -/
theorem Reaches.always {program : ρ → Action α} {start : OpenWorld} {log : List (Nat × Exchange)}
    {pool : Pool ρ α} {MayAsk : ρ → List Exchange → Question → Prop}
    {post : ρ → Except CallError α → List Exchange → Prop} (kept : ρ → List Exchange → Prop)
    (alone : ∀ origin,
      Dialogue.Ensures (histories (MayAsk origin)) (program origin).run [] (post origin))
    (nothing : ∀ origin, kept origin [])
    (step : ∀ origin past question answer, MayAsk origin past question → kept origin past →
      kept origin (⟨question, answer⟩ :: past))
    (run : Reaches program start log pool) :
    ∀ thread ∈ pool.threads, kept thread.origin thread.past := by
  induction run with
  | nothing => simp
  | begin origin before ih =>
      intro thread hthread
      rcases List.mem_append.mp hthread with hthread | hthread
      · exact ih thread hthread
      · obtain rfl := List.mem_singleton.mp hthread
        exact nothing origin
  | ask before waiting answered ih =>
      intro thread hthread
      rcases List.mem_or_eq_of_mem_set hthread with hthread | rfl
      · exact ih thread hthread
      · exact step _ _ _ _ (before.mayAsk alone waiting) (ih _ (List.mem_of_getElem? waiting))
  | disturb due before ih => exact ih

/-- The programs with one more of them begun. -/
def Pool.begun (program : ρ → Action α) (pool : Pool ρ α) (origin : ρ) : Pool ρ α :=
  { pool with threads := pool.threads ++ [{ origin, rest := (program origin).run }] }

/-- What programs under way come to from where they are, with which of them asked what since. -/
inductive Pool.GoesOn (program : ρ → Action α) (pool : Pool ρ α) :
    List (Nat × Exchange) → Pool ρ α → Prop
  | nothing : GoesOn program pool [] pool
  | begin {log : List (Nat × Exchange)} {later : Pool ρ α} (origin : ρ)
      (before : GoesOn program pool log later) :
      GoesOn program pool log (later.begun program origin)
  | ask {log : List (Nat × Exchange)} {later : Pool ρ α} {index : Nat} {origin : ρ}
      {past : List Exchange} {question : Question}
      {next : question.Answer → Dialogue Question Question.Answer (Except CallError α)}
      {answer : question.Answer} {state : OpenWorld} (before : GoesOn program pool log later)
      (waiting : later.threads[index]? = some ⟨origin, past, .ask question next⟩)
      (answered : later.state.Answers question answer state) :
      GoesOn program pool (log ++ [(index, ⟨question, answer⟩)])
        (later.resume index ⟨origin, ⟨question, answer⟩ :: past, next answer⟩ state)
  | disturb {log : List (Nat × Exchange)} {later : Pool ρ α} (due : Nat)
      (before : GoesOn program pool log later) :
      GoesOn program pool log { later with state := later.state.withConflicts due }

theorem Reaches.goesOn {program : ρ → Action α} {start : OpenWorld}
    {log log' : List (Nat × Exchange)} {pool later : Pool ρ α}
    (run : Reaches program start log pool) (goes : pool.GoesOn program log' later) :
    Reaches program start (log ++ log') later := by
  induction goes with
  | nothing =>
      rw [List.append_nil]
      exact run
  | begin origin before ih => exact .begin origin ih
  | ask before waiting answered ih =>
      rw [← List.append_assoc]
      exact .ask ih waiting answered
  | disturb due before ih => exact .disturb due ih

section Play

variable {program : ρ → Action α} {start : OpenWorld}

/-- Lets the programs at some places go on one after another in a world that counts its
identifiers. -/
def Pool.play (log : List (Nat × Exchange)) (pool : Pool ρ α) :
    List Nat → List (Nat × Exchange) × Pool ρ α
  | [] => (log, pool)
  | place :: places =>
      match pool.threads[place]? with
      | some ⟨origin, past, .ask question next⟩ =>
          let answered := World.answer question pool.state.world
          play (log ++ [(place, ⟨question, answered.1⟩)])
            (pool.resume place ⟨origin, ⟨question, answered.1⟩ :: past, next answered.1⟩
              (.ofWorld answered.2)) places
      | _ => play log pool places

/-- The programs after one of them got its question answered by a world that counts its
identifiers. -/
def Pool.answered (pool : Pool ρ α) (place : Nat) (origin : ρ) (past : List Exchange)
    (question : Question)
    (next : question.Answer → Dialogue Question Question.Answer (Except CallError α)) : Pool ρ α :=
  let answer := World.answer question pool.state.world
  pool.resume place ⟨origin, ⟨question, answer.1⟩ :: past, next answer.1⟩ (.ofWorld answer.2)

theorem Pool.play_invariant {kept : Pool ρ α → Prop}
    (step : ∀ (pool : Pool ρ α) (place : Nat) (origin : ρ) (past : List Exchange)
      (question : Question)
      (next : question.Answer → Dialogue Question Question.Answer (Except CallError α)),
      pool.threads[place]? = some ⟨origin, past, .ask question next⟩ → kept pool →
        kept (pool.answered place origin past question next))
    (places : List Nat) (log : List (Nat × Exchange)) {pool : Pool ρ α} (holds : kept pool) :
    kept (pool.play log places).2 := by
  induction places generalizing log pool with
  | nil => exact holds
  | cons place places ih =>
      rw [Pool.play]
      split
      · rename_i waiting
        exact ih _ (step _ _ _ _ _ _ waiting holds)
      · exact ih _ holds

/-- However the others go on, a program that may ask so many questions more is done when it went on
so often. -/
theorem Pool.play_endsWithin {place left : Nat} (places : List Nat) (log : List (Nat × Exchange))
    {pool : Pool ρ α} {thread : Thread ρ α} (begun : pool.threads[place]? = some thread)
    (ends : thread.rest.EndsWithin left) :
    ∃ thread', (pool.play log places).2.threads[place]? = some thread' ∧
      thread'.rest.EndsWithin (left - places.count place) := by
  induction places generalizing log pool thread left with
  | nil => exact ⟨thread, begun, ends⟩
  | cons other places ih =>
      rw [Pool.play]
      by_cases hplace : other = place
      · subst hplace
        obtain ⟨origin, past, rest⟩ := thread
        rw [List.count_cons_self, begun]
        cases rest with
        | done value =>
            have hdone := ih log begun (Dialogue.endsWithin_done (left - 1))
            rwa [Nat.sub_sub, Nat.add_comm] at hdone
        | ask question next =>
            obtain ⟨hleft, hnext⟩ := ends
            obtain ⟨left, rfl⟩ := Nat.exists_eq_succ_of_ne_zero hleft
            have hcount : left.succ - (places.count other + 1) = left - places.count other :=
              Nat.add_sub_add_right left 1 _
            rw [hcount]
            refine ih _ (Pool.resume_self begun) ?_
            exact hnext _ left rfl
      · rw [List.count_cons_of_ne hplace]
        split
        · exact ih _ ((Pool.resume_other hplace).trans begun) ends
        · exact ih _ begun ends

theorem Pool.nextId_le_play (places : List Nat) (log : List (Nat × Exchange)) (pool : Pool ρ α) :
    pool.state.world.nextId ≤ (pool.play log places).2.state.world.nextId := by
  refine @Pool.play_invariant ρ α
    (fun after => pool.state.world.nextId ≤ after.state.world.nextId) ?_ places log pool
    (Nat.le_refl _)
  intro before place origin past question next _ hbefore
  exact Nat.le_trans hbefore (OpenWorld.nextId_le_answer _ _)

theorem Pool.play_counted (places : List Nat) (log : List (Nat × Exchange)) {pool : Pool ρ α}
    (counted : pool.state = .ofWorld pool.state.world) :
    (pool.play log places).2.state = .ofWorld (pool.play log places).2.state.world := by
  refine @Pool.play_invariant ρ α (fun after => after.state = .ofWorld after.state.world) ?_ places
    log pool counted
  intro before place origin past question next _ _
  rfl

/-- A world that counts its identifiers lets programs go on in one of the ways that are open, as
long as the identifiers last. -/
theorem Reaches.play {places : List Nat} {log : List (Nat × Exchange)} {pool : Pool ρ α}
    (run : Reaches program start log pool) (counted : pool.state = .ofWorld pool.state.world)
    (room : (pool.play log places).2.state.world.nextId ≤ Nat.pow 2 128) :
    Reaches program start (pool.play log places).1 (pool.play log places).2 := by
  induction places generalizing log pool with
  | nil => exact run
  | cons place places ih =>
      rw [Pool.play] at room ⊢
      split at room
      · rename_i waiting
        refine ih (.ask run waiting ?_) rfl room
        have hroom := Nat.le_trans (Pool.nextId_le_play _ _ _) room
        rw [counted]
        exact OpenWorld.answers_answer hroom
      · exact ih run counted room

end Play

end PhoneTree

import PhoneTree.Memory.World
import PhoneTree.Proofs.Dialogue
/-!
The world in memory with everything left open that the program does not decide.

The stores, the scheduler and the kept audio answer as they do in memory. The provider and the
callbacks of trees may answer anything, the clock may show any time, and a fresh identifier is any
that was never given out before. A world that counts its identifiers runs programs in one of the
ways that are open.
-/
namespace PhoneTree

/-- A world with the identifiers that it has given out. -/
structure OpenWorld where
  world : World
  drawn : List Uuid

namespace OpenWorld

/-- What is stored about calls. -/
def store (state : OpenWorld) : Store :=
  state.world.store

/-- Puts another store in the place of the one that is there. -/
def withStore (state : OpenWorld) (store : Store) : OpenWorld :=
  { state with world := { state.world with store } }

/-- The world with some number of conflicts due. -/
def withConflicts (state : OpenWorld) (due : Nat) : OpenWorld :=
  state.withStore { state.store with conflicts := due }

/-- How a question may be answered. -/
def Answers (before : OpenWorld) :
    (question : Question) → question.Answer → OpenWorld → Prop
  | .startCall _, _, after =>
      ∃ provider, after = { before with world := { before.world with provider } }
  | .sendMessage _, _, after =>
      ∃ provider, after = { before with world := { before.world with provider } }
  | .fetchRecording _, _, after =>
      ∃ provider, after = { before with world := { before.world with provider } }
  | .runHook hook _ session, _, after =>
      after = { before with
        world := { before.world with hooks := before.world.hooks ++ [(hook, session)] } }
  | .freshId, id, after =>
      id ∉ before.drawn ∧ ∃ nextId, after =
        { world := { before.world with nextId }, drawn := id :: before.drawn }
  | .currentTime, _, after =>
      ∃ clock, after = { before with world := { before.world with clock } }
  | question, answer, after =>
      answer = (World.answer question before.world).1 ∧
        after = { before with world := (World.answer question before.world).2 }

/-- Anything may be asked of the world. -/
def rules : Rules Question Question.Answer OpenWorld where
  MayAsk _ _ := True
  Answers := Answers

/-- The identifiers of the numbers below a number, the greatest first. -/
def idsBelow : Nat → List Uuid
  | 0 => []
  | n + 1 => .ofNat n :: idsBelow n

theorem ofNat_injective {m n : Nat} (hm : m < Nat.pow 2 128) (hn : n < Nat.pow 2 128)
    (h : Uuid.ofNat m = Uuid.ofNat n) : m = n := by
  have hbits : BitVec.ofNat 128 m = BitVec.ofNat 128 n := congrArg Uuid.bits h
  have hvalue := congrArg BitVec.toNat hbits
  simpa only [BitVec.toNat_ofNat, Nat.mod_eq_of_lt hm, Nat.mod_eq_of_lt hn] using hvalue

theorem mem_idsBelow {id : Uuid} {n : Nat} (h : id ∈ idsBelow n) :
    ∃ m, m < n ∧ id = .ofNat m := by
  induction n with
  | zero => simp [idsBelow] at h
  | succ n ih =>
      rcases List.mem_cons.mp h with rfl | h
      · exact ⟨n, by omega, rfl⟩
      · obtain ⟨m, hm, hid⟩ := ih h
        exact ⟨m, by omega, hid⟩

theorem ofNat_notMem_idsBelow {n : Nat} (hn : n < Nat.pow 2 128) : Uuid.ofNat n ∉ idsBelow n := by
  intro h
  obtain ⟨m, hm, hid⟩ := mem_idsBelow h
  have := ofNat_injective hn (by omega) hid
  omega

/-- The open world of a world when its identifiers are counted from zero. -/
def ofWorld (world : World) : OpenWorld :=
  ⟨world, idsBelow world.nextId⟩

theorem write_nextId (world : World) (result : Except Failure Store) :
    (world.write result).2.nextId = world.nextId := by
  cases result <;> rfl

theorem nextId_le_answer (question : Question) (world : World) :
    world.nextId ≤ (World.answer question world).2.nextId := by
  cases question <;> simp [World.answer, write_nextId, World.keepAudio]

theorem answers_answer {question : Question} {world : World}
    (room : (World.answer question world).2.nextId ≤ Nat.pow 2 128) :
    (ofWorld world).Answers question (World.answer question world).1
      (ofWorld (World.answer question world).2) := by
  cases question with
  | freshId =>
      exact ⟨ofNat_notMem_idsBelow room, world.nextId + 1, rfl⟩
  | startCall command => exact ⟨_, rfl⟩
  | sendMessage command => exact ⟨_, rfl⟩
  | fetchRecording url => exact ⟨_, rfl⟩
  | runHook hook callback session => rfl
  | currentTime => exact ⟨_, rfl⟩
  | _ => exact ⟨rfl, by simp [ofWorld, World.answer, write_nextId, World.keepAudio]⟩

/-- A way to answer in a world that counts its identifiers, and that is open as long as the
identifiers last. -/
structure IsOpen (answer : (question : Question) → World → question.Answer × World) : Prop where
  counts : ∀ question world, world.nextId ≤ (answer question world).2.nextId
  allowed : ∀ question world, (answer question world).2.nextId ≤ Nat.pow 2 128 →
    (ofWorld world).Answers question (answer question world).1 (ofWorld (answer question world).2)

theorem isOpen_answer : IsOpen World.answer where
  counts := nextId_le_answer
  allowed _ _ := answers_answer

section Runs

variable {α : Type} {answer : (question : Question) → World → question.Answer × World}

theorem IsOpen.nextId_le_run (h : IsOpen answer)
    (program : Dialogue Question Question.Answer α) (world : World) :
    world.nextId ≤ (program.run answer world).2.nextId := by
  induction program generalizing world with
  | done value => exact Nat.le_refl _
  | ask question next ih => exact Nat.le_trans (h.counts question world) (ih _ _)

/-- Running a program in a world that counts its identifiers is one of its runs, as long as the
identifiers last. -/
theorem IsOpen.runs_run (h : IsOpen answer) (program : Dialogue Question Question.Answer α)
    (world : World) (room : (program.run answer world).2.nextId ≤ Nat.pow 2 128) :
    program.Runs rules (ofWorld world) (program.run answer world).1
      (ofWorld (program.run answer world).2) := by
  induction program generalizing world with
  | done value => exact .done
  | ask question next ih =>
      refine .ask (h.allowed question world ?_) (ih _ _ room)
      exact Nat.le_trans (h.nextId_le_run _ _) room

theorem runs_perform (action : Action α) (world : World)
    (room : (world.perform action).2.nextId ≤ Nat.pow 2 128) :
    Action.Runs rules action (ofWorld world) (world.perform action).1
      (ofWorld (world.perform action).2) :=
  isOpen_answer.runs_run action.run world room

end Runs

end OpenWorld

end PhoneTree

import PhoneTree.Proofs.Exchange

namespace PhoneTree

/-- A write to a turn, as the store is asked for it. -/
inductive TurnWrite
  | input (turn : TurnId) (input : TurnInput)
  | timeout (turn : TurnId)
  | recording (turn : TurnId) (recording : RecordingId)

namespace TurnWrite

/-- The question with which a write is asked for. -/
def question : TurnWrite → Question
  | input turn offered => .recordInput turn offered
  | timeout turn => .markTimedOut turn
  | recording turn attached => .attachToTurn turn attached

def turn : TurnWrite → TurnId
  | input turn _ | timeout turn | recording turn _ => turn

/-- What a write does to its turn. What is there already stays. -/
def change (write : TurnWrite) (turn : Turn) : Turn :=
  match write with
  | input _ offered => turn.merge offered
  | timeout _ => turn.markTimedOut
  | recording _ attached => if turn.recording.isNone then turn.attach attached else turn

/-- What a write makes of a turn that it may name. -/
def applyTo (turn : Turn) (write : TurnWrite) : Turn :=
  if write.turn = turn.id then write.change turn else turn

/-- The input that turns are offered, in order. -/
def inputs (writes : List TurnWrite) : List (TurnId × TurnInput) :=
  writes.filterMap fun
    | input turn offered => some (turn, offered)
    | _ => none

def timeouts (writes : List TurnWrite) : List TurnId :=
  writes.filterMap fun
    | timeout turn => some turn
    | _ => none

def recordings (writes : List TurnWrite) : List (TurnId × RecordingId) :=
  writes.filterMap fun
    | recording turn attached => some (turn, attached)
    | _ => none

/-- The first value that is offered to a turn, by what an offer has to give. -/
def firstFor {α β : Type} (value? : α → Option β) (turn : TurnId) (offers : List (TurnId × α)) :
    Option β :=
  offers.findSome? fun offer => if offer.1 = turn then value? offer.2 else none

end TurnWrite

open TurnWrite

/-- A turn with what it lacks from writes: the first digits, the first transcription and the first
recording that it is offered, and the mark of a timeout if one of them sets it. -/
def Turn.filledBy (turn : Turn) (writes : List TurnWrite) : Turn :=
  { turn with
    digits := turn.digits.or (firstFor (·.digits) turn.id (inputs writes))
    transcription := turn.transcription.or (firstFor (·.transcription) turn.id (inputs writes))
    transcribed := turn.transcribed
      || (turn.transcription.isNone && (firstFor (·.transcription) turn.id (inputs writes)).isSome)
    timedOut := turn.timedOut || (timeouts writes).contains turn.id
    recording := turn.recording.or (firstFor some turn.id (recordings writes)) }

/-- The turns after some writes in their order. -/
def Store.writtenTurns (writes : List TurnWrite) (turns : List Turn) : List Turn :=
  writes.foldl (fun turns write => modifyTurn write.turn write.change turns) turns

/-- The world after writes to turns, of which those that name no stored turn fail. -/
def World.written (world : World) (writes : List TurnWrite) : World :=
  writes.foldl (fun world write => (World.answer write.question world).2) world

section OneTurn

variable {turn : Turn}

theorem TurnWrite.change_facts (write : TurnWrite) (turn : Turn) :
    (write.change turn).facts = turn.facts := by
  cases write with
  | input | timeout => rfl
  | recording _ attached =>
      rw [change]
      split <;> rfl

theorem TurnWrite.change_id (write : TurnWrite) (turn : Turn) : (write.change turn).id = turn.id :=
  congrArg TurnFacts.id (write.change_facts turn)

theorem TurnWrite.applyTo_id (write : TurnWrite) (turn : Turn) :
    (applyTo turn write).id = turn.id := by
  rw [applyTo]
  split
  · exact write.change_id turn
  · rfl

theorem TurnWrite.firstFor_cons {α β : Type} {value? : α → Option β} {id : TurnId}
    {offer : TurnId × α} {offers : List (TurnId × α)} :
    firstFor value? id (offer :: offers) =
      (if offer.1 = id then value? offer.2 else none).or (firstFor value? id offers) := by
  rw [firstFor, List.findSome?_cons]
  cases (if offer.1 = id then value? offer.2 else none) <;> rfl

theorem Turn.filledBy_nil : turn.filledBy [] = turn := by
  simp [filledBy, firstFor, inputs, recordings, timeouts]

theorem Turn.filledBy_input (offered : TurnInput) (writes : List TurnWrite) :
    turn.filledBy (.input turn.id offered :: writes) = (turn.merge offered).filledBy writes := by
  have htranscribed : ∀ first : Option String,
      (turn.transcribed ||
          (turn.transcription.isNone && (offered.transcription.or first).isSome)) =
        (turn.transcribed || (turn.transcription.isNone && offered.transcription.isSome) ||
          ((turn.transcription.or offered.transcription).isNone && first.isSome)) := by
    intro first
    cases turn.transcribed <;> cases turn.transcription <;> cases offered.transcription <;> simp
  simp only [filledBy, merge, inputs, timeouts, recordings, List.filterMap_cons, firstFor_cons,
    if_true, Option.or_assoc, htranscribed]

theorem Turn.filledBy_timeout (writes : List TurnWrite) :
    turn.filledBy (.timeout turn.id :: writes) = turn.markTimedOut.filledBy writes := by
  simp [filledBy, markTimedOut, inputs, timeouts, recordings]

theorem Turn.filledBy_recording (attached : RecordingId) (writes : List TurnWrite) :
    turn.filledBy (.recording turn.id attached :: writes) =
      (change (.recording turn.id attached) turn).filledBy writes := by
  cases hrecording : turn.recording with
  | none =>
      simp [filledBy, change, attach, inputs, timeouts, recordings, firstFor_cons, hrecording]
  | some first =>
      simp [filledBy, change, inputs, timeouts, recordings, hrecording]

theorem Turn.filledBy_other {write : TurnWrite} (writes : List TurnWrite)
    (hother : write.turn ≠ turn.id) : turn.filledBy (write :: writes) = turn.filledBy writes := by
  cases write with
  | input id offered | recording id attached =>
      have hid : ¬id = turn.id := hother
      simp [filledBy, inputs, timeouts, recordings, firstFor_cons, hid]
  | timeout id =>
      have hid : ¬turn.id = id := fun h => hother h.symm
      simp [filledBy, inputs, timeouts, recordings, hid]

theorem Turn.filledBy_cons (write : TurnWrite) (writes : List TurnWrite) :
    turn.filledBy (write :: writes) = (applyTo turn write).filledBy writes := by
  rw [applyTo]
  split
  · rename_i hid
    cases write with
    | input id offered =>
        obtain rfl : id = turn.id := hid
        exact filledBy_input offered writes
    | timeout id =>
        obtain rfl : id = turn.id := hid
        exact filledBy_timeout writes
    | recording id attached =>
        obtain rfl : id = turn.id := hid
        exact filledBy_recording attached writes
  · rename_i hother
    exact filledBy_other writes hother

/-- Writes that offer the same in the same order fill a turn in the same way, however writes of
different kinds come one after another. -/
theorem Turn.filledBy_congr {writes writes' : List TurnWrite} (hinputs : inputs writes = inputs writes')
    (hrecordings : recordings writes = recordings writes')
    (htimeouts : ∀ id, id ∈ timeouts writes ↔ id ∈ timeouts writes') (turn : Turn) :
    turn.filledBy writes = turn.filledBy writes' := by
  have hmarked : (timeouts writes).contains turn.id = (timeouts writes').contains turn.id := by
    rw [Bool.eq_iff_iff, List.contains_iff_mem, List.contains_iff_mem]
    exact htimeouts turn.id
  rw [filledBy, filledBy, hinputs, hrecordings, hmarked]

theorem Turn.filledBy_filter (id : TurnId) (writes : List TurnWrite) :
    turn.filledBy (writes.filter fun write => write.turn ≠ id) =
      if turn.id = id then turn else turn.filledBy writes := by
  induction writes generalizing turn with
  | nil => simp [filledBy_nil]
  | cons write writes ih =>
      by_cases hwrite : write.turn = id
      · rw [List.filter_cons_of_neg (by simpa using hwrite), ih]
        split
        · rfl
        · rename_i hturn
          have hother : write.turn ≠ turn.id := fun h => hturn (h.symm.trans hwrite)
          rw [filledBy_other writes hother]
      · rw [List.filter_cons_of_pos (by simpa using hwrite), filledBy_cons, filledBy_cons, ih,
          applyTo_id]
        split
        · rename_i hturn
          rw [applyTo, if_neg]
          rwa [hturn]
        · rfl

end OneTurn

namespace Store

variable {writes writes' : List TurnWrite}

theorem writtenTurns_nil : writtenTurns writes [] = [] := by
  induction writes with
  | nil => rfl
  | cons write writes ih => exact ih

theorem writtenTurns_cons (turn : Turn) (turns : List Turn) :
    writtenTurns writes (turn :: turns) =
      turn.filledBy writes ::
        writtenTurns (writes.filter fun write => write.turn ≠ turn.id) turns := by
  induction writes generalizing turn turns with
  | nil => simp [writtenTurns, Turn.filledBy_nil]
  | cons write writes ih =>
      rw [writtenTurns, List.foldl_cons, modifyTurn, ← writtenTurns]
      by_cases hwrite : turn.id = write.turn
      · rw [if_pos hwrite, ih, write.change_id, List.filter_cons_of_neg (by simp [hwrite]),
          Turn.filledBy_cons, applyTo, if_pos hwrite.symm]
      · have hother : write.turn ≠ turn.id := fun h => hwrite h.symm
        rw [if_neg hwrite, ih, List.filter_cons_of_pos (by simp [hother]),
          Turn.filledBy_other writes hother]
        rfl

theorem writtenTurns_congr (hsame : ∀ turn : Turn, turn.filledBy writes = turn.filledBy writes')
    (turns : List Turn) : writtenTurns writes turns = writtenTurns writes' turns := by
  induction turns generalizing writes writes' with
  | nil => rw [writtenTurns_nil, writtenTurns_nil]
  | cons turn turns ih =>
      rw [writtenTurns_cons, writtenTurns_cons, hsame turn]
      congr 1
      apply ih
      intro other
      rw [Turn.filledBy_filter, Turn.filledBy_filter, hsame other]

theorem map_writtenTurns {α : Type} {f : Turn → α}
    (hsame : ∀ (write : TurnWrite) turn, f (write.change turn) = f turn) (writes : List TurnWrite)
    (turns : List Turn) : (writtenTurns writes turns).map f = turns.map f := by
  induction writes generalizing turns with
  | nil => rfl
  | cons write writes ih => exact (ih _).trans (map_modifyTurn f (hsame write) turns)

theorem find_writtenTurns (id : TurnId) (turns : List Turn) :
    ((writtenTurns writes turns).find? fun turn => turn.id == id) =
      (turns.find? fun turn => turn.id == id).map fun turn => turn.filledBy writes := by
  induction turns generalizing writes with
  | nil => rw [writtenTurns_nil]; rfl
  | cons turn turns ih =>
      rw [writtenTurns_cons]
      by_cases hid : turn.id = id
      · have hfilled : (turn.filledBy writes).id = id := hid
        simp [hid, hfilled]
      · have hfilled : ¬(turn.filledBy writes).id = id := hid
        rw [List.find?_cons, List.find?_cons, beq_eq_false_iff_ne.mpr hid,
          beq_eq_false_iff_ne.mpr hfilled, ih]
        refine Option.map_congr ?_
        intro other hfound
        have hother : other.id = id := by simpa using List.find?_some hfound
        rw [Turn.filledBy_filter, if_neg]
        rw [hother]
        exact fun h => hid h.symm

theorem turnById_written {store store' : Store} {turn : Turn}
    (found : store.turnById turn.id = some turn)
    (h : store'.turns = writtenTurns writes store.turns) :
    store'.turnById turn.id = some (turn.filledBy writes) := by
  rw [turnById] at found
  rw [turnById, h, find_writtenTurns, found]
  rfl

theorem writtenTurns_eq_map {turns : List Turn} (hids : (turns.map (·.id)).Nodup) :
    writtenTurns writes turns = turns.map fun turn => turn.filledBy writes := by
  induction turns generalizing writes with
  | nil => exact writtenTurns_nil
  | cons turn turns ih =>
      rw [List.map_cons, List.nodup_cons] at hids
      rw [writtenTurns_cons, ih hids.2, List.map_cons]
      congr 1
      apply List.map_congr_left
      intro other hother
      rw [Turn.filledBy_filter, if_neg]
      intro hsame
      exact hids.1 (hsame ▸ List.mem_map_of_mem hother)

theorem modifyTurn_of_absent {id : TurnId} {change : Turn → Turn} {turns : List Turn}
    (h : (turns.find? fun turn => turn.id == id) = none) : modifyTurn id change turns = turns := by
  induction turns with
  | nil => rfl
  | cons turn turns ih =>
      rw [List.find?_eq_none] at h
      have hturn : ¬turn.id = id := by simpa using h turn List.mem_cons_self
      rw [modifyTurn, if_neg hturn, ih]
      rw [List.find?_eq_none]
      exact fun other hother => h other (List.mem_cons_of_mem _ hother)

end Store

namespace World

variable {world : World}

theorem answer_write (write : TurnWrite) :
    (World.answer write.question world).2 =
      { world with store := { world.store with
          turns := Store.modifyTurn write.turn write.change world.store.turns } } := by
  have hchange : (World.answer write.question world).2 =
      (world.write (world.store.changeTurn write.turn write.change)).2 := by
    cases write <;> rfl
  rw [hchange, Store.changeTurn]
  split
  · rfl
  · rename_i habsent
    rw [Store.modifyTurn_of_absent habsent]
    rfl

theorem written_eq (writes : List TurnWrite) :
    world.written writes =
      { world with store := { world.store with
          turns := Store.writtenTurns writes world.store.turns } } := by
  induction writes generalizing world with
  | nil => rfl
  | cons write writes ih =>
      rw [written, List.foldl_cons, answer_write]
      exact ih

/-- However writes to turns come one after another, every turn ends up with what it had and, where
it had nothing, with what it was offered first. The number, the order and the facts of turns and
everything besides turns stay as they are. Writes that offer the same inputs in the same order and
the same recordings in the same order, and mark the same turns as timed out, leave the same. -/
theorem turn_writes_fill_what_is_empty (world : World) (writes : List TurnWrite) :
    (∀ id turn, world.store.turnById id = some turn →
        (world.written writes).store.turnById id = some (turn.filledBy writes)) ∧
      ((world.store.turns.map (·.id)).Nodup →
        (world.written writes).store.turns =
          world.store.turns.map fun turn => turn.filledBy writes) ∧
      (world.written writes).store.turnFacts = world.store.turnFacts ∧
      world.written writes =
        { world with store := { world.store with turns := (world.written writes).store.turns } } ∧
      ∀ writes', inputs writes = inputs writes' → recordings writes = recordings writes' →
        (∀ id, id ∈ timeouts writes ↔ id ∈ timeouts writes') →
          world.written writes = world.written writes' := by
  refine ⟨?_, ?_, ?_, ?_, ?_⟩
  · intro id turn hturn
    rw [written_eq, Store.turnById, Store.find_writtenTurns]
    rw [Store.turnById] at hturn
    rw [hturn]
    rfl
  · intro hids
    rw [written_eq]
    exact Store.writtenTurns_eq_map hids
  · rw [written_eq]
    exact Store.map_writtenTurns TurnWrite.change_facts writes _
  · rw [written_eq]
  · intro writes' hinputs hrecordings htimeouts
    rw [written_eq, written_eq]
    rw [Store.writtenTurns_congr (Turn.filledBy_congr hinputs hrecordings htimeouts)]

section Late

def lateTurn : Turn where
  id := ⟨.ofNat 1⟩
  session := ⟨.ofNat 0⟩
  handle := ⟨"menu"⟩
  createdAt := ⟨0⟩

/-- A timeout and a recording, and after them input in two parts of which the second repeats the
first. -/
def lateWrites : List TurnWrite :=
  [.timeout lateTurn.id, .recording lateTurn.id ⟨.ofNat 2⟩,
    .input lateTurn.id { digits := some "7" },
    .input lateTurn.id { digits := some "8", transcription := some "eight" },
    .recording lateTurn.id ⟨.ofNat 3⟩]

/-- The same offers with the input before everything else, and the timeout twice. -/
def earlyWrites : List TurnWrite :=
  [.input lateTurn.id { digits := some "7" },
    .input lateTurn.id { digits := some "8", transcription := some "eight" },
    .timeout lateTurn.id, .recording lateTurn.id ⟨.ofNat 2⟩,
    .recording lateTurn.id ⟨.ofNat 3⟩, .timeout lateTurn.id]

def lateWorld : World where
  store := { turns := [lateTurn] }

theorem lateWrites_fill_once :
    (lateWorld.written lateWrites).store.turnById lateTurn.id =
        some { lateTurn with
          digits := some "7"
          transcription := some "eight"
          transcribed := true
          timedOut := true
          recording := some ⟨.ofNat 2⟩ } ∧
      (lateWorld.written lateWrites).store.turns =
        lateWorld.store.turns.map (fun turn => turn.filledBy lateWrites) ∧
      lateWorld.written lateWrites = lateWorld.written earlyWrites := by
  obtain ⟨hfound, hturns, _, _, hsame⟩ := turn_writes_fill_what_is_empty lateWorld lateWrites
  refine ⟨hfound lateTurn.id lateTurn rfl, hturns (by decide), ?_⟩
  refine hsame earlyWrites rfl rfl ?_
  intro id
  simp [timeouts, lateWrites, earlyWrites]

end Late

end World

end PhoneTree

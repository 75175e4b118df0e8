import PhoneTree.Proofs.StaticDocument

namespace PhoneTree

namespace MessageFields

/-- A record that no message can be made of: it does not have exactly one of a text, an address and
a pause, it has a voice that nothing is said in, or what it has cannot be said, played or waited
for. -/
def IsMalformed (fields : MessageFields) : Prop :=
  [fields.say.isSome, fields.play.isSome, fields.pause.isSome].count true ≠ 1 ∨
    (fields.voice.isSome = true ∧ fields.say = none) ∨
    (∃ words, fields.say = some words ∧ ¬ Text.IsFilled words) ∨
    (∃ name, fields.voice = some name ∧ ¬ Text.IsFilled name) ∨
    (∃ url, fields.play = some url ∧ ¬ Message.IsAddress url) ∨
    fields.pause = some 0

/-- What a caller hears of a record. What it says is said in its own voice, or else in another. -/
def verb (voice : String) (fields : MessageFields) : Verb :=
  match fields.say, fields.play with
  | some words, _ => ⟨.say, [("voice", fields.voice.getD voice)], some words, []⟩
  | none, some url => ⟨.play, [], some url, []⟩
  | none, none => ⟨.pause, [("length", toString (fields.pause.getD 0))], none, []⟩

/-- A record that has one of its parts, and a voice only beside a text, describes a message. -/
inductive Describes : MessageFields → Message → Prop
  | say (words : String) (voice : Option String) :
      Describes { say := some words, voice } (.say (.fixed words) voice)
  | play (url : String) : Describes { play := some url } (.play (.fixed url))
  | pause (seconds : Nat) : Describes { pause := some seconds } (.pause seconds)

section Message

variable {fields : MessageFields} {message : Message}

theorem message_eq_ok :
    fields.message = .ok message ↔ fields.Describes message ∧ message.IsValid := by
  constructor
  · intro h
    obtain ⟨described, hdescribed, h⟩ := bind_eq_ok.mp h
    have describes : fields.Describes described := by
      rcases fields with ⟨_ | words, _ | url, _ | seconds, _ | name⟩ <;> cases hdescribed
      · exact .pause seconds
      · exact .play url
      · exact .say words none
      · exact .say words (some name)
    split at h
    · cases h
    · rename_i hfault
      rw [← Except.ok.inj h]
      exact ⟨describes, Message.fault?_eq_none.mp hfault⟩
  · rintro ⟨describes, hvalid⟩
    have hfault := Message.fault?_eq_none.mpr hvalid
    refine bind_eq_ok.mpr ⟨message, ?_, ?_⟩
    · cases describes <;> rfl
    · rw [hfault]

/-- A record is malformed just if it describes no valid message. -/
theorem wellFormed_iff :
    ¬ fields.IsMalformed ↔ ∃ message, fields.Describes message ∧ message.IsValid := by
  constructor
  · intro h
    rcases fields with ⟨_ | words, _ | url, _ | seconds, voice⟩ <;> simp [IsMalformed] at h
    · obtain ⟨rfl, _, hseconds⟩ := h
      exact ⟨_, .pause seconds, Nat.pos_of_ne_zero hseconds⟩
    · obtain ⟨rfl, _, haddress⟩ := h
      exact ⟨_, .play url, haddress⟩
    · exact ⟨_, .say words voice, h⟩
  · rintro ⟨message, describes, hvalid⟩
    cases describes with
    | say words voice =>
        have hwords : Text.IsFilled words := hvalid.1
        simpa [IsMalformed, hwords] using hvalid.2
    | play url =>
        have haddress : Message.IsAddress url := hvalid
        simp [IsMalformed, haddress]
    | pause seconds => simpa [IsMalformed] using Nat.ne_of_gt hvalid

theorem isFilled_of_isAddress {url : String} (h : Message.IsAddress url) : Text.IsFilled url := by
  obtain ⟨scheme, hscheme, c, rest, _, hurl⟩ := h
  have hletter : 'h' ∈ scheme.toList := by
    simp only [List.mem_cons, List.not_mem_nil, or_false] at hscheme
    rcases hscheme with rfl | rfl <;> decide
  refine ⟨'h', ?_, by decide⟩
  rw [hurl]
  exact List.mem_append_left _ hletter

theorem Describes.sounds (describes : fields.Describes message) (hvalid : message.IsValid)
    (voice : String) (context : FlowContext) :
    FlowScene.renderMessage voice context message = .ok (some (fields.verb voice)) := by
  cases describes with
  | say words own =>
      have hwords : Text.isBlank words = false := Text.isFilled_iff.mp hvalid.1
      change Except.ok (if Text.isBlank words then _ else _) = _
      rw [hwords]
      rfl
  | play url =>
      have hurl : Text.isBlank url = false := Text.isFilled_iff.mp (isFilled_of_isAddress hvalid)
      change Except.ok (if Text.isBlank url then _ else _) = _
      rw [hurl]
      rfl
  | pause seconds => rfl

theorem Describes.isSilent_eq (describes : fields.Describes message) (hvalid : message.IsValid) :
    message.isSilent = false := by
  cases describes with
  | say words own => exact Text.isFilled_iff.mp hvalid.1
  | play url => rfl
  | pause seconds => rfl

end Message

end MessageFields

namespace MessageDoc

/-- Adds the message of a record to a set. -/
def addLeaf (set : MessageSet) (leaf : MessageFields) : Except TreeError MessageSet :=
  (leaf.message.mapError .badMessage).map set.push

mutual

/-- A document adds its leaves in order. -/
theorem appendTo_eq (set : MessageSet) :
    ∀ doc : MessageDoc, appendTo set doc = doc.leaves.foldlM addLeaf set
  | .text words => by
      rw [appendTo, leaves]
      split
      · rename_i hblank
        rw [MessageSet.push, if_pos (show (Message.ofText words).isSilent = true from hblank)]
        rfl
      · rename_i hblank
        have hmessage : ({ say := some words } : MessageFields).message = .ok (.ofText words) := by
          refine MessageFields.message_eq_ok.mpr ⟨.say words none, ?_, nofun⟩
          exact Text.isFilled_iff.mpr (Bool.not_eq_true _ ▸ hblank)
        rw [List.foldlM_cons, addLeaf, hmessage]
        rfl
  | .list items => by
      rw [appendTo, leaves]
      exact appendItems_eq set items
  | .fields record => by
      rw [appendTo, leaves, List.foldlM_cons, addLeaf]
      cases record.message.mapError TreeError.badMessage <;> rfl

theorem appendItems_eq (set : MessageSet) :
    ∀ items : List MessageDoc, appendItems set items = (itemLeaves items).foldlM addLeaf set
  | [] => by
      rw [appendItems, itemLeaves]
      rfl
  | item :: rest => by
      rw [appendItems, itemLeaves, List.foldlM_append, appendTo_eq set item]
      refine congrArg (List.foldlM addLeaf set item.leaves >>= ·) ?_
      funext set
      exact appendItems_eq set rest

end

section Leaves

variable {leaf : MessageFields} {leaves : List MessageFields} {message : Message}

theorem addLeaf_of_isMalformed (set : MessageSet) (h : leaf.IsMalformed) :
    ∃ error, addLeaf set leaf = .error error := by
  rw [addLeaf]
  cases hmessage : leaf.message with
  | error fault => exact ⟨_, rfl⟩
  | ok message =>
      have hdescribed := MessageFields.message_eq_ok.mp hmessage
      exact absurd h (MessageFields.wellFormed_iff.mpr ⟨message, hdescribed⟩)

theorem addLeaf_of_describes (set : MessageSet) (describes : leaf.Describes message)
    (hvalid : message.IsValid) :
    addLeaf set leaf = .ok ⟨set.entries ++ [.fixed message]⟩ := by
  have hsilent := describes.isSilent_eq hvalid
  rw [addLeaf, MessageFields.message_eq_ok.mpr ⟨describes, hvalid⟩]
  change Except.ok (set.push message) = _
  rw [MessageSet.push, hsilent]
  rfl

theorem addLeaves_of_isMalformed (set : MessageSet) (h : ∃ leaf ∈ leaves, leaf.IsMalformed) :
    ∃ error, leaves.foldlM addLeaf set = .error error := by
  induction leaves generalizing set with
  | nil =>
      obtain ⟨_, hmem, _⟩ := h
      cases hmem
  | cons leaf leaves ih =>
      rw [List.foldlM_cons]
      cases hleaf : addLeaf set leaf with
      | error error => exact ⟨error, rfl⟩
      | ok added =>
          obtain ⟨other, hother, hmalformed⟩ := h
          rcases List.mem_cons.mp hother with rfl | hother
          · obtain ⟨error, herror⟩ := addLeaf_of_isMalformed set hmalformed
            rw [hleaf] at herror
            cases herror
          · exact ih added ⟨other, hother, hmalformed⟩

theorem addLeaves_of_wellFormed (set : MessageSet) (h : ∀ leaf ∈ leaves, ¬ leaf.IsMalformed) :
    ∃ messages : List Message,
      leaves.foldlM addLeaf set = .ok ⟨set.entries ++ messages.map .fixed⟩ ∧
        (∀ message ∈ messages, message.IsValid) ∧
        ∀ (voice : String) (context : FlowContext),
          FlowScene.renderEntries voice context (messages.map .fixed) =
            .ok (leaves.map (·.verb voice)) := by
  induction leaves generalizing set with
  | nil =>
      refine ⟨[], ?_, nofun, ?_⟩
      · rw [List.map_nil, List.append_nil]
        rfl
      · intro voice context
        rw [List.map_nil, FlowScene.renderEntries]
        rfl
  | cons leaf leaves ih =>
      obtain ⟨message, describes, hvalid⟩ :=
        MessageFields.wellFormed_iff.mp (h leaf List.mem_cons_self)
      obtain ⟨messages, hset, hvalids, hverbs⟩ := ih ⟨set.entries ++ [.fixed message]⟩
        fun other hother => h other (List.mem_cons_of_mem _ hother)
      refine ⟨message :: messages, ?_, List.forall_mem_cons.mpr ⟨hvalid, hvalids⟩, ?_⟩
      · rw [List.foldlM_cons, addLeaf_of_describes set describes hvalid]
        refine hset.trans ?_
        rw [List.append_assoc]
        rfl
      · intro voice context
        rw [List.map_cons, FlowScene.renderEntries, FlowScene.renderEntry,
          describes.sounds hvalid, hverbs]
        rfl

end Leaves

/-- The shape of a message document does not matter. It fails to compile just if one of its leaves
is malformed. Otherwise it passes the check of the builder, and a caller hears one verb for each
leaf in order, said in the leaf's own voice or else in that of the tree. Documents with the same
leaves are compiled to the same messages, so that they are heard alike. -/
theorem shapes_of_messages_do_not_matter (doc : MessageDoc) :
    ((∃ error, doc.compile = .error error) ↔ ∃ leaf ∈ doc.leaves, leaf.IsMalformed) ∧
      ((∀ leaf ∈ doc.leaves, ¬ leaf.IsMalformed) →
        ∃ set, doc.compile = .ok set ∧ set.check = .ok () ∧
          ∀ (scene : FlowScene) (context : FlowContext),
            scene.render context set = .ok (doc.leaves.map (·.verb scene.tree.config.voice))) ∧
      ∀ other : MessageDoc, other.leaves = doc.leaves → other.compile = doc.compile := by
  have hadds (doc : MessageDoc) : doc.compile = doc.leaves.foldlM addLeaf {} := appendTo_eq {} doc
  have hcompiles (wellFormed : ∀ leaf ∈ doc.leaves, ¬ leaf.IsMalformed) :
      ∃ set, doc.compile = .ok set ∧ set.check = .ok () ∧
        ∀ (scene : FlowScene) (context : FlowContext),
          scene.render context set = .ok (doc.leaves.map (·.verb scene.tree.config.voice)) := by
    obtain ⟨messages, hset, hvalid, hverbs⟩ := addLeaves_of_wellFormed {} wellFormed
    refine ⟨_, (hadds doc).trans hset, MessageSet.check_eq_ok.mpr ?_, ?_⟩
    · intro message hmessage
      obtain ⟨other, hother, hsame⟩ := List.mem_map.mp hmessage
      rw [← MessageEntry.fixed.inj hsame]
      exact hvalid other hother
    · intro scene context
      exact hverbs scene.tree.config.voice context
  refine ⟨⟨?_, ?_⟩, hcompiles, ?_⟩
  · rintro ⟨error, herror⟩
    refine Classical.byContradiction fun hnone => ?_
    obtain ⟨set, hset, _⟩ := hcompiles fun leaf hleaf hmalformed => hnone ⟨leaf, hleaf, hmalformed⟩
    rw [hset] at herror
    cases herror
  · intro hmalformed
    rw [hadds]
    exact addLeaves_of_isMalformed {} hmalformed
  · intro other hleaves
    rw [hadds, hadds, hleaves]

/-- Two shapes of one message: a text and a pause in a list, and records nested among blanks. -/
def spokenList : MessageDoc :=
  .list [.text "Welcome.", .fields { pause := some 1 }]

/-- Sets within sets, with blank texts among the messages. -/
def spokenNest : MessageDoc :=
  .list [.list [.text " ", .fields { say := some "Welcome." }],
    .list [.list [], .list [.fields { pause := some 1 }, .text ""]]]

/-- A blank text is left out, but a record that says it is malformed. -/
theorem spokenNest_is_heard :
    (∃ set, spokenNest.compile = .ok set ∧ spokenList.compile = .ok set ∧
      ∀ (scene : FlowScene) (context : FlowContext),
        scene.render context set =
          .ok [⟨.say, [("voice", scene.tree.config.voice)], some "Welcome.", []⟩,
            ⟨.pause, [("length", "1")], none, []⟩]) ∧
      ∃ error, (MessageDoc.list [spokenNest, .fields { say := some " " }]).compile =
        .error error := by
  constructor
  · obtain ⟨_, hcompiles, hsame⟩ := shapes_of_messages_do_not_matter spokenNest
    have hwellFormed : ∀ leaf ∈ spokenNest.leaves, ¬ leaf.IsMalformed := by
      have hleaves : spokenNest.leaves = [{ say := some "Welcome." }, { pause := some 1 }] := by
        decide
      intro leaf hleaf
      rw [hleaves] at hleaf
      simp only [List.mem_cons, List.not_mem_nil, or_false] at hleaf
      rcases hleaf with rfl | rfl
      · refine MessageFields.wellFormed_iff.mpr ⟨_, .say "Welcome." none, ?_, nofun⟩
        exact ⟨'W', by decide, by decide⟩
      · exact MessageFields.wellFormed_iff.mpr ⟨_, .pause 1, Nat.le_refl 1⟩
    obtain ⟨set, hset, _, hverbs⟩ := hcompiles hwellFormed
    exact ⟨set, hset, (hsame spokenList (by decide)).trans hset, hverbs⟩
  · refine (shapes_of_messages_do_not_matter _).1.mpr ⟨{ say := some " " }, by decide, ?_⟩
    refine .inr (.inr (.inl ⟨" ", rfl, ?_⟩))
    rw [Text.isFilled_iff]
    decide

end MessageDoc

end PhoneTree

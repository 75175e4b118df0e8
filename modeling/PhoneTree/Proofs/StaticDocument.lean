import PhoneTree.Proofs.StaticTree

namespace PhoneTree

theorem MessageSet.push_isStatic {set : MessageSet} {message : Message}
    (hset : set.isStatic = true) (hmessage : message.isStatic = true) :
    (set.push message).isStatic = true := by
  rw [push]
  split
  · exact hset
  · rw [isStatic, List.all_append, Bool.and_eq_true]
    refine ⟨hset, ?_⟩
    rw [List.all_cons, List.all_nil, Bool.and_true]
    exact hmessage

theorem MessageSet.ofText_isStatic (text : String) : (ofText text).isStatic = true :=
  push_isStatic rfl rfl

theorem MessageFields.message_isStatic {fields : MessageFields} {message : Message}
    (h : fields.message = .ok message) : message.isStatic = true := by
  obtain ⟨described, hdescribed, h⟩ := bind_eq_ok.mp h
  split at h
  · cases h
  · obtain rfl := Except.ok.inj h
    split at hdescribed
    · rw [← Except.ok.inj hdescribed]
      rfl
    · rw [← Except.ok.inj hdescribed]
      rfl
    · rw [← Except.ok.inj hdescribed]
      rfl
    · cases hdescribed
    · cases hdescribed
    · cases hdescribed

namespace MessageDoc

mutual

theorem appendTo_isStatic {set result : MessageSet} (hset : set.isStatic = true) :
    ∀ doc : MessageDoc, appendTo set doc = .ok result → result.isStatic = true
  | .text words, h => by
      rw [appendTo] at h
      rw [← Except.ok.inj h]
      exact MessageSet.push_isStatic hset rfl
  | .list items, h => by
      rw [appendTo] at h
      exact appendItems_isStatic hset items h
  | .fields record, h => by
      rw [appendTo] at h
      cases hmessage : record.message with
      | error fault =>
          rw [hmessage] at h
          cases h
      | ok message =>
          rw [hmessage] at h
          rw [← Except.ok.inj h]
          exact MessageSet.push_isStatic hset (MessageFields.message_isStatic hmessage)

theorem appendItems_isStatic {set result : MessageSet} (hset : set.isStatic = true) :
    ∀ items : List MessageDoc, appendItems set items = .ok result → result.isStatic = true
  | [], h => by
      rw [appendItems] at h
      rw [← Except.ok.inj h]
      exact hset
  | item :: rest, h => by
      rw [appendItems] at h
      obtain ⟨middle, hmiddle, h⟩ := bind_eq_ok.mp h
      exact appendItems_isStatic (appendTo_isStatic hset item hmiddle) rest h

end

theorem compileOptional_isStatic {doc : Option MessageDoc} {messages : Option MessageSet}
    (h : compileOptional doc = .ok messages) : messages.all (·.isStatic) = true := by
  cases doc with
  | none =>
      rw [← Except.ok.inj h]
      rfl
  | some doc =>
      cases hdoc : doc.compile with
      | error error =>
          rw [compileOptional, hdoc] at h
          cases h
      | ok set =>
          rw [compileOptional, hdoc] at h
          rw [← Except.ok.inj h]
          exact appendTo_isStatic rfl doc hdoc

end MessageDoc

theorem getD_isStatic {messages : Option MessageSet} {default : MessageSet}
    (h : messages.all (·.isStatic) = true) (hdefault : default.isStatic = true) :
    (messages.getD default).isStatic = true := by
  cases messages with
  | none => exact hdefault
  | some set => exact h

theorem AfterDoc.compile_isStatic {doc : AfterDoc} {rule : AfterRule}
    (h : doc.compile = .ok rule) : rule.isStatic = true := by
  cases doc with
  | handle name =>
      rw [compile] at h
      split at h
      · cases h
      · rw [← Except.ok.inj h]
        rfl
  | fields record =>
      obtain ⟨target, _, h⟩ := bind_eq_ok.mp h
      obtain ⟨messages, hmessages, h⟩ := bind_eq_ok.mp h
      rw [← Except.ok.inj h]
      exact getD_isStatic (MessageDoc.compileOptional_isStatic hmessages) rfl

theorem PromptDoc.compile_isStatic {doc : PromptDoc} {prompt : Prompt}
    (h : doc.compile = .ok prompt) : prompt.isStatic = true := by
  obtain ⟨messages, hmessages, h⟩ := bind_eq_ok.mp h
  obtain ⟨after, hafter, h⟩ := bind_eq_ok.mp h
  rw [← Except.ok.inj h, Prompt.isStatic, Bool.and_eq_true]
  exact ⟨getD_isStatic (MessageDoc.compileOptional_isStatic hmessages) rfl,
    AfterDoc.compile_isStatic hafter⟩

theorem mapM_eq_ok {ε α β : Type} {f : α → Except ε β} {list : List α} {results : List β}
    (h : list.mapM f = .ok results) : ∀ result ∈ results, ∃ value ∈ list, f value = .ok result := by
  induction list generalizing results with
  | nil =>
      rw [List.mapM_nil] at h
      rw [← Except.ok.inj h]
      simp
  | cons first rest ih =>
      rw [List.mapM_cons] at h
      obtain ⟨result, hfirst, h⟩ := bind_eq_ok.mp h
      obtain ⟨others, hrest, h⟩ := bind_eq_ok.mp h
      rw [← Except.ok.inj h]
      intro other hother
      rcases List.mem_cons.mp hother with rfl | hother
      · exact ⟨first, List.mem_cons_self, hfirst⟩
      · obtain ⟨value, hvalue, hsame⟩ := ih hrest other hother
        exact ⟨value, List.mem_cons_of_mem _ hvalue, hsame⟩

/-- A document that compiles declares a tree that the builder accepts and of which nothing is
computed. -/
theorem TreeDoc.compile_isStatic {doc : TreeDoc} {tree : Tree} (h : doc.compile = .ok tree) :
    tree.IsAccepted ∧ tree.isStatic = true := by
  obtain ⟨draft, hdraft, hbuild⟩ := bind_eq_ok.mp h
  refine ⟨⟨draft, hbuild⟩, ?_⟩
  obtain ⟨greeting, hgreeting, hdraft⟩ := bind_eq_ok.mp hdraft
  obtain ⟨final, hfinal, hdraft⟩ := bind_eq_ok.mp hdraft
  obtain ⟨invalid, hinvalid, hdraft⟩ := bind_eq_ok.mp hdraft
  obtain ⟨prompts, hprompts, hdraft⟩ := bind_eq_ok.mp hdraft
  obtain rfl := Except.ok.inj hdraft
  have hbuilds := TreeDraft.build_eq_ok hbuild
  have hgreet := AfterDoc.compile_isStatic hgreeting
  rw [Option.some.inj hbuilds.greeting] at hgreet
  have hprompt : ∀ prompt ∈ prompts, prompt.isStatic = true := by
    intro prompt hprompt
    obtain ⟨doc, _, hdoc⟩ := mapM_eq_ok hprompts prompt hprompt
    exact PromptDoc.compile_isStatic hdoc
  have hgoodbye := getD_isStatic (MessageDoc.compileOptional_isStatic hfinal)
    (MessageSet.ofText_isStatic "Goodbye.")
  have hturned := MessageDoc.compileOptional_isStatic hinvalid
  simp only [Tree.isStatic, Bool.and_eq_true, List.all_eq_true, ← hbuilds.config,
    ← hbuilds.prompts]
  exact ⟨⟨⟨hgreet, hprompt⟩, hgoodbye⟩, hturned⟩

end PhoneTree

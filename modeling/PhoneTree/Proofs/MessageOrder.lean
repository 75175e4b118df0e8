import PhoneTree.Proofs.StaticDocument

namespace PhoneTree

/-- What stands at one place: a message, or a set that could not be computed. -/
abbrev Passage :=
  Except CallbackError Message

namespace MessageEntry

mutual

/-- The passages of an entry; a computed set is taken apart in its place. -/
def passages (context : FlowContext) : MessageEntry → List Passage
  | .fixed message => [.ok message]
  | .computed value => passagesOfComputed context (value context)

/-- The passages of a computed set, or the one error that it ends with. -/
def passagesOfComputed (context : FlowContext) :
    Except CallbackError (List MessageEntry) → List Passage
  | .error error => [.error error]
  | .ok entries => passagesOfList context entries

/-- The passages of entries in order. -/
def passagesOfList (context : FlowContext) : List MessageEntry → List Passage
  | [] => []
  | entry :: rest => passages context entry ++ passagesOfList context rest

end

variable {context : FlowContext}

theorem passagesOfList_append (entries others : List MessageEntry) :
    passagesOfList context (entries ++ others) =
      passagesOfList context entries ++ passagesOfList context others := by
  induction entries with
  | nil => rw [List.nil_append, passagesOfList, List.nil_append]
  | cons entry rest ih =>
      rw [List.cons_append, passagesOfList, passagesOfList, ih, List.append_assoc]

/-- One computed entry gives way to the entries that it computes. It stands among the entries
themselves or, at any depth, among those that another one computes. -/
inductive Expands (context : FlowContext) : List MessageEntry → List MessageEntry → Prop
  | here (before after : List MessageEntry)
      {value : FlowContext → Except CallbackError (List MessageEntry)}
      {entries : List MessageEntry} (computes : value context = .ok entries) :
      Expands context (before ++ .computed value :: after) (before ++ entries ++ after)
  | within (before after : List MessageEntry)
      {value value' : FlowContext → Except CallbackError (List MessageEntry)}
      {entries entries' : List MessageEntry} (computes : value context = .ok entries)
      (computes' : value' context = .ok entries') (inner : Expands context entries entries') :
      Expands context (before ++ .computed value :: after) (before ++ .computed value' :: after)

theorem passages_computed {value : FlowContext → Except CallbackError (List MessageEntry)}
    {entries : List MessageEntry} (computes : value context = .ok entries) :
    passages context (.computed value) = passagesOfList context entries := by
  rw [passages, computes, passagesOfComputed]

theorem Expands.passages_eq {entries entries' : List MessageEntry}
    (h : Expands context entries entries') :
    passagesOfList context entries = passagesOfList context entries' := by
  induction h with
  | here before after computes =>
      rw [passagesOfList_append, passagesOfList, passages_computed computes, List.append_assoc,
        passagesOfList_append, passagesOfList_append]
  | within before after computes computes' inner ih =>
      rw [passagesOfList_append, passagesOfList_append, passagesOfList, passagesOfList,
        passages_computed computes, passages_computed computes', ih]

end MessageEntry

/-- The passages of a set in order. -/
def MessageSet.passages (context : FlowContext) (set : MessageSet) : List Passage :=
  MessageEntry.passagesOfList context set.entries

/-- The text or address of a message turns out to be blank. -/
def Message.IsMute (context : FlowContext) : Message → Prop
  | .say text _ => ∃ words, text.resolve context = .ok words ∧ ¬ Text.IsFilled words
  | .play url => ∃ address, url.resolve context = .ok address ∧ ¬ Text.IsFilled address
  | .pause _ => False

/-- A verb by which a caller hears something that is not blank, or waits. -/
inductive Verb.IsAudible : Verb → Prop
  | say {words : String} (voice : String) (filled : Text.IsFilled words) :
      IsAudible ⟨.say, [("voice", voice)], some words, []⟩
  | play {url : String} (filled : Text.IsFilled url) : IsAudible ⟨.play, [], some url, []⟩
  | pause (seconds : Nat) : IsAudible ⟨.pause, [("length", toString seconds)], none, []⟩

section Sequences

variable {ε α β : Type} {f : α → Except ε β} {list : List α}

theorem mapM_eq_error_iff {error : ε} :
    list.mapM f = .error error ↔ ∃ before value after, list = before ++ value :: after ∧
      (∀ earlier ∈ before, ∃ result, f earlier = .ok result) ∧ f value = .error error := by
  induction list with
  | nil =>
      refine iff_of_false nofun ?_
      rintro ⟨before, value, after, hlist, _⟩
      exact List.append_ne_nil_of_right_ne_nil _ (List.cons_ne_nil _ _) hlist.symm
  | cons first rest ih =>
      rw [List.mapM_cons]
      cases hfirst : f first with
      | error failure =>
          constructor
          · intro h
            refine ⟨[], first, rest, rfl, nofun, ?_⟩
            rw [hfirst]
            exact congrArg Except.error (Except.error.inj h)
          · rintro ⟨_ | ⟨other, before⟩, value, after, hlist, hbefore, hvalue⟩
            · obtain ⟨rfl, -⟩ := List.cons.inj hlist
              rw [hfirst] at hvalue
              exact congrArg Except.error (Except.error.inj hvalue)
            · obtain ⟨rfl, -⟩ := List.cons.inj hlist
              obtain ⟨result, hresult⟩ := hbefore first List.mem_cons_self
              rw [hfirst] at hresult
              cases hresult
      | ok result =>
          have hrest : (Except.ok result >>= fun value => rest.mapM f >>= fun values =>
              pure (value :: values)) = Except.error error ↔ rest.mapM f = .error error := by
            change (rest.mapM f).bind (fun values => .ok (result :: values)) = _ ↔ _
            cases rest.mapM f with
            | error failure => exact Iff.rfl
            | ok values => exact iff_of_false nofun nofun
          refine (hrest.trans ih).trans ?_
          constructor
          · rintro ⟨before, value, after, rfl, hbefore, hvalue⟩
            refine ⟨first :: before, value, after, rfl, ?_, hvalue⟩
            exact List.forall_mem_cons.mpr ⟨⟨result, hfirst⟩, hbefore⟩
          · rintro ⟨_ | ⟨other, before⟩, value, after, hlist, hbefore, hvalue⟩
            · obtain ⟨rfl, -⟩ := List.cons.inj hlist
              rw [hfirst] at hvalue
              cases hvalue
            · obtain ⟨rfl, rfl⟩ := List.cons.inj hlist
              exact ⟨before, value, after, rfl, (List.forall_mem_cons.mp hbefore).2, hvalue⟩

end Sequences

namespace FlowScene

variable {voice : String} {context : FlowContext}

/-- What a caller hears of a passage. -/
def renderPassage (voice : String) (context : FlowContext) : Passage → Except FlowError (List Verb)
  | .error error => .error (.callback error)
  | .ok message => (renderMessage voice context message).map Option.toList

/-- What a caller hears of passages in order, or the first failure. -/
def renderPassages (voice : String) (context : FlowContext) (passages : List Passage) :
    Except FlowError (List Verb) :=
  (passages.mapM (renderPassage voice context)).map List.flatten

theorem renderPassages_append (passages others : List Passage) :
    renderPassages voice context (passages ++ others) =
      (renderPassages voice context passages).bind fun verbs =>
        (renderPassages voice context others).map fun rest => verbs ++ rest := by
  rw [renderPassages, renderPassages, renderPassages, List.mapM_append]
  cases passages.mapM (renderPassage voice context) with
  | error error => rfl
  | ok verbs =>
      cases others.mapM (renderPassage voice context) with
      | error error => rfl
      | ok rest => exact congrArg Except.ok List.flatten_append

theorem renderPassages_singleton (passage : Passage) :
    renderPassages voice context [passage] = renderPassage voice context passage := by
  rw [renderPassages, List.mapM_cons, List.mapM_nil]
  cases renderPassage voice context passage with
  | error error => rfl
  | ok verbs => exact congrArg Except.ok (List.append_nil verbs)

mutual

theorem renderEntry_eq : ∀ entry : MessageEntry,
    renderEntry voice context entry = renderPassages voice context (entry.passages context)
  | .fixed message => by
      rw [renderEntry, MessageEntry.passages, renderPassages_singleton, renderPassage]
      cases renderMessage voice context message <;> rfl
  | .computed value => by
      rw [renderEntry, MessageEntry.passages]
      exact renderComputed_eq (value context)

theorem renderComputed_eq : ∀ computed : Except CallbackError (List MessageEntry),
    renderComputed voice context computed =
      renderPassages voice context (MessageEntry.passagesOfComputed context computed)
  | .error error => by
      rw [renderComputed, MessageEntry.passagesOfComputed, renderPassages_singleton, renderPassage]
  | .ok entries => by
      rw [renderComputed, MessageEntry.passagesOfComputed]
      exact renderEntries_eq entries

theorem renderEntries_eq : ∀ entries : List MessageEntry,
    renderEntries voice context entries =
      renderPassages voice context (MessageEntry.passagesOfList context entries)
  | [] => by
      rw [renderEntries, MessageEntry.passagesOfList]
      rfl
  | entry :: rest => by
      rw [renderEntries, MessageEntry.passagesOfList, renderPassages_append, renderEntry_eq entry,
        renderEntries_eq rest]
      rfl

end

theorem renderMessage_audible {message : Message} {verb? : Option Verb}
    (h : renderMessage voice context message = .ok verb?) :
    ∀ verb ∈ verb?.toList, verb.IsAudible := by
  cases message with
  | say text own =>
      obtain ⟨words, _, h⟩ := bind_eq_ok.mp h
      rw [← Except.ok.inj h]
      split
      · simp
      · rename_i hfilled
        have haudible := Verb.IsAudible.say (own.getD voice)
          (Text.isFilled_iff.mpr (Bool.not_eq_true _ ▸ hfilled))
        simpa [Verb.say_eq] using haudible
  | play url =>
      obtain ⟨address, _, h⟩ := bind_eq_ok.mp h
      rw [← Except.ok.inj h]
      split
      · simp
      · rename_i hfilled
        have haudible :=
          Verb.IsAudible.play (Text.isFilled_iff.mpr (Bool.not_eq_true _ ▸ hfilled))
        simpa [Verb.play_eq] using haudible
  | pause seconds =>
      rw [← Except.ok.inj h]
      simpa [Verb.pause_eq] using Verb.IsAudible.pause seconds

theorem renderPassages_audible {passages : List Passage} {verbs : List Verb}
    (h : renderPassages voice context passages = .ok verbs) : ∀ verb ∈ verbs, verb.IsAudible := by
  rw [renderPassages] at h
  cases hparts : passages.mapM (renderPassage voice context) with
  | error error =>
      rw [hparts] at h
      cases h
  | ok parts =>
      rw [hparts] at h
      rw [← Except.ok.inj h]
      intro verb hverb
      obtain ⟨part, hpart, hverb⟩ := List.mem_flatten.mp hverb
      obtain ⟨passage, _, hpassage⟩ := mapM_eq_ok hparts part hpart
      cases passage with
      | error error => cases hpassage
      | ok message =>
          cases hmessage : renderMessage voice context message with
          | error error =>
              rw [renderPassage, hmessage] at hpassage
              cases hpassage
          | ok verb? =>
              rw [renderPassage, hmessage] at hpassage
              obtain rfl := Except.ok.inj hpassage
              exact renderMessage_audible hmessage verb hverb

theorem renderPassages_eq_error {passages : List Passage} {error : FlowError} :
    renderPassages voice context passages = .error error ↔
      passages.mapM (renderPassage voice context) = .error error := by
  rw [renderPassages]
  cases passages.mapM (renderPassage voice context) with
  | error failure =>
      constructor
      · exact fun h => congrArg Except.error (Except.error.inj h)
      · exact fun h => congrArg Except.error (Except.error.inj h)
  | ok parts => exact iff_of_false nofun nofun

theorem renderPassage_of_isMute {message : Message} (h : message.IsMute context) :
    renderPassage voice context (.ok message) = .ok [] := by
  cases message with
  | say text own =>
      obtain ⟨words, hwords, hblank⟩ := h
      rw [Text.isFilled_iff, Bool.not_eq_false] at hblank
      rw [renderPassage, renderMessage, hwords]
      change Except.map Option.toList (.ok (if Text.isBlank words then none else _)) = _
      rw [if_pos hblank]
      rfl
  | play url =>
      obtain ⟨address, haddress, hblank⟩ := h
      rw [Text.isFilled_iff, Bool.not_eq_false] at hblank
      rw [renderPassage, renderMessage, haddress]
      change Except.map Option.toList (.ok (if Text.isBlank address then none else _)) = _
      rw [if_pos hblank]
      rfl
  | pause seconds => exact h.elim

theorem renderPassages_cons_of_isMute {message : Message} (h : message.IsMute context)
    (passages : List Passage) :
    renderPassages voice context (.ok message :: passages) =
      renderPassages voice context passages := by
  refine (renderPassages_append [.ok message] passages).trans ?_
  rw [renderPassages_singleton, renderPassage_of_isMute h]
  cases renderPassages voice context passages <;> rfl

end FlowScene

/-- Messages are heard in the order in which they stand. What a caller hears of a set are its
passages one after another, or else the first failure among them. So a set that is appended is
heard after the first one and fails after it, it does not matter at which depth a set is computed,
and all that is heard is either a pause or not blank, for what is blank is left out. -/
theorem messages_are_heard_in_order (scene : FlowScene) (context : FlowContext) :
    (∀ set : MessageSet, scene.render context set =
      ((set.passages context).mapM
        (FlowScene.renderPassage scene.tree.config.voice context)).map List.flatten) ∧
    (∀ (set : MessageSet) (error : FlowError), scene.render context set = .error error ↔
      ∃ before passage after, set.passages context = before ++ passage :: after ∧
        (∀ earlier ∈ before, ∃ verbs,
          FlowScene.renderPassage scene.tree.config.voice context earlier = .ok verbs) ∧
        FlowScene.renderPassage scene.tree.config.voice context passage = .error error) ∧
    (∀ set other : MessageSet, scene.render context (set ++ other) =
      match scene.render context set, scene.render context other with
      | .ok verbs, .ok others => .ok (verbs ++ others)
      | .ok _, .error error => .error error
      | .error error, _ => .error error) ∧
    (∀ set other : MessageSet, MessageEntry.Expands context set.entries other.entries →
      scene.render context other = scene.render context set) ∧
    (∀ (set : MessageSet) (verbs : List Verb), scene.render context set = .ok verbs →
      ∀ verb ∈ verbs, verb.IsAudible) ∧
    ∀ (before after : List MessageEntry) (message : Message), message.IsMute context →
      scene.render context ⟨before ++ .fixed message :: after⟩ =
        scene.render context ⟨before ++ after⟩ := by
  have hrender (set : MessageSet) : scene.render context set =
      FlowScene.renderPassages scene.tree.config.voice context (set.passages context) :=
    FlowScene.renderEntries_eq set.entries
  refine ⟨hrender, ?_, ?_, ?_, ?_, ?_⟩
  · intro set error
    rw [hrender, FlowScene.renderPassages_eq_error, mapM_eq_error_iff]
  · intro set other
    have happend : (set ++ other).passages context =
        set.passages context ++ other.passages context :=
      MessageEntry.passagesOfList_append set.entries other.entries
    rw [hrender, hrender, hrender, happend, FlowScene.renderPassages_append]
    cases FlowScene.renderPassages scene.tree.config.voice context (set.passages context) with
    | error error => rfl
    | ok verbs =>
        cases FlowScene.renderPassages scene.tree.config.voice context (other.passages context) <;>
          rfl
  · intro set other expands
    rw [hrender, hrender, MessageSet.passages, MessageSet.passages, expands.passages_eq]
  · intro set verbs hverbs
    rw [hrender] at hverbs
    exact FlowScene.renderPassages_audible hverbs
  · intro before after message hmute
    have htail := @FlowScene.renderPassages_cons_of_isMute scene.tree.config.voice context _ hmute
      (MessageEntry.passagesOfList context after)
    rw [hrender, hrender, MessageSet.passages, MessageSet.passages,
      MessageEntry.passagesOfList_append, MessageEntry.passagesOfList_append,
      FlowScene.renderPassages_append, FlowScene.renderPassages_append, ← htail]
    rfl

section News

/-- A set that is computed within a computed set, after a blank text. -/
def newsOfTheDay : MessageSet :=
  ⟨[.fixed (.ofText "Welcome."),
    .computed fun _ => .ok [.fixed (.say (.computed fun _ => .ok " ") none),
      .computed fun _ => .ok [.fixed (.pause 1)]],
    .fixed (.play (.fixed "https://example.com/news.mp3"))]⟩

/-- The same set with the inner one taken apart. -/
def newsTakenApart : MessageSet :=
  ⟨[.fixed (.ofText "Welcome."),
    .computed fun _ => .ok [.fixed (.say (.computed fun _ => .ok " ") none), .fixed (.pause 1)],
    .fixed (.play (.fixed "https://example.com/news.mp3"))]⟩

/-- Two sets that cannot be computed, the first of them within another one. -/
def brokenNews : MessageSet :=
  ⟨[.fixed (.ofText "The weather:"),
    .computed fun _ => .ok [.computed fun _ => .error ⟨"no weather"⟩],
    .computed fun _ => .error ⟨"no sports"⟩]⟩

def newsScene : FlowScene where
  tree := { name := "news", config := {}, greeting := .hangup, prompts := [] }
  freshTurn := ⟨⟨0⟩⟩
  now := ⟨0⟩

def newsContext : FlowContext :=
  newsScene.context default none

/-- The blank text is left out, and of two failures the first one shows. -/
theorem newsOfTheDay_is_heard_in_order :
    (∃ verbs, newsScene.render newsContext newsOfTheDay = .ok verbs ∧
      verbs = [⟨.say, [("voice", newsScene.tree.config.voice)], some "Welcome.", []⟩,
        ⟨.pause, [("length", "1")], none, []⟩,
        ⟨.play, [], some "https://example.com/news.mp3", []⟩] ∧
      ∀ verb ∈ verbs, verb.IsAudible) ∧
    newsScene.render newsContext newsTakenApart = newsScene.render newsContext newsOfTheDay ∧
    newsScene.render newsContext (newsOfTheDay ++ brokenNews) =
      .error (.callback ⟨"no weather"⟩) ∧
    newsScene.render newsContext ⟨[.fixed (.ofText ""), .fixed (.pause 2)]⟩ =
      newsScene.render newsContext ⟨[.fixed (.pause 2)]⟩ := by
  obtain ⟨_, _, happend, hexpand, haudible, hmute⟩ :=
    messages_are_heard_in_order newsScene newsContext
  have hverbs : newsScene.render newsContext newsOfTheDay =
      .ok [⟨.say, [("voice", newsScene.tree.config.voice)], some "Welcome.", []⟩,
        ⟨.pause, [("length", "1")], none, []⟩,
        ⟨.play, [], some "https://example.com/news.mp3", []⟩] := rfl
  have hbroken : newsScene.render newsContext brokenNews = .error (.callback ⟨"no weather"⟩) := rfl
  refine ⟨⟨_, hverbs, rfl, haudible _ _ hverbs⟩, ?_, ?_, ?_⟩
  · refine hexpand newsOfTheDay newsTakenApart ?_
    have inner := @MessageEntry.Expands.here newsContext
      [.fixed (.say (.computed fun _ => .ok " ") none)] [] (fun _ => .ok [.fixed (.pause 1)])
      [.fixed (.pause 1)] rfl
    exact .within [_] [_] rfl rfl inner
  · rw [happend, hverbs, hbroken]
  · refine hmute [] [.fixed (.pause 2)] (.ofText "") ⟨"", rfl, ?_⟩
    rw [Text.isFilled_iff]
    decide

end News

end PhoneTree

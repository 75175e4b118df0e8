import PhoneTree.Proofs.FlowSteps
/-!
Reading markup back: what verbs a document was written from.

A document is read in two passes. The first cuts it into tags and texts; an escaped text holds none
of the characters that markup is made of, so a text ends at the next tag and a value at the next
quotation mark. The second goes over the pieces from the last to the first and puts the elements
together, with a frame for every element that has been closed and not opened yet.

The name of an attribute is written as it is and ends at the first equals sign with a quotation mark
behind it. That is all that can be confused.
-/
namespace PhoneTree

namespace Verb

mutual

/-- A verb and all that is nested in it have a property. -/
def Throughout (p : Verb → Prop) : Verb → Prop
  | ⟨kind, attributes, text, children⟩ =>
      p ⟨kind, attributes, text, children⟩ ∧ AllThroughout p children

/-- Verbs and all that is nested in them have a property. -/
def AllThroughout (p : Verb → Prop) : List Verb → Prop
  | [] => True
  | verb :: rest => verb.Throughout p ∧ AllThroughout p rest

end

/-- A verb without nested verbs or without a text. -/
def IsUnmixed (verb : Verb) : Prop :=
  verb.text = none ∨ verb.children = []

/-- No name of an attribute has a place in it where its value would seem to begin. -/
def AreLegible (attributes : List (String × String)) : Prop :=
  ∀ pair ∈ attributes, ¬ ['=', '"'] <:+: pair.1.toList

/-- Markup can tell the attributes of a verb apart. -/
def IsLegible (verb : Verb) : Prop :=
  AreLegible verb.attributes

end Verb

namespace VoiceResponse

/-- All verbs of an answer, however deep, have a property. -/
def Throughout (p : Verb → Prop) (response : VoiceResponse) : Prop :=
  Verb.AllThroughout p response.verbs

/-- A text from its escaped form. -/
def unescape : List Char → List Char
  | '&' :: 'a' :: 'm' :: 'p' :: ';' :: rest => '&' :: unescape rest
  | '&' :: 'l' :: 't' :: ';' :: rest => '<' :: unescape rest
  | '&' :: 'g' :: 't' :: ';' :: rest => '>' :: unescape rest
  | '&' :: 'q' :: 'u' :: 'o' :: 't' :: ';' :: rest => '"' :: unescape rest
  | '&' :: 'a' :: 'p' :: 'o' :: 's' :: ';' :: rest => '\'' :: unescape rest
  | c :: rest => c :: unescape rest
  | [] => []

theorem unescape_escapeChar (c : Char) (rest : List Char) :
    unescape (escapeChar c ++ rest) = c :: unescape rest := by
  fun_cases escapeChar c with
  | case6 c hamp =>
      rw [List.singleton_append, unescape] <;> exact fun _ hc _ => hamp hc
  | _ => rfl

theorem unescape_escape (text : String) : unescape (escape text) = text.toList := by
  rw [escape]
  induction text.toList with
  | nil => rfl
  | cons c rest ih => rw [List.flatMap_cons, unescape_escapeChar, ih]

theorem ofList_unescape_escape (text : String) : String.ofList (unescape (escape text)) = text := by
  rw [unescape_escape, String.ofList_toList]

/-- An escaped text holds neither the beginning of a tag nor the end of a value. -/
theorem not_mem_escape (text : String) : '<' ∉ escape text ∧ '"' ∉ escape text := by
  have hchar : ∀ c, '<' ∉ escapeChar c ∧ '"' ∉ escapeChar c := by
    intro c
    fun_cases escapeChar c with
    | case6 c hamp hlt hgt hquot hapos =>
        exact ⟨by simpa using Ne.symm hlt, by simpa using Ne.symm hquot⟩
    | _ => decide
  simp only [escape, List.mem_flatMap, not_exists, not_and]
  exact ⟨fun c _ => (hchar c).1, fun c _ => (hchar c).2⟩

section Items

variable {α : Type} {read? : List Char → Option (α × List Char)} {item : α}

/-- As many items as can be read one after the other, and what is left. -/
def readMany (read? : List Char → Option (α × List Char)) (input : List Char) :
    List α × List Char :=
  match read? input with
  | none => ([], input)
  | some (item, rest) =>
      if rest.length < input.length then
        let items := readMany read? rest
        (item :: items.1, items.2)
      else ([], input)
termination_by input.length

theorem readMany_stop {input : List Char} (h : read? input = none) :
    readMany read? input = ([], input) := by
  rw [readMany, h]

theorem readMany_step {input rest : List Char} (h : read? input = some (item, rest))
    (hshorter : rest.length < input.length) :
    readMany read? input = (item :: (readMany read? rest).1, (readMany read? rest).2) := by
  rw [readMany, h]
  exact if_pos hshorter

end Items

/-- The name of an attribute, and what follows the mark that its value begins with. -/
def name? : List Char → Option (List Char × List Char)
  | [] => none
  | '=' :: '"' :: rest => some ([], rest)
  | c :: rest => (name? rest).map fun read => (c :: read.1, read.2)

theorem name?_append {name : List Char} (h : ¬ ['=', '"'] <:+: name) (rest : List Char) :
    name? (name ++ '=' :: '"' :: rest) = some (name, rest) := by
  induction name with
  | nil => rw [List.nil_append, name?]
  | cons c name ih =>
      have hname : ¬ ['=', '"'] <:+: name := fun hmark =>
        h (hmark.trans (List.suffix_cons c name).isInfix)
      rw [List.cons_append, name?, ih hname]
      · rfl
      · rintro after rfl hafter
        cases name with
        | nil => cases hafter
        | cons d name =>
            obtain rfl : d = '"' := (List.cons.inj hafter).1
            exact h ⟨[], name, rfl⟩

/-- An attribute with the space before it, and what follows it. -/
def attribute? : List Char → Option ((String × String) × List Char)
  | ' ' :: input => do
      let (name, input) ← name? input
      let value := input.takeWhile (· != '"')
      let rest := input.dropWhile (· != '"')
      return ((.ofList name, .ofList (unescape value)), rest.drop 1)
  | _ => none

theorem takeWhile_append_mark {text : List Char} {mark : Char} (h : mark ∉ text)
    (rest : List Char) : (text ++ mark :: rest).takeWhile (· != mark) = text := by
  rw [List.takeWhile_append_of_pos]
  · simp
  · rintro c hc
    simpa using fun heq : c = mark => h (heq ▸ hc)

theorem dropWhile_append_mark {text : List Char} {mark : Char} (h : mark ∉ text)
    (rest : List Char) : (text ++ mark :: rest).dropWhile (· != mark) = mark :: rest := by
  rw [List.dropWhile_append_of_pos]
  · simp
  · rintro c hc
    simpa using fun heq : c = mark => h (heq ▸ hc)

theorem attribute?_write {name : String} (h : ¬ ['=', '"'] <:+: name.toList) (value : String)
    (rest : List Char) :
    attribute? (' ' :: (name.toList ++ '=' :: '"' :: (escape value ++ '"' :: rest))) =
      some ((name, value), rest) := by
  have hquot := (not_mem_escape value).2
  simp only [attribute?, name?_append h, Option.bind_eq_bind, Option.bind_some,
    takeWhile_append_mark hquot, dropWhile_append_mark hquot, ofList_unescape_escape,
    String.ofList_toList, List.drop_one, List.tail_cons]
  rfl

theorem readMany_writeAttributes {attributes : List (String × String)} {rest : List Char}
    (h : Verb.AreLegible attributes) (hrest : attribute? rest = none) :
    readMany attribute? (writeAttributes attributes ++ rest) = (attributes, rest) := by
  induction attributes with
  | nil => exact readMany_stop hrest
  | cons pair others ih =>
      obtain ⟨name, value⟩ := pair
      obtain ⟨hname, hothers⟩ := List.forall_mem_cons.mp h
      have hfirst := attribute?_write hname value (writeAttributes others ++ rest)
      simp only [writeAttributes, List.cons_append, List.append_assoc]
      rw [readMany_step hfirst (by simp; omega), ih hothers]

/-- A part of a document: the tag of an empty element, the tags around what is in an element, or a
text. -/
inductive Piece
  | single (kind : VerbKind) (attributes : List (String × String))
  | opening (kind : VerbKind) (attributes : List (String × String))
  | text (content : String)
  | closing (kind : VerbKind)

/-- All kinds of verbs. -/
def kinds : List VerbKind :=
  [.say, .play, .pause, .gather, .record, .redirect, .hangup]

/-- The kind of the verb that a tag names, and what follows the name. -/
def kind? (input : List Char) : Option (VerbKind × List Char) :=
  (kinds.find? fun kind => kind.name.toList.isPrefixOf input).map fun kind =>
    (kind, input.drop kind.name.length)

theorem kind?_name (kind : VerbKind) (rest : List Char) :
    kind? (kind.name.toList ++ rest) = some (kind, rest) := by
  cases kind <;> rfl

/-- What a tag with a name and attributes is, by its end, and what follows it. -/
def tagEnd? (kind : VerbKind) (attributes : List (String × String)) :
    List Char → Option (Piece × List Char)
  | '/' :: '>' :: rest => some (.single kind attributes, rest)
  | '>' :: rest => some (.opening kind attributes, rest)
  | _ => none

/-- A tag that does not close an element, after its bracket. -/
def tag? (input : List Char) : Option (Piece × List Char) := do
  let (kind, input) ← kind? input
  let (attributes, input) := readMany attribute? input
  tagEnd? kind attributes input

/-- A tag that closes an element, after its bracket and slash. -/
def closingTag? (input : List Char) : Option (Piece × List Char) := do
  let (kind, input) ← kind? input
  match input with
  | '>' :: rest => return (.closing kind, rest)
  | _ => none

/-- The next tag or text, and what follows it. -/
def piece? : List Char → Option (Piece × List Char)
  | [] => none
  | '<' :: '/' :: input => closingTag? input
  | '<' :: input => tag? input
  | input =>
      some (.text (.ofList (unescape (input.takeWhile (· != '<')))), input.dropWhile (· != '<'))

/-- The pieces of a text, which has none where it is empty. -/
def textPieces (text : String) : List Piece :=
  if text = "" then [] else [.text text]

mutual

/-- The pieces that a verb is written as. -/
def piecesOf : Verb → List Piece
  | ⟨kind, attributes, text, children⟩ =>
      match text, children with
      | none, [] => [.single kind attributes]
      | text, children =>
          .opening kind attributes :: textPieces (text.getD "") ++ piecesOfAll children
            ++ [.closing kind]

/-- The pieces that verbs are written as. -/
def piecesOfAll : List Verb → List Piece
  | [] => []
  | verb :: rest => piecesOf verb ++ piecesOfAll rest

end

theorem tag?_write {kind : VerbKind} {attributes : List (String × String)} {input : List Char}
    (h : Verb.AreLegible attributes) (hinput : attribute? input = none) :
    tag? (kind.name.toList ++ (writeAttributes attributes ++ input)) =
      tagEnd? kind attributes input := by
  rw [tag?, kind?_name]
  dsimp only [Option.bind_eq_bind, Option.bind_some]
  rw [readMany_writeAttributes h hinput]

theorem closingTag?_name (kind : VerbKind) (rest : List Char) :
    closingTag? (kind.name.toList ++ '>' :: rest) = some (.closing kind, rest) := by
  rw [closingTag?, kind?_name]
  rfl

theorem piece?_tag {kind : VerbKind} (rest : List Char) :
    piece? ('<' :: (kind.name.toList ++ rest)) = tag? (kind.name.toList ++ rest) := by
  cases kind <;> rfl

theorem piece?_text {text : String} (h : text ≠ "") (rest : List Char) :
    piece? (escape text ++ '<' :: rest) = some (.text text, '<' :: rest) := by
  have hlt := (not_mem_escape text).1
  have hread := ofList_unescape_escape text
  cases hescaped : escape text with
  | nil =>
      rw [hescaped] at hread
      exact absurd hread.symm h
  | cons c others =>
      rw [hescaped] at hlt hread
      have hc : c ≠ '<' := fun heq => hlt (heq ▸ List.mem_cons_self)
      rw [List.cons_append, piece?, ← List.cons_append, takeWhile_append_mark hlt,
        dropWhile_append_mark hlt, hread]
      · simp
      · simp [hc]
      · simp [hc]

/-- Reading a document finds some pieces before it comes to the rest. -/
def Reads (input : List Char) (pieces : List Piece) (rest : List Char) : Prop :=
  readMany piece? input = (pieces ++ (readMany piece? rest).1, (readMany piece? rest).2)

theorem Reads.refl (input : List Char) : Reads input [] input := rfl

theorem Reads.trans {input middle rest : List Char} {pieces others : List Piece}
    (first : Reads input pieces middle) (second : Reads middle others rest) :
    Reads input (pieces ++ others) rest := by
  rw [Reads, first, second, List.append_assoc]

theorem Reads.of_piece {input rest : List Char} {piece : Piece}
    (h : piece? input = some (piece, rest)) (hshorter : rest.length < input.length) :
    Reads input [piece] rest :=
  readMany_step h hshorter

theorem reads_text (text : String) {rest : List Char} (hrest : rest.head? = some '<') :
    Reads (escape text ++ rest) (textPieces text) rest := by
  obtain ⟨tail, rfl⟩ := List.head?_eq_some_iff.mp hrest
  by_cases hempty : text = ""
  · rw [textPieces, if_pos hempty, hempty]
    exact .refl _
  · have hescaped : escape text ≠ [] := by
      intro hnil
      have hread := ofList_unescape_escape text
      rw [hnil] at hread
      exact hempty hread.symm
    have hlength := List.length_pos_iff.mpr hescaped
    rw [textPieces, if_neg hempty]
    exact .of_piece (piece?_text hempty tail) (by simpa using hlength)

theorem reads_tag {kind : VerbKind} {attributes : List (String × String)} {piece : Piece}
    {input rest : List Char} (h : Verb.AreLegible attributes)
    (hinput : attribute? input = none) (hend : tagEnd? kind attributes input = some (piece, rest))
    (hshorter : rest.length < input.length) :
    Reads ('<' :: kind.name.toList ++ writeAttributes attributes ++ input) [piece] rest := by
  simp only [List.append_assoc, List.cons_append]
  refine .of_piece ((piece?_tag _).trans ((tag?_write h hinput).trans hend)) ?_
  simp only [List.length_cons, List.length_append]
  omega

theorem reads_closing (kind : VerbKind) (rest : List Char) :
    Reads ('<' :: '/' :: kind.name.toList ++ '>' :: rest) [.closing kind] rest :=
  .of_piece (closingTag?_name kind rest) (by simp; omega)

theorem head?_writeVerbs_append (verbs : List Verb) (rest : List Char) :
    (writeVerbs verbs ++ '<' :: rest).head? = some '<' := by
  cases verbs with
  | nil => rfl
  | cons verb others =>
      cases verb
      rw [writeVerbs, writeVerb.eq_def]
      rfl

theorem writeVerb_append {kind : VerbKind} {attributes : List (String × String)}
    {text : Option String} {children : List Verb} (h : ¬ (text = none ∧ children = []))
    (rest : List Char) :
    writeVerb ⟨kind, attributes, text, children⟩ ++ rest =
      '<' :: kind.name.toList ++ writeAttributes attributes ++
        '>' :: (escape (text.getD "") ++
          (writeVerbs children ++ ('<' :: '/' :: kind.name.toList ++ '>' :: rest))) := by
  rw [writeVerb]
  · simp
  · exact fun htext hchildren => h ⟨htext, hchildren⟩

theorem piecesOf_element {kind : VerbKind} {attributes : List (String × String)}
    {text : Option String} {children : List Verb} (h : ¬ (text = none ∧ children = [])) :
    piecesOf ⟨kind, attributes, text, children⟩ =
      .opening kind attributes :: textPieces (text.getD "") ++ piecesOfAll children
        ++ [.closing kind] := by
  rw [piecesOf]
  exact fun htext hchildren => h ⟨htext, hchildren⟩

mutual

theorem reads_writeVerb : ∀ (verb : Verb) (rest : List Char),
    verb.Throughout Verb.IsLegible → Reads (writeVerb verb ++ rest) (piecesOf verb) rest
  | ⟨kind, attributes, text, children⟩, rest, ⟨hnames, hchildren⟩ => by
      by_cases hempty : text = none ∧ children = []
      · obtain ⟨rfl, rfl⟩ := hempty
        rw [writeVerb, piecesOf, List.append_assoc]
        exact reads_tag hnames rfl rfl (Nat.lt_succ_of_lt (Nat.lt_succ_self _))
      · rw [writeVerb_append hempty, piecesOf_element hempty]
        have hopening (input : List Char) : Reads
            ('<' :: kind.name.toList ++ writeAttributes attributes ++ '>' :: input)
            [.opening kind attributes] input :=
          reads_tag hnames rfl rfl (by simp)
        have htext := reads_text (text.getD "")
          (head?_writeVerbs_append children ('/' :: kind.name.toList ++ '>' :: rest))
        have hinside := reads_writeVerbs children ('<' :: '/' :: kind.name.toList ++ '>' :: rest)
          hchildren
        exact (((hopening _).trans htext).trans hinside).trans (reads_closing kind rest)

theorem reads_writeVerbs : ∀ (verbs : List Verb) (rest : List Char),
    Verb.AllThroughout Verb.IsLegible verbs →
      Reads (writeVerbs verbs ++ rest) (piecesOfAll verbs) rest
  | [], rest, _ => .refl rest
  | verb :: others, rest, ⟨hverb, hothers⟩ => by
      rw [writeVerbs, piecesOfAll, List.append_assoc]
      exact (reads_writeVerb verb _ hverb).trans (reads_writeVerbs others rest hothers)

end

/-- What has been read of an element from its end: the kind that it is closed with, a text, and the
verbs in it. The document itself has no kind. -/
structure Frame where
  kind : Option VerbKind := none
  text : Option String := none
  verbs : List Verb := []

/-- The text of the element of a frame: one that is not a single tag has at least an empty text. -/
def Frame.content (frame : Frame) : Option String :=
  match frame.text, frame.verbs with
  | none, [] => some ""
  | text, _ => text

/-- Takes in the piece in front of those that have been read. -/
def raise : Piece → List Frame → Option (List Frame)
  | .closing kind, frames => some ({ kind := some kind } :: frames)
  | .text content, ⟨kind, none, []⟩ :: frames => some (⟨kind, some content, []⟩ :: frames)
  | .single kind attributes, ⟨outer, none, verbs⟩ :: frames =>
      some (⟨outer, none, { kind, attributes } :: verbs⟩ :: frames)
  | .opening kind attributes, inner :: ⟨outer, none, verbs⟩ :: frames =>
      if inner.kind = some kind then
        some (⟨outer, none, ⟨kind, attributes, inner.content, inner.verbs⟩ :: verbs⟩ :: frames)
      else none
  | _, _ => none

/-- The answer that a document was written from. -/
def decode? (document : String) : Option VoiceResponse :=
  let input := document.toList
  if opening.isPrefixOf input then
    let (pieces, rest) := readMany piece? (input.drop opening.length)
    if rest = closing then
      match pieces.foldrM raise [{}] with
      | some [⟨none, none, verbs⟩] => some ⟨verbs⟩
      | _ => none
    else none
  else none

theorem foldrM_textPieces (kind : VerbKind) {text : Option String} {children : List Verb}
    (hunmixed : text = none ∨ children = []) (hfilled : ¬ (text = none ∧ children = []))
    (frames : List Frame) :
    ∃ frame : Frame,
      (textPieces (text.getD "")).foldrM raise (⟨some kind, none, children⟩ :: frames) =
        some (frame :: frames) ∧
      frame.kind = some kind ∧ frame.content = text ∧ frame.verbs = children := by
  cases text with
  | none =>
      refine ⟨⟨some kind, none, children⟩, rfl, rfl, ?_, rfl⟩
      cases children with
      | nil => exact absurd ⟨rfl, rfl⟩ hfilled
      | cons child others => rfl
  | some content =>
      obtain rfl : children = [] := hunmixed.resolve_left (by simp)
      by_cases hempty : content = ""
      · subst hempty
        exact ⟨_, rfl, rfl, rfl, rfl⟩
      · rw [Option.getD_some, textPieces, if_neg hempty]
        exact ⟨⟨some kind, some content, []⟩, rfl, rfl, rfl, rfl⟩

mutual

theorem foldrM_piecesOf : ∀ (verb : Verb) (outer : Option VerbKind) (verbs : List Verb)
    (frames : List Frame), verb.Throughout Verb.IsUnmixed →
      (piecesOf verb).foldrM raise (⟨outer, none, verbs⟩ :: frames) =
        some (⟨outer, none, verb :: verbs⟩ :: frames)
  | ⟨kind, attributes, text, children⟩, outer, verbs, frames, ⟨hunmixed, hchildren⟩ => by
      by_cases hempty : text = none ∧ children = []
      · obtain ⟨rfl, rfl⟩ := hempty
        rw [piecesOf]
        rfl
      · have hinside := foldrM_piecesOfAll children (some kind) [] (⟨outer, none, verbs⟩ :: frames)
          hchildren
        obtain ⟨frame, htext, hkind, hcontent, hverbs⟩ :=
          foldrM_textPieces kind hunmixed hempty (⟨outer, none, verbs⟩ :: frames)
        have hopening : raise (.opening kind attributes) (frame :: ⟨outer, none, verbs⟩ :: frames) =
            some (⟨outer, none, ⟨kind, attributes, text, children⟩ :: verbs⟩ :: frames) := by
          rw [raise, if_pos hkind, hcontent, hverbs]
        rw [List.append_nil] at hinside
        rw [piecesOf_element hempty]
        simp only [List.cons_append, List.foldrM_cons, List.foldrM_append, List.foldrM_nil,
          pure_bind, raise, Option.bind_eq_bind, Option.bind_some, hinside, htext]
        exact hopening

theorem foldrM_piecesOfAll : ∀ (children : List Verb) (outer : Option VerbKind) (verbs : List Verb)
    (frames : List Frame), Verb.AllThroughout Verb.IsUnmixed children →
      (piecesOfAll children).foldrM raise (⟨outer, none, verbs⟩ :: frames) =
        some (⟨outer, none, children ++ verbs⟩ :: frames)
  | [], _, _, _, _ => rfl
  | verb :: others, outer, verbs, frames, ⟨hverb, hothers⟩ => by
      rw [piecesOfAll, List.foldrM_append, foldrM_piecesOfAll others _ _ _ hothers]
      exact foldrM_piecesOf verb _ _ _ hverb

end

theorem piece?_closing : piece? closing = none := rfl

theorem decode?_toXml {response : VoiceResponse} (hunmixed : response.Throughout Verb.IsUnmixed)
    (hlegible : response.Throughout Verb.IsLegible) :
    decode? response.toXml = some response := by
  obtain ⟨verbs⟩ := response
  have hread := reads_writeVerbs verbs closing hlegible
  rw [Reads, readMany_stop piece?_closing, List.append_nil] at hread
  have hbuilt := foldrM_piecesOfAll verbs none [] [] hunmixed
  rw [List.append_nil] at hbuilt
  have hprefix : opening.isPrefixOf (opening ++ (writeVerbs verbs ++ closing)) = true := by
    simp
  simp only [decode?, toXml, String.toList_ofList, List.append_assoc, hprefix, if_true,
    List.drop_left, hread, hbuilt]

end VoiceResponse

namespace Verb

theorem allThroughout_iff {p : Verb → Prop} {verbs : List Verb} :
    AllThroughout p verbs ↔ ∀ verb ∈ verbs, verb.Throughout p := by
  induction verbs with
  | nil => simp [AllThroughout]
  | cons verb rest ih => simp [AllThroughout, ih]

theorem throughout_of_children_nil {p : Verb → Prop} {verb : Verb} (h : verb.children = [])
    (hp : p verb) : verb.Throughout p := by
  obtain ⟨kind, attributes, text, children⟩ := verb
  obtain rfl : children = [] := h
  exact ⟨hp, trivial⟩

mutual

theorem Throughout.imp {p q : Verb → Prop} (himp : ∀ verb, p verb → q verb) :
    ∀ verb : Verb, verb.Throughout p → verb.Throughout q
  | ⟨_, _, _, children⟩, ⟨hp, hchildren⟩ => ⟨himp _ hp, AllThroughout.imp himp children hchildren⟩

theorem AllThroughout.imp {p q : Verb → Prop} (himp : ∀ verb, p verb → q verb) :
    ∀ verbs : List Verb, AllThroughout p verbs → AllThroughout q verbs
  | [], _ => trivial
  | verb :: rest, ⟨hverb, hrest⟩ =>
      ⟨Throughout.imp himp verb hverb, AllThroughout.imp himp rest hrest⟩

end

/-- The names of the attributes that steps give to verbs. -/
def attributeNames : List String :=
  ["voice", "length", "action", "input", "numDigits", "timeout", "actionOnEmptyResult",
    "finishOnKey", "maxLength", "playBeep", "recordingStatusCallback", "transcribe",
    "transcribeCallback", "profanityFilter", "language", "enhanced", "speechTimeout", "speechModel"]

theorem quote_notMem_attributeName : ∀ name ∈ attributeNames, '"' ∉ name.toList := by
  decide +kernel

/-- Whether attributes have names that steps use. -/
def usesNames (attributes : List (String × String)) : Bool :=
  attributes.all fun pair => attributeNames.contains pair.1

section Attributes

variable {α : Type}

theorem usesNames_append (attributes others : List (String × String)) :
    usesNames (attributes ++ others) = (usesNames attributes && usesNames others) :=
  List.all_append

theorem usesNames_optional {pair : α → String × String}
    (h : ∀ value, usesNames [pair value] = true) (value : Option α) :
    usesNames (value.map pair).toList = true := by
  cases value with
  | none => rfl
  | some value => exact h value

theorem usesNames_ite {attributes : List (String × String)} (h : usesNames attributes = true)
    (condition : Prop) [Decidable condition] :
    usesNames (if condition then attributes else []) = true := by
  split
  · exact h
  · rfl

end Attributes

/-- A verb of the form that steps answer with. -/
def IsPlain (verb : Verb) : Prop :=
  verb.IsUnmixed ∧ usesNames verb.attributes = true

theorem IsPlain.legible {verb : Verb} (h : verb.IsPlain) : verb.IsLegible := by
  intro pair hpair hmark
  have hused : pair.1 ∈ attributeNames := by
    simpa using List.all_eq_true.mp h.2 pair hpair
  exact quote_notMem_attributeName pair.1 hused (hmark.subset (by simp))

end Verb

namespace FlowScene

variable {scene : FlowScene} {session : Session}

theorem collect_plain {tree : String} {turn : TurnId} {inside : List Verb}
    {gather : Option Gather} (h : ∀ verb ∈ inside, verb.Throughout Verb.IsPlain) :
    ∀ verb ∈ collect tree turn inside gather, verb.Throughout Verb.IsPlain := by
  have hredirect (url : String) : (Verb.redirect url).Throughout Verb.IsPlain :=
    Verb.throughout_of_children_nil rfl ⟨.inr rfl, rfl⟩
  rcases gather with _ | spec | spec | spec
  · exact List.forall_mem_singleton.mpr (hredirect _)
  · refine List.forall_mem_cons.mpr
      ⟨⟨⟨.inl rfl, ?_⟩, Verb.allThroughout_iff.mpr h⟩, List.forall_mem_singleton.mpr (hredirect _)⟩
    rw [Verb.usesNames_append, Verb.usesNames_optional fun _ => rfl]
    rfl
  · refine List.forall_mem_singleton.mpr (Verb.throughout_of_children_nil rfl ⟨.inl rfl, ?_⟩)
    simp only [Verb.usesNames_append, Bool.and_eq_true]
    exact ⟨⟨⟨⟨rfl, Verb.usesNames_optional (fun _ => rfl) _⟩, rfl⟩, Verb.usesNames_ite rfl _⟩,
      Verb.usesNames_ite rfl _⟩
  · refine List.forall_mem_cons.mpr
      ⟨Verb.throughout_of_children_nil rfl ⟨.inl rfl, ?_⟩, List.forall_mem_nil _⟩
    simp only [Verb.usesNames_append, Bool.and_eq_true]
    exact ⟨⟨⟨⟨⟨rfl, Verb.usesNames_optional (fun _ => rfl) _⟩, rfl⟩,
      Verb.usesNames_optional (fun _ => rfl) _⟩, Verb.usesNames_optional (fun _ => rfl) _⟩,
      Verb.usesNames_ite rfl _⟩

theorem Says.plain {verbs : List Verb} (h : scene.Says verbs) :
    ∀ verb ∈ verbs, verb.Throughout Verb.IsPlain := by
  intro verb hverb
  cases h.heard verb hverb with
  | say text voice => exact ⟨⟨.inr rfl, rfl⟩, trivial⟩
  | play url => exact ⟨⟨.inr rfl, rfl⟩, trivial⟩
  | pause seconds => exact ⟨⟨.inl rfl, rfl⟩, trivial⟩

theorem Leads.plain {turn? next : Option Turn} {response : VoiceResponse}
    (h : scene.Leads session turn? response next) : response.Throughout Verb.IsPlain := by
  refine Verb.allThroughout_iff.mpr ?_
  cases h with
  | hangup said =>
      refine List.forall_mem_append.mpr ⟨said.plain, List.forall_mem_singleton.mpr ?_⟩
      exact ⟨⟨.inl rfl, rfl⟩, trivial⟩
  | next said known =>
      refine List.forall_mem_append.mpr ⟨said.plain, List.forall_mem_singleton.mpr ?_⟩
      exact ⟨⟨.inr rfl, rfl⟩, trivial⟩
  | collect about said saidInside =>
      exact List.forall_mem_append.mpr ⟨said.plain, collect_plain saidInside.plain⟩

end FlowScene

/-- Every answer without mixed verbs and with legible names is read back from its document, and so
is every answer that a step through a tree gives. -/
theorem markup_is_read_back :
    (∀ response : VoiceResponse, response.Throughout Verb.IsUnmixed →
      response.Throughout Verb.IsLegible →
        VoiceResponse.decode? response.toXml = some response) ∧
    ∀ (scene : FlowScene) (session : Session) (turn? : Option Turn) (step : FlowStep),
      scene.Takes session turn? (.ok step) →
        VoiceResponse.decode? step.response.toXml = some step.response := by
  refine ⟨fun _ hunmixed hlegible => VoiceResponse.decode?_toXml hunmixed hlegible, ?_⟩
  intro scene session turn? step taken
  have hplain := taken.goes.leads.plain
  exact VoiceResponse.decode?_toXml (Verb.AllThroughout.imp (fun _ h => h.1) _ hplain)
    (Verb.AllThroughout.imp (fun _ h => h.legible) _ hplain)

section Forgery

/-- Elements that say what would be markup, and one with an empty text. -/
def forgingAnswer : VoiceResponse :=
  ⟨[{ kind := .gather
      attributes := [("action", "/a?b=\"c\"&d"), ("action", "")]
      children := [.say "</Say><Hangup/>" "<'male'>", .play ""] },
    .hangup]⟩

def forgingScene : FlowScene where
  tree :=
    { name := "main"
      config := {}
      greeting := .fixed { messages := .ofText "</Say><Hangup/>", target := .hangup }
      prompts := [] }
  freshTurn := default
  now := default

theorem forgingAnswer_plain : forgingAnswer.Throughout Verb.IsPlain := by
  refine ⟨⟨⟨.inl rfl, rfl⟩, ⟨⟨.inr rfl, rfl⟩, trivial⟩, ⟨⟨.inr rfl, rfl⟩, trivial⟩, trivial⟩, ?_⟩
  exact ⟨⟨⟨.inl rfl, rfl⟩, trivial⟩, trivial⟩

theorem forgeries_are_read_back :
    VoiceResponse.decode? forgingAnswer.toXml = some forgingAnswer ∧
      ∃ step, forgingScene.onGreeting default true = .ok step ∧
        VoiceResponse.decode? step.response.toXml = some step.response :=
  ⟨markup_is_read_back.1 forgingAnswer
      (Verb.AllThroughout.imp (fun _ h => h.1) _ forgingAnswer_plain)
      (Verb.AllThroughout.imp (fun _ h => h.legible) _ forgingAnswer_plain),
    _, rfl, markup_is_read_back.2 forgingScene default none _ (.greeting true)⟩

/-- One attribute whose name holds a quoted value. -/
def oneAttribute : VoiceResponse :=
  ⟨[{ kind := .gather, attributes := [("a=\"1\" b", "2")] }]⟩

/-- Two attributes, which are written as that one is. -/
def twoAttributes : VoiceResponse :=
  ⟨[{ kind := .gather, attributes := [("a", "1"), ("b", "2")] }]⟩

/-- A name in which a value seems to begin is confused with the attributes that it looks like. -/
theorem illegible_names_are_confused :
    ¬ ∃ decode : String → Option VoiceResponse, ∀ response : VoiceResponse,
      response.Throughout Verb.IsUnmixed → decode response.toXml = some response := by
  rintro ⟨decode, hdecode⟩
  have hone := hdecode oneAttribute ⟨⟨.inl rfl, trivial⟩, trivial⟩
  have htwo := hdecode twoAttributes ⟨⟨.inl rfl, trivial⟩, trivial⟩
  have hxml : oneAttribute.toXml = twoAttributes.toXml := by decide +kernel
  rw [hxml, htwo] at hone
  have hcount := congrArg (fun response => response.verbs.map (·.attributes.length))
    (Option.some.inj hone)
  exact absurd hcount (by decide)

end Forgery

end PhoneTree

import PhoneTree.Http.Endpoint
import PhoneTree.Proofs.StaticTree
import PhoneTree.Proofs.WebhookPaths

namespace PhoneTree

namespace Text

/-- Whether a character stands for itself in a segment of a path. -/
def isPlain (c : Char) : Bool :=
  c.toNat < 0x80 && c != '%' && c != '/'

theorem isPlain_of_between {low high c : Char} (hfrom : '0' ≤ low) (hto : high ≤ 'z')
    (hlow : low ≤ c) (hhigh : c ≤ high) : isPlain c = true := by
  have hsmall : c.toNat ≤ 'z'.toNat := Nat.le_trans hhigh hto
  have hlarge : '0'.toNat ≤ c.toNat := Nat.le_trans hfrom hlow
  have hne : ∀ other : Char, other.toNat < '0'.toNat → c ≠ other := by
    rintro _ hother rfl
    omega
  simp only [isPlain, Bool.and_eq_true, decide_eq_true_eq, bne_iff_ne]
  exact ⟨⟨Nat.lt_of_le_of_lt hsmall (by decide), hne '%' (by decide)⟩, hne '/' (by decide)⟩

/-- The byte of a character below 0x80. -/
def asciiByte (c : Char) : UInt8 :=
  c.toNat.toUInt8

theorem toNat_asciiByte {c : Char} (h : isPlain c = true) : (asciiByte c).toNat = c.toNat := by
  simp only [isPlain, Bool.and_eq_true, decide_eq_true_eq] at h
  simp only [asciiByte, Nat.toUInt8, UInt8.toNat_ofNat']
  omega

theorem asciiByte_lt {c : Char} (h : isPlain c = true) : asciiByte c < 0x80 := by
  have hbyte := toNat_asciiByte h
  simp only [isPlain, Bool.and_eq_true, decide_eq_true_eq] at h
  rw [UInt8.lt_iff_toNat_lt, hbyte]
  exact h.1.1

theorem asciiByte_ne {c : Char} (h : isPlain c = true) : asciiByte c ≠ 0x25 := by
  intro hpercent
  have hbyte := toNat_asciiByte h
  rw [hpercent] at hbyte
  have hc : c = '%' := Char.toNat_inj.mp hbyte.symm
  simp [isPlain, hc] at h

theorem Utf8.encodeChars_of_plain {chars : List Char} (h : chars.all isPlain = true) :
    encodeChars chars = chars.map asciiByte := by
  induction chars with
  | nil => rfl
  | cons c rest ih =>
      obtain ⟨hc, hrest⟩ := (Bool.and_eq_true _ _).mp h
      have hlow : c.toNat < 0x80 := by
        simp only [isPlain, Bool.and_eq_true, decide_eq_true_eq] at hc
        exact hc.1.1
      have hbyte : encodeChar c = [asciiByte c] := if_pos hlow
      simp only [encodeChars, List.flatMap_cons, hbyte, List.map_cons]
      exact congrArg _ (ih hrest)

theorem Utf8.scan_of_plain {chars : List Char} (h : chars.all isPlain = true) :
    scan (chars.map asciiByte) = chars.map some := by
  induction chars with
  | nil => rw [List.map_nil, scan, List.map_nil]
  | cons c rest ih =>
      obtain ⟨hc, hrest⟩ := (Bool.and_eq_true _ _).mp h
      have hnext : next (asciiByte c) (rest.map asciiByte) = (some c, 0) := by
        rw [next, if_pos (asciiByte_lt hc), toNat_asciiByte hc, Char.ofNat_toNat]
      rw [List.map_cons, scan, hnext]
      exact congrArg _ (ih hrest)

theorem Utf8.decode?_of_plain {chars : List Char} (h : chars.all isPlain = true) :
    decode? (chars.map asciiByte) = some (.ofList chars) := by
  have hchars : (chars.map some).mapM id = some chars := by
    rw [List.mapM_map]
    exact (List.mapM_pure (m := Option)).trans (congrArg some (List.map_id' chars))
  rw [decode?, scan_of_plain h, hchars, Option.map_some]

theorem Percent.unescape_of_plain {chars : List Char} (h : chars.all isPlain = true) :
    unescape (chars.map asciiByte) = chars.map asciiByte := by
  induction chars with
  | nil => rfl
  | cons c rest ih =>
      obtain ⟨hc, hrest⟩ := (Bool.and_eq_true _ _).mp h
      rw [List.map_cons, unescape, ih hrest]
      exact fun _ _ _ hpercent => absurd hpercent (asciiByte_ne hc)

theorem Percent.splitOn_of_notMem {segment : List Char} (h : '/' ∉ segment) :
    splitOn '/' segment = [segment] := by
  induction segment with
  | nil => rfl
  | cons c rest ih =>
      rw [List.mem_cons, not_or] at h
      rw [splitOn, if_neg (by simpa using Ne.symm h.1), ih h.2]

theorem Percent.splitOn_append {segment rest : List Char} (h : '/' ∉ segment) :
    splitOn '/' (segment ++ '/' :: rest) = segment :: splitOn '/' rest := by
  induction segment with
  | nil => simp [splitOn]
  | cons c segment ih =>
      rw [List.mem_cons, not_or] at h
      rw [List.cons_append, splitOn, if_neg (by simpa using Ne.symm h.1), ih h.2]

end Text

namespace Text.Hex

theorem value?_digitChar : ∀ n, n < 16 → value? (Nat.digitChar n) = some n := by
  decide

theorem isPlain_digitChar : ∀ n, n < 16 → isPlain (Nat.digitChar n) = true := by
  decide

theorem digitChar_ne_brace : ∀ n, n < 16 → Nat.digitChar n ≠ '{' := by
  decide

theorem number?_digits {width n : Nat} (h : n < Nat.pow 16 width) :
    number? (digits width n) = some n := by
  induction width generalizing n with
  | zero =>
      obtain rfl : n = 0 := Nat.lt_one_iff.mp h
      rfl
  | succ width ih =>
      have hquotient : n / 16 < Nat.pow 16 width := by
        have hpower : Nat.pow 16 (width + 1) = Nat.pow 16 width * 16 := rfl
        omega
      have hfront : number? (digits width (n / 16)) = some (n / 16) := ih hquotient
      have hlast : value? (digit n) = some (n % 16) :=
        value?_digitChar _ (Nat.mod_lt _ (by decide))
      rw [number?] at hfront
      rw [digits, number?, List.foldlM_append, hfront]
      simp [hlast]
      omega

theorem mem_digits {width n : Nat} {c : Char} (h : c ∈ digits width n) :
    ∃ d, d < 16 ∧ c = Nat.digitChar d := by
  induction width generalizing n with
  | zero => cases h
  | succ width ih =>
      rcases List.mem_append.mp h with hfront | hlast
      · exact ih hfront
      · exact ⟨n % 16, Nat.mod_lt _ (by decide), List.mem_singleton.mp hlast⟩

end Text.Hex

namespace Uuid

theorem take_append_drop (start count : Nat) (digits : List Char) :
    (digits.drop start).take count ++ digits.drop (start + count) = digits.drop start := by
  rw [← List.drop_drop, List.take_append_drop]

theorem ofHyphenated?_hyphenate {digits : List Char} (h : digits.length = 32) :
    ofHyphenated? (hyphenate digits) = ofDigits? digits := by
  have hback : (hyphenate digits).take 8 ++ ((hyphenate digits).drop 9).take 4
      ++ ((hyphenate digits).drop 14).take 4 ++ ((hyphenate digits).drop 19).take 4
      ++ (hyphenate digits).drop 24 = digits := by
    calc
      _ = digits.take 8 ++ ((digits.drop 8).take 4 ++ ((digits.drop 12).take 4
            ++ ((digits.drop 16).take 4 ++ digits.drop 20))) := by
          simp [hyphenate, List.drop_append, List.drop_take, h]
      _ = digits := by
          rw [take_append_drop 16, take_append_drop 12, take_append_drop 8,
            List.take_append_drop]
  rw [ofHyphenated?, hback]
  exact if_pos rfl

theorem mem_chars {id : Uuid} {c : Char} (h : c ∈ id.chars) :
    c = '-' ∨ ∃ d, d < 16 ∧ c = Nat.digitChar d := by
  have hdigits : ∀ {part : List Char}, part <:+: Text.Hex.digits 32 id.bits.toNat → c ∈ part →
      c = '-' ∨ ∃ d, d < 16 ∧ c = Nat.digitChar d :=
    fun hpart hc => .inr (Text.Hex.mem_digits (hpart.subset hc))
  simp only [chars, hyphenate, List.mem_append, List.mem_cons] at h
  rcases h with (((h | rfl | h) | rfl | h) | rfl | h) | rfl | h
  · exact hdigits (List.take_prefix _ _).isInfix h
  · exact .inl rfl
  · exact hdigits ((List.take_prefix _ _).isInfix.trans (List.drop_suffix _ _).isInfix) h
  · exact .inl rfl
  · exact hdigits ((List.take_prefix _ _).isInfix.trans (List.drop_suffix _ _).isInfix) h
  · exact .inl rfl
  · exact hdigits ((List.take_prefix _ _).isInfix.trans (List.drop_suffix _ _).isInfix) h
  · exact .inl rfl
  · exact hdigits (List.drop_suffix _ _).isInfix h

theorem isPlain_chars (id : Uuid) : id.chars.all Text.isPlain = true := by
  rw [List.all_eq_true]
  intro c hc
  rcases mem_chars hc with rfl | ⟨d, hd, rfl⟩
  · rfl
  · exact Text.Hex.isPlain_digitChar d hd

theorem ofChars?_chars (id : Uuid) : ofChars? id.chars = ofHyphenated? id.chars := by
  have hdash : id.chars[8]? = some '-' := by
    simp [chars, hyphenate, Text.Hex.length_digits]
  have hcontains : id.chars.contains '-' = true := by
    rw [List.contains_iff_mem]
    exact List.mem_of_getElem? hdash
  have hurn :
      (id.chars.take 9).map Char.toLower ≠ ['u', 'r', 'n', ':', 'u', 'u', 'i', 'd', ':'] := by
    intro h
    have hninth := congrArg (·[8]?) h
    simp [hdash] at hninth
  rw [ofChars?, if_neg hurn, if_pos hcontains]
  intro rest hbrace
  have hmem : '{' ∈ id.chars := by
    rw [hbrace]
    exact List.mem_cons_self
  rcases mem_chars hmem with hdash | ⟨d, hd, hdigit⟩
  · revert hdash
    decide
  · exact Text.Hex.digitChar_ne_brace d hd hdigit.symm

theorem parse?_text (id : Uuid) : parse? id.text = some id := by
  have hnumber : Text.Hex.number? (Text.Hex.digits 32 id.bits.toNat) = some id.bits.toNat :=
    Text.Hex.number?_digits id.bits.isLt
  have hid : ofNat id.bits.toNat = id := congrArg Uuid.mk (BitVec.ofNat_toNat 128 id.bits)
  rw [parse?, text, String.toList_ofList, ofChars?_chars, chars,
    ofHyphenated?_hyphenate (Text.Hex.length_digits _ _), ofDigits?,
    if_pos (Text.Hex.length_digits _ _), hnumber, Option.map_some, hid]

end Uuid

theorem TreeDraft.name_of_build {draft : TreeDraft} {tree : Tree} (h : draft.build = .ok tree) :
    IsName draft.name ∧ tree.name = draft.name := by
  obtain ⟨hwell, _, _, rfl⟩ := build_eq_ok_iff.mp h
  exact ⟨hwell.name, rfl⟩

theorem TreeDraft.IsName.isPlain {name : String} (h : IsName name) :
    name.toList.all Text.isPlain = true := by
  rw [List.all_eq_true]
  intro c hc
  rcases h.chars c hc with ⟨hlow, hhigh⟩ | ⟨hlow, hhigh⟩ | rfl | rfl
  · exact Text.isPlain_of_between (by decide) (by decide) hlow hhigh
  · exact Text.isPlain_of_between (by decide) (by decide) hlow hhigh
  · rfl
  · rfl

namespace Webhook

/-- Whether the path of a webhook is that of a callback which is called like its tree. -/
def isShadowed : Webhook → Bool
  | inbound tree | outbound tree => tree = "receive_recording" || tree = "transcribe"
  | _ => false

/-- The tree of a webhook, if it has one, is called like one that the builder has accepted. -/
def IsServed (webhook : Webhook) : Prop :=
  ∀ name, webhook.tree? = some name → ∃ tree : Tree, tree.IsAccepted ∧ tree.name = name

theorem IsServed.isPlain {webhook : Webhook} (h : webhook.IsServed) {name : String}
    (hname : webhook.tree? = some name) : name.toList.all Text.isPlain = true := by
  obtain ⟨tree, ⟨draft, hbuild⟩, rfl⟩ := h name hname
  obtain ⟨hcheck, hsame⟩ := TreeDraft.name_of_build hbuild
  rw [hsame]
  exact hcheck.isPlain

theorem isPlain_text (turn : TurnId) : turn.uuid.text.toList.all Text.isPlain = true := by
  rw [Uuid.text, String.toList_ofList]
  exact turn.uuid.isPlain_chars

theorem isPlain_segments {webhook : Webhook} (h : webhook.IsServed) :
    ∀ segment ∈ webhook.segments, segment.toList.all Text.isPlain = true := by
  cases webhook with
  | inbound tree | outbound tree =>
      simp only [segments, List.forall_mem_cons, h.isPlain rfl]
      decide
  | prompt tree turn | promptResponse tree turn | timeout tree turn =>
      simp only [segments, List.forall_mem_cons, h.isPlain rfl, isPlain_text]
      decide
  | receiveRecording turn | transcribe turn =>
      simp only [segments, List.forall_mem_cons, isPlain_text]
      decide
  | status => decide

end Webhook

namespace Http

theorem isWord_toList (segment word : String) :
    isWord segment.toList word = decide (segment = word) := by
  rw [isWord, Bool.eq_iff_iff, beq_iff_eq, String.toList_inj, decide_eq_true_iff]

theorem slash_notMem {segment : List Char} (h : segment.all Text.isPlain = true) :
    '/' ∉ segment := by
  intro hslash
  have hplain := List.all_eq_true.mp h '/' hslash
  revert hplain
  decide

theorem splitPath_slashed {first : String} {others : List String}
    (h : ∀ segment ∈ first :: others, segment.toList.all Text.isPlain = true) :
    splitPath (Webhook.slashed (first :: others)) =
      some (first.toList :: others.map String.toList) := by
  rw [Webhook.slashed, List.flatMap_cons, List.cons_append, splitPath]
  refine congrArg some ?_
  induction others generalizing first with
  | nil =>
      rw [List.flatMap_nil, List.append_nil]
      exact Text.Percent.splitOn_of_notMem (slash_notMem (h first List.mem_cons_self))
  | cons second others ih =>
      rw [List.flatMap_cons, List.cons_append,
        Text.Percent.splitOn_append (slash_notMem (h first List.mem_cons_self)),
        ih fun segment hsegment => h segment (List.mem_cons_of_mem _ hsegment)]
      rfl

theorem decodeText_toList {segment : String} (h : segment.toList.all Text.isPlain = true) :
    decodeText segment.toList = some segment := by
  rw [decodeText, Text.Utf8.encodeChars_of_plain h, Text.Percent.unescape_of_plain h,
    Text.Utf8.decode?_of_plain h, String.ofList_toList]

theorem decodeTurn_text (turn : TurnId) : decodeTurn turn.uuid.text.toList = some turn := by
  rw [decodeTurn, decodeText_toList (Webhook.isPlain_text turn), Option.bind_some,
    Uuid.parse?_text, Option.map_some]

theorem isEmpty_toList (text : String) : text.toList.isEmpty = decide (text = "") := by
  rw [Bool.eq_iff_iff, List.isEmpty_iff, String.toList_eq_nil_iff, decide_eq_true_iff]

theorem matchPair_toList (first second : String) :
    matchPair first.toList second.toList =
      if first = "receive_recording" ∧ second ≠ "" then some (.receiveRecording second.toList)
      else if first = "transcribe" ∧ second ≠ "" then some (.transcribe second.toList)
      else if second = "inbound" then some (.inbound first.toList)
      else if second = "outbound" then some (.outbound first.toList)
      else none := by
  simp only [matchPair, isWord_toList, isEmpty_toList, ← decide_not, ← Bool.decide_and,
    decide_eq_true_eq, ne_eq]

theorem matchTriple_toList (tree event turn : String) :
    matchTriple tree.toList event.toList turn.toList =
      if turn = "" then none
      else if event = "prompt" then some (.prompt tree.toList turn.toList)
      else if event = "prompt_response" then some (.promptResponse tree.toList turn.toList)
      else if event = "timeout" then some (.timeout tree.toList turn.toList)
      else none := by
  simp only [matchTriple, isWord_toList, isEmpty_toList, decide_eq_true_eq]

theorem isWord_phone : isWord "phone".toList "phone" = true := by
  rw [isWord_toList, decide_eq_true rfl]

theorem matchSegments_pair (first second : String) :
    matchSegments (["phone", first, second].map String.toList) =
      matchPair first.toList second.toList := by
  show (if isWord "phone".toList "phone" then matchPair first.toList second.toList else none) = _
  rw [if_pos isWord_phone]

theorem matchSegments_triple (tree event turn : String) :
    matchSegments (["phone", tree, event, turn].map String.toList) =
      matchTriple tree.toList event.toList turn.toList := by
  show (if isWord "phone".toList "phone" then
    matchTriple tree.toList event.toList turn.toList else none) = _
  rw [if_pos isWord_phone]

theorem text_ne_empty (turn : TurnId) : turn.uuid.text ≠ "" := by
  intro h
  have hlength : turn.uuid.text.toList.length = 36 := by
    rw [Uuid.text, String.toList_ofList, Uuid.length_chars]
  rw [h] at hlength
  cases hlength

theorem decodeTurn_begin {entry : String} (h : entry = "inbound" ∨ entry = "outbound") :
    decodeTurn entry.toList = none := by
  rcases h with rfl | rfl
  · rw [decodeTurn, decodeText_toList (by decide)]
    decide
  · rw [decodeTurn, decodeText_toList (by decide)]
    decide

/-- Below a tree that is called like a callback, a point at which calls begin is taken for the turn
of the callback. -/
theorem matchPair_shadowed {tree entry : String} (h : entry = "inbound" ∨ entry = "outbound")
    (htree : tree = "receive_recording" ∨ tree = "transcribe") :
    ∃ path, matchPair tree.toList entry.toList = some path ∧ path.webhook? = none := by
  have hentry : entry ≠ "" := by
    rcases h with rfl | rfl <;> decide
  rcases htree with rfl | rfl
  · refine ⟨.receiveRecording entry.toList, ?_, ?_⟩
    · rw [matchPair_toList, if_pos ⟨rfl, hentry⟩]
    · rw [RoutedPath.webhook?, decodeTurn_begin h]
      rfl
  · refine ⟨.transcribe entry.toList, ?_, ?_⟩
    · rw [matchPair_toList, if_neg fun h => absurd h.1 (by decide),
        if_pos ⟨rfl, hentry⟩]
    · rw [RoutedPath.webhook?, decodeTurn_begin h]
      rfl

theorem matchSegments_segments {webhook : Webhook} (h : webhook.IsServed) :
    ∃ path, matchSegments (webhook.segments.map String.toList) = some path ∧
      path.webhook? = if webhook.isShadowed then none else some webhook := by
  cases webhook with
  | inbound tree =>
      rw [Webhook.segments, matchSegments_pair]
      by_cases htree : tree = "receive_recording" ∨ tree = "transcribe"
      · rw [if_pos (by simpa [Webhook.isShadowed] using htree)]
        exact matchPair_shadowed (.inl rfl) htree
      · rw [if_neg (by simpa [Webhook.isShadowed] using htree)]
        rw [not_or] at htree
        refine ⟨.inbound tree.toList, ?_, ?_⟩
        · rw [matchPair_toList, if_neg fun h => htree.1 h.1, if_neg fun h => htree.2 h.1,
            if_pos rfl]
        · rw [RoutedPath.webhook?, decodeText_toList (h.isPlain rfl)]
          rfl
  | outbound tree =>
      rw [Webhook.segments, matchSegments_pair]
      by_cases htree : tree = "receive_recording" ∨ tree = "transcribe"
      · rw [if_pos (by simpa [Webhook.isShadowed] using htree)]
        exact matchPair_shadowed (.inr rfl) htree
      · rw [if_neg (by simpa [Webhook.isShadowed] using htree)]
        rw [not_or] at htree
        refine ⟨.outbound tree.toList, ?_, ?_⟩
        · rw [matchPair_toList, if_neg fun h => htree.1 h.1, if_neg fun h => htree.2 h.1,
            if_neg (by decide), if_pos rfl]
        · rw [RoutedPath.webhook?, decodeText_toList (h.isPlain rfl)]
          rfl
  | prompt tree turn =>
      rw [Webhook.segments, matchSegments_triple, matchTriple_toList,
        if_neg (text_ne_empty turn), if_pos rfl]
      refine ⟨_, rfl, ?_⟩
      rw [RoutedPath.webhook?, decodeText_toList (h.isPlain rfl), decodeTurn_text]
      rfl
  | promptResponse tree turn =>
      rw [Webhook.segments, matchSegments_triple, matchTriple_toList,
        if_neg (text_ne_empty turn), if_neg (by decide), if_pos rfl]
      refine ⟨_, rfl, ?_⟩
      rw [RoutedPath.webhook?, decodeText_toList (h.isPlain rfl), decodeTurn_text]
      rfl
  | timeout tree turn =>
      rw [Webhook.segments, matchSegments_triple, matchTriple_toList,
        if_neg (text_ne_empty turn), if_neg (by decide), if_neg (by decide), if_pos rfl]
      refine ⟨_, rfl, ?_⟩
      rw [RoutedPath.webhook?, decodeText_toList (h.isPlain rfl), decodeTurn_text]
      rfl
  | receiveRecording turn =>
      rw [Webhook.segments, matchSegments_pair, matchPair_toList,
        if_pos ⟨rfl, text_ne_empty turn⟩]
      refine ⟨_, rfl, ?_⟩
      rw [RoutedPath.webhook?, decodeTurn_text]
      rfl
  | transcribe turn =>
      rw [Webhook.segments, matchSegments_pair, matchPair_toList,
        if_neg fun h => absurd h.1 (by decide), if_pos ⟨rfl, text_ne_empty turn⟩]
      refine ⟨_, rfl, ?_⟩
      rw [RoutedPath.webhook?, decodeTurn_text]
      rfl
  | status => exact ⟨.status, by decide, rfl⟩

theorem matchPath_path {webhook : Webhook} (h : webhook.IsServed) :
    ∃ path, matchPath webhook.path.toList = some path ∧
      path.webhook? = if webhook.isShadowed then none else some webhook := by
  obtain ⟨path, hpath, hwebhook⟩ := matchSegments_segments h
  refine ⟨path, ?_, hwebhook⟩
  have hplain := Webhook.isPlain_segments h
  cases hsegments : webhook.segments with
  | nil => cases webhook <;> cases hsegments
  | cons first others =>
      rw [hsegments] at hplain hpath
      rw [matchPath, Webhook.path, String.toList_ofList, hsegments]
      exact (congrArg (·.bind matchSegments) (splitPath_slashed hplain)).trans hpath

/-- The parameters that a request carries, or the answer to one whose form cannot be read. -/
def Request.params (request : Request) : Except Response Params :=
  if request.method = "GET" then .ok (.ofList (Text.Percent.decodeForm request.query))
  else if isForm request.contentType then .ok (.ofList (Text.Percent.decodeForm request.body))
  else .error (.bare 415)

theorem route_of_matchPath {request : Request} {path : RoutedPath}
    (hmatch : matchPath request.path.toList = some path)
    (hmethod : request.method = "GET" ∨ request.method = "POST") :
    route request =
      match path.webhook? with
      | none => .error (.bare 400)
      | some webhook => request.params.map fun params => (webhook, params) := by
  have hallowed : (request.method != "GET" && request.method != "POST") = false := by
    rcases hmethod with hmethod | hmethod <;> (rw [hmethod]; decide)
  rw [route, hmatch]
  dsimp only
  rw [hallowed]
  cases path.webhook? with
  | none => rfl
  | some webhook =>
      simp only [Bool.false_eq_true, if_false, Request.params, beq_iff_eq]
      split
      · rfl
      · split <;> rfl

/-- A request for the path of a webhook is given to that webhook, with the tree and the turn that
the path was made for; only where a callback is called like the tree it is refused. -/
theorem paths_lead_back {webhook : Webhook} {request : Request} (h : webhook.IsServed)
    (hpath : request.path = webhook.path)
    (hmethod : request.method = "GET" ∨ request.method = "POST") :
    route request =
      if webhook.isShadowed then .error (.bare 400)
      else request.params.map fun params => (webhook, params) := by
  obtain ⟨path, hmatch, hwebhook⟩ := matchPath_path h
  rw [← hpath] at hmatch
  rw [route_of_matchPath hmatch hmethod, hwebhook]
  cases webhook.isShadowed <;> rfl

section Names

/-- The draft of a tree that hangs up at once. -/
def briefDraft (name : String) : TreeDraft where
  name
  greeting := some .hangup

theorem exists_of_isSome {draft : TreeDraft} (h : draft.build.toOption.isSome = true) :
    ∃ tree, draft.build = .ok tree := by
  cases htree : draft.build with
  | error error =>
      rw [htree] at h
      cases h
  | ok tree => exact ⟨tree, rfl⟩

theorem isServed_of_brief {webhook : Webhook} {name : String} (htree : webhook.tree? = some name)
    (hbuild : ∃ tree, (briefDraft name).build = .ok tree) : webhook.IsServed := by
  intro other hother
  obtain rfl : name = other := Option.some.inj (htree.symm.trans hother)
  obtain ⟨tree, hbuild⟩ := hbuild
  exact ⟨tree, ⟨_, hbuild⟩, (TreeDraft.name_of_build hbuild).2⟩

theorem surveyPrompt_is_reached :
    route { method := "GET", path := "/phone/survey/prompt/00000000-0000-0000-0000-00000000002a" } =
      .ok (.prompt "survey" ⟨.ofNat 42⟩, .ofList []) := by
  have hserved : (Webhook.prompt "survey" ⟨.ofNat 42⟩).IsServed :=
    isServed_of_brief rfl (exists_of_isSome (by decide +kernel))
  exact paths_lead_back hserved (by decide +kernel) (.inl rfl)

/-- A tree may be called like a callback, and no call reaches it then. -/
theorem transcribeTree_is_out_of_reach :
    (∃ tree, (briefDraft "transcribe").build = .ok tree) ∧
      (Webhook.inbound "transcribe").path = "/phone/transcribe/inbound" ∧
        route { method := "GET", path := "/phone/transcribe/inbound" } = .error (.bare 400) := by
  have hbuild : ∃ tree, (briefDraft "transcribe").build = .ok tree :=
    exists_of_isSome (by decide +kernel)
  have hserved : (Webhook.inbound "transcribe").IsServed := isServed_of_brief rfl hbuild
  have hpath : (Webhook.inbound "transcribe").path = "/phone/transcribe/inbound" := by
    decide +kernel
  obtain ⟨path, hmatch, hwebhook⟩ := matchPath_path hserved
  rw [hpath] at hmatch
  refine ⟨hbuild, hpath, ?_⟩
  rw [route_of_matchPath hmatch (.inl rfl), hwebhook]
  rfl

end Names

end Http

end PhoneTree

import PhoneTree.Proofs.Command

namespace PhoneTree

namespace Text.Hex

theorem length_digits (width n : Nat) : (digits width n).length = width := by
  induction width generalizing n with
  | zero => rfl
  | succ width ih => simp [digits, ih]

theorem digitChar_injective :
    ∀ a, a < 16 → ∀ b, b < 16 → Nat.digitChar a = Nat.digitChar b → a = b := by
  decide

theorem digits_injective {width m n : Nat} (hm : m < Nat.pow 16 width)
    (hn : n < Nat.pow 16 width) (h : digits width m = digits width n) : m = n := by
  induction width generalizing m n with
  | zero =>
      have hone : Nat.pow 16 0 = 1 := rfl
      omega
  | succ width ih =>
      have hpow : Nat.pow 16 (width + 1) = Nat.pow 16 width * 16 := rfl
      obtain ⟨hrest, hlast⟩ := List.append_inj' h rfl
      have hquotient : m / 16 = n / 16 := ih (by omega) (by omega) hrest
      have hdigit : m % 16 = n % 16 :=
        digitChar_injective _ (Nat.mod_lt _ (by decide)) _ (Nat.mod_lt _ (by decide))
          (List.head_eq_of_cons_eq hlast)
      omega

end Text.Hex

namespace Uuid

theorem drop_eq_of_take_eq {start count : Nat} {digits digits' : List Char}
    (htake : (digits.drop start).take count = (digits'.drop start).take count)
    (hdrop : digits.drop (start + count) = digits'.drop (start + count)) :
    digits.drop start = digits'.drop start := by
  rw [← List.take_append_drop count (digits.drop start),
    ← List.take_append_drop count (digits'.drop start), List.drop_drop, List.drop_drop, htake,
    hdrop]

theorem hyphenate_injective {digits digits' : List Char} (hlength : digits.length = 32)
    (hlength' : digits'.length = 32) (h : hyphenate digits = hyphenate digits') :
    digits = digits' := by
  obtain ⟨h, hfifth⟩ := List.append_inj' h (by simp [hlength, hlength'])
  obtain ⟨h, hfourth⟩ := List.append_inj' h (by simp [hlength, hlength'])
  obtain ⟨h, hthird⟩ := List.append_inj' h (by simp [hlength, hlength'])
  obtain ⟨hfirst, hsecond⟩ := List.append_inj' h (by simp [hlength, hlength'])
  have hsixteen : digits.drop 16 = digits'.drop 16 :=
    drop_eq_of_take_eq (List.tail_eq_of_cons_eq hfourth) (List.tail_eq_of_cons_eq hfifth)
  have htwelve : digits.drop 12 = digits'.drop 12 :=
    drop_eq_of_take_eq (List.tail_eq_of_cons_eq hthird) hsixteen
  have hrest : digits.drop 8 = digits'.drop 8 :=
    drop_eq_of_take_eq (List.tail_eq_of_cons_eq hsecond) htwelve
  rw [← List.take_append_drop 8 digits, ← List.take_append_drop 8 digits', hfirst, hrest]

theorem length_chars (id : Uuid) : id.chars.length = 36 := by
  simp [chars, hyphenate, Text.Hex.length_digits]

theorem chars_injective {id id' : Uuid} (h : id.chars = id'.chars) : id = id' := by
  have hdigits := hyphenate_injective (Text.Hex.length_digits _ _) (Text.Hex.length_digits _ _) h
  have hbits := Text.Hex.digits_injective id.bits.isLt id'.bits.isLt hdigits
  cases id
  cases id'
  exact congrArg Uuid.mk (BitVec.eq_of_toNat_eq hbits)

end Uuid

namespace Webhook

/-- The segment that names the point at which a webhook for a turn calls back. -/
def kind : Webhook → String
  | prompt _ _ => "prompt"
  | promptResponse _ _ => "prompt_response"
  | timeout _ _ => "timeout"
  | receiveRecording _ => "receive_recording"
  | transcribe _ => "transcribe"
  | inbound _ => "inbound"
  | outbound _ => "outbound"
  | status => "status"

/-- The segments before the one that names the point. -/
def front (webhook : Webhook) : List String :=
  "phone" :: webhook.tree?.toList

/-- The characters of segments, each behind a slash. -/
def slashed (segments : List String) : List Char :=
  segments.flatMap fun segment => '/' :: segment.toList

theorem slashed_append (segments : List String) (last : String) :
    slashed (segments ++ [last]) = slashed segments ++ '/' :: last.toList := by
  simp [slashed]

theorem path_eq_of_turn {webhook : Webhook} {turn : TurnId} (h : webhook.turn? = some turn) :
    webhook.path =
      .ofList (slashed (webhook.front ++ [webhook.kind]) ++ '/' :: turn.uuid.chars) := by
  cases webhook with
  | inbound tree | outbound tree | status => cases h
  | prompt tree other | promptResponse tree other | timeout tree other | receiveRecording other
  | transcribe other =>
      obtain rfl := Option.some.inj h
      simp [path, slashed, segments, front, kind, tree?, Uuid.text]

theorem slash_notMem_kind (webhook : Webhook) : '/' ∉ webhook.kind.toList := by
  cases webhook <;> (rw [kind]; decide)

theorem last_eq_of_slashed_eq {before before' last last' : List Char} (hlast : '/' ∉ last)
    (hlast' : '/' ∉ last') (h : before ++ '/' :: last = before' ++ '/' :: last') :
    before = before' ∧ last = last' := by
  rcases List.append_eq_append_iff.mp h with ⟨between, rfl, hrest⟩ | ⟨between, rfl, hrest⟩
  · cases between with
    | nil => exact ⟨(List.append_nil _).symm, List.tail_eq_of_cons_eq hrest⟩
    | cons c between =>
        have hmem : '/' ∈ last := by
          rw [List.tail_eq_of_cons_eq hrest]
          simp
        exact absurd hmem hlast
  · cases between with
    | nil => exact ⟨List.append_nil _, (List.tail_eq_of_cons_eq hrest).symm⟩
    | cons c between =>
        have hmem : '/' ∈ last' := by
          rw [List.tail_eq_of_cons_eq hrest]
          simp
        exact absurd hmem hlast'

theorem eq_of_kind_eq {webhook webhook' : Webhook} {turn : TurnId}
    (h : webhook.turn? = some turn) (h' : webhook'.turn? = some turn)
    (hkind : webhook.kind = webhook'.kind)
    (hfront : slashed webhook.front = slashed webhook'.front) : webhook = webhook' := by
  cases webhook <;> cases webhook' <;>
    simp_all [turn?, kind, front, tree?, slashed, String.toList_inj]

theorem eq_of_path_eq {webhook webhook' : Webhook} {turn turn' : TurnId}
    (h : webhook.turn? = some turn) (h' : webhook'.turn? = some turn')
    (hpath : webhook.path = webhook'.path) : webhook = webhook' := by
  rw [path_eq_of_turn h, path_eq_of_turn h'] at hpath
  obtain ⟨hbefore, hturn⟩ :=
    List.append_inj' (String.ofList_injective hpath) (by simp [Uuid.length_chars])
  have hsame : turn = turn' :=
    congrArg TurnId.mk (Uuid.chars_injective (List.tail_eq_of_cons_eq hturn))
  obtain rfl := hsame
  rw [slashed_append, slashed_append] at hbefore
  obtain ⟨hfront, hkind⟩ :=
    last_eq_of_slashed_eq (slash_notMem_kind webhook) (slash_notMem_kind webhook') hbefore
  exact eq_of_kind_eq h h' (String.toList_inj.mp hkind) hfront

end Webhook

end PhoneTree

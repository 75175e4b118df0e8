import Mathlib.Data.Nat.Digits.Defs
import PhoneTree.Tree.Menu

namespace PhoneTree

namespace Text.Decimal

/-- A text is a numeral of a number: one or more of the characters `0` to `9` with the number as
their value at base ten, leading zeros allowed. -/
def Denotes (text : String) (n : Nat) : Prop :=
  text ≠ "" ∧ (∀ c ∈ text.toList, '0' ≤ c ∧ c ≤ '9') ∧
    Nat.ofDigits 10 (text.toList.reverse.map digitValue) = n

theorem value_eq_ofDigits (digits : List Char) :
    value digits = Nat.ofDigits 10 (digits.reverse.map digitValue) := by
  rw [Nat.ofDigits_eq_foldr, List.foldr_map, List.foldr_reverse, value]
  refine congrArg (fun f => List.foldl f 0 digits) ?_
  funext total c
  exact Nat.add_comm _ _

theorem ofDigits?_eq_some_iff {text : String} {n : Nat} :
    ofDigits? text.toList = some n ↔ Denotes text n := by
  have hempty : text.toList.isEmpty = false ↔ text ≠ "" := by
    rw [List.isEmpty_eq_false_iff, ne_eq, String.toList_eq_nil_iff]
  have hdigits : text.toList.all isDigit = true ↔ ∀ c ∈ text.toList, '0' ≤ c ∧ c ≤ '9' := by
    simp [isDigit]
  rw [ofDigits?, Denotes, ← hempty, ← hdigits, ← value_eq_ofDigits]
  cases text.toList.isEmpty <;> cases text.toList.all isDigit <;> simp

theorem below?_eq_some_iff {bound : Nat} {text : String} {n : Nat} :
    below? bound text.toList = some n ↔ Denotes text n ∧ n < bound := by
  rw [below?, Option.filter_eq_some_iff, ofDigits?_eq_some_iff, decide_eq_true_eq]

theorem value_append_singleton (digits : List Char) (c : Char) :
    value (digits ++ [c]) = 10 * value digits + digitValue c := by
  rw [value, List.foldl_append]
  rfl

theorem digitChar_of_lt :
    ∀ d < 10, isDigit d.digitChar = true ∧ digitValue d.digitChar = d := by
  decide

theorem ofDigits?_toDigits (n : Nat) : ofDigits? (toDigits n) = some n := by
  have h : toDigits n ≠ [] ∧ (toDigits n).all isDigit = true ∧ value (toDigits n) = n := by
    induction n using Nat.strongRecOn with
    | ind n ih =>
        by_cases hsmall : n < 10
        · obtain ⟨hdigit, hvalue⟩ := digitChar_of_lt n hsmall
          rw [toDigits, Nat.toDigits_of_lt_base hsmall]
          exact ⟨List.cons_ne_nil _ _, by simpa using hdigit, by simpa [value] using hvalue⟩
        · have hlarge : 10 ≤ n := Nat.le_of_not_lt hsmall
          obtain ⟨_, hdigits, hvalue⟩ := ih (n / 10) (Nat.div_lt_self (by omega) (by omega))
          obtain ⟨hdigit, hlast⟩ := digitChar_of_lt (n % 10) (Nat.mod_lt n (by omega))
          rw [toDigits, Nat.toDigits_of_base_le (by omega) hlarge, ← toDigits]
          refine ⟨List.append_ne_nil_of_right_ne_nil _ (List.cons_ne_nil _ _), ?_, ?_⟩
          · rw [List.all_append, hdigits, List.all_cons, hdigit]
            rfl
          · rw [value_append_singleton, hvalue, hlast]
            exact Nat.div_add_mod n 10
  rw [ofDigits?, h.2.1, h.2.2, List.isEmpty_eq_false_iff.mpr h.1]
  rfl

theorem denotes_text (n : Nat) : Denotes (text n) n := by
  rw [← ofDigits?_eq_some_iff, text, String.toList_ofList]
  exact ofDigits?_toDigits n

end Text.Decimal

theorem Turn.integerDigits_eq_some_iff {turn : Turn} {n : Nat} :
    turn.integerDigits = some n ↔
      ∃ digits, turn.digits = some digits ∧ Text.Decimal.Denotes digits n ∧ n < Nat.pow 2 64 := by
  rw [integerDigits, Option.bind_eq_some_iff]
  exact exists_congr fun digits => and_congr_right fun _ => Text.Decimal.below?_eq_some_iff

namespace Menu

/-- The words by which a menu announces a choice under a key. -/
def sentence (opening choice : String) (key : Nat) : String :=
  s!"{opening} {choice}, press {Text.Decimal.text key}."

/-- The choices of a menu with the keys under which they are announced. -/
def keys (choices : List String) : List (String × Nat) :=
  choices.zipIdx 1

variable {choices : List String} {opening : Option String}

theorem mem_keys_iff {key : Nat} :
    (∃ choice, (choice, key) ∈ keys choices) ↔ 0 < key ∧ key ≤ choices.length := by
  simp only [keys, List.mem_zipIdx_iff_le_and_getElem?_sub, exists_and_left]
  refine and_congr_right fun hkey => ?_
  rw [← Option.isSome_iff_exists, isSome_getElem?]
  exact Nat.sub_lt_iff_lt_add hkey |>.trans Nat.lt_succ_iff

theorem announceFrom_eq (opening : String) (key : Nat) (choices : List String) :
    announceFrom opening key choices =
      (choices.zipIdx key).map fun entry => sentence opening entry.1 entry.2 := by
  induction choices generalizing key with
  | nil => rfl
  | cons choice rest ih =>
      rw [announceFrom, ih, List.zipIdx_cons, List.map_cons]
      rfl

theorem checkCount_eq_ok {count : Nat} (hone : 1 ≤ count) (hnine : count ≤ 9) :
    checkCount count = .ok () := by
  rw [checkCount, if_neg (Nat.ne_of_gt hone), if_neg (Nat.not_lt.mpr hnine)]

theorem checkCount_eq_error {count : Nat} (h : ¬ (1 ≤ count ∧ count ≤ 9)) :
    ∃ error, checkCount count = .error error := by
  rw [checkCount]
  split
  · exact ⟨_, rfl⟩
  · split
    · exact ⟨_, rfl⟩
    · omega

end Menu

/-- Keypad digits are read as the number that they denote, as long as it fits 64 bits. So a menu of
one to nine choices takes just the numerals of the keys that it announces, and a menu of another
size is refused whatever was entered. What is announced is itself a numeral of its key. -/
theorem keypad_numbers_are_exact :
    (∀ (turn : Turn) (n : Nat), turn.integerDigits = some n ↔
      ∃ digits, turn.digits = some digits ∧ Text.Decimal.Denotes digits n ∧ n < Nat.pow 2 64) ∧
    (∀ (choices : List String) (opening : Option String),
      1 ≤ choices.length → choices.length ≤ 9 →
        Menu.announce choices opening = .ok (" ".intercalate ((Menu.keys choices).map fun entry =>
          Menu.sentence (opening.getD "For") entry.1 entry.2)) ∧
        ∀ turn : Turn, ∃ chosen, Menu.isChoice choices.length turn = .ok chosen ∧
          (chosen = true ↔ ∃ digits key choice, turn.digits = some digits ∧
            Text.Decimal.Denotes digits key ∧ (choice, key) ∈ Menu.keys choices)) ∧
    (∀ (choices : List String) (opening : Option String),
      ¬ (1 ≤ choices.length ∧ choices.length ≤ 9) →
        ∃ error, Menu.announce choices opening = .error error ∧
          ∀ turn : Turn, Menu.isChoice choices.length turn = .error error) ∧
    ∀ key : Nat, Text.Decimal.Denotes (Text.Decimal.text key) key := by
  refine ⟨fun _ _ => Turn.integerDigits_eq_some_iff, ?_, ?_, Text.Decimal.denotes_text⟩
  · intro choices opening hone hnine
    have hcount := Menu.checkCount_eq_ok hone hnine
    constructor
    · rw [Menu.announce, hcount, Menu.announceFrom_eq]
      rfl
    · intro turn
      refine ⟨_, by rw [Menu.isChoice, hcount]; rfl, ?_⟩
      rw [Option.any_eq_true]
      constructor
      · rintro ⟨key, hkey, hrange⟩
        obtain ⟨digits, hdigits, hdenotes, _⟩ := Turn.integerDigits_eq_some_iff.mp hkey
        obtain ⟨choice, hchoice⟩ := Menu.mem_keys_iff.mpr (by simpa using hrange)
        exact ⟨digits, key, choice, hdigits, hdenotes, hchoice⟩
      · rintro ⟨digits, key, choice, hdigits, hdenotes, hchoice⟩
        have hrange := Menu.mem_keys_iff.mp ⟨choice, hchoice⟩
        have hfits : key < Nat.pow 2 64 := by
          have : 9 < Nat.pow 2 64 := by decide
          omega
        refine ⟨key, Turn.integerDigits_eq_some_iff.mpr ⟨digits, hdigits, hdenotes, hfits⟩, ?_⟩
        simpa using hrange
  · intro choices opening hcount
    obtain ⟨error, herror⟩ := Menu.checkCount_eq_error hcount
    refine ⟨error, ?_, fun turn => ?_⟩
    · rw [Menu.announce, herror]
      rfl
    · rw [Menu.isChoice, herror]
      rfl

section FrontDesk

def frontDesk : List String :=
  ["store hours", "accounting"]

/-- A turn on the menu with digits entered. -/
def pressed (digits : String) : Turn :=
  { id := ⟨⟨0⟩⟩, session := ⟨⟨0⟩⟩, handle := ⟨"menu"⟩, digits := some digits, createdAt := ⟨0⟩ }

/-- Leading zeros do not matter, and a number that is `2` up to a multiple of `2 ^ 64` is not `2`. -/
theorem paddedKey_is_a_choice :
    Menu.announce frontDesk none =
      .ok "For store hours, press 1. For accounting, press 2." ∧
    Menu.isChoice frontDesk.length (pressed "0002") = .ok true ∧
    Menu.isChoice frontDesk.length (pressed "18446744073709551618") = .ok false ∧
    ∃ error, Menu.announce [] none = .error error ∧
      Menu.isChoice 0 (pressed "0002") = .error error := by
  obtain ⟨_, hmenu, hrefused, _⟩ := keypad_numbers_are_exact
  obtain ⟨hannounced, hchoice⟩ := hmenu frontDesk none (by decide) (by decide)
  refine ⟨hannounced.trans (by decide), ?_, by decide, ?_⟩
  · obtain ⟨chosen, hchosen, hiff⟩ := hchoice (pressed "0002")
    have hdenotes : Text.Decimal.Denotes "0002" 2 :=
      Text.Decimal.ofDigits?_eq_some_iff.mp (by decide)
    rw [hchosen, hiff.mpr ⟨"0002", 2, "accounting", rfl, hdenotes, by decide⟩]
  · obtain ⟨error, herror, hsame⟩ := hrefused [] none (by decide)
    exact ⟨error, herror, hsame (pressed "0002")⟩

end FrontDesk

end PhoneTree

import PhoneTree.Settings.Basic

namespace PhoneTree

namespace PhoneNumber

variable {raw text number : String}

section Digits

theorem isDigit_of_isSpace {c : Char} (h : Text.isSpace c = true) :
    Text.Decimal.isDigit c = false := by
  rw [← Bool.not_eq_true]
  intro hdigit
  simp only [Text.isSpace, Bool.or_eq_true, Bool.and_eq_true, decide_eq_true_eq, beq_iff_eq] at h
  simp only [Text.Decimal.isDigit, Bool.and_eq_true, decide_eq_true_eq, Char.le_def,
    UInt32.le_iff_toNat_le] at hdigit
  have hlow : 48 ≤ c.toNat := hdigit.1
  have hhigh : c.toNat ≤ 57 := hdigit.2
  omega

theorem filter_dropWhile_isSpace (chars : List Char) :
    (chars.dropWhile Text.isSpace).filter Text.Decimal.isDigit =
      chars.filter Text.Decimal.isDigit := by
  induction chars with
  | nil => rfl
  | cons c rest ih =>
      cases hspace : Text.isSpace c with
      | true => simp [hspace, isDigit_of_isSpace hspace, ih]
      | false => simp [hspace]

@[simp] theorem digits_trim (raw : String) : digits (Text.trim raw) = digits raw := by
  rw [digits, Text.trim, String.toList_ofList, Text.trimEnd, List.filter_reverse,
    filter_dropWhile_isSpace, List.filter_reverse, List.reverse_reverse, filter_dropWhile_isSpace,
    digits]

theorem digits_of_all {chars : List Char} (h : ∀ c ∈ chars, Text.Decimal.isDigit c = true) :
    digits (.ofList ('+' :: chars)) = chars := by
  rw [digits, String.toList_ofList, List.filter_cons_of_neg (by decide)]
  exact List.filter_eq_self.mpr h

theorem isDigit_of_mem_withCountry {c : Char} (h : c ∈ withCountry (digits raw)) :
    Text.Decimal.isDigit c = true := by
  have hdigits : ∀ c ∈ digits raw, Text.Decimal.isDigit c = true :=
    fun c hc => (List.mem_filter.mp hc).2
  unfold withCountry at h
  split at h
  · exact hdigits c h
  · rcases List.mem_cons.mp h with rfl | h
    · rfl
    · exact hdigits c h

theorem withCountry_of_head {numerals : List Char} (h : numerals.head? = some '1') :
    withCountry numerals = numerals := by
  obtain ⟨rest, rfl⟩ := List.head?_eq_some_iff.mp h
  rfl

theorem withCountry_of_head_ne {numerals : List Char} (h : numerals.head? ≠ some '1') :
    withCountry numerals = '1' :: numerals := by
  unfold withCountry
  split
  · exact absurd rfl h
  · rfl

theorem exists_withCountry (numerals : List Char) : ∃ rest, withCountry numerals = '1' :: rest := by
  by_cases h : numerals.head? = some '1'
  · obtain ⟨rest, rfl⟩ := List.head?_eq_some_iff.mp h
    exact ⟨rest, rfl⟩
  · exact ⟨numerals, withCountry_of_head_ne h⟩

end Digits

section Forms

/-- What becomes of a text is decided by how many digits it has and whether the first is `1`. -/
theorem normalize_eq (raw : String) :
    normalize raw =
      if (digits raw).length = 10 ∧ (digits raw).head? ≠ some '1' then
        some (.ofList ('+' :: '1' :: digits raw))
      else if (digits raw).length = 11 ∧ (digits raw).head? = some '1' then
        some (.ofList ('+' :: digits raw))
      else none := by
  rw [normalize, digits_trim]
  by_cases hhead : (digits raw).head? = some '1'
  · rw [withCountry_of_head hhead]
    simp [hhead]
  · rw [withCountry_of_head_ne hhead]
    simp [hhead]

theorem normalize_congr {other : String} (h : digits other = digits raw) :
    normalize other = normalize raw := by
  rw [normalize_eq, normalize_eq, h]

@[simp] theorem normalize_trim (raw : String) : normalize (Text.trim raw) = normalize raw :=
  normalize_congr (digits_trim raw)

theorem normalize_eq_some (h : normalize raw = some number) :
    number.toList = '+' :: withCountry (digits raw) ∧ (withCountry (digits raw)).length = 11 := by
  rw [normalize, digits_trim] at h
  split at h
  · rename_i hlength
    rw [← Option.some.inj h, String.toList_ofList]
    exact ⟨rfl, hlength⟩
  · cases h

theorem isCanonical_iff :
    isCanonical text = true ↔
      ∃ rest, text.toList = '+' :: '1' :: rest ∧ rest.length = 10 ∧
        ∀ c ∈ rest, Text.Decimal.isDigit c = true := by
  rw [isCanonical]
  constructor
  · intro h
    split at h
    · rename_i rest hchars
      rw [Bool.and_eq_true, beq_iff_eq, List.all_eq_true] at h
      exact ⟨rest, hchars, h⟩
    · cases h
  · rintro ⟨rest, hchars, hlength, hdigits⟩
    rw [hchars]
    simp only [hlength, beq_self_eq_true, Bool.true_and]
    exact List.all_eq_true.mpr hdigits

theorem isCanonical_of_normalize (h : normalize raw = some number) : isCanonical number = true := by
  obtain ⟨hchars, hlength⟩ := normalize_eq_some h
  obtain ⟨rest, hrest⟩ := exists_withCountry (digits raw)
  rw [hrest] at hchars hlength
  refine isCanonical_iff.mpr ⟨rest, hchars, Nat.succ.inj hlength, ?_⟩
  intro c hc
  have hmem : c ∈ withCountry (digits raw) := by
    rw [hrest]
    exact List.mem_cons_of_mem _ hc
  exact isDigit_of_mem_withCountry hmem

theorem normalize_of_isCanonical (h : isCanonical text = true) : normalize text = some text := by
  obtain ⟨rest, hchars, hlength, hdigits⟩ := isCanonical_iff.mp h
  obtain rfl : text = .ofList ('+' :: '1' :: rest) := by
    rw [← hchars, String.ofList_toList]
  have hall : ∀ c ∈ '1' :: rest, Text.Decimal.isDigit c = true := by
    intro c hc
    rcases List.mem_cons.mp hc with rfl | hc
    · rfl
    · exact hdigits c hc
  rw [normalize_eq, digits_of_all hall, if_neg fun h => h.2 rfl, if_pos]
  exact ⟨congrArg Nat.succ hlength, rfl⟩

theorem normalize_self_iff : normalize text = some text ↔ isCanonical text = true :=
  ⟨isCanonical_of_normalize, normalize_of_isCanonical⟩

theorem normalize_normalize (h : normalize raw = some number) : normalize number = some number :=
  normalize_of_isCanonical (isCanonical_of_normalize h)

theorem isBlank_of_isCanonical (h : isCanonical text = true) : Text.isBlank text = false := by
  obtain ⟨rest, hchars, _⟩ := isCanonical_iff.mp h
  rw [Text.isBlank, hchars]
  rfl

end Forms

section Keys

theorem key_of_normalize (h : normalize raw = some number) : key raw = number := by
  rw [key, normalize_trim, h]
  rfl

theorem key_of_none (h : normalize raw = none) : key raw = Text.trim raw := by
  rw [key, normalize_trim, h]
  rfl

@[simp] theorem key_key (raw : String) : key (key raw) = key raw := by
  cases h : normalize raw with
  | some number =>
      rw [key_of_normalize h]
      exact key_of_normalize (normalize_normalize h)
  | none =>
      rw [key_of_none h, key_of_none ((normalize_trim raw).trans h), Text.trim_trim]

theorem isBlank_key (h : Text.isBlank raw = false) : Text.isBlank (key raw) = false := by
  cases hnumber : normalize raw with
  | some number =>
      rw [key_of_normalize hnumber]
      exact isBlank_of_isCanonical (isCanonical_of_normalize hnumber)
  | none =>
      rw [key_of_none hnumber]
      exact (Text.isBlank_trim raw).trans h

end Keys

end PhoneNumber

namespace TelephonySettings

variable {settings : TelephonySettings} {needsHttps : Bool}

theorem guard_eq_ok {ε : Type} {broken : Prop} [Decidable broken] {error : ε}
    {rest : Except ε Unit} :
    (if broken then (do throw error; rest) else rest) = .ok () ↔ ¬broken ∧ rest = .ok () := by
  by_cases h : broken
  · rw [if_pos h]
    exact iff_of_false nofun fun hrest => hrest.1 h
  · rw [if_neg h]
    exact (and_iff_right h).symm

theorem check_of_check (h : settings.check needsHttps = .ok ()) (number : String) :
    { settings with outgoingNumber := number }.check needsHttps =
      if PhoneNumber.isCanonical number then .ok () else .error .badOutgoingNumber := by
  simp only [check, guard_eq_ok] at h
  obtain ⟨hsid, hform, htoken, hhost, hsecure, _⟩ := h
  simp only [check, if_neg hsid, if_neg hform, if_neg htoken, if_neg hhost, if_neg hsecure]
  cases PhoneNumber.isCanonical number <;> rfl

end TelephonySettings

/-- A text has a canonical form when it has ten digits that do not begin with `1`, or eleven that do.
The form is its own canonical form, what is written around the digits does not count, and the
settings accept a text as the number of outgoing calls just when it is its own canonical form. -/
theorem numbers_have_one_canonical_form (raw : String) :
    (PhoneNumber.normalize raw =
      if (PhoneNumber.digits raw).length = 10 ∧ (PhoneNumber.digits raw).head? ≠ some '1' then
        some (.ofList ('+' :: '1' :: PhoneNumber.digits raw))
      else if (PhoneNumber.digits raw).length = 11 ∧
          (PhoneNumber.digits raw).head? = some '1' then
        some (.ofList ('+' :: PhoneNumber.digits raw))
      else none) ∧
    (∀ number, PhoneNumber.normalize raw = some number →
      PhoneNumber.normalize number = some number) ∧
    (∀ other, PhoneNumber.digits other = PhoneNumber.digits raw →
      PhoneNumber.normalize other = PhoneNumber.normalize raw) ∧
    ∀ (settings : TelephonySettings) (needsHttps : Bool), settings.check needsHttps = .ok () →
      { settings with outgoingNumber := raw }.check needsHttps =
        if PhoneNumber.normalize raw = some raw then .ok () else .error .badOutgoingNumber := by
  refine ⟨PhoneNumber.normalize_eq raw, fun _ => PhoneNumber.normalize_normalize,
    fun _ => PhoneNumber.normalize_congr, ?_⟩
  intro settings needsHttps h
  rw [TelephonySettings.check_of_check h raw]
  simp only [PhoneNumber.normalize_self_iff]

section Spelled

/-- A number with a full-width digit, which does not count, and a hyphen that does not break. -/
def spelledNumber : String :=
  "\u3000(613)\uff11 555\u20110000"

def plainSettings : TelephonySettings where
  accountSid := "AC0"
  authToken := "token"
  publicHost := "https://ivr.example.com"
  outgoingNumber := "+16135559999"

theorem plainSettings_check : plainSettings.check true = .ok () := by
  have hpass : (plainSettings.check true).toBool = true := by decide +kernel
  cases hcheck : plainSettings.check true with
  | ok value => rfl
  | error error =>
      rw [hcheck] at hpass
      cases hpass

/-- It has a canonical form, shares it with other spellings, and is no number to call from. -/
theorem spelledNumber_has_its_form :
    PhoneNumber.normalize spelledNumber = some "+16135550000" ∧
      PhoneNumber.normalize "+16135550000" = some "+16135550000" ∧
        PhoneNumber.normalize "613.555.0000" = PhoneNumber.normalize spelledNumber ∧
          { plainSettings with outgoingNumber := spelledNumber }.check true =
            .error .badOutgoingNumber := by
  obtain ⟨hform, hself, hdigits, hsettings⟩ := numbers_have_one_canonical_form spelledNumber
  have hnumber : PhoneNumber.normalize spelledNumber = some "+16135550000" := by
    rw [hform]
    decide
  refine ⟨hnumber, hself _ hnumber, hdigits _ (by decide), ?_⟩
  rw [hsettings plainSettings true plainSettings_check, hnumber, if_neg (by decide)]

end Spelled

end PhoneTree

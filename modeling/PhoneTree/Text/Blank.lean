namespace PhoneTree.Text

/-- The characters with the property `White_Space`. -/
def isSpace (c : Char) : Bool :=
  let code := c.toNat
  (0x09 ≤ code && code ≤ 0x0D) || code == 0x20 || code == 0x85 || code == 0xA0 || code == 0x1680
    || (0x2000 ≤ code && code ≤ 0x200A) || code == 0x2028 || code == 0x2029 || code == 0x202F
    || code == 0x205F || code == 0x3000

def trimEnd (chars : List Char) : List Char :=
  (chars.reverse.dropWhile isSpace).reverse

/-- A text without the spaces at its ends. -/
def trim (text : String) : String :=
  .ofList (trimEnd (text.toList.dropWhile isSpace))

/-- Whether a text is empty but for spaces. -/
def isBlank (text : String) : Bool :=
  text.toList.all isSpace

theorem dropWhile_isSpace_eq_nil_iff {chars : List Char} :
    chars.dropWhile isSpace = [] ↔ chars.all isSpace = true := by
  induction chars with
  | nil => simp
  | cons c rest ih => by_cases hc : isSpace c = true <;> simp_all

theorem trimEnd_eq_nil_iff {chars : List Char} :
    trimEnd chars = [] ↔ chars.all isSpace = true := by
  rw [trimEnd, List.reverse_eq_nil_iff, dropWhile_isSpace_eq_nil_iff, List.all_reverse]

theorem trim_eq_empty_iff {text : String} : trim text = "" ↔ isBlank text = true := by
  rw [trim, ← String.toList_inj, String.toList_ofList, String.toList_empty, trimEnd_eq_nil_iff,
    isBlank]
  induction text.toList with
  | nil => rfl
  | cons c rest ih => by_cases hc : isSpace c = true <;> simp_all

theorem dropWhile_isSpace_eq_self {chars : List Char}
    (h : ∀ c, chars.head? = some c → isSpace c = false) : chars.dropWhile isSpace = chars := by
  cases chars with
  | nil => rfl
  | cons c rest => simp [h c rfl]

theorem head?_dropWhile_isSpace (chars : List Char) :
    ∀ c, (chars.dropWhile isSpace).head? = some c → isSpace c = false := by
  intro c hc
  have hfirst := List.head?_dropWhile_not isSpace chars
  rw [hc] at hfirst
  simpa using hfirst

theorem trimEnd_trimEnd (chars : List Char) : trimEnd (trimEnd chars) = trimEnd chars := by
  rw [trimEnd, trimEnd, List.reverse_reverse,
    dropWhile_isSpace_eq_self (head?_dropWhile_isSpace chars.reverse)]

theorem head?_trimEnd {chars : List Char} (h : ∀ c, chars.head? = some c → isSpace c = false) :
    (trimEnd chars).head? = chars.head? := by
  cases chars with
  | nil => rfl
  | cons c rest =>
      rw [trimEnd, List.reverse_cons, List.dropWhile_append]
      split
      · simp [h c rfl]
      · simp

@[simp] theorem trim_trim (text : String) : trim (trim text) = trim text := by
  have hhead := head?_dropWhile_isSpace text.toList
  rw [trim, trim, String.toList_ofList, dropWhile_isSpace_eq_self, trimEnd_trimEnd]
  intro c hc
  rw [head?_trimEnd hhead] at hc
  exact hhead c hc

theorem isBlank_trim (text : String) : isBlank (trim text) = isBlank text := by
  rw [Bool.eq_iff_iff, ← trim_eq_empty_iff, ← trim_eq_empty_iff, trim_trim]

end PhoneTree.Text

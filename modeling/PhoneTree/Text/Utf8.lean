namespace PhoneTree.Text.Utf8

def encodeChar (c : Char) : List UInt8 :=
  let n := c.toNat
  if n < 0x80 then [n.toUInt8]
  else if n < 0x800 then [(0xC0 + n / 0x40).toUInt8, (0x80 + n % 0x40).toUInt8]
  else if n < 0x10000 then
    [(0xE0 + n / 0x1000).toUInt8, (0x80 + n / 0x40 % 0x40).toUInt8, (0x80 + n % 0x40).toUInt8]
  else
    [(0xF0 + n / 0x40000).toUInt8, (0x80 + n / 0x1000 % 0x40).toUInt8,
      (0x80 + n / 0x40 % 0x40).toUInt8, (0x80 + n % 0x40).toUInt8]

/-- The bytes of a list of characters. -/
def encodeChars (chars : List Char) : List UInt8 :=
  chars.flatMap encodeChar

def encode (text : String) : List UInt8 :=
  encodeChars text.toList

/-- Whether a byte continues a sequence. -/
def isContinuation (b : UInt8) : Bool :=
  0x80 ≤ b && b ≤ 0xBF

/-- What a leading byte announces: how many bytes follow, and the bounds of the first of them. -/
structure Lead where
  follow : Nat
  low : UInt8
  high : UInt8
  bits : Nat

/-- The announcement of a byte above 0x7F, if it can lead a sequence. -/
def lead? (b : UInt8) : Option Lead :=
  let n := b.toNat
  if 0xC2 ≤ n && n ≤ 0xDF then some ⟨1, 0x80, 0xBF, n - 0xC0⟩
  else if n = 0xE0 then some ⟨2, 0xA0, 0xBF, 0⟩
  else if n = 0xED then some ⟨2, 0x80, 0x9F, 0xD⟩
  else if 0xE1 ≤ n && n ≤ 0xEF then some ⟨2, 0x80, 0xBF, n - 0xE0⟩
  else if n = 0xF0 then some ⟨3, 0x90, 0xBF, 0⟩
  else if 0xF1 ≤ n && n ≤ 0xF3 then some ⟨3, 0x80, 0xBF, n - 0xF0⟩
  else if n = 0xF4 then some ⟨3, 0x80, 0x8F, 4⟩
  else none

/-- The longest run of at most `limit` bytes at the front that fit: the first within the bounds of
the leading byte, the others any continuation. -/
def following (lead : Lead) (bytes : List UInt8) : List UInt8 :=
  match bytes with
  | b :: rest =>
      if lead.low ≤ b && b ≤ lead.high then
        b :: (rest.takeWhile isContinuation).take (lead.follow - 1)
      else []
  | [] => []

/-- The first character of the bytes, `none` for an ill-formed part, and how many bytes it takes
after the first one. -/
def next (first : UInt8) (rest : List UInt8) : Option Char × Nat :=
  if first < 0x80 then (some (Char.ofNat first.toNat), 0)
  else
    match lead? first with
    | none => (none, 0)
    | some lead =>
        let tail := following lead rest
        if tail.length = lead.follow then
          (some (Char.ofNat (tail.foldl (fun n b => n * 0x40 + (b.toNat - 0x80)) lead.bits)),
            tail.length)
        else (none, tail.length)

/-- The characters of the bytes in order, `none` for each ill-formed part. -/
def scan : List UInt8 → List (Option Char)
  | [] => []
  | first :: rest =>
      let (c, used) := next first rest
      c :: scan (rest.drop used)
termination_by bytes => bytes.length
decreasing_by
  rw [List.length_drop, List.length_cons]
  omega

/-- Reads bytes that are well formed throughout. -/
def decode? (bytes : List UInt8) : Option String :=
  ((scan bytes).mapM id).map .ofList

/-- Reads any bytes, with U+FFFD for each ill-formed part. -/
def decodeLossy (bytes : List UInt8) : String :=
  .ofList ((scan bytes).map fun c => c.getD (Char.ofNat 0xFFFD))

end PhoneTree.Text.Utf8

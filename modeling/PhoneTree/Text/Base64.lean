namespace PhoneTree.Text.Base64

/-- The character of six bits. -/
def sextet (n : Nat) : Char :=
  let n := n % 64
  if n < 26 then Char.ofNat ('A'.toNat + n)
  else if n < 52 then Char.ofNat ('a'.toNat + (n - 26))
  else if n < 62 then Char.ofNat ('0'.toNat + (n - 52))
  else if n = 62 then '+'
  else '/'

/-- The characters for bytes, three at a time. -/
def encode : List UInt8 → List Char
  | [] => []
  | [a] =>
      let n := a.toNat * 0x10
      [sextet (n / 64), sextet n, '=', '=']
  | [a, b] =>
      let n := (a.toNat * 0x100 + b.toNat) * 4
      [sextet (n / 0x1000), sextet (n / 64), sextet n, '=']
  | a :: b :: c :: rest =>
      let n := (a.toNat * 0x100 + b.toNat) * 0x100 + c.toNat
      sextet (n / 0x40000) :: sextet (n / 0x1000) :: sextet (n / 64) :: sextet n :: encode rest

end PhoneTree.Text.Base64

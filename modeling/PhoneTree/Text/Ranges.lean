namespace PhoneTree.Text

/-- A set of code points as inclusive ranges in ascending order. -/
abbrev Ranges := List (Nat × Nat)

/-- Whether a code is in one of the ranges. -/
def Ranges.contains (ranges : Ranges) (code : Nat) : Bool :=
  ranges.any fun range => range.1 ≤ code && code ≤ range.2

end PhoneTree.Text

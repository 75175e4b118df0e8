import PhoneTree.Text.CaseTable

namespace PhoneTree.Text

/-- The lower-case form of a character outside the final-sigma rule. -/
def lowerChar (c : Char) : List Char :=
  let code := c.toNat
  if code < 0x80 then
    [c.toLower]
  else if code = 0x130 then
    ['i', Char.ofNat 0x307]
  else
    match caseRuns.find? fun run => run.first ≤ code && code ≤ run.last with
    | some run =>
        if (code - run.first) % run.step = 0 then
          [Char.ofNat (Int.toNat (code + run.offset))]
        else [c]
    | none => [c]

/-- Whether characters go on with a cased one, after any that are ignored. -/
def startsCased (chars : List Char) : Bool :=
  match chars.dropWhile fun c => caseIgnorable.contains c.toNat with
  | [] => false
  | c :: _ => casedOnly.contains c.toNat

/-- Lower-cases what follows `before`, the characters already read in reverse order. A capital
sigma is final when a cased character stands before it and none after it. -/
def lowerAfter (before : List Char) : List Char → List Char
  | [] => []
  | c :: rest =>
      let lowered :=
        if c = 'Σ' then
          if startsCased before && !startsCased rest then ['ς'] else ['σ']
        else lowerChar c
      lowered ++ lowerAfter (c :: before) rest

/-- The lower-case form of a text by the full Unicode mappings. -/
def lowercase (text : String) : String :=
  .ofList (lowerAfter [] text.toList)

end PhoneTree.Text

import PhoneTree.Tree.Gather
import PhoneTree.Tree.Message
import PhoneTree.Text.Decimal

namespace PhoneTree.Menu

/-- Refuses menus without choices and those with more choices than keys. -/
def checkCount (count : Nat) : Except TreeError Unit :=
  if count = 0 then .error (.badChoices .none)
  else if 9 < count then .error (.badChoices .tooMany)
  else .ok ()

/-- One sentence for each choice, with the keys counted on from a first one. -/
def announceFrom (opening : String) (key : Nat) : List String → List String
  | [] => []
  | choice :: rest =>
      s!"{opening} {choice}, press {Text.Decimal.text key}." :: announceFrom opening (key + 1) rest

/-- Announces a few choices in one text, each with its key. -/
def announce (choices : List String) (opening : Option String) : Except TreeError String := do
  checkCount choices.length
  return " ".intercalate (announceFrom (opening.getD "For") 1 choices)

/-- Whether the caller chose one of `count` numbered choices. -/
def isChoice (count : Nat) (turn : Turn) : Except TreeError Bool := do
  checkCount count
  return turn.integerDigits.any fun n => 0 < n && n ≤ count

/-- The characters of a number one by one, to be read out. -/
def spell (number : String) : String :=
  ", ".intercalate ((Text.trim number).toList.map Char.toString)

/-- Collects one key that interrupts the messages. -/
def interruptible (timeout : Option Nat) : Gather :=
  .digits
    { timeout := (timeout.filter (1 ≤ ·)).getD 6
      number := 1
      finishOnKey := some ""
      interrupt := true }

/-- A pause of some seconds, of one second if none are given. -/
def pause (seconds : Option Nat) : Message :=
  .pause ((seconds.filter (0 < ·)).getD 1)

end PhoneTree.Menu

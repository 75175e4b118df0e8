import PhoneTree.Text.Decimal
import PhoneTree.Text.Percent

namespace PhoneTree

/-- How important a log line is. -/
inductive LogLevel
  | error
  | warn
  | info
  | debug
  | trace
  deriving DecidableEq, Inhabited

namespace LogLevel

def name : LogLevel → String
  | error => "ERROR"
  | warn => "WARN"
  | info => "INFO"
  | debug => "DEBUG"
  | trace => "TRACE"

/-- The place of a level, the most important one first. -/
def rank : LogLevel → Nat
  | error => 1
  | warn => 2
  | info => 3
  | debug => 4
  | trace => 5

end LogLevel

/-- Up to which rank the lines of a target are shown. -/
structure LogRule where
  target : List Char
  rank : Nat
  deriving DecidableEq, Inhabited

/-- The rules by which lines are shown. -/
structure LogFilter where
  rules : List LogRule
  deriving DecidableEq, Inhabited

namespace LogFilter

/-- The rank up to which a word shows lines: the name of a level in any case, its place, or
`off`. -/
def rank? (word : List Char) : Option Nat :=
  match Text.Decimal.below? 6 word with
  | some rank => some rank
  | none =>
      let lower := String.ofList (word.map Char.toLower)
      ["off", "error", "warn", "info", "debug", "trace"].idxOf? lower

/-- Whether a rule may begin with a character. -/
def startsRule (c : Char) : Bool :=
  c.isAlphanum || c == '-' || c == ':' || c == '_' || 0x80 ≤ c.toNat

/-- Reads a rule: a level, a target, or both with an equals sign between them. A target alone shows
everything. A rule for single spans shows no line by itself. -/
def readRule? (chars : List Char) : Option (Option LogRule) :=
  if chars.contains '[' then some none
  else if !(chars.head?.any startsRule) then none
  else if chars.contains '=' then
    let level := (chars.dropWhile (· != '=')).drop 1
    let rank := if level.isEmpty then some LogLevel.trace.rank else rank? level
    rank.map fun rank => some ⟨chars.takeWhile (· != '='), rank⟩
  else
    match rank? chars with
    | some rank => some (some ⟨[], rank⟩)
    | none => some (some ⟨chars, LogLevel.trace.rank⟩)

def ruleTexts (text : String) : List (List Char) :=
  (Text.Percent.splitOn ',' text.toList).filter fun rule => !rule.isEmpty

/-- Reads a filter all of whose rules must be well formed. -/
def parse? (text : String) : Option LogFilter :=
  ((ruleTexts text).mapM readRule?).map fun rules => ⟨rules.filterMap id⟩

/-- Reads a filter and passes over malformed rules. -/
def parse (text : String) : LogFilter :=
  ⟨(ruleTexts text).filterMap fun rule => (readRule? rule).join⟩

/-- The rule that decides for a target: of the longest matching ones, the last. -/
def decisive? (filter : LogFilter) (target : List Char) : Option LogRule :=
  (filter.rules.filter fun rule => rule.target.isPrefixOf target).foldl
    (fun best rule =>
      if best.any fun other => rule.target.length < other.target.length then best else some rule)
    none

/-- Whether a line of a target and a level is shown. -/
def shows (filter : LogFilter) (target : String) (level : LogLevel) : Bool :=
  (filter.decisive? target.toList).any fun rule => level.rank ≤ rule.rank

end LogFilter

end PhoneTree

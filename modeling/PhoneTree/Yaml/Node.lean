import PhoneTree.Yaml.Token

namespace PhoneTree.Yaml

/-- A node; plain scalars are told apart from quoted ones and blocks. Where a node could stand but
none does there is an empty plain scalar. -/
inductive Node
  | scalar (plain : Bool) (text : String)
  | list (items : List Node)
  | fields (fields : List (Node × Node))
  deriving Inhabited

namespace Node

/-- What stands where a node is left out. -/
def missing : Node :=
  scalar true ""

/-- The number of collections that may be open at once. -/
def maxDepth : Nat := 128

/-- Whether the next token ends an entry of a block sequence before its node. -/
def endsEntry : List Token → Bool
  | .entry :: _ | .blockEnd :: _ => true
  | _ => false

/-- Whether the next token ends a key or a value of a block mapping before its node. -/
def endsPair : List Token → Bool
  | .key :: _ | .value :: _ | .blockEnd :: _ => true
  | _ => false

/-- Whether the next token ends an entry of a sequence that is not indented. -/
def endsIndentless (tokens : List Token) : Bool :=
  endsEntry tokens || endsPair tokens

/-- Whether the next token ends a key or a value of a flow collection before its node. -/
def endsFlow : List Token → Bool
  | .value :: _ | .flowEntry :: _ | .flowSequenceEnd :: _ | .flowMappingEnd :: _ => true
  | _ => false

mutual

/-- Reads a node in at most `fuel` steps with at most `depth` more collections open. Blocks are
allowed outside of flow collections only, and a sequence without indentation of its own only in a
block mapping. -/
def read : Nat → Nat → (block indentless : Bool) → List Token → Option (Node × List Token)
  | 0, _, _, _, _ => none
  | fuel + 1, depth, block, indentless, tokens =>
      match tokens with
      | .scalar plain text :: rest => some (scalar plain (.ofList text), rest)
      | token :: rest =>
          match depth with
          | 0 => none
          | depth + 1 =>
              match token with
              | .entry =>
                  if indentless then
                    (readIndentless fuel depth tokens).map fun (items, rest) => (list items, rest)
                  else none
              | .flowSequence =>
                  (readFlowItems fuel depth true rest).map fun (items, rest) => (list items, rest)
              | .flowMapping =>
                  (readFlowFields fuel depth true rest).map fun (pairs, rest) =>
                    (fields pairs, rest)
              | .blockSequence =>
                  if block then
                    (readItems fuel depth rest).map fun (items, rest) => (list items, rest)
                  else none
              | .blockMapping =>
                  if block then
                    (readFields fuel depth rest).map fun (pairs, rest) => (fields pairs, rest)
                  else none
              | _ => none
      | [] => none

/-- Reads the entries of a block sequence up to its end. -/
def readItems : Nat → Nat → List Token → Option (List Node × List Token)
  | 0, _, _ => none
  | fuel + 1, depth, tokens =>
      match tokens with
      | .blockEnd :: rest => some ([], rest)
      | .entry :: rest => do
          let (item, rest) ←
            if endsEntry rest then some (missing, rest) else read fuel depth true false rest
          let (items, rest) ← readItems fuel depth rest
          return (item :: items, rest)
      | _ => none

/-- Reads the entries of a sequence without indentation of its own. -/
def readIndentless : Nat → Nat → List Token → Option (List Node × List Token)
  | 0, _, _ => none
  | fuel + 1, depth, tokens =>
      match tokens with
      | .entry :: rest => do
          let (item, rest) ←
            if endsIndentless rest then some (missing, rest) else read fuel depth true false rest
          let (items, rest) ← readIndentless fuel depth rest
          return (item :: items, rest)
      | tokens => some ([], tokens)

/-- Reads the pairs of a block mapping up to its end. -/
def readFields : Nat → Nat → List Token → Option (List (Node × Node) × List Token)
  | 0, _, _ => none
  | fuel + 1, depth, tokens =>
      match tokens with
      | .blockEnd :: rest => some ([], rest)
      | .key :: rest => do
          let (key, rest) ←
            if endsPair rest then some (missing, rest) else read fuel depth true true rest
          let (value, rest) ←
            match rest with
            | .value :: rest =>
                if endsPair rest then some (missing, rest) else read fuel depth true true rest
            | rest => some (missing, rest)
          let (pairs, rest) ← readFields fuel depth rest
          return ((key, value) :: pairs, rest)
      | _ => none

/-- Reads what follows a colon in a flow collection, or nothing. -/
def readFlowValue : Nat → Nat → List Token → Option (Node × List Token)
  | 0, _, _ => none
  | fuel + 1, depth, tokens =>
      match tokens with
      | .value :: rest =>
          if endsFlow rest then some (missing, rest) else read fuel depth false false rest
      | tokens => some (missing, tokens)

/-- Reads the items of a flow sequence up to its bracket. A pair among the items is a mapping of
its own. -/
def readFlowItems : Nat → Nat → (first : Bool) → List Token → Option (List Node × List Token)
  | 0, _, _, _ => none
  | fuel + 1, depth, first, tokens =>
      match first, tokens with
      | _, .flowSequenceEnd :: rest => some ([], rest)
      | false, .flowEntry :: .flowSequenceEnd :: rest => some ([], rest)
      | false, .flowEntry :: rest => readFlowItems fuel depth true rest
      | false, _ => none
      | true, .key :: rest =>
          match depth with
          | 0 => none
          | depth + 1 => do
              let (key, rest) ← read fuel depth false false rest
              let (value, rest) ← readFlowValue fuel depth rest
              let (items, rest) ← readFlowItems fuel (depth + 1) false rest
              return (fields [(key, value)] :: items, rest)
      | true, tokens => do
          let (item, rest) ← read fuel depth false false tokens
          let (items, rest) ← readFlowItems fuel depth false rest
          return (item :: items, rest)

/-- Reads the pairs of a flow mapping up to its brace. -/
def readFlowFields : Nat → Nat → (first : Bool) → List Token →
    Option (List (Node × Node) × List Token)
  | 0, _, _, _ => none
  | fuel + 1, depth, first, tokens =>
      match first, tokens with
      | _, .flowMappingEnd :: rest => some ([], rest)
      | false, .flowEntry :: .flowMappingEnd :: rest => some ([], rest)
      | false, .flowEntry :: rest => readFlowFields fuel depth true rest
      | false, _ => none
      | true, .key :: rest => do
          let (key, rest) ←
            if endsFlow rest then some (missing, rest) else read fuel depth false false rest
          let (value, rest) ← readFlowValue fuel depth rest
          let (pairs, rest) ← readFlowFields fuel depth false rest
          return ((key, value) :: pairs, rest)
      | true, tokens => do
          let (key, rest) ← read fuel depth false false tokens
          let (pairs, rest) ← readFlowFields fuel depth false rest
          return ((key, missing) :: pairs, rest)

end

def readDocument (tokens : List Token) : Option (Node × List Token) :=
  let fuel := 4 * tokens.length + 4
  match tokens with
  | .documentStart :: rest =>
      match rest with
      | [] | .documentStart :: _ | .documentEnd :: _ => some (missing, rest)
      | rest => read fuel maxDepth true false rest
  | tokens => read fuel maxDepth true false tokens

/-- Reads a source that holds one document. -/
def parse (source : String) : Option Node := do
  let (node, rest) ← readDocument (← tokenize source)
  guard (rest.all (· == .documentEnd))
  return node

end Node

end PhoneTree.Yaml

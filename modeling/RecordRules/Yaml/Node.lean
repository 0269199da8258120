import RecordRules.Yaml.Token

/-!
# Nodes of YAML

Tokens form one tree: scalars, sequences and mappings. A mapping is kept as the pairs that were
written, whether or not their keys can be keys.
-/

namespace RecordRules.Yaml

/-- A part of a document. -/
inductive Node where
  | scalar (text : String) (plain : Bool)
  | sequence (items : List Node)
  | mapping (pairs : List (Node × Node))

namespace Node

/-- The node for nothing. -/
def nothing : Node := .scalar "" true

/-- The fault of tokens that do not go on as they must. -/
def fault : List Token → Fault
  | .unreadable e :: _ => e
  | _ => .document

/-- What follows where a flow collection goes on: at its beginning or after a comma. -/
def flowContinues (first : Bool) (ts : List Token) : Except Fault (List Token) :=
  match first, ts with
  | true, ts => .ok ts
  | false, .flowEntry :: rest => .ok rest
  | false, ts => .error (fault ts)

/-- Whether a token ends a key or value of a flow collection that was left out: a comma, the closing
    of the collection, or after a key its colon. -/
def endsFlowPart (inMapping isKey : Bool) : Token → Bool
  | .flowEntry => true
  | .flowMappingEnd => inMapping
  | .flowSequenceEnd => !inMapping
  | .value => isKey
  | _ => false

mutual

/-- A node at the head of some tokens; `block` says that it may be a block collection, and
    `indentless` that a sequence may stand without indentation. The first argument bounds the
    depth. -/
def ofTokens (block indentless : Bool) : Nat → List Token → Except Fault (Node × List Token)
  | 0, _ => .error .document
  | depth + 1, ts =>
    match ts with
    | .scalar text plain :: rest => .ok (.scalar text plain, rest)
    | .blockEntry :: _ => if indentless then indentlessItems [] depth ts else .error .document
    | .flowSequenceStart :: rest => flowItems true [] depth rest
    | .flowMappingStart :: rest => flowPairs true [] depth rest
    | .blockSequenceStart :: rest => if block then blockItems [] depth rest else .error .document
    | .blockMappingStart :: rest => if block then blockPairs [] depth rest else .error .document
    | ts => .error (fault ts)

/-- The entries of a block sequence. -/
def blockItems (items : List Node) : Nat → List Token → Except Fault (Node × List Token)
  | 0, _ => .error .document
  | depth + 1, ts =>
    match ts with
    | .blockEntry :: .blockEntry :: rest =>
      blockItems (items ++ [nothing]) depth (.blockEntry :: rest)
    | .blockEntry :: .blockEnd :: rest => .ok (.sequence (items ++ [nothing]), rest)
    | .blockEntry :: rest => do
      let (item, rest) ← ofTokens true false depth rest
      blockItems (items ++ [item]) depth rest
    | .blockEnd :: rest => .ok (.sequence items, rest)
    | ts => .error (fault ts)

/-- The entries of a sequence without indentation. -/
def indentlessItems (items : List Node) : Nat → List Token → Except Fault (Node × List Token)
  | 0, _ => .error .document
  | depth + 1, ts =>
    match ts with
    | .blockEntry :: rest =>
      match rest with
      | .blockEntry :: _ | .key :: _ | .value :: _ | .blockEnd :: _ =>
        indentlessItems (items ++ [nothing]) depth rest
      | rest => do
        let (item, rest) ← ofTokens true false depth rest
        indentlessItems (items ++ [item]) depth rest
    | rest => .ok (.sequence items, rest)

/-- A key or value of a block mapping, which may be left out. -/
def blockPart : Nat → List Token → Except Fault (Node × List Token)
  | 0, _ => .error .document
  | depth + 1, ts =>
    match ts with
    | .key :: _ | .value :: _ | .blockEnd :: _ => .ok (nothing, ts)
    | ts => ofTokens true true depth ts

/-- The pairs of a block mapping. -/
def blockPairs (pairs : List (Node × Node)) : Nat → List Token → Except Fault (Node × List Token)
  | 0, _ => .error .document
  | depth + 1, ts =>
    match ts with
    | .key :: rest => do
      let (key, rest) ← blockPart depth rest
      match rest with
      | .value :: rest =>
        let (value, rest) ← blockPart depth rest
        blockPairs (pairs ++ [(key, value)]) depth rest
      | rest => blockPairs (pairs ++ [(key, nothing)]) depth rest
    | .blockEnd :: rest => .ok (.mapping pairs, rest)
    | ts => .error (fault ts)

/-- A key or value in a flow collection, which may be left out before the tokens that end it. -/
def flowPart (inMapping isKey : Bool) : Nat → List Token → Except Fault (Node × List Token)
  | 0, _ => .error .document
  | depth + 1, ts =>
    match ts with
    | [] => .error .document
    | t :: _ =>
      if endsFlowPart inMapping isKey t then .ok (nothing, ts)
      else ofTokens false false depth ts

/-- A pair in a flow collection after the mark of its key. -/
def flowPair (inMapping : Bool) :
    Nat → List Token → Except Fault ((Node × Node) × List Token)
  | 0, _ => .error .document
  | depth + 1, ts => do
    let (key, rest) ← flowPart inMapping true depth ts
    match rest with
    | .value :: rest =>
      let (value, rest) ← flowPart inMapping false depth rest
      return ((key, value), rest)
    | rest => return ((key, nothing), rest)

/-- The items of a flow sequence; a pair among them is a mapping of its own. -/
def flowItems (first : Bool) (items : List Node) : Nat → List Token → Except Fault (Node × List Token)
  | 0, _ => .error .document
  | depth + 1, ts =>
    match ts with
    | .flowSequenceEnd :: rest => .ok (.sequence items, rest)
    | ts => do
      match ← flowContinues first ts with
      | .key :: rest =>
        let (pair, rest) ← flowPair false depth rest
        flowItems false (items ++ [.mapping [pair]]) depth rest
      | .flowSequenceEnd :: rest => .ok (.sequence items, rest)
      | rest =>
        let (item, rest) ← ofTokens false false depth rest
        flowItems false (items ++ [item]) depth rest

/-- The pairs of a flow mapping; a key may stand alone. -/
def flowPairs (first : Bool) (pairs : List (Node × Node)) :
    Nat → List Token → Except Fault (Node × List Token)
  | 0, _ => .error .document
  | depth + 1, ts =>
    match ts with
    | .flowMappingEnd :: rest => .ok (.mapping pairs, rest)
    | ts => do
      match ← flowContinues first ts with
      | .key :: rest =>
        let (pair, rest) ← flowPair true depth rest
        flowPairs false (pairs ++ [pair]) depth rest
      | .flowMappingEnd :: rest => .ok (.mapping pairs, rest)
      | rest =>
        let (key, rest) ← ofTokens false false depth rest
        flowPairs false (pairs ++ [(key, nothing)]) depth rest

end

/-- The tokens after the marks that end a document. -/
def afterEnds : List Token → List Token
  | .documentEnd :: rest => afterEnds rest
  | rest => rest

/-- The node that tokens begin with. -/
def head (ts : List Token) : Except Fault (Node × List Token) :=
  ofTokens true false (3 * ts.length + 3) ts

/-- The contents of a document that is marked as begun. -/
def begun (ts : List Token) : Except Fault (Node × List Token) :=
  match ts with
  | [] | .documentStart :: _ | .documentEnd :: _ => .ok (nothing, ts)
  | ts => head ts

/-- The only document of a text, if there is one; more than one is malformed. -/
def single? (ts : List Token) : Except Fault (Option Node) :=
  match ts with
  | [] => .ok none
  | ts => do
    let (node, rest) ←
      match ts with
      | .documentStart :: rest => begun rest
      | ts => head ts
    match afterEnds rest with
    | [] => return some node
    | rest => throw (fault rest)

end Node

end RecordRules.Yaml

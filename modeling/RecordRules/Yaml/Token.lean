import RecordRules.Fault

/-!
# Tokens of YAML

A text is cut into tokens from the left. Indentation opens and closes block collections; a colon
makes a key of what stands before it on its line. Only what rule files use is read: no anchors,
tags, directives or block scalars. Where a text cannot be read any further its last token tells why,
so that of several faults the first one counts.
-/

namespace RecordRules.Yaml

/-- What a text is made of. -/
inductive Token where
  | documentStart
  | documentEnd
  | blockSequenceStart
  | blockMappingStart
  | blockEnd
  | flowSequenceStart
  | flowMappingStart
  | flowSequenceEnd
  | flowMappingEnd
  | blockEntry
  | flowEntry
  | key
  | value
  | scalar (text : String) (plain : Bool)
  /-- The end of what can be read, and why. -/
  | unreadable (fault : Fault)

/-- A character that ends a line. -/
def isBreak (c : Char) : Bool :=
  c == '\n' || c == '\r' || c == '\x85' || c == '\u2028' || c == '\u2029'

/-- A character that separates tokens; the null character stands for the end of the text. -/
def isGap (c : Char) : Bool := c == '\x00' || c == ' ' || c == '\t' || isBreak c

/-- A character that a text may hold. -/
def isReadable (c : Char) : Bool :=
  let n := c.toNat
  c == '\t' || c == '\n' || c == '\r' || (0x20 ≤ n && n ≤ 0x7e) || n == 0x85
    || (0xa0 ≤ n && n ≤ 0xd7ff) || (0xe000 ≤ n && n ≤ 0xfffd) || 0x10000 ≤ n

/-- A place where a key may have begun. -/
structure Candidate where
  /-- The number of tokens before it. -/
  tokens : Nat
  required : Bool
  index : Nat
  line : Nat
  column : Nat

/-- A scan under way. -/
structure Scan where
  rest : List Char
  index : Nat
  line : Nat
  column : Nat
  tokens : List Token
  flow : Nat
  indent : Int
  indents : List Int
  /-- Whether a key may begin here. -/
  mayBeKey : Bool
  /-- The candidates for keys, by the depth of flow collections. -/
  candidates : List (Nat × Candidate)

/-- A step of scanning, which a malformed text ends. -/
abbrev Scanner := StateT Scan (Except Fault)

namespace Scanner

/-- Refuses a malformed text. -/
def refuse {α : Type} : Scanner α := throw .document

/-- The character some places ahead. -/
def peek (n : Nat) : Scanner Char := return ((← get).rest.drop n).headD '\x00'

/-- The next characters. -/
def ahead (n : Nat) : Scanner (List Char) := return (← get).rest.take n

/-- Goes past one character. -/
def step : Scanner Unit := modify fun s =>
  match s.rest with
  | [] => s
  | c :: rest =>
    let ends := isBreak c && !(c == '\r' && rest.head? == some '\n')
    { s with
      rest, index := s.index + 1
      line := if ends then s.line + 1 else s.line
      column := if ends then 0 else if c == '\ufeff' then s.column else s.column + 1 }

/-- Goes past some characters. -/
def skip : Nat → Scanner Unit
  | 0 => pure ()
  | n + 1 => do step; skip n

/-- Takes the characters of a kind that stand here. -/
def takeWhile (kind : Char → Bool) : Scanner (List Char) := do
  let cs := (← get).rest.takeWhile kind
  skip cs.length
  pure cs

/-- Goes past the end of a line: what stands for it, or nothing if there is none. -/
def lineBreak : Scanner (List Char) := do
  let c ← peek 0
  if c == '\r' && (← peek 1) == '\n' then
    skip 2
    pure ['\n']
  else if c == '\r' || c == '\n' || c == '\x85' then
    step
    pure ['\n']
  else if isBreak c then
    step
    pure [c]
  else pure []

/-- Whether a mark between documents stands here. -/
def atDocumentMark : Scanner Bool := do
  let mark ← ahead 3
  return (mark == ['-', '-', '-'] || mark == ['.', '.', '.']) && isGap (← peek 3)

/-- Adds a token. -/
def emit (t : Token) : Scanner Unit := modify fun s => { s with tokens := s.tokens ++ [t] }

/-- Adds a token before those that follow the first `n`. -/
def insert (n : Nat) (t : Token) : Scanner Unit := modify fun s =>
  { s with tokens := s.tokens.take n ++ t :: s.tokens.drop n }

/-- Says whether a key may begin after what was read. -/
def allowKey (allowed : Bool) : Scanner Unit := modify fun s => { s with mayBeKey := allowed }

/-! ## Candidates for keys -/

/-- Drops candidates that can no longer be keys; one that must be a key may not be dropped. -/
def dropStale : Scanner Unit := do
  let s ← get
  let stale (c : Candidate) : Bool := c.line != s.line || s.index - c.index > 1024
  if s.candidates.any fun (_, c) => stale c && c.required then refuse
  set { s with candidates := s.candidates.filter fun (_, c) => !stale c }

/-- Drops the candidate of this depth; one that must be a key may not be dropped. -/
def dropCandidate : Scanner Unit := do
  let s ← get
  match s.candidates.lookup s.flow with
  | some c =>
    if c.required then refuse
    set { s with candidates := s.candidates.filter fun (depth, _) => depth != s.flow }
  | none => pure ()

/-- Notes that a key may begin here. -/
def noteCandidate : Scanner Unit := do
  if (← get).mayBeKey then
    dropCandidate
    modify fun s =>
      let required := s.flow == 0 && s.indent == s.column
      let candidate := ⟨s.tokens.length, required, s.index, s.line, s.column⟩
      { s with candidates := (s.flow, candidate) :: s.candidates }

/-! ## Indentation -/

/-- Closes the block collections that are indented more than a column. -/
def unwind (column : Int) : List Int → Scanner Unit
  | [] => pure ()
  | outer :: rest => do
    let s ← get
    if s.flow == 0 && s.indent > column then
      set { s with tokens := s.tokens ++ [Token.blockEnd], indent := outer, indents := rest }
      unwind column rest

/-- Closes the block collections that are indented more than a column. -/
def unwindTo (column : Int) : Scanner Unit := do unwind column (← get).indents

/-- Opens a block collection if a column is indented more, and says whether it did. -/
def openBlock (column : Nat) : Scanner Bool := do
  let s ← get
  if s.indent < column then
    set { s with indents := s.indent :: s.indents, indent := column }
    pure true
  else pure false

/-! ## Scalars -/

/-- Reads the gaps inside a quoted scalar after the end of a line: the line ends in them. -/
def quotedBreaks : Nat → Scanner (List Char)
  | 0 => refuse
  | bound + 1 => do
    if ← atDocumentMark then refuse
    let _ ← takeWhile fun c => c == ' ' || c == '\t'
    if isBreak (← peek 0) then
      let first ← lineBreak
      return first ++ (← quotedBreaks bound)
    else pure []

/-- What the end of a line and those after it stand for: a space, or all but the first. -/
def folded (first more : List Char) : List Char :=
  (if first != ['\n'] then first else if more.isEmpty then [' '] else []) ++ more

/-- The character that an escape of one character stands for. -/
def escaped? : Char → Option Char
  | '0' => some '\x00'
  | 'a' => some '\x07'
  | 'b' => some '\x08'
  | 't' => some '\t'
  | '\t' => some '\t'
  | 'n' => some '\n'
  | 'v' => some '\x0b'
  | 'f' => some '\x0c'
  | 'r' => some '\r'
  | 'e' => some '\x1b'
  | ' ' => some ' '
  | '"' => some '"'
  | '\\' => some '\\'
  | '/' => some '/'
  | 'N' => some '\x85'
  | '_' => some '\xa0'
  | 'L' => some '\u2028'
  | 'P' => some '\u2029'
  | _ => none

/-- The number of hexadecimal digits after the letter of an escape. -/
def escapeWidth? : Char → Option Nat
  | 'x' => some 2
  | 'u' => some 4
  | 'U' => some 8
  | _ => none

/-- The value of hexadecimal digits. -/
def hexValue? (cs : List Char) : Option Nat :=
  cs.foldlM (fun value c =>
    if c.isDigit then some (value * 16 + (c.toNat - '0'.toNat))
    else if 'a' ≤ c && c ≤ 'f' then some (value * 16 + (c.toNat - 'a'.toNat + 10))
    else if 'A' ≤ c && c ≤ 'F' then some (value * 16 + (c.toNat - 'A'.toNat + 10))
    else none) 0

/-- Reads an escape after its backslash. -/
def escape (bound : Nat) : Scanner (List Char) := do
  let c ← peek 0
  match escaped? c, escapeWidth? c with
  | some e, _ =>
    step
    pure [e]
  | none, some width =>
    step
    let digits ← ahead width
    if digits.length ≠ width then refuse
    match hexValue? digits with
    | none => refuse
    | some point =>
      if 0x7fffffff < point then throw .codePointTooLarge
      if 0x10ffff < point then throw (.codePointRange 0x110000)
      skip width
      pure [Char.ofNat point]
  | none, none =>
    if isBreak c then
      let _ ← lineBreak
      quotedBreaks bound
    else refuse

/-- Reads a quoted scalar after its first quote; the last argument bounds its length. -/
def quotedFrom (double : Bool) (sofar : List Char) : Nat → Scanner (List Char)
  | 0 => refuse
  | bound + 1 => do
    let quote := if double then '"' else '\''
    let c ← peek 0
    if (← get).rest.isEmpty then refuse
    else if !double && c == '\'' && (← peek 1) == '\'' then
      skip 2
      quotedFrom double (sofar ++ ['\'']) bound
    else if c == quote then
      step
      pure sofar
    else if double && c == '\\' then
      step
      let more ← escape bound
      quotedFrom double (sofar ++ more) bound
    else if c == ' ' || c == '\t' || isBreak c then
      let gap ← takeWhile fun c => c == ' ' || c == '\t'
      if isBreak (← peek 0) then
        let first ← lineBreak
        let more ← quotedBreaks bound
        quotedFrom double (sofar ++ folded first more) bound
      else quotedFrom double (sofar ++ gap) bound
    else
      step
      quotedFrom double (sofar ++ [c]) bound

/-- Whether a plain scalar ends before a character, given the one after it. -/
def endsPlain (inFlow : Bool) (c next : Char) : Bool :=
  isGap c
    || (c == ':' && (isGap next || (inFlow && ",[]\x7b\x7d".toList.contains next)))
    || (inFlow && ",?[]\x7b\x7d".toList.contains c)

/-- The characters of a plain scalar that stand here without a gap. -/
def plainChunk (inFlow : Bool) : List Char → List Char
  | [] => []
  | c :: rest =>
    if endsPlain inFlow c (rest.headD '\x00') then [] else c :: plainChunk inFlow rest

/-- Reads the empty lines inside a plain scalar; nothing if a mark between documents follows. -/
def plainBreaks (sofar : List Char) : Nat → Scanner (Option (List Char))
  | 0 => refuse
  | bound + 1 => do
    let _ ← takeWhile (· == ' ')
    if isBreak (← peek 0) then
      let first ← lineBreak
      if ← atDocumentMark then pure none else plainBreaks (sofar ++ first) bound
    else pure (some sofar)

/-- Reads a gap inside a plain scalar: what it stands for, nothing where the scalar ends. -/
def plainGap (bound : Nat) : Scanner (List Char) := do
  let gap ← takeWhile (· == ' ')
  if isBreak (← peek 0) then
    let first ← lineBreak
    allowKey true
    if ← atDocumentMark then pure []
    else
      match ← plainBreaks [] bound with
      | none => pure []
      | some more => pure (folded first more)
  else pure gap

/-- Reads a plain scalar, which goes on over gaps as long as lines are indented; the last argument
    bounds its length. -/
def plainFrom (indent : Int) (sofar gap : List Char) : Nat → Scanner (List Char)
  | 0 => refuse
  | bound + 1 => do
    let s ← get
    if s.rest.head? == some '#' then pure sofar
    else
      let chunk := plainChunk (s.flow != 0) s.rest
      if chunk.isEmpty then pure sofar
      else
        allowKey false
        skip chunk.length
        let more ← plainGap bound
        let s ← get
        let sofar := sofar ++ gap ++ chunk
        if more.isEmpty || s.rest.head? == some '#' || (s.flow == 0 && s.column < indent) then
          pure sofar
        else plainFrom indent sofar more bound

/-! ## Tokens -/

/-- Goes to the next token, past gaps and comments. -/
def toToken : Nat → Scanner Unit
  | 0 => pure ()
  | bound + 1 => do
    let _ ← takeWhile (· == ' ')
    if (← peek 0) == '#' then
      let _ ← takeWhile fun c => !(isBreak c)
    if (← lineBreak).isEmpty then pure ()
    else
      if (← get).flow == 0 then allowKey true
      toToken bound

/-- Reads a mark between documents. -/
def documentMark (t : Token) : Scanner Unit := do
  unwindTo (-1)
  dropCandidate
  allowKey false
  skip 3
  emit t

/-- Reads the opening of a flow collection. -/
def openFlow (t : Token) : Scanner Unit := do
  noteCandidate
  modify fun s => { s with flow := s.flow + 1 }
  allowKey true
  step
  emit t

/-- Reads the closing of a flow collection. -/
def closeFlow (t : Token) : Scanner Unit := do
  dropCandidate
  modify fun s => { s with flow := s.flow - 1 }
  allowKey false
  step
  emit t

/-- Reads the comma between the parts of a flow collection. -/
def flowSeparator : Scanner Unit := do
  allowKey true
  dropCandidate
  step
  emit .flowEntry

/-- Opens a block collection in this column where one may begin. -/
def beginBlock (t : Token) : Scanner Unit := do
  let s ← get
  if s.flow == 0 then
    if !s.mayBeKey then refuse
    if ← openBlock s.column then emit t

/-- Reads the hyphen before an entry of a block sequence. -/
def sequenceMark : Scanner Unit := do
  beginBlock .blockSequenceStart
  allowKey true
  dropCandidate
  step
  emit .blockEntry

/-- Reads the question mark before a key. -/
def keyMark : Scanner Unit := do
  beginBlock .blockMappingStart
  allowKey ((← get).flow == 0)
  dropCandidate
  step
  emit .key

/-- Reads the colon before a value. What stands before it becomes a key if it can be one. -/
def valueMark : Scanner Unit := do
  let s ← get
  match s.candidates.lookup s.flow with
  | some c =>
    set { s with candidates := s.candidates.filter fun (depth, _) => depth != s.flow }
    insert c.tokens .key
    if s.flow == 0 then
      if ← openBlock c.column then insert c.tokens .blockMappingStart
    allowKey false
  | none =>
    beginBlock .blockMappingStart
    allowKey (s.flow == 0)
    dropCandidate
  step
  emit .value

/-- Reads a quoted scalar. -/
def quotedScalar (double : Bool) (bound : Nat) : Scanner Unit := do
  noteCandidate
  allowKey false
  step
  emit (.scalar (String.ofList (← quotedFrom double [] bound)) false)

/-- Reads a plain scalar. -/
def plainScalar (bound : Nat) : Scanner Unit := do
  noteCandidate
  allowKey false
  let cs ← plainFrom ((← get).indent + 1) [] [] bound
  emit (.scalar (String.ofList cs) true)

/-- Whether a plain scalar may begin with a character, given the one after it. -/
def beginsPlain (inFlow : Bool) (c next : Char) : Bool :=
  !(isGap c || "-?:,[]\x7b\x7d#&*!|>'\"%@\x60".toList.contains c)
    || (!(isGap next) && (c == '-' || (!inFlow && (c == '?' || c == ':'))))

/-- Reads one token; false at the end of the text. -/
def token (bound : Nat) : Scanner Bool := do
  toToken bound
  dropStale
  unwindTo (← get).column
  let s ← get
  let c ← peek 0
  let next ← peek 1
  let inFlow := s.flow != 0
  if s.rest.isEmpty then
    unwindTo (-1)
    dropCandidate
    return false
  if s.column == 0 && (← atDocumentMark) then
    documentMark (if c == '-' then .documentStart else .documentEnd)
  else if c == '[' then openFlow .flowSequenceStart
  else if c == '\x7b' then openFlow .flowMappingStart
  else if c == ']' then closeFlow .flowSequenceEnd
  else if c == '\x7d' then closeFlow .flowMappingEnd
  else if c == ',' then flowSeparator
  else if c == '-' && isGap next then sequenceMark
  else if c == '?' && (inFlow || isGap next) then keyMark
  else if c == ':' && (inFlow || isGap next) then valueMark
  else if c == '\'' then quotedScalar false bound
  else if c == '"' then quotedScalar true bound
  else if beginsPlain inFlow c next then plainScalar bound
  else refuse
  return true

/-- The number of tokens that are certain: those before the first one that may yet become a key. -/
def certain (s : Scan) : Nat :=
  (s.candidates.map (·.2.tokens)).foldl min s.tokens.length

/-- Reads all tokens, or those that are certain and then why there are no more; the argument bounds
    their number. -/
def all : Nat → Scanner Unit
  | 0 => refuse
  | bound + 1 => do
    dropStale
    let s ← get
    match (token (bound + 1)).run s with
    | .ok (more, s) =>
      set s
      if more then all bound
    | .error e => set { s with tokens := s.tokens.take (certain s) ++ [Token.unreadable e] }

end Scanner

/-- The text with one kind of line end, and without a mark of the byte order at its beginning. -/
def normalized : List Char → List Char
  | '\r' :: '\n' :: rest => '\n' :: normalized rest
  | '\r' :: rest => '\n' :: normalized rest
  | c :: rest => c :: normalized rest
  | [] => []

/-- The tokens of a text. -/
def tokens (s : String) : Except Fault (List Token) :=
  let cs := normalized s.toList
  if cs.all isReadable then
    let start : Scan :=
      { rest := if cs.head? = some '\ufeff' then cs.drop 1 else cs
        index := 0, line := 0, column := 0, tokens := [], flow := 0, indent := -1
        indents := [], mayBeKey := true, candidates := [] }
    ((Scanner.all (cs.length + 2)).run start).map fun (_, s) => s.tokens
  else .error .document

end RecordRules.Yaml

import RecordRules.Number.Numeral
import RecordRules.Pattern.Flaw
import RecordRules.Pattern.Syntax
import RecordRules.Text.Identifier

/-!
# Reading regular expressions

An expression is cut into characters and escapes, and these are read from the left with the next
one in view. A backslash that nothing follows is noticed as soon as it comes into view.
-/

namespace RecordRules.Pattern

/-- A character, or a backslash with the character after it. -/
inductive Token where
  | char (c : Char)
  | escape (c : Char)
  deriving DecidableEq

namespace Token

/-- The characters that a token stands for. -/
def characters : Token → List Char
  | .char c => [c]
  | .escape c => ['\\', c]

/-- A token as it is written. -/
def text (t : Token) : String := String.ofList t.characters

end Token

/-- The tokens of an expression, and whether a lone backslash is left at the end. -/
def tokens : List Char → List Token × Bool
  | [] => ([], false)
  | ['\\'] => ([], true)
  | '\\' :: c :: rest => let (ts, lone) := tokens rest; (.escape c :: ts, lone)
  | c :: rest => let (ts, lone) := tokens rest; (.char c :: ts, lone)

/-- What has been read of an expression and what is to come. -/
structure Progress where
  rest : List Token
  /-- The position of the token in view. -/
  position : Nat
  loneBackslash : Bool
  /-- The modes turned on for the whole expression. -/
  mode : Mode
  /-- The letters that turned them on. -/
  letters : List Char
  /-- The number of groups opened. -/
  opened : Nat
  closed : List (Nat × Width)
  names : List (String × Nat)
  /-- Groups that conditions refer to, and where. -/
  awaited : List (Nat × Nat)
  /-- Inside a look behind: the number of groups opened before it. -/
  behindFrom : Option Nat
  /-- The first part, by where it begins, that cannot be searched for, and why. -/
  unsearchable : Option (Nat × Complaint)

/-- A step of reading, which may refuse the expression. -/
abbrev Reader := StateT Progress (Except Flaw)

namespace Reader

/-- Refuses the expression at the position in view, or some characters before. -/
def refuse {α : Type} (complaint : Complaint) (back : Nat) : Reader α := do
  let p ← get
  throw (.malformed complaint (some (p.position - back)))

/-- The token in view. -/
def peek : Reader (Option Token) := return (← get).rest.head?

/-- Takes the token in view. -/
def take : Reader (Option Token) := do
  let p ← get
  match p.rest with
  | [] => pure none
  | t :: rest =>
    let position := p.position + t.characters.length
    if rest.isEmpty && p.loneBackslash then
      throw (.malformed .danglingEscape (some position))
    set { p with rest, position }
    pure (some t)

/-- Takes the token in view if it is a character, and says whether it was. -/
def accept (c : Char) : Reader Bool := do
  if (← peek) = some (.char c) then
    let _ ← take
    pure true
  else pure false

/-- Takes up to `n` characters of a kind. -/
def takeUpTo (kind : Char → Bool) : Nat → Reader (List Char)
  | 0 => pure []
  | n + 1 => do
    match ← peek with
    | some (.char c) =>
      if kind c then
        let _ ← take
        return c :: (← takeUpTo kind n)
      else pure []
    | _ => pure []

/-- Takes all characters of a kind in view. -/
def takeAll (kind : Char → Bool) : Reader (List Char) := do
  takeUpTo kind (← get).rest.length

/-- Takes a name up to a terminator; the last argument bounds its length. -/
def nameUntil (terminator : Char) (what : String) (sofar : List Char) : Nat → Reader String
  | 0 => refuse (.missing what) 0
  | bound + 1 => do
    match ← take with
    | none =>
      if sofar.isEmpty then refuse (.missing what) 0
      else refuse (.missing (terminator.toString ++ ", unterminated name")) sofar.length
    | some t =>
      if t = .char terminator then
        if sofar.isEmpty then refuse (.missing what) 1 else pure (String.ofList sofar)
      else nameUntil terminator what (sofar ++ t.characters) bound

/-- Takes a name up to a terminator. -/
def name (terminator : Char) (what : String) : Reader String := do
  nameUntil terminator what [] ((← get).rest.length + 1)

end Reader

open Reader

/-! ## Escapes -/

/-- An octal digit. -/
def isOctal (c : Char) : Bool := '0' ≤ c && c ≤ '7'

/-- A hexadecimal digit. -/
def isHex (c : Char) : Bool := (Numeral.digitValue c).isSome

/-- Letters of ASCII, which an escape must not name unless it has a meaning. -/
def isPlainLetter (c : Char) : Bool := c.isAlpha

/-- The control character that an escape stands for. -/
def control? : Char → Option Nat
  | 'a' => some 7
  | 'b' => some 8
  | 'f' => some 12
  | 'n' => some 10
  | 'r' => some 13
  | 't' => some 9
  | 'v' => some 11
  | '\\' => some 92
  | _ => none

/-- The kind of characters that an escape stands for. -/
def category? : Char → Option ClassItem
  | 'd' => some (.category .digit false)
  | 'D' => some (.category .digit true)
  | 's' => some (.category .space false)
  | 'S' => some (.category .space true)
  | 'w' => some (.category .word false)
  | 'W' => some (.category .word true)
  | _ => none

/-- The condition on a position that an escape stands for. -/
def anchor? (mode : Mode) : Char → Option Anchor
  | 'A' => some .textStart
  | 'Z' => some .textEnd
  | 'b' => some (.wordBoundary false mode.ascii)
  | 'B' => some (.wordBoundary true mode.ascii)
  | _ => none

/-- The text of an escape whose letter is followed by more characters. -/
def escapeText (c : Char) (more : List Char) : String := String.ofList ('\\' :: c :: more)

/-- A code point in hexadecimal after the letter of an escape. -/
def hexEscape (c : Char) (width : Nat) : Reader Nat := do
  let digits ← takeUpTo isHex width
  if digits.length ≠ width then
    refuse (.incompleteEscape (escapeText c digits)) (2 + digits.length)
  else
    let point := (Numeral.natural? 16 digits).getD 0
    if point > 0x7fffffff then throw .codePointTooLarge
    if point > 0x10ffff then refuse (.badEscape (escapeText c digits)) (2 + width)
    pure point

/-- The value of octal digits, which must fit into a byte. -/
def octalValue (digits : List Char) : Reader Nat := do
  let value := (Numeral.natural? 8 digits).getD 0
  if value > 0o377 then
    refuse (.octalOutOfRange (String.ofList ('\\' :: digits))) (1 + digits.length)
  else pure value

/-- The escapes that mean the same inside and outside of classes. -/
def commonEscape (c : Char) : Reader (Option Nat) := do
  if c == 'x' then return some (← hexEscape c 2)
  else if c == 'u' then return some (← hexEscape c 4)
  else if c == 'U' then return some (← hexEscape c 8)
  else if c == 'N' then
    if ← accept '\x7b' then
      let character ← name '\x7d' "character name"
      refuse (.unknownCharacterName character) (character.length + 4)
    else refuse (.missing (String.ofList ['\x7b'])) 0
  else pure none

/-- What an escape means inside a class. -/
def classEscape (c : Char) : Reader ClassItem := do
  match control? c with
  | some point => pure (.single point)
  | none =>
    match category? c with
    | some item => pure item
    | none =>
      match ← commonEscape c with
      | some point => pure (.single point)
      | none =>
        if isOctal c then return .single (← octalValue (c :: (← takeUpTo isOctal 2)))
        else if Numeral.isDigit c || isPlainLetter c then refuse (.badEscape (escapeText c [])) 2
        else pure (.single c.toNat)

/-- The class of one code point. -/
def codePoint (mode : Mode) (point : Nat) : Node := .one ⟨false, [.single point], mode⟩

/-- Checks that a group may be referred to from where it is. -/
def checkReference (index : Nat) (back : Nat) : Reader Unit := do
  let p ← get
  if (p.closed.lookup index).isNone then refuse .openGroup back

/-- Checks that a look behind does not refer to a group of its own. -/
def checkLookBehind (index : Nat) : Reader Unit := do
  let p ← get
  match p.behindFrom with
  | none => pure ()
  | some groups =>
    if (p.closed.lookup index).isNone then refuse .openGroup 0
    else if index > groups then refuse .groupOfLookBehind 0

/-- A reference to a group by number. -/
def reference (mode : Mode) (digits : List Char) : Reader Node := do
  let index := (Numeral.natural? 10 digits).getD 0
  if index ≤ (← get).opened then
    checkReference index (1 + digits.length)
    checkLookBehind index
    pure (.reference index mode)
  else refuse (.invalidReference index) digits.length

/-- What an escape with a digit means: a code point in octal or a reference to a group. -/
def digitEscape (mode : Mode) (c : Char) : Reader Node := do
  if c == '0' then
    return codePoint mode ((Numeral.natural? 8 (c :: (← takeUpTo isOctal 2))).getD 0)
  match ← takeUpTo Numeral.isDigit 1 with
  | [d] =>
    if isOctal c && isOctal d then
      match ← takeUpTo isOctal 1 with
      | [e] => return codePoint mode (← octalValue [c, d, e])
      | _ => reference mode [c, d]
    else reference mode [c, d]
  | _ => reference mode [c]

/-- What an escape means outside of classes, and whether it is a condition on a position. -/
def escape (mode : Mode) (c : Char) : Reader (Node × Bool) := do
  match anchor? mode c with
  | some condition => pure (.anchor condition, true)
  | none =>
    match category? c with
    | some item => pure (.one ⟨false, [item], mode⟩, false)
    | none =>
      match control? c with
      | some point => pure (codePoint mode point, false)
      | none =>
        match ← commonEscape c with
        | some point => pure (codePoint mode point, false)
        | none =>
          if Numeral.isDigit c then return (← digitEscape mode c, false)
          else if isPlainLetter c then refuse (.badEscape (escapeText c [])) 2
          else pure (codePoint mode c.toNat, false)

/-! ## Classes -/

/-- One token of a class as an entry of it. -/
def classItem : Token → Reader ClassItem
  | .char c => pure (.single c.toNat)
  | .escape c => classEscape c

/-- The single code point that an entry consists of. -/
def ClassItem.point? : ClassItem → Option Nat
  | .single point => some point
  | .range _ _ | .category _ _ => none

/-- The entries of a class up to its closing bracket; `start` is where the class began, and the last
    argument bounds the number of entries. -/
def classItems (start : Nat) (sofar : List ClassItem) : Nat → Reader (List ClassItem)
  | 0 => pure sofar
  | bound + 1 => do
    let unterminated {α : Type} : Reader α := do
      refuse .unterminatedClass ((← get).position - start)
    match ← take with
    | none => unterminated
    | some this =>
      if this = .char ']' && !sofar.isEmpty then pure sofar
      else
        let item ← classItem this
        if ← accept '-' then
          match ← take with
          | none => unterminated
          | some that =>
            if that = .char ']' then pure (sofar ++ [item, .single '-'.toNat])
            else
              let other ← classItem that
              let bad {α : Type} : Reader α :=
                refuse (.badRange this.text that.text)
                  (this.characters.length + 1 + that.characters.length)
              match item.point?, other.point? with
              | some first, some last =>
                if last < first then bad
                else classItems start (sofar ++ [.range first last]) bound
              | _, _ => bad
        else classItems start (sofar ++ [item]) bound

/-- A class after its opening bracket. -/
def charClass (mode : Mode) : Reader Node := do
  let start := (← get).position - 1
  let negated ← accept '^'
  let items ← classItems start [] ((← get).rest.length + 1)
  pure (.one ⟨negated, items.eraseDups, mode⟩)

/-! ## Repetitions -/

/-- The greatest number of repetitions that is counted. -/
def repetitionLimit : Nat := 4294967295

/-- The name of a repetition. -/
def Greed.operator : Greed → String
  | .greedy => "MAX_REPEAT"
  | .lazy => "MIN_REPEAT"
  | .possessive => "POSSESSIVE_REPEAT"

/-- The bounds after an opening brace, or nothing if it does not open any. -/
def bounds : Reader (Option (Nat × Option Nat)) := do
  let before ← get
  if (← peek) = some (.char '\x7d') then return none
  let low ← takeAll Numeral.isDigit
  let high ← if ← accept ',' then takeAll Numeral.isDigit else pure low
  if !(← accept '\x7d') then
    set before
    return none
  let least := (Numeral.natural? 10 low).getD 0
  let most := Numeral.natural? 10 high
  if least ≥ repetitionLimit || most.any (· ≥ repetitionLimit) then throw .tooManyRepetitions
  if most.any (· < least) then
    refuse .leastAboveMost ((← get).position - before.position)
  return some (least, most)

/-- How much a repetition takes, by the mark after it. -/
def greed : Reader Greed := do
  if ← accept '?' then pure .lazy
  else if ← accept '+' then pure .possessive
  else pure .greedy

/-! ## Groups -/

/-- The letters that turn a mode on or off. -/
def isFlag (c : Char) : Bool := "iLmsxatu".toList.contains c

/-- A mode with the effect of letters turned on and off. -/
def Mode.with (mode : Mode) (on off : List Char) : Mode :=
  let flag (c : Char) (old : Bool) : Bool := (old || on.contains c) && !off.contains c
  { ignoreCase := flag 'i' mode.ignoreCase
    multiLine := flag 'm' mode.multiLine
    dotAll := flag 's' mode.dotAll
    verbose := flag 'x' mode.verbose
    ascii := if on.contains 'u' then false else flag 'a' mode.ascii
    template := flag 't' mode.template }

/-- The cause when something else stands where a letter of a mode is expected. -/
def flagComplaint (t : Token) (expected : String) : Complaint :=
  match t with
  | .char c => if Text.isLetter c then .unknownFlag else .missing expected
  | .escape _ => .missing expected

/-- Letters that turn modes on, and the character that ends them. -/
def flagsOn (c : Char) (sofar : List Char) : Nat → Reader (List Char × Char)
  | 0 => refuse .unexpectedEnd 0
  | bound + 1 => do
    if c == 'L' then refuse .localeFlag 0
    let on := c :: sofar
    if on.contains 'a' && on.contains 'u' then refuse .incompatibleFlags 0
    match ← take with
    | none => refuse (.missing "-, : or )") 0
    | some (.char d) =>
      if d == ')' || d == '-' || d == ':' then pure (on, d)
      else if isFlag d then flagsOn d on bound
      else refuse (flagComplaint (.char d) "-, : or )") 1
    | some t => refuse (flagComplaint t "-, : or )") t.characters.length

/-- Letters that turn modes off, up to a colon. -/
def flagsOff (c : Char) (sofar : List Char) : Nat → Reader (List Char)
  | 0 => refuse .unexpectedEnd 0
  | bound + 1 => do
    if c == 'a' || c == 'u' || c == 'L' then refuse .scriptFlagOff 0
    let off := c :: sofar
    match ← take with
    | none => refuse (.missing ":") 0
    | some (.char d) =>
      if d == ':' then pure off
      else if isFlag d then flagsOff d off bound
      else refuse (flagComplaint (.char d) ":") 1
    | some t => refuse (flagComplaint t ":") t.characters.length

/-- The letters after the first one of a group that changes modes: those turned on and off, or
    nothing when they hold for the whole expression. -/
def flags (c : Char) : Reader (List Char × Option (List Char)) := do
  let bound := (← get).rest.length + 1
  let (on, stop) ← if c == '-' then pure ([], '-') else flagsOn c [] bound
  if stop == ')' then return (on, none)
  if on.contains 't' then refuse (.globalFlag true) 1
  if stop == ':' then return (on, some [])
  match ← take with
  | none => refuse (.missing "flag") 0
  | some (.char d) =>
    if isFlag d then
      let off ← flagsOff d [] bound
      if off.contains 't' then refuse (.globalFlag false) 1
      if on.any off.contains then refuse .contradictoryFlag 1
      return (on, some off)
    else refuse (flagComplaint (.char d) "flag") 1
  | some t => refuse (flagComplaint t "flag") t.characters.length

/-- A name of a group, up to a terminator. -/
def groupName (terminator : Char) : Reader String := do
  let group ← name terminator "group name"
  if !Text.isIdentifier group then refuse (.badGroupName group) (group.length + 1)
  pure group

/-- What an opening parenthesis opens. -/
inductive Opening where
  | capture (group : Option String)
  | plain
  | scoped (mode : Mode)
  | atomic
  | look (behind negated : Bool)
  | conditional (index : Nat)
  | complete (node : Node)
  | nothing
  | modes (letters : List Char)

/-- Skips a comment; `start` is where it began. -/
def comment (start : Nat) : Nat → Reader Unit
  | 0 => pure ()
  | bound + 1 => do
    match ← peek with
    | none => refuse (.missing "), unterminated comment") ((← get).position - start)
    | some _ =>
      if (← take) = some (.char ')') then pure () else comment start bound

/-- A reference to a group by name. -/
def namedReference (mode : Mode) : Reader Node := do
  let group ← groupName ')'
  match (← get).names.lookup group with
  | none => refuse (.unknownGroup group) (group.length + 1)
  | some index =>
    checkReference index (group.length + 1)
    checkLookBehind index
    pure (.reference index mode)

/-- The greatest number of groups. -/
def groupLimit : Nat := 2147483647

/-- The group that a condition asks for, by name or number. -/
def condition : Reader Nat := do
  let group ← name ')' "group name"
  let index ←
    if Text.isIdentifier group then
      match (← get).names.lookup group with
      | none => refuse (.unknownGroup group) (group.length + 1)
      | some index => pure index
    else
      match Text.wholeNumber? group with
      | none | some (.negSucc _) => refuse (.badGroupName group) (group.length + 1)
      | some (.ofNat 0) => refuse .badGroupNumber (group.length + 1)
      | some (.ofNat index) =>
        if index ≥ groupLimit then refuse (.invalidReference index) (group.length + 1)
        let p ← get
        if (p.awaited.lookup index).isNone then
          set { p with awaited := p.awaited ++ [(index, p.position - group.length - 1)] }
        pure index
  checkLookBehind index
  pure index

/-- What an opening parenthesis opens, read up to its contents; `start` is where it stands. -/
def opening (mode : Mode) (start : Nat) : Reader Opening := do
  if !(← accept '?') then return .capture none
  match ← take with
  | none => refuse .unexpectedEnd 0
  | some (.escape c) => refuse (.unknownExtension (Token.escape c).text) 3
  | some (.char c) =>
    if c == 'P' then
      if ← accept '<' then return .capture (some (← groupName '>'))
      if ← accept '=' then return .complete (← namedReference mode)
      match ← take with
      | none => refuse .unexpectedEnd 0
      | some t => refuse (.unknownExtension ("P" ++ t.text)) (t.characters.length + 2)
    else if c == ':' then return .plain
    else if c == '#' then
      comment start ((← get).rest.length + 1)
      return .nothing
    else if c == '=' || c == '!' then return .look false (c == '!')
    else if c == '<' then
      match ← take with
      | none => refuse .unexpectedEnd 0
      | some t =>
        if t = .char '=' then return .look true false
        else if t = .char '!' then return .look true true
        else refuse (.unknownExtension ("<" ++ t.text)) (t.characters.length + 2)
    else if c == '(' then return .conditional (← condition)
    else if c == '>' then return .atomic
    else if isFlag c || c == '-' then
      match ← flags c with
      | (on, none) => return .modes on
      | (on, some off) => return .scoped (mode.with on off)
    else refuse (.unknownExtension c.toString) 2

/-! ## Sequences and choices -/

/-- What a repetition mark may follow. -/
inductive ItemKind where
  | repeatable
  | repeated
  | position
  deriving DecidableEq

/-- One part of a sequence. -/
structure Item where
  node : Node
  kind : ItemKind
  /-- Where it begins. -/
  start : Nat

/-- The parts of a sequence, the last one first, as one expression. -/
def joined (items : List Item) : Node :=
  items.foldl (fun rest item => item.node.append rest) .empty

/-- Notes that a part that begins at `start` cannot be searched for. Of two parts, one of which
    may hold the other, the one that begins first counts. -/
def noteUnsearchable (start : Nat) (why : Complaint) : Reader Unit :=
  modify fun p =>
    if p.unsearchable.any (·.1 < start) then p else { p with unsearchable := some (start, why) }

/-- The widths of the closed groups. -/
def groupWidths (p : Progress) (index : Nat) : Width := (p.closed.lookup index).getD ⟨0, some 0⟩

/-- Takes the parenthesis that closes a group opened at `start`. -/
def close (start : Nat) : Reader Unit := do
  if !(← accept ')') then
    refuse (.missing "), unterminated subpattern") ((← get).position - start)

/-- Opens a group, which may have a name, and gives its number. -/
def openGroup (group : Option String) : Reader Nat := do
  let p ← get
  let index := p.opened + 1
  match group with
  | none =>
    set { p with opened := index }
    pure index
  | some group =>
    match p.names.lookup group with
    | some old => refuse (.redefinedGroup group index old) (group.length + 1)
    | none =>
      set { p with opened := index, names := p.names ++ [(group, index)] }
      pure index

/-- The greatest number of characters to look behind. -/
def lookBehindLimit : Nat := 4294967295

/-- The look at a contents from `start`, whose width is fixed where it looks behind. -/
def lookNode (start : Nat) (behind negated : Bool) (body : Node) : Reader Node := do
  if !behind then return .look none negated body
  let width := body.width (groupWidths (← get))
  if width.least > lookBehindLimit then noteUnsearchable start .farLookBehind
  else if width.most ≠ some width.least then noteUnsearchable start .variableLookBehind
  pure (.look (some width.least) negated body)

/-- White space that verbose expressions may hold. -/
def isFiller (c : Char) : Bool :=
  c == ' ' || (9 ≤ c.toNat && c.toNat ≤ 13)

/-- Skips the rest of a line; the argument bounds its length. -/
def skipLine : Nat → Reader Unit
  | 0 => pure ()
  | bound + 1 => do
    match ← take with
    | none => pure ()
    | some t => if t = .char '\n' then pure () else skipLine bound

/-- A mark for a repetition with the bounds it sets; nothing for other characters. -/
def mark (c : Char) : Reader (Option (Nat × Option Nat)) := do
  if c == '*' then pure (some (0, none))
  else if c == '+' then pure (some (1, none))
  else if c == '?' then pure (some (0, some 1))
  else if c == '\x7b' then bounds
  else pure none

/-- The last part of a sequence repeated; `start` is where the mark stands. -/
def repeatLast (start least : Nat) (most : Option Nat) (items : List Item) :
    Reader (List Item) := do
  let back := (← get).position - start
  match items with
  | [] => refuse .nothingToRepeat back
  | last :: before =>
    match last.kind with
    | .position => refuse .nothingToRepeat back
    | .repeated => refuse .multipleRepeat back
    | .repeatable =>
      let how ← greed
      if (← get).mode.template then
        noteUnsearchable last.start (.repetitionInTemplate how.operator)
      pure (⟨.repetition least most how last.node, .repeated, last.start⟩ :: before)

mutual

/-- Alternatives separated by bars, up to a closing parenthesis or the end. The first argument
    bounds the depth; `top` says that no group encloses them. -/
def choice (mode : Mode) (top : Bool) : Nat → Reader Node
  | 0 => pure .empty
  | depth + 1 => do
    let first ← sequence mode top top [] depth
    if ← accept '|' then
      let p ← get
      return first.ofAlternatives (← alternatives (if top then p.mode else mode) depth)
    else pure first

/-- The alternatives after the first one. -/
def alternatives (mode : Mode) : Nat → Reader (List Node)
  | 0 => pure []
  | depth + 1 => do
    let first ← sequence mode false false [] depth
    if ← accept '|' then return first :: (← alternatives mode depth) else pure [first]

/-- One part after another, up to a bar, a closing parenthesis or the end. Modes for the whole
    expression may be set while `first` holds and nothing has been read. -/
def sequence (mode : Mode) (top first : Bool) (items : List Item) : Nat → Reader Node
  | 0 => pure (joined items)
  | depth + 1 => do
    let start := (← get).position
    let add (node : Node) (kind : ItemKind) : Reader Node :=
      sequence mode top first (⟨node, kind, start⟩ :: items) depth
    match ← peek with
    | none => pure (joined items)
    | some (.escape c) =>
      let _ ← take
      let (node, isPosition) ← escape mode c
      add node (if isPosition then .position else .repeatable)
    | some (.char c) =>
      if c == '|' || c == ')' then return joined items
      let _ ← take
      if mode.verbose && isFiller c then sequence mode top first items depth
      else if mode.verbose && c == '#' then
        skipLine depth
        sequence mode top first items depth
      else if c == '[' then add (← charClass mode) .repeatable
      else if c == '.' then add (.any mode.dotAll) .repeatable
      else if c == '^' then
        add (.anchor (if mode.multiLine then .lineStart else .textStart)) .position
      else if c == '$' then
        add (.anchor (if mode.multiLine then .lineEnd else .lastLineEnd)) .position
      else if c == '(' then
        match ← opening mode start with
        | .nothing => sequence mode top first items depth
        | .complete node => add node .repeatable
        | .modes on =>
          let here ← get
          if !first || !items.isEmpty then refuse .lateFlags (here.position - start)
          modify fun p => { p with mode := p.mode.with on [], letters := p.letters ++ on }
          let changed ← get
          sequence changed.mode top first items depth
        | .look behind negated =>
          let outer := (← get).behindFrom
          if behind && outer.isNone then
            modify fun p => { p with behindFrom := some p.opened }
          let body ← choice mode false depth
          if behind then modify fun p => { p with behindFrom := outer }
          close start
          add (← lookNode start behind negated body) .repeatable
        | .conditional index =>
          let yes ← sequence mode false false [] depth
          let no ← if ← accept '|' then sequence mode false false [] depth else pure .empty
          if (← peek) = some (.char '|') then refuse .tooManyBranches 0
          close start
          add (.conditional index yes no) .repeatable
        | .atomic =>
          let body ← choice mode false depth
          close start
          add (.atomic body) .repeatable
        | .plain =>
          let body ← choice mode false depth
          close start
          add body .repeatable
        | .scoped inner =>
          let body ← choice inner false depth
          close start
          add (.scoped body) .repeatable
        | .capture group =>
          let index ← openGroup group
          let body ← choice mode false depth
          close start
          modify fun p => { p with closed := (index, body.width (groupWidths p)) :: p.closed }
          add (.group index body) .repeatable
      else
        match ← mark c with
        | some (least, most) =>
          let items ← repeatLast start least most items
          sequence mode top first items depth
        | none => add (codePoint mode c.toNat) .repeatable

end

/-- A whole expression. -/
def whole (depth : Nat) : Reader Node := do
  let p ← get
  if p.rest.isEmpty && p.loneBackslash then
    throw (.malformed .danglingEscape (some p.position))
  let node ← choice {} true depth
  let p ← get
  if p.letters.contains 'a' && p.letters.contains 'u' then throw .contradictoryScripts
  if p.rest.head?.isSome then refuse .unbalanced 0
  match p.awaited.find? fun (index, _) => p.opened < index with
  | some (index, position) => throw (.malformed (.invalidReference index) (some position))
  | none =>
    match p.unsearchable with
    | some (_, why) => throw (.malformed why none)
    | none => pure node

/-- The expression that a text denotes, and the modes set for the whole of it. -/
def read (s : String) : Except Flaw (Node × Mode) := do
  let (rest, loneBackslash) := tokens s.toList
  let start : Progress :=
    { rest, position := 0, loneBackslash, mode := {}, letters := [], opened := 0, closed := []
      names := [], awaited := [], behindFrom := none, unsearchable := none }
  let (node, p) ← (whole (3 * rest.length + 3)).run start
  pure (node, p.mode)

end RecordRules.Pattern

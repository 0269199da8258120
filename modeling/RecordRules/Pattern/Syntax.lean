import RecordRules.Text.Category
import RecordRules.Text.Lower
import RecordRules.Text.Upper

/-!
# Regular expressions: their parts

What a regular expression consists of once it has been read: classes of characters, positions,
and their combinations. Each class carries the way of comparing that was in force where it stands.
-/

namespace RecordRules.Pattern

/-- A kind of characters that an escape names. -/
inductive Category where
  | digit
  | space
  | word
  deriving DecidableEq

/-- Whether a character is of a kind, of all scripts or of ASCII alone. -/
def Category.holds (ascii : Bool) (c : Char) : Category → Bool
  | .digit => Text.isDecimal c && !(ascii && 128 ≤ c.toNat)
  | .space => Text.isSpace c && !(ascii && (128 ≤ c.toNat || (28 ≤ c.toNat && c.toNat < 32)))
  | .word => Text.isWordChar c && !(ascii && 128 ≤ c.toNat)

/-- One entry of a class: a code point, code points from a first to a last, or a kind or its
    complement. -/
inductive ClassItem where
  | single (point : Nat)
  | range (first last : Nat)
  | category (kind : Category) (negated : Bool)
  deriving DecidableEq

/-- The way of comparing and reading in force at a place of an expression. -/
structure Mode where
  ignoreCase : Bool := false
  multiLine : Bool := false
  dotAll : Bool := false
  verbose : Bool := false
  ascii : Bool := false
  /-- Nothing may be repeated. -/
  template : Bool := false
  deriving DecidableEq

/-- A class of characters. -/
structure CharClass where
  negated : Bool
  items : List ClassItem
  mode : Mode
  deriving DecidableEq

/-- The characters that count as one character. -/
def Mode.alternatives (mode : Mode) (c : Char) : List Char :=
  if !mode.ignoreCase then [c]
  else if mode.ascii then [c.toLower, c.toUpper, c]
  else c :: Text.caseAlternatives c

/-- The character that kinds are asked of. -/
def Mode.representative (mode : Mode) (c : Char) : Char :=
  if !mode.ignoreCase then c
  else if mode.ascii then c.toLower
  else Text.lowerChar c

/-- Whether a class that consists of one code point holds a character. -/
def Mode.matchesPoint (mode : Mode) (c : Char) (point : Nat) : Bool :=
  (mode.alternatives c).any (·.toNat == point)

/-- The last code point of the basic plane. -/
def lastBasicPoint : Nat := 0xffff

/-- Whether an entry that stands beside others holds a character. When case is ignored, a code point
    beyond the basic plane is what the lower case of a character is compared with, so that it is
    never found as a capital; a range that ends there also holds what has its upper case in it. -/
def ClassItem.holds (mode : Mode) (c : Char) : ClassItem → Bool
  | .single point =>
    if mode.ignoreCase && lastBasicPoint < point then (mode.representative c).toNat == point
    else mode.matchesPoint c point
  | .range first last =>
    let within (x : Char) : Bool := first ≤ x.toNat && x.toNat ≤ last
    (mode.alternatives c).any within
      || mode.ignoreCase && lastBasicPoint < last
        && ((Text.upperChar (mode.representative c)).head?.any within)
  | .category kind negated => kind.holds mode.ascii (mode.representative c) != negated

/-- Whether a class holds a character. -/
def CharClass.holds (set : CharClass) (c : Char) : Bool :=
  let found :=
    match set.items with
    | [.single point] => set.mode.matchesPoint c point
    | items => items.any (·.holds set.mode c)
  found != set.negated

/-- A condition on a position in the text. -/
inductive Anchor where
  | textStart
  | lineStart
  | textEnd
  /-- The end of the text or the place before a line break that ends it. -/
  | lastLineEnd
  | lineEnd
  | wordBoundary (negated ascii : Bool)
  deriving DecidableEq

/-- How much a repetition takes first, and whether it gives back. -/
inductive Greed where
  | greedy
  | lazy
  | possessive
  deriving DecidableEq

/-- A regular expression. -/
inductive Node where
  | empty
  | one (set : CharClass)
  | any (lineBreaks : Bool)
  | anchor (condition : Anchor)
  | sequence (first second : Node)
  | choice (first second : Node)
  | group (index : Nat) (body : Node)
  | repetition (least : Nat) (most : Option Nat) (greed : Greed) (body : Node)
  | reference (index : Nat) (mode : Mode)
  /-- A look from a position, `behind` characters back if it looks behind. -/
  | look (behind : Option Nat) (negated : Bool) (body : Node)
  | atomic (body : Node)
  /-- A part with modes of its own. -/
  | scoped (body : Node)
  | conditional (index : Nat) (yes no : Node)

/-- The least and the greatest number of characters an expression takes; none for no limit. -/
structure Width where
  least : Nat
  most : Option Nat
  deriving DecidableEq

namespace Width

/-- Of one part after another. -/
def plus (a b : Width) : Width :=
  ⟨a.least + b.least, a.most.bind fun x => b.most.map fun y => x + y⟩

/-- Of one part or the other. -/
def union (a b : Width) : Width :=
  ⟨min a.least b.least, a.most.bind fun x => b.most.map fun y => max x y⟩

/-- Of a repeated part. -/
def times (a : Width) (least : Nat) (most : Option Nat) : Width :=
  ⟨a.least * least,
    match a.most, most with
    | some 0, _ => some 0
    | some x, some n => some (x * n)
    | _, _ => none⟩

end Width

namespace Node

/-- One expression after another; the parts of the first stay parts of the whole. -/
def append : Node → Node → Node
  | .empty, rest => rest
  | .sequence part more, rest => .sequence part (more.append rest)
  | part, rest => .sequence part rest

/-- Whether two parts are the same single character, class, position or reference. -/
def sameAs : Node → Node → Bool
  | .one a, .one b => a == b
  | .any a, .any b => a == b
  | .anchor a, .anchor b => a == b
  | .reference i a, .reference j b => i == j && a == b
  | _, _ => false

/-- What follows a part at the beginning of an expression. -/
def after? (part : Node) : Node → Option Node
  | .sequence first rest => if first.sameAs part then some rest else none
  | _ => none

/-- The entries of an expression that is one class and no more. -/
def classItems? : Node → Option (List ClassItem × Mode)
  | .sequence (.one ⟨false, items, mode⟩) .empty => some (items, mode)
  | _ => none

/-- A choice between alternatives, the first one preferred. -/
def choices (first : Node) : List Node → Node
  | [] => first
  | second :: others => .choice first (choices second others)

/-- Two or more alternatives as a choice, or as one class where each of them is a class. -/
def ofDistinct (first : Node) (others : List Node) : Node :=
  match first.classItems?, others.mapM classItems? with
  | some (items, mode), some more =>
    .sequence (.one ⟨false, (items ++ more.flatMap (·.1)).eraseDups, mode⟩) .empty
  | _, _ => .sequence (choices first others) .empty

/-- Two or more alternatives; what they all begin with is taken out in front of them. -/
def ofAlternatives : Node → List Node → Node
  | .sequence part rest, others =>
    match others.mapM (after? part) with
    | some others => .sequence part (rest.ofAlternatives others)
    | none => ofDistinct (.sequence part rest) others
  | first, others => ofDistinct first others

end Node

/-- The width of an expression, given the widths of the groups it refers to. -/
def Node.width (groups : Nat → Width) : Node → Width
  | .empty | .anchor _ | .look _ _ _ => ⟨0, some 0⟩
  | .one _ | .any _ => ⟨1, some 1⟩
  | .sequence a b => (a.width groups).plus (b.width groups)
  | .choice a b => (a.width groups).union (b.width groups)
  | .group _ body | .atomic body | .scoped body => body.width groups
  | .repetition least most _ body => (body.width groups).times least most
  | .reference index _ => groups index
  | .conditional _ yes no => (yes.width groups).union (no.width groups)

end RecordRules.Pattern

import RecordRules.Pattern.Syntax

/-!
# Regular expressions: searching

An expression is tried at a position with a continuation that says what is to follow; the first
way that lets the continuation succeed is taken. A search tries every position from the left.
-/

namespace RecordRules.Pattern

/-- A position in the text, and what the groups hold, the latest first. -/
structure Place where
  position : Nat
  held : List (Nat × Nat × Nat)

namespace Place

/-- The stretch that a group holds. -/
def span? (p : Place) (index : Nat) : Option (Nat × Nat) := p.held.lookup index

end Place

/-- Whether a character of a word stands at a position. -/
def wordAt (text : Array Char) (ascii : Bool) (position : Nat) : Bool :=
  text[position]?.any fun c => Category.word.holds ascii c

/-- Whether a condition on a position holds. An empty text has no place that is or is not the
    boundary of a word. -/
def Anchor.holds (text : Array Char) (position : Nat) : Anchor → Bool
  | .textStart => position == 0
  | .lineStart => position == 0 || text[position - 1]? == some '\n'
  | .textEnd => position == text.size
  | .lastLineEnd =>
    position == text.size || (position + 1 == text.size && text[position]? == some '\n')
  | .lineEnd => position == text.size || text[position]? == some '\n'
  | .wordBoundary negated ascii =>
    let before := 0 < position && wordAt text ascii (position - 1)
    text.size != 0 && (before != wordAt text ascii position) != negated

/-- Repeats a step from the given count on and goes on with `next`. Steps below the least count are
    taken whatever they take; beyond it, a step that begins where the step before it began is not
    taken, since that one took nothing and taking it again would change nothing. Hence `bound` steps
    are enough when it is the least count and two more than the characters that remain. -/
def repeated (step : Place → (Place → Option Place) → Option Place) (least : Nat)
    (most : Option Nat) (lazy : Bool) (next : Place → Option Place) :
    Nat → Nat → Option Nat → Place → Option Place
  | 0, _, _, p => next p
  | bound + 1, count, begun, p =>
    if count < least then
      step p fun q => repeated step least most lazy next bound (count + 1) begun q
    else
      let more (_ : Unit) : Option Place :=
        if most.any (· ≤ count) || begun == some p.position then none
        else step p fun q =>
          repeated step least most lazy next bound (count + 1) (some p.position) q
      if lazy then (next p).orElse more else (more ()).orElse fun _ => next p

/-- Whether two stretches of the text agree. -/
def agree (text : Array Char) (mode : Mode) (first second length : Nat) : Bool :=
  (List.range length).all fun i =>
    (text[first + i]?).map mode.representative == (text[second + i]?).map mode.representative

/-- The first place after an expression that lets what follows succeed. A possessive repetition
    takes each step in the first way that there is and gives nothing back. -/
def Node.attempt (text : Array Char) : Node → Place → (Place → Option Place) → Option Place
  | .empty, p, next => next p
  | .one set, p, next =>
    if text[p.position]?.any set.holds then next { p with position := p.position + 1 } else none
  | .any lineBreaks, p, next =>
    if text[p.position]?.any fun c => lineBreaks || c != '\n' then
      next { p with position := p.position + 1 }
    else none
  | .anchor condition, p, next => if condition.holds text p.position then next p else none
  | .sequence a b, p, next => a.attempt text p fun q => b.attempt text q next
  | .choice a b, p, next => (a.attempt text p next).orElse fun _ => b.attempt text p next
  | .group index body, p, next =>
    body.attempt text p fun q =>
      next { q with held := (index, p.position, q.position) :: q.held }
  | .repetition least most greed body, p, next =>
    let bound := least + (text.size + 2 - p.position)
    match greed with
    | .possessive =>
      let step (p : Place) (next : Place → Option Place) : Option Place :=
        (body.attempt text p some).bind next
      (repeated step least most false some bound 0 none p).bind next
    | greed =>
      repeated (body.attempt text) least most (greed == .lazy) next bound 0 none p
  | .reference index mode, p, next =>
    match p.span? index with
    | none => none
    | some (start, stop) =>
      let length := stop - start
      if p.position + length ≤ text.size && agree text mode start p.position length then
        next { p with position := p.position + length }
      else none
  | .look behind negated body, p, next =>
    let start := behind.getD 0
    let found :=
      if start ≤ p.position then body.attempt text { p with position := p.position - start } some
      else none
    match found with
    | some q => if negated then none else next { q with position := p.position }
    | none => if negated then next p else none
  | .atomic body, p, next => (body.attempt text p some).bind next
  | .scoped body, p, next => body.attempt text p next
  | .conditional index yes no, p, next =>
    if (p.span? index).isSome then yes.attempt text p next else no.attempt text p next

/-- Whether an expression matches somewhere in a text. -/
def Node.occursIn (node : Node) (s : String) : Bool :=
  let text := s.toList.toArray
  (List.range (text.size + 1)).any fun start =>
    (node.attempt text ⟨start, []⟩ some).isSome

end RecordRules.Pattern

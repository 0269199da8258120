import RecordRules.Text.Category
import RecordRules.Text.Identifier
import RecordRules.Text.Printable
import RecordRules.Value.Sorting

/-!
# Questions

A method is a question to ask of a value. Every kind of value has its own questions, and the answer
to each counts as yes or no. A question can be one that wants an argument, or an attribute that is no
question at all; asking it is a fault. Some questions change the value that they are asked of: the
members of lists, sets and mappings can be taken out, turned round or sorted.

Names that begin with an underscore belong to the language and are no questions here. A set gives up
the first of its members. Where a question needs a timezone that a moment has not, it is universal
time.
-/

namespace RecordRules

/-- What a question comes to: its answer, and the value that it leaves. -/
structure Reply where
  answer : Except Fault Bool
  left : Value

/-! ## Questions without an answer -/

/-- Procedures that want arguments, by what they say they lack. -/
abbrev Lacks := List (Lack × List String)

/-- The answer of a procedure that wants arguments. One that wants a single argument is named with
    the kind that it belongs to. -/
def Lacks.answer? (lacks : Lacks) (kind name : String) : Option (Except Fault Bool) :=
  (lacks.find? fun (_, names) => names.contains name).map fun (lack, _) =>
    .error (.withoutArguments (if lack = .one then kind ++ "." ++ name else name) lack)

/-- The answer of an attribute that is no procedure, among attributes by their kinds. -/
def uncallable? (attributes : List (String × List String)) (name : String) :
    Option (Except Fault Bool) :=
  (attributes.find? fun (_, names) => names.contains name).map fun (kind, _) =>
    .error (.notCallable kind)

/-- The procedures of texts and bytes that want arguments. -/
def wordLacks : Lacks :=
  [(.one, ["join", "partition", "removeprefix", "removesuffix", "rpartition", "zfill"]),
    (.first, ["count", "endswith", "find", "index", "rfind", "rindex", "startswith"]),
    (.expected true 1, ["center", "ljust", "rjust"]),
    (.expected true 2, ["replace"])]

/-! ## Texts and bytes -/

/-- The questions of texts and bytes whose answer is empty just where they are. -/
def wordForms : List String :=
  ["capitalize", "expandtabs", "lower", "splitlines", "swapcase", "title", "upper"]

/-- The questions of texts and bytes whose answer is empty just where they are blank. -/
def wordParts : List String := ["lstrip", "rsplit", "rstrip", "split", "strip"]

/-- The questions about the characters of a text. -/
def characterAnswer? (s : String) (name : String) : Option Bool :=
  match name with
  | "isalnum" => some (Text.consistsOf Text.isLetterOrNumeral s)
  | "isalpha" => some (Text.consistsOf Text.isLetter s)
  | "isascii" => some (s.toList.all fun c => c.toNat < 128)
  | "isdecimal" => some (Text.consistsOf Text.isDecimal s)
  | "isdigit" => some (Text.consistsOf Text.digits.contains s)
  | "isidentifier" => some (Text.isIdentifier s)
  | "islower" => some (Text.isLower s)
  | "isnumeric" => some (Text.consistsOf Text.numerals.contains s)
  | "isprintable" => some (s.toList.all Text.printable.contains)
  | "isspace" => some (Text.consistsOf Text.isSpace s)
  | "istitle" => some (Text.isTitle s)
  | "isupper" => some (Text.isUpper s)
  | _ => none

/-- The questions that texts answer. -/
def textAnswer? (s : String) (name : String) : Option (Except Fault Bool) :=
  if (wordForms ++ ["casefold", "encode"]).contains name then some (.ok (s != ""))
  else if wordParts.contains name then some (.ok (!Text.isBlank s))
  else if name = "format" then
    match Text.Template.flaw? s.toList with
    | some flaw => some (.error (.template flaw))
    | none => some (.ok (s != ""))
  else
    let lacks := wordLacks ++
      [(.one, ["format_map", "translate"]), (.expected true 1, ["maketrans"])]
    ((characterAnswer? s name).map .ok).orElse fun _ => lacks.answer? "str" name

/-- Bytes as the characters of ASCII, and those beyond as a character of no class. -/
def asciiText (bytes : List UInt8) : String :=
  String.ofList (bytes.map fun b => if b < 0x80 then Char.ofNat b.toNat else '\uffff')

/-- White space among bytes. -/
def isAsciiSpace (b : UInt8) : Bool := b == 0x20 || (0x09 ≤ b && b ≤ 0x0D)

/-- The questions that bytes answer. -/
def bytesAnswer? (bytes : List UInt8) (name : String) : Option (Except Fault Bool) :=
  if (wordForms ++ ["hex"]).contains name then some (.ok !bytes.isEmpty)
  else if wordParts.contains name then some (.ok !bytes.all isAsciiSpace)
  else if name = "decode" then
    match Text.Encoding.flaw? 0 none bytes with
    | some flaw => some (.error (.encoding flaw))
    | none => some (.ok !bytes.isEmpty)
  else if name = "isspace" then some (.ok (!bytes.isEmpty && bytes.all isAsciiSpace))
  else if ["isalnum", "isalpha", "isascii", "isdigit", "islower", "istitle", "isupper"].contains name
  then (characterAnswer? (asciiText bytes) name).map .ok
  else
    let lacks := wordLacks ++
      [(.one, ["fromhex"]), (.firstPlace, ["translate"]), (.expected false 2, ["maketrans"])]
    lacks.answer? "bytes" name

/-! ## Numbers -/

/-- The questions that whole numbers answer. -/
def intAnswer? (n : Int) (name : String) : Option (Except Fault Bool) :=
  match name with
  | "as_integer_ratio" => some (.ok true)
  | "bit_count" | "bit_length" | "conjugate" => some (.ok (n != 0))
  | "to_bytes" =>
    some (if n < 0 then .error .intNegative else if 255 < n then .error .intTooBig else .ok true)
  | "from_bytes" => some (.error (.withoutArguments name (.named "bytes")))
  | name => uncallable? [("int", ["denominator", "imag", "numerator", "real"])] name

/-- The questions that floating-point numbers answer. -/
def doubleAnswer? (x : Double) (name : String) : Option (Except Fault Bool) :=
  match name with
  | "as_integer_ratio" =>
    match x with
    | .nan _ => some (.error .ratioOfNaN)
    | .infinite _ => some (.error .ratioOfInfinity)
    | .finite _ _ => some (.ok true)
  | "conjugate" => some (.ok (Value.float x).truthy)
  | "hex" => some (.ok true)
  | "is_integer" => some (.ok x.isWhole)
  | name =>
    (uncallable? [("float", ["imag", "real"])] name).orElse fun _ =>
      Lacks.answer? [(.one, ["fromhex"])] "float" name

/-! ## Dates and moments -/

/-- The number of the day with which universal time begins. -/
def epochDay : Nat := 719163

/-- The questions that dates answer, and moments in the same way. -/
def dayAnswer? (d : Date) (name : String) : Option (Except Fault Bool) :=
  if ["ctime", "isocalendar", "isoformat", "isoweekday", "replace", "timetuple", "today",
    "toordinal"].contains name then some (.ok true)
  else if name = "weekday" then some (.ok ((d.ordinal + 6) % 7 != 0))
  else
    (uncallable? [("int", ["day", "month", "year"]), ("datetime.timedelta", ["resolution"])]
      name).orElse fun _ =>
        Lacks.answer? [(.count 1, ["fromordinal"]), (.named "format", ["strftime"]),
          (.named "year", ["fromisocalendar"])] "" name

/-- The questions that dates answer. -/
def dateAnswer? (d : Date) (name : String) : Option (Except Fault Bool) :=
  ((dayAnswer? d name).orElse fun _ => uncallable? [("datetime.date", ["max", "min"])] name).orElse
    fun _ => Lacks.answer? [(.one, ["fromisoformat", "fromtimestamp"])] "date" name

/-- Microseconds since the beginning of universal time. -/
def Moment.sinceEpoch (m : Moment) : Int :=
  m.wall - m.offset.getD 0 - epochDay * (Calendar.dayLength : Int)

/-- A moment in universal time, which can lie before or after all dates. -/
def Moment.inUniversalTime (m : Moment) : Except Fault Bool :=
  if (Moment.ofWall? (m.wall - m.offset.getD 0) (some 0)).isSome then .ok true
  else .error .dateOverflow

/-- A moment without a timezone, as one of universal time. That looks at the day before it. -/
def Moment.inSurroundings (m : Moment) (answer : Except Fault Bool) : Except Fault Bool :=
  if m.offset.isNone && m.date.ordinal = 1 then .error (.yearRange 0) else answer

/-- The questions that moments answer. -/
def momentAnswer? (m : Moment) (name : String) : Option (Except Fault Bool) :=
  if ["date", "now", "time", "timetz", "utcnow"].contains name then some (.ok true)
  else
    match name with
    | "astimezone" => some (m.inSurroundings m.inUniversalTime)
    | "timestamp" => some (m.inSurroundings (.ok (m.sinceEpoch != 0)))
    | "utctimetuple" => some m.inUniversalTime
    | "dst" => some (.ok false)
    | "tzname" => some (.ok m.offset.isSome)
    | "utcoffset" => some (.ok (m.offset.getD 0 != 0))
    | name =>
      let attributes :=
        [("int", ["fold", "hour", "microsecond", "minute", "second"]),
          ("datetime.datetime", ["max", "min"]),
          (if m.offset.isSome then "datetime.timezone" else "NoneType", ["tzinfo"])]
      let lacks : Lacks :=
        [(.one, ["fromisoformat"]), (.count 1, ["utcfromtimestamp"]), (.count 2, ["strptime"]),
          (.named "date", ["combine"]), (.named "timestamp", ["fromtimestamp"])]
      ((uncallable? attributes name).orElse fun _ => lacks.answer? "datetime" name).orElse
        fun _ => dayAnswer? m.date name

namespace Value

/-! ## Collections -/

/-- The questions about the members of a collection or a mapping that leave it as it is. -/
def memberAnswer? (v : Value) (name : String) : Option (Except Fault Bool) :=
  let filled : Option (Except Fault Bool) := some (.ok v.truthy)
  match v with
  | list _ =>
    if name = "copy" then filled
    else
      Lacks.answer? [(.one, ["append", "count", "extend", "remove"]), (.expected true 1, ["index"]),
        (.expected false 2, ["insert"])] "list" name
  | tuple _ => Lacks.answer? [(.one, ["count"]), (.expected true 1, ["index"])] "tuple" name
  | set _ =>
    if ["copy", "difference", "intersection", "union"].contains name then filled
    else if ["difference_update", "intersection_update", "update"].contains name then
      some (.ok false)
    else
      Lacks.answer? [(.one, ["add", "discard", "isdisjoint", "issubset", "issuperset", "remove",
        "symmetric_difference", "symmetric_difference_update"])] "set" name
  | keys _ =>
    (uncallable? [("mappingproxy", ["mapping"])] name).orElse fun _ =>
      Lacks.answer? [(.one, ["isdisjoint"])] "dict_keys" name
  | range _ =>
    (uncallable? [("int", ["start", "step", "stop"])] name).orElse fun _ =>
      Lacks.answer? [(.one, ["count", "index"])] "range" name
  | dict _ =>
    if ["copy", "items", "keys", "values"].contains name then filled
    else if name = "update" then some (.ok false)
    else Lacks.answer? [(.expected true 1, ["fromkeys", "get", "pop", "setdefault"])] "dict" name
  | _ => none

/-- The questions that change the value they are asked of. -/
def change? (v : Value) (name : String) : Option Reply :=
  match v, name with
  | list _, "clear" => some ⟨.ok false, list []⟩
  | list items, "pop" =>
    match items.getLast? with
    | none => some ⟨.error .emptyList, v⟩
    | some last => some ⟨.ok last.truthy, list items.dropLast⟩
  | list items, "reverse" => some ⟨.ok false, list items.reverse⟩
  | list items, "sort" => some ⟨(sort items).2.map fun _ => false, list (sort items).1⟩
  | set _, "clear" => some ⟨.ok false, set []⟩
  | set [], "pop" => some ⟨.error (.missingKey "pop from an empty set"), v⟩
  | set (first :: rest), "pop" => some ⟨.ok first.truthy, set rest⟩
  | dict _, "clear" => some ⟨.ok false, dict []⟩
  | dict entries, "popitem" =>
    if entries.isEmpty then some ⟨.error (.missingKey "popitem(): dictionary is empty"), v⟩
    else some ⟨.ok true, dict entries.dropLast⟩
  | _, _ => none

/-! ## All values -/

/-- The questions that operands answer. -/
def operandAnswer? (v : Value) (name : String) : Option (Except Fault Bool) :=
  match v with
  | sentinel _ =>
    uncallable? [("str", ["name", "value"]), ("Sentinel", ["BLANK", "NOW", "PRESENT", "TODAY"])] name
  | field named =>
    match name with
    | "name" => some (.error (.notCallable named.kind))
    | "resolve" => some (.error (.withoutArguments "Field.resolve" (.withoutDefault "record")))
    | _ => none
  | method named =>
    match name with
    | "name" => some (.error (.notCallable named.kind))
    | "call" => some (.error (.withoutArguments "Method.call" (.withoutDefault "value")))
    | _ => none
  | pattern _ =>
    (uncallable? [("int", ["flags", "groups"]), ("dict", ["groupindex"]),
      ("str", ["pattern"])] name).orElse fun _ =>
        Lacks.answer? [(.named "string", ["findall", "finditer", "fullmatch", "match", "scanner",
          "search", "split"]), (.named "repl", ["sub", "subn"])] "" name
  | _ => none

/-- The questions that a value answers and that leave it as it is. -/
def answer? (v : Value) (name : String) : Option (Except Fault Bool) :=
  match v with
  | text s => textAnswer? s name
  | bytes bs => bytesAnswer? bs name
  | int n => intAnswer? n name
  | bool b => intAnswer? (if b then 1 else 0) name
  | float x => doubleAnswer? x name
  | date d => dateAnswer? d name
  | moment m => momentAnswer? m name
  | object _ _ answers => (answers.lookup name).map fun a => .ok a.truthy
  | v => (v.memberAnswer? name).orElse fun _ => v.operandAnswer? name

/-- Asks a question of a value. -/
def ask (v name : Value) : Reply :=
  match name with
  | text s =>
    ((v.change? s).orElse fun _ => (v.answer? s).map (⟨·, v⟩)).getD
      ⟨.error (.noAttribute v.kind s), v⟩
  | name => ⟨.error (.attributeName name.kind), v⟩

end Value

end RecordRules

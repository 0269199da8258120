import RecordRules.Rule.Message

/-!
# What messages come to

Each step of a composition keeps the form of a message: a sentence that has replaced what was there
before, or the first words if none has, and after it the clauses that were appended since
(`Composed.edit`). So the form is all that the steps together come to (`composed_iff`). To ask for
the text is no step, so it may be asked for anywhere, and is answered by what the steps up to there
have come to (`requests_answered`).
-/

namespace RecordRules

namespace Message

variable {text : String} {steps : List Edit} {m : Message}

/-! ## Steps -/

theorem edits_of_appends (clauses : List String) (m : Message) :
    (clauses.map Edit.append).foldl edit m = ⟨m.text ++ String.join clauses, m.state⟩ := by
  induction clauses generalizing m with
  | nil => simp
  | cons clause rest ih =>
    rw [List.map_cons, List.foldl_cons, ih, String.join_cons, ← String.append_assoc]
    rfl

theorem text_of_appends (clauses : List String) (m : Message) :
    ((clauses.map Edit.append).foldl edit m).text = m.text ++ String.join clauses := by
  rw [edits_of_appends]

theorem text_of_replacements (sentences : List String) (m : Message) :
    ((sentences.map Edit.replace).foldl edit m).text = sentences.getLast?.getD m.text := by
  induction sentences generalizing m with
  | nil => rfl
  | cons sentence rest ih =>
    rw [List.map_cons, List.foldl_cons, ih, List.getLast?_cons]
    rfl

/-- What a message that began with a text comes to in some steps: its first words with all clauses
    if each step appends one, or else the last sentence with the clauses that come after it. -/
inductive Composed (text : String) : List Edit → Message → Prop where
  | extended (clauses : List String) :
    Composed text (clauses.map .append) ⟨text ++ String.join clauses, .prefixed⟩
  | replaced (earlier : List Edit) (sentence : String) (clauses : List String) :
    Composed text (earlier ++ .replace sentence :: clauses.map .append)
      ⟨sentence ++ String.join clauses, .replaced⟩

namespace Composed

theorem nil (text : String) : Composed text [] (begun text) := by
  have none : Composed text _ _ := extended []
  simpa [begun] using none

/-- One more step keeps the form. -/
theorem edit (composed : Composed text steps m) (step : Edit) :
    Composed text (steps ++ [step]) (m.edit step) := by
  cases step with
  | append clause =>
    have joined (clauses : List String) (first : String) :
        first ++ String.join clauses ++ clause = first ++ String.join (clauses ++ [clause]) := by
      simp [String.append_assoc]
    cases composed with
    | extended clauses =>
      have more : Composed text _ _ := extended (clauses ++ [clause])
      rw [← joined, List.map_append] at more
      exact more
    | replaced earlier sentence clauses =>
      have more : Composed text _ _ := replaced earlier sentence (clauses ++ [clause])
      rw [← joined, List.map_append, ← List.cons_append, ← List.append_assoc] at more
      exact more
  | replace sentence =>
    have alone : Composed text _ _ := replaced steps sentence []
    rw [String.join_nil, String.append_empty] at alone
    exact alone

theorem foldl (composed : Composed text steps m) (more : List Edit) :
    Composed text (steps ++ more) (more.foldl Message.edit m) := by
  induction more generalizing steps m with
  | nil => simpa using composed
  | cons step rest ih =>
    have next := ih (composed.edit step)
    rwa [List.append_assoc] at next

end Composed

/-- The form of a message is what the steps of its composition come to. -/
theorem composed_iff : Composed text steps m ↔ steps.foldl edit (begun text) = m := by
  constructor
  · intro composed
    cases composed with
    | extended clauses => exact edits_of_appends clauses (begun text)
    | replaced earlier sentence clauses =>
      rw [List.foldl_append, List.foldl_cons]
      exact edits_of_appends clauses _
  · rintro rfl
    exact (Composed.nil text).foldl steps

/-- A message is replaced just when one of the steps replaced it. -/
theorem Composed.replaced_iff (composed : Composed text steps m) :
    m.state = .replaced ↔ ∃ sentence, .replace sentence ∈ steps := by
  cases composed with
  | extended clauses => simp
  | replaced earlier sentence clauses => simp

/-! ## Requests -/

/-- The steps of the composition among requests. -/
def stepsOf (requests : List Request) : List Edit :=
  requests.filterMap fun
    | .edit step => some step
    | .text | .finish => none

theorem mem_stepsOf_iff {requests : List Request} {step : Edit} :
    step ∈ stepsOf requests ↔ .edit step ∈ requests := by
  unfold stepsOf
  rw [List.mem_filterMap]
  constructor
  · rintro ⟨request, member, isStep⟩
    cases request with
    | edit other =>
      obtain rfl := Option.some.inj isStep
      exact member
    | text | finish => cases isStep
  · intro member
    exact ⟨_, member, rfl⟩

/-- Only the steps among requests change a message. -/
theorem after_requests (m : Message) (requests : List Request) :
    (m.answerAll requests).2 = (stepsOf requests).foldl edit m := by
  induction requests generalizing m with
  | nil => rfl
  | cons request rest ih =>
    rw [answerAll]
    cases request with
    | edit step => exact ih (m.edit step)
    | text | finish => exact ih m

theorem length_answers (m : Message) (requests : List Request) :
    (m.answerAll requests).1.length = requests.length := by
  induction requests generalizing m with
  | nil => rfl
  | cons request rest ih => rw [answerAll, List.length_cons, ih, List.length_cons]

/-- A request is answered by what the requests before it have left. -/
theorem answer_at (m : Message) (earlier later : List Request) (request : Request) :
    (m.answerAll (earlier ++ request :: later)).1[earlier.length]?
      = some ((m.answerAll earlier).2.answer request).1 := by
  induction earlier generalizing m with
  | nil => rfl
  | cons first rest ih =>
    rw [List.cons_append, answerAll, List.length_cons, List.getElem?_cons_succ, ih]
    rfl

/-- How a message that began with a text answers requests, and what it then is. -/
structure Answers (text : String) (requests : List Request) (answers : List (Option String))
    (m : Message) : Prop where
  /-- Steps alone count, and of these the last sentence and the clauses after it. -/
  composed : Composed text (stepsOf requests) m
  replaced : m.state = .replaced ↔ ∃ sentence, .edit (.replace sentence) ∈ requests
  /-- Where and how often the text is asked for makes no difference. -/
  unchanged : ∀ others, stepsOf others = stepsOf requests →
    ((begun text).answerAll others).2 = m
  /-- There is one answer to each request. -/
  each : answers.length = requests.length
  itself : ∀ earlier step later, requests = earlier ++ .edit step :: later →
    answers[earlier.length]? = some none
  asItIs : ∀ earlier later, requests = earlier ++ .text :: later →
    ∃ soFar, Composed text (stepsOf earlier) soFar ∧
      answers[earlier.length]? = some (some soFar.text)
  finished : ∀ earlier later, requests = earlier ++ .finish :: later →
    ∃ soFar, Composed text (stepsOf earlier) soFar ∧
      answers[earlier.length]? = some (some (soFar.text ++ "."))

/-- A message is what the steps among the requests to it have composed, wherever else its text was
    asked for, and this is also what it answers each time. -/
theorem requests_answered (text : String) (requests : List Request) :
    Answers text requests ((begun text).answerAll requests).1
      ((begun text).answerAll requests).2 := by
  have composed (requests : List Request) :
      Composed text (stepsOf requests) ((begun text).answerAll requests).2 :=
    composed_iff.mpr (after_requests (begun text) requests).symm
  constructor
  case composed => exact composed requests
  case replaced => simp only [(composed requests).replaced_iff, mem_stepsOf_iff]
  case unchanged =>
    intro others alike
    rw [after_requests, after_requests, alike]
  case each => exact length_answers (begun text) requests
  case itself =>
    rintro earlier step later rfl
    exact answer_at (begun text) earlier later (.edit step)
  case asItIs =>
    rintro earlier later rfl
    exact ⟨_, composed earlier, answer_at (begun text) earlier later .text⟩
  case finished =>
    rintro earlier later rfl
    exact ⟨_, composed earlier, answer_at (begun text) earlier later .finish⟩

example :
    (start.answerAll [.edit (.append " blank"), .finish, .edit (.replace ": 'x' is not valid"), .text,
      .edit (.append ". Valid values: a, b"), .finish]).1
    = [none, some "must be blank.", none, some ": 'x' is not valid", none,
      some ": 'x' is not valid. Valid values: a, b."] := by decide

end Message

end RecordRules

import RecordRules.Value.Collection
import RecordRules.Value.Question

/-!
# Questions that change nothing

Five questions change what they are asked of, each of them some value at least; all others leave
every value as it is (`leaves_all_iff`). A collection stays one, whatever is asked of it
(`isCollection_left`).
-/

namespace RecordRules

namespace Value

/-- The names of the questions that change a value. -/
def changing : List String := ["clear", "pop", "popitem", "reverse", "sort"]

theorem left_ask_text (v : Value) (s : String) :
    (v.ask (.text s)).left = ((v.change? s).map (·.left)).getD v := by
  simp only [ask]
  cases v.change? s with
  | none => cases v.answer? s <;> rfl
  | some reply => rfl

theorem change?_of_not_changing (v : Value) {s : String} (apart : s ∉ changing) :
    v.change? s = none := by
  unfold change?
  split <;> first | rfl | simp [changing] at apart

/-- A question leaves every value as it is just when it is none of those that change one. -/
theorem leaves_all_iff (s : String) :
    (∀ v : Value, (v.ask (.text s)).left = v) ↔ s ∉ changing := by
  constructor
  · intro leaves changes
    have words := leaves (.list [.text "b", .text "a"])
    have entries := leaves (.dict [(.null, .null)])
    rw [left_ask_text] at words entries
    simp only [changing, List.mem_cons, List.not_mem_nil, or_false] at changes
    rcases changes with rfl | rfl | rfl | rfl | rfl
    · simp [change?] at words
    · simp [change?] at words
    · simp [change?] at entries
    · simp [change?] at words
    · have sorted : (sort [.text "b", .text "a"]).1 = [.text "a", .text "b"] := by cbv
      simp [change?, sorted] at words
  · intro apart v
    rw [left_ask_text, change?_of_not_changing v apart]
    rfl

theorem left_ask_null (question : Value) : (null.ask question).left = null := by
  cases question with
  | text s =>
    have none : null.change? s = none := by
      unfold change?
      split <;> first | rfl | contradiction
    rw [left_ask_text, none]
    rfl
  | _ => rfl

/-- A collection stays one, whatever is asked of it, and nothing becomes one. -/
theorem isCollection_left (v name : Value) : (v.ask name).left.isCollection = v.isCollection := by
  cases name with
  | text s =>
    rw [left_ask_text]
    cases changes : v.change? s with
    | none => rfl
    | some reply =>
      unfold change? at changes
      split at changes <;> first
        | (cases changes; done)
        | (cases changes; rfl)
        | (split at changes <;> (cases changes; rfl))
  | _ => rfl

end Value

end RecordRules

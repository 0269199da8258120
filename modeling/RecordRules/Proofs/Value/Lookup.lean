import RecordRules.Value.Mapping

/-!
# Looking up texts

A text is the same as itself only, so what is put under one text in a mapping is found under it
(`get?_put_self`) and under no other value (`get?_put_other`).
-/

namespace RecordRules

namespace Value

theorem same_text_self (s : String) : same (text s) (text s) = true :=
  (same_text_iff s (text s)).mpr rfl

theorem same_texts (s t : String) : same (text s) (text t) = (s == t) := by
  simp [same, sameAtom]

/-- Nothing but a text is the same as it, on whichever side it stands. -/
theorem same_right_text_iff (v : Value) (s : String) : same v (text s) = true ↔ v = text s := by
  cases v <;> simp [same, sameAtom, quantity?, members?]

theorem memberOf_text_iff (s : String) (values : List Value) :
    (text s).memberOf values = true ↔ text s ∈ values := by
  simp [memberOf, same_right_text_iff]

theorem asKey_text (s : String) : (text s).asKey = .ok (text s) := by
  simp [asKey, changeable?]

theorem asKey_ok {v key : Value} (isKey : v.asKey = .ok key) : key = v := by
  unfold asKey at isKey
  split at isKey
  · cases isKey
  · exact (Except.ok.inj isKey).symm

theorem truthy_text {s : String} (filled : s ≠ "") : (text s).truthy = true := by
  simpa [truthy] using filled

/-- A mapping that is empty is as good as one that is missing. -/
theorem orElse_dict (entries : Entries) : (dict entries).orElse (dict []) = dict entries := by
  cases entries <;> rfl

end Value

/-! ## Mappings -/

namespace Entries

theorem get?_nil (key : Value) : get? [] key = none := rfl

theorem get?_cons_text (name : String) (v : Value) (rest : Entries) (other : String) :
    get? ((.text name, v) :: rest) (.text other)
      = if name = other then some v else get? rest (.text other) := by
  unfold get?
  by_cases same : name = other <;> simp [Value.same_texts, same]

theorem get?_of_absent {entries : Entries} {name : String}
    (absent : ∀ entry ∈ entries, entry.1 ≠ .text name) : get? entries (.text name) = none := by
  rw [get?, Option.map_eq_none_iff, List.find?_eq_none]
  intro entry member same
  exact absent entry member ((Value.same_right_text_iff entry.1 name).mp same)

/-- An option that no entry is for is nothing. -/
theorem option_of_absent {entries : Entries} {name : String}
    (absent : ∀ entry ∈ entries, entry.1 ≠ .text name) : entries.option name = .null := by
  rw [option, get?_of_absent absent]
  rfl

theorem get?_put_self (entries : Entries) (name : String) (v : Value) :
    (entries.put (.text name) v).get? (.text name) = some v := by
  induction entries with
  | nil => simp [put, get?, Value.same_text_self]
  | cons entry rest ih =>
    unfold put
    by_cases same : Value.same entry.1 (.text name) = true
    · simp [same, get?]
    · rw [if_neg same]
      simpa [get?, same] using ih

theorem get?_put_other (entries : Entries) (name : String) (v : Value) {other : String}
    (differ : other ≠ name) :
    (entries.put (.text name) v).get? (.text other) = entries.get? (.text other) := by
  have apart : Value.same (.text name) (.text other) = false := by
    rw [Bool.eq_false_iff, ne_eq, Value.same_text_iff]
    exact fun e => differ (Value.text.inj e).symm
  induction entries with
  | nil => simp [put, get?, apart]
  | cons entry rest ih =>
    unfold put
    by_cases same : Value.same entry.1 (.text name) = true
    · have isName := (Value.same_right_text_iff _ _).mp same
      rw [if_pos same]
      simp [get?, isName, apart]
    · rw [if_neg same]
      by_cases found : Value.same entry.1 (.text other) = true
      · simp [get?, found]
      · simpa [get?, found] using ih

/-- A default is put only where nothing was. -/
theorem get?_putDefault_self (entries : Entries) (name : String) (v : Value) :
    (entries.putDefault (.text name) v).get? (.text name)
      = some ((entries.get? (.text name)).getD v) := by
  unfold putDefault has
  cases found : entries.get? (.text name) with
  | none => simp [get?_put_self]
  | some w => simp [found]

theorem get?_putDefault_other (entries : Entries) (name : String) (v : Value) {other : String}
    (differ : other ≠ name) :
    (entries.putDefault (.text name) v).get? (.text other) = entries.get? (.text other) := by
  unfold putDefault
  split
  · rfl
  · exact get?_put_other entries name v differ

theorem put_of_absent {entries : Entries} {key : Value} (v : Value)
    (absent : entries.has key = false) : entries.put key v = entries ++ [(key, v)] := by
  induction entries with
  | nil => rfl
  | cons first rest ih =>
    obtain ⟨k, w⟩ := first
    cases alike : Value.same k key with
    | true => simp [has, get?, alike] at absent
    | false =>
      have later : has rest key = false := by simpa [has, get?, alike] using absent
      simp [put, alike, ih later]

/-- A default is put at the end, if at all. -/
theorem putDefault_cases (entries : Entries) (key v : Value) :
    entries.putDefault key v = entries ∨ entries.putDefault key v = entries ++ [(key, v)] := by
  unfold putDefault
  cases has : entries.has key with
  | true => exact .inl rfl
  | false => exact .inr (put_of_absent v has)

theorem get?_append (entries others : Entries) (key : Value) :
    (entries ++ others).get? key = (entries.get? key).or (others.get? key) := by
  simp [get?, List.find?_append, Option.map_or]

end Entries

end RecordRules

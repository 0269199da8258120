import RecordRules.Proofs.Calendar.Ordinal
import RecordRules.Proofs.Evaluation
import RecordRules.Rule.Bound

/-!
# How bounds decide

A value and a date that a bound stands for are brought to one precision (`Bound.aligned`): both are
days, or both moments in one timezone. Two such values can always be compared, and the comparison is
that of two numbers: the ordinal numbers of the days, or the points of time of the moments
(`Moment.beside`). So a bound decides by a total order (`Bound.admits_days_iff`,
`Bound.admits_moments_iff`), and of the two sides of one bound a date is on at least one, also of
the present time, whose two sides are the clock moved forward and back.
-/

namespace RecordRules

namespace Direction

/-- Whether a value may stand so to a bound. -/
def Allows : Direction → Int → Int → Prop
  | before, value, bound => value ≤ bound
  | after, value, bound => bound ≤ value

instance : (d : Direction) → (value bound : Int) → Decidable (d.Allows value bound)
  | before, value, bound => inferInstanceAs (Decidable (value ≤ bound))
  | after, value, bound => inferInstanceAs (Decidable (bound ≤ value))

/-- The relation in which a value is to stand to a bound. -/
def relation : Direction → Relation
  | before => .lessOrEqual
  | after => .greaterOrEqual

theorem relation_admits (d : Direction) (o : Ordering) : d.relation.admits o = d.admits o := by
  cases d <;> rfl

theorem admits_compare_iff (d : Direction) (x y : Int) :
    d.admits (compare x y) = true ↔ d.Allows x y := by
  cases d <;> simp [admits, Allows, compare_le_iff_le, compare_ge_iff_ge]

end Direction

/-- Dates are compared as the numbers of their days. -/
theorem compareDate_eq (x y : Date) : compareDate x y = compare (x.ordinal : Int) y.ordinal := by
  unfold compareDate
  by_cases same : x = y
  · rw [if_pos (beq_iff_eq.mpr same), same, compare_eq_iff_eq.mpr rfl]
  rw [if_neg (mt beq_iff_eq.mp same)]
  by_cases ordered : x.le y = true
  · have later : ¬y.le x = true := fun back => same (Date.le_antisymm ordered back)
    rw [Date.le_iff_ordinal_le] at later
    rw [if_pos ordered, compare_lt_iff_lt.mpr (by omega)]
  · have later := mt Date.le_iff_ordinal_le.mpr ordered
    rw [if_neg ordered, compare_gt_iff_gt.mpr (by omega)]

/-- The beginning of a day, as a moment without a timezone. -/
def Date.midnight (d : Date) : Moment := ⟨d, 0, none, by decide, trivial⟩

namespace Moment

/-- The point of time of a moment beside another: an offset that it lacks is that of the other, and
    where neither has one, calendar and clock are taken as they are. -/
def beside (m other : Moment) : Int := m.wall - ((m.offset.orElse fun _ => other.offset).getD 0)

/-- A moment with its offset, or with that of another if it has none. -/
def zonedLike (m other : Moment) : Moment :=
  if m.offset.isNone then m.readInZoneOf other else m

/-- A moment takes the same offset from another before and after that is given its own. -/
theorem zonedLike_zonedLike (x y : Moment) : x.zonedLike (y.zonedLike x) = x.zonedLike y := by
  cases here : x.offset <;> cases there : y.offset <;> simp [zonedLike, readInZoneOf, here, there]

/-- Moments that are read in each other's timezone can be compared. -/
theorem comparable?_zonedLike (x y : Moment) :
    (x.zonedLike y).comparable? (y.zonedLike x) = some (x.beside y, y.beside x) := by
  cases here : x.offset <;> cases there : y.offset <;>
    simp [zonedLike, readInZoneOf, comparable?, instant?, beside, wall, here, there]

end Moment

namespace Value

/-- The moment that a date stands for where the time of day counts: a date alone is its midnight. -/
def moment? : Value → Option Moment
  | date d => some d.midnight
  | moment m => some m
  | _ => none

/-- Just the dates have a day. -/
theorem isSome_day? (v : Value) : v.day?.isSome = v.isDate := by cases v <;> rfl

/-- Just the dates stand for a moment. -/
theorem isSome_moment? (v : Value) : v.moment?.isSome = v.isDate := by cases v <;> rfl

theorem exists_day {v : Value} (isDate : v.isDate = true) : ∃ x, v.day? = some x :=
  Option.isSome_iff_exists.mp (v.isSome_day?.trans isDate)

theorem exists_moment {v : Value} (isDate : v.isDate = true) : ∃ m, v.moment? = some m :=
  Option.isSome_iff_exists.mp (v.isSome_moment?.trans isDate)

theorem isBlank_of_isDate {v : Value} (isDate : v.isDate = true) : v.isBlank = false := by
  cases v with
  | date | moment => rfl
  | _ => cases isDate

theorem isDate_of_readDate {s : String} {v : Value} (read : readDate s = .ok v) :
    v.isDate = true := by
  unfold readDate at read
  by_cases timed : (s.toList.contains 'T' || s.toList.contains ':') = true
  · rw [if_pos timed] at read
    cases found : Moment.read? s <;> rw [found] at read <;> cases read
    rfl
  · rw [if_neg timed] at read
    cases found : Date.read? s <;> rw [found] at read <;> cases read
    rfl

end Value

namespace Bound

/-- A value and a date that limits it at one precision: as moments, each in its own timezone or that
    of the other, if the time of day is asked for and the bound has one, and else as days. -/
def aligned (withTime : Bool) (value bound : Value) : Value × Value :=
  match withTime, value.moment?, bound with
  | true, some v, .moment b => (.moment (v.zonedLike b), .moment (b.zonedLike v))
  | _, _, bound =>
    match value.day?, bound.day? with
    | some v, some b => (.date v, .date b)
    | _, _ => (value, bound)

variable {subject : Subject} {clock : Moment} {value asReceived bound resolved : Value}
  {d : Direction} {withTime : Bool}

theorem momentsAdmitted_eq (d : Direction) (v b : Moment) :
    momentsAdmitted d v b = d.admits (compare (v.beside b) (b.beside v)) := by
  change ((v.zonedLike b).comparable? (b.zonedLike (v.zonedLike b))).any _ = _
  rw [b.zonedLike_zonedLike v, v.comparable?_zonedLike b]
  rfl

/-- Between days a bound decides by their order. -/
theorem admits_days {x y : Date} (day : value.day? = some x) (boundDay : resolved.day? = some y)
    (whole : withTime = false ∨ resolved = .date y) :
    admits withTime d value resolved = d.admits (compareDate x y) := by
  unfold admits
  split
  · simp at whole
  · simp at whole
  · rw [day, boundDay]

/-- Between moments a bound decides by their order, a date alone being its midnight. -/
theorem admits_moments {x y : Moment} (time : value.moment? = some x) :
    admits true d value (.moment y) = momentsAdmitted d x y := by
  cases value with
  | moment v =>
    cases time
    rfl
  | date v =>
    cases time
    cases zone : y.offset <;>
      simp [admits, momentsAdmitted, Moment.midnight, Date.midnight, Moment.readInZoneOf, zone]
  | _ => cases time

theorem admits_days_iff {x y : Date} (day : value.day? = some x) (boundDay : resolved.day? = some y)
    (whole : withTime = false ∨ resolved = .date y) :
    admits withTime d value resolved = true ↔ d.Allows x.ordinal y.ordinal := by
  rw [admits_days day boundDay whole, compareDate_eq, Direction.admits_compare_iff]

theorem admits_moments_iff {x y : Moment} (time : value.moment? = some x) :
    admits true d value (.moment y) = true ↔ d.Allows (x.beside y) (y.beside x) := by
  rw [admits_moments time, momentsAdmitted_eq, Direction.admits_compare_iff]

/-- A date is either compared with a bound as days, or with a moment as a moment. -/
theorem days_or_moments (withTime : Bool) (isDate : value.isDate = true)
    (boundIsDate : resolved.isDate = true) :
    (∃ x y, value.day? = some x ∧ resolved.day? = some y ∧
      (withTime = false ∨ resolved = .date y)) ∨
    ∃ x y, value.moment? = some x ∧ resolved = .moment y ∧ withTime = true := by
  obtain ⟨x, day⟩ := Value.exists_day isDate
  obtain ⟨v, time⟩ := Value.exists_moment isDate
  cases resolved with
  | date y => exact .inl ⟨x, y, day, rfl, .inr rfl⟩
  | moment y =>
    cases withTime with
    | false => exact .inl ⟨x, y.date, day, rfl, .inl rfl⟩
    | true => exact .inr ⟨v, y, time, rfl, rfl⟩
  | _ => cases boundIsDate

/-- No bound admits what is not a date. -/
theorem admits_of_not_isDate (noDate : value.isDate = false) :
    admits withTime d value resolved = false := by
  unfold admits
  split
  · cases noDate
  · cases noDate
  · rw [Option.isNone_iff_eq_none.mp
      (Option.isSome_eq_false_iff.mp (value.isSome_day?.trans noDate))]

/-- Two dates at one precision can be ordered, and a bound admits what lies on its side then. -/
theorem ordered_aligned (d : Direction) (withTime : Bool) (isDate : value.isDate = true)
    (boundIsDate : resolved.isDate = true) :
    Value.ordered d.relation (aligned withTime value resolved).1
      (aligned withTime value resolved).2 = .ok (admits withTime d value resolved) := by
  obtain ⟨x, y, day, boundDay, whole⟩ | ⟨x, y, time, rfl, rfl⟩ :=
    days_or_moments withTime isDate boundIsDate
  · have pair : aligned withTime value resolved = (.date x, .date y) := by
      unfold aligned
      split
      · simp at whole
      · rw [day, boundDay]
    rw [pair, admits_days day boundDay whole, ← Direction.relation_admits]
    rfl
  · have pair : aligned true value (.moment y) =
        (.moment (x.zonedLike y), .moment (y.zonedLike x)) := by
      unfold aligned
      rw [time]
    rw [pair, admits_moments time, momentsAdmitted_eq, ← Direction.relation_admits]
    simp [Value.ordered, Value.atomsOrdered, x.comparable?_zonedLike y, Value.quantity?,
      Value.members?]

/-! ## What a bound stands for -/

theorem isDate_or_isBlank_of_ofResolved {came : Value}
    (resolves : ofResolved bound came = .ok resolved) :
    resolved.isDate = true ∨ resolved.isBlank = true := by
  unfold ofResolved at resolves
  split at resolves
  next already =>
    cases resolves
    simpa using already
  next =>
    cases came with
    | text s => exact .inl (Value.isDate_of_readDate resolves)
    | _ => cases resolves

/-- The clock in the timezone of a value. -/
def clockBeside (clock : Moment) : Value → Option Moment
  | .moment v => clock.movedToZoneOf? v
  | _ => some clock

/-- How far the clock is moved for a side. -/
def leeway : Direction → Int
  | .before => grace
  | .after => -grace

/-- What a moved clock shows, which is nothing beyond the calendar. -/
def clockValue : Option Moment → Except Fault Value
  | some m => .ok (.moment m)
  | none => .error .dateOverflow

theorem present_eq (clock : Moment) (value : Value) (d : Direction) : present clock value d =
    clockValue ((clockBeside clock value).bind (·.plusSeconds? (leeway d))) := by
  cases d <;> rfl

theorem present_eq_ok_iff :
    present clock value d = .ok resolved ↔ ∃ here m, clockBeside clock value = some here ∧
      here.plusSeconds? (leeway d) = some m ∧ resolved = .moment m := by
  rw [present_eq]
  cases clockBeside clock value with
  | none => simp [clockValue]
  | some here =>
    cases shifted : here.plusSeconds? (leeway d) <;> simp [clockValue, shifted, eq_comm]

/-- A bound stands for a date, or for nothing. -/
theorem isDate_or_isBlank_of_resolve
    (resolves : resolve subject clock bound value d = .ok resolved) :
    resolved.isDate = true ∨ resolved.isBlank = true := by
  unfold resolve at resolves
  split at resolves
  · cases resolves
    exact .inl rfl
  · obtain ⟨_, _, _, _, rfl⟩ := present_eq_ok_iff.mp resolves
    exact .inl rfl
  · cases resolves
    exact .inl rfl
  · cases resolves
    exact .inl rfl
  · obtain ⟨known, _, resolves⟩ := ok_bind_iff.mp resolves
    split at resolves
    · obtain ⟨came, _, resolves⟩ := ok_bind_iff.mp resolves
      exact isDate_or_isBlank_of_ofResolved resolves
    · cases resolves
      exact .inr rfl
  · obtain ⟨came, _, resolves⟩ := ok_bind_iff.mp resolves
    exact isDate_or_isBlank_of_ofResolved resolves
  · cases resolves

/-- The clock moved forward and back shows an earlier time where it was moved back. -/
theorem present_sides {latest earliest : Value} (before : present clock value .before = .ok latest)
    (after : present clock value .after = .ok earliest) :
    ∃ x y, earliest = .moment x ∧ latest = .moment y ∧ x.offset = y.offset ∧ x.wall ≤ y.wall := by
  obtain ⟨here, y, inZone, late, rfl⟩ := present_eq_ok_iff.mp before
  obtain ⟨here', x, inZone', early, rfl⟩ := present_eq_ok_iff.mp after
  obtain rfl : here' = here := Option.some.inj (inZone'.symm.trans inZone)
  obtain ⟨lateWall, lateOffset⟩ := Moment.wall_of_ofWall? late
  obtain ⟨earlyWall, earlyOffset⟩ := Moment.wall_of_ofWall? early
  refine ⟨x, y, rfl, rfl, earlyOffset.trans lateOffset.symm, ?_⟩
  rw [lateWall, earlyWall]
  simp only [leeway, grace, Calendar.second]
  omega

/-- A bound stands for the same on both sides, or on the side to come after for a moment that is no
    later, in the same timezone. -/
theorem sides_of_resolve {latest earliest : Value}
    (before : resolve subject clock bound value .before = .ok latest)
    (after : resolve subject clock bound value .after = .ok earliest) :
    earliest = latest ∨ ∃ x y, earliest = .moment x ∧ latest = .moment y ∧
      x.offset = y.offset ∧ x.wall ≤ y.wall := by
  by_cases now : bound = .sentinel .now
  · subst now
    exact .inr (present_sides before after)
  · have alike : resolve subject clock bound value .after =
        resolve subject clock bound value .before := by
      unfold resolve
      split
      · rfl
      · exact absurd rfl now
      all_goals rfl
    exact .inl (Except.ok.inj (after.symm.trans (alike.trans before)))

/-- Of the two sides of a bound a date is on at least one. -/
theorem admits_one_side {latest earliest : Value} (isDate : value.isDate = true)
    (before : resolve subject clock bound value .before = .ok latest)
    (after : resolve subject clock bound value .after = .ok earliest)
    (boundIsDate : latest.isDate = true) :
    admits withTime .before value latest = true ∨ admits withTime .after value earliest = true := by
  obtain rfl | ⟨x, y, rfl, rfl, zone, ordered⟩ := sides_of_resolve before after
  -- One bound has two sides because its order is total.
  · obtain ⟨x, y, day, boundDay, whole⟩ | ⟨x, y, time, rfl, rfl⟩ :=
      days_or_moments withTime isDate boundIsDate
    · rw [admits_days_iff day boundDay whole, admits_days_iff day boundDay whole]
      exact le_total _ _
    · rw [admits_moments_iff time, admits_moments_iff time]
      exact le_total _ _
  -- Of two bounds in one timezone the sides overlap from the earlier to the later.
  · cases withTime with
    | false =>
      obtain ⟨v, day⟩ := Value.exists_day isDate
      rw [admits_days_iff day rfl (.inl rfl), admits_days_iff day rfl (.inl rfl)]
      have days := Moment.ordinal_le_of_wall_le ordered
      simp only [Direction.Allows]
      omega
    | true =>
      obtain ⟨v, time⟩ := Value.exists_moment isDate
      rw [admits_moments_iff time, admits_moments_iff time]
      simp only [Direction.Allows, Moment.beside, zone]
      omega

/-! ## Evaluation -/

/-- What comes of a value that a bound does not accept: the failure, if its parts can be shown. -/
def rejection (subject : Subject) (asReceived bound : Value) (d : Direction) :
    Except Fault (Option String) := do
  let received ← shown asReceived
  let clause ← describe subject bound d
  return some (": " ++ received ++ " is not a valid value." ++ clause)

theorem rejection_ne_accepted : rejection subject asReceived bound d ≠ .ok none := by
  intro accepted
  obtain ⟨_, _, accepted⟩ := ok_bind_iff.mp accepted
  obtain ⟨_, _, accepted⟩ := ok_bind_iff.mp accepted
  cases accepted

theorem evaluate_of_resolve (resolves : resolve subject clock bound value d = .ok resolved) :
    evaluate subject clock value asReceived bound d withTime =
      if resolved.isBlank || admits withTime d value resolved then .ok none
      else rejection subject asReceived bound d := by
  unfold evaluate
  rw [resolves]
  rfl

/-- A bound that stands for a date decides by its order. -/
theorem evaluate_of_isDate (resolves : resolve subject clock bound value d = .ok resolved)
    (boundIsDate : resolved.isDate = true) :
    evaluate subject clock value asReceived bound d withTime =
      if admits withTime d value resolved then .ok none
      else rejection subject asReceived bound d := by
  rw [evaluate_of_resolve resolves, Value.isBlank_of_isDate boundIsDate, Bool.false_or]

theorem evaluate_of_admits (resolves : resolve subject clock bound value d = .ok resolved)
    (admitted : admits withTime d value resolved = true) :
    evaluate subject clock value asReceived bound d withTime = .ok none := by
  rw [evaluate_of_resolve resolves, admitted, Bool.or_true]
  rfl

theorem evaluate_of_isBlank (resolves : resolve subject clock bound value d = .ok resolved)
    (blank : resolved.isBlank = true) :
    evaluate subject clock value asReceived bound d withTime = .ok none := by
  rw [evaluate_of_resolve resolves, blank]
  rfl

/-- That a bound decides on a value by one order of days and one of points of time. What a bound
    stands for may depend on the side, since it can be the present time. -/
structure DecidesByOrder (subject : Subject) (clock : Moment) (value asReceived bound : Value)
    (withTime : Bool) : Prop where
  /-- What stands for nothing accepts everything. -/
  nothing : ∀ {d resolved}, resolve subject clock bound value d = .ok resolved →
    resolved.isBlank = true →
      evaluate subject clock value asReceived bound d withTime = .ok none
  /-- What is not a date is rejected. -/
  otherKind : ∀ {d resolved}, resolve subject clock bound value d = .ok resolved →
    resolved.isDate = true → value.isDate = false →
      evaluate subject clock value asReceived bound d withTime =
        rejection subject asReceived bound d
  /-- Two dates can be compared, and the comparison decides. -/
  comparison : ∀ {d resolved}, resolve subject clock bound value d = .ok resolved →
    resolved.isDate = true → value.isDate = true → ∃ holds,
      Value.ordered d.relation (aligned withTime value resolved).1
        (aligned withTime value resolved).2 = .ok holds ∧
      evaluate subject clock value asReceived bound d withTime =
        if holds then .ok none else rejection subject asReceived bound d
  /-- Without the time of day, and against a date alone, days are compared. -/
  days : ∀ {d resolved x y}, resolve subject clock bound value d = .ok resolved →
    value.day? = some x → resolved.day? = some y → (withTime = false ∨ resolved = .date y) →
      evaluate subject clock value asReceived bound d withTime =
        if d.Allows x.ordinal y.ordinal then .ok none else rejection subject asReceived bound d
  /-- With the time of day, points of time are compared. -/
  moments : ∀ {d x y}, resolve subject clock bound value d = .ok (.moment y) →
    value.moment? = some x → withTime = true →
      evaluate subject clock value asReceived bound d withTime =
        if d.Allows (x.beside y) (y.beside x) then .ok none
        else rejection subject asReceived bound d
  /-- To be rejected is not to be accepted. -/
  rejected : ∀ d, rejection subject asReceived bound d ≠ .ok none
  /-- One of the two sides accepts a date. -/
  oneSide : ∀ {latest earliest}, value.isDate = true →
    resolve subject clock bound value .before = .ok latest →
    resolve subject clock bound value .after = .ok earliest →
      evaluate subject clock value asReceived bound .before withTime = .ok none ∨
        evaluate subject clock value asReceived bound .after withTime = .ok none

/-- Every bound that stands for something decides on every value by order, and never fails on dates
    of different kinds. -/
theorem decides_by_order (subject : Subject) (clock : Moment) (value asReceived bound : Value)
    (withTime : Bool) : DecidesByOrder subject clock value asReceived bound withTime where
  nothing := evaluate_of_isBlank
  otherKind resolves boundIsDate noDate := by
    rw [evaluate_of_isDate resolves boundIsDate, admits_of_not_isDate noDate]
    rfl
  comparison resolves boundIsDate isDate :=
    ⟨_, ordered_aligned _ withTime isDate boundIsDate, evaluate_of_isDate resolves boundIsDate⟩
  days resolves day boundDay whole := by
    have boundIsDate := (Value.isSome_day? _).symm.trans (congrArg Option.isSome boundDay)
    rw [evaluate_of_isDate resolves boundIsDate,
      if_congr (admits_days_iff day boundDay whole) rfl rfl]
  moments resolves time timed := by
    subst timed
    rw [evaluate_of_isDate resolves rfl, if_congr (admits_moments_iff time) rfl rfl]
  rejected _ := rejection_ne_accepted
  oneSide isDate before after := by
    obtain boundIsDate | blank := isDate_or_isBlank_of_resolve before
    · obtain early | late := admits_one_side isDate before after boundIsDate
      · exact .inl (evaluate_of_admits before early)
      · exact .inr (evaluate_of_admits after late)
    · exact .inl (evaluate_of_isBlank before blank)

/-- A meeting in the afternoon without a timezone is after the noon of any timezone, and its day
    alone before it. -/
theorem afternoon_decided :
    let day : Date := ⟨2020, 1, 1, by decide⟩
    let subject : Subject := (⟨⟨"A-1", none, none, [], none⟩, [], [], .pending⟩ : Record).subject
    let clock : Moment := ⟨⟨2024, 5, 1, by decide⟩, 0, none, by decide⟩
    let noon : Value := .moment ⟨day, 43200000000, some 7200000000, by decide⟩
    let afternoon : Value := .moment ⟨day, 50400000000, none, by decide⟩
    noon.isDate = true ∧ resolve subject clock noon afternoon .before = .ok noon ∧
      evaluate subject clock afternoon .null noon .before true =
        rejection subject .null noon .before ∧
      evaluate subject clock afternoon .null noon .after true = .ok none ∧
      evaluate subject clock (.date day) .null noon .before true = .ok none ∧
      evaluate subject clock afternoon .null noon .before false = .ok none := by
  intro day subject clock noon afternoon
  have timed := decides_by_order subject clock afternoon .null noon true
  have alone := decides_by_order subject clock (.date day) .null noon true
  have whole := decides_by_order subject clock afternoon .null noon false
  exact ⟨rfl, rfl, (timed.moments rfl rfl rfl).trans (if_neg (by decide)),
    (timed.moments rfl rfl rfl).trans (if_pos (by decide)),
    (alone.moments rfl rfl rfl).trans (if_pos (by decide)),
    (whole.days rfl rfl rfl (.inl rfl)).trans (if_pos (by decide))⟩

end Bound

end RecordRules

import Mathlib
import RecordRules.Proofs.Registry.Setting
import RecordRules.Proofs.Value.WellFormed

/-!
# Registries as logs

What a program asks of a registry, call by call, is a log of it. Where no two names share settings,
each call does to the settings, the known names and the notice rules what it says, and no more
(`step_change`). So the last call that names a rule decides whether it is disabled, known names stand
in the order of first mention, and notice rules are added at the end (`registry_follows_its_log`).
Names that share settings are disabled and enabled together (`shared_settings_change_together`).
-/

namespace RecordRules

namespace Registry

/-- A call on a registry. -/
inductive Change where
  | disable (names : List String)
  | enable (names : List String)
  | notice (names : List String)

namespace Change

/-- The names of the rules that a call disables or enables. -/
def names : Change → List String
  | disable names | enable names => names
  | notice _ => []

/-- The notice rules that a call adds. -/
def notices : Change → List String
  | notice names => names
  | disable _ | enable _ => []

/-- Whether a call is one that disables rules. -/
def disables : Change → Bool
  | disable _ => true
  | enable _ | notice _ => false

end Change

/-- The registry after a call, and what stopped it. -/
def change (r : Registry) : Change → Registry × Except Fault Unit
  | .disable names => r.disable (names.map .text)
  | .enable names => r.enable (names.map .text)
  | .notice names => (r.addNotices (names.map .text), .ok ())

/-- The registry after the calls of a log, up to one that is stopped. -/
def changeAll (r : Registry) : List Change → Registry × Except Fault Unit
  | [] => (r, .ok ())
  | c :: rest =>
    match r.change c with
    | (next, .ok ()) => next.changeAll rest
    | (next, .error fault) => (next, .error fault)

/-- The names that a registry knows, in the order of first mention. -/
def names (r : Registry) : List Value := r.rules.map (·.1)

/-! ## Known names -/

/-- Names with others, of which those that are new stand at the end in the order of first
    mention. -/
def Extends (known : List Value) (mentioned : List String) (after : List Value) : Prop :=
  ∃ added : List String, after = known ++ added.map .text ∧
    (∀ name, name ∈ added ↔ name ∈ mentioned ∧ .text name ∉ known) ∧
    added.Pairwise fun a b => mentioned.idxOf a < mentioned.idxOf b

namespace Extends

variable {known middle after : List Value} {mentioned later : List String}

theorem nil (known : List Value) : Extends known [] known :=
  ⟨[], by simp, by simp, .nil⟩

theorem mem_iff (extension : Extends known mentioned after) (name : String) :
    .text name ∈ after ↔ .text name ∈ known ∨ name ∈ mentioned := by
  obtain ⟨added, rfl, new, _⟩ := extension
  by_cases before : Value.text name ∈ known
  · simp [before]
  · simp [before, new]

/-- What is mentioned later comes after what is mentioned first. -/
theorem trans (first : Extends known mentioned middle) (second : Extends middle later after) :
    Extends known (mentioned ++ later) after := by
  have inMiddle := first.mem_iff
  obtain ⟨added, rfl, new, order⟩ := first
  obtain ⟨addedLater, rfl, newLater, orderLater⟩ := second
  have early {name : String} (member : name ∈ added) :
      (mentioned ++ later).idxOf name = mentioned.idxOf name :=
    List.idxOf_append_of_mem ((new name).mp member).1
  have late {name : String} (member : name ∈ addedLater) :
      (mentioned ++ later).idxOf name = mentioned.length + later.idxOf name := by
    refine List.idxOf_append_of_notMem fun there => ?_
    exact ((newLater name).mp member).2 ((inMiddle name).mpr (.inr there))
  refine ⟨added ++ addedLater, by simp, fun name => ?_, List.pairwise_append.mpr ⟨?_, ?_, ?_⟩⟩
  · rw [List.mem_append, new, newLater, inMiddle, List.mem_append]
    tauto
  · refine order.imp_of_mem fun {a b} inA inB before => ?_
    rw [early inA, early inB]
    exact before
  · refine orderLater.imp_of_mem fun {a b} inA inB before => ?_
    rw [late inA, late inB]
    exact Nat.add_lt_add_left before _
  · intro a inA b inB
    rw [early inA, late inB]
    exact Nat.lt_add_right _ (List.idxOf_lt_length_iff.mpr ((new a).mp inA).1)

/-- Names stay different from each other. -/
theorem areKeys (extension : Extends known mentioned after) (keys : Value.AreKeys known) :
    Value.AreKeys after := by
  obtain ⟨added, rfl, new, order⟩ := extension
  constructor
  · intro key member
    rcases List.mem_append.mp member with before | isAdded
    · exact keys.keys key before
    · obtain ⟨name, _, rfl⟩ := List.mem_map.mp isAdded
      rfl
  · refine List.pairwise_append.mpr ⟨keys.apart, ?_, fun key inKnown b isAdded => ?_⟩
    · refine List.pairwise_map.mpr (order.imp fun {a b} before => ?_)
      rw [Value.same_texts, beq_eq_false_iff_ne]
      rintro rfl
      exact Nat.lt_irrefl _ before
    · obtain ⟨name, inAdded, rfl⟩ := List.mem_map.mp isAdded
      rw [Bool.eq_false_iff, ne_eq, Value.same_right_text_iff]
      rintro rfl
      exact ((new name).mp inAdded).2 inKnown

theorem keepNew (known : List Value) (name : String) :
    Extends known [name] (Value.keepNew known (.text name)) := by
  by_cases before : Value.text name ∈ known
  · have same : Value.keepNew known (.text name) = known := by
      simp [Value.keepNew, Value.memberOf_text_iff, before]
    exact ⟨[], by simp [same], by simp [before], .nil⟩
  · have longer : Value.keepNew known (.text name) = known ++ [.text name] := by
      simp [Value.keepNew, Value.memberOf_text_iff, before]
    refine ⟨[name], by simp [longer], fun other => ?_, List.pairwise_singleton _ _⟩
    rw [List.mem_singleton]
    exact ⟨fun isName => ⟨isName, isName ▸ before⟩, And.left⟩

theorem foldl_keepNew (known : List Value) (mentioned : List String) :
    Extends known mentioned ((mentioned.map Value.text).foldl Value.keepNew known) := by
  induction mentioned generalizing known with
  | nil => exact .nil known
  | cons name rest ih => exact (Extends.keepNew known name).trans (ih _)

end Extends

theorem names_give (r : Registry) (name : Value) (settings : Settings) :
    (r.give name settings).names = Value.keepNew r.names name := by
  unfold names give refer
  dsimp only
  induction r.rules with
  | nil => rfl
  | cons entry rest ih =>
    by_cases alike : Value.same entry.1 name = true
    · simp [putReference, Value.keepNew_cons_same, alike]
    · simp [putReference, Value.keepNew_cons_other, alike, ih]

theorem names_set (r : Registry) (name : Value) (disabled : Bool) :
    (r.set name disabled).names = Value.keepNew r.names name := by
  rw [set_eq]
  cases found : r.reference? name with
  | none =>
    rw [known_of_none found]
    exact names_give r name {}
  | some reference =>
    obtain ⟨n, member, alike⟩ := mem_of_reference? found
    have isKnown : name.memberOf r.names = true :=
      List.any_eq_true.mpr ⟨n, List.mem_map_of_mem member, alike⟩
    rw [known_of_reference? found, Value.keepNew, if_pos isKnown]
    rfl

theorem names_foldl_set (r : Registry) (names : List Value) (disabled : Bool) :
    (names.foldl (fun r n => r.set n disabled) r).names = names.foldl Value.keepNew r.names := by
  induction names generalizing r with
  | nil => rfl
  | cons first rest ih => rw [List.foldl_cons, ih, names_set, List.foldl_cons]

/-! ## One call -/

/-- What a call does to a registry. -/
structure Step (before : Registry) (c : Change) (after : Registry) : Prop where
  own : after.Own
  named : ∀ name ∈ c.names, after.setting? (.text name) = some ⟨c.disables⟩
  unnamed : ∀ name ∉ c.names, after.setting? (.text name) = before.setting? (.text name)
  known : Extends before.names c.names after.names
  notices : after.notices = before.notices ++ c.notices.map .text

/-- To set the rules of some names disabled or enabled is not stopped. -/
theorem setAll_texts {r : Registry} (own : r.Own) (disabled : Bool) (names : List String) :
    ∃ after, r.setAll disabled (names.map .text) = (after, .ok ()) ∧ after.Own ∧
      (∀ name ∈ names, after.setting? (.text name) = some ⟨disabled⟩) ∧
      (∀ name ∉ names, after.setting? (.text name) = r.setting? (.text name)) ∧
      Extends r.names names after.names ∧ after.notices = r.notices := by
  have keys : ∀ n ∈ names.map Value.text, n.changeable? = none := by
    intro n member
    obtain ⟨name, _, rfl⟩ := List.mem_map.mp member
    rfl
  have key (name : String) : (Value.text name).changeable? = none := rfl
  have setting (name : String) := setting?_foldl_set own disabled keys (key name)
  have among (name : String) :
      (Value.text name).memberOf (names.map .text) = true ↔ name ∈ names := by
    simp [Value.memberOf_text_iff]
  refine ⟨_, setAll_of_keys r disabled keys, own_foldl_set own disabled keys,
    fun name listed => ?_, fun name unlisted => ?_, ?_, notices_foldl_set r disabled _⟩
  · rw [setting, if_pos ((among name).mpr listed)]
  · rw [setting, if_neg fun listed => unlisted ((among name).mp listed)]
  · rw [names_foldl_set]
    exact .foldl_keepNew r.names names

theorem step_change {r : Registry} (own : r.Own) (c : Change) :
    ∃ next, r.change c = (next, .ok ()) ∧ Step r c next := by
  cases c with
  | disable names =>
    obtain ⟨next, isNext, owned, named, unnamed, known, notices⟩ := setAll_texts own true names
    exact ⟨next, isNext, owned, named, unnamed, known, by simp [Change.notices, notices]⟩
  | enable names =>
    obtain ⟨next, isNext, owned, named, unnamed, known, notices⟩ := setAll_texts own false names
    exact ⟨next, isNext, owned, named, unnamed, known, by simp [Change.notices, notices]⟩
  | notice names =>
    exact ⟨_, rfl, ⟨own.held, own.apart⟩, nofun, fun _ _ => rfl, .nil r.names, rfl⟩

/-! ## A log of calls -/

/-- That a call is the last one of a log that disables or enables a rule. -/
def LastNaming (log : List Change) (name : String) (c : Change) : Prop :=
  ∃ earlier later, log = earlier ++ c :: later ∧ name ∈ c.names ∧
    ∀ other ∈ later, name ∉ other.names

theorem LastNaming.unique {log : List Change} {name : String} {c d : Change}
    (last : LastNaming log name c) (lastToo : LastNaming log name d) : c = d := by
  obtain ⟨earlier, later, rfl, listed, isLast⟩ := last
  obtain ⟨earlierToo, laterToo, same, listedToo, isLastToo⟩ := lastToo
  rcases List.append_eq_append_iff.mp same with ⟨between, rfl, rest⟩ | ⟨between, rfl, rest⟩
  · cases between with
    | nil => exact (List.cons.inj rest).1
    | cons e between =>
      obtain ⟨rfl, rfl⟩ := List.cons.inj rest
      exact absurd listedToo (isLast d (by simp))
  · cases between with
    | nil => exact (List.cons.inj rest).1.symm
    | cons e between =>
      obtain ⟨rfl, rfl⟩ := List.cons.inj rest
      exact absurd listed (isLastToo c (by simp))

theorem exists_lastNaming (log : List Change) (name : String) :
    (∃ c, LastNaming log name c) ∨ ∀ c ∈ log, name ∉ c.names := by
  induction log with
  | nil => exact .inr nofun
  | cons first rest ih =>
    rcases ih with ⟨c, earlier, later, rfl, listed, last⟩ | unlisted
    · exact .inl ⟨c, first :: earlier, later, rfl, listed, last⟩
    · by_cases listed : name ∈ first.names
      · exact .inl ⟨first, [], rest, rfl, listed, unlisted⟩
      · exact .inr (List.forall_mem_cons.mpr ⟨listed, unlisted⟩)

/-- What the calls of a log do to a registry. -/
structure Follows (before : Registry) (log : List Change) (after : Registry) : Prop where
  own : after.Own
  named : ∀ name c, LastNaming log name c → after.setting? (.text name) = some ⟨c.disables⟩
  unnamed : ∀ name, (∀ c ∈ log, name ∉ c.names) →
    after.setting? (.text name) = before.setting? (.text name)
  known : Extends before.names (log.flatMap Change.names) after.names
  notices : after.notices = before.notices ++ (log.flatMap Change.notices).map .text

namespace Follows

variable {before next after : Registry} {c : Change} {log : List Change}

theorem nil {r : Registry} (own : r.Own) : Follows r [] r where
  own := own
  named name c last := by
    obtain ⟨earlier, later, isLog, _⟩ := last
    simp at isLog
  unnamed _ _ := rfl
  known := .nil r.names
  notices := by simp

theorem cons (step : Step before c next) (rest : Follows next log after) :
    Follows before (c :: log) after where
  own := rest.own
  named name d last := by
    obtain ⟨earlier, later, isLog, listed, isLast⟩ := last
    cases earlier with
    | nil =>
      obtain ⟨rfl, rfl⟩ := List.cons.inj isLog
      rw [rest.unnamed name isLast, step.named name listed]
    | cons first earlier =>
      obtain ⟨_, isRest⟩ := List.cons.inj isLog
      exact rest.named name d ⟨earlier, later, isRest, listed, isLast⟩
  unnamed name unlisted := by
    obtain ⟨notFirst, notLater⟩ := List.forall_mem_cons.mp unlisted
    rw [rest.unnamed name notLater, step.unnamed name notFirst]
  known := step.known.trans rest.known
  notices := by simp [rest.notices, step.notices]

theorem disabled_iff (follows : Follows before log after) (name : String) :
    (after.setting? (.text name)).any (·.disabled) = true ↔
      (∃ names, LastNaming log name (.disable names)) ∨
        (∀ c ∈ log, name ∉ c.names) ∧
          (before.setting? (.text name)).any (·.disabled) = true := by
  constructor
  · intro disabled
    rcases exists_lastNaming log name with ⟨c, last⟩ | unlisted
    · rw [follows.named name c last] at disabled
      cases c with
      | disable names => exact .inl ⟨names, last⟩
      | enable | notice => cases disabled
    · rw [follows.unnamed name unlisted] at disabled
      exact .inr ⟨unlisted, disabled⟩
  · rintro (⟨names, last⟩ | ⟨unlisted, disabled⟩)
    · rw [follows.named name _ last]
      rfl
    · rwa [follows.unnamed name unlisted]

end Follows

theorem follows_changeAll {r : Registry} (own : r.Own) (log : List Change) :
    ∃ after, r.changeAll log = (after, .ok ()) ∧ Follows r log after := by
  induction log generalizing r with
  | nil => exact ⟨r, rfl, .nil own⟩
  | cons c rest ih =>
    obtain ⟨next, isNext, step⟩ := step_change own c
    obtain ⟨after, isAfter, follows⟩ := ih step.own
    refine ⟨after, ?_, .cons step follows⟩
    rw [changeAll, isNext]
    exact isAfter

/-- A registry in which no two names share settings is a log in which the last call counts. After any
    calls, none of which is stopped, a rule is disabled if it has a name and the last call that names
    it disables it, or no call names it and it was disabled before; still no two names share
    settings. The known names are the former ones and then those that are new, in the order of first
    mention and each once. The notice rules are the former ones and then those that were added, and
    they alone tell whether a rule is one. -/
theorem registry_follows_its_log (r : Registry) (log : List Change) (keys : Value.AreKeys r.names)
    (own : r.Own) :
    ∃ after, r.changeAll log = (after, .ok ()) ∧ after.Own ∧
      (∀ name, ∃ disabled, after.isDisabled (.text name) = .ok disabled ∧
        (disabled = true ↔ name ≠ "" ∧ ((∃ names, LastNaming log name (.disable names)) ∨
          (∀ c ∈ log, name ∉ c.names) ∧ r.isDisabled (.text name) = .ok true))) ∧
      (Extends r.names (log.flatMap Change.names) after.names ∧ Value.AreKeys after.names) ∧
      after.notices = r.notices ++ (log.flatMap Change.notices).map .text ∧
      ∀ name, after.isNotice (.text name) = true ↔ name ≠ "" ∧ .text name ∈ after.notices := by
  obtain ⟨after, isAfter, follows⟩ := follows_changeAll own log
  refine ⟨after, isAfter, follows.own, fun name => ?_,
    ⟨follows.known, follows.known.areKeys keys⟩, follows.notices, isNotice_text_iff after⟩
  by_cases filled : name = ""
  · subst filled
    exact ⟨false, rfl, by simp⟩
  have truthy := Value.truthy_text filled
  refine ⟨_, isDisabled_of_key after rfl truthy, ?_⟩
  rw [isDisabled_of_key r rfl truthy, follows.disabled_iff]
  simp [filled]

/-- A registry in which one rule is disabled and another is not. -/
def oneDisabled : Registry :=
  ⟨[(.text "start", 0), (.text "title", 1)], [⟨true⟩, ⟨false⟩], []⟩

/-- Calls that name rules more than once, and one that is no name. -/
def severalCalls : List Change :=
  [.disable ["grade", "start", "grade"], .notice ["title"], .enable ["start"], .disable [""]]

/-- The rule that was disabled is enabled, one that was not known is disabled, and no rule without a
    name is. -/
theorem severalCalls_followed :
    Value.AreKeys oneDisabled.names ∧ oneDisabled.Own ∧
      ∃ after, oneDisabled.changeAll severalCalls = (after, .ok ()) ∧
        after.isDisabled (.text "start") = .ok false ∧
        after.isDisabled (.text "grade") = .ok true ∧
        after.isDisabled (.text "") = .ok false ∧
        Extends oneDisabled.names ["grade", "start", "grade", "start", ""] after.names ∧
        after.isNotice (.text "title") = true := by
  have keys : Value.AreKeys oneDisabled.names :=
    ⟨by simp [names, oneDisabled, Value.changeable?], by simp [names, oneDisabled, Value.same_texts]⟩
  have own : oneDisabled.Own := own_of_nodup (by simp [oneDisabled]) (by simp [oneDisabled])
  obtain ⟨after, isAfter, _, standing, ⟨known, _⟩, notices, isNotice⟩ :=
    registry_follows_its_log oneDisabled severalCalls keys own
  refine ⟨keys, own, after, isAfter, ?_, ?_, ?_, known, (isNotice "title").mpr ⟨by simp, ?_⟩⟩
  · obtain ⟨disabled, is, tells⟩ := standing "start"
    have last : LastNaming severalCalls "start" (.enable ["start"]) :=
      ⟨[_, _], [_], rfl, by simp [Change.names], by simp [Change.names]⟩
    have none : ¬∃ names, LastNaming severalCalls "start" (.disable names) :=
      fun ⟨_, disabling⟩ => nomatch last.unique disabling
    have named : ¬∀ c ∈ severalCalls, "start" ∉ c.names := by simp [severalCalls, Change.names]
    cases disabled with
    | false => exact is
    | true => exact ((tells.mp rfl).2.elim none fun unnamed => named unnamed.1).elim
  · obtain ⟨disabled, is, tells⟩ := standing "grade"
    have last : LastNaming severalCalls "grade" (.disable ["grade", "start", "grade"]) :=
      ⟨[], _, rfl, by simp [Change.names], by simp [Change.names]⟩
    rw [is, tells.mpr ⟨by simp, .inl ⟨_, last⟩⟩]
  · obtain ⟨disabled, is, tells⟩ := standing ""
    cases disabled with
    | false => exact is
    | true => simp at tells
  · simp [notices, oneDisabled, severalCalls, Change.notices]

/-- Two names for the same settings. -/
def shared : Registry := ⟨[(.text "start", 0), (.text "end", 0)], [⟨false⟩], []⟩

/-- Without settings of its own a rule is disabled by a call that does not name it; and what is set
    for a name that counts as false, though it is not empty, is not looked at. -/
theorem shared_settings_change_together :
    (¬∀ (r : Registry) (log : List Change), Value.AreKeys r.names →
      ∃ after, r.changeAll log = (after, .ok ()) ∧
        ∀ name, after.isDisabled (.text name) = .ok true →
          (∃ names, LastNaming log name (.disable names)) ∨
            (∀ c ∈ log, name ∉ c.names) ∧ r.isDisabled (.text name) = .ok true) ∧
    ¬∀ (r : Registry) (log : List Change) (name : Value), Value.AreKeys r.names →
      name ≠ .text "" → (∀ c ∈ log, ∀ other ∈ c.names, name ≠ .text other) →
      r.setting? name = some ⟨true⟩ →
      ∃ after, r.changeAll log = (after, .ok ()) ∧ after.isDisabled name = .ok true := by
  constructor
  · intro follows
    have keys : Value.AreKeys shared.names :=
      ⟨by simp [names, shared, Value.changeable?], by simp [names, shared, Value.same_texts]⟩
    obtain ⟨after, isAfter, named⟩ := follows shared [.disable ["start"]] keys
    have both : shared.changeAll [.disable ["start"]]
        = (⟨shared.rules, [⟨true⟩], []⟩, .ok ()) := by cbv
    obtain rfl := (Prod.mk.inj (both.symm.trans isAfter)).1
    have disabled : (Registry.mk shared.rules [⟨true⟩] []).isDisabled (.text "end") = .ok true := by
      cbv
    rcases named "end" disabled with ⟨names, earlier, later, isLog, listed, _⟩ | ⟨_, before⟩
    · cases earlier with
      | nil =>
        obtain ⟨rfl, _⟩ := Change.disable.inj (List.cons.inj isLog).1
        simp [Change.names] at listed
      | cons first rest => simp at isLog
    · have enabled : shared.isDisabled (.text "end") = .ok false := by cbv
      cases enabled.symm.trans before
  · intro looked
    have keys : Value.AreKeys (Registry.mk [(.int 0, 0)] [⟨true⟩] []).names :=
      ⟨by simp [names, Value.changeable?], by simp [names]⟩
    have set : (Registry.mk [(.int 0, 0)] [⟨true⟩] []).setting? (.int 0) = some ⟨true⟩ := by
      simp [setting?, reference?, settingsAt, Value.same_self (v := .int 0) rfl]
    obtain ⟨after, isAfter, disabled⟩ := looked _ [] (.int 0) keys (by simp) (by simp) set
    obtain rfl := (Prod.mk.inj isAfter).1
    cases disabled

end Registry

end RecordRules

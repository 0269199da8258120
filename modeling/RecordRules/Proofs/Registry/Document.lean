import RecordRules.Proofs.Model.Checked
import RecordRules.Proofs.Registry.Setting
import RecordRules.Proofs.Value.Sameness
import RecordRules.Registry.Basic
import RecordRules.Yaml.Document

/-!
# Documents that registries are read from

A mapping describes a registry, or is refused with the problems of its fields
(`ofFields_ok_iff`, `ofFields_error_iff`). Of other documents only those that count as true are
refused: an empty list, say, is taken for an empty file (`registry_of_document`). No two names of a
registry that is read share settings (`own_of_describes`).
-/

namespace RecordRules

namespace Registry

/-! ## What a mapping describes -/

/-- That a value gives the settings of a rule. -/
def SettingsAre (v : Value) (settings : Settings) : Prop :=
  ∃ fields : Entries, v = .dict fields ∧
    fields.FieldIs "disabled" false (fun flag b => flag.asBool = .ok b) settings.disabled

/-- That a value is a mapping of names to settings. Of several settings of one name the last ones
    count, in the place of the first. -/
def RulesAre (v : Value) (named : Named Settings) : Prop :=
  ∃ entries pairs, v = .dict entries ∧
    List.Forall₂ (fun entry pair => entry.1.asText = .ok pair.1 ∧ SettingsAre entry.2 pair.2)
      entries pairs ∧
    named = Named.ofList pairs

/-- That a value is a collection of texts. -/
def TextsAre (v : Value) (texts : List String) : Prop :=
  ∃ items, v.elements? = some items ∧
    List.Forall₂ (fun item text => item.asText = .ok text) items texts

/-- That the fields of a document describe a registry: each name has settings of its own. -/
def Describes (fields : Entries) (r : Registry) : Prop :=
  ∃ named notices, fields.FieldIs "rules" [] RulesAre named ∧
    fields.FieldIs "notice_rules" [] TextsAre notices ∧ r = ofNamed named notices

theorem settingsOf_ok_iff {v : Value} {settings : Settings} :
    settingsOf v = .ok settings ↔ SettingsAre v settings := by
  unfold settingsOf SettingsAre
  cases v with
  | dict fields =>
    obtain ⟨disabled⟩ := settings
    simp [Value.asFields, ok_bind_iff, ok_map_iff, Checked.optional_ok_iff]
  | _ => simp [Value.asFields, ok_bind_iff, Checked.refuse]

theorem rulesAre_iff (v : Value) (named : Named Settings) :
    RulesAre v named ↔ v.asNamed settingsOf = .ok named := by
  simp only [Checked.asNamed_ok_iff, settingsOf_ok_iff]
  constructor
  · rintro ⟨entries, pairs, rfl, each, rfl⟩
    exact ⟨entries, pairs, rfl, rfl, each⟩
  · rintro ⟨entries, pairs, rfl, rfl, each⟩
    exact ⟨entries, pairs, rfl, each, rfl⟩

theorem textsAre_iff (v : Value) (texts : List String) :
    TextsAre v texts ↔ v.asListOf Value.asText = .ok texts :=
  Checked.asListOf_ok_iff.symm

/-- The fields of a document are accepted just when they describe a registry. -/
theorem ofFields_ok_iff {fields : Entries} {r : Registry} :
    ofFields fields = .ok r ↔ Describes fields r := by
  unfold ofFields Describes
  simp only [Entries.FieldIs, rulesAre_iff, textsAre_iff, ok_map_iff, Prod.exists,
    Checked.both_ok_iff, Checked.optional_ok_iff, and_assoc, eq_comm (a := r)]

/-- What is read from a document shares no settings. -/
theorem own_of_describes {fields : Entries} {r : Registry} (describes : Describes fields r) :
    r.Own := by
  obtain ⟨named, notices, _, _, rfl⟩ := describes
  refine own_of_nodup (fun entry member => ?_) ?_
  · have there := List.snd_lt_of_mem_zipIdx member
    simpa [ofNamed] using there
  · simp [ofNamed, List.zipIdx_map_snd, List.nodup_range']

theorem explained_ofFields (fields : Entries) : Checked.Explained (ofFields fields) := by
  have settings (v : Value) : Checked.Explained (settingsOf v) :=
    .bind (.asFields _ v) fun fields => (Checked.Explained.optional .asBool fields _ _).map _
  have rules : Checked.Explained (fields.optional "rules" [] (Value.asNamed settingsOf)) :=
    .optional (.asNamed settings) fields _ _
  exact (rules.both (.optional (.asListOf .asText) fields _ _)).map _

/-- That the fields of a document are refused with problems. -/
structure Refused (fields : Entries) (problems : List Problem) : Prop where
  checked : ofFields fields = .error problems
  undescribed : ∀ r, ¬Describes fields r
  told : problems ≠ []
  placed : ∀ p ∈ problems,
    p.place.head? = some (.name "rules") ∨ p.place.head? = some (.name "notice_rules")

/-- Fields that describe no registry are refused with problems, each of which lies in one of the two
    fields. -/
theorem ofFields_error_iff {fields : Entries} {problems : List Problem} :
    ofFields fields = .error problems ↔ Refused fields problems := by
  refine ⟨fun refused => ⟨refused, fun r describes => ?_, ?_, fun p member => ?_⟩, Refused.checked⟩
  · rw [ofFields_ok_iff.mpr describes] at refused
    cases refused
  · rintro rfl
    exact explained_ofFields fields refused
  · unfold ofFields at refused
    cases both : Checked.both (fields.optional "rules" [] (Value.asNamed settingsOf))
        (fields.optional "notice_rules" [] (Value.asListOf Value.asText)) with
    | ok fields =>
      rw [both] at refused
      cases refused
    | error others =>
      rw [both] at refused
      obtain rfl := Except.error.inj refused
      rcases Checked.problem_of_both both member with ⟨_, inRules, there⟩ | ⟨_, inNotices, there⟩
      · exact .inl (Checked.place_of_optional inRules there)
      · exact .inr (Checked.place_of_optional inNotices there)

/-! ## What a document comes to -/

variable {path : String} {document : Value}

theorem ofDocument_dict (path : String) (fields : Entries) :
    ofDocument path (.dict fields) = Checked.orFault "Configuration" (ofFields fields) := by
  rw [ofDocument, Value.orElse_dict]

theorem ofDocument_other (other : ∀ fields, document ≠ .dict fields) :
    ofDocument path document
      = if document.truthy then .error (.notMapping path) else .ok .empty := by
  unfold ofDocument Value.orElse
  by_cases truthy : document.truthy = true
  · rw [if_pos truthy, if_pos truthy]
    cases document with
    | dict fields => exact absurd rfl (other fields)
    | _ => rfl
  · rw [if_neg truthy, if_neg truthy]
    rfl

/-- A mapping is read or refused by its fields. Any other document is refused if it counts as true;
    if not, it is taken for an empty file, whatever it is. What is read shares no settings. -/
theorem registry_of_document (path : String) (document : Value) :
    (∀ r, ofDocument path document = .ok r ↔
      (∃ fields, document = .dict fields ∧ Describes fields r) ∨
        (∀ fields, document ≠ .dict fields) ∧ document.truthy = false ∧ r = .empty) ∧
    (∀ r, ofDocument path document = .ok r → r.Own) ∧
    ∀ e, ofDocument path document = .error e ↔
      (∃ fields problems, document = .dict fields ∧ Refused fields problems ∧
          e = .model "Configuration" problems) ∨
        (∀ fields, document ≠ .dict fields) ∧ document.truthy = true ∧ e = .notMapping path := by
  by_cases mapping : ∃ fields, document = .dict fields
  · obtain ⟨fields, rfl⟩ := mapping
    rw [ofDocument_dict]
    refine ⟨?_, ?_, ?_⟩
    · intro r
      simp [Checked.orFault, ok_mapError_iff, ofFields_ok_iff]
    · intro r isRead
      exact own_of_describes (ofFields_ok_iff.mp (ok_mapError_iff.mp isRead))
    · intro e
      simp [Checked.orFault, error_mapError_iff, ofFields_error_iff, eq_comm (a := e)]
  · have other : ∀ fields, document ≠ .dict fields := fun fields same => mapping ⟨fields, same⟩
    rw [ofDocument_other other]
    by_cases truthy : document.truthy = true
    · simp [other, truthy, eq_comm]
    · simp [other, truthy, eq_comm, own_empty]

theorem read_emptyList : Yaml.read "[]\n" = .ok (.list []) := by
  have found : (Yaml.read "[]\n").toOption.any (Value.same (.list [])) = true := by decide +kernel
  cases read : Yaml.read "[]\n" with
  | error e => simp [read, Except.toOption] at found
  | ok document =>
    rw [read] at found
    obtain ⟨items, rfl, alike⟩ := Value.same_list_iff.mp found
    cases items with
    | nil => rfl
    | cons first rest => simp [Value.sameLists] at alike

/-- A file that holds an empty list holds no mapping, but it is not refused. -/
theorem emptyList_not_refused :
    ¬∀ (path text : String) (document : Value), Yaml.read text = .ok document →
      document ≠ .null → (∀ fields, document ≠ .dict fields) →
      ∃ e, ofDocument path document = .error e ∧ e.family = .declaration := by
  intro refused
  obtain ⟨e, stopped, _⟩ := refused "rules.yaml" "[]\n" (.list []) read_emptyList nofun nofun
  cases stopped

end Registry

end RecordRules

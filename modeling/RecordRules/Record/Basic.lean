import RecordRules.Record.Attribute

/-!
# Records

A record is a subject with two collections of entries, for failures and for warnings, and a
status.
-/

namespace RecordRules

/-- What is known of a record. -/
inductive Status where
  | pending
  | valid
  | invalid
  deriving DecidableEq

/-- The word for a status. -/
def Status.text : Status → String
  | .pending => "pending"
  | .valid => "valid"
  | .invalid => "invalid"

/-- The status that a word stands for. -/
def Status.ofValue (v : Value) : Checked Status :=
  match v with
  | .text "pending" => .ok .pending
  | .text "valid" => .ok .valid
  | .text "invalid" => .ok .invalid
  | _ => Checked.refuse v "literal_error" "Input should be 'pending', 'valid' or 'invalid'"

/-- A unit of data under validation. -/
structure Record where
  subject : Subject
  errors : List Entry
  warnings : List Entry
  status : Status

namespace Record

/-- The entries of a collection. -/
def entries (r : Record) : Collection → List Entry
  | .errors => r.errors
  | .warnings => r.warnings

/-- The record with an entry added to a collection. -/
def add (r : Record) (collection : Collection) (e : Entry) : Record :=
  match collection with
  | .errors => { r with errors := r.errors ++ [e] }
  | .warnings => { r with warnings := r.warnings ++ [e] }

/-- The record with entries added, each to its collection. -/
def addAll (r : Record) (filed : List (Collection × Entry)) : Record :=
  filed.foldl (fun r (collection, e) => r.add collection e) r

/-- The record with an empty collection. -/
def clear (r : Record) : Collection → Record
  | .errors => { r with errors := [] }
  | .warnings => { r with warnings := [] }

/-- A time at which a record was made; only its form is checked. -/
def asTimestamp (v : Value) : Checked Unit :=
  match v with
  | .moment _ | .date _ | .int _ | .float _ => .ok ()
  | .text s =>
    if s.length < 10 then
      Checked.refuse v "datetime_from_date_parsing"
        "Input should be a valid datetime or date, input is too short"
    else .ok ()
  | _ => Checked.refuse v "datetime_type" "Input should be a valid datetime"

/-- The entries of a collection given as a mapping. -/
def asCollection (v : Value) : Checked (List Entry) := do
  Entry.listOfFields (← v.asFields "Errors")

/-- A payload: a mapping from texts. -/
def asPayload (v : Value) : Checked Payload := v.asNamed .ok

/-- A payload or none. -/
def asPayloadOrNull : Value → Checked (Option Payload)
  | .null => .ok none
  | v => (asPayload v).map some

/-- A record from its fields. -/
def ofFields (fields : Entries) : Checked Record :=
  open Checked in
  (both (fields.required "record_id" Value.asNonemptyText)
    (both (fields.optional "source_id" none Value.asTextOrNull)
      (both (fields.optional "raw_payload" [] asPayload)
        (both (fields.optional "processed_payload" none asPayloadOrNull)
          (both (fields.optional "errors" [] asCollection)
            (both (fields.optional "warnings" [] asCollection)
              (both (fields.optional "validation_status" .pending Status.ofValue)
                (both (fields.optional "processing_timestamp" () asTimestamp)
                  (fields.optional "batch_id" none Value.asTextOrNull))))))))).map
    fun (id, source, raw, processed, errors, warnings, status, _, batch) =>
      { subject := { id, source, batch, raw, processed }, errors, warnings, status }

end Record

end RecordRules

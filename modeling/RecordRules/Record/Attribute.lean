import RecordRules.Record.Entry
import RecordRules.Record.Subject

/-!
# Attributes of records

A record is asked by name for the place where entries are to go. Two of its attributes are
collections of entries. The others hold something else, and refuse an entry each in the way of the
kind of what they hold: the data of the record, its procedures, and what every model has besides.
-/

namespace RecordRules

/-- The two collections of a record. -/
inductive Collection where
  | errors
  | warnings
  deriving DecidableEq

/-- What an attribute of a record holds. -/
inductive Destination where
  | collection (collection : Collection)
  /-- A set, which takes additions but no entries. -/
  | set
  /-- The model that the record is made by. -/
  | model
  /-- Something that takes no additions, by its kind. -/
  | other (kind : String)
  deriving DecidableEq

namespace Attribute

/-- The attributes that are procedures, of records and of models. -/
def procedures : List String :=
  ["has_attribute", "read_attribute", "read_attribute_before_type_cast", "error_collection",
    "copy", "dict", "json", "model_copy", "model_dump", "model_dump_json", "model_construct",
    "model_json_schema", "model_parametrized_name", "model_post_init", "model_rebuild",
    "model_validate", "model_validate_json", "model_validate_strings", "parse_obj", "parse_raw",
    "parse_file", "from_orm", "construct", "schema", "schema_json", "validate",
    "update_forward_refs"]

/-- The attributes that are procedures behind operators and other notation. -/
def specialProcedures : List String :=
  ["_calculate_keys", "_copy_and_set_values", "_get_value", "_iter", "_setattr_handler",
    "__class_getitem__", "__copy__", "__deepcopy__", "__delattr__", "__eq__",
    "__get_pydantic_core_schema__", "__get_pydantic_json_schema__", "__getattr__",
    "__getstate__", "__init__", "__iter__", "__pretty__", "__pydantic_init_subclass__",
    "__pydantic_on_complete__", "__replace__", "__repr__", "__repr_args__", "__repr_name__",
    "__repr_recursion__", "__repr_str__", "__rich_repr__", "__setattr__", "__setstate__",
    "__str__"]

/-- The attributes that are built-in procedures. -/
def builtins : List String :=
  ["__dir__", "__format__", "__init_subclass__", "__new__", "__reduce__", "__reduce_ex__",
    "__sizeof__", "__subclasshook__"]

/-- The attributes that are built-in operators. -/
def operators : List String :=
  ["__ge__", "__getattribute__", "__gt__", "__le__", "__lt__", "__ne__"]

/-- The attributes that are mappings. -/
def mappings : List String :=
  ["raw_payload", "payload", "model_config", "model_fields", "model_computed_fields",
    "__annotations__", "__dict__", "__private_attributes__", "__pydantic_computed_fields__",
    "__pydantic_core_schema__", "__pydantic_fields__", "__pydantic_generic_metadata__",
    "__pydantic_setattr_handlers__"]

/-- The attributes that are sets. -/
def sets : List String :=
  ["model_fields_set", "__fields_set__", "__pydantic_fields_set__", "__class_vars__"]

/-- The attributes that hold nothing. -/
def empty : List String :=
  ["model_extra", "__hash__", "__pydantic_extra__", "__pydantic_parent_namespace__",
    "__pydantic_post_init__", "__pydantic_private__", "__weakref__"]

/-- The attributes that are truth values. -/
def flags : List String :=
  ["__pydantic_complete__", "__pydantic_custom_init__", "__pydantic_root_model__"]

/-- The attributes that are texts. -/
def texts : List String :=
  ["record_id", "validation_status", "__doc__", "__module__"]

/-- The attributes of a kind that no other has. -/
def singular : Named String :=
  [("processing_timestamp", "datetime.datetime"),
    ("__slots__", "tuple"),
    ("__abstractmethods__", "frozenset"),
    ("_abc_impl", "_abc._abc_data"),
    ("__pydantic_decorators__", "DecoratorInfos"),
    ("__pydantic_serializer__", "pydantic_core._pydantic_core.SchemaSerializer"),
    ("__pydantic_validator__", "pydantic_core._pydantic_core.SchemaValidator")]

/-- The kind of what an attribute of every record holds that takes no additions. -/
def kind? (name : String) : Option String :=
  if (procedures ++ specialProcedures).contains name then some "function"
  else if builtins.contains name then some "builtin_function_or_method"
  else if operators.contains name then some "method-wrapper"
  else if mappings.contains name then some "dict"
  else if empty.contains name then some "NoneType"
  else if flags.contains name then some "bool"
  else if texts.contains name then some "str"
  else singular.lookup name

end Attribute

namespace Subject

/-- What the attribute of a record of some name holds. -/
def destination? (s : Subject) (name : String) : Option Destination :=
  let optional (present : Bool) (kind : String) : Option Destination :=
    some (.other (if present then kind else "NoneType"))
  if name = "errors" then some (.collection .errors)
  else if name = "warnings" then some (.collection .warnings)
  else if name = "source_id" then optional s.source.isSome "str"
  else if name = "batch_id" then optional s.batch.isSome "str"
  else if name = "processed_payload" then optional s.processed.isSome "dict"
  else if name = "__class__" then some .model
  else if Attribute.sets.contains name then some .set
  else (Attribute.kind? name).map Destination.other

/-- The attribute that models have and records have not, though they know of it. -/
def modelOnly : String := "__signature__"

/-- Where entries go by a given name: the errors for a name that is empty or counts as false. -/
def destination (s : Subject) (level : Value) : Except Fault Destination :=
  match level.orElse (.text "errors") with
  | .text name =>
    match s.destination? name with
    | some d => .ok d
    | none => .error (if name = modelOnly then .modelOnly name else .noRecordAttribute name)
  | v => .error (.attributeName v.kind)

/-- The collection of exactly that name. -/
def collection (s : Subject) (name : Value) : Except Fault Collection :=
  match name with
  | .text name =>
    match s.destination? name with
    | some (.collection c) => .ok c
    | _ => .error (.noCollection name)
  | v => .error (.attributeName v.kind)

end Subject

/-- The collection and the entry for a failure of a rule. -/
def Destination.file (d : Destination) (name message ruleName : Value) :
    Except Fault (Collection × Entry) :=
  match d with
  | .collection c => return (c, ← Entry.make name message [("rule_name", ruleName)])
  | .set => .error .setAddition
  | .model => .error (.noModelAttribute "add")
  | .other kind => .error (.noAttribute kind "add")

end RecordRules

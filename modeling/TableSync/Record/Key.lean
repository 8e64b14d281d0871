/-
  TableSync/Record/Key.lean
  =========================
  **Record keys** — which entity a record is about, and where it lives.

  A key generator takes a record key and a partition path out of a raw record.
  Fields are named by dotted paths into nested objects.  A simple generator
  uses one field as it is; a complex one joins several as `field:value` pairs
  and has placeholders for values that are null or empty, but refuses a record
  in which no key field has a value.
-/
import TableSync.Validation
import TableSync.Text.Split

namespace TableSync

/-! ## 1. Looking up a path -/

namespace Value

/-- The value of a field of an object. -/
def field? : Value → String → Option Value
  | object fields, name => Fields.get? fields name
  | _, _ => none

/-- The value at a path, or the first part of the path that is not there. -/
def follow : Value → List String → Except String Value
  | value, [] => .ok value
  | value, part :: rest =>
    match value.field? part with
    | some inner => inner.follow rest
    | none => .error part

/-- Null in place of the double that is no number. -/
def nanToNull (value : Value) : Value := if value.isMissing then null else value

/-- The value at a dotted path; null if it is not there. -/
def lookupOrNull (value : Value) (path : String) : Value :=
  match value.follow (Text.split '.' path) with
  | .ok found => found.nanToNull
  | .error _ => null

/-- The value at a dotted path, which must be there. -/
def lookup (value : Value) (path : String) : Except Failure Value :=
  match value.follow (Text.split '.' path) with
  | .ok found => .ok found.nanToNull
  | .error part =>
    match value with
    | object fields =>
      .error (.outside .key (part ++ " (from " ++ path ++ ") field not found in record. " ++
        "Acceptable fields were: " ++ textsLiteral (Fields.names fields)) true)
    | _ => .error (.outside .attribute "only an object has fields" false)

/-- A value that a key cannot be made of: null, or of empty text. -/
def isNullOrEmpty (value : Value) : Bool := value.isNull || value.display.isEmpty

end Value

/-! ## 2. Keys -/

/-- The entity that a record is about. -/
structure RecordKey where
  recordKey : String
  partitionPath : String := ""
deriving DecidableEq, Repr, Inhabited

/-- A key from its description; the record key cannot be empty. -/
def RecordKey.read (record : Record) : Checked RecordKey :=
  .mk <$> Reader.required record "record_key" (Reader.textFrom 1)
    <*> Reader.optional record "partition_path" "" Reader.text

/-- A key as a value. -/
def RecordKey.toValue (key : RecordKey) : Value :=
  .object [("record_key", .text key.recordKey), ("partition_path", .text key.partitionPath)]

/-- How keys are taken out of records. -/
inductive KeyGenerator where
  /-- One key field, one partition field. -/
  | simple (keyField : String) (partitionField : Option String)
  /-- One key field, a single empty partition. -/
  | nonPartitioned (keyField : String)
  /-- Several key fields, any number of partition fields. -/
  | complex (keyFields : List String) (partitionFields : List String)
deriving DecidableEq, Repr, Inhabited

namespace KeyGenerator

/-- The name of a generator in failures and settings. -/
def name : KeyGenerator → String
  | simple .. => "SimpleKeyGenerator"
  | nonPartitioned .. => "NonPartitionedKeyGenerator"
  | complex .. => "ComplexKeyGenerator"

/-- The partition of records without a partition value. -/
def defaultPartition : String := "default"

/-- What stands for null in a complex key. -/
def nullPlaceholder : String := "__null__"

/-- What stands for empty text in a complex key. -/
def emptyPlaceholder : String := "__empty__"

/-- The partition path that one field gives; an empty field name gives the empty partition. -/
def partitionPart (record : Value) (field : String) : String :=
  if field.isEmpty then ""
  else
    let value := record.lookupOrNull field
    if value.isNullOrEmpty then defaultPartition else value.display

/-- The partition path of an optional field. -/
def partitionPath (record : Value) : Option String → String
  | none => ""
  | some field => partitionPart record field

/-- A key field with its value, or with a placeholder. -/
def keyPart (record : Value) (field : String) : String :=
  let value := record.lookupOrNull field
  if value.isNull then field ++ ":" ++ nullPlaceholder
  else if value.display.isEmpty then field ++ ":" ++ emptyPlaceholder
  else field ++ ":" ++ value.display

/-- The key of a record by one field. -/
def singleKey (generator : KeyGenerator) (keyField : String) (partitionField : Option String)
    (record : Value) (now : Timestamp) : Except Failure RecordKey :=
  let value := record.lookupOrNull keyField
  if value.isNullOrEmpty then
    .error (.report .keyGeneration ("Record key field '" ++ keyField ++ "' cannot be null or empty")
      [("field_name", .text keyField), ("key_generator", .text generator.name)] now none)
  else .ok ⟨value.display, partitionPath record partitionField⟩

/-- The key of a record. -/
def key (generator : KeyGenerator) (record : Value) (now : Timestamp) : Except Failure RecordKey :=
  match generator with
  | simple keyField partitionField => singleKey generator keyField partitionField record now
  | nonPartitioned keyField => singleKey generator keyField none record now
  | complex keyFields partitionFields =>
    if keyFields.all fun field => (record.lookupOrNull field).isNullOrEmpty then
      .error (.report .keyGeneration ("Record key values for fields " ++ Value.textsLiteral keyFields ++
          " cannot all be null or empty")
        [("field_name", .text (",".intercalate keyFields)), ("key_generator", .text generator.name)] now none)
    else .ok ⟨",".intercalate (keyFields.map (keyPart record)),
      "/".intercalate (partitionFields.map (partitionPart record))⟩

/-! ## 3. Choosing a generator -/

/-- A complex generator; it needs a key field. -/
def ofFields (keyFields partitionFields : List String) : Except Failure KeyGenerator :=
  if keyFields.isEmpty then
    .error (.outside .value "ComplexKeyGenerator needs at least one record key field" true)
  else .ok (complex keyFields partitionFields)

/-- The generator for comma separated settings. -/
def ofSettings (keySetting : String) (partitionSetting : Option String) : Except Failure KeyGenerator :=
  let keyFields := Text.splitNonBlank ',' keySetting
  let partitionFields := Text.splitNonBlank ',' (partitionSetting.getD "")
  match keyFields, partitionFields with
  | [keyField], [] => .ok (nonPartitioned keyField)
  | [keyField], [partitionField] => .ok (simple keyField (some partitionField))
  | [], [] | [], [_] => .error (.outside .index "list index out of range" false)
  | _, _ => ofFields keyFields partitionFields

end KeyGenerator

end TableSync

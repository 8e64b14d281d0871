/-
  TableSync/Schema.lean
  =====================
  **Schemas** — the columns of a table and where their description comes from.

  A `TableSchema` lists columns by name, type and whether a row may lack a
  value.  A `SchemaProvider` holds the schema of what is read and, if it
  differs, the one of what is written; the latter wins when rows are written.
  A provider is given up front, read from files, or derived from a batch.
-/
import TableSync.Validation
import TableSync.Json.Reader
import TableSync.World

namespace TableSync

/-! ## 1. Columns -/

/-- A column of a table. -/
structure SchemaField where
  name : String
  type : String := "string"
  nullable : Bool := true
deriving DecidableEq, Repr, Inhabited

/-- The columns of a table. -/
structure TableSchema where
  name : String := "record"
  fields : List SchemaField := []
deriving DecidableEq, Repr, Inhabited

namespace SchemaField

/-- A column from its description. -/
def read (record : Record) : Checked SchemaField :=
  .mk <$> Reader.required record "name" (Reader.textFrom 1)
    <*> Reader.optional record "type" "string" Reader.text
    <*> Reader.optional record "nullable" true Reader.truth

/-- A column as a value. -/
def toValue (field : SchemaField) : Value :=
  .object [("name", .text field.name), ("type", .text field.type), ("nullable", .bool field.nullable)]

end SchemaField

namespace TableSchema

/-- The names of the columns. -/
def fieldNames (schema : TableSchema) : List String := schema.fields.map (·.name)

/-- The columns in which every row needs a value. -/
def requiredFields (schema : TableSchema) : List String :=
  (schema.fields.filter fun field => !field.nullable).map (·.name)

/-- The first column of a name. -/
def field? (schema : TableSchema) (name : String) : Option SchemaField :=
  schema.fields.find? fun field => field.name == name

/-- A schema from its description. -/
def read (record : Record) : Checked TableSchema :=
  .mk <$> Reader.optional record "name" "record" Reader.text
    <*> Reader.optional record "fields" [] (Reader.list (Reader.described SchemaField.read))

/-- A schema as a value. -/
def toValue (schema : TableSchema) : Value :=
  .object [("name", .text schema.name), ("fields", .list (schema.fields.map SchemaField.toValue))]

/-- An optional schema as a value. -/
def toValue? : Option TableSchema → Value
  | none => .null
  | some schema => schema.toValue

end TableSchema

/-! ## 2. Providers -/

/-- The schemas of what is read and of what is written. -/
structure SchemaProvider where
  source : TableSchema
  target : Option TableSchema := none
deriving DecidableEq, Repr, Inhabited

namespace SchemaProvider

/-- A provider from its description. -/
def read (record : Record) : Except Failure SchemaProvider := do
  let source ← (Reader.described TableSchema.read ((Fields.get? record "source").getD .null)).toExcept "TableSchema"
  match Fields.get? record "target" with
  | none | some .null => return ⟨source, none⟩
  | some target => return ⟨source, some (← (Reader.described TableSchema.read target).toExcept "TableSchema")⟩

/-- The schema that rows are written with. -/
def writeSchema (provider : SchemaProvider) : TableSchema := provider.target.getD provider.source

end SchemaProvider

/-! ## 3. Schema files -/

namespace TableSchema

/-- The schema in a text, or why there is none. -/
def parse (content : String) : Except Failure TableSchema :=
  match Json.read? content with
  | none => .error (.outside .jsonDecoding "the text is not a JSON document" false)
  | some v => (Reader.described read v).toExcept "TableSchema"

/-- The schema in a file whose text, if the file is there, is known. -/
def ofFile (path : String) (content : Option String) (now : Timestamp) : Except Failure TableSchema :=
  let parsed : Except Failure TableSchema := match content with
    | none => .error (.outside .fileNotFound ("No such file: " ++ Text.quoted path) false)
    | some s => parse s
  match parsed with
  | .ok schema => .ok schema
  | .error cause =>
    .error (.report .configuration ("Unable to read schema file " ++ path)
      [("schema_file", .text path)] now (some cause))

end TableSchema

/-- A file of schemas: its path and its text, if the file is there. -/
structure SchemaFile where
  path : String
  content : Option String
deriving Repr, Inhabited

/-- The provider of a source schema and, if a file is named for it, a target schema. -/
def SchemaProvider.ofFiles (source : SchemaFile) (target : Option SchemaFile) (now : Timestamp) :
    Except Failure SchemaProvider := do
  let sourceSchema ← TableSchema.ofFile source.path source.content now
  match target with
  | none => return ⟨sourceSchema, none⟩
  | some file => return ⟨sourceSchema, some (← TableSchema.ofFile file.path file.content now)⟩

end TableSync

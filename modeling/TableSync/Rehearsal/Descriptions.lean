/-
  TableSync/Rehearsal/Descriptions.lean
  =====================================
  **Parts of a rehearsal from descriptions** — what a script says about keys,
  schemas, transformations and catalogs, made into the parts themselves.
-/
import TableSync.Rehearsal.Sources
import TableSync.Round.Run

namespace TableSync.Rehearsal

/-- The table and the path of a rehearsal that names none. -/
def defaultTable : String := "events"
def defaultPath : String := "/t/events"

/-- The texts under a name of a description. -/
def textsUnder (value : Value) (name : String) : List String :=
  match value.part? name with
  | some (.list items) => items.map fun item => (textOf? item).getD ""
  | _ => []

/-- The object under a name of a description. -/
def recordUnder (value : Value) (name : String) : Record :=
  match value.part? name with
  | some (.object fields) => fields
  | _ => []

/-- A key generator: one of a named kind, or the one for comma separated settings. -/
def generatorOf (value : Value) : Except Failure KeyGenerator :=
  let keyField := textUnder value "record_key_field"
  let partitionField := textUnder? value "partition_path_field"
  match textUnder value "type" with
  | "simple" => .ok (.simple keyField partitionField)
  | "complex" => KeyGenerator.ofFields (textsUnder value "record_key_fields") (textsUnder value "partition_path_fields")
  | "nonpartitioned" => .ok (.nonPartitioned keyField)
  | _ => KeyGenerator.ofSettings keyField partitionField

/-- A schema provider, if there is one. -/
def providerOf : Value → Except Failure (Option SchemaProvider)
  | .object fields => some <$> SchemaProvider.read fields
  | _ => .ok none

mutual

/-- A transformation: a filter, a chain, or one that is asked for by names. -/
def transformationOf (now : Timestamp) : Value → Except Failure (Option Transformation)
  | .object [("query", text)] => .ok (some (.filter (textOf? text)))
  | .object [("chain", .list steps)] => do return some (.chain (← transformationsOf now steps))
  | .object [("load", names)] =>
    Transformation.ofNames (textsUnder (.object [("load", names)]) "load") now
  | _ => .ok none

/-- The transformations of a chain. -/
def transformationsOf (now : Timestamp) : List Value → Except Failure (List Transformation)
  | [] => .ok []
  | step :: rest => do
    let first ← transformationOf now step
    return first.toList ++ (← transformationsOf now rest)

end

/-- A catalog service. -/
def catalogOf (value : Value) : HttpCatalog :=
  .ofAddress ((textUnder? value "catalog_url").getD "https://catalog.example.com")
    ((textUnder? value "database").getD "default") (textUnder? value "api_key")

/-- Publishing the table at a path to a catalog, if there is one. -/
def triggerOf (value : Value) (basePath : String) : Option (CatalogTrigger Rehearsal) :=
  match value with
  | .object _ => some {
      tool := (catalogOf value).syncTable transport
      describe := tableStore.describeTable
      basePath }
  | _ => none

/-- A configuration, over those of the table of the rehearsal. -/
def configOf (fields : Record) : Except Failure SyncConfig :=
  SyncConfig.ofRecord (Fields.putAll [("target_table", .text defaultTable), ("target_base_path", .text defaultPath)] fields)

/-- The source that is described: a script unless it is a directory or a service. -/
def sourceOf (value : Value) : Except Failure (Source Rehearsal) := do
  match textUnder value "type" with
  | "csv" => return (csvDirectory "csv" "<dir>/in" "*.csv").source
  | "http" => return (apiOf value).source transport
  | _ => return scripted (textUnder value "format") (← providerOf ((value.part? "schema").getD .null))

/-- The parts of the round that is described, with a configuration. -/
def partsOf (value : Value) (config : Record) (now : Timestamp) : Except Failure (RoundParts Rehearsal) := do
  let config ← configOf config
  let part (name : String) : Value := (value.part? name).getD .null
  let generator ← if (part "generator").isNull then pure none else some <$> generatorOf (part "generator")
  return {
    config
    source := ← sourceOf (part "source")
    store := tableStore
    userProvider := ← providerOf (part "schema")
    transformation := ← transformationOf now (part "transformer")
    generator
    catalog := triggerOf (part "catalog") config.targetBasePath
    recorder := if (part "recorder").isBlank then none else some recorder
    onClientCreated := announce }

end TableSync.Rehearsal

/-
  TableSync/Catalog.lean
  ======================
  **The catalog** — telling an external service what a table looks like.

  After a commit of records the table's columns and partitions are published.
  Publishing is a courtesy: its failure is logged and handed back as a text,
  and never undoes the commit.
-/
import TableSync.Http.Exchange
import TableSync.Store.Client

namespace TableSync

/-! ## 1. A catalog reached by requests -/

/-- A catalog service: its address, the database in it, and a key. -/
structure HttpCatalog where
  url : String
  database : String := "default"
  apiKey : Option String := none
deriving DecidableEq, Repr, Inhabited

namespace HttpCatalog

/-- Drop slashes at the end of an address. -/
def withoutTrailingSlashes (address : String) : String :=
  String.ofList (address.toList.reverse.dropWhile (· == '/')).reverse

/-- A catalog service at an address. -/
def ofAddress (address : String) (database : String) (apiKey : Option String) : HttpCatalog :=
  ⟨withoutTrailingSlashes address, database, apiKey⟩

/-- The address of a table in the catalog. -/
def tableUrl (catalog : HttpCatalog) (tableName : String) : String :=
  catalog.url ++ "/databases/" ++ catalog.database ++ "/tables/" ++ tableName

/-- What is published about a table. -/
def published (description : TableDescription) : Value :=
  .object [
    ("table_name", .text description.tableName),
    ("location", .text description.basePath),
    ("schema", description.schema.getD .null),
    ("partitions", .list (description.partitions.map .text))]

/-- The request that publishes a table. -/
def request (catalog : HttpCatalog) (description : TableDescription) : Http.Request :=
  { method := .put
    url := Http.address (catalog.tableUrl description.tableName)
    authorization := Http.bearer catalog.apiKey
    contentType := some Http.jsonContent
    body := some (published description) }

/-- A failure to publish a table. -/
def unpublished (catalog : HttpCatalog) (tableName : String) (now : Timestamp) (cause : Failure) : Failure :=
  .report .catalogSync ("Catalog sync failed for " ++ tableName)
    [("table_name", .text tableName), ("catalog_url", .text (catalog.tableUrl tableName))] now (some cause)

/-- Publish a table; a failure of the exchange is a failure to publish. -/
def syncTable {σ : Type} (catalog : HttpCatalog) (transport : Http.Transport σ) (description : TableDescription) :
    Effect σ Unit := do
  let exchange : Effect σ Unit := do
    let response ← transport (catalog.request description)
    response.requireSuccess
  match ← exchange.attempt with
  | .ok () => return ()
  | .error failure =>
    if failure.isOf (.outside .http) then
      Effect.fail (catalog.unpublished description.tableName (← Effect.now) failure)
    else Effect.fail failure

end HttpCatalog

/-! ## 2. Publishing after a commit -/

/-- A client of a catalog: it publishes one table. -/
abbrev CatalogTool (σ : Type) := TableDescription → Effect σ Unit

/-- Publishing the table at a path, unless switched off. -/
structure CatalogTrigger (σ : Type) where
  tool : CatalogTool σ
  describe : String → Effect σ TableDescription
  basePath : String
  enabled : Bool := true

namespace CatalogTrigger

variable {σ : Type}

/-- A failure of any kind as a failure of publishing. -/
def asCatalogFailure (basePath : String) (now : Timestamp) (failure : Failure) : Failure :=
  if failure.isOf (.fault .catalogSync) then failure
  else .report .catalogSync "Catalog sync failed" [("base_path", .text basePath)] now (some failure)

/-- Describe the table and publish it. -/
def publish (trigger : CatalogTrigger σ) : Effect σ Unit := do
  let description ← trigger.describe trigger.basePath
  Effect.log .info .catalog ("Syncing target table with catalog table(" ++ description.tableName ++
    "). basePath :" ++ trigger.basePath)
  trigger.tool description

/-- Publish the table; the answer is the text of the failure if there was one. -/
def sync (trigger : CatalogTrigger σ) : Effect σ (Option String) := do
  if trigger.enabled then
    match ← trigger.publish.attempt with
    | .ok () => return none
    | .error failure =>
      let failure := asCatalogFailure trigger.basePath (← Effect.now) failure
      Effect.logWith .error .catalog ("Catalog sync failed: " ++ failure.text) failure.toValue
      return some failure.text
  else return none

end CatalogTrigger

end TableSync

import EntityCompiler.Document.Access
import EntityCompiler.Entity.Basic

/-!
# Reading configuration tables

Of a configuration table only the rows are kept: all of them if the table can have several, else the
first one. A table for one row that has none is left out.
-/

namespace EntityCompiler.Document

/-- The rows of a table, if they are a list of objects. -/
def rows? (table : Fields) : Option (List Value) := do
  let rows ← (table.getD "rows").items?
  if rows.all (·.fields?.isSome) then some rows else none

/-- What is kept of a table. -/
def tableRows (name : String) (raw : Value) : Outcome (Option (String × Value)) :=
  match raw.fields?.bind fun table => (rows? table).map (table, ·) with
  | some (table, rows) =>
    if flag table "isMultiRow" then .ok (some (name, .list rows))
    else .ok (rows.head?.map (name, ·))
  | none => Outcome.problem (below "configurationTables" [name]) (.rowsNotObjects name)

/-- The configuration tables of a document. -/
def configurationTables (raw : Fields) : Outcome Fields := do
  let tables ← fields raw "configurationTables" none
  let (kept, problems) ← Outcome.gather (fun (name, table) => tableRows name table) tables
  if problems.isEmpty then return kept.filterMap id
  else .error (.problem (.dueTo "configurationTables" .configurationTables problems))

/-- The schema of a configuration table. -/
def tableDefinition (name : String) (raw : Value) : Outcome ConfigurationTableDefinition :=
  match raw.fields?.bind fun table => (text? table "dataShapeName").map (table, ·) with
  | some (table, dataShape) =>
    .ok ⟨name, text? table "description", dataShape, flag table "isMultiRow"⟩
  | none => Outcome.problem (below "configurationTableDefinitions" [name]) .noTableShape

/-- The schemas of the configuration tables of a document. -/
def configurationTableDefinitions (raw : Fields) : Outcome (List ConfigurationTableDefinition) := do
  let tables ← fields raw "configurationTableDefinitions" none
  let (definitions, problems) ← Outcome.gather
    (fun (name, table) => tableDefinition name table) tables
  if problems.isEmpty then return definitions
  else .error (.problem (.dueTo "configurationTableDefinitions" .tableDefinitions problems))

end EntityCompiler.Document

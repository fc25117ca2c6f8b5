import Mathlib
import RecordStore.Proofs.Query.Pages
import RecordStore.Proofs.Store.Alone

/-!
A store answers a query with the records that satisfy its terms.  The terms speak of the records alone;
which tables and index objects there are, in which state the store is and which way its compiler takes
makes no difference.
-/
namespace RecordStore
open Sql Database Index

/-- The records that a store can be given: objects with their members sorted, each name once, on every
level. -/
def Formed (r : Record) : Prop :=
  (Json.object r).WellFormed

section
variable {s : Store} {w : Workspace} {T : String} {n : UInt32} {S : Schema} {ix : IndexDefinition}
  {q : Query} {terms : List Term} {cs : List Condition}

theorem ReachedAlone.coherent_of_formed (h : ReachedAlone s Formed w) :
    Coherent s.settings.stem Formed w.database :=
  h.coherent fun _ hr => hr

end

/-! ### A store with a member -/

/-- Names differ without regard to case, and ages need not. -/
def memberSchema : Schema where
  attributes := [⟨"name", .smallString, none, true, .unchanged⟩, ⟨"age", .i32, none, true, .unchanged⟩]
  indexes := [⟨"by_name", [⟨"name", .ascending, .lowercase⟩], true⟩,
    ⟨"by_age", [⟨"age", .ascending, .unchanged⟩], false⟩]
  sound := by decide

def memberStore : Store := ⟨.default, ⟨"password", "salt", 0, 1⟩⟩

def memberRecord : Json :=
  .object [("age", .integer ⟨41, by decide, by decide⟩), ("name", .string "Ada")]

/-- The store with a member, before there is a schema. -/
def earlyWorkspace : Workspace :=
  (memberStore.perform (.create "member" memberRecord) ⟨.empty, .fresh⟩).2

/-- The store after the schema was published, so that the member has been entered in both indexes. -/
def memberWorkspace : Workspace :=
  (memberStore.perform (.createSchema "member" memberSchema) earlyWorkspace).2

theorem reachedAlone_earlyWorkspace : ReachedAlone memberStore Formed earlyWorkspace := by
  refine ReachedAlone.fresh.perform (.create "member" memberRecord) ?_
  rintro r ⟨⟩
  exact ⟨trivial, by decide, trivial, by decide, trivial⟩

theorem reachedAlone_memberWorkspace : ReachedAlone memberStore Formed memberWorkspace :=
  reachedAlone_earlyWorkspace.perform (.createSchema "member" memberSchema) trivial

theorem published_memberSchema : Published memberWorkspace.database "member" 1 memberSchema := by
  have hdone : (memberStore.createSchema "member" memberSchema earlyWorkspace).1 = .ok () := by
    decide +kernel
  have htext := reachedAlone_earlyWorkspace.faithful.published_of_createSchema
    reachedAlone_earlyWorkspace.coherent_of_formed hdone
  exact ⟨by rwa [memberWorkspace, perform_createSchema], by decide +kernel⟩

/-- The members of seven years and older. -/
def memberQuery : Query :=
  ⟨[⟨"age", .ge, .scalar (.int 7)⟩], .ascending, none, none, false⟩

theorem exists_of_isOk {ε α : Type} {r : Except ε α} (h : r.isOk = true) : ∃ a, r = .ok a := by
  cases r with
  | ok a => exact ⟨a, rfl⟩
  | error e => cases h

end RecordStore

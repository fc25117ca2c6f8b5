import Mathlib
import RecordStore.Proofs.Catalogue.Resolved

/-!
Scans.  The list whose parts are the pages of a scan has the entries that can be seen, in the order in
which they stand.
-/
namespace RecordStore
open Database

namespace Catalogue.Describes
variable {c : Catalogue} {s : Store} {w : Workspace} {T : String} {n : UInt32}

/-- The records of a type that a scan shows, as they are stored. -/
def shown (db : Database) (n : UInt32) (q : Bool) : List RecordRow :=
  db.records.filter fun row => row.typeId == typeWord n && row.held.listed q

theorem listed_eq_shown (h : c.Describes s w) (hn : w.database.typeId? T = .ok (some n)) (q : Bool) :
    c.listed T .ascending q = (shown w.database n q).map (RecordRow.key T) := by
  obtain ⟨-, hentries⟩ := h.depicts.holding_of_typeId? hn
  have hcomp : (fun p : Nat × Entry => p.2.listed q) ∘
      (fun row : RecordRow => (row.id.toInt.toNat, row.held)) = fun row => row.held.listed q := rfl
  rw [listed, Holding.listed, hentries, heldEntries, List.filter_map, List.map_map, List.map_map, hcomp,
    List.filter_filter, shown]
  congr 1
  apply List.filter_congr
  intro row _
  exact Bool.and_comm _ _

theorem listed_iff (h : c.Describes s w) {row : RecordRow} (hrow : row ∈ w.database.records) (q : Bool) :
    row.held.listed q = true ↔ row.state ≠ .deleted ∧ (q = true ∨ row.state ≠ .quarantined) := by
  show Entry.listed q ⟨row.record, row.state.standing⟩ = true ↔ _
  rcases (h.coherent.records.each row hrow).state with hstate | hstate | hstate <;> rw [hstate] <;>
    simp [Entry.listed, RecordState.standing]

/-- The records that are shown are stored in the order of their numbers. -/
theorem lists_shown (h : c.Describes s w) (n : UInt32) (q : Bool) :
    Lists q .ascending (w.database.liveRecords n) (shown w.database n q) where
  mem row := by
    rw [shown, List.mem_filter, mem_liveRecords, Bool.and_eq_true, beq_iff_eq]
    constructor
    · rintro ⟨hrow, htype, hlisted⟩
      obtain ⟨hstate, hseen⟩ := (h.listed_iff hrow q).1 hlisted
      exact ⟨⟨hrow, htype, hstate⟩, hseen⟩
    · rintro ⟨⟨hrow, htype, hstate⟩, hseen⟩
      exact ⟨hrow, htype, (h.listed_iff hrow q).2 ⟨hstate, hseen⟩⟩
  ordered := by
    have hascending := (List.pairwise_map.1 h.counted.ascending).filter
      fun row => row.typeId == typeWord n && row.held.listed q
    apply hascending.imp_of_mem
    intro a b ha hb hlt
    -- all of them are records of one type
    have htype (row : RecordRow) (hrow : row ∈ shown w.database n q) : row.typeId = typeWord n := by
      have hboth := (List.mem_filter.1 hrow).2
      rw [Bool.and_eq_true, beq_iff_eq] at hboth
      exact hboth.1
    exact hlt ((htype a ha).trans (htype b hb).symm)

/-- The list of a scan is what the catalogue lists. -/
theorem listed_eq (h : c.Describes s w) (hn : w.database.typeId? T = .ok (some n)) {d : Direction}
    {q : Bool} {answer : List RecordRow} (hlists : Lists q d (w.database.liveRecords n) answer) :
    answer.map (RecordRow.key T) = c.listed T d q := by
  cases d with
  | ascending => rw [hlists.unique (h.lists_shown n q), h.listed_eq_shown hn]
  | descending =>
    have hreverse : c.listed T .descending q = (c.listed T .ascending q).reverse := rfl
    rw [hlists.unique ((h.lists_shown n q).reverse), hreverse, h.listed_eq_shown hn,
      List.map_reverse]

end Catalogue.Describes

end RecordStore

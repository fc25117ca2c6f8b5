import Mathlib
import RecordStore.Proofs.Catalogue.Operations

/-!
Runs of stores that share a database.  Their answers are those of one catalogue, to which the operations
happen one after the other, and this holds for operations of any kind, in any order and with any of the
stores.
-/
namespace RecordStore
open Deployment

namespace Catalogue
variable {c : Catalogue} {d : Deployment}

/-- A catalogue describes what each store of a deployment works on. -/
def DescribesAll (c : Catalogue) (d : Deployment) : Prop :=
  ∀ i, c.Describes d.store (d.workspace i)

theorem describesAll_opened (s : Store) (durable : Bool) (stores : Nat) :
    Catalogue.empty.DescribesAll (opened s durable stores) := by
  intro i
  exact ⟨coherent_empty _ _, counted_empty, depicts_empty, allDerive_opened s durable stores i⟩

/-- What one of the stores does is a step, and the catalogue after it describes what each of them works
on then. -/
theorem DescribesAll.perform (h : c.DescribesAll d) (hstem : '"' ∉ d.store.settings.stem.toList)
    (i : Nat) {o : Operation} (ho : o.Admits Plain) :
    ∃ c', Catalogue.Step d.store c o (d.perform i o).1 c' ∧ c'.DescribesAll (d.perform i o).2 := by
  obtain ⟨c', hstep, hdepicts⟩ := (h i).perform hstem ho
  obtain ⟨hcoherent, hcounted⟩ :=
    (keptBy_counted (fun r hr => hr.1.1) rfl).perform ho ⟨(h i).coherent, (h i).counted⟩
  have hderive : d.AllDerive := fun j => (h j).derives
  refine ⟨c', hstep, ?_⟩
  intro j
  exact ⟨hcoherent, hcounted, hdepicts, hderive.perform i o j⟩

/-- Each operation of a run is a step of the catalogue that the one before it has left. -/
theorem DescribesAll.run {ops : List (Nat × Operation)} : ∀ {c : Catalogue} {d : Deployment},
    c.DescribesAll d → '"' ∉ d.store.settings.stem.toList → (∀ p ∈ ops, p.2.Admits Plain) →
      ∃ c', Explains d.store c (ops.map (·.2)) (d.run ops).1 c' ∧ c'.DescribesAll (d.run ops).2 := by
  induction ops with
  | nil =>
    intro c d h _ _
    exact ⟨c, .nil, h⟩
  | cons p ops ih =>
    intro c d h hstem hops
    obtain ⟨c₁, hstep, h₁⟩ := h.perform hstem p.1 (hops p List.mem_cons_self)
    have hrest : ∀ q ∈ ops, q.2.Admits Plain := fun q hq => hops q (List.mem_cons_of_mem p hq)
    obtain ⟨c', hexplains, h'⟩ := ih h₁ hstem hrest
    exact ⟨c', .cons hstep hexplains, h'⟩

end Catalogue

/-- Stores under a stem without quote marks that share a database behave as one catalogue, as long as
the records that they are given are plain: from the empty catalogue on every operation is a step, and
the catalogue at the end is that of the database. -/
theorem refines_catalogue (s : Store) (durable : Bool) (stores : Nat)
    (hstem : '"' ∉ s.settings.stem.toList) {ops : List (Nat × Operation)}
    (hops : ∀ p ∈ ops, p.2.Admits Plain) :
    ∃ c, Catalogue.Explains s .empty (ops.map (·.2)) ((opened s durable stores).run ops).1 c ∧
      c.Depicts ((opened s durable stores).run ops).2.database := by
  obtain ⟨c, hexplains, hall⟩ := (Catalogue.describesAll_opened s durable stores).run hstem hops
  exact ⟨c, hexplains, (hall 0).depicts⟩

/-- A member that two stores have to do with. -/
def memberOps : List (Nat × Operation) :=
  [(0, .create "member" memberRecord), (1, .createSchema "member" memberSchema),
    (0, .quarantine "member:1"), (1, .retrieve "member:1"), (0, .release "member:1"),
    (1, .dropSchema "member"), (0, .update "member:1" (.object [])),
    (1, .scan "member" .ascending none none true), (0, .delete "member:1"), (1, .clear "member")]

theorem refines_catalogue_member :
    ∃ c, Catalogue.Explains memberStore .empty (memberOps.map (·.2))
        ((opened memberStore false 2).run memberOps).1 c ∧
      c.Depicts ((opened memberStore false 2).run memberOps).2.database := by
  apply refines_catalogue memberStore false 2
  · decide
  · have hmember : ∀ r, memberRecord.record? = some r → Plain r := by
      intro r hr
      refine ⟨readable_memberRecord r (Option.mem_toList.2 hr), ?_⟩
      obtain rfl := Option.some.inj hr
      exact ⟨trivial, trivial, trivial⟩
    have hempty : ∀ r, (Json.object []).record? = some r → Plain r := by
      intro r hr
      obtain rfl := Option.some.inj hr
      exact ⟨⟨by simp [Json.WellFormed, Json.MembersWellFormed], by decide⟩, trivial⟩
    simp only [memberOps, List.forall_mem_cons, Operation.Admits, true_and]
    exact ⟨hmember, hempty, by simp⟩

end RecordStore

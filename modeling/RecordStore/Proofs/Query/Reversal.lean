import Mathlib
import RecordStore.Proofs.Query.Paths
import RecordStore.Proofs.Query.Scan

/-!
The direction of an answer.  Every column that an answer is sorted by changes its direction with that of
the query, the record number included, and no two records share a place; so one direction gives the keys
of the other one backwards.
-/
namespace RecordStore
open Sql Database Index

/-- A page with its keys in the opposite order. -/
def Page.reversed (p : Page) : Page :=
  ⟨p.keys.reverse, p.nextToken⟩

/-! ### One answer in each direction -/

namespace Datum

theorem Less.asymm {x y : Datum} (hxy : x.Less y) : ¬ y.Less x := by
  intro hyx
  cases x <;> cases y <;> simp only [Less] at hxy hyx
  · exact Bool.false_ne_true (hyx.1.symm.trans hxy.2)
  · exact lt_asymm hxy hyx
  · exact List.lt_asymm hxy hyx

instance asymm_before : Std.Asymm Before where
  asymm x y hxy hyx := by
    cases x <;> cases y
    · exact hxy
    · exact hyx
    · exact hxy
    · exact Less.asymm hxy hyx

end Datum

section
variable {T : String} {n : UInt32} {s : Schema} {ix : IndexDefinition} {q : Query}
  {records answer answer' : List RecordRow} {db : Database} {settings : StoreSettings}
  {accepted : Record → Prop}

theorem Precedes.asymm {x y : RecordRow} (h : Precedes s ix x y) : ¬ Precedes s ix y x :=
  List.Lex.asymm (r := Datum.Before) |>.asymm _ _ h

theorem Answers.unique (h : Answers T s ix q records answer)
    (h' : Answers T s ix q records answer') : answer = answer' :=
  q.direction.eq_of_toward (fun _ _ => Precedes.asymm) h.nodup h'.nodup
    (fun record => (h.mem record).trans (h'.mem record).symm) h.ordered h'.ordered

theorem Answers.reverse
    (h : Answers T s ix { q with direction := .ascending } records answer) :
    Answers T s ix { q with direction := .descending } records answer.reverse where
  mem record := by
    rw [List.mem_reverse]
    exact h.mem record
  nodup := List.nodup_reverse.2 h.nodup
  ordered := List.pairwise_reverse.2 h.ordered

/-! ### Pages -/

theorem reversed_part (answer : List RecordRow) :
    Page.part (answer.reverse.map (RecordRow.key T)) 0 none =
      (Page.part (answer.map (RecordRow.key T)) 0 none).reversed := by
  rw [Page.part, Page.part, Page.reversed, UInt64.toNat_zero, List.drop_zero, List.drop_zero,
    List.map_reverse]

/-- A query of a coherent database gives the same in both directions, one of them backwards. -/
theorem Coherent.queryIndex_reversed (h : Coherent settings.stem accepted db)
    (hp : Published db T n s) (index : String) (q : Query) :
    db.queryIndex settings T s index
        { q with direction := .descending, token := none, pageSize := none } =
      (db.queryIndex settings T s index
        { q with direction := .ascending, token := none, pageSize := none }).map Page.reversed := by
  rcases requireIndex_cases s T index with ⟨ix, hix, rfl⟩ | hindex
  · rcases q.compiles_or ⟨T, s, ix, names settings.stem n ix.name⟩ with ⟨cs, hq⟩ | ⟨e, he⟩
    · have hway (d : Direction) : ({ q with direction := d } : Query).Compiles
          ⟨T, s, ix, names settings.stem n ix.name⟩ cs := ⟨hq.stray, hq.unbound, hq.conditions⟩
      obtain ⟨answer, hanswer, hpages⟩ := h.queryIndex_part hp hix (hway .ascending)
      obtain ⟨answer', hanswer', hpages'⟩ := h.queryIndex_part hp hix (hway .descending)
      obtain rfl := hanswer'.unique hanswer.reverse
      have hpage := hpages none none 0 none rfl rfl
      have hpage' := hpages' none none 0 none rfl rfl
      simp only at hpage hpage'
      rw [hpage, hpage', reversed_part]
      rfl
    · rw [queryIndex_of_error hix hp.requireTypeId (he .descending none none _),
        queryIndex_of_error hix hp.requireTypeId (he .ascending none none _)]
      rfl
  · unfold queryIndex
    rw [hindex]
    rfl

/-- So does a scan. -/
theorem Coherent.scan_reversed {stem : String} (h : Coherent stem accepted db) (T : String)
    (includeQuarantined : Bool) :
    db.scan T .descending none none includeQuarantined =
      (db.scan T .ascending none none includeQuarantined).map Page.reversed := by
  rcases h.types.typeId?_cases T with hn | ⟨n, hn⟩
  · rw [scan_of_unregistered hn, scan_of_unregistered hn]
    rfl
  · obtain ⟨answer, hlists, hpages⟩ := h.scan_part hn .ascending includeQuarantined
    obtain ⟨answer', hlists', hpages'⟩ := h.scan_part hn .descending includeQuarantined
    obtain rfl := hlists'.unique hlists.reverse
    rw [hpages none none 0 none rfl rfl, hpages' none none 0 none rfl rfl, reversed_part]
    rfl

end

/-- While a store is the only one, an unpaged query in descending direction gives the keys of the same
query in ascending direction backwards, whatever directions the index declares, and so does a scan. -/
theorem descending_reverses {s : Store} {w : Workspace} (h : ReachedAlone s Formed w) :
    (∀ (T index : String) (q : Query), q.token = none → q.pageSize = none →
      (s.query T index { q with direction := .descending } w).1 =
        (s.query T index { q with direction := .ascending } w).1.map Page.reversed) ∧
    ∀ (T : String) (includeQuarantined : Bool),
      (Store.scan T .descending none none includeQuarantined w).1 =
        (Store.scan T .ascending none none includeQuarantined w).1.map Page.reversed := by
  have hc := h.coherent_of_formed
  refine ⟨fun T index q htoken hsize => ?_, fun T includeQuarantined =>
    hc.scan_reversed T includeQuarantined⟩
  rw [h.faithful.query_eq, h.faithful.query_eq]
  cases hS : (Store.requireSchema T w).1 with
  | error e => rfl
  | ok S =>
    obtain ⟨n, hp⟩ := h.faithful.published_of_requireSchema hc.schemas hS
    cases hread : (q.terms.mapM s.resolveTerm w).1 with
    | error e => rfl
    | ok terms =>
      have hreversed := hc.queryIndex_reversed hp index { q with terms := terms }
      rw [← htoken, ← hsize] at hreversed
      exact hreversed

theorem descending_reverses_members :
    memberQuery.token = none ∧ memberQuery.pageSize = none ∧
      (memberStore.query "member" "by_age" { memberQuery with direction := .descending }
          memberWorkspace).1 =
        (memberStore.query "member" "by_age" { memberQuery with direction := .ascending }
          memberWorkspace).1.map Page.reversed :=
  ⟨rfl, rfl, (descending_reverses reachedAlone_memberWorkspace).1 "member" "by_age" memberQuery
    rfl rfl⟩

end RecordStore

import Mathlib
import RecordStore.Error
import RecordStore.Proofs.Schema.Sound

/-!
Which declarations make a schema.  The rules are said without the order in which they are checked and
without the names seen so far, and `validated_wellFormed` says that the check accepts exactly the
declarations that keep all of them.
-/
namespace RecordStore

/-- The declared values of an enumeration stay among themselves under a function; nothing is said of other
attributes. -/
def Attribute.ClosedUnder (a : Attribute) (f : String → String) : Prop :=
  ∀ values, a.type = .enum → a.values = some values → ∀ v ∈ values, f v ∈ values

/-- The rules for the attributes and the indexes of a record type. -/
structure Schema.WellFormed (attributes : List Attribute) (indexes : List IndexDefinition) : Prop where
  attribute_named : ∀ a ∈ attributes, a.name ≠ "" ∧ a.name ≠ idAttribute
  attributes_distinct : (attributes.map (·.name)).Nodup
  enum_values : ∀ a ∈ attributes, a.type = .enum → ∃ values, a.values = some values ∧ values ≠ []
  other_values : ∀ a ∈ attributes, a.type ≠ .enum → a.values = none
  index_named : ∀ ix ∈ indexes, ix.name ≠ ""
  indexes_distinct : (indexes.map (·.name)).Nodup
  column_other_than_id : ∀ ix ∈ indexes, ∃ c ∈ ix.columns, c.name ≠ idAttribute
  columns_distinct : ∀ ix ∈ indexes, (ix.columns.map (·.name)).Nodup
  column_declared : ∀ ix ∈ indexes, ∀ c ∈ ix.columns, c.name ≠ idAttribute →
    ∃ a ∈ attributes, a.name = c.name ∧ a.type ≠ .any ∧ a.type ≠ .array ∧ a.type ≠ .map
  closed : ∀ a ∈ attributes, a.ClosedUnder a.transform.applyText
  column_closed : ∀ a ∈ attributes, ∀ ix ∈ indexes, ∀ c ∈ ix.columns, c.name = a.name →
    a.ClosedUnder (c.transform.applyText ∘ a.transform.applyText)

section
variable {attributes : List Attribute} {indexes : List IndexDefinition} {a : Attribute}
  {c : IndexColumn} {ix : IndexDefinition}

/-! ### Rules of one declaration -/

theorem AttributeType.indexable_iff {t : AttributeType} :
    t.indexable = true ↔ t ≠ .any ∧ t ≠ .array ∧ t ≠ .map := by
  cases t <;> decide

theorem Attribute.lostValue?_eq_none_iff {t : Transform} :
    a.lostValue? t = none ↔ a.ClosedUnder (t.applyText ∘ a.transform.applyText) := by
  unfold Attribute.lostValue? Attribute.ClosedUnder
  split
  · next values htype hvalues =>
    rw [List.find?_eq_none]
    constructor
    · intro h values' _ hvalues' v hv
      obtain rfl : values = values' := Option.some.inj (hvalues.symm.trans hvalues')
      simpa using h v hv
    · intro h v hv
      simpa using h values htype hvalues v hv
  · next hnot =>
    refine iff_of_true rfl ?_
    intro values htype hvalues
    exact absurd hvalues (hnot values htype)

namespace Schema

theorem valuesDefect?_eq_none_iff :
    valuesDefect? a = none ↔
      (a.type = .enum → ∃ values, a.values = some values ∧ values ≠ []) ∧
        (a.type ≠ .enum → a.values = none) ∧ a.ClosedUnder a.transform.applyText := by
  -- the check of the attribute alone is that of a column which changes nothing
  have hclosed : a.lostValue? .unchanged = none ↔ a.ClosedUnder a.transform.applyText :=
    Attribute.lostValue?_eq_none_iff
  by_cases htype : a.type = .enum
  · rw [← hclosed]
    cases hvalues : a.values with
    | none => simp [valuesDefect?, htype, hvalues]
    | some values => cases values <;> simp [valuesDefect?, htype, hvalues]
  · have hother : a.ClosedUnder a.transform.applyText :=
      fun _ henum => absurd henum htype
    cases hvalues : a.values <;> simp [valuesDefect?, htype, hvalues, hother]

/-- A column is about the one attribute with its name. -/
theorem columnDefect?_eq_none_iff_of_nodup (hnodup : (attributes.map (·.name)).Nodup) {index : String} :
    columnDefect? attributes index c = none ↔ (c.name ≠ idAttribute →
      ∃ a ∈ attributes, a.name = c.name ∧ a.type.indexable = true ∧
        a.ClosedUnder (c.transform.applyText ∘ a.transform.applyText)) := by
  have hid : c.isId = true ↔ c.name = idAttribute := by rw [IndexColumn.isId, beq_iff_eq]
  rw [columnDefect?_eq_none_iff, hid, or_iff_not_imp_left]
  refine imp_congr_right fun _ => ?_
  constructor
  · rintro ⟨a, hfound, hindexable, hlost⟩
    have hname : a.name = c.name := by simpa using List.find?_some hfound
    exact ⟨a, List.mem_of_find?_eq_some hfound, hname, hindexable,
      Attribute.lostValue?_eq_none_iff.1 hlost⟩
  · rintro ⟨a, ha, hname, hindexable, hclosed⟩
    refine ⟨a, ?_, hindexable, Attribute.lostValue?_eq_none_iff.2 hclosed⟩
    rw [← hname]
    exact find?_name_of_nodup hnodup ha

theorem valueColumns_ne_nil_iff :
    ix.valueColumns ≠ [] ↔ ∃ c ∈ ix.columns, c.name ≠ idAttribute := by
  rw [IndexDefinition.valueColumns, ne_eq, List.filter_eq_nil_iff]
  simp [IndexColumn.isId]

/-! ### The whole check -/

theorem wellFormed_of_defect? (h : defect? attributes indexes = none) :
    WellFormed attributes indexes := by
  obtain ⟨⟨hnames, hattributes⟩, hindexNames, hindexes⟩ := defect?_eq_none_iff.1 h
  have hvalues (a : Attribute) (ha : a ∈ attributes) :=
    valuesDefect?_eq_none_iff.1 (hattributes a ha).values
  have hcolumns (ix : IndexDefinition) (hix : ix ∈ indexes) (c : IndexColumn) (hc : c ∈ ix.columns) :=
    (columnDefect?_eq_none_iff_of_nodup hnames).1 ((hindexes ix hix).columns c hc)
  exact {
    attribute_named := fun a ha => ⟨(hattributes a ha).name_ne, (hattributes a ha).name_ne_id⟩
    attributes_distinct := hnames
    enum_values := fun a ha => (hvalues a ha).1
    other_values := fun a ha => (hvalues a ha).2.1
    index_named := fun ix hix => (hindexes ix hix).name_ne
    indexes_distinct := hindexNames
    column_other_than_id := fun ix hix =>
      valueColumns_ne_nil_iff.1 (hindexes ix hix).valueColumns_ne
    columns_distinct := fun ix hix => (hindexes ix hix).names_nodup
    column_declared := by
      intro ix hix c hc hid
      obtain ⟨a, ha, hname, hindexable, -⟩ := hcolumns ix hix c hc hid
      exact ⟨a, ha, hname, AttributeType.indexable_iff.1 hindexable⟩
    closed := fun a ha => (hvalues a ha).2.2
    column_closed := by
      intro a ha ix hix c hc hname
      have hid : c.name ≠ idAttribute := by
        rw [hname]
        exact (hattributes a ha).name_ne_id
      -- the attribute that the column was checked with is this one
      obtain ⟨b, hb, hbname, -, hclosed⟩ := hcolumns ix hix c hc hid
      obtain rfl : b = a := List.inj_on_of_nodup_map hnames hb ha (hbname.trans hname)
      exact hclosed }

theorem WellFormed.defect?_eq_none (h : WellFormed attributes indexes) :
    defect? attributes indexes = none := by
  refine defect?_eq_none_iff.2 ⟨⟨h.attributes_distinct, ?_⟩, h.indexes_distinct, ?_⟩
  · intro a ha
    obtain ⟨hne, hid⟩ := h.attribute_named a ha
    refine ⟨hne, hid, valuesDefect?_eq_none_iff.2 ⟨?_, ?_, h.closed a ha⟩⟩
    · exact h.enum_values a ha
    · exact h.other_values a ha
  · intro ix hix
    refine ⟨h.index_named ix hix, ?_, ?_, h.columns_distinct ix hix⟩
    · exact valueColumns_ne_nil_iff.2 (h.column_other_than_id ix hix)
    · intro c hc
      rw [columnDefect?_eq_none_iff_of_nodup h.attributes_distinct]
      intro hid
      obtain ⟨a, ha, hname, htype⟩ := h.column_declared ix hix c hc hid
      exact ⟨a, ha, hname, AttributeType.indexable_iff.2 htype,
        h.column_closed a ha ix hix c hc hname.symm⟩

theorem defect?_eq_none_iff_wellFormed :
    defect? attributes indexes = none ↔ WellFormed attributes indexes :=
  ⟨wellFormed_of_defect?, WellFormed.defect?_eq_none⟩

end Schema
end

/-- The schema of these declarations, or the error with their first defect. -/
def Schema.validated (attributes : List Attribute) (indexes : List IndexDefinition) : Except Error Schema :=
  (ofParts attributes indexes).mapError fun d => .schemaMismatch (.defect d)

/-- Declarations make a schema exactly when they keep the rules, and nothing of them is changed; those
that do not are refused as a mismatch of the schema. -/
theorem Schema.validated_wellFormed (attributes : List Attribute) (indexes : List IndexDefinition) :
    ((∃ s, validated attributes indexes = .ok s ∧ s.attributes = attributes ∧ s.indexes = indexes) ↔
        WellFormed attributes indexes) ∧
      ((∃ d, validated attributes indexes = .error (.schemaMismatch (.defect d))) ↔
        ¬ WellFormed attributes indexes) := by
  rw [← defect?_eq_none_iff_wellFormed]
  cases h : ofParts attributes indexes with
  | ok s =>
    have hnone : defect? attributes indexes = none := isOk_ofParts_iff.1 ⟨s, h⟩
    have hvalidated : validated attributes indexes = .ok s := by
      rw [validated, h]
      rfl
    constructor
    · exact iff_of_true ⟨s, hvalidated, parts_of_ofParts h⟩ hnone
    · refine iff_of_false ?_ (not_not.2 hnone)
      rintro ⟨d, hd⟩
      rw [hvalidated] at hd
      cases hd
  | error d =>
    have hdefect : defect? attributes indexes ≠ none := by
      rw [ofParts_eq_error_iff.1 h]
      nofun
    have hvalidated : validated attributes indexes = .error (.schemaMismatch (.defect d)) := by
      rw [validated, h]
      rfl
    constructor
    · refine iff_of_false ?_ hdefect
      rintro ⟨s, hs, -⟩
      rw [hvalidated] at hs
      cases hs
    · exact iff_of_true ⟨d, hvalidated⟩ hdefect

end RecordStore

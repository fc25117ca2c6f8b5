import Mathlib
import RecordStore.Index.Hook

/-!
What a schema without defects is like: names of attributes and of indexes stand there once, and every
index has columns other than the record number, each about an attribute of a type that a column can
hold.  The checks run along lists and take the names that they have seen with them; that there is no
defect is said here without that order.
-/
namespace RecordStore.Schema

/-! ### Names seen so far -/

/-- Names that stand once and are none of those seen before them. -/
def Unseen (seen names : List String) : Prop :=
  names.Nodup ∧ ∀ n ∈ names, n ∉ seen

theorem unseen_nil (seen : List String) : Unseen seen [] :=
  ⟨List.nodup_nil, List.forall_mem_nil _⟩

/-- The first of the names is seen by those that follow it. -/
theorem unseen_cons {seen names : List String} {n : String} :
    Unseen seen (n :: names) ↔ n ∉ seen ∧ Unseen (n :: seen) names := by
  unfold Unseen
  rw [List.nodup_cons, List.forall_mem_cons]
  constructor
  · rintro ⟨⟨hn, hnodup⟩, hseen, hall⟩
    refine ⟨hseen, hnodup, ?_⟩
    intro m hm hmem
    rcases List.mem_cons.1 hmem with rfl | hmem
    · exact hn hm
    · exact hall m hm hmem
  · rintro ⟨hseen, hnodup, hall⟩
    refine ⟨⟨?_, hnodup⟩, hseen, ?_⟩
    · intro hn
      exact hall n hn List.mem_cons_self
    · intro m hm hmem
      exact hall m hm (List.mem_cons_of_mem n hmem)

theorem unseen_nil_iff {names : List String} : Unseen [] names ↔ names.Nodup := by
  constructor
  · intro h
    exact h.1
  · intro h
    exact ⟨h, fun _ _ => List.not_mem_nil⟩

/-- Where names stand once, each finds its own. -/
theorem find?_name_of_nodup {α : Type} {name : α → String} {xs : List α}
    (h : (xs.map name).Nodup) {x : α} (hx : x ∈ xs) : xs.find? (name · == name x) = some x := by
  cases hfound : xs.find? (name · == name x) with
  | none => exact absurd (List.find?_eq_none.1 hfound x hx) (by simp)
  | some y =>
    have hname : name y = name x := by simpa using List.find?_some hfound
    rw [List.inj_on_of_nodup_map h (List.mem_of_find?_eq_some hfound) hx hname]

/-! ### The checks -/

theorem columnDefect?_eq_none_iff {attributes : List Attribute} {index : String} {c : IndexColumn} :
    columnDefect? attributes index c = none ↔ c.isId = true ∨
      ∃ a, attributes.find? (·.name == c.name) = some a ∧ a.type.indexable = true ∧
        a.lostValue? c.transform = none := by
  unfold columnDefect?
  split_ifs with hid
  · exact iff_of_true rfl (.inl hid)
  · rw [or_iff_right hid]
    cases attributes.find? (·.name == c.name) with
    | none => exact iff_of_false nofun nofun
    | some a =>
      dsimp only
      split_ifs with hindexable
      · rw [Option.map_eq_none_iff]
        constructor
        · intro hlost
          exact ⟨a, rfl, hindexable, hlost⟩
        · rintro ⟨_, ⟨⟩, -, hlost⟩
          exact hlost
      · refine iff_of_false nofun ?_
        rintro ⟨_, ⟨⟩, h, -⟩
        exact hindexable h

/-- What the check of an attribute leaves over. -/
structure AttributeSound (a : Attribute) : Prop where
  name_ne : a.name ≠ ""
  name_ne_id : a.name ≠ idAttribute
  values : valuesDefect? a = none

theorem attributesDefect?_eq_none_iff {seen : List String} {as : List Attribute} :
    attributesDefect? seen as = none ↔
      Unseen seen (as.map (·.name)) ∧ ∀ a ∈ as, AttributeSound a := by
  induction as generalizing seen with
  | nil => exact iff_of_true rfl ⟨unseen_nil seen, List.forall_mem_nil _⟩
  | cons a as ih =>
    rw [attributesDefect?, List.map_cons, unseen_cons, List.forall_mem_cons]
    split_ifs with hname hid hseen
    · exact iff_of_false nofun fun h => h.2.1.name_ne hname
    · exact iff_of_false nofun fun h => h.2.1.name_ne_id hid
    · exact iff_of_false nofun fun h => h.1.1 hseen
    · rw [Option.or_eq_none_iff, ih]
      constructor
      · rintro ⟨hvalues, hnames, hall⟩
        exact ⟨⟨hseen, hnames⟩, ⟨hname, hid, hvalues⟩, hall⟩
      · rintro ⟨⟨-, hnames⟩, ha, hall⟩
        exact ⟨ha.values, hnames, hall⟩

/-- What the check of an index leaves over. -/
structure IndexSound (attributes : List Attribute) (ix : IndexDefinition) : Prop where
  name_ne : ix.name ≠ ""
  valueColumns_ne : ix.valueColumns ≠ []
  columns : ∀ c ∈ ix.columns, columnDefect? attributes ix.name c = none
  names_nodup : (ix.columns.map (·.name)).Nodup

theorem columnsDefect?_eq_none_iff {attributes : List Attribute} {index : String}
    {seen : List String} {cs : List IndexColumn} :
    columnsDefect? attributes index seen cs = none ↔
      Unseen seen (cs.map (·.name)) ∧ ∀ c ∈ cs, columnDefect? attributes index c = none := by
  induction cs generalizing seen with
  | nil => exact iff_of_true rfl ⟨unseen_nil seen, List.forall_mem_nil _⟩
  | cons c cs ih =>
    rw [columnsDefect?, List.map_cons, unseen_cons, List.forall_mem_cons]
    split_ifs with hseen
    · exact iff_of_false nofun fun h => h.1.1 hseen
    · rw [Option.or_eq_none_iff, ih]
      constructor
      · rintro ⟨hc, hnames, hall⟩
        exact ⟨⟨hseen, hnames⟩, hc, hall⟩
      · rintro ⟨⟨-, hnames⟩, hc, hall⟩
        exact ⟨hc, hnames, hall⟩

theorem indexesDefect?_eq_none_iff {attributes : List Attribute} {seen : List String}
    {ixs : List IndexDefinition} :
    indexesDefect? attributes seen ixs = none ↔
      Unseen seen (ixs.map (·.name)) ∧ ∀ ix ∈ ixs, IndexSound attributes ix := by
  induction ixs generalizing seen with
  | nil => exact iff_of_true rfl ⟨unseen_nil seen, List.forall_mem_nil _⟩
  | cons ix ixs ih =>
    rw [indexesDefect?, List.map_cons, unseen_cons, List.forall_mem_cons]
    split_ifs with hname hseen hcolumns
    · exact iff_of_false nofun fun h => h.2.1.name_ne hname
    · exact iff_of_false nofun fun h => h.1.1 hseen
    · exact iff_of_false nofun fun h => h.2.1.valueColumns_ne hcolumns
    · rw [Option.or_eq_none_iff, ih, columnsDefect?_eq_none_iff, unseen_nil_iff]
      constructor
      · rintro ⟨⟨hnodup, hdefects⟩, hnames, hall⟩
        exact ⟨⟨hseen, hnames⟩, ⟨hname, hcolumns, hdefects, hnodup⟩, hall⟩
      · rintro ⟨⟨-, hnames⟩, hix, hall⟩
        exact ⟨⟨hix.names_nodup, hix.columns⟩, hnames, hall⟩

/-- Declarations without a defect, check by check. -/
theorem defect?_eq_none_iff {attributes : List Attribute} {indexes : List IndexDefinition} :
    defect? attributes indexes = none ↔
      ((attributes.map (·.name)).Nodup ∧ ∀ a ∈ attributes, AttributeSound a) ∧
        (indexes.map (·.name)).Nodup ∧ ∀ ix ∈ indexes, IndexSound attributes ix := by
  rw [defect?, Option.or_eq_none_iff, attributesDefect?_eq_none_iff, indexesDefect?_eq_none_iff,
    unseen_nil_iff, unseen_nil_iff]

/-! ### Schemas -/

/-- Only enumerations declare values. -/
theorem values_eq_none {s : Schema} {a : Attribute} (ha : a ∈ s.attributes) (htype : a.type ≠ .enum) :
    a.values = none := by
  have hvalues := ((defect?_eq_none_iff.1 s.sound).1.2 a ha).values
  unfold valuesDefect? at hvalues
  split at hvalues
  · next h _ => exact absurd h htype
  · cases hvalues
  · cases hvalues
  · assumption

theorem indexSound {s : Schema} {ix : IndexDefinition} (h : ix ∈ s.indexes) :
    IndexSound s.attributes ix :=
  (defect?_eq_none_iff.1 s.sound).2.2 ix h

theorem index_names_nodup (s : Schema) : (s.indexes.map (·.name)).Nodup :=
  (defect?_eq_none_iff.1 s.sound).2.1

theorem index?_name {s : Schema} {ix : IndexDefinition} (h : ix ∈ s.indexes) :
    s.index? ix.name = some ix :=
  find?_name_of_nodup s.index_names_nodup h

theorem requireIndex_name {s : Schema} {ix : IndexDefinition} (h : ix ∈ s.indexes)
    (typeName : String) : s.requireIndex typeName ix.name = .ok ix := by
  simp [requireIndex, index?_name h]

end RecordStore.Schema

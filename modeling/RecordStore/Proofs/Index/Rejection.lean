import Mathlib
import RecordStore.Schema.RecordCheck
import RecordStore.Proofs.Index.Entry
import RecordStore.Proofs.Text.Case

/-!
Which valid records an index has no row for.  A record is checked with the transforms of its attributes
alone, and the transform of a column comes on top of them.  That makes a difference to single
characters, to short texts and to truth values in upper case, and to nothing else.
-/
namespace RecordStore
open Sql Index

/-! ### Transforms -/

/-- A transform changes nothing in what it has been applied to. -/
theorem Transform.applyText_applyText (t : Transform) (s : String) :
    t.applyText (t.applyText s) = t.applyText s := by
  cases t with
  | unchanged => rfl
  | uppercase => exact Text.upper_upper s
  | lowercase => exact Text.lower_lower s

/-- Scalars that name integers stay as they are. -/
theorem Transform.apply_of_integer? (t : Transform) {v : FieldValue} {n : Int}
    (h : v.integer? = some n) : t.apply v = v := by
  cases v with
  | text s =>
    have hread := (Option.filter_eq_some_iff.1 h).1
    obtain ⟨hupper, hlower⟩ := Text.case_of_integer? hread
    cases t with
    | unchanged => rfl
    | uppercase => exact congrArg _ hupper
    | lowercase => exact congrArg _ hlower
  | _ => rfl

/-! ### Fitting -/

section
variable {a : Attribute} {v : FieldValue}

theorem coerce_of_range {range : Int × Int} (hrange : a.type.integerRange? = some range)
    (hv : v.isNull = false) {b : Value} (h : coerce a v = .ok b) : ∃ n, v.integer? = some n := by
  rw [coerce, if_neg (by simp [hv]), hrange] at h
  cases hn : v.integer? with
  | none => simp only [hn] at h; cases h
  | some n => exact ⟨n, rfl⟩

theorem coerce_boolean (htype : a.type = .boolean) (hv : v.isNull = false) :
    (∃ e, coerce a v = .error e) ↔ v.truth? = none := by
  rw [coerce, if_neg (by simp [hv]), htype]
  simp only [AttributeType.integerRange?]
  cases v.truth? with
  | none => exact ⟨fun _ => rfl, fun _ => ⟨_, rfl⟩⟩
  | some b => exact ⟨nofun, nofun⟩

/-- A value that is bound if a check holds is refused exactly if it does not. -/
theorem error_iff_of_ite {ε α : Type} {p : Prop} [Decidable p] {x : Except ε α} {b : α} {e : ε}
    (h : x = if p then .ok b else .error e) : (∃ e, x = .error e) ↔ ¬ p := by
  rw [h]
  split
  · next hp => exact ⟨nofun, fun hne => absurd hp hne⟩
  · next hp => exact ⟨fun _ => hp, fun _ => ⟨_, rfl⟩⟩

theorem coerce_charOne (htype : a.type = .charOne) (hv : v.isNull = false) :
    (∃ e, coerce a v = .error e) ↔ v.display.length ≠ 1 := by
  refine error_iff_of_ite (b := .ofText v.display) (e := .notSingle v.display) ?_
  rw [coerce, if_neg (by simp [hv]), htype]
  rfl

theorem coerce_enum (htype : a.type = .enum) (hv : v.isNull = false) :
    (∃ e, coerce a v = .error e) ↔ v.display ∉ a.values.getD [] := by
  refine error_iff_of_ite (b := .ofText v.display)
    (e := .undeclared v.display (a.values.getD []) a.name) ?_
  rw [coerce, if_neg (by simp [hv]), htype]
  rfl

theorem coerce_smallString (htype : a.type = .smallString) (hv : v.isNull = false) :
    (∃ e, coerce a v = .error e) ↔ 255 < v.display.length := by
  rw [← not_le]
  refine error_iff_of_ite (b := .ofText v.display) (e := .tooLong a.name) ?_
  rw [coerce, if_neg (by simp [hv]), htype]
  rfl

theorem coerce_longText (htype : a.type = .longText) (hv : v.isNull = false) :
    coerce a v = .ok (.ofText v.display) := by
  rw [coerce, if_neg (by simp [hv]), htype]
  rfl

end

/-! ### Fields and columns -/

/-- What a column has of a field once both transforms are applied. -/
def storedScalar (a : Attribute) (c : IndexColumn) (f : FieldValue) : FieldValue :=
  c.transform.apply (a.transform.apply f)

/-- A field that may be valid and yet has no value in a column: one of which the second transform
makes no single character, one which it makes too long, or the word for a truth value in upper case. -/
def Misfit (a : Attribute) (c : IndexColumn) (f : FieldValue) : Prop :=
  match a.type with
  | .charOne => f ≠ .null ∧ (storedScalar a c f).display.length ≠ 1
  | .smallString => f ≠ .null ∧ 255 < (storedScalar a c f).display.length
  | .boolean => c.transform = .uppercase ∧ ∃ s, f = .text s
  | _ => False

/-- A field that the check of a record lets through. -/
def FieldFits (a : Attribute) (f : FieldValue) : Prop :=
  f.isNull = false → ∃ b, coerce a (a.transform.apply f) = .ok b

section
variable {a : Attribute} {c : IndexColumn} {f : FieldValue}

theorem not_error_of_ok {ε α : Type} {x : Except ε α} {b : α} (h : x = .ok b) :
    ¬ ∃ e, x = .error e := by
  rintro ⟨e, he⟩
  rw [h] at he
  cases he

theorem isNull_storedScalar (a : Attribute) (c : IndexColumn) (f : FieldValue) :
    (storedScalar a c f).isNull = f.isNull := by
  rw [storedScalar, isNull_apply, isNull_apply]

theorem bindColumn_null (a : Attribute) (c : IndexColumn) :
    bindColumn a c .null = .ok a.type.columnType.null :=
  rfl

/-- Integers fit whatever the column does. -/
theorem bindColumn_of_range {range : Int × Int} (hrange : a.type.integerRange? = some range)
    (hf : f.isNull = false) (hfits : FieldFits a f) : ∃ b, bindColumn a c f = .ok b := by
  obtain ⟨b, hb⟩ := hfits hf
  obtain ⟨n, hn⟩ := coerce_of_range hrange ((isNull_apply _ _).trans hf) hb
  exact ⟨b, by rw [bindColumn, c.transform.apply_of_integer? hn, hb]⟩

/-- The word for a truth value is only lost in upper case. -/
theorem truth?_eq_none_iff (t : Transform) {v : FieldValue} (hv : v.truth? ≠ none) :
    (t.apply v).truth? = none ↔ t = .uppercase ∧ ∃ s, v = .text s := by
  cases v with
  | text s =>
    have hword : s = "true" ∨ s = "false" := by
      unfold FieldValue.truth? at hv
      simp only at hv
      split_ifs at hv with htrue hfalse
      · exact .inl htrue
      · exact .inr hfalse
      · exact absurd rfl hv
    have hwords : (Transform.unchanged.apply (.text s)).truth? ≠ none ∧
        (Transform.uppercase.apply (.text s)).truth? = none ∧
        (Transform.lowercase.apply (.text s)).truth? ≠ none := by
      rcases hword with rfl | rfl <;> decide +kernel
    cases t with
    | unchanged => exact ⟨fun h => absurd h hwords.1, fun h => by cases h.1⟩
    | uppercase => exact ⟨fun _ => ⟨rfl, s, rfl⟩, fun _ => hwords.2.1⟩
    | lowercase => exact ⟨fun h => absurd h hwords.2.2, fun h => by cases h.1⟩
  | bool b => exact ⟨nofun, fun ⟨_, _, h⟩ => by cases h⟩
  | null => exact absurd rfl hv
  | int n => exact absurd rfl hv
  | uint n => exact absurd rfl hv

/-- Values of an enumeration that attribute and column keep among the declared ones stay declared. -/
theorem display_mem_of_lostValue? (htype : a.type = .enum) (hlost : a.lostValue? c.transform = none)
    (hmem : (a.transform.apply f).display ∈ a.values.getD []) :
    (storedScalar a c f).display ∈ a.values.getD [] := by
  cases hvalues : a.values with
  | none =>
    rw [hvalues] at hmem
    cases hmem
  | some values =>
    rw [hvalues] at hmem
    have hkept (v : String) (hv : v ∈ values) :
        c.transform.applyText (a.transform.applyText v) ∈ values := by
      unfold Attribute.lostValue? at hlost
      simp only [htype, hvalues, List.find?_eq_none] at hlost
      simpa using hlost v hv
    cases f with
    | text s =>
      -- the value that was checked is a declared one, and the transform leaves it as it is
      have hstored := hkept _ hmem
      rwa [show (a.transform.apply (.text s)).display = a.transform.applyText s from rfl,
        Transform.applyText_applyText] at hstored
    | _ => exact hmem

theorem not_misfit_null (a : Attribute) (c : IndexColumn) : ¬ Misfit a c .null := by
  unfold Misfit
  split
  · exact fun h => h.1 rfl
  · exact fun h => h.1 rfl
  · rintro ⟨-, s, hs⟩
    cases hs
  · exact id

/-- A valid field has no value in a column exactly when it is a misfit there. -/
theorem bindColumn_error_iff (hindexable : a.type.indexable = true)
    (hlost : a.lostValue? c.transform = none) (hfits : FieldFits a f) :
    (∃ e, bindColumn a c f = .error e) ↔ Misfit a c f := by
  by_cases hne : f = .null
  · subst hne
    exact iff_of_false (not_error_of_ok (bindColumn_null a c)) (not_misfit_null a c)
  have hnull : f.isNull = false := by
    cases f with
    | null => exact absurd rfl hne
    | _ => rfl
  have hstored := (isNull_storedScalar a c f).trans hnull
  have hchecked := (isNull_apply a.transform f).trans hnull
  obtain ⟨b, hb⟩ := hfits hnull
  have hvalid := not_error_of_ok hb
  cases hrange : a.type.integerRange? with
  | some range =>
    obtain ⟨b, hb⟩ := bindColumn_of_range (c := c) hrange hnull hfits
    refine iff_of_false (not_error_of_ok hb) fun h => ?_
    unfold Misfit at h
    split at h <;> simp_all [AttributeType.integerRange?]
  | none =>
    show (∃ e, coerce a (storedScalar a c f) = .error e) ↔ _
    unfold Misfit
    cases htype : a.type with
    | boolean =>
      rw [coerce_boolean htype hchecked] at hvalid
      rw [coerce_boolean htype hstored, storedScalar, truth?_eq_none_iff _ hvalid]
      refine and_congr_right fun _ => ?_
      cases f with
      | text s => exact ⟨fun _ => ⟨s, rfl⟩, fun _ => ⟨_, rfl⟩⟩
      | _ => exact Iff.rfl
    | charOne =>
      rw [coerce_charOne htype hstored]
      exact ⟨fun h => ⟨hne, h⟩, And.right⟩
    | enum =>
      rw [coerce_enum htype hchecked, not_not] at hvalid
      rw [coerce_enum htype hstored]
      exact iff_of_false (not_not.2 (display_mem_of_lostValue? htype hlost hvalid)) id
    | smallString =>
      rw [coerce_smallString htype hstored]
      exact ⟨fun h => ⟨hne, h⟩, And.right⟩
    | longText => exact iff_of_false (not_error_of_ok (coerce_longText htype hstored)) id
    | any => rw [htype] at hindexable; cases hindexable
    | array => rw [htype] at hindexable; cases hindexable
    | map => rw [htype] at hindexable; cases hindexable
    | _ => rw [htype] at hrange; cases hrange

end

/-! ### Rows -/

/-- A column that a record has a misfit in. -/
def MisfitColumn (s : Schema) (r : Record) (c : IndexColumn) : Prop :=
  ∃ a f, s.attribute? c.name = some a ∧ fieldScalar? c.name r = some f ∧ Misfit a c f

section
variable {t : Target} {s : Schema} {ix : IndexDefinition} {r : Record} {c : IndexColumn}
  {a : Attribute} {id : UInt64}

theorem valueFault?_of_indexable (h : a.type.indexable = true) (v : Json) :
    a.valueFault? v =
      match FieldValue.ofJson? v with
      | none => some .expectedScalar
      | some f =>
        match coerce a (a.transform.apply f) with
        | .ok _ => none
        | .error e => some (.refused e) := by
  obtain ⟨name, type, values, nullable, transform⟩ := a
  cases type <;> first | rfl | cases h

/-- The fields of a valid record are scalars that fit. -/
theorem exists_field_of_valid (hr : s.recordFault? r = none) (ha : s.attribute? c.name = some a)
    (hindexable : a.type.indexable = true) :
    ∃ f, fieldScalar? c.name r = some f ∧ FieldFits a f := by
  have hname : a.name = c.name := by simpa using List.find?_some ha
  have hfault := List.findSome?_eq_none_iff.1 hr a (List.mem_of_find?_eq_some ha)
  rw [Option.map_eq_none_iff, hname] at hfault
  unfold fieldScalar?
  cases hmember : Json.member? c.name r with
  | none => exact ⟨.null, rfl, nofun⟩
  | some v =>
    rw [hmember] at hfault
    by_cases hv : v = .null
    · subst hv
      exact ⟨.null, rfl, nofun⟩
    have hvalue : a.valueFault? v = none := by
      unfold Attribute.fieldFault? at hfault
      split at hfault
      · next h => cases h
      · next h => exact absurd (Option.some.inj h) hv
      · next h => exact Option.some.inj h ▸ hfault
    rw [valueFault?_of_indexable hindexable] at hvalue
    cases hscalar : FieldValue.ofJson? v with
    | none => rw [hscalar] at hvalue; cases hvalue
    | some f =>
      refine ⟨f, hscalar, fun _ => ?_⟩
      rw [hscalar] at hvalue
      cases hcoerce : coerce a (a.transform.apply f) with
      | ok b => exact ⟨b, rfl⟩
      | error e =>
        simp only [hcoerce] at hvalue
        cases hvalue

/-- A value column of an index is about an attribute that the schema has checked it against. -/
theorem exists_attribute_of_column (hix : ix ∈ s.indexes) (hc : c ∈ ix.valueColumns) :
    ∃ a, s.attribute? c.name = some a ∧ a.type.indexable = true ∧
      a.lostValue? c.transform = none := by
  obtain ⟨hc, hid⟩ := List.mem_filter.1 hc
  have hid : ¬ c.isId = true := by simpa using hid
  have hsound := (Schema.indexSound hix).columns c hc
  exact (Schema.columnDefect?_eq_none_iff.1 hsound).resolve_left hid

theorem columnValue_of_field {f : FieldValue} (ha : t.schema.attribute? c.name = some a)
    (hf : fieldScalar? c.name r = some f) :
    columnValue t r c =
      match bindColumn a c f with
      | .ok b => .ok (columnName c.name, b)
      | .error e => .error (.schemaMismatch (.field t.typeName c.name (.refused e))) := by
  have hattribute : t.schema.requireAttribute c.name = .ok a := by
    unfold Schema.requireAttribute
    rw [ha]
  have hscalar : columnScalar t c r = .ok f := by
    unfold fieldScalar? at hf
    unfold columnScalar
    cases hmember : Json.member? c.name r with
    | none => rw [hmember] at hf; rw [Option.some.inj hf]
    | some v => rw [hmember] at hf; simp only [hf]
  rw [columnValue, hattribute]
  show columnScalar t c r >>= _ = _
  rw [hscalar]
  rfl

/-- A valid record has no value in a column exactly when it has a misfit there, and then the error
names the field. -/
theorem columnValue_rejected (hix : t.index ∈ t.schema.indexes)
    (hr : t.schema.recordFault? r = none) (hc : c ∈ t.index.valueColumns) :
    ((∃ e, columnValue t r c = .error e) ↔ MisfitColumn t.schema r c) ∧
      ∀ e, columnValue t r c = .error e →
        ∃ x, e = .schemaMismatch (.field t.typeName c.name (.refused x)) := by
  obtain ⟨a, ha, hindexable, hlost⟩ := exists_attribute_of_column hix hc
  obtain ⟨f, hf, hfits⟩ := exists_field_of_valid hr ha hindexable
  have hmisfit : MisfitColumn t.schema r c ↔ Misfit a c f := by
    constructor
    · rintro ⟨a', f', ha', hf', h⟩
      obtain rfl := Option.some.inj (ha.symm.trans ha')
      obtain rfl := Option.some.inj (hf.symm.trans hf')
      exact h
    · exact fun h => ⟨a, f, ha, hf, h⟩
  rw [hmisfit, ← bindColumn_error_iff hindexable hlost hfits, columnValue_of_field ha hf]
  cases bindColumn a c f with
  | ok b => exact ⟨⟨nofun, nofun⟩, nofun⟩
  | error x => exact ⟨⟨fun _ => ⟨x, rfl⟩, fun _ => ⟨_, rfl⟩⟩, fun e he => ⟨x, (Except.error.inj he).symm⟩⟩

theorem exists_idValue (hid : id.toNat < 2 ^ 63) : ∃ v, idValue id = .ok v := by
  have hword : id.toNat < 0x8000000000000000 := hid
  rw [idValue, storedId?, if_pos hword]
  exact ⟨_, rfl⟩

/-- A row that is to be added fails with the error of its values and in no other way. -/
theorem insertRow_error_iff (hid : id.toNat < 2 ^ 63) (e : Error) :
    insertRow t id r = .error e ↔ rowValues t r = .error e := by
  obtain ⟨v, hv⟩ := exists_idValue hid
  rw [insertRow, hv]
  show (rowValues t r >>= _) = _ ↔ _
  cases hrow : rowValues t r with
  | error e' => exact ⟨fun h => congrArg _ (Except.error.inj h), fun h => congrArg _ (Except.error.inj h)⟩
  | ok row =>
    refine ⟨fun h => ?_, nofun⟩
    have hlength : (idColumn :: row.map (·.1) ++ [quarantinedColumn]).length =
        (v :: row.map (·.2) ++ [Value.ofText flagNo]).length := by simp
    have h : insertInto _ _ _ = _ := h
    rw [insertInto, if_pos hlength] at h
    cases h

theorem updateRow_error_iff (hid : id.toNat < 2 ^ 63) (e : Error) :
    updateRow t id r = .error e ↔ rowValues t r = .error e := by
  obtain ⟨v, hv⟩ := exists_idValue hid
  rw [updateRow]
  cases hrow : rowValues t r with
  | error e' => exact ⟨fun h => congrArg _ (Except.error.inj h), fun h => congrArg _ (Except.error.inj h)⟩
  | ok row =>
    refine ⟨fun h => ?_, nofun⟩
    have h : (idValue id >>= _) = _ := h
    rw [hv] at h
    cases h

/-- Of a valid record an index has no row exactly when a column of it has a misfit, whether the row is
to be added or changed.  The error then names such a column.  Enumerations, long texts and integers
are never among them. -/
theorem row_rejected_iff (hix : t.index ∈ t.schema.indexes) (hr : t.schema.recordFault? r = none)
    (hid : id.toNat < 2 ^ 63) :
    ((∃ e, insertRow t id r = .error e) ↔ ∃ c ∈ t.index.valueColumns, MisfitColumn t.schema r c) ∧
      ((∃ e, updateRow t id r = .error e) ↔
        ∃ c ∈ t.index.valueColumns, MisfitColumn t.schema r c) ∧
      (∀ e, insertRow t id r = .error e ∨ updateRow t id r = .error e →
        ∃ c ∈ t.index.valueColumns, MisfitColumn t.schema r c ∧
          ∃ x, e = .schemaMismatch (.field t.typeName c.name (.refused x))) ∧
      ∀ c ∈ t.index.valueColumns, ∀ a, t.schema.attribute? c.name = some a →
        a.type = .enum ∨ a.type = .longText ∨ a.type.integerRange?.isSome = true →
          ∃ b, columnValue t r c = .ok (columnName c.name, b) := by
  have hrow : (∃ e, rowValues t r = .error e) ↔
      ∃ c ∈ t.index.valueColumns, MisfitColumn t.schema r c := by
    rw [rowValues, mapM_error_iff]
    exact exists_congr fun c => and_congr_right fun hc => (columnValue_rejected hix hr hc).1
  refine ⟨?_, ?_, fun e he => ?_, fun c hc a ha htype => ?_⟩
  · rw [← hrow]
    exact exists_congr fun e => insertRow_error_iff hid e
  · rw [← hrow]
    exact exists_congr fun e => updateRow_error_iff hid e
  · have he : rowValues t r = .error e :=
      he.elim (insertRow_error_iff hid e).1 (updateRow_error_iff hid e).1
    obtain ⟨c, hc, he⟩ := exists_of_mapM_eq_error he
    obtain ⟨hmisfit, herror⟩ := columnValue_rejected hix hr hc
    exact ⟨c, hc, hmisfit.1 ⟨e, he⟩, herror e he⟩
  · have hfine : ¬ MisfitColumn t.schema r c := by
      rintro ⟨a', f, ha', -, h⟩
      obtain rfl := Option.some.inj (ha.symm.trans ha')
      unfold Misfit at h
      split at h <;> simp_all [AttributeType.integerRange?]
    cases hvalue : columnValue t r c with
    | error e => exact absurd ((columnValue_rejected hix hr hc).1.1 ⟨e, hvalue⟩) hfine
    | ok p =>
      obtain ⟨b, -, rfl⟩ := columnValue_eq_ok.1 hvalue
      exact ⟨b, rfl⟩

end

/-! ### A mark in capitals -/

/-- Records with one letter each, in capitals for the index. -/
def markSchema : Schema where
  attributes := [⟨"mark", .charOne, none, true, .unchanged⟩]
  indexes := [⟨"by_mark", [⟨"mark", .ascending, .uppercase⟩], false⟩]
  sound := by decide

def markTarget : Target := ⟨"t", markSchema, markSchema.indexes[0], names "" 1 "by_mark"⟩

/-- A sharp s is one letter, and two in capitals. -/
theorem row_rejected_iff_mark : markSchema.recordFault? [("mark", .string "ß")] = none ∧
    ∃ e, insertRow markTarget 1 [("mark", .string "ß")] = .error e := by
  have hvalid : markSchema.recordFault? [("mark", .string "ß")] = none := by decide +kernel
  have hmisfit : MisfitColumn markSchema [("mark", .string "ß")] ⟨"mark", .ascending, .uppercase⟩ :=
    ⟨⟨"mark", .charOne, none, true, .unchanged⟩, .text "ß", by decide +kernel, by decide +kernel,
      nofun, by decide +kernel⟩
  refine ⟨hvalid, (row_rejected_iff (t := markTarget) (List.getElem_mem (n := 0)
    (by decide)) hvalid (by decide)).1.2 ⟨_, ?_, hmisfit⟩⟩
  decide

end RecordStore

import Mathlib
import RecordStore.Proofs.Index.Rejection
import RecordStore.Proofs.Key.PlainText
import RecordStore.Proofs.Sql.Statements

/-!
Integers on their way into rows.  The database has signed words, while the numbers that are bound come from
texts of any length, from unsigned words and from counts of rows.  What is bound for an attribute or for the
number of a record is refused unless a signed word holds it, so the word in a row is the number that was
given.
-/
namespace RecordStore
open Sql Index Text

/-! ### Words -/

namespace Sql

/-- The integer that a value is bound for. -/
def Value.integer? : Value → Option Int
  | .bigInt n => n.map Int64.toInt
  | .unsigned n => n.map fun k => k.toNat
  | .bigUnsigned n => n.map fun k => k.toNat
  | .bool _ | .text _ => none

/-- The database has the integer that a value is bound for. -/
def Value.Kept (b : Value) : Prop :=
  ∀ n, b.integer? = some n → ∃ w : Int64, Database.Cell.ofValue b = .integer w ∧ w.toInt = n

/-- A value is the signed word of an integer. -/
def Value.Holds (b : Value) (n : Int) : Prop :=
  ∃ w : Int64, b = .ofInt w ∧ w.toInt = n

/-- The database has every integer that is bound to a statement. -/
def Statement.Kept (s : Statement) : Prop :=
  ∀ d, ∀ b ∈ (s.prepared d).2, b.Kept

namespace Value

theorem holds_ofInt {n : Int} (hleast : -2 ^ 63 ≤ n) (hgreatest : n < 2 ^ 63) :
    (Value.ofInt (Int64.ofInt n)).Holds n :=
  ⟨_, rfl, Int64.toInt_ofInt_of_le hleast hgreatest⟩

/-- Of an integer there is one signed word. -/
theorem Holds.eq_ofInt {b : Value} {n : Int} (h : b.Holds n) : b = .ofInt (Int64.ofInt n) := by
  obtain ⟨w, rfl, rfl⟩ := h
  rw [Int64.ofInt_toInt]

/-- Only words without a sign can be too large. -/
theorem kept_of_signed {b : Value} (h : ∀ k, b ≠ .bigUnsigned (some k)) : b.Kept := by
  intro n hn
  cases b with
  | bool b => cases hn
  | text s => cases hn
  | bigInt m =>
    obtain ⟨w, rfl, rfl⟩ := Option.map_eq_some_iff.1 hn
    exact ⟨w, rfl, rfl⟩
  | unsigned m =>
    obtain ⟨k, rfl, rfl⟩ := Option.map_eq_some_iff.1 hn
    have hlt := k.toNat_lt
    exact ⟨_, rfl, Int64.toInt_ofInt_of_le (by omega) (by omega)⟩
  | bigUnsigned m =>
    obtain ⟨k, rfl, -⟩ := Option.map_eq_some_iff.1 hn
    exact absurd rfl (h k)

theorem kept_bigUnsigned_iff {k : UInt64} :
    (Value.bigUnsigned (some k)).Kept ↔ k.toNat ≤ 2 ^ 63 - 1 := by
  constructor
  · intro h
    obtain ⟨w, -, hw⟩ := h k.toNat rfl
    have hlt := w.toInt_lt
    omega
  · rintro h n hn
    obtain rfl := Option.some.inj hn
    exact ⟨_, rfl, Int64.toInt_ofInt_of_le (by omega) (by omega)⟩

theorem Holds.kept {b : Value} {n : Int} (h : b.Holds n) : b.Kept := by
  obtain ⟨w, rfl, -⟩ := h
  exact kept_of_signed nofun

end Value

end Sql

/-! ### Attributes -/

/-- What a column of integers is given for a scalar: the integer that it names, which is in the range of the
column, or a null for a null. -/
def FieldValue.BoundWithin (range : Int × Int) (v : FieldValue) (b : Value) : Prop :=
  v = .null ∧ b = .bigInt none ∨
    ∃ n, v.integer? = some n ∧ range.1 ≤ n ∧ n ≤ range.2 ∧ b.Holds n

theorem AttributeType.fits_of_integerRange? {type : AttributeType} {range : Int × Int}
    (h : type.integerRange? = some range) : -2 ^ 63 ≤ range.1 ∧ range.2 < 2 ^ 63 := by
  cases type <;> cases h <;> decide

section
variable {a : Attribute} {c : IndexColumn} {v : FieldValue} {b : Value} {range : Int × Int}

theorem columnType_of_integerRange? (h : a.type.integerRange? = some range) :
    a.type.columnType = .bigInt := by
  cases htype : a.type <;> rw [htype] at h <;> first | rfl | cases h

/-- An attribute of integers accepts the integers of its range, and binds each as it is. -/
theorem coerce_eq_ok_iff (hrange : a.type.integerRange? = some range) :
    coerce a v = .ok b ↔ v.BoundWithin range b := by
  obtain ⟨least, greatest⟩ := range
  obtain ⟨hleast, hgreatest⟩ := AttributeType.fits_of_integerRange? hrange
  unfold FieldValue.BoundWithin
  by_cases hnull : v.isNull = true
  · obtain rfl : v = .null := by cases v <;> first | rfl | cases hnull
    rw [coerce, if_pos hnull, columnType_of_integerRange? hrange, Except.ok.injEq]
    constructor
    · rintro rfl
      exact .inl ⟨rfl, rfl⟩
    · rintro (⟨-, rfl⟩ | ⟨n, hn, -⟩)
      · rfl
      · cases hn
  · rw [coerce, if_neg hnull, hrange]
    cases hn : v.integer? with
    | none =>
      refine ⟨fun h => (by cases h), ?_⟩
      rintro (⟨rfl, -⟩ | ⟨n, hsome, -⟩)
      · exact absurd rfl hnull
      · cases hsome
    | some n =>
      simp only
      split
      · next hwithin =>
        rw [Except.ok.injEq]
        constructor
        · rintro rfl
          -- the range is within that of signed words, so the word made of the integer is its own
          exact .inr ⟨n, rfl, hwithin.1, hwithin.2,
            Value.holds_ofInt (hleast.trans hwithin.1) (hwithin.2.trans_lt hgreatest)⟩
        · rintro (⟨rfl, -⟩ | ⟨m, hm, -, -, hholds⟩)
          · exact absurd rfl hnull
          · obtain rfl := Option.some.inj hm
            exact hholds.eq_ofInt.symm
      · next hbeyond =>
        refine ⟨fun h => (by cases h), ?_⟩
        rintro (⟨rfl, -⟩ | ⟨m, hm, hge, hle, -⟩)
        · exact absurd rfl hnull
        · obtain rfl := Option.some.inj hm
          exact absurd ⟨hge, hle⟩ hbeyond

/-- What is bound for an attribute is kept, whatever its type. -/
theorem kept_of_coerce (h : coerce a v = .ok b) : b.Kept := by
  apply Value.kept_of_signed
  rcases coerce_eq_ok h with ⟨-, rfl⟩ | ⟨-, ⟨n, -, rfl⟩ | ⟨t, -, rfl⟩ | ⟨-, rfl⟩⟩
  · cases a.type <;> nofun
  · nofun
  · nofun
  · nofun

/-- What a column is given for a scalar.  A scalar that names an integer is the same after both
transforms. -/
structure Exact (a : Attribute) (c : IndexColumn) (v : FieldValue) (b : Value) : Prop where
  kept : b.Kept
  within : ∀ range, a.type.integerRange? = some range → (storedScalar a c v).BoundWithin range b
  integer : ∀ range n, a.type.integerRange? = some range → v.integer? = some n →
    range.1 ≤ n ∧ n ≤ range.2 ∧ b.Holds n

theorem exact_of_bindColumn (h : bindColumn a c v = .ok b) : Exact a c v b := by
  have hwithin : ∀ range, a.type.integerRange? = some range →
      (storedScalar a c v).BoundWithin range b :=
    fun range hrange => (coerce_eq_ok_iff hrange).1 h
  refine ⟨kept_of_coerce h, hwithin, fun range n hrange hn => ?_⟩
  -- no letter is part of a text that names an integer, so changing the case changes nothing
  have hsame : storedScalar a c v = v := by
    rw [storedScalar, a.transform.apply_of_integer? hn, c.transform.apply_of_integer? hn]
  rcases hsame ▸ hwithin range hrange with ⟨rfl, -⟩ | ⟨m, hm, hbounds⟩
  · cases hn
  · obtain rfl := Option.some.inj (hn.symm.trans hm)
    exact hbounds

end

/-- The integers of a record are read as themselves, signed or not. -/
theorem FieldValue.integer?_of_ofJson? {n : WordInt} {f : FieldValue}
    (h : FieldValue.ofJson? (.integer n) = some f) : f.integer? = some n.val := by
  have hlower := n.lower
  have hupper := n.upper
  simp only [FieldValue.ofJson?] at h
  split at h
  · next hsmall =>
    obtain rfl := Option.some.inj h
    exact congrArg some (Int64.toInt_ofInt_of_le hlower hsmall)
  · next hlarge =>
    obtain rfl := Option.some.inj h
    have hsmall : n.val.toNat < 2 ^ 64 := by omega
    have hword : (UInt64.ofNat n.val.toNat).toNat = n.val.toNat :=
      UInt64.toNat_ofNat_of_lt' hsmall
    rw [FieldValue.integer?, hword, Int.toNat_of_nonneg (by omega)]

/-! ### Record numbers -/

/-- The record number that a scalar names: a number that is not negative, the digits of one with a plus in
front if need be, or the plain text of the key of a record of the type. -/
inductive NamesRecord (T : String) : FieldValue → Nat → Prop
  | int {n : Int64} {id : Nat} : n.toInt = id → NamesRecord T (.int n) id
  | uint (n : UInt64) : NamesRecord T (.uint n) n.toNat
  | digits {text digits : String} : IsDecimal digits.toList → text = digits ∨ text = "+" ++ digits →
      NamesRecord T (.text text) (placeValue digits.toList)
  | key {text digits : String} : Key.PlainForm text T digits →
      NamesRecord T (.text text) (placeValue digits.toList)

theorem storedId?_eq_some_iff {id : UInt64} {w : Int64} :
    storedId? id = some w ↔ w.toInt = id.toNat := by
  refine ⟨fun h => (storedId?_eq_some h).2.1, fun h => ?_⟩
  have hlt := w.toInt_lt
  have hsmall : id.toNat < 0x8000000000000000 := by omega
  rw [storedId?, if_pos hsmall, ← h, Int64.ofInt_toInt]

/-- A record number is bound as it is, and refused when no signed word holds it. -/
theorem idValue_eq_ok_iff {id : UInt64} {b : Value} : idValue id = .ok b ↔ b.Holds id.toNat := by
  rw [idValue_eq_ok]
  constructor
  · rintro ⟨w, hw, rfl⟩
    exact ⟨w, rfl, storedId?_eq_some_iff.1 hw⟩
  · rintro ⟨w, rfl, hw⟩
    exact ⟨w, storedId?_eq_some_iff.2 hw, rfl⟩

theorem keyWord_eq_ok_iff {key : Key} {w : Int64} :
    keyWord key = .ok w ↔ w.toInt = key.id.toNat := by
  rw [← storedId?_eq_some_iff, keyWord]
  cases storedId? key.id with
  | none => exact ⟨nofun, nofun⟩
  | some n => rw [Except.ok.injEq, Option.some.injEq]

theorem unsigned?_eq_some_iff {cs : List Char} {n : Nat} :
    unsigned? cs = some n ↔
      ∃ digits, IsDecimal digits ∧ (cs = digits ∨ cs = '+' :: digits) ∧ n = placeValue digits := by
  constructor
  · intro h
    unfold unsigned? at h
    split at h
    · next cs =>
      obtain ⟨hdecimal, hn⟩ := natural?_eq_some_iff.1 h
      exact ⟨cs, hdecimal, .inr rfl, hn⟩
    · obtain ⟨hdecimal, hn⟩ := natural?_eq_some_iff.1 h
      exact ⟨cs, hdecimal, .inl rfl, hn⟩
  · rintro ⟨digits, hdecimal, rfl | rfl, rfl⟩
    · have hplus : ∀ rest, cs ≠ '+' :: rest := by
        rintro rest rfl
        have hdigit := hdecimal.digit '+' List.mem_cons_self
        exact absurd hdigit (by decide)
      unfold unsigned?
      split
      · next rest => exact absurd rfl (hplus rest)
      · exact natural?_eq_some_iff.2 ⟨hdecimal, rfl⟩
    · exact natural?_eq_some_iff.2 ⟨hdecimal, rfl⟩

theorem unsigned?_toList_eq_some_iff {text : String} {n : Nat} :
    unsigned? text.toList = some n ↔ ∃ digits : String,
      IsDecimal digits.toList ∧ (text = digits ∨ text = "+" ++ digits) ∧
        n = placeValue digits.toList := by
  rw [unsigned?_eq_some_iff]
  constructor
  · rintro ⟨digits, hdecimal, hshape, hn⟩
    refine ⟨String.ofList digits, by rwa [String.toList_ofList], hshape.imp ?_ ?_,
      by rwa [String.toList_ofList]⟩
    · rintro rfl
      exact String.ofList_toList.symm
    · intro hplus
      exact String.toList_injective (by simp [hplus])
  · rintro ⟨digits, hdecimal, hshape, hn⟩
    refine ⟨digits.toList, hdecimal, ?_, hn⟩
    rcases hshape with rfl | rfl
    · exact .inl rfl
    · exact .inr (by simp)

/-- A text with a colon in it is read as the plain text of a key. -/
theorem recordId?_eq_some_iff_of_colon {T text : String} {id : UInt64} (hcolon : ':' ∈ text.toList) :
    FieldValue.recordId? T (.text text) = some id ↔
      ∃ digits, Key.PlainForm text T digits ∧ id.toNat = placeValue digits.toList := by
  rw [FieldValue.recordId?, if_pos hcolon, Option.bind_eq_some_iff]
  constructor
  · rintro ⟨key, hkey, hid⟩
    obtain ⟨digits, hform, hnumber⟩ := Key.parse?_eq_some_iff.1 hkey
    split at hid
    · next hname =>
      obtain rfl := Option.some.inj hid
      exact ⟨digits, hname ▸ hform, hnumber⟩
    · cases hid
  · rintro ⟨digits, hform, hnumber⟩
    exact ⟨⟨T, id⟩, Key.parse?_eq_some_iff.2 ⟨digits, hform, hnumber⟩, if_pos rfl⟩

/-- Any other text is read as digits. -/
theorem recordId?_eq_some_iff_of_no_colon {T text : String} {id : UInt64}
    (hcolon : ':' ∉ text.toList) :
    FieldValue.recordId? T (.text text) = some id ↔ unsigned? text.toList = some id.toNat := by
  rw [FieldValue.recordId?, if_neg hcolon, Option.bind_eq_some_iff]
  constructor
  · rintro ⟨n, hn, hid⟩
    split at hid
    · next hsmall =>
      obtain rfl := Option.some.inj hid
      rwa [UInt64.toNat_ofNat_of_lt' hsmall]
    · cases hid
  · intro hn
    exact ⟨id.toNat, hn, by rw [if_pos id.toNat_lt, UInt64.ofNat_toNat]⟩

/-- The number that a text names is read whenever a word holds it. -/
theorem recordId?_text_eq_some_iff {T text : String} {id : UInt64} :
    FieldValue.recordId? T (.text text) = some id ↔ NamesRecord T (.text text) id.toNat := by
  constructor
  · intro h
    by_cases hcolon : ':' ∈ text.toList
    · obtain ⟨digits, hform, hnumber⟩ := (recordId?_eq_some_iff_of_colon hcolon).1 h
      rw [hnumber]
      exact .key hform
    · obtain ⟨digits, hdecimal, hshape, hnumber⟩ :=
        unsigned?_toList_eq_some_iff.1 ((recordId?_eq_some_iff_of_no_colon hcolon).1 h)
      rw [hnumber]
      exact .digits hdecimal hshape
  · intro h
    generalize hn : id.toNat = n at h
    cases h with
    | @digits _ digits hdecimal hshape =>
      have hcolon : ':' ∉ text.toList := by
        have hdigits : ':' ∉ digits.toList := fun hmem => absurd (hdecimal.digit _ hmem) (by decide)
        rcases hshape with rfl | rfl
        · exact hdigits
        · simpa using hdigits
      exact (recordId?_eq_some_iff_of_no_colon hcolon).2
        (unsigned?_toList_eq_some_iff.2 ⟨digits, hdecimal, hshape, hn⟩)
    | @key _ digits hform =>
      have hcolon : ':' ∈ text.toList := by
        rw [hform.eq_append, Key.toList_joined]
        simp
      exact (recordId?_eq_some_iff_of_colon hcolon).2 ⟨digits, hform, hn⟩

/-- A signed word is read when it is not negative. -/
theorem recordId?_int_eq_some_iff {T : String} {n : Int64} {id : UInt64} :
    FieldValue.recordId? T (.int n) = some id ↔ n.toInt = id.toNat := by
  have hlt := n.toInt_lt
  rw [FieldValue.recordId?]
  split
  · next hnonneg =>
    have hsmall : n.toInt.toNat < 2 ^ 64 := by omega
    rw [Option.some.injEq, ← UInt64.toNat_inj, UInt64.toNat_ofNat_of_lt' hsmall]
    omega
  · next hnegative =>
    refine iff_of_false nofun ?_
    omega

/-- The number that a scalar names is read whenever a word holds it. -/
theorem recordId?_eq_some_iff {T : String} {v : FieldValue} {id : UInt64} :
    v.recordId? T = some id ↔ NamesRecord T v id.toNat := by
  cases v with
  | null => exact ⟨nofun, nofun⟩
  | bool b => exact ⟨nofun, nofun⟩
  | int n =>
    rw [recordId?_int_eq_some_iff]
    exact ⟨.int, fun | .int h => h⟩
  | uint n =>
    constructor
    · intro h
      obtain rfl := Option.some.inj h
      exact .uint n
    · intro h
      generalize hn : id.toNat = m at h
      cases h with
      | uint => exact congrArg some (UInt64.toNat_inj.1 hn.symm)
  | text s => exact recordId?_text_eq_some_iff

/-- A record number in a term is bound as it is, and refused when no signed word holds it. -/
theorem bindId_eq_ok_iff {T : String} {v : FieldValue} {b : Value} :
    bindId T v = .ok b ↔ ∃ id : Nat, NamesRecord T v id ∧ b.Holds id := by
  have hbind : bindId T v = .ok b ↔
      ∃ n, (v.recordId? T).bind storedId? = some n ∧ b = .ofInt n := by
    unfold bindId
    cases (v.recordId? T).bind storedId? with
    | none => simp
    | some n => simp [eq_comm]
  rw [hbind]
  constructor
  · rintro ⟨w, hw, rfl⟩
    obtain ⟨id, hid, hstored⟩ := Option.bind_eq_some_iff.1 hw
    exact ⟨id.toNat, recordId?_eq_some_iff.1 hid, w, rfl, storedId?_eq_some_iff.1 hstored⟩
  · rintro ⟨id, hnames, w, rfl, hw⟩
    -- what a signed word holds is read into an unsigned one first
    have hlt := w.toInt_lt
    have hsmall : id < 2 ^ 64 := by omega
    have hword : (UInt64.ofNat id).toNat = id := UInt64.toNat_ofNat_of_lt' hsmall
    refine ⟨w, Option.bind_eq_some_iff.2 ⟨UInt64.ofNat id, recordId?_eq_some_iff.2 ?_,
      storedId?_eq_some_iff.2 ?_⟩, rfl⟩
    · rwa [hword]
    · rw [hword, hw]

/-! ### Rows -/

namespace Index
variable {t : Target} {id : UInt64} {r : Record} {s : Statement}

/-- A column gets from a record what its member stands for, a missing member being a null. -/
def Enters (s : Schema) (r : Record) (c : IndexColumn) (given : String × Value) : Prop :=
  given.1 = columnName c.name ∧ ∃ a f, s.attribute? c.name = some a ∧
    fieldScalar? c.name r = some f ∧ Exact a c f given.2

/-- The statements that keep the row of a record in step with it. -/
inductive Hook (t : Target) (id : UInt64) (r : Record) : Statement → Prop
  | insert {q : Insert} : insertRow t id r = .ok q → Hook t id r (.insert q)
  | update {q : Update} : updateRow t id r = .ok q → Hook t id r (.update q)
  | delete {q : Delete} : deleteRow t id = .ok q → Hook t id r (.delete q)
  | flag {quarantined : Bool} {q : Update} : flagRow t id quarantined = .ok q → Hook t id r (.update q)

/-- Statements on the row of a record, with its number and the integers of its members as they are. -/
inductive RowStatement (t : Target) (id : UInt64) (r : Record) : Statement → Prop
  | insert {n : Value} {row : List (String × Value)} : n.Holds id.toNat →
      List.Forall₂ (Enters t.schema r) t.index.valueColumns row →
      RowStatement t id r (.insert ⟨t.names.table,
        idColumn :: row.map (·.1) ++ [quarantinedColumn], n :: row.map (·.2) ++ [.ofText flagNo]⟩)
  | update {n : Value} {row : List (String × Value)} : n.Holds id.toNat →
      List.Forall₂ (Enters t.schema r) t.index.valueColumns row →
      RowStatement t id r (.update ⟨t.names.table, row, idCondition n⟩)
  | delete {n : Value} : n.Holds id.toNat →
      RowStatement t id r (.delete ⟨t.names.table, idCondition n⟩)
  | flag {n : Value} (quarantined : Bool) : n.Holds id.toNat →
      RowStatement t id r (.update ⟨t.names.table,
        [(quarantinedColumn, .ofText (quarantineFlag quarantined))], idCondition n⟩)

theorem enters_of_bound (h : Bound t.schema t.index r) :
    List.Forall₂ (Enters t.schema r) t.index.valueColumns (assignments t.schema t.index r) := by
  rw [assignments, List.forall₂_map_right_iff, List.forall₂_same]
  intro c hc
  obtain ⟨b, hb⟩ := Option.isSome_iff_exists.1 (h c hc)
  obtain ⟨a, f, ha, hf, hbind⟩ := boundValue?_eq_some.1 hb
  rw [boundValue_of_eq_some hb]
  exact ⟨rfl, a, f, ha, hf, exact_of_bindColumn hbind⟩

theorem rowStatement_of_hook (h : Hook t id r s) : RowStatement t id r s := by
  have hholds {n : Int64} (hn : storedId? id = some n) : (Value.ofInt n).Holds id.toNat :=
    ⟨n, rfl, storedId?_eq_some_iff.1 hn⟩
  cases h with
  | insert h =>
    obtain ⟨n, hn, hbound, rfl⟩ := insertRow_eq h
    exact .insert (hholds hn) (enters_of_bound hbound)
  | update h =>
    obtain ⟨n, hn, hbound, rfl⟩ := updateRow_eq_ok h
    exact .update (hholds hn) (enters_of_bound hbound)
  | delete h =>
    obtain ⟨n, hn, rfl⟩ := deleteRow_eq_ok h
    exact .delete (hholds hn)
  | flag h =>
    obtain ⟨n, hn, rfl⟩ := flagRow_eq_ok h
    exact .flag _ (hholds hn)

theorem kept_of_enters {cs : List IndexColumn} {row : List (String × Value)} {schema : Schema}
    (h : List.Forall₂ (Enters schema r) cs row) : ∀ b ∈ row.map (·.2), b.Kept := by
  intro b hb
  obtain ⟨given, hgiven, rfl⟩ := List.mem_map.1 hb
  obtain ⟨c, -, -, a, f, -, -, hexact⟩ := exists_of_mem_right h hgiven
  exact hexact.kept

theorem kept_idCondition {n : Value} (h : n.Holds id.toNat) : ∀ b ∈ (idCondition n).values, b.Kept := by
  intro b hb
  rw [List.mem_singleton.1 hb]
  exact h.kept

theorem kept_ofText (x : String) : (Value.ofText x).Kept :=
  Value.kept_of_signed nofun

theorem RowStatement.kept (h : RowStatement t id r s) : s.Kept := by
  intro d b hb
  rw [Statement.prepared, s.writes.values] at hb
  cases h with
  | insert hn hrow =>
    -- the number of the record, its columns and the flag
    rcases List.mem_append.1 hb with hb | hb
    · rcases List.mem_cons.1 hb with rfl | hb
      · exact hn.kept
      · exact kept_of_enters hrow b hb
    · rw [List.mem_singleton.1 hb]
      exact kept_ofText flagNo
  | update hn hrow =>
    rcases List.mem_append.1 hb with hb | hb
    · exact kept_of_enters hrow b hb
    · exact kept_idCondition hn b hb
  | delete hn => exact kept_idCondition hn b hb
  | flag quarantined hn =>
    rcases List.mem_append.1 hb with hb | hb
    · rw [List.mem_singleton.1 hb]
      exact kept_ofText _
    · exact kept_idCondition hn b hb

end Index

end RecordStore

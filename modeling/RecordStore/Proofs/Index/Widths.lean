import Mathlib
import RecordStore.Proofs.Query.Correct

/-!
Whether the values that are bound for an attribute fit the column that is declared for it.  Their kind
always is that of the column.  A text is never wider than its column, if the values of enumerations are
not: those are declared as they are, while all enumerations have columns of one width.
-/
namespace RecordStore
open Sql

namespace Sql

/-- The kinds of values that can be bound. -/
inductive Kind
  | truth
  | number
  | unsigned
  | bigUnsigned
  | text
deriving DecidableEq, Repr

def Value.kind : Value → Kind
  | bool _ => .truth
  | bigInt _ => .number
  | unsigned _ => .unsigned
  | bigUnsigned _ => .bigUnsigned
  | text _ => .text

/-- What the word for a column type declares: the kind of the values, and the most characters that a
text may have if there is a limit. -/
def declared? (word : String) : Option (Kind × Option Nat) :=
  let name := String.ofList (word.toList.takeWhile (· ≠ '('))
  match word.toList.dropWhile (· ≠ '(') with
  | [] =>
    if name = "boolean" ∨ name = "bool" then some (.truth, none)
    else if name = "bigint" then some (.number, none)
    else if name = "text" then some (.text, none)
    else none
  | _ :: rest =>
    if (name = "char" ∨ name = "varchar") ∧ rest.getLast? = some ')' then
      (Text.natural? rest.dropLast).map fun n => (.text, some n)
    else none

end Sql

namespace Sql.ColumnType

/-- The kind of the values in a column. -/
def kind : ColumnType → Kind
  | boolean => .truth
  | bigInt => .number
  | character | characters _ | text => .text

/-- The most characters of a text in a column. -/
def width? : ColumnType → Option Nat
  | character => some 1
  | characters n => some n
  | boolean | bigInt | text => none

theorem kind_null (type : ColumnType) : type.null.kind = type.kind := by
  cases type <;> rfl

theorem null_ne_text (type : ColumnType) (x : String) : type.null ≠ .text (some x) := by
  cases type <;> nofun

theorem kind_of_fits {type : ColumnType} {x : String} (h : (Datum.text x).Fits type) :
    type.kind = .text := by
  cases type <;> first | rfl | exact h.elim

end Sql.ColumnType

theorem declared?_word (type : AttributeType) (d : Dialect) :
    declared? (type.columnType.word d) = some (type.columnType.kind, type.columnType.width?) := by
  cases type <;> cases d <;> decide +kernel

section
variable {a : Attribute} {x : String}

/-- What a column is given has its kind, nulls included. -/
theorem kind_of_coerce {v : FieldValue} {b : Value} (h : coerce a v = .ok b) :
    b.kind = a.type.columnType.kind := by
  rcases coerce_eq_ok h with ⟨-, rfl⟩ | ⟨-, ⟨n, htype, rfl⟩ | ⟨t, htype, rfl⟩ | ⟨htakes, rfl⟩⟩
  · exact a.type.columnType.kind_null
  · rw [htype]; rfl
  · rw [htype]; rfl
  · exact (ColumnType.kind_of_fits htakes.fits).symm

theorem takesText_of_coerce {v : FieldValue} (h : coerce a v = .ok (.text (some x))) :
    a.TakesText x := by
  rcases coerce_eq_ok h with ⟨-, hnull⟩ | ⟨-, ⟨n, -, hv⟩ | ⟨t, -, hv⟩ | ⟨htakes, hv⟩⟩
  · exact absurd hnull.symm (a.type.columnType.null_ne_text x)
  · cases hv
  · cases hv
  · obtain rfl := Option.some.inj (Value.text.inj hv)
    exact htakes

/-- A declared value of an enumeration is bound as it is. -/
theorem coerce_enum_value (htype : a.type = .enum) (hx : x ∈ a.values.getD []) :
    coerce a (.text x) = .ok (.text (some x)) := by
  rw [coerce, if_neg nofun, htype]
  simp only [AttributeType.integerRange?]
  exact if_pos hx

/-- Only the values of an enumeration can be wider than the column. -/
theorem Attribute.TakesText.length_le (h : a.TakesText x)
    (hvalues : ∀ y ∈ a.values.getD [], y.length ≤ 255) {n : Nat}
    (hn : n ∈ a.type.columnType.width?) : x.length ≤ n := by
  unfold Attribute.TakesText at h
  split at h
  · next htype =>
    rw [htype] at hn
    exact (h.trans (Option.some.inj hn)).le
  · next htype =>
    rw [htype] at hn
    exact (hvalues x h).trans (Option.some.inj hn).le
  · next htype =>
    rw [htype] at hn
    exact h.trans (Option.some.inj hn).le
  · next htype =>
    rw [htype] at hn
    cases hn
  · exact h.elim

end

/-- Whatever is bound for an attribute of a schema has the kind that its column is declared with in any
dialect, nulls included.  No text that is bound is wider than the column declares exactly when none of
the values that the attribute declares is wider than 255 characters, and only enumerations declare
any. -/
theorem bound_values_fit_iff {s : Schema} {a : Attribute} (ha : a ∈ s.attributes) (d : Dialect) :
    ∃ kind width, declared? (a.type.columnType.word d) = some (kind, width) ∧
      (∀ v b, coerce a v = .ok b → b.kind = kind) ∧
      ((∀ v x, coerce a v = .ok (.text (some x)) → ∀ n ∈ width, x.length ≤ n) ↔
        ∀ x ∈ a.values.getD [], x.length ≤ 255) ∧ (a.type ≠ .enum → a.values = none) := by
  have hvalues : a.type ≠ .enum → a.values = none := Schema.values_eq_none ha
  refine ⟨_, _, declared?_word a.type d, fun v b => kind_of_coerce, ⟨fun h x hx => ?_,
    fun h v x hx n => (takesText_of_coerce hx).length_le h⟩, hvalues⟩
  -- a declared value is itself bound, so it shows how wide texts can be
  by_cases htype : a.type = .enum
  · exact h (.text x) x (coerce_enum_value htype hx) 255 (by rw [htype]; rfl)
  · rw [hvalues htype] at hx
    cases hx

/-- Names of members fit their columns. -/
theorem bound_values_fit_iff_member :
    memberSchema.attributes[0] ∈ memberSchema.attributes ∧
      declared? (memberSchema.attributes[0].type.columnType.word .postgres) = some (.text, some 255) ∧
      ∀ v x, coerce memberSchema.attributes[0] v = .ok (.text (some x)) → x.length ≤ 255 := by
  have ha : memberSchema.attributes[0] ∈ memberSchema.attributes := List.getElem_mem _
  have hword : declared? (memberSchema.attributes[0].type.columnType.word .postgres) =
      some (.text, some 255) := by decide +kernel
  obtain ⟨kind, width, hdeclared, -, hfits, -⟩ := bound_values_fit_iff ha .postgres
  obtain ⟨-, rfl⟩ := Prod.mk.inj (Option.some.inj (hword.symm.trans hdeclared))
  exact ⟨ha, hword, fun v x hx => hfits.2 nofun v x hx 255 rfl⟩

/-- A value of 256 characters. -/
def wideValue : String := String.ofList (List.replicate 256 'x')

/-- An enumeration with a wide value, and an index on it. -/
def wideSchema : Schema where
  attributes := [⟨"tier", .enum, some [wideValue], true, .unchanged⟩]
  indexes := [⟨"by_tier", [⟨"tier", .ascending, .unchanged⟩], false⟩]
  sound := by decide +kernel

/-- The schema is a valid one, and the value is bound for a column that is declared with 255
characters. -/
theorem wide_value_bound :
    declared? (wideSchema.attributes[0].type.columnType.word .postgres) = some (.text, some 255) ∧
      coerce wideSchema.attributes[0] (.text wideValue) = .ok (.text (some wideValue)) ∧
      wideValue.length = 256 := by
  decide +kernel

end RecordStore

import Mathlib
import RecordStore.Binding
import RecordStore.Proofs.Text.Decimal

/-!
Scalars in different forms.  A number may be given in either width or as its digits, and a truth value as
its word; what is bound for a scalar other than null, or why nothing is, depends on nothing but its text.
-/
namespace RecordStore
open Sql

namespace FieldValue
variable {v : FieldValue}

/-! ### Readers of scalars -/

/-- The integer that a scalar names is the one in its text, which 128 bits can hold. -/
theorem integer?_text_display (hv : v.isNull = false) : (text v.display).integer? = v.integer? := by
  have hread (n : Int) (hleast : -0x8000000000000000 ≤ n) (hbound : n < 0x10000000000000000) :
      (text (Text.decimal n)).integer? = some n := by
    rw [integer?, Text.trimBlanks_decimal, Text.integer?_decimal, Option.filter_some, if_pos]
    rw [Bool.and_eq_true, decide_eq_true_eq, decide_eq_true_eq]
    omega
  cases v with
  | null => cases hv
  | bool b => cases b <;> decide
  | int n =>
    have hleast := n.le_toInt
    have hbound := n.toInt_lt
    exact hread n.toInt (by omega) (by omega)
  | uint n =>
    have hbound := n.toNat_lt
    exact hread n.toNat (by omega) (by omega)
  | text s => rfl

/-- No number is written as a truth value is. -/
theorem truth?_text_display (hv : v.isNull = false) : (text v.display).truth? = v.truth? := by
  have hnumber (n : Int) : (text (Text.decimal n)).truth? = none := by
    have hletter (word : String) (hword : ∃ c ∈ word.toList, c ≠ '-' ∧ c.isDigit = false) :
        Text.decimal n ≠ word := by
      obtain ⟨c, hc, hminus, hdigit⟩ := hword
      intro he
      rw [← he] at hc
      rcases Text.mem_decimal hc with hsign | hd
      · exact hminus hsign
      · rw [hdigit] at hd
        cases hd
    have htrue := hletter "true" ⟨'t', by decide, by decide, by decide⟩
    have hfalse := hletter "false" ⟨'f', by decide, by decide, by decide⟩
    rw [truth?, if_neg htrue, if_neg hfalse]
  cases v with
  | null => cases hv
  | bool b => cases b <;> rfl
  | int n => exact hnumber n.toInt
  | uint n => exact hnumber n.toNat
  | text s => rfl

/-- The record that a scalar names is the one that its text names. -/
theorem recordId?_text_display (hv : v.isNull = false) (typeName : String) :
    (text v.display).recordId? typeName = v.recordId? typeName := by
  have hplain (n : Int) : ':' ∉ (Text.decimal n).toList := by
    intro hcolon
    rcases Text.mem_decimal hcolon with hsign | hdigit
    · exact absurd hsign (by decide)
    · exact absurd hdigit (by decide)
  have hnatural (n : Nat) (hbound : n < 0x10000000000000000) :
      (text (Text.decimal n)).recordId? typeName = some (UInt64.ofNat n) := by
    rw [recordId?, if_neg (hplain n), Text.unsigned?_decimal_natCast, Option.bind_some,
      if_pos hbound]
  cases v with
  | null => cases hv
  | bool b => cases b <;> rfl
  | int n =>
    have hbound := n.toInt_lt
    change (text (Text.decimal n.toInt)).recordId? typeName =
      if 0 ≤ n.toInt then some (UInt64.ofNat n.toInt.toNat) else none
    cases hn : n.toInt with
    | ofNat k =>
      rw [hn] at hbound
      have hk : k < 0x8000000000000000 := Int.ofNat_lt.1 hbound
      exact hnatural k (by omega)
    | negSucc k =>
      rw [recordId?, if_neg (hplain _), Text.unsigned?_decimal_negSucc]
      rfl
  | uint n =>
    refine (hnatural n.toNat n.toNat_lt).trans ?_
    rw [UInt64.ofNat_toNat]
    rfl
  | text s => rfl

end FieldValue

/-! ### Binding -/

section
variable {v w : FieldValue}

theorem coerce_text_display (hv : v.isNull = false) (a : Attribute) :
    coerce a (.text v.display) = coerce a v := by
  unfold coerce
  rw [FieldValue.integer?_text_display hv, FieldValue.truth?_text_display hv, hv]
  rfl

theorem bindId_text_display (hv : v.isNull = false) (typeName : String) :
    bindId typeName (.text v.display) = bindId typeName v := by
  unfold bindId
  rw [FieldValue.recordId?_text_display hv]
  rfl

/-- Scalars with one text are bound alike, or refused for one reason. -/
theorem bound_by_text (hv : v.isNull = false) (hw : w.isNull = false) (h : v.display = w.display) :
    (∀ a, coerce a v = coerce a w) ∧ ∀ typeName, bindId typeName v = bindId typeName w := by
  constructor
  · intro a
    calc coerce a v = coerce a (.text v.display) := (coerce_text_display hv a).symm
      _ = coerce a (.text w.display) := by rw [h]
      _ = coerce a w := coerce_text_display hw a
  · intro typeName
    calc bindId typeName v = bindId typeName (.text v.display) := (bindId_text_display hv _).symm
      _ = bindId typeName (.text w.display) := by rw [h]
      _ = bindId typeName w := bindId_text_display hw _

/-- The least signed word and its digits. -/
theorem bound_by_text_least :
    (FieldValue.int Int64.minValue).isNull = false ∧
      (FieldValue.text "-9223372036854775808").isNull = false ∧
      (FieldValue.int Int64.minValue).display = (FieldValue.text "-9223372036854775808").display ∧
      coerce ⟨"balance", .i64, none, false, .unchanged⟩ (.text "-9223372036854775808") =
        .ok (.ofInt Int64.minValue) ∧
      coerce ⟨"balance", .u64, none, false, .unchanged⟩ (.text "-9223372036854775808") =
        .error (.outOfRange (-9223372036854775808) .u64) ∧
      bindId "account" (.text "-9223372036854775808") =
        .error (.invalidId "-9223372036854775808") := by
  have htext : (FieldValue.int Int64.minValue).display =
      (FieldValue.text "-9223372036854775808").display := by decide
  obtain ⟨hcoerce, hbind⟩ := bound_by_text (v := .int Int64.minValue)
    (w := .text "-9223372036854775808") rfl rfl htext
  refine ⟨rfl, rfl, htext, ?_, ?_, ?_⟩
  · rw [← hcoerce]
    decide
  · rw [← hcoerce]
    decide
  · rw [← hbind]
    decide

end

end RecordStore

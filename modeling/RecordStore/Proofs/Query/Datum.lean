import Mathlib
import RecordStore.Binding
import RecordStore.Database.Cell
import RecordStore.Query.Plan
import RecordStore.Proofs.Text.Utf8Order

/-!
What values are compared by, apart from any database: numbers by value, texts by their octets, and
false before true.  The cells of a column stand to each other as the data that they hold.
-/
namespace RecordStore
open Sql Database

/-- A value that can be compared with others of its kind. -/
inductive Datum
  | truth (b : Bool)
  | number (n : Int)
  | text (s : String)
deriving DecidableEq

namespace Datum

def Less : Datum → Datum → Prop
  | truth a, truth b => a = false ∧ b = true
  | number m, number n => m < n
  | text s, text t => Text.utf8Octets s < Text.utf8Octets t
  | _, _ => False

/-- The order of data among which there may be nulls, which come first. -/
def Before : Option Datum → Option Datum → Prop
  | none, some _ => True
  | some x, some y => x.Less y
  | _, none => False

/-- Whether a column of a type holds data of this kind. -/
def Fits : ColumnType → Datum → Prop
  | .boolean, truth _ => True
  | .bigInt, number _ => True
  | .character, text _ => True
  | .characters _, text _ => True
  | .text, text _ => True
  | _, _ => False

end Datum

/-- What an operator other than that for lists says of two data. -/
def Operator.Relates : Operator → Datum → Datum → Prop
  | .eq, x, y => x = y
  | .ne, x, y => x ≠ y
  | .gt, x, y => y.Less x
  | .ge, x, y => y.Less x ∨ x = y
  | .lt, x, y => x.Less y
  | .le, x, y => x.Less y ∨ x = y
  | .within, _, _ => False

/-- The datum of a bound value; nothing when it is null. -/
def Sql.Value.datum? : Value → Option Datum
  | .bool b => b.map .truth
  | .bigInt n => n.map fun n => .number n.toInt
  | .unsigned n => n.map fun n => .number n.toNat
  | .bigUnsigned n => n.map fun n => .number (Int64.ofInt n.toNat).toInt
  | .text s => s.map .text

/-! ### Ranks -/

/-- Where a cell without a fraction stands: nulls before numbers, and numbers before texts. -/
abbrev Rank := ℕ ×ₗ ℤ ×ₗ String

namespace Rank

def null : Rank := toLex (0, toLex (0, ""))

def number (n : Int) : Rank := toLex (1, toLex (n, ""))

def text (s : String) : Rank := toLex (2, toLex (0, s))

theorem null_lt_number (n : Int) : null < number n := by
  simp [null, number, Prod.Lex.toLex_lt_toLex]

theorem null_lt_text (s : String) : null < text s := by
  simp [null, text, Prod.Lex.toLex_lt_toLex]

theorem number_lt_text (n : Int) (s : String) : number n < text s := by
  simp [number, text, Prod.Lex.toLex_lt_toLex]

theorem number_lt_number {m n : Int} : number m < number n ↔ m < n := by
  simp [number, Prod.Lex.toLex_lt_toLex]

theorem text_lt_text {s t : String} : text s < text t ↔ s < t := by
  simp [text, Prod.Lex.toLex_lt_toLex, -String.lt_iff_ltb]

end Rank

namespace Database

def Cell.rank : Cell → Rank
  | .integer n => .number n.toInt
  | .text s => .text s
  | _ => .null

/-- Whether a cell holds no number with a fraction. -/
def Cell.Plain : Cell → Prop
  | .real _ => False
  | _ => True

end Database

def Datum.rank : Option Datum → Rank
  | none => .null
  | some (truth b) => .number (if b then 1 else 0)
  | some (number n) => .number n
  | some (text s) => .text s

theorem Cell.before_iff {a b : Cell} (ha : a.Plain) (hb : b.Plain) :
    a.before b = true ↔ a.rank < b.rank := by
  cases a with
  | null => cases b with
    | null => simp [Cell.before]
    | integer m => simp [Cell.before, Cell.rank, Rank.null_lt_number]
    | real x => exact hb.elim
    | text s => simp [Cell.before, Cell.rank, Rank.null_lt_text]
  | integer n => cases b with
    | null => simp [Cell.before, Cell.rank, (Rank.null_lt_number _).le]
    | integer m =>
      simp [Cell.before, Cell.rank, Cell.less, Cell.standing?, Rank.number_lt_number]
    | real x => exact hb.elim
    | text s => simp [Cell.before, Cell.rank, Rank.number_lt_text]
  | real x => exact ha.elim
  | text s => cases b with
    | null => simp [Cell.before, Cell.rank, (Rank.null_lt_text _).le]
    | integer m => simp [Cell.before, Cell.rank, (Rank.number_lt_text _ _).le]
    | real x => exact hb.elim
    | text t =>
      simp [Cell.before, Cell.rank, Rank.text_lt_text, -String.lt_iff_ltb]

theorem Cell.same_iff {a b : Cell} (ha : a.Plain) (hb : b.Plain) :
    a.same b = true ↔ a.rank = b.rank := by
  rw [Cell.same, Bool.and_eq_true, Bool.not_eq_true', Bool.not_eq_true', ← Bool.not_eq_true,
    ← Bool.not_eq_true, Cell.before_iff ha hb, Cell.before_iff hb ha, not_lt, not_lt]
  constructor
  · intro h
    exact le_antisymm h.2 h.1
  · intro h
    rw [h]
    exact ⟨le_refl _, le_refl _⟩

/-! ### Cells of bound values -/

theorem toInt_ofInt_word (n : UInt32) : (Int64.ofInt n.toNat).toInt = n.toNat := by
  have hlt := n.toNat_lt
  exact Int64.toInt_ofInt_of_le (by omega) (by omega)

theorem Cell.rank_ofValue (v : Value) : (Cell.ofValue v).rank = Datum.rank v.datum? := by
  cases v with
  | bool b => cases b with
    | none => rfl
    | some b => cases b <;> rfl
  | bigInt n => cases n <;> rfl
  | unsigned n => cases n with
    | none => rfl
    | some n => exact congrArg Rank.number (toInt_ofInt_word n)
  | bigUnsigned n => cases n with
    | none => rfl
    | some n => simp [Cell.ofValue, Cell.rank, Value.datum?, Datum.rank]
  | text s => cases s <;> rfl

theorem Cell.plain_ofValue (v : Value) : (Cell.ofValue v).Plain := by
  cases v with
  | bool b => cases b <;> trivial
  | bigInt n => cases n <;> trivial
  | unsigned n => cases n <;> trivial
  | bigUnsigned n => cases n <;> trivial
  | text s => cases s <;> trivial

theorem Cell.ofValue_eq_null {v : Value} : Cell.ofValue v = .null ↔ v.datum? = none := by
  cases v with
  | bool b => cases b <;> simp [Cell.ofValue, Value.datum?]
  | bigInt n => cases n <;> simp [Cell.ofValue, Value.datum?]
  | unsigned n => cases n <;> simp [Cell.ofValue, Value.datum?]
  | bigUnsigned n => cases n <;> simp [Cell.ofValue, Value.datum?]
  | text s => cases s <;> simp [Cell.ofValue, Value.datum?]

/-! ### Data of one column -/

namespace Datum
variable {type : ColumnType} {x y : Datum}

/-- Data that fit one column are of one kind. -/
theorem kind_of_fits (hx : x.Fits type) (hy : y.Fits type) :
    (∃ a b, x = truth a ∧ y = truth b) ∨ (∃ m n, x = number m ∧ y = number n) ∨
      ∃ s t, x = text s ∧ y = text t := by
  cases x <;> cases y <;> cases type <;>
    first
    | exact hx.elim
    | exact hy.elim
    | exact .inl ⟨_, _, rfl, rfl⟩
    | exact .inr (.inl ⟨_, _, rfl, rfl⟩)
    | exact .inr (.inr ⟨_, _, rfl, rfl⟩)

theorem rank_lt_iff (hx : x.Fits type) (hy : y.Fits type) :
    rank (some x) < rank (some y) ↔ x.Less y := by
  obtain ⟨a, b, rfl, rfl⟩ | ⟨m, n, rfl, rfl⟩ | ⟨s, t, rfl, rfl⟩ := kind_of_fits hx hy
  · cases a <;> cases b <;> simp [rank, Less, Rank.number_lt_number]
  · exact Rank.number_lt_number
  · exact Rank.text_lt_text.trans Text.lt_iff_utf8Octets_lt

theorem rank_eq_iff (hx : x.Fits type) (hy : y.Fits type) :
    rank (some x) = rank (some y) ↔ x = y := by
  refine ⟨fun h => ?_, fun h => by rw [h]⟩
  obtain ⟨a, b, rfl, rfl⟩ | ⟨m, n, rfl, rfl⟩ | ⟨s, t, rfl, rfl⟩ := kind_of_fits hx hy
  · cases a <;> cases b <;> simp_all [rank, Rank.number]
  · simpa [rank, Rank.number] using h
  · simpa [rank, Rank.text] using h

theorem rank_none_lt (x : Datum) : rank none < rank (some x) := by
  cases x with
  | truth b => exact Rank.null_lt_number _
  | number n => exact Rank.null_lt_number n
  | text s => exact Rank.null_lt_text s

theorem rank_lt_iff_before {x y : Option Datum} (hx : ∀ d ∈ x, d.Fits type)
    (hy : ∀ d ∈ y, d.Fits type) : rank x < rank y ↔ Before x y := by
  cases x with
  | none => cases y with
    | none => simp [Before]
    | some y => simp [Before, rank_none_lt]
  | some x => cases y with
    | none => simp [Before, (rank_none_lt x).le]
    | some y => exact rank_lt_iff (hx x rfl) (hy y rfl)

theorem rank_eq_iff_eq {x y : Option Datum} (hx : ∀ d ∈ x, d.Fits type)
    (hy : ∀ d ∈ y, d.Fits type) : rank x = rank y ↔ x = y := by
  cases x with
  | none => cases y with
    | none => simp
    | some y => simp [(rank_none_lt y).ne]
  | some x => cases y with
    | none => simp [(rank_none_lt x).ne']
    | some y => rw [rank_eq_iff (hx x rfl) (hy y rfl), Option.some.injEq]

end Datum

/-- Whether a value can stand in a column of a type. -/
def Sql.Value.Fits (type : ColumnType) (v : Value) : Prop :=
  ∀ x ∈ v.datum?, x.Fits type

namespace Sql.Value
variable {type : ColumnType} {v w : Value}

/-- A value that fits a column is stored there as it is. -/
theorem Fits.affinity (h : v.Fits type) :
    (affinityOf type).apply (Cell.ofValue v) = Cell.ofValue v := by
  cases v with
  | bool b => cases b with
    | none => cases type <;> rfl
    | some b => cases type <;> first | rfl | exact (h _ rfl).elim
  | bigInt n => cases n with
    | none => cases type <;> rfl
    | some n => cases type <;> first | rfl | exact (h _ rfl).elim
  | unsigned n => cases n with
    | none => cases type <;> rfl
    | some n => cases type <;> first | rfl | exact (h _ rfl).elim
  | bigUnsigned n => cases n with
    | none => cases type <;> rfl
    | some n => cases type <;> first | rfl | exact (h _ rfl).elim
  | text s => cases s with
    | none => cases type <;> rfl
    | some s => cases type <;> first | rfl | exact (h _ rfl).elim

/-- Values of one column compare as their data do, and a null compares with nothing. -/
theorem Fits.satisfies_iff (hv : v.Fits type) (hw : w.Fits type) {o : Operator} {op : Comparison}
    (ho : Query.comparison? o = some op) :
    (Cell.ofValue v).satisfies op (Cell.ofValue w) = true ↔
      ∃ x y, v.datum? = some x ∧ w.datum? = some y ∧ o.Relates x y := by
  unfold Cell.satisfies
  split
  · next hnull =>
    simp only [Cell.ofValue_eq_null] at hnull
    constructor
    · intro h
      cases h
    · rintro ⟨x, y, hx, hy, -⟩
      rw [hx, hy] at hnull
      simp at hnull
  · next hnull =>
    simp only [Cell.ofValue_eq_null, not_or, ← ne_eq, Option.ne_none_iff_exists'] at hnull
    obtain ⟨⟨x, hx⟩, y, hy⟩ := hnull
    have hxf := hv x hx
    have hyf := hw y hy
    have hbefore : (Cell.ofValue v).before (Cell.ofValue w) = true ↔ x.Less y := by
      rw [Cell.before_iff (Cell.plain_ofValue v) (Cell.plain_ofValue w), Cell.rank_ofValue,
        Cell.rank_ofValue, hx, hy, Datum.rank_lt_iff hxf hyf]
    have hafter : (Cell.ofValue w).before (Cell.ofValue v) = true ↔ y.Less x := by
      rw [Cell.before_iff (Cell.plain_ofValue w) (Cell.plain_ofValue v), Cell.rank_ofValue,
        Cell.rank_ofValue, hx, hy, Datum.rank_lt_iff hyf hxf]
    have hsame : (Cell.ofValue v).same (Cell.ofValue w) = true ↔ x = y := by
      rw [Cell.same_iff (Cell.plain_ofValue v) (Cell.plain_ofValue w), Cell.rank_ofValue,
        Cell.rank_ofValue, hx, hy, Datum.rank_eq_iff hxf hyf]
    have htotal : ¬ x.Less y ↔ y.Less x ∨ x = y := by
      rw [← Datum.rank_lt_iff hxf hyf, ← Datum.rank_lt_iff hyf hxf, not_lt, le_iff_lt_or_eq,
        eq_comm, Datum.rank_eq_iff hxf hyf]
    have htotal' : ¬ y.Less x ↔ x.Less y ∨ x = y := by
      rw [← Datum.rank_lt_iff hxf hyf, ← Datum.rank_lt_iff hyf hxf, not_lt, le_iff_lt_or_eq,
        Datum.rank_eq_iff hxf hyf]
    simp only [hx, hy, Option.some.injEq, exists_eq_left', ↓existsAndEq, true_and]
    cases o <;> simp only [Query.comparison?, Option.some.injEq, reduceCtorEq] at ho <;> subst ho <;>
      simp only [Operator.Relates, Bool.not_eq_true', ← Bool.not_eq_true, hbefore, hafter, hsame,
        htotal, htotal', ne_eq]

end Sql.Value

/-! ### Fitted scalars -/

/-- The texts that a column can be given for an attribute. -/
def Attribute.TakesText (a : Attribute) (x : String) : Prop :=
  match a.type with
  | .charOne => x.length = 1
  | .enum => x ∈ a.values.getD []
  | .smallString => x.length ≤ smallStringWidth
  | .longText => True
  | _ => False

/-- What a scalar is fitted to: a null, a number, a truth value, or the text that shows it. -/
theorem coerce_eq_ok {a : Attribute} {f : FieldValue} {v : Value} (h : coerce a f = .ok v) :
    f.isNull = true ∧ v = a.type.columnType.null ∨ f.isNull = false ∧
      ((∃ n, a.type.columnType = .bigInt ∧ v = .ofInt n) ∨
        (∃ b, a.type.columnType = .boolean ∧ v = .bool (some b)) ∨
          a.TakesText f.display ∧ v = .ofText f.display) := by
  unfold coerce at h
  split at h
  · next hnull => exact .inl ⟨hnull, (Except.ok.inj h).symm⟩
  · next hnull =>
    refine .inr ⟨by simpa using hnull, ?_⟩
    split at h
    · next least greatest hrange =>
      have hbig : a.type.columnType = .bigInt := by
        cases ht : a.type <;> rw [ht] at hrange <;> first | rfl | cases hrange
      split at h
      · cases h
      · split at h
        · exact .inl ⟨_, hbig, (Except.ok.inj h).symm⟩
        · cases h
    · split at h
      · next ht =>
        split at h
        · exact .inr (.inl ⟨_, by rw [ht]; rfl, (Except.ok.inj h).symm⟩)
        · cases h
      · next ht =>
        split at h
        · next htakes => exact .inr (.inr ⟨by rwa [Attribute.TakesText, ht], (Except.ok.inj h).symm⟩)
        · cases h
      · next ht =>
        simp only at h
        split at h
        · next htakes => exact .inr (.inr ⟨by rwa [Attribute.TakesText, ht], (Except.ok.inj h).symm⟩)
        · cases h
      · next ht =>
        split at h
        · next htakes => exact .inr (.inr ⟨by rwa [Attribute.TakesText, ht], (Except.ok.inj h).symm⟩)
        · cases h
      · next ht => exact .inr (.inr ⟨by rw [Attribute.TakesText, ht]; trivial, (Except.ok.inj h).symm⟩)
      · cases h

theorem Attribute.TakesText.fits {a : Attribute} {x : String} (h : a.TakesText x) :
    (Datum.text x).Fits a.type.columnType := by
  unfold Attribute.TakesText at h
  cases htype : a.type <;> rw [htype] at h <;> trivial

/-- A null becomes the null of the column, and any other scalar a datum that fits it. -/
theorem coerce_cases {a : Attribute} {f : FieldValue} {v : Value} (h : coerce a f = .ok v) :
    f.isNull = true ∧ v = a.type.columnType.null ∨
      f.isNull = false ∧ ∃ x, v.datum? = some x ∧ x.Fits a.type.columnType := by
  refine (coerce_eq_ok h).imp_right fun ⟨hnull, hv⟩ => ⟨hnull, ?_⟩
  rcases hv with ⟨n, htype, rfl⟩ | ⟨b, htype, rfl⟩ | ⟨htakes, rfl⟩
  · exact ⟨_, rfl, by rw [htype]; trivial⟩
  · exact ⟨_, rfl, by rw [htype]; trivial⟩
  · exact ⟨_, rfl, htakes.fits⟩

/-- A scalar is fitted to the column of its attribute. -/
theorem coerce_fits {a : Attribute} {f : FieldValue} {v : Value} (h : coerce a f = .ok v) :
    v.Fits a.type.columnType := by
  rcases coerce_cases h with ⟨-, rfl⟩ | ⟨-, x, hx, hfits⟩
  · cases a.type <;> exact nofun
  · intro y hy
    obtain rfl := Option.some.inj (hx.symm.trans hy)
    exact hfits

end RecordStore

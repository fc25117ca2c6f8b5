import Mathlib
import RecordStore.Json.Printer
import RecordStore.Json.Reader

/-!
Number literals and their characters.  A literal that is written out is read back as it was, whatever
stands behind it in a document.
-/
namespace RecordStore

/-- What can stand behind a value in a document: nothing, a separator or a closing bracket. -/
def EndsValue : List Char → Prop
  | [] => True
  | c :: _ => c = ',' ∨ c = ']' ∨ c = '\x7d'

theorem EndsValue.head_ne {rest : List Char} (h : EndsValue rest) {c : Char}
    (hc : rest.head? = some c) : c.isDigit = false ∧ c ≠ '.' ∧ c ≠ 'e' ∧ c ≠ 'E' := by
  cases rest with
  | nil => simp at hc
  | cons d ds =>
    obtain rfl : d = c := by simpa using hc
    rcases h with rfl | rfl | rfl <;> decide

namespace NumberLiteral

def signChars (negative : Bool) : List Char :=
  if negative then ['-'] else []

def fractionChars : Option (List Char) → List Char
  | none => []
  | some ds => '.' :: ds

/-- The exponent as the printer writes it, always with its sign. -/
def exponentChars : Option (Bool × List Char) → List Char
  | none => []
  | some (down, ds) => 'e' :: (if down then '-' else '+') :: ds

def chars (l : NumberLiteral) : List Char :=
  signChars l.negative ++ (l.whole ++ (fractionChars l.fraction ++ exponentChars l.exponent))

/-- Digits of a number that does not start with a superfluous zero. -/
def IsWhole (ds : List Char) : Prop :=
  ds = ['0'] ∨ ds ≠ [] ∧ (∀ c ∈ ds, c.isDigit = true) ∧ ds.head? ≠ some '0'

/-- A run of digits that is not empty. -/
def IsRun (ds : List Char) : Prop :=
  ds ≠ [] ∧ ∀ c ∈ ds, c.isDigit = true

structure WellFormed (l : NumberLiteral) : Prop where
  whole : IsWhole l.whole
  fraction : ∀ ds, l.fraction = some ds → IsRun ds
  exponent : ∀ e, l.exponent = some e → IsRun e.2

/-- What keeps a run of digits from going on. -/
def StopsDigits (rest : List Char) : Prop :=
  ∀ c, rest.head? = some c → c.isDigit = false

theorem digitRun_append {ds rest : List Char} (hd : ∀ c ∈ ds, c.isDigit = true)
    (hr : StopsDigits rest) : Document.digitRun (ds ++ rest) = (ds, rest) := by
  have hrest : rest.takeWhile Char.isDigit = [] ∧ rest.dropWhile Char.isDigit = rest := by
    cases rest with
    | nil => exact ⟨rfl, rfl⟩
    | cons c cs =>
      have hc : c.isDigit = false := hr c rfl
      exact ⟨by simp [hc], by simp [hc]⟩
  have ht : (ds ++ rest).takeWhile Char.isDigit = ds := by
    rw [List.takeWhile_append_of_pos hd, hrest.1, List.append_nil]
  have hdr : (ds ++ rest).dropWhile Char.isDigit = rest := by
    rw [List.dropWhile_append_of_pos hd, hrest.2]
  simp only [Document.digitRun, ht, hdr]

theorem wholePart_append {ds rest : List Char} (hw : IsWhole ds) (hr : StopsDigits rest) :
    Document.wholePart (ds ++ rest) = some (ds, rest) := by
  rcases hw with rfl | ⟨hne, hd, hz⟩
  · rfl
  · cases ds with
    | nil => exact absurd rfl hne
    | cons c cs =>
      have hc : c ≠ '0' := by simpa using hz
      have hrun := digitRun_append hd hr
      rw [List.cons_append] at hrun ⊢
      unfold Document.wholePart
      split
      · next h => exact absurd (List.cons.inj h).1 hc
      · simp [hrun]

theorem fractionPart_append {f : Option (List Char)} {rest : List Char}
    (hf : ∀ ds, f = some ds → IsRun ds) (hr : StopsDigits rest) (hp : rest.head? ≠ some '.') :
    Document.fractionPart (fractionChars f ++ rest) = some (f, rest) := by
  cases f with
  | none =>
    rw [fractionChars, List.nil_append]
    unfold Document.fractionPart
    split
    · simp at hp
    · rfl
  | some ds =>
    obtain ⟨hne, hd⟩ := hf ds rfl
    simp [fractionChars, Document.fractionPart, digitRun_append hd hr, hne]

theorem exponentPart_append {e : Option (Bool × List Char)} {rest : List Char}
    (he : ∀ x, e = some x → IsRun x.2) (hr : EndsValue rest) :
    Document.exponentPart (exponentChars e ++ rest) = some (e, rest) := by
  have hstop : StopsDigits rest := fun c hc => (hr.head_ne hc).1
  cases e with
  | none =>
    cases rest with
    | nil => rfl
    | cons c cs =>
      have hc := hr.head_ne (c := c) rfl
      simp [exponentChars, Document.exponentPart, hc.2.2.1, hc.2.2.2]
  | some x =>
    obtain ⟨down, ds⟩ := x
    obtain ⟨hne, hd⟩ := he _ rfl
    cases down <;>
      simp [exponentChars, Document.exponentPart, digitRun_append hd hstop, hne]

theorem numberLiteral_chars {l : NumberLiteral} (hl : l.WellFormed) {rest : List Char}
    (hr : EndsValue rest) : Document.numberLiteral (l.chars ++ rest) = some (l, rest) := by
  obtain ⟨negative, whole, fraction, exponent⟩ := l
  obtain ⟨hw, hf, he⟩ := hl
  simp only at hw hf he
  -- each part stops the digits of the one in front of it
  have hexp := exponentPart_append he hr
  have htail : StopsDigits (exponentChars exponent ++ rest) ∧
      (exponentChars exponent ++ rest).head? ≠ some '.' := by
    cases exponent with
    | none => exact ⟨fun c hc => (hr.head_ne hc).1, fun hc => (hr.head_ne hc).2.1 rfl⟩
    | some x =>
      refine ⟨fun c hc => ?_, by simp [exponentChars]⟩
      obtain rfl : 'e' = c := by simpa [exponentChars] using hc
      decide
  have hfrac := fractionPart_append hf htail.1 htail.2
  have hstop : StopsDigits (fractionChars fraction ++ (exponentChars exponent ++ rest)) := by
    cases fraction with
    | none => exact htail.1
    | some ds =>
      intro c hc
      obtain rfl : '.' = c := by simpa [fractionChars] using hc
      decide
  have hwhole := wholePart_append hw hstop
  simp only [chars, List.append_assoc]
  generalize exponentChars exponent ++ rest = tail at *
  generalize fractionChars fraction ++ tail = tail' at *
  have hhead : ∀ cs, whole ++ tail' ≠ '-' :: cs := by
    intro cs h
    rcases hw with rfl | ⟨hne, hd, -⟩
    · simp at h
    · cases whole with
      | nil => exact hne rfl
      | cons c ds =>
        obtain ⟨rfl, -⟩ := List.cons.inj h
        simpa using hd '-' (by simp)
  unfold Document.numberLiteral
  cases negative with
  | true => simp [signChars, hwhole, hfrac, hexp]
  | false =>
    simp only [signChars, Bool.false_eq_true, if_false, List.nil_append]
    simp [hwhole, hfrac, hexp]

/-- A literal starts with a digit or a minus sign. -/
theorem chars_head {l : NumberLiteral} (hl : l.WellFormed) :
    ∃ c cs, l.chars = c :: cs ∧ (c.isDigit = true ∨ c = '-') := by
  obtain ⟨negative, whole, fraction, exponent⟩ := l
  have hw := hl.whole
  cases negative with
  | true => exact ⟨'-', _, rfl, .inr rfl⟩
  | false =>
    cases whole with
    | nil => simp [IsWhole] at hw
    | cons c cs =>
      refine ⟨c, _, rfl, .inl ?_⟩
      rcases hw with h | ⟨-, hd, -⟩
      · obtain ⟨rfl, -⟩ := List.cons.inj h
        decide
      · exact hd c (by simp)

end NumberLiteral

end RecordStore

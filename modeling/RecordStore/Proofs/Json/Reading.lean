import Mathlib
import RecordStore.Proofs.Json.Real

/-!
The text of a value read as a document.  `value_chars` says which document that is, whatever stands
behind the value, as long as the reader may open as many levels as the value has.
-/
namespace RecordStore

namespace Json
open Document Number

/-! ### Strings -/

theorem hexPiece?_control : ∀ n < 32,
    hexPiece? '0' '0' (Nat.digitChar (n / 16)) (Nat.digitChar (n % 16)) =
      some (.char (Char.ofNat n)) := by
  decide

theorem pieces_escapedChar (c : Char) (cs : List Char) :
    pieces (escapedChar c ++ cs) = (pieces cs).map fun (ps, rest) => (.char c :: ps, rest) := by
  unfold escapedChar
  split
  · next h => subst h; rfl
  · next h1 =>
    split
    · next h => subst h; rfl
    · next h2 =>
      split
      · next h => subst h; rfl
      · split
        · next h => subst h; rfl
        · split
          · next h => subst h; rfl
          · split
            · next h => subst h; rfl
            · split
              · next h => subst h; rfl
              · split
                · next hlt =>
                  have hp := hexPiece?_control c.toNat hlt
                  rw [Char.ofNat_toNat] at hp
                  simp only [List.cons_append, List.nil_append, pieces, hp]
                · next hge =>
                  rw [List.cons_append, List.nil_append]
                  conv_lhs => unfold pieces
                  split
                  · next h => exact absurd (List.cons.inj h).1 h1
                  · next h => exact absurd (List.cons.inj h).1 h2
                  · next h => exact absurd (List.cons.inj h).1 h2
                  · next h =>
                    obtain ⟨rfl, rfl⟩ := List.cons.inj h
                    rw [if_neg (by tauto)]
                  · next h => cases h

theorem pieces_flatMap (cs rest : List Char) :
    pieces (cs.flatMap escapedChar ++ '"' :: rest) = some (cs.map .char, rest) := by
  induction cs with
  | nil => rfl
  | cons c cs ih =>
    rw [List.flatMap_cons, List.append_assoc, pieces_escapedChar, ih]
    rfl

theorem joined_map_char (cs : List Char) : joined (cs.map .char) = some cs := by
  induction cs with
  | nil => rfl
  | cons c cs ih => rw [List.map_cons, joined, ih]; rfl

/-- A string is read back as it was. -/
theorem stringBody_quoted (s : String) (rest : List Char) :
    stringBody (s.toList.flatMap escapedChar ++ '"' :: rest) = some (some s, rest) := by
  simp [stringBody, pieces_flatMap, joined_map_char]

/-! ### The document of a value -/

/-- The literal of an integer. -/
def integerLiteral (n : Int) : NumberLiteral :=
  ⟨n < 0, Nat.toDigits 10 n.natAbs, none, none⟩

theorem toList_decimal (n : Int) : (Text.decimal n).toList = (integerLiteral n).chars := by
  cases n with
  | ofNat n => simp [Text.decimal, integerLiteral, NumberLiteral.chars, NumberLiteral.signChars,
      NumberLiteral.fractionChars, NumberLiteral.exponentChars, Nat.repr]
  | negSucc n => simp [Text.decimal, integerLiteral, NumberLiteral.chars, NumberLiteral.signChars,
      NumberLiteral.fractionChars, NumberLiteral.exponentChars, Nat.repr, Int.negSucc_lt_zero]

theorem wellFormed_integerLiteral (n : Int) : (integerLiteral n).WellFormed where
  whole := isWhole_toDigits _
  fraction := by simp [integerLiteral]
  exponent := by simp [integerLiteral]

theorem toJson?_integerLiteral (n : WordInt) :
    (integerLiteral n.val).toJson? = some (.integer n) := by
  have habs : Nat.ofDigitChars 10 (Nat.toDigits 10 n.val.natAbs) 0 = n.val.natAbs :=
    Nat.ofDigitChars_toDigits (by decide) (by decide)
  have hsign : (if n.val < 0 then -(n.val.natAbs : Int) else n.val.natAbs) = n.val := by
    split <;> omega
  have hzero : ¬ (n.val < 0 ∧ n.val.natAbs = 0) := by omega
  simp only [NumberLiteral.toJson?, integerLiteral, habs]
  simp only [Option.isNone_none, decide_eq_true_eq, true_and]
  rw [if_pos hzero, hsign, WordInt.ofInt?, dif_pos ⟨n.lower, n.upper⟩]

mutual

/-- The document that the text of a value is. -/
def document : Json → Document
  | .null => .null
  | .bool b => .bool b
  | .integer n => .number (integerLiteral n.val)
  | .real x => .number (realLiteral x)
  | .string s => .string (some s)
  | .array vs => .array (documents vs)
  | .object ms => .object (memberDocuments ms)

def documents : List Json → List Document
  | [] => []
  | v :: vs => document v :: documents vs

def memberDocuments : List (String × Json) → List (Option String × Document)
  | [] => []
  | (k, v) :: ms => (some k, document v) :: memberDocuments ms

end

mutual

/-- The number of levels that a value opens. -/
def depth : Json → Nat
  | .array vs => itemsDepth vs + 1
  | .object ms => membersDepth ms + 1
  | _ => 0

def itemsDepth : List Json → Nat
  | [] => 0
  | v :: vs => max (depth v) (itemsDepth vs)

def membersDepth : List (String × Json) → Nat
  | [] => 0
  | (_, v) :: ms => max (depth v) (membersDepth ms)

end

/-- A character that no value starts with and that is no space stands for itself. -/
theorem skipSpace_of_not_isSpace {c : Char} (h : isSpace c = false) (cs : List Char) :
    skipSpace (c :: cs) = c :: cs := by
  simp [skipSpace, h]

/-- What a value starts with. -/
def StartsValue : List Char → Prop
  | [] => False
  | c :: _ => isSpace c = false ∧ c ≠ ']'

theorem startsValue_literal {l : NumberLiteral} (hl : l.WellFormed) (rest : List Char) :
    StartsValue (l.chars ++ rest) := by
  obtain ⟨c, cs, h, hc⟩ := NumberLiteral.chars_head hl
  rw [h, List.cons_append]
  rcases hc with hc | rfl
  · constructor
    · rw [Bool.eq_false_iff]
      intro hs
      simp only [isSpace, Bool.or_eq_true, beq_iff_eq] at hs
      rcases hs with ((rfl | rfl) | rfl) | rfl <;> simp at hc
    · rintro rfl
      simp at hc
  · exact ⟨by decide, by decide⟩

theorem startsValue_chars (v : Json) (rest : List Char) : StartsValue (chars v ++ rest) := by
  cases v with
  | null => exact ⟨by decide, by decide⟩
  | bool b => cases b <;> exact ⟨by decide, by decide⟩
  | integer n =>
    rw [chars, toList_decimal]
    exact startsValue_literal (wellFormed_integerLiteral _) rest
  | real x =>
    rw [chars, realChars_eq]
    exact startsValue_literal (wellFormed_realLiteral x) rest
  | string s => exact ⟨by decide, by decide⟩
  | array vs => exact ⟨by decide, by decide⟩
  | object ms => exact ⟨by decide, by decide⟩

theorem value_literal {l : NumberLiteral} (hl : l.WellFormed) (fuel d : Nat) {rest : List Char}
    (hr : EndsValue rest) :
    value (fuel + 1) d (l.chars ++ rest) = some (.number l, rest) := by
  have hread := NumberLiteral.numberLiteral_chars hl hr
  have hstart := startsValue_literal hl rest
  obtain ⟨c, cs, h, hc⟩ := NumberLiteral.chars_head hl
  rw [h, List.cons_append] at hread hstart ⊢
  have hne : ∀ d : Char, d.isDigit = false → d ≠ '-' → c ≠ d := by
    rintro d hd hm rfl
    rcases hc with hc | hc
    · rw [hd] at hc; cases hc
    · exact hm hc
  unfold value
  rw [skipSpace_of_not_isSpace hstart.1]
  split
  · next heq => exact absurd (List.cons.inj heq).1 (hne 'n' (by decide) (by decide))
  · next heq => exact absurd (List.cons.inj heq).1 (hne 't' (by decide) (by decide))
  · next heq => exact absurd (List.cons.inj heq).1 (hne 'f' (by decide) (by decide))
  · next heq => exact absurd (List.cons.inj heq).1 (hne '"' (by decide) (by decide))
  · next heq => exact absurd (List.cons.inj heq).1 (hne '[' (by decide) (by decide))
  · next heq => exact absurd (List.cons.inj heq).1 (hne '\x7b' (by decide) (by decide))
  · rw [hread]; rfl

/-! ### Reading a document -/

theorem length_itemChars (v : Json) (vs : List Json) :
    (chars v).length + 1 ≤ (itemChars (v :: vs)).length := by
  cases vs <;> simp [itemChars]

theorem length_memberChars (k : String) (v : Json) (ms : List (String × Json)) :
    (chars v).length + 1 ≤ (memberChars ((k, v) :: ms)).length := by
  cases ms <;> simp [memberChars, quotedChars] <;> omega

/-- With so much fuel every value short enough is read as its document. -/
def ReadsValues (fuel : Nat) : Prop :=
  ∀ (v : Json) (d : Nat) (rest : List Char), (chars v).length ≤ fuel → depth v ≤ d →
    EndsValue rest → value fuel d (chars v ++ rest) = some (document v, rest)

def ReadsItems (fuel : Nat) : Prop :=
  ∀ (v : Json) (vs : List Json) (d : Nat) (rest : List Char),
    (itemChars (v :: vs)).length ≤ fuel → itemsDepth (v :: vs) ≤ d →
      items fuel d (itemChars (v :: vs) ++ rest) = some (documents (v :: vs), rest)

def ReadsMembers (fuel : Nat) : Prop :=
  ∀ (k : String) (v : Json) (ms : List (String × Json)) (d : Nat) (rest : List Char),
    (memberChars ((k, v) :: ms)).length ≤ fuel → membersDepth ((k, v) :: ms) ≤ d →
      members fuel d (memberChars ((k, v) :: ms) ++ rest) =
        some (memberDocuments ((k, v) :: ms), rest)

theorem value_array {fuel : Nat} (hitems : ReadsItems fuel) (vs : List Json) (d : Nat)
    (rest : List Char) (hf : (chars (.array vs)).length ≤ fuel + 1) (hd : depth (.array vs) ≤ d) :
    value (fuel + 1) d (chars (.array vs) ++ rest) = some (document (.array vs), rest) := by
  cases d with
  | zero => simp [depth] at hd
  | succ d =>
    cases vs with
    | nil => rfl
    | cons v vs =>
      have hread := hitems v vs d rest (by simpa [chars] using hf) (by simpa [depth] using hd)
      have hstart : StartsValue (itemChars (v :: vs) ++ rest) := by
        cases vs <;> simp only [itemChars, List.append_assoc] <;> exact startsValue_chars v _
      simp only [chars, List.cons_append]
      rw [value, skipSpace_of_not_isSpace (by decide)]
      generalize itemChars (v :: vs) ++ rest = cs at hread hstart
      cases cs with
      | nil => exact hstart.elim
      | cons c cs =>
        simp only [skipSpace_of_not_isSpace hstart.1]
        split
        · next h => exact absurd (List.cons.inj h).1 hstart.2
        · rw [hread]; rfl

theorem value_object {fuel : Nat} (hmembers : ReadsMembers fuel) (ms : Record) (d : Nat)
    (rest : List Char) (hf : (chars (.object ms)).length ≤ fuel + 1)
    (hd : depth (.object ms) ≤ d) :
    value (fuel + 1) d (chars (.object ms) ++ rest) = some (document (.object ms), rest) := by
  cases d with
  | zero => simp [depth] at hd
  | succ d =>
    cases ms with
    | nil => rfl
    | cons m ms =>
      obtain ⟨k, v⟩ := m
      have hread := hmembers k v ms d rest (by simpa [chars] using hf) (by simpa [depth] using hd)
      have hstart : ∃ cs, memberChars ((k, v) :: ms) ++ rest = '"' :: cs := by
        cases ms <;> simp [memberChars, quotedChars]
      obtain ⟨cs, hcs⟩ := hstart
      simp only [chars, List.cons_append]
      rw [value, skipSpace_of_not_isSpace (by decide)]
      rw [hcs] at hread ⊢
      simp only [skipSpace_of_not_isSpace (show isSpace '"' = false by decide)]
      split
      · next h => exact absurd (List.cons.inj h).1 (by decide)
      · rw [hread]; rfl

theorem readsValues_succ {fuel : Nat} (hitems : ReadsItems fuel) (hmembers : ReadsMembers fuel) :
    ReadsValues (fuel + 1) := by
  intro v d rest hf hd hr
  cases v with
  | null => rfl
  | bool b => cases b <;> rfl
  | integer n =>
    rw [chars, toList_decimal]
    exact value_literal (wellFormed_integerLiteral _) fuel d hr
  | real x =>
    rw [chars, realChars_eq]
    exact value_literal (wellFormed_realLiteral x) fuel d hr
  | string s =>
    have hs := stringBody_quoted s rest
    simp only [chars, quotedChars, List.cons_append, List.append_assoc, List.nil_append]
    rw [value, skipSpace_of_not_isSpace (by decide)]
    simp only [hs]
    rfl
  | array vs => exact value_array hitems vs d rest hf hd
  | object ms => exact value_object hmembers ms d rest hf hd

theorem readsItems_succ {fuel : Nat} (hvalues : ReadsValues fuel) (hitems : ReadsItems fuel) :
    ReadsItems (fuel + 1) := by
  intro v vs d rest hf hd
  have hlen := length_itemChars v vs
  have hdv : depth v ≤ d := (le_max_left _ _).trans hd
  have hdvs : itemsDepth vs ≤ d := (le_max_right _ _).trans hd
  cases vs with
  | nil =>
    have hv := hvalues v d (']' :: rest) (by omega) hdv (.inr (.inl rfl))
    simp only [itemChars, List.append_assoc, List.cons_append, List.nil_append]
    rw [items, hv]
    simp only [skipSpace_of_not_isSpace (show isSpace ']' = false by decide)]
    rfl
  | cons w ws =>
    have hrec : (itemChars (w :: ws)).length ≤ fuel := by
      simp only [itemChars, List.length_append, List.length_cons] at hf
      omega
    have hv := hvalues v d (',' :: (itemChars (w :: ws) ++ rest)) (by omega) hdv (.inl rfl)
    have hvs := hitems w ws d rest hrec hdvs
    simp only [itemChars, List.append_assoc, List.cons_append] at hv ⊢
    rw [items, hv]
    simp only [skipSpace_of_not_isSpace (show isSpace ',' = false by decide), hvs]
    rfl

theorem readsMembers_succ {fuel : Nat} (hvalues : ReadsValues fuel)
    (hmembers : ReadsMembers fuel) : ReadsMembers (fuel + 1) := by
  intro k v ms d rest hf hd
  have hlen := length_memberChars k v ms
  have hdv : depth v ≤ d := (le_max_left _ _).trans hd
  have hdms : membersDepth ms ≤ d := (le_max_right _ _).trans hd
  cases ms with
  | nil =>
    have hv := hvalues v d ('\x7d' :: rest) (by omega) hdv (.inr (.inr rfl))
    have hk := stringBody_quoted k (':' :: (chars v ++ '\x7d' :: rest))
    simp only [memberChars, quotedChars, List.append_assoc, List.cons_append, List.nil_append]
    rw [members, skipSpace_of_not_isSpace (by decide)]
    simp only [hk, skipSpace_of_not_isSpace (show isSpace ':' = false by decide), hv,
      skipSpace_of_not_isSpace (show isSpace '\x7d' = false by decide)]
    rfl
  | cons m ms =>
    obtain ⟨l, w⟩ := m
    have hrec : (memberChars ((l, w) :: ms)).length ≤ fuel := by
      simp only [memberChars, List.length_append, List.length_cons] at hf
      omega
    have hv := hvalues v d (',' :: (memberChars ((l, w) :: ms) ++ rest)) (by omega) hdv (.inl rfl)
    have hk := stringBody_quoted k
      (':' :: (chars v ++ ',' :: (memberChars ((l, w) :: ms) ++ rest)))
    have hms := hmembers l w ms d rest hrec hdms
    simp only [memberChars, quotedChars, List.append_assoc, List.cons_append,
      List.nil_append] at hv hk ⊢
    rw [members, skipSpace_of_not_isSpace (by decide)]
    simp only [hk, skipSpace_of_not_isSpace (show isSpace ':' = false by decide), hv,
      skipSpace_of_not_isSpace (show isSpace ',' = false by decide)]
    rw [hms]
    rfl

/-- Each call of the reader spends one unit of fuel and leaves the three kinds of call to be read
with the rest, so the induction is on the fuel for all three at once. -/
theorem reads (fuel : Nat) : ReadsValues fuel ∧ ReadsItems fuel ∧ ReadsMembers fuel := by
  induction fuel with
  | zero =>
    refine ⟨fun v d rest hf hd hr => ?_, fun v vs d rest hf hd => ?_, fun k v ms d rest hf hd => ?_⟩
    · have h := startsValue_chars v []
      rw [List.append_nil, List.eq_nil_of_length_eq_zero (Nat.le_zero.1 hf)] at h
      exact h.elim
    · have := length_itemChars v vs
      omega
    · have := length_memberChars k v ms
      omega
  | succ fuel ih =>
    obtain ⟨hvalues, hitems, hmembers⟩ := ih
    exact ⟨readsValues_succ hitems hmembers, readsItems_succ hvalues hitems,
      readsMembers_succ hvalues hmembers⟩

/-- The text of a value is read as its document, whatever ends it. -/
theorem value_chars (v : Json) (fuel d : Nat) (rest : List Char)
    (hf : (chars v).length ≤ fuel) (hd : depth v ≤ d) (hr : EndsValue rest) :
    value fuel d (chars v ++ rest) = some (document v, rest) :=
  (reads fuel).1 v d rest hf hd hr

theorem readSome_text (v : Json) {d : Nat} (hd : depth v ≤ d) :
    readSome d v.text = some (document v, []) := by
  have h := value_chars v (2 * (chars v).length + 2) d [] (by omega) hd trivial
  rw [List.append_nil] at h
  simp [readSome, text, h]

/-- The text of a value is read as its document by a reader that may open enough levels. -/
theorem read?_text (v : Json) {d : Nat} (hd : depth v ≤ d) : read? d v.text = some (document v) := by
  simp [read?, readSome_text v hd, skipSpace]

end Json

end RecordStore

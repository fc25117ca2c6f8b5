import Mathlib
import RecordStore.Proofs.Text.Decimal
import RecordStore.Text.Case

/-!
Upper and lower case are settled after one application, and texts that name integers have no case.
Both are read off the tables: no code point that a table maps to is one that it maps elsewhere.
-/
namespace RecordStore.Text

/-- The rows of a table: first and last code point, step and shift. -/
abbrev CaseRows := List (Nat × Nat × Nat × Int)

/-- Code points with their images of several characters. -/
abbrev CaseExpansions := List (Nat × List Nat)

/-! ### Code points of a table -/

/-- The code points of a row. -/
def rowCodes (r : Nat × Nat × Nat × Int) : List Nat :=
  (List.range ((r.2.1 - r.1) / r.2.2.1 + 1)).map fun k => r.1 + r.2.2.1 * k

/-- The code points that a table maps. -/
def sources (rows : CaseRows) (expansions : CaseExpansions) : List Nat :=
  rows.flatMap rowCodes ++ expansions.map (·.1)

/-- The code points that a table maps to. -/
def images (rows : CaseRows) (expansions : CaseExpansions) : List Nat :=
  rows.flatMap (fun r => (rowCodes r).map fun n : Nat => ((n : Int) + r.2.2.2).toNat) ++
    expansions.flatMap (·.2)

/-- A list of numbers as the binary places of one. -/
def mask : List Nat → Nat
  | [] => 0
  | n :: ns => 1 <<< n ||| mask ns

theorem testBit_mask (ns : List Nat) (n : Nat) : (mask ns).testBit n = decide (n ∈ ns) := by
  induction ns with
  | nil => simp [mask]
  | cons m ns ih =>
    rw [mask, Nat.testBit_or, ih, Nat.one_shiftLeft, Nat.testBit_two_pow]
    simp [eq_comm, Bool.decide_or]

/-- Lists whose masks share no place have no number in common. -/
theorem not_mem_of_mask {ms ns : List Nat} (h : mask ms &&& mask ns = 0) {n : Nat} (hn : n ∈ ns) :
    n ∉ ms := by
  intro hm
  have hbit : (mask ms &&& mask ns).testBit n = true := by
    rw [Nat.testBit_and, testBit_mask, testBit_mask, decide_eq_true hm, decide_eq_true hn]
    rfl
  rw [h, Nat.zero_testBit] at hbit
  cases hbit

theorem mem_of_shifted? {rows : CaseRows} {expansions : CaseExpansions} {n m : Nat}
    (h : shifted? rows n = some m) : n ∈ sources rows expansions ∧ m ∈ images rows expansions := by
  obtain ⟨r, hr, rfl⟩ := Option.map_eq_some_iff.1 h
  have hmem := List.mem_of_find?_eq_some hr
  have hin := List.find?_some hr
  simp only [Bool.and_eq_true, decide_eq_true_eq, beq_iff_eq] at hin
  obtain ⟨⟨hlo, hhi⟩, hstep⟩ := hin
  have hcode : n ∈ rowCodes r := by
    refine List.mem_map.2 ⟨(n - r.1) / r.2.2.1, List.mem_range.2 ?_, ?_⟩
    · exact Nat.lt_succ_of_le (Nat.div_le_div_right (by omega))
    · rw [Nat.mul_div_cancel' (Nat.dvd_of_mod_eq_zero hstep)]
      omega
  exact ⟨List.mem_append_left _ (List.mem_flatMap.2 ⟨r, hmem, hcode⟩),
    List.mem_append_left _ (List.mem_flatMap.2 ⟨r, hmem, List.mem_map.2 ⟨n, hcode, rfl⟩⟩)⟩

/-- A table leaves the code points alone that it does not map. -/
theorem caseImage_of_not_mem {rows : CaseRows} {expansions : CaseExpansions} {c : Char}
    (h : c.toNat ∉ sources rows expansions) : caseImage rows expansions c = [c] := by
  have hexpansion : expansions.lookup c.toNat = none := by
    rw [List.lookup_eq_none_iff]
    intro p hp
    rw [bne_iff_ne]
    exact fun hpc => h (List.mem_append_right _ (List.mem_map.2 ⟨p, hp, hpc.symm⟩))
  have hshift : shifted? rows c.toNat = none := by
    cases hs : shifted? rows c.toNat with
    | none => rfl
    | some m => exact absurd (mem_of_shifted? hs).1 h
  rw [caseImage, hexpansion, hshift]

/-- What a character becomes is the character itself or has a code point that the table maps to. -/
theorem mem_caseImage {rows : CaseRows} {expansions : CaseExpansions} {c x : Char}
    (h : x ∈ caseImage rows expansions c) :
    caseImage rows expansions c = [c] ∧ x = c ∨ ∃ m ∈ images rows expansions, x = Char.ofNat m := by
  unfold caseImage at h ⊢
  split at h
  · next ns hns =>
    obtain ⟨m, hm, rfl⟩ := List.mem_map.1 h
    obtain ⟨before, after, rfl, -⟩ := List.lookup_eq_some_iff.1 hns
    exact .inr ⟨m, List.mem_append_right _ (List.mem_flatMap.2 ⟨_, List.mem_append_cons_self, hm⟩),
      rfl⟩
  · split at h
    · next m hm =>
      obtain rfl := List.mem_singleton.1 h
      exact .inr ⟨m, (mem_of_shifted? hm).2, rfl⟩
    · exact .inl ⟨rfl, List.mem_singleton.1 h⟩

/-! ### Settled characters -/

/-- The image of a character, with the first 128 code points mapped for themselves. -/
def charImage (rows : CaseRows) (expansions : CaseExpansions) (ascii : Char → Char) (c : Char) :
    List Char :=
  if c.toNat < 128 then [ascii c] else caseImage rows expansions c

/-- A table that maps nothing which it maps to. -/
structure Settling (rows : CaseRows) (expansions : CaseExpansions) (ascii : Char → Char) :
    Prop where
  apart : mask (sources rows expansions) &&& mask (images rows expansions) = 0
  low : ∀ m ∈ images rows expansions, m < 128 → ascii (Char.ofNat m) = Char.ofNat m
  ascii_lt : ∀ n < 128, (ascii (Char.ofNat n)).toNat < 128
  ascii_twice : ∀ n < 128, ascii (ascii (Char.ofNat n)) = ascii (Char.ofNat n)
  ascii_zero : ascii '\x00' = '\x00'

theorem ofNat_toNat_or (m : Nat) : (Char.ofNat m).toNat = m ∨ Char.ofNat m = '\x00' := by
  by_cases h : m.isValidChar
  · exact .inl (by rw [Char.toNat_ofNat, if_pos h])
  · exact .inr (by rw [Char.ofNat, dif_neg h]; rfl)

variable {rows : CaseRows} {expansions : CaseExpansions} {ascii : Char → Char}

theorem Settling.charImage_charImage (h : Settling rows expansions ascii) {c x : Char}
    (hx : x ∈ charImage rows expansions ascii c) : charImage rows expansions ascii x = [x] := by
  unfold charImage at hx
  split at hx
  · next hlow =>
    obtain rfl := List.mem_singleton.1 hx
    have hlt := h.ascii_lt c.toNat hlow
    have htwice := h.ascii_twice c.toNat hlow
    rw [Char.ofNat_toNat] at hlt htwice
    rw [charImage, if_pos hlt, htwice]
  · next hhigh =>
    rcases mem_caseImage hx with ⟨himage, rfl⟩ | ⟨m, hm, rfl⟩
    · rw [charImage, if_neg hhigh, himage]
    · rcases ofNat_toNat_or m with hvalid | hzero
      · unfold charImage
        rw [hvalid]
        split
        · next hlow => rw [h.low m hm hlow]
        · exact caseImage_of_not_mem (by rw [hvalid]; exact not_mem_of_mask h.apart hm)
      · rw [hzero]
        show [ascii '\x00'] = _
        rw [h.ascii_zero]

theorem settling_upper : Settling upperRows upperExpansions Char.toUpper where
  apart := by decide +kernel
  low := by decide +kernel
  ascii_lt := by decide +kernel
  ascii_twice := by decide +kernel
  ascii_zero := by decide +kernel

theorem settling_lower : Settling lowerRows lowerExpansions Char.toLower where
  apart := by decide +kernel
  low := by decide +kernel
  ascii_lt := by decide +kernel
  ascii_twice := by decide +kernel
  ascii_zero := by decide +kernel

theorem upperChar_of_mem {c x : Char} (hx : x ∈ upperChar c) : upperChar x = [x] :=
  settling_upper.charImage_charImage hx

theorem lowerChar_of_mem {c x : Char} (hx : x ∈ lowerChar c) : lowerChar x = [x] :=
  settling_lower.charImage_charImage hx

/-! ### Whole texts -/

theorem flatMap_eq_self {f : Char → List Char} {cs : List Char} (h : ∀ c ∈ cs, f c = [c]) :
    cs.flatMap f = cs := by
  rw [List.flatMap_congr h, List.flatMap_singleton']

theorem upper_of_steady {s : String} (h : ∀ c ∈ s.toList, upperChar c = [c]) : upper s = s := by
  rw [upper, flatMap_eq_self h, String.ofList_toList]

/-- The upper case of a text is its own upper case. -/
theorem upper_upper (s : String) : upper (upper s) = upper s := by
  refine upper_of_steady fun x hx => ?_
  rw [upper, String.toList_ofList] at hx
  obtain ⟨c, -, hx⟩ := List.mem_flatMap.1 hx
  exact upperChar_of_mem hx

theorem ne_sigma_of_steady {c : Char} (h : lowerChar c = [c]) : c ≠ 'Σ' := by
  rintro rfl
  revert h
  decide +kernel

theorem lowerFrom_of_steady {before cs : List Char} (h : ∀ c ∈ cs, lowerChar c = [c]) :
    lowerFrom before cs = cs := by
  induction cs generalizing before with
  | nil => rfl
  | cons c cs ih =>
    have hc := h c List.mem_cons_self
    rw [lowerFrom, if_neg (ne_sigma_of_steady hc), hc,
      ih fun x hx => h x (List.mem_cons_of_mem _ hx)]
    rfl

theorem lower_of_steady {s : String} (h : ∀ c ∈ s.toList, lowerChar c = [c]) : lower s = s := by
  rw [lower, lowerFrom_of_steady h, String.ofList_toList]

/-- Both lower cases of a sigma are settled too. -/
theorem lowerChar_of_mem_lowerFrom {before cs : List Char} {x : Char}
    (hx : x ∈ lowerFrom before cs) : lowerChar x = [x] := by
  induction cs generalizing before with
  | nil => cases hx
  | cons c cs ih =>
    rw [lowerFrom] at hx
    rcases List.mem_append.1 hx with hx | hx
    · split_ifs at hx
      · obtain rfl := List.mem_singleton.1 hx
        decide +kernel
      · obtain rfl := List.mem_singleton.1 hx
        decide +kernel
      · exact lowerChar_of_mem hx
    · exact ih hx

/-- The lower case of a text is its own lower case. -/
theorem lower_lower (s : String) : lower (lower s) = lower s := by
  refine lower_of_steady fun x hx => ?_
  rw [lower, String.toList_ofList] at hx
  exact lowerChar_of_mem_lowerFrom hx

/-! ### Texts of integers -/

/-- The code points of blanks, digits and signs. -/
def steadyCodes : List Nat :=
  List.range' 0x09 5 ++ [0x20, 0x85, 0xA0, 0x1680] ++ List.range' 0x2000 11 ++
    [0x2028, 0x2029, 0x202F, 0x205F, 0x3000] ++ '+'.toNat :: '-'.toNat :: List.range' '0'.toNat 10

theorem image_of_steadyCodes : ∀ n ∈ steadyCodes,
    upperChar (Char.ofNat n) = [Char.ofNat n] ∧ lowerChar (Char.ofNat n) = [Char.ofNat n] := by
  decide +kernel

theorem steady_of_mem {c : Char} (h : c.toNat ∈ steadyCodes) :
    upperChar c = [c] ∧ lowerChar c = [c] := by
  have hc := image_of_steadyCodes c.toNat h
  rwa [Char.ofNat_toNat] at hc

theorem mem_steadyCodes_of_isBlank {c : Char} (h : isBlank c = true) : c.toNat ∈ steadyCodes := by
  simp only [isBlank, Bool.or_eq_true, Bool.and_eq_true, decide_eq_true_eq, beq_iff_eq] at h
  simp only [steadyCodes, List.mem_append, List.mem_range'_1, List.mem_cons, List.not_mem_nil]
  omega

theorem mem_steadyCodes_of_isDigit {c : Char} (h : c.isDigit = true) : c.toNat ∈ steadyCodes := by
  have hrange : '0'.toNat ≤ c.toNat ∧ c.toNat < '0'.toNat + 10 := by
    simp only [Char.isDigit, Bool.and_eq_true, decide_eq_true_eq] at h
    exact ⟨h.1, Nat.lt_succ_of_le h.2⟩
  refine List.mem_append_right _ (List.mem_cons_of_mem _ (List.mem_cons_of_mem _ ?_))
  exact List.mem_range'_1.2 hrange

theorem mem_trimBlanks_or {cs : List Char} {c : Char} (h : c ∈ cs) :
    c ∈ trimBlanks cs ∨ isBlank c = true := by
  have hdrop {cs : List Char} (h : c ∈ cs) : c ∈ cs.dropWhile isBlank ∨ isBlank c = true := by
    rw [← List.takeWhile_append_dropWhile (p := isBlank) (l := cs)] at h
    exact (List.mem_append.1 h).symm.imp_right List.mem_takeWhile_imp
  rcases hdrop h with h | h
  · refine (hdrop (List.mem_reverse.2 h)).imp_left fun h => ?_
    exact List.mem_reverse.2 h
  · exact .inr h

theorem sign_or_digit_of_integer? {cs : List Char} {n : Int} (h : integer? cs = some n) {c : Char}
    (hc : c ∈ cs) : c = '+' ∨ c = '-' ∨ c.isDigit = true := by
  unfold integer? at h
  split at h
  · obtain ⟨k, hk, -⟩ := Option.map_eq_some_iff.1 h
    obtain ⟨m, hk, -⟩ := Option.bind_eq_some_iff.1 hk
    rcases List.mem_cons.1 hc with rfl | hc
    · exact .inr (.inl rfl)
    · exact .inr (.inr (isDigit_of_natural? hk c hc))
  · obtain ⟨k, hk, -⟩ := Option.map_eq_some_iff.1 h
    rcases List.mem_cons.1 hc with rfl | hc
    · exact .inl rfl
    · exact .inr (.inr (isDigit_of_natural? hk c hc))
  · obtain ⟨k, hk, -⟩ := Option.map_eq_some_iff.1 h
    exact .inr (.inr (isDigit_of_natural? hk c hc))

/-- A text that names an integer has the same upper and lower case. -/
theorem case_of_integer? {s : String} {n : Int} (h : integer? (trimBlanks s.toList) = some n) :
    upper s = s ∧ lower s = s := by
  have hsteady (c : Char) (hc : c ∈ s.toList) : upperChar c = [c] ∧ lowerChar c = [c] := by
    refine steady_of_mem ?_
    rcases mem_trimBlanks_or hc with hc | hblank
    · rcases sign_or_digit_of_integer? h hc with rfl | rfl | hdigit
      · decide
      · decide
      · exact mem_steadyCodes_of_isDigit hdigit
    · exact mem_steadyCodes_of_isBlank hblank
  exact ⟨upper_of_steady fun c hc => (hsteady c hc).1,
    lower_of_steady fun c hc => (hsteady c hc).2⟩

end RecordStore.Text

import Mathlib
import RecordStore.Database.Basic
import RecordStore.Proofs.Json.Range
import RecordStore.Proofs.Text.Hex

/-!
Names of index tables and index objects.  Under one stem two names mean the same exactly when type
number and hash agree, also after a statement has read them without their quote marks.
-/
namespace RecordStore

namespace Text
open Number

theorem ofDigitChars_zeros (k : Nat) (ds : List Char) :
    Nat.ofDigitChars 10 (List.replicate k '0' ++ ds) 0 = Nat.ofDigitChars 10 ds 0 := by
  induction k with
  | zero => rfl
  | succ k ih =>
    rw [List.replicate_succ, List.cons_append, NumberLiteral.ofDigitChars_cons_of_isDigit]
    simpa using ih

theorem paddedDecimal_injective {width n m : Nat}
    (h : paddedDecimal width n = paddedDecimal width m) : n = m := by
  have hread : ∀ k, Nat.ofDigitChars 10 (paddedDecimal width k).toList 0 = k := by
    intro k
    simp only [paddedDecimal, String.toList_ofList, ofDigitChars_zeros]
    exact Nat.ofDigitChars_toDigits (by decide) (by decide)
  rw [← hread n, h, hread m]

/-! ### Quote marks -/

theorem unquoteBody_append {q : Char} {cs ds : List Char} (hd : q ∉ ds) :
    unquoteBody q (cs ++ ds) = (unquoteBody q cs).map (· ++ ds) := by
  induction cs using unquoteBody.induct q with
  | case1 => simp [unquoteBody, unquoteBody_eq_self hd]
  | case2 =>
    cases ds with
    | nil => simp [unquoteBody]
    | cons d ds =>
      have hne : d ≠ q := fun h => hd (by simp [h])
      simp [unquoteBody, hne]
  | case3 c hc =>
    rw [List.singleton_append, unquoteBody_cons_of_ne hc, unquoteBody_eq_self hd]
    simp [unquoteBody, hc]
  | case4 cs ih =>
    simp only [List.cons_append, unquoteBody, if_true, ih]
    cases unquoteBody q cs <;> rfl
  | case5 d cs hd' => simp [unquoteBody, hd']
  | case6 c d cs hc ih =>
    rw [List.cons_append, unquoteBody_cons_of_ne hc, ih, unquoteBody_cons_of_ne hc]
    cases unquoteBody q (d :: cs) <;> rfl

/-- Reading halves the number of quote marks. -/
theorem count_unquoteBody {q : Char} {cs ds : List Char} (h : unquoteBody q cs = some ds) :
    cs.count q = 2 * ds.count q := by
  induction cs using unquoteBody.induct q generalizing ds with
  | case1 => simp_all [unquoteBody]
  | case2 => simp [unquoteBody] at h
  | case3 c hc =>
    simp only [unquoteBody, if_neg hc, Option.some.injEq] at h
    subst h
    simp [hc]
  | case4 cs ih =>
    simp only [unquoteBody, if_true] at h
    obtain ⟨es, hes, rfl⟩ := Option.map_eq_some_iff.1 h
    simp only [List.count_cons_self, ih hes]
    omega
  | case5 d cs hd => simp [unquoteBody, hd] at h
  | case6 c d cs hc ih =>
    rw [unquoteBody_cons_of_ne hc] at h
    obtain ⟨es, hes, rfl⟩ := Option.map_eq_some_iff.1 h
    rw [List.count_cons_of_ne hc, List.count_cons_of_ne hc, ih hes]

end Text

namespace Database

theorem sameName_iff {a b : String} :
    sameName a b = true ↔ a.toList.map Char.toLower = b.toList.map Char.toLower := by
  simp [sameName, Text.foldAscii, ← String.toList_inj]

theorem sameName_self (a : String) : sameName a a = true := by simp [sameName]

theorem sameName_comm (a b : String) : sameName a b = sameName b a := by
  simp only [sameName]
  exact Bool.beq_comm

theorem sameName_trans {a b c : String} (h : sameName a b = true) (h' : sameName b c = true) :
    sameName a c = true := by
  simp only [sameName, beq_iff_eq] at h h' ⊢
  exact h.trans h'

/-- Names that mean the same are interchangeable in comparisons. -/
theorem sameName_congr {a b : String} (h : sameName a b = true) (c : String) :
    sameName a c = sameName b c := by
  simp only [sameName, beq_iff_eq] at h ⊢
  rw [h]

/-- Of things with different names each is found by its own. -/
theorem find?_of_pairwise {α : Type} {name : α → String} {xs : List α}
    (hp : xs.Pairwise fun a b => sameName (name a) (name b) = false) {a : α} (ha : a ∈ xs)
    {x : String} (h : sameName (name a) x = true) :
    xs.find? (fun b => sameName (name b) x) = some a := by
  induction xs with
  | nil => cases ha
  | cons b bs ih =>
    obtain ⟨hb, hbs⟩ := List.pairwise_cons.1 hp
    rcases List.mem_cons.1 ha with rfl | ha
    · exact List.find?_cons_of_pos h
    · rw [List.find?_cons_of_neg, ih hbs ha]
      intro hsame
      have hne := hb a ha
      rw [sameName_comm] at h
      rw [sameName_trans hsame h] at hne
      cases hne

end Database

namespace Index
open Database Sql Text

theorem toLower_hexDigit {d : Nat} (h : d < 16) : (hexDigit d).toLower = hexDigit d := by
  have key : ∀ d ∈ List.range 16, (hexDigit d).toLower = hexDigit d := by decide
  exact key d (List.mem_range.2 h)

theorem toLower_of_isDigit {c : Char} (h : c.isDigit = true) : c.toLower = c := by
  simp only [Char.isDigit, Bool.and_eq_true, decide_eq_true_eq] at h
  have h2 : c.val ≤ 57 := h.2
  unfold Char.toLower
  rw [dif_neg]
  intro hc
  exact absurd (UInt32.le_trans hc.1 h2) (by decide)

theorem mem_identifier {n : UInt32} {a : String} {c : Char} (h : c ∈ (identifier n a).toList) :
    c.isDigit = true ∨ c = '_' ∨ ∃ d < 16, c = hexDigit d := by
  simp only [identifier, hashText, paddedDecimal, String.toList_append, String.toList_ofList,
    List.mem_append, lowerHex, List.mem_map] at h
  rcases h with (h | h) | ⟨d, hd, rfl⟩
  · rcases h with h | h
    · rw [List.eq_of_mem_replicate h]
      exact .inl (by decide)
    · exact .inl (Nat.isDigit_of_mem_toDigits (by decide) (by decide) h)
  · have h' : c = '_' ∨ c = '_' := by simpa using h
    exact .inr (.inl (by tauto))
  · exact .inr (.inr ⟨d, Number.lt_of_mem_digits (by decide) hd, rfl⟩)

theorem toLower_identifier (n : UInt32) (a : String) :
    (identifier n a).toList.map Char.toLower = (identifier n a).toList := by
  conv_rhs => rw [← List.map_id (identifier n a).toList]
  refine List.map_congr_left fun c hc => ?_
  rcases mem_identifier hc with h | rfl | ⟨d, hd, rfl⟩
  · exact toLower_of_isDigit h
  · rfl
  · exact toLower_hexDigit hd

theorem quoteMark_not_mem_identifier (d : Dialect) (n : UInt32) (a : String) :
    d.quoteMark ∉ (identifier n a).toList := by
  intro h
  rcases mem_identifier h with h | h | ⟨k, hk, h⟩
  · cases d <;> exact absurd h (by decide)
  · cases d <;> exact absurd h (by decide)
  · have key : ∀ k ∈ List.range 16, d.quoteMark ≠ hexDigit k := by cases d <;> decide
    exact key k (List.mem_range.2 hk) h

theorem quote_not_mem_identifier (n : UInt32) (a : String) : '"' ∉ (identifier n a).toList :=
  quoteMark_not_mem_identifier .sqlite n a

/-- A name that ends with an identifier does not end with a quote mark. -/
theorem getLast?_append_identifier (d : Dialect) (p : String) (n : UInt32) (a : String) :
    (p ++ identifier n a).toList.getLast? ≠ some d.quoteMark := by
  have hne : (identifier n a).toList ≠ [] := by simp [identifier]
  rw [String.toList_append, List.getLast?_append_of_ne_nil _ hne]
  exact fun hlast => quoteMark_not_mem_identifier d n a (List.mem_of_getLast? hlast)

/-- The quote marks in the names of an index are those of the stem. -/
theorem quoteMark_mem_append_identifier {d : Dialect} {middle : String}
    (hmiddle : d.quoteMark ∉ middle.toList) (stem : String) (n : UInt32) (a : String) :
    d.quoteMark ∈ (stem ++ middle ++ identifier n a).toList ↔ d.quoteMark ∈ stem.toList := by
  rw [String.toList_append, String.toList_append, List.mem_append, List.mem_append]
  refine ⟨?_, fun h => .inl (.inl h)⟩
  rintro ((h | h) | h)
  · exact h
  · exact absurd h hmiddle
  · exact absurd h (quoteMark_not_mem_identifier d n a)

theorem quoteMark_mem_tableName (d : Dialect) (stem : String) (n : UInt32) (a : String) :
    d.quoteMark ∈ (tableName stem n a).toList ↔ d.quoteMark ∈ stem.toList :=
  quoteMark_mem_append_identifier (by cases d <;> decide) stem n a

theorem quoteMark_mem_indexName (d : Dialect) (stem : String) (n : UInt32) (a : String) :
    d.quoteMark ∈ (indexName stem n a).toList ↔ d.quoteMark ∈ stem.toList :=
  quoteMark_mem_append_identifier (by cases d <;> decide) stem n a

/-- Under a stem without quote marks the name of a table is read as it is written. -/
theorem readBare?_tableName {stem : String} (hstem : '"' ∉ stem.toList) {n : UInt32} {a : String}
    (h : readable (tableName stem n a) = true) :
    readBare? (tableName stem n a) = some (tableName stem n a) := by
  have hnone : '"' ∉ (tableName stem n a).toList :=
    fun hmem => hstem ((quoteMark_mem_tableName .sqlite stem n a).1 hmem)
  rw [readBare?, if_pos h, unquoteBody_eq_self hnone, Option.map_some, String.ofList_toList]

theorem identifier_eq_iff {n m : UInt32} {a b : String} :
    (identifier n a).toList = (identifier m b).toList ↔ n = m ∧ nameHash a = nameHash b := by
  constructor
  · intro h
    simp only [identifier, String.toList_append, List.append_assoc] at h
    have hlen : ("__".toList ++ (hashText a).toList).length =
        ("__".toList ++ (hashText b).toList).length := by
      simp [hashText, lowerHex, Number.length_digits]
    obtain ⟨hnum, hrest⟩ := List.append_inj' h hlen
    have hhash := List.append_cancel_left hrest
    have hn := paddedDecimal_injective (String.toList_inj.1 hnum)
    have ha := lowerHex_injective (nameHash a).toNat_lt (nameHash b).toNat_lt
      (by simpa [hashText] using hhash)
    exact ⟨UInt32.toNat_inj.1 hn, UInt64.toNat_inj.1 ha⟩
  · rintro ⟨rfl, h⟩
    simp [identifier, hashText, h]

/-- Names that end with an identifier under one prefix. -/
theorem sameName_append_identifier (p : String) {n m : UInt32} {a b : String} :
    sameName (p ++ identifier n a) (p ++ identifier m b) = true ↔
      n = m ∧ nameHash a = nameHash b := by
  rw [sameName_iff, ← identifier_eq_iff]
  simp only [String.toList_append, List.map_append, toLower_identifier]
  exact ⟨List.append_cancel_left, fun h => by rw [h]⟩

theorem sameName_tableName {stem : String} {n m : UInt32} {a b : String} :
    sameName (tableName stem n a) (tableName stem m b) = true ↔
      n = m ∧ nameHash a = nameHash b :=
  sameName_append_identifier (stem ++ "_i_")

/-- The tables of two types have different names, whatever the hashes of index names are. -/
theorem sameName_tableName_of_type_ne {stem : String} {n m : UInt32} (h : n ≠ m) (a b : String) :
    sameName (tableName stem n a) (tableName stem m b) = false := by
  rw [Bool.eq_false_iff]
  exact fun hsame => h (sameName_tableName.1 hsame).1

theorem sameName_tableName_of_hash_ne {a b : String} (h : nameHash a ≠ nameHash b) (stem : String)
    (n m : UInt32) : sameName (tableName stem n a) (tableName stem m b) = false := by
  rw [Bool.eq_false_iff]
  exact fun hsame => h (sameName_tableName.1 hsame).2

theorem tableName_congr (stem : String) (n : UInt32) {a b : String} (h : nameHash a = nameHash b) :
    tableName stem n a = tableName stem n b := by
  simp [tableName, identifier, hashText, h]

theorem length_hashText (a : String) : (hashText a).length = 16 := by
  rw [hashText, String.length_ofList, Text.lowerHex, List.length_map, Number.length_digits]

/-- A name that ends with an identifier is longer than the hash in it and what stands before that. -/
theorem append_identifier_ne {fixed : String} (hfixed : fixed.length < 18) (p : String) (n : UInt32)
    (a : String) : p ++ identifier n a ≠ fixed := by
  intro h
  have hlength := congrArg String.length h
  have hseparator : "__".length = 2 := rfl
  rw [identifier, String.length_append, String.length_append, String.length_append, length_hashText,
    hseparator] at hlength
  omega

/-- A table of an index is not that of the records. -/
theorem tableName_ne_recordTable (stem : String) (n : UInt32) (a : String) :
    tableName stem n a ≠ Scan.recordTable :=
  append_identifier_ne (by decide) (stem ++ "_i_") n a

/-- The name read from one that ends with an identifier. -/
theorem readBare?_append_identifier {p x : String} {n : UInt32} {a : String}
    (h : readBare? (p ++ identifier n a) = some x) :
    ∃ p' : String, unquoteBody '"' p.toList = some p'.toList ∧ x = p' ++ identifier n a := by
  unfold readBare? at h
  split at h
  · obtain ⟨cs, hcs, rfl⟩ := Option.map_eq_some_iff.1 h
    rw [String.toList_append, unquoteBody_append (quote_not_mem_identifier n a)] at hcs
    obtain ⟨ds, hds, rfl⟩ := Option.map_eq_some_iff.1 hcs
    refine ⟨String.ofList ds, by simpa using hds, ?_⟩
    rw [← String.toList_inj]
    simp
  · cases h

/-- Index objects are told apart by type number and hash as well. -/
theorem sameName_of_readBare? {stem x y : String} {n m : UInt32} {a b : String}
    (hx : readBare? (indexName stem n a) = some x) (hy : readBare? (indexName stem m b) = some y) :
    sameName x y = true ↔ n = m ∧ nameHash a = nameHash b := by
  obtain ⟨p, hp, rfl⟩ := readBare?_append_identifier (p := stem ++ "_idx_") hx
  obtain ⟨p', hp', rfl⟩ := readBare?_append_identifier (p := stem ++ "_idx_") hy
  rw [hp] at hp'
  obtain rfl : p = p' := String.toList_inj.1 (Option.some.inj hp')
  exact sameName_append_identifier p

theorem toLower_eq_quote (c : Char) : (c.toLower == '"') = (c == '"') := by
  rw [Bool.eq_iff_iff, beq_iff_eq, beq_iff_eq]
  constructor
  · intro hc
    by_contra hne
    unfold Char.toLower at hc
    split at hc
    · next hr =>
      have := congrArg Char.val hc
      simp only at this
      have h1 : c.toNat + 32 < 128 := by
        have : c.toNat ≤ 90 := hr.2
        omega
      have h2 := congrArg UInt32.toNat this
      have h3 : 65 ≤ c.toNat := hr.1
      rw [UInt32.toNat_add] at h2
      have h4 : c.val.toNat = c.toNat := rfl
      have h5 : ('a'.val - 'A'.val).toNat = 32 := rfl
      have h6 : ('"' : Char).val.toNat = 34 := rfl
      omega
    · exact hne hc
  · rintro rfl
    rfl

/-- A stem with quote marks makes names that are read as those of no table. -/
theorem quote_not_mem_of_readBare? {stem x : String} {n m : UInt32} {a b : String}
    (hx : readBare? (tableName stem n a) = some x) (h : sameName x (tableName stem m b) = true) :
    '"' ∉ stem.toList := by
  obtain ⟨p, hp, rfl⟩ := readBare?_append_identifier (p := stem ++ "_i_") hx
  have hcount := count_unquoteBody hp
  have hlower (cs : List Char) : (cs.map Char.toLower).count '"' = cs.count '"' := by
    simp only [List.count, List.countP_map]
    exact List.countP_congr fun c _ => by simp only [Function.comp_apply, toLower_eq_quote]
  -- equal names have equally many quote marks, which leaves none
  have hsame := congrArg (List.count '"') (sameName_iff.1 h)
  have hid := List.count_eq_zero.2 (quote_not_mem_identifier n a)
  have hid' := List.count_eq_zero.2 (quote_not_mem_identifier m b)
  rw [hlower, hlower, tableName, String.toList_append, String.toList_append, List.count_append,
    List.count_append, hid, hid'] at hsame
  rw [← List.count_eq_zero]
  rw [String.toList_append, List.count_append] at hcount hsame
  omega

/-- The name of a table read without its quote marks is that of no other table of the stem. -/
theorem sameName_readBare?_tableName {stem x : String} {n m : UInt32} {a b : String}
    (hx : readBare? (tableName stem n a) = some x) (h : sameName x (tableName stem m b) = true) :
    n = m ∧ nameHash a = nameHash b := by
  have hstem := quote_not_mem_of_readBare? hx h
  have hreadable : readable (tableName stem n a) = true := by
    unfold readBare? at hx
    split at hx
    · assumption
    · cases hx
  rw [readBare?_tableName hstem hreadable] at hx
  obtain rfl := Option.some.inj hx
  exact sameName_tableName.1 h

end Index

end RecordStore

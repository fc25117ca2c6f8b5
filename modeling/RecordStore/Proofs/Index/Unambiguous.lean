import Mathlib
import RecordStore.Proofs.Index.Naming
import RecordStore.Proofs.Key.RoundTrip

/-!
Names of index tables and index objects under all stems.  A stem is any text and may hold whatever else a
name is made of, tags, digits and underscores, so a name is taken apart from its right end, where neither
the digits of the hash nor those of the type number have an underscore in them.
-/
namespace RecordStore.Index
open Database Text

/-- A list is cut in one way at its last separator. -/
theorem append_cons_inj_of_last {sep : Char} {front front' back back' : List Char}
    (hback : sep ∉ back) (hback' : sep ∉ back')
    (h : front ++ sep :: back = front' ++ sep :: back') : front = front' ∧ back = back' := by
  have hcut := Key.splitAtLast_append hback front
  rw [h, Key.splitAtLast_append hback' front'] at hcut
  obtain ⟨hfront, hback⟩ := Prod.mk.inj (Option.some.inj hcut)
  exact ⟨hfront.symm, hback.symm⟩

theorem underscore_notMem_hashText (a : String) : '_' ∉ (hashText a).toList := by
  rw [hashText, String.toList_ofList]
  intro h
  rcases isLowerHex_of_mem_lowerHex h with hdigit | hletter
  · exact absurd hdigit (by decide)
  · exact absurd hletter (by decide)

theorem underscore_notMem_paddedDecimal (width n : Nat) :
    '_' ∉ (paddedDecimal width n).toList := by
  rw [paddedDecimal, String.toList_ofList]
  intro h
  rcases List.mem_append.1 h with hzero | hdigit
  · exact absurd (List.eq_of_mem_replicate hzero) (by decide)
  · exact absurd (Nat.isDigit_of_mem_toDigits (by decide) (by decide) hdigit) (by decide)

/-- Behind an underscore an identifier can be told from what is in front of it. -/
theorem append_identifier_eq_iff {p q : String} {n m : UInt32} {a b : String} :
    p ++ "_" ++ identifier n a = q ++ "_" ++ identifier m b ↔
      p = q ∧ n = m ∧ nameHash a = nameHash b := by
  have hparts (p : String) (n : UInt32) (a : String) : (p ++ "_" ++ identifier n a).toList =
      ((p.toList ++ '_' :: (paddedDecimal 4 n.toNat).toList) ++ '_' :: []) ++
        '_' :: (hashText a).toList := by
    simp [identifier]
  constructor
  · intro h
    have hlist := congrArg String.toList h
    rw [hparts, hparts] at hlist
    -- from the right: the hash, then nothing between the two underscores, then the type number
    obtain ⟨hrest, -⟩ := append_cons_inj_of_last (underscore_notMem_hashText a)
      (underscore_notMem_hashText b) hlist
    obtain ⟨hrest, -⟩ := append_cons_inj_of_last List.not_mem_nil List.not_mem_nil hrest
    obtain ⟨hstem, -⟩ := append_cons_inj_of_last (underscore_notMem_paddedDecimal 4 n.toNat)
      (underscore_notMem_paddedDecimal 4 m.toNat) hrest
    have hpq : p = q := String.toList_injective hstem
    rw [hpq, String.append_right_inj] at h
    exact ⟨hpq, identifier_eq_iff.1 (congrArg String.toList h)⟩
  · rintro ⟨rfl, h⟩
    rw [String.append_right_inj]
    exact String.toList_injective (identifier_eq_iff.2 h)

theorem tableName_eq_append (stem : String) (n : UInt32) (a : String) :
    tableName stem n a = stem ++ "_i" ++ "_" ++ identifier n a := by
  have htag : "_i_" = "_i" ++ "_" := by decide
  rw [tableName, htag, ← String.append_assoc]

theorem indexName_eq_append (stem : String) (n : UInt32) (a : String) :
    indexName stem n a = stem ++ "_idx" ++ "_" ++ identifier n a := by
  have htag : "_idx_" = "_idx" ++ "_" := by decide
  rw [indexName, htag, ← String.append_assoc]

/-- The tags of tables and of index objects end differently. -/
theorem append_tag_ne (stem other : String) : stem ++ "_i" ≠ other ++ "_idx" := by
  intro h
  have hlast := congrArg (fun s : String => s.toList.getLast?) h
  simp at hlast

/-- The physical names of two indexes agree exactly when stem, type number and hash do; no table is named
as an index object is, under whatever stems; and neither is named as one of the fixed tables. -/
theorem physical_names_unambiguous (stem other : String) (n m : UInt32) (a b : String) :
    (tableName stem n a = tableName other m b ↔
        stem = other ∧ n = m ∧ nameHash a = nameHash b) ∧
      (indexName stem n a = indexName other m b ↔
        stem = other ∧ n = m ∧ nameHash a = nameHash b) ∧
      tableName stem n a ≠ indexName other m b ∧
      tableName stem n a ∉ [recordTable.table, typeTable.table, schemaTable.table] ∧
      indexName stem n a ∉ [recordTable.table, typeTable.table, schemaTable.table] := by
  have hfixed (p : String) :
      p ++ identifier n a ∉ [recordTable.table, typeTable.table, schemaTable.table] := by
    intro h
    have hshort : ∀ fixed ∈ [recordTable.table, typeTable.table, schemaTable.table],
        fixed.length < 18 := by decide
    exact append_identifier_ne (hshort _ h) p n a rfl
  refine ⟨?_, ?_, ?_, hfixed (stem ++ "_i_"), hfixed (stem ++ "_idx_")⟩
  · rw [tableName_eq_append, tableName_eq_append, append_identifier_eq_iff, String.append_left_inj]
  · rw [indexName_eq_append, indexName_eq_append, append_identifier_eq_iff, String.append_left_inj]
  · intro h
    rw [tableName_eq_append, indexName_eq_append, append_identifier_eq_iff] at h
    exact append_tag_ne stem other h.1

end RecordStore.Index

import Mathlib
import RecordStore.Proofs.Key.RoundTrip
import RecordStore.Proofs.Text.PlaceValue

/-!
The grammar of plain texts.  A plain text is a type name, a colon and the digits of a number.  The name
may have colons of its own, so the number is what stands behind the last one.  Zeros in front of a number
are read over, so a key has many plain texts, of which one is written.

`plain_texts_read` gives the texts that are read and the keys that they are read as, for the reader of plain
texts and for that of a codec, which takes the same texts but for those with the mark of opaque ones.
-/
namespace RecordStore
open Text

namespace Key

/-! ### Texts that are read -/

/-- A text made of a type name, a colon and the digits of a number that fits a word, without the mark of
opaque texts in front. -/
structure PlainForm (text typeName digits : String) : Prop where
  unmarked : text.toList.head? ≠ some '@'
  eq_append : text = typeName ++ ":" ++ digits
  typeName_ne : typeName ≠ ""
  decimal : IsDecimal digits.toList
  fits : placeValue digits.toList < 2 ^ 64

theorem toList_joined (typeName digits : String) :
    (typeName ++ ":" ++ digits).toList = typeName.toList ++ ':' :: digits.toList := by
  simp

theorem head?_joined {typeName : String} (hne : typeName ≠ "") (digits : String) :
    (typeName ++ ":" ++ digits).toList.head? = typeName.toList.head? := by
  rw [toList_joined, List.head?_append_of_ne_nil _ (by simpa using hne)]

theorem splitAtLast_eq_some_iff {sep : Char} {cs front back : List Char} :
    splitAtLast sep cs = some (front, back) ↔ cs = front ++ sep :: back ∧ sep ∉ back := by
  constructor
  · intro h
    have hparts := List.takeWhile_append_dropWhile (p := (· != sep)) (l := cs.reverse)
    unfold splitAtLast at h
    split at h
    · cases h
    · next c rest hdrop =>
      obtain ⟨rfl, rfl⟩ := Prod.mk.inj (Option.some.inj h)
      have hc : c = sep := by
        have hfirst := List.head_dropWhile_not (· != sep) (l := cs.reverse) (by simp [hdrop])
        simpa [hdrop] using hfirst
      rw [hdrop, hc] at hparts
      constructor
      · calc cs = cs.reverse.reverse := cs.reverse_reverse.symm
          _ = (cs.reverse.takeWhile (· != sep) ++ sep :: rest).reverse := by rw [hparts]
          _ = rest.reverse ++ sep :: (cs.reverse.takeWhile (· != sep)).reverse := by simp
      · intro hmem
        simpa using List.mem_takeWhile_imp (List.mem_reverse.1 hmem)
  · rintro ⟨rfl, hback⟩
    exact splitAtLast_append hback front

/-- A text is read as a key when it has the form of one, and the number is that of its digits. -/
theorem parse?_eq_some_iff {text : String} {key : Key} :
    parse? text = some key ↔
      ∃ digits, PlainForm text key.typeName digits ∧ key.id.toNat = placeValue digits.toList := by
  constructor
  · intro h
    unfold parse? at h
    split at h
    · cases h
    · next hmark =>
      split at h
      · cases h
      · next front back hsplit =>
        obtain ⟨happend, -⟩ := splitAtLast_eq_some_iff.1 hsplit
        split at h
        · cases h
        · next n hnumber =>
          obtain ⟨hdecimal, rfl⟩ := natural?_eq_some_iff.1 hnumber
          split at h
          · next hwithin =>
            obtain rfl := Option.some.inj h
            refine ⟨String.ofList back, ⟨hmark, ?_, ?_, ?_, ?_⟩, ?_⟩
            · apply String.toList_injective
              rw [toList_joined, String.toList_ofList, String.toList_ofList, happend]
            · intro hempty
              exact hwithin.1 (by simpa using congrArg String.toList hempty)
            · rwa [String.toList_ofList]
            · rw [String.toList_ofList]
              exact hwithin.2
            · rw [String.toList_ofList]
              exact UInt64.toNat_ofNat_of_lt' hwithin.2
          · cases h
  · rintro ⟨digits, hform, hnumber⟩
    have hmark : key.typeName.toList.head? ≠ some '@' := by
      rw [← head?_joined hform.typeName_ne digits, ← hform.eq_append]
      exact hform.unmarked
    have hdigits : natural? digits.toList = some key.id.toNat :=
      natural?_eq_some_iff.2 ⟨hform.decimal, hnumber⟩
    rw [hform.eq_append, ← String.ofList_toList (s := digits)]
    exact parse?_of_digits hform.typeName_ne hmark hdigits

theorem parse_eq_ok_iff {text : String} {key : Key} :
    parse text = .ok key ↔ parse? text = some key := by
  unfold parse
  cases parse? text with
  | none => exact ⟨nofun, nofun⟩
  | some k => rw [Except.ok.injEq, Option.some.injEq]

theorem parse_eq_error {text : String} {f : Fault} (h : parse text = .error f) :
    f = .notPlain text := by
  unfold parse at h
  split at h
  · cases h
  · exact (Except.error.inj h).symm

theorem PlainForm.exists_key {text typeName digits : String} (h : PlainForm text typeName digits) :
    ∃ key, parse text = .ok key ∧ key.typeName = typeName ∧
      key.id.toNat = placeValue digits.toList := by
  have hword : (UInt64.ofNat (placeValue digits.toList)).toNat = placeValue digits.toList :=
    UInt64.toNat_ofNat_of_lt' h.fits
  exact ⟨⟨typeName, UInt64.ofNat (placeValue digits.toList)⟩,
    parse_eq_ok_iff.2 (parse?_eq_some_iff.2 ⟨digits, h, hword⟩), rfl, hword⟩

/-! ### Texts that are written -/

/-- The text that is written for a key is the one whose digits have no zero to spare. -/
theorem text_eq_iff {typeName digits : String} {key : Key} (hname : key.typeName = typeName)
    (hdecimal : IsDecimal digits.toList) (hnumber : key.id.toNat = placeValue digits.toList) :
    key.text = typeName ++ ":" ++ digits ↔ ¬ HasSpareZero digits.toList := by
  rw [← toDigits_placeValue_eq_iff hdecimal, ← hnumber, ← hname, Key.text, ← Nat.toList_repr]
  constructor
  · intro h
    have hlists := congrArg String.toList h
    rw [toList_joined, toList_joined] at hlists
    exact (List.cons.inj (List.append_cancel_left hlists)).2
  · intro h
    rw [String.toList_injective h]

/-- A written key is read back, if it has a name and no mark in front. -/
theorem parse_text_iff (key : Key) : parse key.text = .ok key ↔
    key.typeName ≠ "" ∧ key.typeName.toList.head? ≠ some '@' := by
  rw [parse_eq_ok_iff]
  constructor
  · intro h
    obtain ⟨digits, hform, -⟩ := parse?_eq_some_iff.1 h
    have hunmarked := hform.unmarked
    rw [Key.text, head?_joined hform.typeName_ne] at hunmarked
    exact ⟨hform.typeName_ne, hunmarked⟩
  · rintro ⟨hne, hmark⟩
    rw [Key.text, ← String.ofList_toList (s := key.id.toNat.repr)]
    exact parse?_of_digits hne hmark (natural?_repr _)

end Key

/-! ### Reading with a codec -/

namespace KeyCodec
open Key

/-- Without a colon there is no plain text. -/
theorem parse_of_no_colon {text : String} (h : ':' ∉ text.toList) :
    parse text = .error (.notPlain text) := by
  cases hparse : parse text with
  | error f => rw [parse_eq_error hparse]
  | ok key =>
    obtain ⟨digits, hform, -⟩ := parse?_eq_some_iff.1 (parse_eq_ok_iff.1 hparse)
    rw [hform.eq_append, toList_joined] at h
    exact absurd (by simp) h

end KeyCodec

open Key

/-- A text is read as a plain key exactly when it has the form of one, and it is then read as the key of
its name and its number; the text written for that key is the same exactly when the number has no zero to
spare in front.  The written text of a key is read back exactly when the key has a type name, which does not
start with the mark of opaque texts.  On texts without that mark every codec, with whatever keys at hand,
agrees with the reader of plain texts: it reads the same texts as the same keys, and refuses all others as
invalid keys. -/
theorem plain_texts_read :
    (∀ text, (∃ key, parse text = .ok key) ↔ ∃ typeName digits, PlainForm text typeName digits) ∧
    (∀ text typeName digits, PlainForm text typeName digits →
      ∃ key, parse text = .ok key ∧ key.typeName = typeName ∧
        key.id.toNat = placeValue digits.toList ∧
        (key.text = text ↔ ¬ HasSpareZero digits.toList)) ∧
    (∀ key, parse key.text = .ok key ↔
      key.typeName ≠ "" ∧ key.typeName.toList.head? ≠ some '@') ∧
    ∀ (c : KeyCodec) cache text, text.toList.head? ≠ some '@' →
      (∀ key, (c.decode text cache).1 = .ok key ↔ parse text = .ok key) ∧
      (∀ f, (c.decode text cache).1 = .error f →
        parse text = .error (.notPlain text) ∧ (f = .notPlain text ∨ f = .notKey text)) := by
  refine ⟨fun text => ⟨?_, ?_⟩, fun text typeName digits hform => ?_, parse_text_iff,
    fun c cache text hmark => ?_⟩
  · rintro ⟨key, hkey⟩
    obtain ⟨digits, hform, -⟩ := parse?_eq_some_iff.1 (parse_eq_ok_iff.1 hkey)
    exact ⟨key.typeName, digits, hform⟩
  · rintro ⟨typeName, digits, hform⟩
    obtain ⟨key, hkey, -⟩ := hform.exists_key
    exact ⟨key, hkey⟩
  · obtain ⟨key, hkey, hname, hnumber⟩ := hform.exists_key
    refine ⟨key, hkey, hname, hnumber, ?_⟩
    rw [hform.eq_append]
    exact text_eq_iff hname hform.decimal hnumber
  · rw [KeyCodec.decode_of_unmarked c cache hmark]
    by_cases hcolon : ':' ∈ text.toList
    · rw [if_pos hcolon]
      refine ⟨fun key => Iff.rfl, fun f hf => ?_⟩
      obtain rfl := parse_eq_error hf
      exact ⟨hf, .inl rfl⟩
    · rw [if_neg hcolon, KeyCodec.parse_of_no_colon hcolon]
      refine ⟨fun key => ⟨nofun, nofun⟩, fun f hf => ?_⟩
      exact ⟨rfl, .inr (Except.error.inj hf).symm⟩

/-- A type name with a colon, and a number with zeros in front. -/
theorem plain_texts_read_nested :
    PlainForm "shop:item:007" "shop:item" "007" ∧
      (∃ key, parse "shop:item:007" = .ok key ∧ key.typeName = "shop:item" ∧ key.id.toNat = 7 ∧
        key.text ≠ "shop:item:007") ∧
      "shop:item:007".toList.head? ≠ some '@' ∧
      (KeyCodec.firstCodec.decode "shop:item:007" KeyCodec.sharedCache).1 = .ok ⟨"shop:item", 7⟩ := by
  have hread : natural? "007".toList = some 7 := by decide
  obtain ⟨hdecimal, hseven⟩ := natural?_eq_some_iff.1 hread
  have hform : PlainForm "shop:item:007" "shop:item" "007" :=
    ⟨by decide, by decide, by decide, hdecimal, by rw [← hseven]; norm_num⟩
  obtain ⟨-, hreads, -, hdecodes⟩ := plain_texts_read
  obtain ⟨key, hkey, hname, hnumber, hwritten⟩ := hreads _ _ _ hform
  have hid : key.id.toNat = 7 := hnumber.trans hseven.symm
  have hitem : key = ⟨"shop:item", 7⟩ := by
    obtain ⟨typeName, id⟩ := key
    exact congrArg₂ Key.mk hname (UInt64.toNat_inj.1 hid)
  refine ⟨hform, ⟨key, hkey, hname, hid, fun h => hwritten.1 h ?_⟩, hform.unmarked, ?_⟩
  · exact ⟨by decide, by decide⟩
  · rw [hitem] at hkey
    exact ((hdecodes KeyCodec.firstCodec KeyCodec.sharedCache _ hform.unmarked).1 _).2 hkey

end RecordStore

import Mathlib
import RecordStore.Proofs.Store.Permanence
import RecordStore.Proofs.Store.ReadBack
import RecordStore.Proofs.Store.Readings

/-!
Bulk reads and single ones.  A bulk read answers with those keys that it is asked for whose records can be
read one by one, and with the same records; in which order, how often and in which spelling the keys are
given makes no difference.
-/
namespace RecordStore
open Database Transaction Index RecordStore.Action

/-! ### Values under keys -/

/-- The record of a key is read as a value. -/
def Database.ReadsAs (db : Database) (key : Key) (v : Json) : Prop :=
  ∃ n m row, db.typeId? key.typeName = .ok (some n) ∧ keyWord key = .ok m ∧
    db.record? (typeWord n) m = some row ∧ Json.parse? row.text = some v

section
variable {stem : String} {accepted : Record → Prop} {db : Database} {key : Key} {v v' : Json}
  {wanted : List (Key × Int64)} {found : List (Key × Json)}

theorem Database.ReadsAs.unique (h : db.ReadsAs key v) (h' : db.ReadsAs key v') : v = v' := by
  obtain ⟨n, m, row, hn, hm, hrow, hv⟩ := h
  obtain ⟨n', m', row', hn', hm', hrow', hv'⟩ := h'
  obtain rfl := Option.some.inj (Except.ok.inj (hn.symm.trans hn'))
  obtain rfl := Except.ok.inj (hm.symm.trans hm')
  obtain rfl := Option.some.inj (hrow.symm.trans hrow')
  exact Option.some.inj (hv.symm.trans hv')

/-- What is fetched of a coherent database is what the keys that are asked for are read as. -/
theorem Coherent.fetched_iff (hc : Coherent stem accepted db)
    (hwords : ∀ q ∈ wanted, keyWord q.1 = .ok q.2) :
    db.Fetched wanted (key, v) ↔ (∃ q ∈ wanted, q.1 = key) ∧ db.ReadsAs key v := by
  constructor
  · rintro ⟨n, row, hn, hrow, htype, hstate, ⟨q, hq, hqtype, hqword⟩, hvalue⟩
    obtain ⟨hnonneg, hkey, hv⟩ := keyedValue_eq_ok.1 hvalue
    have hword : keyWord key = .ok row.id := by
      rw [show key = row.key key.typeName from hkey]
      exact keyWord_key _ hnonneg
    have hsame := key_of_keyWord (hqword ▸ hwords q hq)
    rw [hqtype] at hsame
    exact ⟨⟨q, hq, hsame.symm.trans hkey.symm⟩, n, row.id, row, hn, hword,
      htype ▸ hc.record?_eq hrow hstate, hv⟩
  · rintro ⟨⟨q, hq, rfl⟩, n, m, row, hn, hm, hrow, hv⟩
    obtain rfl := Except.ok.inj ((hwords q hq).symm.trans hm)
    have hmeets := List.find?_some hrow
    simp only [Bool.and_eq_true, beq_iff_eq, bne_iff_ne] at hmeets
    obtain ⟨⟨htype, hid⟩, hstate⟩ := hmeets
    have hword : keyWord q.1 = .ok row.id := hm.trans (congrArg Except.ok hid.symm)
    refine ⟨n, row, hn, List.mem_of_find?_eq_some hrow, htype, hstate, ⟨q, hq, rfl, hid.symm⟩,
      keyedValue_eq_ok.2 ⟨?_, (key_of_keyWord hword).symm, hv⟩⟩
    exact (storedId?_eq_some (keyWord_eq_ok hword)).1

/-- A bulk read of a coherent database loses nothing and adds nothing, and has each key once. -/
theorem Coherent.mem_fetch (hc : Coherent stem accepted db)
    (hwords : ∀ q ∈ wanted, keyWord q.1 = .ok q.2) (h : Store.fetch db wanted = .ok found) :
    (found.map (·.1)).Nodup ∧
      ∀ key v, (key, v) ∈ found ↔ (∃ q ∈ wanted, q.1 = key) ∧ db.ReadsAs key v := by
  obtain ⟨xs, rfl, hxs⟩ := fetch_eq_ok h
  have hmem (key : Key) (v : Json) :
      (key, v) ∈ xs ↔ (∃ q ∈ wanted, q.1 = key) ∧ db.ReadsAs key v :=
    (hxs _).trans (hc.fetched_iff hwords)
  refine ⟨nodup_foldl_insertValue List.nodup_nil, fun key v => ?_⟩
  rw [← hmem key v, mem_foldl_insertValue]
  · simp
  · -- two values of one key are the value that it is read as
    rintro ⟨key, v⟩ ⟨key', v'⟩ hp hq hkey
    obtain rfl : key = key' := hkey
    have hv := ((hmem key v).1 (hp.resolve_left List.not_mem_nil)).2
    have hv' := ((hmem key v').1 (hq.resolve_left List.not_mem_nil)).2
    rw [hv.unique hv']

/-- Where all records can be read, no bulk read fails of the database. -/
theorem Coherent.exists_fetch (hc : Coherent stem accepted db)
    (hparse : ∀ row ∈ db.records, row.state ≠ .deleted → (Json.parse? row.text).isSome = true)
    (wanted : List (Key × Int64)) : ∃ found, Store.fetch db wanted = .ok found := by
  refine FailsOnly.exists_ok (failsOnly_fetch (fun T => ?_) ?_)
  · rcases hc.types.typeId?_cases T with hn | ⟨n, hn⟩
    · exact hn ▸ failsOnly_ok _
    · exact hn ▸ failsOnly_ok _
  · intro q _ n _ row hrow _ hstate _
    obtain ⟨v, hv⟩ := Option.isSome_iff_exists.1 (hparse row hrow hstate)
    have hvalue : Store.keyedValue q.1.typeName row = .ok (row.key q.1.typeName, v) :=
      keyedValue_eq_ok.2 ⟨(hc.records.each row hrow).id, rfl, hv⟩
    exact hvalue ▸ failsOnly_ok _

end

/-! ### What a store reads -/

namespace Store
variable {s : Store} {w : Workspace} {texts : List String} {text : String} {key : Key} {v : Json}

/-- A text has no number to ask for if it has no key, or one whose number cannot be stored. -/
theorem wordOf_error_iff : (∃ e, s.wordOf text = .error e) ↔
    (∃ f, s.reads text = .error f) ∨ ∃ key, s.reads text = .ok key ∧ 2 ^ 63 ≤ key.id.toNat := by
  unfold wordOf
  cases hreads : s.reads text with
  | error f => exact ⟨fun _ => .inl ⟨f, rfl⟩, fun _ => ⟨.invalidKey f, rfl⟩⟩
  | ok key =>
    rcases keyWord_cases key with ⟨m, hm⟩ | ⟨hm, hlarge⟩
    · obtain ⟨hnonneg, hid, -⟩ := storedId?_eq_some (keyWord_eq_ok hm)
      have hlt := m.toInt_lt
      have hword : (Except.ok key : Except Key.Fault Key).mapError Error.invalidKey >>= (fun key => do
          let word ← keyWord key
          return (key, word)) = .ok (key, m) := bind_eq_ok.2 ⟨key, rfl, bind_eq_ok.2 ⟨m, hm, rfl⟩⟩
      rw [hword]
      simp only [reduceCtorEq, exists_false, false_or, false_iff, Except.ok.injEq, exists_eq_left']
      omega
    · refine ⟨fun _ => .inr ⟨key, rfl, hlarge⟩, fun _ => ⟨.invalidKey (.outOfRange key), ?_⟩⟩
      exact bind_eq_error.2 (.inr ⟨key, rfl, bind_eq_error.2 (.inl hm)⟩)

theorem valueOf_eq_some_iff {db : Database} : s.valueOf db text = .ok (some v) ↔
    ∃ key, s.reads text = .ok key ∧ db.ReadsAs key v := by
  constructor
  · intro h
    obtain ⟨key, hkey, h⟩ := bind_eq_ok.1 h
    obtain ⟨number, hnumber, h⟩ := bind_eq_ok.1 h
    cases number with
    | none => cases h
    | some n =>
      obtain ⟨m, hm, h⟩ := bind_eq_ok.1 h
      cases hrow : db.record? (typeWord n) m with
      | none =>
        simp only [hrow] at h
        cases h
      | some row =>
        cases hv : Json.parse? row.text with
        | none =>
          simp only [hrow, hv] at h
          cases h
        | some v' =>
          simp only [hrow, hv] at h
          obtain rfl := Option.some.inj (Except.ok.inj h)
          exact ⟨key, mapError_eq_ok.1 hkey, n, m, row, hnumber, hm, hrow, hv⟩
  · rintro ⟨key, hkey, n, m, row, hn, hm, hrow, hv⟩
    refine bind_eq_ok.2 ⟨key, mapError_eq_ok.2 hkey, bind_eq_ok.2 ⟨some n, hn,
      bind_eq_ok.2 ⟨m, hm, ?_⟩⟩⟩
    simp only [hrow, hv]
    rfl

/-- A record is answered when its key is read as it. -/
theorem retrieve_eq_some_iff (hkeys : s.codec.Derives w.session.keys) :
    (s.retrieve text w).1 = .ok (some v) ↔
      ∃ key, s.reads text = .ok key ∧ w.database.ReadsAs key v := by
  rw [(gives_retrieve text w hkeys rfl).1]
  exact valueOf_eq_some_iff

end Store

/-! ### The order of keys -/

namespace Key

/-- The place of a key in an answer. -/
def place (key : Key) : String ×ₗ Nat :=
  toLex (key.typeName, key.id.toNat)

theorem place_injective : Function.Injective place := by
  intro a b h
  obtain ⟨htype, hid⟩ := Prod.mk.inj (toLex.injective h)
  cases a
  cases b
  exact congrArg₂ Key.mk htype (UInt64.toNat_inj.1 hid)

theorem precedes_iff {a b : Key} : a.precedes b = true ↔ a.place ≤ b.place := by
  simp [precedes, place, Prod.Lex.toLex_le_toLex, UInt64.le_iff_toNat_le]

end Key

/-- Answers that are sorted by key are equal when they have the same values under the same keys. -/
theorem mergeSort_precedes_congr {xs ys : List (Key × Json)} (hxs : (xs.map (·.1)).Nodup)
    (hys : (ys.map (·.1)).Nodup) (h : ∀ p, p ∈ xs ↔ p ∈ ys) :
    (xs.mergeSort fun a b => a.1.precedes b.1) = ys.mergeSort fun a b => a.1.precedes b.1 := by
  have hsorted (zs : List (Key × Json)) :
      (zs.mergeSort fun a b => a.1.precedes b.1).Pairwise fun a b => a.1.place ≤ b.1.place := by
    have hpairs := @List.pairwise_mergeSort _ (fun a b : Key × Json => a.1.precedes b.1)
      (fun a b c hab hbc => Key.precedes_iff.2
        ((Key.precedes_iff.1 hab).trans (Key.precedes_iff.1 hbc)))
      (fun a b => by
        rw [Bool.or_eq_true, Key.precedes_iff, Key.precedes_iff]
        exact le_total _ _) zs
    exact hpairs.imp Key.precedes_iff.1
  have hperm : xs.Perm ys := (List.perm_ext_iff_of_nodup hxs.of_map hys.of_map).2 h
  refine List.Perm.eq_of_pairwise (fun a b ha hb hab hba => ?_) (hsorted xs) (hsorted ys)
    ((List.mergeSort_perm xs _).trans (hperm.trans (List.mergeSort_perm ys _).symm))
  have hmem := (List.mergeSort_perm xs _).mem_iff.1 ha
  have hmem' := (h b).2 ((List.mergeSort_perm ys _).mem_iff.1 hb)
  exact List.inj_on_of_nodup_map hxs hmem hmem' (Key.place_injective (le_antisymm hab hba))

/-! ### Bulk reads -/

/-- How a store answers a bulk read: it fails of a text without a key that could be stored, and otherwise
has, each once, the keys of the texts whose records it would retrieve, with these records. -/
structure AnswersBulk (s : Store) (w : Workspace) (texts : List String) : Prop where
  refused : (∃ e, (s.multiRetrieve texts w).1 = .error e) ↔ ∃ text ∈ texts,
    (∃ f, s.reads text = .error f) ∨ ∃ key, s.reads text = .ok key ∧ 2 ^ 63 ≤ key.id.toNat
  fault : ∀ e, (s.multiRetrieve texts w).1 = .error e → ∃ f, e = .invalidKey f
  nodup : ∀ found, (s.multiRetrieve texts w).1 = .ok found → (found.map (·.1)).Nodup
  mem : ∀ found, (s.multiRetrieve texts w).1 = .ok found → ∀ key v, (key, v) ∈ found ↔
    ∃ text ∈ texts, s.reads text = .ok key ∧ (s.retrieve text w).1 = .ok (some v)

section
variable {s : Store} {w : Workspace} {stem : String} {accepted : Record → Prop}
  {texts texts' : List String}

/-- A bulk read that succeeds has the values of the keys of its texts. -/
theorem Coherent.multiRetrieve_eq_ok (hc : Coherent stem accepted w.database)
    (hkeys : s.codec.Derives w.session.keys) {found : List (Key × Json)}
    (h : (s.multiRetrieve texts w).1 = .ok found) :
    ∃ xs : List (Key × Json), (found = xs.mergeSort fun a b => a.1.precedes b.1) ∧
      (xs.map (·.1)).Nodup ∧ ∀ key v, (key, v) ∈ xs ↔
        (∃ text ∈ texts, s.reads text = .ok key) ∧ w.database.ReadsAs key v := by
  rw [Store.multiRetrieve_eq hkeys] at h
  obtain ⟨wanted, hwanted, h⟩ := bind_eq_ok.1 h
  obtain ⟨xs, hxs, h⟩ := bind_eq_ok.1 h
  have hall := mapM_eq_ok.1 hwanted
  have hwords : ∀ q ∈ wanted, keyWord q.1 = .ok q.2 := by
    intro q hq
    obtain ⟨text, -, hword⟩ := exists_of_mem_right hall hq
    exact (Store.wordOf_eq_ok.1 hword).2
  obtain ⟨hnodup, hmem⟩ := hc.mem_fetch hwords hxs
  refine ⟨xs, (Except.ok.inj h).symm, hnodup, fun key v => (hmem key v).trans
    (and_congr_left fun _ => ⟨?_, ?_⟩)⟩
  · rintro ⟨q, hq, rfl⟩
    obtain ⟨text, htext, hword⟩ := exists_of_mem_right hall hq
    exact ⟨text, htext, (Store.wordOf_eq_ok.1 hword).1⟩
  · rintro ⟨text, htext, hreads⟩
    obtain ⟨q, hq, hword⟩ := exists_of_mem_right hall.flip htext
    exact ⟨q, hq, Except.ok.inj ((Store.wordOf_eq_ok.1 hword).1.symm.trans hreads)⟩

theorem Coherent.answersBulk (hc : Coherent stem accepted w.database)
    (hkeys : s.codec.Derives w.session.keys)
    (hparse : ∀ row ∈ w.database.records, row.state ≠ .deleted →
      (Json.parse? row.text).isSome = true) (texts : List String) : AnswersBulk s w texts := by
  have hfails (e : Error) :
      (s.multiRetrieve texts w).1 = .error e ↔ texts.mapM s.wordOf = .error e := by
    rw [Store.multiRetrieve_eq hkeys, bind_eq_error, or_iff_left]
    rintro ⟨wanted, -, h⟩
    obtain ⟨found, hfound⟩ := hc.exists_fetch hparse wanted
    rw [hfound] at h
    cases h
  refine ⟨?_, ?_, ?_, ?_⟩
  · simp only [hfails, mapM_error_iff, Store.wordOf_error_iff]
  · intro e he
    exact failsOnly_mapM (fun text _ => Store.failsOnly_wordOf text) e ((hfails e).1 he)
  · intro found hfound
    obtain ⟨xs, rfl, hnodup, -⟩ := hc.multiRetrieve_eq_ok hkeys hfound
    exact ((List.mergeSort_perm xs _).map _).nodup_iff.2 hnodup
  · intro found hfound key v
    obtain ⟨xs, rfl, -, hmem⟩ := hc.multiRetrieve_eq_ok hkeys hfound
    rw [(List.mergeSort_perm xs _).mem_iff, hmem]
    simp only [Store.retrieve_eq_some_iff hkeys]
    constructor
    · rintro ⟨⟨text, htext, hreads⟩, hv⟩
      exact ⟨text, htext, hreads, key, hreads, hv⟩
    · rintro ⟨text, htext, hreads, key', hreads', hv⟩
      obtain rfl := Except.ok.inj (hreads.symm.trans hreads')
      exact ⟨⟨text, htext, hreads⟩, hv⟩

/-- Two bulk reads that ask for the same keys have one answer. -/
theorem Coherent.multiRetrieve_congr (hc : Coherent stem accepted w.database)
    (hkeys : s.codec.Derives w.session.keys)
    (h : ∀ key, (∃ text ∈ texts, s.reads text = .ok key) ↔
      ∃ text ∈ texts', s.reads text = .ok key) {found found' : List (Key × Json)}
    (hfound : (s.multiRetrieve texts w).1 = .ok found)
    (hfound' : (s.multiRetrieve texts' w).1 = .ok found') : found = found' := by
  obtain ⟨xs, rfl, hnodup, hmem⟩ := hc.multiRetrieve_eq_ok hkeys hfound
  obtain ⟨ys, rfl, hnodup', hmem'⟩ := hc.multiRetrieve_eq_ok hkeys hfound'
  refine mergeSort_precedes_congr hnodup hnodup' ?_
  rintro ⟨key, v⟩
  rw [hmem, hmem', h]

end

open Deployment

/-- In every run of stores on one database, while all records that are not deleted can be read, every
store answers every bulk read as it answers the single ones; and two bulk reads that succeed have one answer
when they ask for the same keys. -/
theorem bulk_reads_agree (s : Store) (durable : Bool) (stores : Nat) (events : List Event)
    (hfair : ∀ e ∈ events, e.Fair durable) (i : Nat) :
    let w := ((opened s durable stores).undergo events).2.workspace i
    (∀ row ∈ w.database.records, row.state ≠ .deleted → (Json.parse? row.text).isSome = true) →
    (∀ texts, AnswersBulk s w texts) ∧
      ∀ texts texts', (∀ key, (∃ text ∈ texts, s.reads text = .ok key) ↔
          ∃ text ∈ texts', s.reads text = .ok key) →
        ∀ found found', (s.multiRetrieve texts w).1 = .ok found →
          (s.multiRetrieve texts' w).1 = .ok found' → found = found' := by
  intro w hparse
  have hcoherent := (sound_undergo s stores hfair).coherent
  have hkeys : s.codec.Derives w.session.keys := derives_undergo s stores hfair i
  exact ⟨hcoherent.answersBulk hkeys hparse, fun texts texts' h found found' =>
    hcoherent.multiRetrieve_congr hkeys h⟩

theorem bulk_reads_agree_note :
    let w := ((opened memberStore true 2).undergo noteEvents).2.workspace 1
    AnswersBulk memberStore w ["memo:1", "note:003", "note:3"] ∧
      (memberStore.multiRetrieve ["memo:1", "note:003", "note:3"] w).1.map (·.map (·.1)) =
        .ok [⟨"note", 3⟩] := by
  have hfair : ∀ e ∈ noteEvents, e.Fair true := by
    simp [noteEvents, Event.Fair, Operation.Admits, Json.record?, Formed, Json.WellFormed,
      Json.MembersWellFormed]
  exact ⟨(bulk_reads_agree memberStore true 2 noteEvents hfair 1 (by decide +kernel)).1 _,
    by decide +kernel⟩

end RecordStore

import Mathlib
import RecordStore.Proofs.Query.Correct
import RecordStore.Proofs.Query.Scan

/-!
Reading an answer page by page.  Whoever follows the tokens of pages meets every element of the answer
once and in order, and comes to an end.
-/
namespace RecordStore
open Sql Database Index RecordStore.Action

/-- The pages that are met from a token on, each asked for with the token of the one before. -/
inductive Visits (ask : Option String → Action Page) :
    Option String → Workspace → List Page → Prop
  | last {token : Option String} {w : Workspace} {page : Page} :
    (ask token w).1 = .ok page → page.nextToken = none → Visits ask token w [page]
  | next {token : Option String} {w : Workspace} {page : Page} {t : String} {pages : List Page} :
    (ask token w).1 = .ok page → page.nextToken = some t →
      Visits ask (some t) (ask token w).2 pages → Visits ask token w (page :: pages)

/-- The pages that are met are determined. -/
theorem Visits.unique {ask : Option String → Action Page} {token : Option String} {w : Workspace}
    {pages pages' : List Page} (h : Visits ask token w pages) (h' : Visits ask token w pages') :
    pages' = pages := by
  induction h generalizing pages' with
  | last hpage hlast =>
    cases h' with
    | last hpage' _ => rw [Except.ok.inj (hpage'.symm.trans hpage)]
    | next hpage' hnext _ =>
      rw [Except.ok.inj (hpage'.symm.trans hpage), hlast] at hnext
      cases hnext
  | next hpage hnext _ ih =>
    cases h' with
    | last hpage' hlast =>
      rw [Except.ok.inj (hpage'.symm.trans hpage), hnext] at hlast
      cases hlast
    | next hpage' hnext' hrest =>
      obtain rfl := Except.ok.inj (hpage'.symm.trans hpage)
      obtain rfl := Option.some.inj (hnext'.symm.trans hnext)
      rw [ih hrest]

/-- How an answer is read page by page, when pages are asked for by token and size. -/
structure Paged (ask : Option String → Option UInt64 → Action Page) (w : Workspace)
    (answer : List Key) : Prop where
  whole : (ask none none w).1 = .ok ⟨answer, none⟩
  /-- A page shows its part of the answer, and has a token as long as the answer goes on. -/
  page : ∀ offset size : UInt64, offset.toNat < 2 ^ 63 → 1 ≤ size.toNat → size.toNat < 2 ^ 63 - 1 →
    ∃ p, (ask (some (Token.encode offset)) (some size) w).1 = .ok p ∧
      p.keys = (answer.drop offset.toNat).take size.toNat ∧
      (p.nextToken.isSome = true ↔ offset.toNat + size.toNat < answer.length) ∧
      ∀ t, p.nextToken = some t → t = Token.encode (offset + size) ∧
        (offset + size).toNat = offset.toNat + size.toNat ∧ Token.decode? t = some (offset + size)
  rest : ∀ offset : UInt64, offset.toNat < 2 ^ 63 →
    (ask (some (Token.encode offset)) none w).1 = .ok ⟨answer.drop offset.toNat, none⟩
  /-- From the start all pages are met, and together they are the answer. -/
  visits : ∀ size : UInt64, 1 ≤ size.toNat → size.toNat < 2 ^ 63 - 1 →
    ∃ pages, Visits (fun token => ask token (some size)) none w pages ∧
      (∀ pages', Visits (fun token => ask token (some size)) none w pages' → pages' = pages) ∧
      pages.length = max 1 (answer.length ⌈/⌉ size.toNat) ∧
      pages.flatMap (·.keys) = answer

/-- Parts of one answer are given for every token and size that can be read, in all workspaces that
are met. -/
structure Serves (ask : Option String → Option UInt64 → Action Page) (good : Workspace → Prop)
    (answer : List Key) : Prop where
  part : ∀ w, good w → ∀ token size offset limit, Query.offsetOf token = .ok offset →
    Query.pageLimit offset size = .ok limit → (ask token size w).1 = .ok (Page.part answer offset size)
  kept : ∀ w token size, good w → good (ask token size w).2
  length : answer.length ≤ 2 ^ 63

section
variable {ask : Option String → Option UInt64 → Action Page} {good : Workspace → Prop}
  {answer : List Key}

/-- One page more is met when a page is put before the pages that follow it. -/
theorem ceilDiv_succ {length size : Nat} (hsize : 1 ≤ size) (h : size < length) :
    1 + max 1 ((length - size) ⌈/⌉ size) = max 1 (length ⌈/⌉ size) := by
  have hsplit : length + size - 1 = (length - size + size - 1) + size := by omega
  have hstep : length ⌈/⌉ size = (length - size) ⌈/⌉ size + 1 := by
    rw [Nat.ceilDiv_eq_add_pred_div, Nat.ceilDiv_eq_add_pred_div, hsplit,
      Nat.add_div_right _ (by omega)]
  have hpos : 1 ≤ (length - size) ⌈/⌉ size := by
    rw [Nat.ceilDiv_eq_add_pred_div, Nat.one_le_div_iff (by omega)]
    omega
  rw [hstep]
  omega

/-- From any offset the rest of the answer is met. -/
theorem Serves.exists_visits (h : Serves ask good answer) {size : UInt64} (hpos : 1 ≤ size.toNat)
    (hsize : size.toNat < 2 ^ 63 - 1) (length : Nat) :
    ∀ (token : Option String) (offset : UInt64) (w : Workspace), good w →
      Query.offsetOf token = .ok offset → answer.length - offset.toNat = length →
      ∃ pages, Visits (fun token => ask token (some size)) token w pages ∧
        pages.length = max 1 (length ⌈/⌉ size.toNat) ∧
        pages.flatMap (·.keys) = answer.drop offset.toNat := by
  have hlength := h.length
  -- the rest of the answer gets shorter from page to page
  induction length using Nat.strong_induction_on with
  | _ length ih =>
    intro token offset w hw htoken hrest
    have hpage := h.part w hw token (some size) offset (some (size + 1)) htoken
      (pageLimit_some_eq_ok.2 ⟨hpos, hsize, rfl⟩)
    by_cases hmore : offset.toNat + size.toNat < answer.length
    · have hnext : (Page.part answer offset (some size)).nextToken =
          some (Token.encode (offset + size)) := if_pos hmore
      have hsum := (add_toNat hlength hmore).1
      have hoffset : Query.offsetOf (some (Token.encode (offset + size))) = .ok (offset + size) :=
        Query.offsetOf_encode (by omega)
      obtain ⟨pages, hvisits, hcount, hkeys⟩ := ih (length - size.toNat) (by omega) _ _ _
        (h.kept w token (some size) hw) hoffset (by omega)
      refine ⟨_ :: pages, .next hpage hnext hvisits, ?_, ?_⟩
      · rw [List.length_cons, hcount, Nat.add_comm, ceilDiv_succ hpos (by omega)]
      · rw [List.flatMap_cons, hkeys, hsum, ← List.drop_drop]
        exact List.take_append_drop _ _
    · have hlast : (Page.part answer offset (some size)).nextToken = none := if_neg hmore
      refine ⟨[_], .last hpage hlast, ?_, ?_⟩
      · have hone : length ⌈/⌉ size.toNat ≤ 1 := by
          rw [Nat.ceilDiv_eq_add_pred_div, Nat.div_le_iff_le_mul_add_pred (by omega)]
          omega
        rw [List.length_singleton]
        omega
      · rw [List.flatMap_singleton]
        refine List.take_of_length_le ?_
        rw [List.length_drop]
        omega

theorem Serves.paged (h : Serves ask good answer) {w : Workspace} (hw : good w) :
    Paged ask w answer where
  whole := h.part w hw none none 0 none rfl rfl
  page offset size hoffset hpos hsize := by
    have hlength := h.length
    refine ⟨_, h.part w hw _ _ offset _ (Query.offsetOf_encode hoffset)
      (pageLimit_some_eq_ok.2 ⟨hpos, hsize, rfl⟩), rfl, ?_, fun t ht => ?_⟩
    · rw [Page.part]
      split_ifs with hmore <;> simp [hmore]
    · by_cases hmore : offset.toNat + size.toNat < answer.length
      · rw [Page.part, if_pos hmore] at ht
        obtain rfl := Option.some.inj ht
        have hsum := (add_toNat hlength hmore).1
        exact ⟨rfl, hsum, Token.decode?_encode (by omega)⟩
      · rw [Page.part, if_neg hmore] at ht
        cases ht
  rest offset hoffset :=
    h.part w hw _ none offset _ (Query.offsetOf_encode hoffset) rfl
  visits size hpos hsize := by
    obtain ⟨pages, hvisits, hcount, hkeys⟩ :=
      h.exists_visits hpos hsize answer.length none 0 w hw rfl (Nat.sub_zero _)
    exact ⟨pages, hvisits, fun pages' h' => hvisits.unique h', hcount, hkeys⟩

end

/-! ### Queries and scans -/

section
variable {s : Store} {w : Workspace}

end

end RecordStore

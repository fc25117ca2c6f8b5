import Mathlib
import RecordStore.Proofs.Sql.Reader

/-!
Statements read back from their texts.  Fragments that can be told apart are read the same way in all
dialects, whatever their names and values are, and outside of names their text depends on neither.
-/
namespace RecordStore.Sql

/-! ### Fragments -/

namespace Fragment

/-- The text of a fragment; a place holder has the given number. -/
def text (d : Dialect) (n : Nat) : Fragment → String
  | verbatim t => t
  | name s => d.quote s
  | bareName s => d.enclose s
  | value _ => d.placeholder n

def name? : Fragment → Option String
  | name n => some n
  | _ => none

def value? : Fragment → Option Value
  | value v => some v
  | _ => none

/-- Whether a reader knows all characters of a fragment that is not a name. -/
def plain : Fragment → Bool
  | verbatim t => t.toList.all fun c => (plainStart? c).isSome
  | bareName _ => false
  | name _ | value _ => true

def opens : Fragment → Bool
  | verbatim t => t.toList.head?.any isSeparator
  | _ => false

def closes : Fragment → Bool
  | verbatim t => t.toList.getLast?.any isSeparator
  | _ => false

/-- One fragment can be told from the next one. -/
def Apart (f g : Fragment) : Prop := f.closes = true ∨ g.opens = true

/-- A fragment without its name or value; nothing is left of a name. -/
def outline? : Fragment → Option Fragment
  | verbatim t => some (verbatim t)
  | name _ | bareName _ => none
  | value _ => some (value (.text none))

end Fragment

/-- Fragments that a reader can tell apart. -/
structure Legible (fs : List Fragment) : Prop where
  plain : ∀ f ∈ fs, f.plain = true
  apart : fs.IsChain Fragment.Apart

namespace Legible

variable {f : Fragment} {fs gs : List Fragment}

theorem nil : Legible [] := ⟨nofun, .nil⟩

theorem cons (hf : f.plain = true) (h : Legible fs) (hapart : ∀ g ∈ fs.head?, f.Apart g) :
    Legible (f :: fs) where
  plain := by
    rintro g (_ | ⟨_, hg⟩)
    · exact hf
    · exact h.plain g hg
  apart := List.isChain_cons.2 ⟨hapart, h.apart⟩

theorem append (h : Legible fs) (h' : Legible gs)
    (hapart : ∀ f ∈ fs.getLast?, ∀ g ∈ gs.head?, f.Apart g) : Legible (fs ++ gs) where
  plain f hf := (List.mem_append.1 hf).elim (h.plain f) (h'.plain f)
  apart := List.isChain_append.2 ⟨h.apart, h'.apart, hapart⟩

theorem append_of_opens (h : Legible fs) (h' : Legible gs) (hopens : ∀ g ∈ gs.head?, g.opens = true) :
    Legible (fs ++ gs) :=
  h.append h' fun _ _ g hg => .inr (hopens g hg)

/-- A text that both opens and closes can stand between all groups. -/
theorem separated {sep : String} {groups : List (List Fragment)}
    (hplain : (Fragment.verbatim sep).plain = true) (hopens : (Fragment.verbatim sep).opens = true)
    (hcloses : (Fragment.verbatim sep).closes = true) (h : ∀ fs ∈ groups, Legible fs) :
    Legible (separated sep groups) := by
  induction groups with
  | nil => exact nil
  | cons fs groups ih =>
    have hfs := h fs List.mem_cons_self
    have hrest := ih fun gs hgs => h gs (List.mem_cons_of_mem _ hgs)
    cases groups with
    | nil => simpa [Sql.separated] using hfs
    | cons gs groups =>
      have hsep : Legible (.verbatim sep :: Sql.separated sep (gs :: groups)) :=
        hrest.cons hplain fun _ _ => .inl hcloses
      exact hfs.append_of_opens hsep fun g hg => Option.some.inj hg ▸ hopens

end Legible

theorem renderFrom_cons (d : Dialect) (n : Nat) (f : Fragment) (fs : List Fragment) :
    renderFrom d n (f :: fs) =
      f.text d n ++ renderFrom d (n + (boundValues [f]).length) fs := by
  cases f <;> rfl

namespace Reader

variable {r s : Reader} {f : Fragment} {fs : List Fragment}

/-- In all dialects fragments lead from one reader to another, past their names and with a place
holder for each of their values. -/
structure Leads (s : Reader) (fs : List Fragment) (s' : Reader) : Prop where
  names : s'.names = s.names ++ fs.filterMap Fragment.name?
  numbers : s'.numbers = s.numbers ++ List.range' (s.numbers.length + 1) (boundValues fs).length
  reads : ∀ d r, r.settle = some s → r = s ∨ (∀ f ∈ fs.head?, f.opens = true) →
    ∃ r', r.run d (renderFrom d (s.numbers.length + 1) fs).toList = some r' ∧ r'.settle = some s' ∧
      ((∃ f ∈ fs.getLast?, f.closes = true) → r' = s')

theorem exists_leads_verbatim (hs : s.pending = .nothing) {t : String}
    (hplain : (Fragment.verbatim t).plain = true) : ∃ s', s.Leads [.verbatim t] s' := by
  have hordinary : s.pending.Ordinary := by rw [hs]; trivial
  obtain ⟨r', hrun, hkeeps⟩ := exists_run_plain hordinary (List.all_eq_true.1 hplain)
  obtain ⟨s', hsettle, hkeeps'⟩ := exists_settle hkeeps.ordinary
  have hs' := hkeeps.trans hkeeps'
  refine ⟨s', by rw [hs'.names]; simp [Fragment.name?], by rw [hs'.numbers]; simp [boundValues],
    fun d r hr hstart => ⟨r', ?_, hsettle, ?_⟩⟩
  · have htext : (renderFrom d (s.numbers.length + 1) [.verbatim t]).toList = t.toList := by
      simp [renderFrom]
    rw [htext, ← hrun d]
    rcases hstart with rfl | hopens
    · rfl
    -- a text that starts with a separator does not depend on what stands before it
    · have hopens := hopens _ rfl
      cases hchars : t.toList with
      | nil => simp [Fragment.opens, hchars] at hopens
      | cons c cs =>
        have hc : isSeparator c = true := by simpa [Fragment.opens, hchars] using hopens
        rw [run_cons, run_cons, next_of_separator hc hr, next_of_separator hc
          (settle_of_nothing hs)]
  · rintro ⟨f, ⟨⟩, hcloses⟩
    -- behind a separator nothing is left to settle
    have hpending : r'.pending = .nothing := by
      rcases List.eq_nil_or_concat' t.toList with hnil | ⟨cs, c, hlast⟩
      · simp [Fragment.closes, hnil] at hcloses
      · have hc : isSeparator c = true := by simpa [Fragment.closes, hlast] using hcloses
        refine pending_of_run hordinary (fun x hx => ?_) hc (hlast ▸ hrun d)
        exact List.all_eq_true.1 hplain x (hlast ▸ List.mem_append_left _ hx)
    rw [settle_of_nothing hpending] at hsettle
    exact Option.some.inj hsettle

/-- A fragment that is no fixed text is read from nothing on. -/
theorem leads_of_run (hs : s.pending = .nothing) {f : Fragment} {t : Token}
    (hopens : f.opens = false) (hcloses : f.closes = false) (hname : t.name? = f.name?)
    (hnumber : t.number?.toList = List.range' (s.numbers.length + 1) (boundValues [f]).length)
    (hread : ∀ d, ∃ r', s.run d (f.text d (s.numbers.length + 1)).toList = some r' ∧
      r'.settle = some (s.push t)) : s.Leads [f] (s.push t) where
  names := by
    rw [names_push, hname]
    cases f <;> rfl
  numbers := by rw [numbers_push, hnumber]
  reads d r hr hstart := by
    obtain ⟨r', hrun, hsettle⟩ := hread d
    have htext : (renderFrom d (s.numbers.length + 1) [f]).toList =
        (f.text d (s.numbers.length + 1)).toList := by
      rw [renderFrom_cons, String.toList_append]
      exact List.append_nil _
    refine ⟨r', ?_, hsettle, ?_⟩
    · rcases hstart with rfl | h
      · rw [htext, hrun]
      · rw [h f rfl] at hopens
        cases hopens
    · rintro ⟨g, ⟨⟩, h⟩
      have h : f.closes = true := h
      rw [h] at hcloses
      cases hcloses

theorem exists_leads_fragment (hs : s.pending = .nothing) (hplain : f.plain = true) :
    ∃ s', s.Leads [f] s' := by
  cases f with
  | verbatim t => exact exists_leads_verbatim hs hplain
  | name n =>
    exact ⟨_, leads_of_run hs (t := .name n) rfl rfl rfl rfl fun d =>
      ⟨_, run_quote hs n d, by simp [settle, push, String.ofList_toList]⟩⟩
  | bareName n => cases hplain
  | value v =>
    exact ⟨_, leads_of_run hs (t := .placeholder (s.numbers.length + 1)) rfl rfl rfl rfl fun d =>
      exists_run_placeholder hs d⟩

theorem leads_nil (s : Reader) : s.Leads [] s where
  names := (List.append_nil _).symm
  numbers := (List.append_nil _).symm
  reads _ r hr _ := ⟨r, rfl, hr, nofun⟩

/-- One fragment and then others that it can be told from. -/
theorem Leads.cons {s₁ s' : Reader} (h : s.Leads [f] s₁) (h' : s₁.Leads fs s')
    (hapart : ∀ g ∈ fs.head?, f.Apart g) : s.Leads (f :: fs) s' := by
  have hcount : s₁.numbers.length = s.numbers.length + (boundValues [f]).length := by
    rw [h.numbers, List.length_append, List.length_range']
  have hvalues : (boundValues (f :: fs)).length =
      (boundValues [f]).length + (boundValues fs).length := by
    rw [← List.singleton_append, boundValues_append, List.length_append]
  refine ⟨?_, ?_, fun d r hr hstart => ?_⟩
  · rw [h'.names, h.names, List.append_assoc, ← List.filterMap_append, List.singleton_append]
  · rw [h'.numbers, hcount, h.numbers, List.append_assoc, hvalues, ← List.range'_append_1,
      Nat.add_right_comm]
  · obtain ⟨r₁, hrun, hsettle, hcloses⟩ := h.reads d r hr (by simpa using hstart)
    have hstart' : r₁ = s₁ ∨ ∀ g ∈ fs.head?, g.opens = true := by
      cases fs with
      | nil => exact .inr nofun
      | cons g fs =>
        refine (hapart g rfl).imp (fun hf => hcloses ⟨f, rfl, hf⟩) fun hg x hx => ?_
        rwa [← Option.some.inj hx]
    obtain ⟨r', hrun', hsettle', hcloses'⟩ := h'.reads d r₁ hsettle hstart'
    refine ⟨r', ?_, hsettle', ?_⟩
    · have htext : (renderFrom d (s.numbers.length + 1) (f :: fs)).toList =
          (renderFrom d (s.numbers.length + 1) [f]).toList ++
            (renderFrom d (s₁.numbers.length + 1) fs).toList := by
        rw [renderFrom_cons, renderFrom_cons, hcount, String.toList_append, String.toList_append,
          Nat.add_right_comm]
        simp [renderFrom]
      rw [htext, run_append, hrun]
      exact hrun'
    · rintro ⟨g, hlast, hg⟩
      cases fs with
      | nil =>
        obtain rfl : r₁ = r' := Option.some.inj hrun'
        obtain rfl : s₁ = s' := Option.some.inj (hsettle.symm.trans hsettle')
        exact hcloses ⟨g, hlast, hg⟩
      | cons _ _ => exact hcloses' ⟨g, by rwa [List.getLast?_cons_cons] at hlast, hg⟩

/-- Legible fragments are read to their end, and the same way in all dialects. -/
theorem exists_leads (hs : s.pending = .nothing) (hfs : Legible fs) : ∃ s', s.Leads fs s' := by
  induction fs generalizing s with
  | nil => exact ⟨s, leads_nil s⟩
  | cons f fs ih =>
    obtain ⟨s₁, h⟩ := exists_leads_fragment hs (hfs.plain f List.mem_cons_self)
    obtain ⟨r, -, hsettle, -⟩ := h.reads .sqlite s (settle_of_nothing hs) (.inl rfl)
    obtain ⟨s', h'⟩ := ih (pending_of_settle hsettle)
      ⟨fun g hg => hfs.plain g (List.mem_cons_of_mem _ hg), hfs.apart.tail⟩
    refine ⟨s', h.cons h' fun g hg => ?_⟩
    cases fs with
    | nil => cases hg
    | cons x fs =>
      obtain rfl := Option.some.inj hg
      exact (List.isChain_cons_cons.1 hfs.apart).1

end Reader

/-- All dialects read the same tokens in the text of legible fragments: their names, raw, and place
holders that are numbered from one, as many as there are values. -/
theorem exists_tokens {fs : List Fragment} (hfs : Legible fs) :
    ∃ tokens, (∀ d, read? d (render d fs) = some tokens) ∧
      tokens.filterMap Token.name? = fs.filterMap Fragment.name? ∧
      tokens.filterMap Token.number? = List.range' 1 (boundValues fs).length := by
  obtain ⟨s', h⟩ := Reader.exists_leads (s := ⟨[], .nothing⟩) rfl hfs
  refine ⟨s'.tokens, fun d => ?_, h.names, h.numbers⟩
  obtain ⟨r', hrun, hsettle, -⟩ := h.reads d _ rfl (.inl rfl)
  have hrun : Reader.run d ⟨[], .nothing⟩ (render d fs).toList = some r' := hrun
  rw [read?, hrun, Option.bind_some, hsettle]
  rfl

/-! ### Outside of names -/

/-- The characters outside of quote marks, from a place on that may be inside. -/
def outsideFrom (q : Char) : Bool → List Char → List Char
  | _, [] => []
  | inside, c :: cs =>
    if c = q then outsideFrom q (!inside) cs
    else if inside then outsideFrom q inside cs
    else c :: outsideFrom q inside cs

/-- The part of a text that is not between quote marks. -/
def outside (d : Dialect) (text : String) : String :=
  .ofList (outsideFrom d.quoteMark false text.toList)

section
variable {q : Char} {d : Dialect}

theorem outsideFrom_quoteBody (q : Char) (n rest : List Char) :
    outsideFrom q true (Text.quoteBody q n ++ rest) = outsideFrom q true rest := by
  induction n with
  | nil => rfl
  | cons c n ih =>
    rw [Text.quoteBody]
    split
    · simp only [List.cons_append, outsideFrom, if_pos, Bool.not_true, Bool.not_false, ih]
    · next hc => simp only [List.cons_append, outsideFrom, if_neg hc, if_true, ih]

theorem outsideFrom_of_not_mem {cs : List Char} (h : q ∉ cs) (rest : List Char) :
    outsideFrom q false (cs ++ rest) = cs ++ outsideFrom q false rest := by
  induction cs with
  | nil => rfl
  | cons c cs ih =>
    rw [List.mem_cons, not_or] at h
    simp only [List.cons_append, outsideFrom, if_neg (Ne.symm h.1), Bool.false_eq_true, if_false,
      ih h.2]

theorem outsideFrom_quote (d : Dialect) (n : String) (rest : List Char) :
    outsideFrom d.quoteMark false ((d.quote n).toList ++ rest) =
      outsideFrom d.quoteMark false rest := by
  rw [Dialect.quote, Text.quoted, String.toList_ofList, List.append_assoc, List.cons_append]
  simp only [outsideFrom, if_pos, Bool.not_false, outsideFrom_quoteBody, List.singleton_append,
    Bool.not_true]

/-- A place holder has a sign, and digits. -/
theorem mem_placeholder {d : Dialect} {n : Nat} {c : Char} (h : c ∈ (d.placeholder n).toList) :
    c = '$' ∨ c = '?' ∨ c.isDigit = true := by
  have hholder : (d.placeholder n).toList = ['?'] ∨
      (d.placeholder n).toList = '$' :: n.repr.toList := by
    cases d with
    | postgres => exact .inr (by rw [Dialect.placeholder, String.toList_append]; rfl)
    | sqlite => exact .inl (show "?".toList = _ from rfl)
    | mysql => exact .inl (show "?".toList = _ from rfl)
  rcases hholder with heq | heq
  · rw [heq, List.mem_singleton] at h
    exact .inr (.inl h)
  · rw [heq, List.mem_cons] at h
    exact h.imp_right fun hdigit =>
      .inr (Nat.isDigit_of_mem_toDigits (by decide) (by decide) (Nat.toList_repr ▸ hdigit))

theorem quoteMark_not_mem_placeholder (d : Dialect) (n : Nat) :
    d.quoteMark ∉ (d.placeholder n).toList := by
  intro hmem
  rcases mem_placeholder hmem with h | h | h <;> cases d <;> cases h

/-- Outside of names the text of fragments is that of their outline. -/
theorem outside_render {fs : List Fragment} (hfs : ∀ f ∈ fs, f.plain = true) (d : Dialect) :
    outside d (render d fs) = render d (fs.filterMap Fragment.outline?) := by
  have hfrom : ∀ n, outsideFrom d.quoteMark false (renderFrom d n fs).toList =
      (renderFrom d n (fs.filterMap Fragment.outline?)).toList := by
    induction fs with
    | nil => exact fun _ => rfl
    | cons f fs ih =>
      have ih := ih fun g hg => hfs g (List.mem_cons_of_mem _ hg)
      have hplain := hfs f List.mem_cons_self
      intro n
      cases f with
      | verbatim t =>
        have hmark : d.quoteMark ∉ t.toList := fun hmem => by
          have hknown := List.all_eq_true.1 hplain _ hmem
          cases d <;> cases hknown
        simp only [List.filterMap_cons, Fragment.outline?, renderFrom, String.toList_append]
        rw [outsideFrom_of_not_mem hmark, ih]
      | name s =>
        simp only [List.filterMap_cons, Fragment.outline?, renderFrom, String.toList_append]
        rw [outsideFrom_quote, ih]
      | bareName s => cases hplain
      | value v =>
        simp only [List.filterMap_cons, Fragment.outline?, renderFrom, String.toList_append]
        rw [outsideFrom_of_not_mem (quoteMark_not_mem_placeholder d n), ih]
  rw [outside, render, hfrom, String.ofList_toList]
  rfl

end

end RecordStore.Sql

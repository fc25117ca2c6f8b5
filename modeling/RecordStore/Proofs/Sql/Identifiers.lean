import Mathlib
import RecordStore.Proofs.Sql.Reading

/-!
Names found in a text.  A scanner goes through any text by the quoting rules of a dialect alone: a
name stands between quote marks, where a doubled mark is one of its characters, and between
apostrophes nothing is a name.  It finds the names of fragments whatever they are, unless a bare one
has a quote mark inside it; such a name is never found.
-/
namespace RecordStore.Sql

/-- Where a scanner is. -/
inductive Place
  | outside
  /-- Between apostrophes. -/
  | literal
  | name (chars : List Char)
  /-- Behind a quote mark, which ends the name unless another one follows. -/
  | closed (chars : List Char)
deriving DecidableEq, Repr

namespace Place

/-- The place behind a character that is outside of names and literals. -/
def enter (q c : Char) : Place :=
  if c = q then name [] else if c = '\'' then literal else outside

/-- The place behind one more character; `q` is the quote mark. -/
def next (q c : Char) : Place → Place
  | outside => enter q c
  | literal => if c = '\'' then outside else literal
  | name cs => if c = q then closed cs else name (cs ++ [c])
  | closed cs => if c = q then name (cs ++ [c]) else enter q c

/-- The name that one more character leaves behind. -/
def left (q c : Char) : Place → List String
  | closed cs => if c = q then [] else [.ofList cs]
  | _ => []

/-- The name that the end of the text leaves behind.  It may not end in the midst of anything. -/
def last? : Place → Option (List String)
  | outside => some []
  | closed cs => some [.ofList cs]
  | literal | name _ => none

end Place

/-- The names found from a place on. -/
def namesFrom (q : Char) : Place → List Char → Option (List String)
  | p, [] => p.last?
  | p, c :: cs => (namesFrom q (p.next q c) cs).map (p.left q c ++ ·)

/-- The names that the quoting rules of a dialect find in a text. -/
def identifiers? (d : Dialect) (text : String) : Option (List String) :=
  namesFrom d.quoteMark .outside text.toList

example : identifiers? .sqlite "DROP \"a\"\"b\" DEFAULT 'it''s \"x\"' ON \"c\"" =
    some ["a\"b", "c"] := by decide +kernel

example : identifiers? .sqlite "DROP \"a\"b\"" = none := by decide +kernel

/-! ### Words and names -/

/-- Between apostrophes or not. -/
def Place.within (inside : Bool) : Place :=
  if inside then literal else outside

section
variable {q : Char} {rest : List Char}

theorem namesFrom_mark (q : Char) (rest : List Char) :
    namesFrom q .outside (q :: rest) = namesFrom q (.name []) rest := by
  simp [namesFrom, Place.next, Place.enter, Place.left]

theorem namesFrom_name_mark (cs rest : List Char) :
    namesFrom q (.name cs) (q :: rest) = namesFrom q (.closed cs) rest := by
  simp [namesFrom, Place.next, Place.left]

theorem namesFrom_closed_mark (cs rest : List Char) :
    namesFrom q (.closed cs) (q :: rest) = namesFrom q (.name (cs ++ [q])) rest := by
  simp [namesFrom, Place.next, Place.left]

theorem namesFrom_name_of_ne {c : Char} (hc : c ≠ q) (cs rest : List Char) :
    namesFrom q (.name cs) (c :: rest) = namesFrom q (.name (cs ++ [c])) rest := by
  simp [namesFrom, Place.next, Place.left, hc]

/-- Behind a name anything but another quote mark is read as it is outside of names. -/
theorem namesFrom_closed (hrest : rest.head? ≠ some q) (cs : List Char) :
    namesFrom q (.closed cs) rest = (namesFrom q .outside rest).map (.ofList cs :: ·) := by
  cases rest with
  | nil => rfl
  | cons c rest =>
    have hc : c ≠ q := fun h => hrest (congrArg some h)
    simp only [namesFrom, Place.next, Place.left, if_neg hc, Option.map_map]
    rfl

/-- A text without quote marks has no names in it; each apostrophe begins or ends a literal. -/
theorem namesFrom_append {w : List Char} (hw : q ∉ w) (inside : Bool) (rest : List Char) :
    namesFrom q (.within inside) (w ++ rest) =
      namesFrom q (.within (inside ^^ decide (w.count '\'' % 2 = 1))) rest := by
  -- whether it is between apostrophes changes with each of them, so the place is general
  induction w generalizing inside with
  | nil => simp
  | cons c w ih =>
    rw [List.mem_cons, not_or] at hw
    have hnext : (Place.within inside).next q c = .within (inside ^^ decide (c = '\'')) := by
      have hc : c ≠ q := Ne.symm hw.1
      by_cases hquote : c = '\'' <;> cases inside <;>
        simp_all [Place.within, Place.next, Place.enter]
    have hleft : (Place.within inside).left q c = [] := by cases inside <;> rfl
    have hparity : decide ((c :: w).count '\'' % 2 = 1) =
        (decide (c = '\'') ^^ decide (w.count '\'' % 2 = 1)) := by
      by_cases hquote : c = '\''
      · subst hquote
        rw [List.count_cons_self, Bool.eq_iff_iff]
        simp
        omega
      · simp [List.count_cons_of_ne hquote, hquote]
    rw [List.cons_append, namesFrom, hnext, hleft, ih hw.2, hparity, Bool.xor_assoc]
    simp

theorem namesFrom_quoteBody (cs n rest : List Char) :
    namesFrom q (.name cs) (Text.quoteBody q n ++ rest) = namesFrom q (.name (cs ++ n)) rest := by
  induction n generalizing cs with
  | nil => rw [List.append_nil]; rfl
  | cons c n ih =>
    have happend : cs ++ c :: n = cs ++ [c] ++ n := by simp
    rw [Text.quoteBody, happend, ← ih]
    split
    · next hc =>
      rw [List.cons_append, List.cons_append, namesFrom_name_mark, namesFrom_closed_mark, hc]
    · next hc => rw [List.cons_append, namesFrom_name_of_ne hc]

/-- A name between quote marks is found, its own marks doubled. -/
theorem namesFrom_quoted (hrest : rest.head? ≠ some q) (n : String) :
    namesFrom q .outside ((Text.quoted q n).toList ++ rest) =
      (namesFrom q .outside rest).map (n :: ·) := by
  rw [Text.quoted, String.toList_ofList, List.append_assoc, List.cons_append, namesFrom_mark,
    namesFrom_quoteBody, List.singleton_append, namesFrom_name_mark, List.nil_append,
    namesFrom_closed hrest, String.ofList_toList]

/-- A name with a quote mark inside it that is not doubled ends too early: what is found instead has
fewer characters. -/
theorem length_of_namesFrom {cs t : List Char} {names : List String} (hlast : t.getLast? ≠ some q)
    (hrest : rest.head? ≠ some q) (h : namesFrom q (.name cs) (t ++ q :: rest) = some names) :
    ∃ n ns, names = n :: ns ∧ n.length ≤ cs.length + t.length ∧
      (q ∈ t → n.length < cs.length + t.length) := by
  -- where a name ends, it is the one that is found first
  have hends {u r : List Char} (hr : r.head? ≠ some q)
      (hu : namesFrom q (.closed u) r = some names) :
      ∃ n ns, names = n :: ns ∧ n.length = u.length := by
    rw [namesFrom_closed hr] at hu
    obtain ⟨ns, -, rfl⟩ := Option.map_eq_some_iff.1 hu
    exact ⟨_, ns, rfl, String.length_ofList⟩
  -- marks are read two at a time, and so is the text here
  induction t using Text.unquoteBody.induct q generalizing cs with
  | case1 =>
    rw [List.nil_append, namesFrom_name_mark] at h
    obtain ⟨n, ns, rfl, hn⟩ := hends hrest h
    exact ⟨n, ns, rfl, by simp [hn], by simp⟩
  | case2 => exact absurd rfl hlast
  | case3 c hc =>
    rw [List.singleton_append, namesFrom_name_of_ne hc, namesFrom_name_mark] at h
    obtain ⟨n, ns, rfl, hn⟩ := hends hrest h
    exact ⟨n, ns, rfl, by simp [hn], by simp [Ne.symm hc]⟩
  | case4 t ih =>
    -- two marks stand for one character
    rw [List.cons_append, List.cons_append, namesFrom_name_mark, namesFrom_closed_mark] at h
    have hlast' : t.getLast? ≠ some q := fun hq => hlast (by
      rw [List.getLast?_cons, List.getLast?_cons, hq]
      rfl)
    obtain ⟨n, ns, rfl, hn, -⟩ := ih hlast' h
    have hn : n.length < cs.length + (q :: q :: t).length := by
      simp only [List.length_append, List.length_cons, List.length_nil] at hn ⊢
      omega
    exact ⟨n, ns, rfl, hn.le, fun _ => hn⟩
  | case5 c t hc =>
    -- a single mark ends the name, and the rest of the text is not in it
    rw [List.cons_append, List.cons_append, namesFrom_name_mark] at h
    have hr : (c :: (t ++ q :: rest)).head? ≠ some q := fun hq => hc (Option.some.inj hq)
    obtain ⟨n, ns, rfl, hn⟩ := hends hr h
    have hn : n.length < cs.length + (q :: c :: t).length := by
      simp only [List.length_cons]
      omega
    exact ⟨n, ns, rfl, hn.le, fun _ => hn⟩
  | case6 c d t hc ih =>
    rw [List.cons_append, namesFrom_name_of_ne hc] at h
    rw [List.getLast?_cons_cons] at hlast
    obtain ⟨n, ns, rfl, hn, hlt⟩ := ih hlast h
    rw [List.length_append, List.length_singleton, Nat.add_right_comm, Nat.add_assoc] at hn hlt
    refine ⟨n, ns, rfl, hn, fun hq => hlt ?_⟩
    exact (List.mem_cons.1 hq).resolve_left (Ne.symm hc)

/-- A name that is written as it is and found again has no quote mark in it. -/
theorem not_mem_of_namesFrom_enclosed {s : String} {ns : List String}
    (hlast : s.toList.getLast? ≠ some q) (hrest : rest.head? ≠ some q)
    (h : namesFrom q .outside ((Text.enclosed q s).toList ++ rest) = some (s :: ns)) :
    q ∉ s.toList := by
  rw [Text.enclosed, String.toList_ofList, List.append_assoc, List.cons_append,
    List.singleton_append, namesFrom_mark] at h
  obtain ⟨n, ns', hnames, -, hlt⟩ := length_of_namesFrom hlast hrest h
  obtain ⟨rfl, -⟩ := List.cons.inj hnames
  intro hq
  have hlength := hlt hq
  rw [List.length_nil, Nat.zero_add, String.length_toList] at hlength
  exact lt_irrefl _ hlength

end

/-! ### Fragments -/

namespace Fragment

/-- Whether no dialect sees a name begin in a fragment that is none, and its literals are whole. -/
def neutral : Fragment → Bool
  | verbatim t =>
    !t.toList.contains '"' && !t.toList.contains '\x60' && t.toList.count '\'' % 2 == 0
  | bareName _ => false
  | name _ | value _ => true

/-- Whether a fragment parts a name in front of it from what follows. -/
def parts : Fragment → Bool
  | verbatim t => t != ""
  | value _ => true
  | name _ | bareName _ => false

/-- The name that a fragment is meant to write. -/
def meant? : Fragment → Option String
  | name n | bareName n => some n
  | _ => none

/-- The fragment with the quote marks of its name doubled in any case. -/
def doubled : Fragment → Fragment
  | bareName n => name n
  | f => f

theorem quoteMark_not_mem {t : String} (h : (verbatim t).neutral = true) (d : Dialect) :
    d.quoteMark ∉ t.toList := by
  simp only [neutral, Bool.and_eq_true, Bool.not_eq_true', List.contains_eq_mem,
    decide_eq_false_iff_not] at h
  cases d with
  | sqlite => exact h.1.1
  | postgres => exact h.1.1
  | mysql => exact h.1.2

theorem namesFrom_neutral {t : String} (h : (verbatim t).neutral = true) (d : Dialect)
    (rest : List Char) :
    namesFrom d.quoteMark .outside (t.toList ++ rest) = namesFrom d.quoteMark .outside rest := by
  have heven : decide (t.toList.count '\'' % 2 = 1) = false := by
    simp only [neutral, Bool.and_eq_true, beq_iff_eq] at h
    rw [h.2]
    rfl
  have hnames := namesFrom_append (quoteMark_not_mem h d) false rest
  rwa [heven] at hnames

/-- What parts a name does not begin with a quote mark. -/
theorem head?_renderFrom_ne {fs : List Fragment} (hneutral : ∀ f ∈ fs.head?, f.neutral = true)
    (hparts : ∀ f ∈ fs.head?, f.parts = true) (d : Dialect) (n : Nat) :
    (renderFrom d n fs).toList.head? ≠ some d.quoteMark := by
  cases fs with
  | nil => exact nofun
  | cons f fs =>
    cases f with
    | verbatim t =>
      have hne : t.toList ≠ [] := by
        have hparts := hparts _ rfl
        simpa [parts, String.toList_eq_nil_iff] using hparts
      rw [renderFrom, String.toList_append, List.head?_append_of_ne_nil _ hne]
      exact fun hhead => quoteMark_not_mem (hneutral _ rfl) d (List.mem_of_head? hhead)
    | value v =>
      have hne : (d.placeholder n).toList ≠ [] := by cases d <;> simp [Dialect.placeholder]
      rw [renderFrom, String.toList_append, List.head?_append_of_ne_nil _ hne]
      exact fun hhead => quoteMark_not_mem_placeholder d n (List.mem_of_head? hhead)
    | name _ => cases hparts _ rfl
    | bareName _ => cases hparts _ rfl

end Fragment

/-- Fragments whose names a scanner can tell from what follows. -/
inductive Scannable : List Fragment → Prop
  | nil : Scannable []
  | word {t : String} {fs : List Fragment} (ht : (Fragment.verbatim t).neutral = true)
    (h : Scannable fs) : Scannable (.verbatim t :: fs)
  | value {v : Value} {fs : List Fragment} (h : Scannable fs) : Scannable (.value v :: fs)
  | name {n : String} {fs : List Fragment} (hfs : ∀ f ∈ fs.head?, f.parts = true)
    (h : Scannable fs) : Scannable (.name n :: fs)

namespace Scannable

variable {fs gs : List Fragment}

theorem append (h : Scannable fs) (h' : Scannable gs) (hparts : ∀ g ∈ gs.head?, g.parts = true) :
    Scannable (fs ++ gs) := by
  induction h with
  | nil => exact h'
  | word ht _ ih => exact ih.word ht
  | value _ ih => exact ih.value
  | @name n fs hfs _ ih =>
    refine ih.name fun f hf => ?_
    cases fs with
    | nil => exact hparts f hf
    | cons g fs => exact hfs f hf

theorem separated {sep : String} {groups : List (List Fragment)}
    (hneutral : (Fragment.verbatim sep).neutral = true)
    (hparts : (Fragment.verbatim sep).parts = true) (h : ∀ fs ∈ groups, Scannable fs) :
    Scannable (Sql.separated sep groups) := by
  induction groups with
  | nil => exact nil
  | cons fs groups ih =>
    have hfs := h fs List.mem_cons_self
    have hrest := ih fun gs hgs => h gs (List.mem_cons_of_mem _ hgs)
    cases groups with
    | nil => simpa [Sql.separated] using hfs
    | cons gs groups =>
      have hsep : Scannable (.verbatim sep :: Sql.separated sep (gs :: groups)) :=
        hrest.word hneutral
      exact hfs.append hsep fun g hg => Option.some.inj hg ▸ hparts

/-- What a reader can tell apart a scanner can. -/
theorem of_legible (h : Legible fs) : Scannable fs := by
  induction fs with
  | nil => exact nil
  | cons f fs ih =>
    have hplain := h.plain f List.mem_cons_self
    have hfs := ih ⟨fun g hg => h.plain g (List.mem_cons_of_mem _ hg), h.apart.tail⟩
    cases f with
    | verbatim t =>
      -- no token of a plain word begins with a mark of any dialect
      have hunknown (x : Char) (hx : plainStart? x = none) : x ∉ t.toList := fun hmem => by
        have hknown := List.all_eq_true.1 hplain x hmem
        rw [hx] at hknown
        cases hknown
      refine hfs.word ?_
      have hquote := List.count_eq_zero.2 (hunknown '\'' (by decide))
      simp [Fragment.neutral, hquote, hunknown '"' (by decide), hunknown '\x60' (by decide)]
    | name n =>
      refine hfs.name fun g hg => ?_
      cases fs with
      | nil => cases hg
      | cons x fs =>
        obtain rfl := Option.some.inj hg
        -- a name does not close, so what follows it opens
        have hopens := (List.isChain_cons_cons.1 h.apart).1.resolve_left nofun
        cases x with
        | verbatim t =>
          have hne : t ≠ "" := by
            rintro rfl
            cases hopens
          simpa [Fragment.parts] using hne
        | name _ => cases hopens
        | bareName _ => cases hopens
        | value _ => rfl
    | bareName n => cases hplain
    | value v => exact hfs.value

theorem neutral (h : Scannable fs) : ∀ f ∈ fs, f.neutral = true := by
  induction h with
  | nil => exact nofun
  | word ht _ ih => exact List.forall_mem_cons.2 ⟨ht, ih⟩
  | value _ ih => exact List.forall_mem_cons.2 ⟨rfl, ih⟩
  | name _ _ ih => exact List.forall_mem_cons.2 ⟨rfl, ih⟩

theorem namesFrom_renderFrom (h : Scannable fs) (d : Dialect) (n : Nat) :
    namesFrom d.quoteMark .outside (renderFrom d n fs).toList =
      some (fs.filterMap Fragment.name?) := by
  induction h generalizing n with
  | nil => rfl
  | word ht _ ih => rw [renderFrom, String.toList_append, Fragment.namesFrom_neutral ht, ih]; rfl
  | value _ ih =>
    have hnames := namesFrom_append (quoteMark_not_mem_placeholder d n) false
    have hliteral : '\'' ∉ (d.placeholder n).toList := fun hmem => by
      rcases mem_placeholder hmem with h | h | h <;> cases h
    rw [List.count_eq_zero.2 hliteral] at hnames
    rw [renderFrom, String.toList_append]
    exact (hnames _).trans (ih (n + 1))
  | name hfs h ih =>
    have hhead := Fragment.head?_renderFrom_ne
      (fun f hf => h.neutral f (List.mem_of_head? hf)) hfs d n
    rw [renderFrom, String.toList_append, Dialect.quote, namesFrom_quoted hhead, ih]
    rfl

end Scannable

/-- The names of fragments are found in their text, in any dialect. -/
theorem identifiers?_render {fs : List Fragment} (h : Scannable fs) (d : Dialect) :
    identifiers? d (render d fs) = some (fs.filterMap Fragment.name?) :=
  h.namesFrom_renderFrom d 1

/-! ### Bare names -/

section
variable {d : Dialect} {fs : List Fragment}

theorem enclose_eq_quote {s : String} (h : d.quoteMark ∉ s.toList) : d.enclose s = d.quote s := by
  have hbody {cs : List Char} (hcs : d.quoteMark ∉ cs) : Text.quoteBody d.quoteMark cs = cs := by
    induction cs with
    | nil => rfl
    | cons c cs ih =>
      rw [List.mem_cons, not_or] at hcs
      rw [Text.quoteBody, if_neg (Ne.symm hcs.1), ih hcs.2]
  rw [Dialect.enclose, Dialect.quote, Text.enclosed, Text.quoted, hbody h]

/-- Bare names without quote marks are written like all names. -/
theorem render_doubled (h : ∀ s, .bareName s ∈ fs → d.quoteMark ∉ s.toList) :
    render d (fs.map Fragment.doubled) = render d fs := by
  have hfrom (n : Nat) : renderFrom d n (fs.map Fragment.doubled) = renderFrom d n fs := by
    induction fs generalizing n with
    | nil => rfl
    | cons f fs ih =>
      have ih := ih fun s hs => h s (List.mem_cons_of_mem _ hs)
      cases f with
      | verbatim t => simp only [List.map_cons, Fragment.doubled, renderFrom, ih]
      | name s => simp only [List.map_cons, Fragment.doubled, renderFrom, ih]
      | bareName s =>
        simp only [List.map_cons, Fragment.doubled, renderFrom, ih,
          enclose_eq_quote (h s List.mem_cons_self)]
      | value v => simp only [List.map_cons, Fragment.doubled, renderFrom, ih]
  exact hfrom 1

theorem filterMap_meant? (fs : List Fragment) :
    fs.filterMap Fragment.meant? = (fs.map Fragment.doubled).filterMap Fragment.name? := by
  rw [List.filterMap_map]
  refine List.filterMap_congr fun f _ => ?_
  cases f <;> rfl

/-- What a reader can tell apart has no bare names. -/
theorem Legible.map_doubled (h : Legible fs) : fs.map Fragment.doubled = fs := by
  conv_rhs => rw [← List.map_id fs]
  refine List.map_congr_left fun f hf => ?_
  cases f with
  | bareName _ => cases h.plain _ hf
  | verbatim _ => rfl
  | name _ => rfl
  | value _ => rfl

/-- A text that starts with a bare name has the names it is meant to have exactly when no quote mark
is inside that one, if the others have one only along with it. -/
theorem identifiers?_bareName_iff {w s : String}
    (h : Scannable ((.verbatim w :: .bareName s :: fs).map Fragment.doubled))
    (hlast : s.toList.getLast? ≠ some d.quoteMark)
    (hfs : d.quoteMark ∉ s.toList → ∀ s', .bareName s' ∈ fs → d.quoteMark ∉ s'.toList) :
    identifiers? d (render d (.verbatim w :: .bareName s :: fs)) =
      some (s :: fs.filterMap Fragment.meant?) ↔ d.quoteMark ∉ s.toList := by
  constructor
  · intro hread
    cases h with
    | word hw h =>
    cases h with
    | name hparts h =>
    -- what stands behind the name parts it from the rest, doubled or not
    have hrest : (renderFrom d 1 fs).toList.head? ≠ some d.quoteMark := by
      cases fs with
      | nil => exact nofun
      | cons f fs =>
        have hparts : f.parts = true := by
          have hdoubled := hparts _ rfl
          cases f <;> exact hdoubled
        have hneutral : f.neutral = true := by
          have hdoubled := h.neutral _ List.mem_cons_self
          cases f <;> first | exact hdoubled | cases hparts
        refine Fragment.head?_renderFrom_ne ?_ ?_ d 1
        · exact fun g hg => Option.some.inj hg ▸ hneutral
        · exact fun g hg => Option.some.inj hg ▸ hparts
    have htext : (render d (.verbatim w :: .bareName s :: fs)).toList =
        w.toList ++ ((d.enclose s).toList ++ (renderFrom d 1 fs).toList) := by
      rw [render, renderFrom, renderFrom, String.toList_append, String.toList_append]
    rw [identifiers?, htext, Fragment.namesFrom_neutral hw] at hread
    exact not_mem_of_namesFrom_enclosed hlast hrest hread
  · intro hs
    -- without marks the bare names are written like all others
    have hbare : ∀ s', .bareName s' ∈ Fragment.verbatim w :: .bareName s :: fs →
        d.quoteMark ∉ s'.toList := by
      intro s' hs'
      simp only [List.mem_cons, reduceCtorEq, false_or, Fragment.bareName.injEq] at hs'
      rcases hs' with rfl | hs'
      · exact hs
      · exact hfs hs s' hs'
    rw [← render_doubled hbare, identifiers?_render h, ← filterMap_meant?]
    rfl

end

end RecordStore.Sql

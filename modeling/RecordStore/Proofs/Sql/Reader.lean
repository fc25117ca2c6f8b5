import Mathlib
import RecordStore.Sql.Fragment
import RecordStore.Text.Decimal

/-!
A reader of statements.  It goes through a text character by character by the lexical rules of a
dialect: a name stands between quote marks, where a doubled mark is one of its characters, and place
holders count outside of names only.  Besides names it knows words of letters, comparisons, brackets
and commas; whatever else a text may hold, a comment, a literal or the end of one statement and the
start of another, it does not read.
-/
namespace RecordStore.Sql

inductive Token
  | word (letters : String)
  | sign (text : String)
  | name (n : String)
  | placeholder (number : Nat)
deriving DecidableEq, Repr

namespace Token

def name? : Token → Option String
  | name n => some n
  | _ => none

def number? : Token → Option Nat
  | placeholder n => some n
  | _ => none

end Token

/-! ### Lexical rules -/

/-- What a character begins. -/
inductive Start
  | name
  | word
  | comparison
  | blank
  /-- A bracket or a comma. -/
  | mark
  | placeholder
deriving DecidableEq, Repr

/-- What a character begins that means the same in all dialects. -/
def plainStart? (c : Char) : Option Start :=
  if c.isAlpha then some .word
  else if c = '=' ∨ c = '<' ∨ c = '>' then some .comparison
  else if c = ' ' then some .blank
  else if c = '(' ∨ c = ')' ∨ c = ',' then some .mark
  else none

/-- What a character begins outside of names. -/
def Dialect.start? (d : Dialect) (c : Char) : Option Start :=
  if c = d.quoteMark then some .name
  else if c = (if d = .postgres then '$' else '?') then some .placeholder
  else plainStart? c

/-- What a reader is in the midst of. -/
inductive Pending
  | nothing
  | word (letters : List Char)
  | comparison (signs : List Char)
  | name (chars : List Char)
  /-- A name behind a quote mark, which ends it unless another one follows. -/
  | closed (chars : List Char)
  | number (digits : List Char)
deriving DecidableEq, Repr

namespace Pending

/-- The same with one more character that belongs to it. -/
def extend (d : Dialect) (c : Char) : Pending → Option Pending
  | nothing => none
  | word cs => if plainStart? c = some .word then some (word (cs ++ [c])) else none
  | comparison cs => if plainStart? c = some .comparison then some (comparison (cs ++ [c])) else none
  | name cs => some (if c = d.quoteMark then closed cs else name (cs ++ [c]))
  | closed cs => if c = d.quoteMark then some (name (cs ++ [c])) else none
  | number ds => if c.isDigit then some (number (ds ++ [c])) else none

/-- Whether a character would be taken for a part of what it follows. -/
def clashes (c : Char) : Pending → Bool
  | word _ => c == '$'
  | number _ => c.isAlpha
  | _ => false

end Pending

/-- What has been read of a text. -/
structure Reader where
  tokens : List Token
  pending : Pending
deriving DecidableEq, Repr

namespace Reader

def names (r : Reader) : List String := r.tokens.filterMap Token.name?

/-- The numbers of the place holders. -/
def numbers (r : Reader) : List Nat := r.tokens.filterMap Token.number?

def push (r : Reader) (t : Token) : Reader := ⟨r.tokens ++ [t], .nothing⟩

/-- The reader with what it is in the midst of ended, if that can end. -/
def settle (r : Reader) : Option Reader :=
  match r.pending with
  | .nothing => some r
  | .word cs => some (r.push (.word (.ofList cs)))
  | .comparison cs => some (r.push (.sign (.ofList cs)))
  | .name _ => none
  | .closed cs => some (r.push (.name (.ofList cs)))
  | .number ds => (Text.natural? ds).map fun n => r.push (.placeholder n)

/-- The reader behind the first character of something.  Place holders without a number of their own
are counted. -/
def enter (d : Dialect) (r : Reader) (c : Char) : Option Reader :=
  match d.start? c with
  | some .name => some ⟨r.tokens, .name []⟩
  | some .word => some ⟨r.tokens, .word [c]⟩
  | some .comparison => some ⟨r.tokens, .comparison [c]⟩
  | some .blank => some r
  | some .mark => some (r.push (.sign (.singleton c)))
  | some .placeholder =>
    if d = .postgres then some ⟨r.tokens, .number []⟩
    else some (r.push (.placeholder (r.numbers.length + 1)))
  | none => none

/-- The reader behind one more character, if a statement can go on with it. -/
def next (d : Dialect) (r : Reader) (c : Char) : Option Reader :=
  match r.pending.extend d c with
  | some p => some ⟨r.tokens, p⟩
  | none => if r.pending.clashes c then none else r.settle.bind (enter d · c)

def run (d : Dialect) (r : Reader) (cs : List Char) : Option Reader :=
  cs.foldlM (next d) r

theorem run_append (d : Dialect) (r : Reader) (cs ds : List Char) :
    r.run d (cs ++ ds) = (r.run d cs).bind (run d · ds) :=
  List.foldlM_append

theorem run_cons (d : Dialect) (r : Reader) (c : Char) (cs : List Char) :
    r.run d (c :: cs) = (r.next d c).bind (run d · cs) :=
  List.foldlM_cons

end Reader

/-- The tokens of a text, if it can be read to its end. -/
def read? (d : Dialect) (text : String) : Option (List Token) :=
  ((Reader.run d ⟨[], .nothing⟩ text.toList).bind Reader.settle).map (·.tokens)

example : read? .mysql "SELECT \x60a\x60\x60\"b?\x60 = ?" =
    some [.word "SELECT", .name "a\x60\"b?", .sign "=", .placeholder 1] := by decide +kernel

example : read? .sqlite "DELETE FROM \"a\"; --" = none := by decide +kernel

/-! ### Fixed words -/

theorem start?_of_plain {c : Char} {k : Start} (h : plainStart? c = some k) (d : Dialect) :
    d.start? c = some k := by
  have hne (x : Char) (hx : plainStart? x = none) : c ≠ x := by
    rintro rfl
    rw [hx] at h
    cases h
  have hquote : c ≠ d.quoteMark := hne _ (by cases d <;> decide)
  have hholder : c ≠ (if d = .postgres then '$' else '?') := hne _ (by cases d <;> decide)
  rw [Dialect.start?, if_neg hquote, if_neg hholder, h]

theorem plainStart?_ne {c : Char} {k : Start} (h : plainStart? c = some k) :
    k ≠ .name ∧ k ≠ .placeholder := by
  unfold plainStart? at h
  split_ifs at h <;> obtain rfl := Option.some.inj h <;> exact ⟨nofun, nofun⟩

/-- Whether a character ends what stands before it and is whole by itself. -/
def isSeparator (c : Char) : Bool := c == ' ' || c == '(' || c == ')' || c == ','

/-- Outside of names and numbers. -/
def Pending.Ordinary : Pending → Prop
  | nothing | word _ | comparison _ => True
  | _ => False

namespace Reader

variable {d : Dialect} {r r' s : Reader} {c : Char} {cs : List Char}

theorem names_push (r : Reader) (t : Token) : (r.push t).names = r.names ++ t.name?.toList := by
  cases t <;> simp [names, push, Token.name?]

theorem numbers_push (r : Reader) (t : Token) :
    (r.push t).numbers = r.numbers ++ t.number?.toList := by
  cases t <;> simp [numbers, push, Token.number?]

theorem settle_of_nothing (h : s.pending = .nothing) : s.settle = some s := by
  unfold settle
  rw [h]

theorem pending_of_settle (h : r.settle = some s) : s.pending = .nothing := by
  obtain ⟨tokens, pending⟩ := r
  cases pending with
  | nothing => rw [← Option.some.inj h]
  | word cs => rw [← Option.some.inj h]; rfl
  | comparison cs => rw [← Option.some.inj h]; rfl
  | name cs => cases h
  | closed cs => rw [← Option.some.inj h]; rfl
  | number ds =>
    obtain ⟨n, -, hn⟩ := Option.map_eq_some_iff.1 h
    rw [← hn]
    rfl

/-- A reader goes on to another without new names or place holders. -/
structure Keeps (r r' : Reader) : Prop where
  ordinary : r'.pending.Ordinary
  names : r'.names = r.names
  numbers : r'.numbers = r.numbers

theorem Keeps.trans (h : s.Keeps r) (h' : r.Keeps r') : s.Keeps r' :=
  ⟨h'.ordinary, h'.names.trans h.names, h'.numbers.trans h.numbers⟩

theorem keeps_push (tokens : List Token) (p : Pending) (t : Token) (hname : t.name? = none)
    (hnumber : t.number? = none) : Keeps ⟨tokens, p⟩ (push ⟨tokens, p⟩ t) where
  ordinary := trivial
  names := by rw [names_push, hname, Option.toList_none, List.append_nil]
  numbers := by rw [numbers_push, hnumber, Option.toList_none, List.append_nil]

/-- Outside of names and numbers a reader can end anywhere. -/
theorem exists_settle (h : r.pending.Ordinary) : ∃ s, r.settle = some s ∧ r.Keeps s := by
  obtain ⟨tokens, pending⟩ := r
  cases pending with
  | nothing => exact ⟨_, rfl, h, rfl, rfl⟩
  | word cs => exact ⟨_, rfl, keeps_push _ _ _ rfl rfl⟩
  | comparison cs => exact ⟨_, rfl, keeps_push _ _ _ rfl rfl⟩
  | name cs => cases h
  | closed cs => cases h
  | number ds => cases h

/-- What a plain character begins is the same in all dialects. -/
theorem exists_enter {k : Start} (hc : plainStart? c = some k) (hs : s.pending = .nothing) :
    ∃ r, (∀ d, s.enter d c = some r) ∧ s.Keeps r := by
  unfold enter
  simp only [start?_of_plain hc]
  cases k with
  | name => exact absurd rfl (plainStart?_ne hc).1
  | word => exact ⟨⟨s.tokens, .word [c]⟩, fun _ => rfl, trivial, rfl, rfl⟩
  | comparison => exact ⟨⟨s.tokens, .comparison [c]⟩, fun _ => rfl, trivial, rfl, rfl⟩
  | blank => exact ⟨s, fun _ => rfl, by rw [hs]; trivial, rfl, rfl⟩
  | mark => exact ⟨_, fun _ => rfl, keeps_push _ _ _ rfl rfl⟩
  | placeholder => exact absurd rfl (plainStart?_ne hc).2

/-- Outside of names and numbers a plain character is read the same way in all dialects. -/
theorem exists_next {k : Start} (hr : r.pending.Ordinary) (hc : plainStart? c = some k) :
    ∃ r', (∀ d, r.next d c = some r') ∧ r.Keeps r' := by
  have hclash : r.pending.clashes c = false := by
    obtain ⟨tokens, pending⟩ := r
    cases pending with
    | word cs =>
      have hne : c ≠ '$' := by
        rintro rfl
        cases hc
      simpa [Pending.clashes] using hne
    | number ds => cases hr
    | _ => rfl
  -- what does not belong to the pending word or comparison ends it
  have hends : ∃ r', (∀ d, r.settle.bind (enter d · c) = some r') ∧ r.Keeps r' := by
    obtain ⟨s, hsettle, hs⟩ := exists_settle hr
    obtain ⟨r', henter, hr'⟩ := exists_enter hc (pending_of_settle hsettle)
    exact ⟨r', fun d => by rw [hsettle]; exact henter d, hs.trans hr'⟩
  obtain ⟨r', hr', hkeeps⟩ := hends
  unfold next
  simp only [hclash, Bool.false_eq_true, if_false]
  obtain ⟨tokens, pending⟩ := r
  cases pending with
  | nothing => exact ⟨r', hr', hkeeps⟩
  | word cs =>
    by_cases hword : plainStart? c = some .word
    · simp only [Pending.extend, if_pos hword]
      exact ⟨_, fun _ => rfl, trivial, rfl, rfl⟩
    · simp only [Pending.extend, if_neg hword]
      exact ⟨r', hr', hkeeps⟩
  | comparison cs =>
    by_cases hcomparison : plainStart? c = some .comparison
    · simp only [Pending.extend, if_pos hcomparison]
      exact ⟨_, fun _ => rfl, trivial, rfl, rfl⟩
    · simp only [Pending.extend, if_neg hcomparison]
      exact ⟨r', hr', hkeeps⟩
  | name cs => cases hr
  | closed cs => cases hr
  | number ds => cases hr

theorem exists_run_plain (hr : r.pending.Ordinary)
    (hcs : ∀ c ∈ cs, (plainStart? c).isSome = true) :
    ∃ r', (∀ d, r.run d cs = some r') ∧ r.Keeps r' := by
  induction cs generalizing r with
  | nil => exact ⟨r, fun _ => rfl, hr, rfl, rfl⟩
  | cons c cs ih =>
    obtain ⟨k, hk⟩ := Option.isSome_iff_exists.1 (hcs c List.mem_cons_self)
    obtain ⟨r₁, hnext, hkeeps⟩ := exists_next hr hk
    obtain ⟨r', hrun, hkeeps'⟩ := ih hkeeps.ordinary fun x hx => hcs x (List.mem_cons_of_mem _ hx)
    exact ⟨r', fun d => by rw [run_cons, hnext d]; exact hrun d, hkeeps.trans hkeeps'⟩

/-- A separator ends whatever can end. -/
theorem next_of_separator (hc : isSeparator c = true) (hr : r.settle = some s) (d : Dialect) :
    r.next d c = s.enter d c := by
  obtain ⟨tokens, pending⟩ := r
  simp only [isSeparator, Bool.or_eq_true, beq_iff_eq] at hc
  have hends : pending.extend d c = none ∧ pending.clashes c = false := by
    cases pending with
    | name cs => cases hr
    | _ => rcases hc with ((rfl | rfl) | rfl) | rfl <;> cases d <;> exact ⟨rfl, rfl⟩
  unfold next
  simp only [hends.1, hends.2, hr, Bool.false_eq_true, if_false, Option.bind_some]

/-- Behind a separator a reader is in the midst of nothing. -/
theorem pending_of_separator (hc : isSeparator c = true) (hr : r.settle = some s)
    (h : r.next d c = some r') : r'.pending = .nothing := by
  have hs := pending_of_settle hr
  rw [next_of_separator hc hr] at h
  simp only [isSeparator, Bool.or_eq_true, beq_iff_eq] at hc
  obtain ⟨tokens, pending⟩ := s
  subst hs
  rcases hc with ((rfl | rfl) | rfl) | rfl <;> cases d <;> rw [← Option.some.inj h] <;> rfl

theorem pending_of_run (hr : r.pending.Ordinary) (hcs : ∀ x ∈ cs, (plainStart? x).isSome = true)
    (hc : isSeparator c = true) (h : r.run d (cs ++ [c]) = some r') : r'.pending = .nothing := by
  obtain ⟨r₁, hrun, hkeeps⟩ := exists_run_plain hr hcs
  obtain ⟨s, hs, -⟩ := exists_settle hkeeps.ordinary
  rw [run_append, hrun d, Option.bind_some, run_cons] at h
  obtain ⟨r₂, hnext, hend⟩ := Option.bind_eq_some_iff.1 h
  obtain rfl := Option.some.inj hend
  exact pending_of_separator hc hs hnext

/-! ### Names and place holders -/

/-- Between quote marks a text with its marks doubled is read as a name. -/
theorem run_quoteBody (tokens : List Token) (cs n : List Char) (d : Dialect) :
    run d ⟨tokens, .name cs⟩ (Text.quoteBody d.quoteMark n) = some ⟨tokens, .name (cs ++ n)⟩ := by
  induction n generalizing cs with
  | nil => rw [List.append_nil]; rfl
  | cons c n ih =>
    have happend : cs ++ c :: n = cs ++ [c] ++ n := by simp
    rw [Text.quoteBody, happend]
    split
    · next hc =>
      -- the first of two marks seems to end the name, and the second takes it up again
      have hclosed : next d ⟨tokens, .name cs⟩ d.quoteMark = some ⟨tokens, .closed cs⟩ := by
        simp only [next, Pending.extend, if_pos]
      have htaken : next d ⟨tokens, .closed cs⟩ d.quoteMark =
          some ⟨tokens, .name (cs ++ [d.quoteMark])⟩ := by
        simp only [next, Pending.extend, if_pos]
      rw [run_cons, hclosed, Option.bind_some, run_cons, htaken, Option.bind_some, hc]
      exact ih _
    · next hc =>
      have hinside : next d ⟨tokens, .name cs⟩ c = some ⟨tokens, .name (cs ++ [c])⟩ := by
        simp only [next, Pending.extend, if_neg hc]
      rw [run_cons, hinside, Option.bind_some]
      exact ih _

theorem run_quote (hs : s.pending = .nothing) (n : String) (d : Dialect) :
    s.run d (d.quote n).toList = some ⟨s.tokens, .closed n.toList⟩ := by
  have hopen : s.next d d.quoteMark = some ⟨s.tokens, .name []⟩ := by
    obtain ⟨tokens, pending⟩ := s
    subst hs
    cases d <;> rfl
  rw [Dialect.quote, Text.quoted, String.toList_ofList, List.cons_append, run_cons, hopen]
  show Reader.run d _ _ = _
  rw [run_append, run_quoteBody]
  simp only [Option.bind_some, run_cons, next, Pending.extend, if_pos, List.nil_append]
  rfl

theorem run_digits (tokens : List Token) (ds cs : List Char) (h : ∀ c ∈ cs, c.isDigit = true)
    (d : Dialect) : run d ⟨tokens, .number ds⟩ cs = some ⟨tokens, .number (ds ++ cs)⟩ := by
  induction cs generalizing ds with
  | nil => rw [List.append_nil]; rfl
  | cons c cs ih =>
    have happend : ds ++ c :: cs = ds ++ [c] ++ cs := by simp
    rw [run_cons, happend]
    simp only [next, Pending.extend, h c List.mem_cons_self, if_true, Option.bind_some]
    exact ih _ fun x hx => h x (List.mem_cons_of_mem _ hx)

/-- The place holder with the number that is next is read as that number. -/
theorem exists_run_placeholder (hs : s.pending = .nothing) (d : Dialect) :
    ∃ r', s.run d (d.placeholder (s.numbers.length + 1)).toList = some r' ∧
      r'.settle = some (s.push (.placeholder (s.numbers.length + 1))) := by
  obtain ⟨tokens, pending⟩ := s
  subst hs
  cases d with
  | sqlite =>
    refine ⟨push ⟨tokens, .nothing⟩ _, ?_, rfl⟩
    show Reader.run .sqlite _ "?".toList = _
    rfl
  | mysql =>
    refine ⟨push ⟨tokens, .nothing⟩ _, ?_, rfl⟩
    show Reader.run .mysql _ "?".toList = _
    rfl
  | postgres =>
    generalize numbers ⟨tokens, .nothing⟩ = ns
    refine ⟨⟨tokens, .number (ns.length + 1).repr.toList⟩, ?_, ?_⟩
    · have hdigits : ∀ c ∈ (ns.length + 1).repr.toList, c.isDigit = true := fun c hc =>
        Nat.isDigit_of_mem_toDigits (by decide) (by decide) (Nat.toList_repr ▸ hc)
      rw [Dialect.placeholder, String.toList_append]
      show run .postgres ⟨tokens, .number []⟩ (ns.length + 1).repr.toList = _
      rw [run_digits _ _ _ hdigits, List.nil_append]
    · show (Text.natural? _).map _ = _
      rw [Text.natural?_repr]
      rfl

end Reader

end RecordStore.Sql

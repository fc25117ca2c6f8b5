import RecordStore.Text.Decimal
import RecordStore.Yaml.Place

/-!
Scalars as they are written: in quote marks, without any, or as a block of lines.  Each reader gives
the text and the place behind it.  Lines of one text are folded: a single line end counts as a
space, and of several the first is dropped.
-/
namespace RecordStore.Yaml

/-- Puts a text in front of one that was read. -/
def putFront (cs : List Char) (r : List Char × Place) : List Char × Place :=
  (cs ++ r.1, r.2)

/-- What the ends of lines within a text stand for. -/
def folded (ends : Nat) : List Char :=
  if ends = 1 then [' '] else List.replicate (ends - 1) '\n'

/-- The character after a backslash. -/
def escaped? : Char → Option Char
  | '0' => some '\x00'
  | 'a' => some '\x07'
  | 'b' => some '\x08'
  | 't' | '\t' => some '\t'
  | 'n' => some '\n'
  | 'v' => some '\x0b'
  | 'f' => some '\x0c'
  | 'r' => some '\r'
  | 'e' => some '\x1b'
  | ' ' => some ' '
  | '"' => some '"'
  | '/' => some '/'
  | '\\' => some '\\'
  | 'N' => some '\u0085'
  | '_' => some '\u00a0'
  | 'L' => some '\u2028'
  | 'P' => some '\u2029'
  | _ => none

/-- How many hexadecimal digits follow a letter that names a character by its number. -/
def escapeLength? : Char → Option Nat
  | 'x' => some 2
  | 'u' => some 4
  | 'U' => some 8
  | _ => none

/-- The character that hexadecimal digits name. -/
def hexChar? (cs : List Char) : Option Char :=
  (Text.naturalIn? 16 cs).bind fun n => if n.isValidChar then some (Char.ofNat n) else none

/-- The character that a text behind a backslash names, and the number of characters that it is
written with. -/
def escape? : List Char → Option (Char × Nat)
  | [] => none
  | c :: cs =>
    match escapeLength? c with
    | some n =>
      let digits := cs.take n
      if digits.length = n then (hexChar? digits).map (·, n + 1) else none
    | none => (escaped? c).map (·, 1)

/-- The number of lines that end in front of something, and its place.  Tabs do not indent. -/
def lineEnds? (indent : Int) : Nat → Place → Option (Nat × Place)
  | 0, _ => none
  | fuel + 1, p =>
    match p.rest with
    | '\n' :: _ => (lineEnds? indent fuel p.next).map fun (n, q) => (n + 1, q)
    | ' ' :: _ => lineEnds? indent fuel p.next
    | '\t' :: _ => if p.column < indent then none else lineEnds? indent fuel p.next
    | _ => some (0, p)

/-- A text up to its closing quote mark.  In single quote marks a mark written twice stands for
itself, and in double ones a backslash escapes.  Lines after the first are indented. -/
def quoted? (mark : Char) (indent : Int) : Nat → Place → Option (List Char × Place)
  | 0, _ => none
  | fuel + 1, p =>
    let goOn (cs : List Char) (q : Place) : Option (List Char × Place) :=
      if q.atDocumentMark || q.column < indent then none
      else (quoted? mark indent fuel q).map (putFront cs)
    match p.rest with
    | [] => none
    | c :: cs =>
      if c = mark then
        if mark = '\'' ∧ cs.head? = some '\'' then
          (quoted? mark indent fuel p.next.next).map (putFront [c])
        else some ([], p.next)
      else if c = '\\' ∧ mark = '"' then
        if cs.head? = some '\n' then do
          let q := p.next.next
          -- a mark at the very start of the next line ends the text all the same
          if q.rest.head? = some mark then return ([], q.next)
          let (ends, r) ← lineEnds? indent p.rest.length q
          goOn (List.replicate ends '\n') r
        else do
          let (e, n) ← escape? cs
          let q := Nat.repeat Place.next (n + 1) p
          (quoted? mark indent fuel q).map (putFront [e])
      else if isBlank c || c == '\n' then
        let q := p.skip isBlank
        if atLineEnd q.rest then do
          let (ends, r) ← lineEnds? indent (p.rest.length + 1) q
          goOn (folded ends) r
        else goOn (p.rest.takeWhile isBlank) q
      else (quoted? mark indent fuel p.next).map (putFront [c])

/-- Whether a character belongs to a scalar without quote marks.  A colon in front of a gap does
not, and within brackets brackets and commas do not. -/
def isPlain (within : Bool) (c : Char) (cs : List Char) : Bool :=
  if c = ':' then !(atGap cs || (within && atBracket cs)) else !(within && isBracket c)

/-- The part of a text up to the end of its first word. -/
def plainWord (within : Bool) : List Char → List Char
  | [] => []
  | c :: cs =>
    if isBlank c || c == '\n' || !isPlain within c cs then [] else c :: plainWord within cs

/-- The number of lines that end in front of a word, and its place.  A tab indents nothing but an
empty line. -/
def plainLineEnds? (indent : Int) : Nat → Place → Option (Nat × Place)
  | 0, _ => none
  | fuel + 1, p =>
    match p.rest with
    | '\n' :: _ => (plainLineEnds? indent fuel p.next).map fun (n, q) => (n + 1, q)
    | ' ' :: _ => plainLineEnds? indent fuel p.next
    | '\t' :: _ =>
      if p.column < indent then
        p.afterBlanks?.bind fun q =>
          if atLineEnd q.rest then plainLineEnds? indent fuel q else none
      else plainLineEnds? indent fuel p.next
    | _ => some (0, p)

/-- A text without quote marks.  It ends at a comment, at a mark between documents, and in front of
a line that is not indented enough. -/
def plain? (within : Bool) (indent : Int) : Nat → Place → Option (List Char × Place)
  | 0, _ => none
  | fuel + 1, p =>
    if p.atDocumentMark || p.rest.head? = some '#' then some ([], p)
    else if within && p.rest.head? = some '-' && atBracket p.rest.tail then none
    else
      let word := plainWord within p.rest
      let q := Nat.repeat Place.next word.length p
      if word = [] || !atGap q.rest || q.rest = [] then some (word, q)
      else do
        let r := q.skip isBlank
        let (ends, e) ← plainLineEnds? indent (q.rest.length + 1) r
        if !within && e.column < indent then return (word, e)
        let (more, last) ← plain? within indent fuel e
        if more = [] then return (word, last)
        let gap := if ends = 0 then q.rest.takeWhile isBlank else folded ends
        return (word ++ gap ++ more, last)

/-- What becomes of the line ends at the end of a block of lines. -/
inductive Chomping
  | clip
  | strip
  | keep
deriving DecidableEq, Repr

/-- What stands behind the mark of a block: what becomes of its last line ends, and how much it is
indented, if that is told. -/
def blockHeader? (p : Place) : Option (Chomping × Nat × Place) :=
  let chomping? (p : Place) : Option (Chomping × Place) :=
    match p.rest with
    | '+' :: _ => some (.keep, p.next)
    | '-' :: _ => some (.strip, p.next)
    | _ => none
  let digit? (p : Place) : Option (Nat × Place) :=
    match p.rest with
    | c :: _ => if c.isDigit then some (c.toNat - 48, p.next) else none
    | [] => none
  let (chomping, indent, q) :=
    match chomping? p with
    | some (k, q) =>
      match digit? q with
      | some (n, r) => (k, some n, r)
      | none => (k, none, q)
    | none =>
      match digit? p with
      | some (n, q) =>
        match chomping? q with
        | some (k, r) => (k, some n, r)
        | none => (.clip, some n, q)
      | none => (.clip, none, p)
  if indent = some 0 then none
  else
    q.afterBlanks?.bind fun r =>
      if atLineEnd r.rest then some (chomping, indent.getD 0, r) else none

/-- The number of empty lines in front of a line, its place behind its indentation, and the widest
indentation on the way.  Without a limit all spaces indent. -/
def blockIndent (limit : Option Nat) : Nat → Place → Nat × Nat × Place
  | 0, p => (0, p.column, p)
  | fuel + 1, p =>
    match p.rest with
    | ' ' :: _ =>
      if limit.all (p.column < ·) then blockIndent limit fuel p.next else (0, p.column, p)
    | '\n' :: _ =>
      let (n, widest, q) := blockIndent limit fuel p.next
      (n + 1, max p.column widest, q)
    | _ => (0, p.column, p)

/-- The lines of a block, whether the last one ended, the number of empty lines behind it, and the
place there.  `ended` and `empty` tell the same of the lines before, and `spaced` whether the line
before was indented further. -/
def blockLines (fold : Bool) (indent : Nat) :
    Nat → (ended spaced : Bool) → (empty : Nat) → Place → List Char × Bool × Nat × Place
  | 0, ended, _, empty, p => ([], ended, empty, p)
  | fuel + 1, ended, spaced, empty, p =>
    if p.column ≠ indent || p.rest = [] || (indent = 0 && atDocumentEnd p.rest) then
      ([], ended, empty, p)
    else
      let blank := p.rest.head?.any isBlank
      let gap :=
        if fold && ended && !spaced && !blank then folded (empty + 1)
        else (if ended then ['\n'] else []) ++ List.replicate empty '\n'
      let line := p.rest.takeWhile (· != '\n')
      let q := p.lineEnd
      if q.rest = [] then (gap ++ line, false, 0, q)
      else
        let (n, _, r) := blockIndent (some indent) q.rest.length q.next
        let (more, last) := blockLines fold indent fuel true blank n r
        (gap ++ line ++ more, last)

/-- A text that is a block of lines, from behind its mark. -/
def block? (fold : Bool) (indent : Int) (p : Place) : Option (List Char × Place) := do
  let (chomping, told, q) ← blockHeader? p
  let r := q.next
  if r.rest.head? = some '\t' then none
  let fuel := r.rest.length + 1
  let fixed := if 0 ≤ indent then (indent + told).toNat else told
  let (empty, widest, s) := blockIndent (if told = 0 then none else some fixed) fuel r
  let least := max (indent + 1).toNat (if 0 < indent then 1 else 0)
  let column := if told = 0 then max widest least else fixed
  if s.rest = [] then
    let text : List Char :=
      if chomping = .strip ∨ s.line = p.line then []
      else if chomping = .clip ∨ empty = 0 then ['\n']
      else List.replicate empty '\n'
    return (text, s)
  if s.column < column ∧ indent < s.column then none
  let (text, ended, more, e) := blockLines fold column fuel false false empty s
  let last : List Char :=
    if chomping = .strip then []
    else
      (if ended then ['\n'] else []) ++
        (if e.rest = [] ∧ max column 1 ≤ e.column then ['\n'] else [])
  let kept : List Char := if chomping = .keep then List.replicate more '\n' else []
  return (text ++ last ++ kept, e)

end RecordStore.Yaml

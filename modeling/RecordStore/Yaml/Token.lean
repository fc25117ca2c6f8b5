import RecordStore.Yaml.Scalar

/-!
A file as a row of tokens.  Indentation opens and closes blocks, which have tokens of their own.  A
name is told from a value only by the colon behind it, so the tokens that announce it are put in
front of it afterwards; until then its place is remembered.
-/
namespace RecordStore.Yaml

inductive Token
  | directive
  | documentStart
  | documentEnd
  | blockSequence
  | blockMapping
  | blockEnd
  | squareOpen
  | squareClose
  | curlyOpen
  | curlyClose
  | item
  | comma
  | key
  | value
  | alias (name : List Char)
  | anchor (name : List Char)
  /-- A kind of value, by its word if it is one that all files share. -/
  | tag (kind : Option (List Char))
  | plain (text : List Char)
  | quoted (text : List Char)
deriving DecidableEq, Repr

/-- A place where a name may have started. -/
structure KeyPlace where
  /-- Whether nothing but a name can stand there. -/
  required : Bool
  /-- The number of tokens in front of it. -/
  tokens : Nat
  line : Nat
  column : Nat
deriving Repr

/-- An indentation.  One that opens no block makes the value of a name stand to the right of it. -/
structure Level where
  /-- The indentation around it. -/
  outer : Int
  block : Bool
deriving Repr

/-- Tokens found so far, and what their meaning depends on. -/
structure Scan where
  place : Place
  tokens : Array Token
  indent : Int
  levels : List Level
  /-- For each open bracket, whether it is a square one; the innermost comes first. -/
  brackets : List Bool
  /-- Where a name may have started, within the innermost bracket first and outside all last. -/
  keys : List (Option KeyPlace)
  keyAllowed : Bool
  /-- Where a colon makes a value without a space behind it. -/
  adjacent : Option (Nat × Nat)
deriving Repr

namespace Scan

def start (text : List Char) : Scan :=
  ⟨.start text, #[], -1, [], [], [none], true, none⟩

def within (s : Scan) : Bool := !s.brackets.isEmpty

/-- The place of the next token, and whether a name may start there.  Tabs do not indent blocks, and
outside brackets a new line may start with a name. -/
def nextPlace? (s : Scan) : Nat → Place → (allowed : Bool) → Option (Place × Bool)
  | 0, _, _ => none
  | fuel + 1, p, allowed =>
    match p.rest with
    | '\t' :: _ =>
      if s.levels.length ≠ 0 ∧ p.indented ∧ p.column < s.indent then
        p.afterBlanks?.bind fun q =>
          if atLineEnd q.rest then s.nextPlace? fuel q allowed else none
      else s.nextPlace? fuel p.next allowed
    | ' ' :: _ => s.nextPlace? fuel p.next allowed
    | '\n' :: _ => s.nextPlace? fuel p.next (allowed || !s.within)
    | '#' :: _ => s.nextPlace? fuel p.lineEnd allowed
    | _ => some (p, allowed)

/-- The scan at its next token. -/
def toToken? (s : Scan) : Option Scan :=
  (s.nextPlace? (s.place.rest.length + 1) s.place s.keyAllowed).map fun (p, allowed) =>
    { s with place := p, keyAllowed := allowed }

/-- The scan with one more token, which was read up to a place. -/
def readTo (s : Scan) (t : Token) (p : Place) : Scan :=
  { s with place := p, tokens := s.tokens.push t }

/-- No name starts at the place that was remembered last. -/
def forgetKey? (s : Scan) : Option Scan :=
  match s.keys with
  | some k :: ks => if k.required then none else some { s with keys := none :: ks }
  | _ => some s

/-- A name may start here. -/
def markKey? (s : Scan) : Option Scan :=
  if s.keyAllowed then do
    let required := !s.within && s.indent == s.place.column && s.levels.head?.any Level.block
    let s ← s.forgetKey?
    let k : KeyPlace := ⟨required, s.tokens.size, s.place.line, s.place.column⟩
    return { s with keys := some k :: s.keys.tail }
  else some s

/-- Outside brackets a name stands on one line with its colon, and near it. -/
def dropFarKey? (s : Scan) : Option Scan :=
  match s.keys with
  | [some k] =>
    if k.line < s.place.line || k.column + 1024 < s.place.column then s.forgetKey? else some s
  | _ => some s

/-- The indentation with what stood to the right of a column closed, innermost first. -/
def closed (column : Int) (indent : Int) (tokens : Array Token) :
    List Level → Int × Array Token × List Level
  | [] => (indent, tokens, [])
  | l :: ls =>
    if column < indent then
      closed column l.outer (if l.block then tokens.push .blockEnd else tokens) ls
    else (indent, tokens, l :: ls)

/-- Closes the blocks that stand to the right of a column. -/
def dedent (s : Scan) (column : Int) : Scan :=
  if s.within then s
  else
    let (indent, tokens, levels) := closed column s.indent s.tokens s.levels
    { s with indent := indent, tokens := tokens, levels := levels }

/-- Opens a block at a column, unless it is open.  Its token is put behind `n` others. -/
def indentTo (s : Scan) (column n : Nat) (t : Token) : Scan :=
  if s.within then s
  else
    let (indent, levels) := match s.levels with
      | l :: ls => if s.indent ≤ column && !l.block then (l.outer, ls) else (s.indent, l :: ls)
      | [] => (s.indent, [])
    if indent < column then
      { s with
        indent := column
        levels := ⟨indent, true⟩ :: levels
        tokens := s.tokens.insertIdxIfInBounds n t }
    else { s with indent := indent, levels := levels }

/-- What follows stands to the right of the block. -/
def widen (s : Scan) : Scan :=
  if !s.within && s.levels.head?.any Level.block then
    { s with indent := s.indent + 1, levels := ⟨s.indent, false⟩ :: s.levels }
  else s

/-- What follows stands in the block. -/
def narrow (s : Scan) : Scan :=
  match s.levels with
  | l :: ls => if l.block then s else { s with indent := l.outer, levels := ls }
  | [] => s

/-- Reads a bracket that opens.  They nest 255 deep. -/
def openBracket? (s : Scan) (square : Bool) : Option Scan := do
  let s := (← s.markKey?).widen
  if s.brackets.length = 255 then none
  let s := s.readTo (if square then .squareOpen else .curlyOpen) (← s.place.next.afterBlanks?)
  return { s with brackets := square :: s.brackets, keys := none :: s.keys, keyAllowed := true }

/-- Reads a bracket that closes. -/
def closeBracket? (s : Scan) (t : Token) : Option Scan := do
  let s ← s.forgetKey?
  let s := s.readTo t (← s.place.next.afterBlanks?)
  let s := if s.within then { s with brackets := s.brackets.tail, keys := s.keys.tail } else s
  let adjacent := if s.within then some (s.place.line, s.place.column) else s.adjacent
  return { s with keyAllowed := false, adjacent := adjacent }

def comma? (s : Scan) : Option Scan := do
  let s ← s.forgetKey?
  let s := s.readTo .comma (← s.place.next.afterBlanks?)
  return { s with keyAllowed := true }

/-- Reads the mark of an item. -/
def item? (s : Scan) : Option Scan := do
  if s.within || !s.keyAllowed then none
  let behind := s.place.next
  let s := s.indentTo s.place.column s.tokens.size .blockSequence
  let p ← behind.afterBlanks?
  -- items that start on one line are not set off by tabs
  if (behind.rest.takeWhile isBlank).contains '\t' && p.rest.head? = some '-' &&
      atGap p.rest.tail then
    none
  let s := if p.rest.head? = some '\n' || atBracket p.rest then s.widen else s
  let s ← s.forgetKey?
  return { s.readTo .item p with keyAllowed := true }

/-- The place behind spaces, comments and line ends, and whether a line ended. -/
def afterSpaces : Nat → Place → Place × Bool
  | 0, p => (p, false)
  | fuel + 1, p =>
    match p.rest with
    | ' ' :: _ => afterSpaces fuel p.next
    | '#' :: _ => afterSpaces fuel p.lineEnd
    | '\n' :: _ => ((afterSpaces fuel p.next).1, true)
    | _ => (p, false)

/-- Reads the mark of a name that may be any value. -/
def explicitKey? (s : Scan) : Option Scan := do
  if !s.within && !s.keyAllowed then none
  let s := s.indentTo s.place.column s.tokens.size .blockMapping
  let s ← s.forgetKey?
  let behind := s.place.next
  if behind.rest = [] then none
  let (p, _) := afterSpaces behind.rest.length behind
  if p.rest.head? = some '\t' then none
  return { s.readTo .key p with keyAllowed := !s.within }

/-- Characters of words. -/
def isWordChar (c : Char) : Bool := c.isAlphanum || c == '-' || c == '_'

/-- Reads the colon between a name and its value, and announces the name. -/
def value? (s : Scan) : Option Scan := do
  let colon := s.place
  let behind := colon.next
  let p ← if behind.rest.head? = some '\t' then behind.afterBlanks? else some behind
  if p.column ≠ behind.column && !(behind.rest.takeWhile isBlank).contains ' ' &&
      p.rest.head?.any isWordChar then
    none
  match s.keys with
  | some k :: ks =>
    -- in square brackets the name stands on one line with its colon
    if s.brackets.head? = some true && k.line < colon.line then none
    let s := { s with
      tokens := s.tokens.insertIdxIfInBounds k.tokens .key
      keys := none :: ks
      keyAllowed := false }
    return (s.indentTo k.column k.tokens .blockMapping).widen.readTo .value p
  | _ =>
    if !s.within && !s.keyAllowed then none
    let s := (s.indentTo colon.column s.tokens.size .blockMapping).widen
    return { s.readTo .value p with keyAllowed := !s.within }

/-- Reads the name of a value that is given here, or was given before. -/
def reference? (s : Scan) (t : List Char → Token) : Option Scan := do
  let s ← s.markKey?
  let behind := s.place.next
  let inName (c : Char) : Bool := !(isBlank c || isBracket c || c == '\ufeff')
  let p := behind.skip inName
  let name := behind.rest.take (p.column - behind.column)
  if name = [] then none
  return { s.readTo (t name) p with keyAllowed := false }

/-- Characters of the word for a kind. -/
def isKindChar (c : Char) : Bool :=
  c.isAlphanum || c == '-' || "#;/?:@&=+$_.~*'()%".toList.contains c

/-- Reads the word for a kind of value.  Two marks in front of it tell that it is one that all files
share. -/
def kind? (s : Scan) : Option Scan := do
  let s ← s.markKey?
  let shared := s.place.next.rest.head? = some '!'
  let behind := if shared then s.place.next.next else s.place.next
  let p := behind.skip isKindChar
  let word := behind.rest.take (p.column - behind.column)
  if shared && word = [] then none
  if !(atGap p.rest || (s.within && atBracket p.rest)) then none
  return { s.readTo (.tag (if shared then some word else none)) p with keyAllowed := false }

/-- Reads a text as a block of lines. -/
def blockScalar? (s : Scan) (fold : Bool) : Option Scan := do
  let s := (← s.markKey?).narrow
  let (text, p) ← block? fold s.indent s.place.next
  return { s.readTo (.quoted text) p with keyAllowed := true }

/-- Reads a text in quote marks.  Nothing but a colon, or within brackets what goes on there,
follows it on its line. -/
def quotedScalar? (s : Scan) (mark : Char) : Option Scan := do
  let s ← s.markKey?
  let behind := s.place.next
  let (text, p) ← quoted? mark s.indent (behind.rest.length + 1) behind
  let q ← p.afterBlanks?
  let follows := atLineEnd q.rest ||
    (if s.within then q.rest.head?.any fun c => c == ',' || c == ']' || c == '\x7d' || c == ':'
      else q.rest.head? = some ':' && q.line == s.place.line)
  if !follows then none
  let s ← { s.readTo (.quoted text) q with keyAllowed := false }.toToken?
  return { s with adjacent := some (s.place.line, s.place.column) }

/-- Reads a text without quote marks. -/
def plainScalar? (s : Scan) : Option Scan := do
  let s := (← s.markKey?).narrow
  let indent := s.indent + 1
  if s.within && s.place.column < indent then none
  let (text, p) ← plain? s.within indent (s.place.rest.length + 1) s.place
  return { s.readTo (.plain text) p with keyAllowed := p.indented }

/-- The place behind a line that tells of the file.  It starts with a word, and the version of the
format is two numbers. -/
def afterDirective? (p : Place) : Option Place :=
  let behind := p.next
  let q := behind.skip isWordChar
  let number? (p : Place) : Option Place :=
    let r := p.skip Char.isDigit
    if p.column < r.column ∧ r.column ≤ p.column + 9 then some r else none
  match behind.rest.take (q.column - behind.column) with
  | [] => none
  | word =>
    if !atGap q.rest then none
    else if word = "YAML".toList then do
      let point ← number? (q.skip isBlank)
      if point.rest.head? ≠ some '.' then none
      let r ← (← number? point.next).afterBlanks?
      if atLineEnd r.rest then return r else none
    else some q.lineEnd

/-- Reads a mark that stands between documents, or a line that tells of the file. -/
def documentToken? (s : Scan) (t : Token) : Option Scan := do
  let s ← (s.dedent (-1)).forgetKey?
  let s := { s with keyAllowed := false }
  match t with
  | .directive => return s.readTo t (← afterDirective? s.place)
  | .documentEnd =>
    let p ← s.place.next.next.next.afterBlanks?
    if atLineEnd p.rest then return s.readTo t p else none
  | _ => return s.readTo t s.place.next.next.next

/-- Reads the token that stands here. -/
def token? (s : Scan) : Option Scan :=
  let p := s.place
  match p.rest with
  | [] => none
  | c :: cs =>
    if p.column = 0 ∧ c = '%' then s.documentToken? .directive
    else if p.column = 0 ∧ atDocumentStart p.rest then s.documentToken? .documentStart
    else if p.column = 0 ∧ atDocumentEnd p.rest then s.documentToken? .documentEnd
    else if p.column < s.indent then none
    else if c = '[' then s.openBracket? true
    else if c = '\x7b' then s.openBracket? false
    else if c = ']' then s.closeBracket? .squareClose
    else if c = '\x7d' then s.closeBracket? .curlyClose
    else if c = ',' then s.comma?
    else if c = '-' ∧ atGap cs then s.item?
    else if c = '?' ∧ atGap cs then s.explicitKey?
    else if c = ':' ∧ (atGap cs ∨
        s.within ∧ (atBracket cs ∨ s.adjacent = some (p.line, p.column))) then
      s.value?
    else if c = '*' then s.reference? .alias
    else if c = '&' then s.reference? .anchor
    else if c = '!' then s.kind?
    else if (c = '|' ∨ c = '>') ∧ !s.within then s.blockScalar? (c = '>')
    else if c = '\'' ∨ c = '"' then s.quotedScalar? c
    else if c = '%' ∨ c = '@' ∨ c = '\x60' then none
    else s.plainScalar?

/-- Reads all tokens.  At the end no name is missing, and all blocks are closed. -/
def tokens? : Nat → Scan → Option (List Token)
  | 0, _ => none
  | fuel + 1, s => do
    let s ← (← s.toToken?).dropFarKey?
    let s := s.dedent s.place.column
    if s.place.rest = [] then
      if s.keys.any fun k => k.any KeyPlace.required then none
      return (s.dedent (-1)).tokens.toList
    (← s.token?).tokens? fuel

end Scan

/-- The tokens of a text. -/
def tokens? (text : String) : Option (List Token) :=
  let cs := lineEnded text.toList
  (Scan.start cs).tokens? (cs.length + 1)

end RecordStore.Yaml

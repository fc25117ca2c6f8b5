/-!
Places in a text: what is still to be read, and the line and column where it stands.
-/
namespace RecordStore.Yaml

def isBlank (c : Char) : Bool := c == ' ' || c == '\t'

/-- Characters that have a meaning of their own within brackets. -/
def isBracket (c : Char) : Bool :=
  c == ',' || c == '[' || c == ']' || c == '\x7b' || c == '\x7d'

/-- The text with one mark at the end of each line.  A null character ends all of it. -/
def lineEnded : List Char → List Char
  | [] => []
  | '\x00' :: _ => []
  | '\r' :: '\n' :: cs => '\n' :: lineEnded cs
  | '\r' :: cs => '\n' :: lineEnded cs
  | c :: cs => c :: lineEnded cs

/-- Whether a line ends in front of a text. -/
def atLineEnd : List Char → Bool
  | [] => true
  | c :: _ => c == '\n'

/-- Whether a text goes on with a blank or the end of a line. -/
def atGap : List Char → Bool
  | [] => true
  | c :: _ => isBlank c || c == '\n'

/-- Whether a text goes on with a character that matters within brackets. -/
def atBracket : List Char → Bool
  | [] => false
  | c :: _ => isBracket c

/-- Whether a mark that starts a document stands in front. -/
def atDocumentStart : List Char → Bool
  | '-' :: '-' :: '-' :: cs => atGap cs
  | _ => false

/-- Whether a mark that ends a document stands in front. -/
def atDocumentEnd : List Char → Bool
  | '.' :: '.' :: '.' :: cs => atGap cs
  | _ => false

structure Place where
  rest : List Char
  line : Nat
  column : Nat
  /-- Whether only blanks stand in front of the place on its line. -/
  indented : Bool
deriving Repr

namespace Place

/-- The place where a text starts. -/
def start (text : List Char) : Place := ⟨text, 0, 0, true⟩

/-- The place behind the next character. -/
def next (p : Place) : Place :=
  match p.rest with
  | [] => p
  | '\n' :: cs => ⟨cs, p.line + 1, 0, true⟩
  | c :: cs => ⟨cs, p.line, p.column + 1, p.indented && isBlank c⟩

/-- The place behind the characters of some kind that stand in front on the line. -/
def skip (p : Place) (kind : Char → Bool) : Place :=
  let cs := p.rest.takeWhile fun c => c != '\n' && kind c
  ⟨p.rest.drop cs.length, p.line, p.column + cs.length, p.indented && cs.all isBlank⟩

/-- The place at the end of the line. -/
def lineEnd (p : Place) : Place := p.skip fun _ => true

/-- Whether a mark between documents stands here. -/
def atDocumentMark (p : Place) : Bool :=
  p.column == 0 && (atDocumentStart p.rest || atDocumentEnd p.rest)

/-- The place behind blanks and a comment.  A comment is set off by a blank. -/
def afterBlanks? (p : Place) : Option Place :=
  let q := p.skip isBlank
  match q.rest with
  | '#' :: _ => if q.column = p.column then none else some q.lineEnd
  | _ => some q

end Place

end RecordStore.Yaml

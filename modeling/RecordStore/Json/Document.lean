import RecordStore.Text.Decimal

/-!
JSON texts read without loss: repeated members stay, numbers keep their digits, and a string with
an unpaired surrogate is told apart from one that names characters.  What such a document means is
decided by whoever reads it.
-/
namespace RecordStore

/-- A number as it is written. -/
structure NumberLiteral where
  negative : Bool
  whole : List Char
  fraction : Option (List Char)
  /-- Whether the exponent is negative, and its digits. -/
  exponent : Option (Bool × List Char)
deriving DecidableEq, Repr

/-- A JSON text as it is written.  A string is absent when it holds an unpaired surrogate. -/
inductive Document
  | null
  | bool (b : Bool)
  | number (n : NumberLiteral)
  | string (s : Option String)
  | array (items : List Document)
  | object (members : List (Option String × Document))
deriving Repr

namespace Document

/-- The four characters that may stand between tokens. -/
def isSpace (c : Char) : Bool :=
  c == ' ' || c == '\n' || c == '\t' || c == '\r'

def skipSpace (cs : List Char) : List Char :=
  cs.dropWhile isSpace

/-- A piece of a string: a character, or one of the two halves of a surrogate pair. -/
inductive Piece
  | char (c : Char)
  | half (n : Nat)
deriving DecidableEq, Repr

/-- The value of a hexadecimal digit in either case. -/
def hexValue? (c : Char) : Option Nat :=
  if '0' ≤ c ∧ c ≤ '9' then some (c.toNat - 48)
  else if 'a' ≤ c ∧ c ≤ 'f' then some (c.toNat - 87)
  else if 'A' ≤ c ∧ c ≤ 'F' then some (c.toNat - 55)
  else none

/-- The piece that four hexadecimal digits name. -/
def hexPiece? (a b c d : Char) : Option Piece := do
  let n := 4096 * (← hexValue? a) + 256 * (← hexValue? b) + 16 * (← hexValue? c) +
    (← hexValue? d)
  if 0xD800 ≤ n ∧ n ≤ 0xDFFF then some (.half n) else some (.char (Char.ofNat n))

/-- What a one-letter escape stands for. -/
def shortEscape? : Char → Option Char
  | '"' => some '"'
  | '\\' => some '\\'
  | '/' => some '/'
  | 'b' => some '\x08'
  | 'f' => some '\x0c'
  | 'n' => some '\n'
  | 'r' => some '\r'
  | 't' => some '\t'
  | _ => none

/-- The pieces up to the closing quote mark, and what follows it. -/
def pieces : List Char → Option (List Piece × List Char)
  | '"' :: cs => some ([], cs)
  | '\\' :: 'u' :: a :: b :: c :: d :: cs =>
    match hexPiece? a b c d with
    | none => none
    | some p => (pieces cs).map fun (ps, rest) => (p :: ps, rest)
  | '\\' :: e :: cs =>
    match shortEscape? e with
    | none => none
    | some c => (pieces cs).map fun (ps, rest) => (.char c :: ps, rest)
  | c :: cs =>
    if c.toNat < 32 ∨ c = '\\' then none
    else (pieces cs).map fun (ps, rest) => (.char c :: ps, rest)
  | [] => none

/-- The characters that pieces name, with surrogate halves joined in pairs. -/
def joined : List Piece → Option (List Char)
  | [] => some []
  | .char c :: ps => (joined ps).map (c :: ·)
  | .half high :: .half low :: ps =>
    if high < 0xDC00 ∧ 0xDC00 ≤ low then
      (joined ps).map (Char.ofNat (0x10000 + (high - 0xD800) * 1024 + (low - 0xDC00)) :: ·)
    else none
  | .half _ :: _ => none

/-- The string after an opening quote mark. -/
def stringBody (cs : List Char) : Option (Option String × List Char) :=
  (pieces cs).map fun (ps, rest) => ((joined ps).map String.ofList, rest)

/-- The leading decimal digits, and what follows them. -/
def digitRun (cs : List Char) : List Char × List Char :=
  (cs.takeWhile Char.isDigit, cs.dropWhile Char.isDigit)

/-- The whole part: a single zero, or digits that do not start with one. -/
def wholePart : List Char → Option (List Char × List Char)
  | '0' :: cs => some (['0'], cs)
  | cs =>
    let (ds, rest) := digitRun cs
    if ds = [] then none else some (ds, rest)

/-- The fraction, if a point announces one. -/
def fractionPart : List Char → Option (Option (List Char) × List Char)
  | '.' :: cs =>
    let (ds, rest) := digitRun cs
    if ds = [] then none else some (some ds, rest)
  | cs => some (none, cs)

/-- The exponent, if a letter announces one. -/
def exponentPart : List Char → Option (Option (Bool × List Char) × List Char)
  | [] => some (none, [])
  | e :: cs =>
    if e = 'e' ∨ e = 'E' then
      let (negative, cs) := match cs with
        | '-' :: cs => (true, cs)
        | '+' :: cs => (false, cs)
        | cs => (false, cs)
      let (ds, rest) := digitRun cs
      if ds = [] then none else some (some (negative, ds), rest)
    else some (none, e :: cs)

/-- A number and what follows it. -/
def numberLiteral (cs : List Char) : Option (NumberLiteral × List Char) := do
  let (negative, cs) := match cs with
    | '-' :: cs => (true, cs)
    | cs => (false, cs)
  let (whole, cs) ← wholePart cs
  let (fraction, cs) ← fractionPart cs
  let (exponent, cs) ← exponentPart cs
  return (⟨negative, whole, fraction, exponent⟩, cs)

mutual

/-- One value and what follows it.  `depth` is the number of levels that may still be opened. -/
def value : Nat → Nat → List Char → Option (Document × List Char)
  | 0, _, _ => none
  | fuel + 1, depth, cs =>
    match skipSpace cs with
    | 'n' :: 'u' :: 'l' :: 'l' :: rest => some (.null, rest)
    | 't' :: 'r' :: 'u' :: 'e' :: rest => some (.bool true, rest)
    | 'f' :: 'a' :: 'l' :: 's' :: 'e' :: rest => some (.bool false, rest)
    | '"' :: rest => (stringBody rest).map fun (s, rest) => (.string s, rest)
    | '[' :: rest =>
      match depth with
      | 0 => none
      | depth + 1 =>
        match skipSpace rest with
        | ']' :: rest => some (.array [], rest)
        | rest => (items fuel depth rest).map fun (vs, rest) => (.array vs, rest)
    | '\x7b' :: rest =>
      match depth with
      | 0 => none
      | depth + 1 =>
        match skipSpace rest with
        | '\x7d' :: rest => some (.object [], rest)
        | rest => (members fuel depth rest).map fun (ms, rest) => (.object ms, rest)
    | rest => (numberLiteral rest).map fun (n, rest) => (.number n, rest)

/-- The items of an array up to its closing bracket. -/
def items : Nat → Nat → List Char → Option (List Document × List Char)
  | 0, _, _ => none
  | fuel + 1, depth, cs =>
    match value fuel depth cs with
    | none => none
    | some (v, rest) =>
      match skipSpace rest with
      | ']' :: rest => some ([v], rest)
      | ',' :: rest => (items fuel depth rest).map fun (vs, rest) => (v :: vs, rest)
      | _ => none

/-- The members of an object up to its closing brace. -/
def members : Nat → Nat → List Char → Option (List (Option String × Document) × List Char)
  | 0, _, _ => none
  | fuel + 1, depth, cs =>
    match skipSpace cs with
    | '"' :: rest =>
      match stringBody rest with
      | none => none
      | some (k, rest) =>
        match skipSpace rest with
        | ':' :: rest =>
          match value fuel depth rest with
          | none => none
          | some (v, rest) =>
            match skipSpace rest with
            | '\x7d' :: rest => some ([(k, v)], rest)
            | ',' :: rest => (members fuel depth rest).map fun (ms, rest) => ((k, v) :: ms, rest)
            | _ => none
        | _ => none
    | _ => none

end

/-- A document at the start of a text, and what follows it.  Every call reads a character or opens a
level that holds one, so twice the length bounds the calls. -/
def readSome (depth : Nat) (text : String) : Option (Document × List Char) :=
  let cs := text.toList
  value (2 * cs.length + 2) depth cs

/-- The document that a whole text is. -/
def read? (depth : Nat) (text : String) : Option Document :=
  match readSome depth text with
  | some (d, rest) => if skipSpace rest = [] then some d else none
  | none => none

end Document

end RecordStore

import RecordStore.Text.CaseTable

/-!
Upper and lower case of whole texts.  Each character is replaced by its full image, which can be
several characters long; a capital sigma at the end of a word has a lower case of its own.
-/
namespace RecordStore.Text

/-- The single-character image that a table gives. -/
def shifted? (rows : List (Nat × Nat × Nat × Int)) (n : Nat) : Option Nat :=
  (rows.find? fun r => r.1 ≤ n && n ≤ r.2.1 && (n - r.1) % r.2.2.1 == 0).map fun r =>
    ((n : Int) + r.2.2.2).toNat

/-- The image of a character above the first 128 code points. -/
def caseImage (rows : List (Nat × Nat × Nat × Int)) (expansions : List (Nat × List Nat))
    (c : Char) : List Char :=
  match expansions.lookup c.toNat with
  | some ns => ns.map Char.ofNat
  | none =>
    match shifted? rows c.toNat with
    | some n => [Char.ofNat n]
    | none => [c]

/-- The upper case of one character. -/
def upperChar (c : Char) : List Char :=
  if c.toNat < 128 then [c.toUpper] else caseImage upperRows upperExpansions c

/-- The lower case of one character, wherever it stands. -/
def lowerChar (c : Char) : List Char :=
  if c.toNat < 128 then [c.toLower] else caseImage lowerRows lowerExpansions c

/-- Whether a character has case. -/
def isCased (c : Char) : Bool :=
  casedRanges.any fun r => r.1 ≤ c.toNat && c.toNat ≤ r.2

/-- Whether a test for the end of a word looks past a character. -/
def isCaseIgnorable (c : Char) : Bool :=
  caseIgnorableRanges.any fun r => r.1 ≤ c.toNat && c.toNat ≤ r.2

/-- Whether the first character that counts has case. -/
def startsCased (cs : List Char) : Bool :=
  match cs.dropWhile isCaseIgnorable with
  | [] => false
  | c :: _ => isCased c

/-- Lower case of the text that follows `before`, which is kept in reverse. -/
def lowerFrom (before : List Char) : List Char → List Char
  | [] => []
  | c :: cs =>
    let image :=
      if c = 'Σ' then
        if startsCased before && !startsCased cs then ['ς'] else ['σ']
      else lowerChar c
    image ++ lowerFrom (c :: before) cs

/-- The text in upper case. -/
def upper (s : String) : String :=
  String.ofList (s.toList.flatMap upperChar)

/-- The text in lower case. -/
def lower (s : String) : String :=
  String.ofList (lowerFrom [] s.toList)

/-- The text with the letters `A` to `Z` in lower case, as names are compared. -/
def foldAscii (s : String) : String :=
  String.ofList (s.toList.map Char.toLower)

end RecordStore.Text

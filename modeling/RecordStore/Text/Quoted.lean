/-!
Names between quote marks.  Inside, a quote mark is written twice.  `unquoteBody` reads such a text
back and refuses a quote mark that stands alone; `unquoteBody_quoteBody` says that nothing is lost.
-/
namespace RecordStore.Text

/-- The text with every quote mark doubled. -/
def quoteBody (q : Char) : List Char → List Char
  | [] => []
  | c :: cs => if c = q then q :: q :: quoteBody q cs else c :: quoteBody q cs

/-- The text that a doubled one stands for, unless a quote mark in it is alone. -/
def unquoteBody (q : Char) : List Char → Option (List Char)
  | [] => some []
  | [c] => if c = q then none else some [c]
  | c :: d :: cs =>
    if c = q then
      if d = q then (unquoteBody q cs).map (q :: ·) else none
    else (unquoteBody q (d :: cs)).map (c :: ·)

/-- The text between two quote marks, its own quote marks doubled. -/
def quoted (q : Char) (s : String) : String :=
  String.ofList (q :: quoteBody q s.toList ++ [q])

/-- The text between two quote marks, as it is. -/
def enclosed (q : Char) (s : String) : String :=
  String.ofList (q :: s.toList ++ [q])

theorem unquoteBody_cons_of_ne {q c : Char} (h : c ≠ q) (cs : List Char) :
    unquoteBody q (c :: cs) = (unquoteBody q cs).map (c :: ·) := by
  cases cs with
  | nil => simp [unquoteBody, h]
  | cons d cs => rw [unquoteBody, if_neg h]

theorem unquoteBody_quoteBody (q : Char) (cs : List Char) :
    unquoteBody q (quoteBody q cs) = some cs := by
  induction cs with
  | nil => rfl
  | cons c cs ih =>
    by_cases h : c = q
    · simp [quoteBody, unquoteBody, h, ih]
    · rw [quoteBody, if_neg h, unquoteBody_cons_of_ne h, ih]; rfl

/-- A text without the quote mark reads as itself. -/
theorem unquoteBody_eq_self {q : Char} {cs : List Char} (h : q ∉ cs) :
    unquoteBody q cs = some cs := by
  induction cs with
  | nil => rfl
  | cons c cs ih =>
    simp only [List.mem_cons, not_or] at h
    rw [unquoteBody_cons_of_ne (Ne.symm h.1), ih h.2]; rfl

end RecordStore.Text

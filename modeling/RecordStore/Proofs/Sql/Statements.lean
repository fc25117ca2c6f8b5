import Mathlib
import RecordStore.Proofs.Index.Ready
import RecordStore.Proofs.Query.Answer
import RecordStore.Proofs.Sql.Reading

/-!
What a reader makes of the statements of the store.  Whatever the names of attributes, indexes and
tables are, a statement has the same tokens in all dialects, its names are those it is meant to have,
and nothing else in its text depends on them or on the values that are bound to it.
-/
namespace RecordStore
open Sql Index

namespace Sql

/-! ### What fragments write -/

/-- Fragments write names and values; `blank` has the same words and place holders. -/
structure Writes (fs blank : List Fragment) (names : List String) (values : List Value) : Prop where
  legible : Legible fs
  names : fs.filterMap Fragment.name? = names
  values : boundValues fs = values
  outline : fs.filterMap Fragment.outline? = blank.filterMap Fragment.outline?

/-- One group of fragments can be told from the next one. -/
def ApartFrom (fs gs : List Fragment) : Prop :=
  (∀ f ∈ fs.getLast?, f.closes = true) ∨ ∀ g ∈ gs.head?, g.opens = true

theorem apartFrom_of_closes {f : Fragment} (h : f.closes = true) (fs gs : List Fragment) :
    ApartFrom (fs ++ [f]) gs := by
  refine .inl fun x hx => ?_
  rw [List.getLast?_concat] at hx
  exact Option.some.inj hx ▸ h

theorem apartFrom_of_opens {g : Fragment} (h : g.opens = true) (fs gs : List Fragment) :
    ApartFrom fs (g :: gs) :=
  .inr fun _ hx => Option.some.inj hx ▸ h

theorem filterMap_separated {β : Type} {f : Fragment → Option β} {sep : String}
    (hsep : f (.verbatim sep) = none) (groups : List (List Fragment)) :
    (separated sep groups).filterMap f = groups.flatMap (List.filterMap f) := by
  induction groups with
  | nil => rfl
  | cons fs groups ih =>
    cases groups with
    | nil => simp [separated]
    | cons gs groups =>
      rw [List.flatMap_cons, ← ih]
      simp [separated, hsep]

theorem outline_separated (sep : String) (groups : List (List Fragment)) :
    (separated sep groups).filterMap Fragment.outline? =
      separated sep (groups.map (List.filterMap Fragment.outline?)) := by
  induction groups with
  | nil => rfl
  | cons fs groups ih =>
    cases groups with
    | nil => simp [separated]
    | cons gs groups =>
      simp only [separated, List.map_cons, List.intersperse_cons_cons, List.flatten_cons,
        List.filterMap_append] at ih ⊢
      rw [ih]
      rfl

theorem boundValues_separated (sep : String) (groups : List (List Fragment)) :
    boundValues (separated sep groups) = groups.flatMap boundValues :=
  filterMap_separated rfl groups

namespace Writes

variable {fs blank gs blank' : List Fragment} {ns ns' : List String} {vs vs' : List Value}

theorem nil : Writes [] [] [] [] := ⟨.nil, rfl, rfl, rfl⟩

theorem word {t : String} (h : (Fragment.verbatim t).plain = true) :
    Writes [.verbatim t] [.verbatim t] [] [] :=
  ⟨Legible.nil.cons h nofun, rfl, rfl, rfl⟩

theorem name (n m : String) : Writes [.name n] [.name m] [n] [] :=
  ⟨Legible.nil.cons rfl nofun, rfl, rfl, rfl⟩

theorem value (v w : Value) : Writes [.value v] [.value w] [] [v] :=
  ⟨Legible.nil.cons rfl nofun, rfl, rfl, rfl⟩

theorem append (h : Writes fs blank ns vs) (h' : Writes gs blank' ns' vs')
    (hapart : ApartFrom fs gs) : Writes (fs ++ gs) (blank ++ blank') (ns ++ ns') (vs ++ vs') where
  legible := h.legible.append h'.legible fun f hf g hg =>
    hapart.imp (fun hcloses => hcloses f hf) fun hopens => hopens g hg
  names := by rw [List.filterMap_append, h.names, h'.names]
  values := by rw [boundValues_append, h.values, h'.values]
  outline := by rw [List.filterMap_append, List.filterMap_append, h.outline, h'.outline]

theorem separated {α : Type} (sep : String) (xs : List α) {f b : α → List Fragment}
    {ns : α → List String} {vs : α → List Value} (hplain : (Fragment.verbatim sep).plain = true)
    (hopens : (Fragment.verbatim sep).opens = true) (hcloses : (Fragment.verbatim sep).closes = true)
    (h : ∀ x ∈ xs, Writes (f x) (b x) (ns x) (vs x)) :
    Writes (separated sep (xs.map f)) (separated sep (xs.map b)) (xs.flatMap ns)
      (xs.flatMap vs) where
  legible := .separated hplain hopens hcloses fun fs hfs => by
    obtain ⟨x, hx, rfl⟩ := List.mem_map.1 hfs
    exact (h x hx).legible
  names := by
    rw [filterMap_separated rfl, List.flatMap_map]
    exact List.flatMap_congr fun x hx => (h x hx).names
  values := by
    rw [boundValues_separated, List.flatMap_map]
    exact List.flatMap_congr fun x hx => (h x hx).values
  outline := by
    rw [outline_separated, outline_separated, List.map_map, List.map_map]
    exact congrArg _ (List.map_congr_left fun x hx => (h x hx).outline)

/-- A list of names or of values with commas between them. -/
theorem names_list (ns : List String) :
    Writes (Sql.separated ", " (ns.map fun n => [.name n]))
      (Sql.separated ", " (ns.map fun _ => [.name ""])) ns [] := by
  have h := separated ", " ns (by decide) (by decide) (by decide)
    fun n _ => name n ""
  have hnone : ns.flatMap (fun _ => ([] : List Value)) = [] :=
    List.flatMap_eq_nil_iff.2 fun _ _ => rfl
  rwa [List.flatMap_singleton', hnone] at h

theorem values_list (vs : List Value) :
    Writes (Sql.separated ", " (vs.map fun v => [.value v]))
      (Sql.separated ", " (vs.map fun _ => [.value (.text none)])) [] vs := by
  have h := separated ", " vs (by decide) (by decide) (by decide)
    fun v _ => value v (.text none)
  have hnone : vs.flatMap (fun _ => ([] : List String)) = [] :=
    List.flatMap_eq_nil_iff.2 fun _ _ => rfl
  rwa [List.flatMap_singleton', hnone] at h

end Writes

/-! ### Statements -/

namespace Condition

def values : Condition → List Value
  | compare _ _ v => [v]
  | within _ vs => vs
  | isNull _ | isNotNull _ => []

/-- A condition of the same shape without its name and values. -/
def blank : Condition → Condition
  | compare _ op _ => compare "" op (.text none)
  | within _ vs => within "" (vs.map fun _ => .text none)
  | isNull _ => isNull ""
  | isNotNull _ => isNotNull ""

theorem writes (c : Condition) :
    Writes c.fragments c.blank.fragments [c.column] c.values := by
  cases c with
  | compare c op v =>
    have hsign : (Fragment.verbatim (" " ++ op.sign ++ " ")).plain = true ∧
        (Fragment.verbatim (" " ++ op.sign ++ " ")).opens = true ∧
        (Fragment.verbatim (" " ++ op.sign ++ " ")).closes = true := by
      cases op <;> decide
    have hvalue := (Writes.word hsign.1).append (.value v (.text none))
      (apartFrom_of_closes hsign.2.2 [] _)
    exact (Writes.name c "").append hvalue (apartFrom_of_opens hsign.2.1 _ _)
  | within c vs =>
    have hopen := (Writes.name c "").append (.word (t := " IN (") (by decide))
      (apartFrom_of_opens (by decide) _ _)
    have hlist := hopen.append (.values_list vs) (apartFrom_of_closes (by decide) _ _)
    have hwhole := hlist.append (.word (t := ")") (by decide)) (apartFrom_of_opens (by decide) _ _)
    simpa [fragments, blank, values, column, Function.comp_def] using hwhole
  | isNull c =>
    exact (Writes.name c "").append (.word (t := " IS NULL") (by decide))
      (apartFrom_of_opens (by decide) _ _)
  | isNotNull c =>
    exact (Writes.name c "").append (.word (t := " IS NOT NULL") (by decide))
      (apartFrom_of_opens (by decide) _ _)

end Condition

/-- A part of a statement that is left out when there is nothing in it. -/
def clause (word sep : String) : List (List Fragment) → List Fragment
  | [] => []
  | groups => .verbatim word :: separated sep groups

theorem Select.fragments_eq (s : Select) : s.fragments =
    [.verbatim "SELECT ", .name s.column, .verbatim " FROM ", .name s.table] ++
      clause " WHERE " " AND " (s.conditions.map Condition.fragments) ++
      clause " ORDER BY " ", " (s.order.map SortKey.fragments) ++
      optionalFragments " LIMIT " s.limit ++ optionalFragments " OFFSET " s.offset := by
  obtain ⟨column, table, conditions, order, limit, offset⟩ := s
  cases conditions <;> cases order <;> rfl

theorem writes_clause {α : Type} (word sep : String)
    (hplain : (Fragment.verbatim word).plain = true)
    (hcloses : (Fragment.verbatim word).closes = true)
    (hsep : (Fragment.verbatim sep).plain = true ∧ (Fragment.verbatim sep).opens = true ∧
      (Fragment.verbatim sep).closes = true)
    {f : α → List Fragment} {b : α → α} {ns : α → List String} {vs : α → List Value}
    (h : ∀ x, Writes (f x) (f (b x)) (ns x) (vs x)) (xs : List α) :
    Writes (clause word sep (xs.map f)) (clause word sep ((xs.map b).map f)) (xs.flatMap ns)
      (xs.flatMap vs) := by
  rw [List.map_map]
  cases xs with
  | nil => exact .nil
  | cons x xs =>
    have hlist := Writes.separated sep (x :: xs) (b := f ∘ b) hsep.1 hsep.2.1 hsep.2.2
      fun x _ => h x
    exact (Writes.word hplain).append hlist (apartFrom_of_closes hcloses [] _)

theorem apartFrom_clause {word sep : String} (hopens : (Fragment.verbatim word).opens = true)
    (fs : List Fragment) (groups : List (List Fragment)) :
    ApartFrom fs (clause word sep groups) := by
  cases groups with
  | nil => exact .inr nofun
  | cons _ _ => exact apartFrom_of_opens hopens _ _

/-- The value of a limit or an offset. -/
def countValues (n : Option UInt64) : List Value :=
  n.toList.map fun k => .bigUnsigned (some k)

theorem writes_optional (word : String) (hplain : (Fragment.verbatim word).plain = true)
    (hcloses : (Fragment.verbatim word).closes = true) (n : Option UInt64) :
    Writes (optionalFragments word n) (optionalFragments word (n.map fun _ => 0)) []
      (countValues n) := by
  cases n with
  | none => exact .nil
  | some k => exact (Writes.word hplain).append (.value _ _) (apartFrom_of_closes hcloses [] _)

theorem apartFrom_optional {word : String} (hopens : (Fragment.verbatim word).opens = true)
    (fs : List Fragment) (n : Option UInt64) : ApartFrom fs (optionalFragments word n) := by
  cases n with
  | none => exact .inr nofun
  | some k => exact apartFrom_of_opens hopens _ _

theorem SortKey.writes (k : SortKey) :
    Writes k.fragments (SortKey.mk "" k.direction).fragments [k.column] [] := by
  have hword : (Fragment.verbatim (directionWord k.direction)).plain = true ∧
      (Fragment.verbatim (directionWord k.direction)).opens = true := by
    cases k.direction <;> decide
  exact (Writes.name k.column "").append (.word hword.1) (apartFrom_of_opens hword.2 _ _)

namespace Select

def names (s : Select) : List String :=
  s.column :: s.table :: (s.conditions.map (·.column) ++ s.order.map (·.column))

def values (s : Select) : List Value :=
  s.conditions.flatMap (·.values) ++ countValues s.limit ++ countValues s.offset

def blank (s : Select) : Select :=
  ⟨"", "", s.conditions.map (·.blank), s.order.map fun k => ⟨"", k.direction⟩,
    s.limit.map fun _ => 0, s.offset.map fun _ => 0⟩

theorem writes (s : Select) : Writes s.fragments s.blank.fragments s.names s.values := by
  have hcolumn := (Writes.word (t := "SELECT ") (by decide)).append (.name s.column "")
    (apartFrom_of_closes (by decide) [] _)
  have hfrom := hcolumn.append (.word (t := " FROM ") (by decide))
    (apartFrom_of_opens (by decide) _ _)
  have htable := hfrom.append (.name s.table "") (apartFrom_of_closes (by decide) _ _)
  have hwhere := htable.append (writes_clause " WHERE " " AND " (by decide)
    (by decide) (by decide) Condition.writes s.conditions) (apartFrom_clause (by decide) _ _)
  have horder := hwhere.append (writes_clause " ORDER BY " ", " (by decide)
    (by decide) (by decide) SortKey.writes s.order) (apartFrom_clause (by decide) _ _)
  have hlimit := horder.append (writes_optional " LIMIT " (by decide) (by decide) s.limit)
    (apartFrom_optional (by decide) _ _)
  have hoffset := hlimit.append
    (writes_optional " OFFSET " (by decide) (by decide) s.offset)
    (apartFrom_optional (by decide) _ _)
  have hkeys : s.order.flatMap (fun _ => ([] : List Value)) = [] :=
    List.flatMap_eq_nil_iff.2 fun _ _ => rfl
  rw [hkeys, ← List.map_eq_flatMap, ← List.map_eq_flatMap] at hoffset
  rw [s.fragments_eq, s.blank.fragments_eq]
  simp only [names, values, List.nil_append, List.append_nil, List.cons_append,
    List.append_assoc] at hoffset ⊢
  exact hoffset

end Select

namespace Insert

def names (s : Insert) : List String := s.table :: s.columns

def blank (s : Insert) : Insert :=
  ⟨"", s.columns.map fun _ => "", s.values.map fun _ => .text none⟩

theorem writes (s : Insert) : Writes s.fragments s.blank.fragments s.names s.values := by
  have htable := (Writes.word (t := "INSERT INTO ") (by decide)).append (.name s.table "")
    (apartFrom_of_closes (by decide) [] _)
  have hopen := htable.append (.word (t := " (") (by decide)) (apartFrom_of_opens (by decide) _ _)
  have hcolumns := hopen.append (.names_list s.columns) (apartFrom_of_closes (by decide) _ _)
  have hbetween := hcolumns.append (.word (t := ") VALUES (") (by decide))
    (apartFrom_of_opens (by decide) _ _)
  have hvalues := hbetween.append (.values_list s.values) (apartFrom_of_closes (by decide) _ _)
  have hwhole := hvalues.append (.word (t := ")") (by decide)) (apartFrom_of_opens (by decide) _ _)
  simp only [List.nil_append, List.append_nil, List.cons_append, List.append_assoc] at hwhole
  simpa only [fragments, blank, names, List.map_map, Function.comp_def, List.nil_append,
    List.cons_append, List.append_assoc] using hwhole

end Insert

namespace Update

def names (s : Update) : List String := s.table :: (s.assignments.map (·.1) ++ [s.condition.column])

def values (s : Update) : List Value := s.assignments.map (·.2) ++ s.condition.values

def blank (s : Update) : Update :=
  ⟨"", s.assignments.map fun _ => ("", .text none), s.condition.blank⟩

theorem writes (s : Update) : Writes s.fragments s.blank.fragments s.names s.values := by
  have hassign (a : String × Value) :
      Writes [.name a.1, .verbatim " = ", .value a.2]
        [.name "", .verbatim " = ", .value (.text none)] [a.1] [a.2] :=
    ((Writes.name a.1 "").append (.word (t := " = ") (by decide))
      (apartFrom_of_opens (by decide) _ _)).append (.value a.2 _)
      (apartFrom_of_closes (by decide) [.name a.1] _)
  have htable := (Writes.word (t := "UPDATE ") (by decide)).append (.name s.table "")
    (apartFrom_of_closes (by decide) [] _)
  have hset := htable.append (.word (t := " SET ") (by decide)) (apartFrom_of_opens (by decide) _ _)
  have hlist := hset.append (.separated ", " s.assignments (by decide) (by decide)
    (by decide) fun a _ => hassign a) (apartFrom_of_closes (by decide) _ _)
  have hwhere := hlist.append (.word (t := " WHERE ") (by decide))
    (apartFrom_of_opens (by decide) _ _)
  have hwhole := hwhere.append s.condition.writes (apartFrom_of_closes (by decide) _ _)
  rw [← List.map_eq_flatMap, ← List.map_eq_flatMap] at hwhole
  simp only [List.nil_append, List.append_nil, List.cons_append, List.append_assoc] at hwhole
  simpa only [fragments, blank, names, values, List.map_map, Function.comp_def, List.nil_append,
    List.cons_append, List.append_assoc] using hwhole

end Update

namespace Delete

def names (s : Delete) : List String := [s.table, s.condition.column]

def blank (s : Delete) : Delete := ⟨"", s.condition.blank⟩

theorem writes (s : Delete) :
    Writes s.fragments s.blank.fragments s.names s.condition.values := by
  have htable := (Writes.word (t := "DELETE FROM ") (by decide)).append (.name s.table "")
    (apartFrom_of_closes (by decide) [] _)
  have hwhere := htable.append (.word (t := " WHERE ") (by decide))
    (apartFrom_of_opens (by decide) _ _)
  exact hwhere.append s.condition.writes (apartFrom_of_closes (by decide) _ _)

end Delete

/-- A statement on rows. -/
inductive Statement
  | select (s : Select)
  | insert (s : Insert)
  | update (s : Update)
  | delete (s : Delete)
deriving DecidableEq, Repr

namespace Statement

def fragments : Statement → List Fragment
  | select s => s.fragments
  | insert s => s.fragments
  | update s => s.fragments
  | delete s => s.fragments

/-- What a statement is sent to a database as: its text, and the values for its place holders. -/
def prepared (d : Dialect) (s : Statement) : String × List Value :=
  (render d s.fragments, boundValues s.fragments)

/-- The tables and columns that a statement is about, in the order in which it names them. -/
def names : Statement → List String
  | select s => s.names
  | insert s => s.names
  | update s => s.names
  | delete s => s.names

/-- The values that a statement is given, in order. -/
def values : Statement → List Value
  | select s => s.values
  | insert s => s.values
  | update s => s.values
  | delete s => s.condition.values

/-- A statement of the same shape without its names and values. -/
def blank : Statement → Statement
  | select s => select s.blank
  | insert s => insert s.blank
  | update s => update s.blank
  | delete s => delete s.blank

theorem writes (s : Statement) : Writes s.fragments s.blank.fragments s.names s.values := by
  cases s with
  | select s => exact s.writes
  | insert s => exact s.writes
  | update s => exact s.writes
  | delete s => exact s.writes

/-- All dialects read one list of tokens in a statement, and its values are the same in all. -/
theorem reads (s : Statement) : ∃ tokens,
    (∀ d, read? d (s.prepared d).1 = some tokens) ∧ tokens.filterMap Token.name? = s.names ∧
      tokens.filterMap Token.number? = List.range' 1 s.values.length ∧
      (∀ d, outside d (s.prepared d).1 = outside d (s.blank.prepared d).1) ∧
      ∀ d, (s.prepared d).2 = s.values := by
  have hwrites := s.writes
  obtain ⟨tokens, hread, hnames, hnumbers⟩ := exists_tokens hwrites.legible
  refine ⟨tokens, hread, hnames.trans hwrites.names, by rw [hnumbers, hwrites.values],
    fun d => ?_, fun _ => hwrites.values⟩
  show outside d (render d s.fragments) = outside d (render d s.blank.fragments)
  rw [outside_render hwrites.legible.plain, outside_render s.blank.writes.legible.plain,
    hwrites.outline]

end Statement

end Sql

end RecordStore

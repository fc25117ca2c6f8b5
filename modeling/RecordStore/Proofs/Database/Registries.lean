import Mathlib
import RecordStore.Proofs.Database.TypeRegistry

/-!
The registry in memory and the one in the database answer alike.  What both hold after some calls can be
told from the calls: the types in the order in which they were registered, and how many record numbers
of each were taken.
-/
namespace RecordStore

/-- A call to a registry. -/
inductive RegistryCall where
  | typeId (name : String) (create : Bool)
  | nextId (name : String)
deriving DecidableEq, Repr

/-- What a registry answers: the number of a type, if it has one, or the number of a new record. -/
inductive RegistryAnswer where
  | type (n : Option UInt32)
  | record (id : UInt64)
deriving DecidableEq, Repr

/-! ### What calls do -/

namespace RegistryCall

/-- The type that a call registers, unless it is registered already. -/
def registers? : RegistryCall → Option String
  | .typeId name true => some name
  | _ => none

/-- The types that are registered by calls, in the order in which they are. -/
def typesOf (calls : List RegistryCall) : List String :=
  (calls.filterMap registers?).eraseDups

/-- How many record numbers of a type are taken, all of them after it is registered. -/
def taken (name : String) (calls : List RegistryCall) : Nat :=
  (calls.dropWhile (· != .typeId name true)).count (.nextId name)

variable {calls : List RegistryCall} {name : String}

theorem mem_typesOf : name ∈ typesOf calls ↔ .typeId name true ∈ calls := by
  rw [typesOf, List.mem_eraseDups, List.mem_filterMap]
  constructor
  · rintro ⟨call, hcall, hname⟩
    match call, hname with
    | .typeId _ true, rfl => exact hcall
  · exact fun h => ⟨_, h, rfl⟩

theorem typesOf_append (calls more : List RegistryCall) :
    ∃ new, typesOf (calls ++ more) = typesOf calls ++ new := by
  rw [typesOf, List.filterMap_append, List.eraseDups_append]
  exact ⟨_, rfl⟩

theorem typesOf_snoc_of_none {call : RegistryCall} (h : registers? call = none)
    (calls : List RegistryCall) : typesOf (calls ++ [call]) = typesOf calls := by
  rw [typesOf, List.filterMap_append, List.filterMap_cons_none h, List.filterMap_nil, List.append_nil]
  rfl

theorem typesOf_snoc_of_mem (h : name ∈ typesOf calls) (create : Bool) :
    typesOf (calls ++ [.typeId name create]) = typesOf calls := by
  cases create with
  | false => exact typesOf_snoc_of_none rfl calls
  | true =>
    have hmem : name ∈ calls.filterMap registers? := List.mem_eraseDups.1 h
    have hnew : [name].removeAll (calls.filterMap registers?) = [] :=
      List.filter_eq_nil_iff.2 fun x hx => by
        rw [List.mem_singleton.1 hx, List.elem_eq_true_of_mem hmem]
        decide
    have hone : [RegistryCall.typeId name true].filterMap registers? = [name] := rfl
    rw [typesOf, List.filterMap_append, hone, List.eraseDups_append, hnew]
    exact List.append_nil _

theorem typesOf_snoc_of_not_mem (h : name ∉ typesOf calls) :
    typesOf (calls ++ [.typeId name true]) = typesOf calls ++ [name] := by
  have hmem : name ∉ calls.filterMap registers? := fun hm => h (List.mem_eraseDups.2 hm)
  have hnew : [name].removeAll (calls.filterMap registers?) = [name] :=
    List.filter_eq_self.2 fun x hx => by
      rw [List.mem_singleton.1 hx, List.elem_eq_mem, decide_eq_false hmem]
      rfl
  have hone : [RegistryCall.typeId name true].filterMap registers? = [name] := rfl
  rw [typesOf, List.filterMap_append, hone, List.eraseDups_append, hnew]
  rfl

theorem dropWhile_eq_nil (h : name ∉ typesOf calls) :
    calls.dropWhile (· != .typeId name true) = [] := by
  rw [List.dropWhile_eq_nil_iff]
  intro call hcall
  simp only [bne_iff_ne]
  rintro rfl
  exact h (mem_typesOf.2 hcall)

theorem dropWhile_ne_nil (h : name ∈ typesOf calls) :
    calls.dropWhile (· != .typeId name true) ≠ [] := by
  intro hnil
  have hall := List.dropWhile_eq_nil_iff.1 hnil _ (mem_typesOf.1 h)
  simp at hall

theorem taken_of_not_mem (h : name ∉ typesOf calls) : taken name calls = 0 := by
  rw [taken, dropWhile_eq_nil h]
  rfl

/-- What is taken when one more call comes. -/
theorem taken_snoc (calls : List RegistryCall) (name : String) (call : RegistryCall) :
    taken name (calls ++ [call]) =
      taken name calls + if name ∈ typesOf calls ∧ call = .nextId name then 1 else 0 := by
  rw [taken, List.dropWhile_append]
  by_cases h : name ∈ typesOf calls
  · have hne : (calls.dropWhile (· != .typeId name true)).isEmpty = false := by
      simpa using dropWhile_ne_nil h
    rw [hne]
    simp [taken, h, List.count_singleton]
  · rw [taken_of_not_mem h, dropWhile_eq_nil h]
    simp only [h, false_and, if_false, List.isEmpty_nil, if_true]
    -- the call is either another one or the one that registers the type
    rw [List.dropWhile_cons]
    split <;> simp_all

theorem taken_le_append (name : String) (calls more : List RegistryCall) :
    taken name calls ≤ taken name (calls ++ more) := by
  induction more generalizing calls with
  | nil => rw [List.append_nil]
  | cons call more ih =>
    have hstep : taken name calls ≤ taken name (calls ++ [call]) := by
      rw [taken_snoc]
      omega
    rw [List.append_cons]
    exact hstep.trans (ih (calls ++ [call]))

theorem taken_le_length (name : String) (calls : List RegistryCall) :
    taken name calls ≤ calls.length :=
  List.count_le_length.trans (List.dropWhile_suffix _).length_le

end RegistryCall

open RegistryCall

/-! ### Calls to a registry -/

section
variable {σ : Type} (serve : σ → RegistryCall → Except Error RegistryAnswer × σ)

/-- The answers to calls, and the registry afterwards. -/
def serveAll (reg : σ) : List RegistryCall → List (Except Error RegistryAnswer) × σ
  | [] => ([], reg)
  | call :: calls =>
    let (answer, reg) := serve reg call
    let (answers, reg) := serveAll reg calls
    (answer :: answers, reg)

variable {serve} {reg : σ}

theorem serveAll_snoc (calls : List RegistryCall) (call : RegistryCall) :
    serveAll serve reg (calls ++ [call]) =
      ((serveAll serve reg calls).1 ++ [(serve (serveAll serve reg calls).2 call).1],
        (serve (serveAll serve reg calls).2 call).2) := by
  induction calls generalizing reg with
  | nil => rfl
  | cons first calls ih =>
    simp only [List.cons_append, serveAll, ih]

theorem length_serveAll (calls : List RegistryCall) :
    (serveAll serve reg calls).1.length = calls.length := by
  induction calls generalizing reg with
  | nil => rfl
  | cons first calls ih => exact congrArg (· + 1) ih

/-- The answer to a call is what the registry says at that point. -/
theorem getElem?_serveAll (before : List RegistryCall) (call : RegistryCall)
    (after : List RegistryCall) :
    (serveAll serve reg (before ++ call :: after)).1[before.length]? =
      some (serve (serveAll serve reg before).2 call).1 := by
  induction before generalizing reg with
  | nil => rfl
  | cons first before ih =>
    rw [List.cons_append, serveAll, List.length_cons, List.getElem?_cons_succ, ih]
    rfl

end

/-- The registry in memory. -/
def MemoryRegistry.serve (reg : MemoryRegistry) :
    RegistryCall → Except Error RegistryAnswer × MemoryRegistry
  | .typeId name create =>
    let (n, reg) := reg.typeId name create
    (.ok (.type n), reg)
  | .nextId name =>
    let (id, reg) := reg.nextId name
    (id.map .record, reg)

/-- The registry in the database, which stays as it was when a call fails. -/
def Database.serve (db : Database) : RegistryCall → Except Error RegistryAnswer × Database
  | .typeId name create =>
    match db.typeId name create with
    | .ok (n, db) => (.ok (.type n), db)
    | .error e => (.error e, db)
  | .nextId name =>
    match db.nextId name with
    | .ok (id, db) => (.ok (.record id), db)
    | .error e => (.error e, db)

/-- What a registry has to say after some calls. -/
def RegistryCall.due (before : List RegistryCall) : RegistryCall → Except Error RegistryAnswer
  | .typeId name create =>
    let names := typesOf (before ++ [.typeId name create])
    .ok (.type (if name ∈ names then some (UInt32.ofNat (names.idxOf name + 1)) else none))
  | .nextId name =>
    if name ∈ typesOf before then .ok (.record (UInt64.ofNat (taken name before + 1)))
    else .error (.unknownType (.unregistered name))

namespace RegistryCall
variable {calls : List RegistryCall} {name : String}

theorem due_typeId_of_mem (h : name ∈ typesOf calls) (create : Bool) :
    due calls (.typeId name create) =
      .ok (.type (some (UInt32.ofNat ((typesOf calls).idxOf name + 1)))) := by
  rw [due, typesOf_snoc_of_mem h]
  simp only [if_pos h]

theorem due_lookup (h : name ∉ typesOf calls) :
    due calls (.typeId name false) = .ok (.type none) := by
  rw [due, typesOf_snoc_of_none rfl]
  simp only [if_neg h]

theorem due_register (h : name ∉ typesOf calls) :
    due calls (.typeId name true) =
      .ok (.type (some (UInt32.ofNat ((typesOf calls).length + 1)))) := by
  have hmem : name ∈ typesOf calls ++ [name] := List.mem_append_right _ List.mem_cons_self
  have hindex : (typesOf calls ++ [name]).idxOf name = (typesOf calls).length := by
    rw [List.idxOf_append_of_notMem h, List.idxOf_cons_self, Nat.add_zero]
  rw [due, typesOf_snoc_of_not_mem h]
  simp only [if_pos hmem, hindex]

end RegistryCall

/-! ### Entries -/

/-- A list that has an entry for each of some names is searched for that of one of them. -/
theorem find?_mapIdx {α : Type} {key : α → String} {f : Nat → String → α}
    (hkey : ∀ i name, key (f i name) = name) (names : List String) (name : String) :
    (names.mapIdx f).find? (fun x => key x == name) =
      if name ∈ names then some (f (names.idxOf name) name) else none := by
  induction names generalizing f with
  | nil => rfl
  | cons first names ih =>
    rw [List.mapIdx_cons, List.find?_cons, hkey]
    by_cases h : first = name
    · simp [h]
    · rw [beq_false_of_ne h, ih fun i => hkey (i + 1)]
      simp [Ne.symm h, List.idxOf_cons_ne _ h]

section
variable {α : Type} (entry : String → Nat → Nat → α)

/-- What a registry holds after some calls.  It has an entry for each type, which tells how many types
are before it and how many of its numbers are taken. -/
def entriesAfter (calls : List RegistryCall) : List α :=
  (typesOf calls).mapIdx fun i name => entry name i (taken name calls)

variable {entry} {calls : List RegistryCall} {name : String}

theorem find?_entriesAfter {key : α → String} (hkey : ∀ name i k, key (entry name i k) = name) :
    (entriesAfter entry calls).find? (fun x => key x == name) =
      if name ∈ typesOf calls then
        some (entry name ((typesOf calls).idxOf name) (taken name calls)) else none :=
  find?_mapIdx (fun i name => hkey name i _) (typesOf calls) name

theorem entriesAfter_snoc_of_same {call : RegistryCall} (htypes : typesOf (calls ++ [call]) = typesOf calls)
    (hcall : ∀ name ∈ typesOf calls, call ≠ .nextId name) :
    entriesAfter entry (calls ++ [call]) = entriesAfter entry calls := by
  rw [entriesAfter, entriesAfter, htypes, List.mapIdx_eq_mapIdx_iff]
  intro i hi
  rw [taken_snoc, if_neg fun h => hcall _ h.1 h.2, Nat.add_zero]

theorem entriesAfter_snoc_register (h : name ∉ typesOf calls) :
    entriesAfter entry (calls ++ [.typeId name true]) =
      entriesAfter entry calls ++ [entry name (typesOf calls).length 0] := by
  have hsame (other : String) :
      taken other (calls ++ [.typeId name true]) = taken other calls := by
    rw [taken_snoc, if_neg (by simp), Nat.add_zero]
  have hnone : taken name (calls ++ [.typeId name true]) = 0 := by
    rw [hsame, taken_of_not_mem h]
  rw [entriesAfter, typesOf_snoc_of_not_mem h, List.mapIdx_append, List.mapIdx_singleton, hnone,
    Nat.zero_add, entriesAfter]
  simp only [hsame]

theorem entriesAfter_snoc_nextId (key : α → String) (next : α → α)
    (hkey : ∀ name i k, key (entry name i k) = name)
    (hnext : ∀ name i k, entry name i (k + 1) = next (entry name i k)) :
    entriesAfter entry (calls ++ [.nextId name]) =
      (entriesAfter entry calls).map fun e => if key e == name then next e else e := by
  refine List.ext_getElem? fun i => ?_
  rw [List.getElem?_map, entriesAfter, entriesAfter, typesOf_snoc_of_none rfl, List.getElem?_mapIdx,
    List.getElem?_mapIdx]
  cases hi : (typesOf calls)[i]? with
  | none => rfl
  | some other =>
    have hmem : other ∈ typesOf calls := List.mem_of_getElem? hi
    simp only [Option.map_some, hkey, taken_snoc, hmem, true_and, RegistryCall.nextId.injEq]
    by_cases h : name = other
    · rw [if_pos h, hnext, if_pos (by simp [h])]
    · rw [if_neg h, if_neg (by simpa using Ne.symm h), Nat.add_zero]

end

/-! ### The registry in memory -/

/-- The entry of a type in memory. -/
def memoryEntry (name : String) (i k : Nat) : String × UInt32 × UInt64 :=
  (name, UInt32.ofNat (i + 1), UInt64.ofNat (k + 1))

theorem lookup_eq_find? (reg : MemoryRegistry) (name : String) :
    reg.lookup name = (reg.find? (fun e => e.1 == name)).map (·.2) := by
  induction reg with
  | nil => rfl
  | cons e reg ih =>
    rw [List.lookup_cons, List.find?_cons, Bool.beq_comm]
    cases e.1 == name with
    | true => rfl
    | false => exact ih

theorem lookup_entriesAfter (calls : List RegistryCall) (name : String) :
    (entriesAfter memoryEntry calls).lookup name =
      if name ∈ typesOf calls then
        some (UInt32.ofNat ((typesOf calls).idxOf name + 1), UInt64.ofNat (taken name calls + 1))
      else none := by
  rw [lookup_eq_find?, find?_entriesAfter fun _ _ _ => rfl]
  split <;> rfl

theorem memoryEntry_succ (name : String) (i k : Nat) : memoryEntry name i (k + 1) =
    (name, UInt32.ofNat (i + 1), UInt64.ofNat (k + 1) + 1) := by
  rw [memoryEntry, UInt64.ofNat_add (k + 1) 1]
  rfl

theorem memory_serve (calls : List RegistryCall) (call : RegistryCall) :
    MemoryRegistry.serve (entriesAfter memoryEntry calls) call =
      (due calls call, entriesAfter memoryEntry (calls ++ [call])) := by
  have hlookup := lookup_entriesAfter calls
  cases call with
  | typeId name create =>
    rw [MemoryRegistry.serve, MemoryRegistry.typeId, hlookup]
    by_cases h : name ∈ typesOf calls
    · rw [if_pos h, due_typeId_of_mem h create,
        entriesAfter_snoc_of_same (typesOf_snoc_of_mem h create) fun _ _ => nofun]
    · rw [if_neg h]
      cases create with
      | false =>
        have htypes : typesOf (calls ++ [.typeId name false]) = typesOf calls :=
          typesOf_snoc_of_none rfl calls
        rw [due_lookup h, entriesAfter_snoc_of_same htypes fun _ _ => nofun]
        rfl
      | true =>
        have hlength : (entriesAfter memoryEntry calls).length = (typesOf calls).length :=
          List.length_mapIdx
        rw [due_register h, entriesAfter_snoc_register h, memoryEntry, UInt32.ofNat_add, ← hlength]
        rfl
  | nextId name =>
    rw [MemoryRegistry.serve, MemoryRegistry.nextId, hlookup, due]
    by_cases h : name ∈ typesOf calls
    · rw [if_pos h, if_pos h, entriesAfter_snoc_nextId Prod.fst
        (fun e => (e.1, e.2.1, e.2.2 + 1)) (fun _ _ _ => rfl) memoryEntry_succ]
      rfl
    · have htypes : typesOf (calls ++ [.nextId name]) = typesOf calls := typesOf_snoc_of_none rfl calls
      have hother : ∀ other ∈ typesOf calls, RegistryCall.nextId name ≠ .nextId other := by
        rintro other hmem ⟨⟩
        exact h hmem
      rw [if_neg h, if_neg h, entriesAfter_snoc_of_same htypes hother]
      rfl

/-! ### The registry in the database -/

/-- The row of a type in the database. -/
def rowEntry (name : String) (i k : Nat) : TypeRow :=
  ⟨name, Int64.ofNat (i + 1), Int64.ofNat (k + 1)⟩

theorem rowEntry_succ (name : String) (i k : Nat) : rowEntry name i (k + 1) =
    { rowEntry name i k with nextId := (rowEntry name i k).nextId + 1 } := by
  rw [rowEntry, Int64.ofNat_add (k + 1) 1]
  rfl

/-- The database after some calls. -/
def databaseAfter (calls : List RegistryCall) : Database :=
  { Database.empty with types := entriesAfter rowEntry calls }

/-- Calls that register no more types and take no more numbers than there are. -/
structure WithinLimits (calls : List RegistryCall) : Prop where
  types : (typesOf calls).length < 2 ^ 32 - 1
  taken : ∀ name, taken name calls < 2 ^ 63 - 1

theorem WithinLimits.of_append {calls more : List RegistryCall} (h : WithinLimits (calls ++ more)) :
    WithinLimits calls where
  types := by
    obtain ⟨new, hnew⟩ := typesOf_append calls more
    have hlength := h.types
    rw [hnew, List.length_append] at hlength
    omega
  taken name := (taken_le_append name calls more).trans_lt (h.taken name)

section
variable {calls : List RegistryCall} {name : String}

theorem usableTypeId_ofNat {n : Nat} (h : n < 2 ^ 32) (name : String) :
    Database.usableTypeId name (Int64.ofNat n) = .ok (UInt32.ofNat n) := by
  have hn : (Int64.ofNat n).toInt = n := Int64.toInt_ofNat_of_lt (by omega)
  rw [Database.usableTypeId, hn, if_pos (by omega), Int.toNat_natCast]

theorem ofNat_ne_maxWord {n : Nat} (h : n < 2 ^ 63 - 1) : Int64.ofNat n ≠ Database.maxWord := by
  intro he
  have hn : (Int64.ofNat n).toInt = n := Int64.toInt_ofNat_of_lt (by omega)
  have hmax : Database.maxWord.toInt = 2 ^ 63 - 1 := by decide
  rw [he, hmax] at hn
  omega

theorem typeRow?_databaseAfter (calls : List RegistryCall) (name : String) :
    (databaseAfter calls).typeRow? name =
      if name ∈ typesOf calls then some (rowEntry name ((typesOf calls).idxOf name) (taken name calls))
      else none :=
  find?_entriesAfter fun _ _ _ => rfl

/-- The last number is that of the last type. -/
theorem lastTypeId_databaseAfter (h : WithinLimits calls) :
    (databaseAfter calls).lastTypeId = Int64.ofNat (typesOf calls).length := by
  have hlength := h.types
  have hrow : ∀ row ∈ (databaseAfter calls).types, ∃ i < (typesOf calls).length,
      row.typeId = Int64.ofNat (i + 1) := by
    intro row hrow
    obtain ⟨i, hi, rfl⟩ := List.mem_mapIdx.1 hrow
    exact ⟨i, hi, rfl⟩
  have hint {n : Nat} (hn : n ≤ (typesOf calls).length) : (Int64.ofNat n).toInt = n :=
    Int64.toInt_ofNat_of_lt (by omega)
  -- no number is larger, and when there is a type the last one has this number
  have hle : (databaseAfter calls).lastTypeId.toInt ≤ (typesOf calls).length := by
    rcases Database.lastTypeId_cases (databaseAfter calls) with hzero | hmem
    · rw [hzero]
      exact Int.natCast_nonneg _
    · obtain ⟨row, hmem, hid⟩ := List.mem_map.1 hmem
      obtain ⟨i, hi, hi'⟩ := hrow row hmem
      rw [← hid, hi', hint hi]
      omega
  have hge : ((typesOf calls).length : Int) ≤ (databaseAfter calls).lastTypeId.toInt := by
    rcases Nat.eq_zero_or_pos (typesOf calls).length with hzero | hpos
    · have hnil : (databaseAfter calls).types = [] :=
        List.eq_nil_of_length_eq_zero (List.length_mapIdx.trans hzero)
      rw [hzero, Database.lastTypeId, hnil]
      decide
    · have hlast : rowEntry (typesOf calls)[(typesOf calls).length - 1] ((typesOf calls).length - 1)
          (taken (typesOf calls)[(typesOf calls).length - 1] calls) ∈ (databaseAfter calls).types :=
        List.mem_mapIdx.2 ⟨(typesOf calls).length - 1, by omega, rfl⟩
      have hbound := Database.le_lastTypeId hlast
      rw [rowEntry, Nat.sub_add_cancel hpos, hint le_rfl] at hbound
      exact hbound
  rw [← Int64.toInt_inj, hint le_rfl]
  exact le_antisymm hle hge

/-- A type that is known has its number, whether it is to be registered or not. -/
theorem typeId_of_known (h : WithinLimits calls) (hmem : name ∈ typesOf calls) (create : Bool) :
    (databaseAfter calls).typeId name create =
      .ok (some (UInt32.ofNat ((typesOf calls).idxOf name + 1)), databaseAfter calls) := by
  have htypes := h.types
  have hindex : (typesOf calls).idxOf name < (typesOf calls).length := List.idxOf_lt_length_of_mem hmem
  have hfound : (databaseAfter calls).typeId? name =
      .ok (some (UInt32.ofNat ((typesOf calls).idxOf name + 1))) := by
    rw [Database.typeId?, typeRow?_databaseAfter, if_pos hmem]
    exact congrArg (Except.map some) (usableTypeId_ofNat (by omega) name)
  exact bind_eq_ok.2 ⟨_, hfound, rfl⟩

theorem typeId?_of_unknown (hmem : name ∉ typesOf calls) :
    (databaseAfter calls).typeId? name = .ok none := by
  rw [Database.typeId?, typeRow?_databaseAfter, if_neg hmem]

theorem typeId_of_unknown (h : WithinLimits calls) (hmem : name ∉ typesOf calls) :
    (databaseAfter calls).typeId name true =
      .ok (some (UInt32.ofNat ((typesOf calls).length + 1)),
        databaseAfter (calls ++ [.typeId name true])) := by
  have htypes := h.types
  have hlast := lastTypeId_databaseAfter h
  have hroom : (databaseAfter calls).lastTypeId ≠ Database.maxWord :=
    hlast ▸ ofNat_ne_maxWord (by omega)
  have hnext : Int64.ofNat (typesOf calls).length + 1 = Int64.ofNat ((typesOf calls).length + 1) :=
    (Int64.ofNat_add _ 1).symm
  have husable : Database.usableTypeId name ((databaseAfter calls).lastTypeId + 1) =
      .ok (UInt32.ofNat ((typesOf calls).length + 1)) := by
    rw [hlast, hnext]
    exact usableTypeId_ofNat (by omega) name
  have hregister : (databaseAfter calls).register name =
      .ok (UInt32.ofNat ((typesOf calls).length + 1),
        databaseAfter (calls ++ [.typeId name true])) := by
    rw [Database.register, if_neg hroom]
    refine bind_eq_ok.2 ⟨_, husable, ?_⟩
    rw [hlast, hnext, databaseAfter, databaseAfter, entriesAfter_snoc_register hmem]
    rfl
  exact bind_eq_ok.2 ⟨none, typeId?_of_unknown hmem, bind_eq_ok.2 ⟨_, hregister, rfl⟩⟩

theorem nextId_of_known (h : WithinLimits (calls ++ [.nextId name])) (hmem : name ∈ typesOf calls) :
    (databaseAfter calls).nextId name =
      .ok (UInt64.ofNat (taken name calls + 1), databaseAfter (calls ++ [.nextId name])) := by
  have hbound := h.taken name
  rw [taken_snoc, if_pos ⟨hmem, rfl⟩] at hbound
  have hroom : (rowEntry name ((typesOf calls).idxOf name) (taken name calls)).nextId ≠
      Database.maxWord := ofNat_ne_maxWord hbound
  have hid : (rowEntry name ((typesOf calls).idxOf name) (taken name calls)).nextId.toInt.toNat =
      taken name calls + 1 := by
    rw [rowEntry, Int64.toInt_ofNat_of_lt (by omega), Int.toNat_natCast]
  have hafter : databaseAfter (calls ++ [.nextId name]) = { databaseAfter calls with
      types := (databaseAfter calls).types.map fun r =>
        if r.name == name then { r with nextId := r.nextId + 1 } else r } := by
    rw [databaseAfter, entriesAfter_snoc_nextId TypeRow.name
      (fun r => { r with nextId := r.nextId + 1 }) (fun _ _ _ => rfl) rowEntry_succ]
    rfl
  rw [Database.nextId, typeRow?_databaseAfter, if_pos hmem, hafter, ← hid]
  exact if_neg hroom

theorem nextId_of_unknown (hmem : name ∉ typesOf calls) :
    (databaseAfter calls).nextId name = .error (.unknownType (.unregistered name)) := by
  rw [Database.nextId, typeRow?_databaseAfter, if_neg hmem]

theorem databaseAfter_snoc_of_same {call : RegistryCall}
    (htypes : typesOf (calls ++ [call]) = typesOf calls)
    (hcall : ∀ name ∈ typesOf calls, call ≠ .nextId name) :
    databaseAfter (calls ++ [call]) = databaseAfter calls := by
  rw [databaseAfter, databaseAfter, entriesAfter_snoc_of_same htypes hcall]

end

theorem database_serve {calls : List RegistryCall} {call : RegistryCall}
    (h : WithinLimits (calls ++ [call])) : Database.serve (databaseAfter calls) call =
      (due calls call, databaseAfter (calls ++ [call])) := by
  have hwithin : WithinLimits calls := h.of_append
  cases call with
  | typeId name create =>
    have hother : ∀ other ∈ typesOf calls, RegistryCall.typeId name create ≠ .nextId other := by
      rintro other - ⟨⟩
    by_cases hmem : name ∈ typesOf calls
    · rw [Database.serve, typeId_of_known hwithin hmem, due_typeId_of_mem hmem create,
        databaseAfter_snoc_of_same (typesOf_snoc_of_mem hmem create) hother]
    · cases create with
      | false =>
        have hanswer : (databaseAfter calls).typeId name false = .ok (none, databaseAfter calls) :=
          bind_eq_ok.2 ⟨none, typeId?_of_unknown hmem, rfl⟩
        rw [Database.serve, hanswer, due_lookup hmem,
          databaseAfter_snoc_of_same (typesOf_snoc_of_none rfl calls) hother]
      | true => rw [Database.serve, typeId_of_unknown hwithin hmem, due_register hmem]
  | nextId name =>
    rw [Database.serve, due]
    by_cases hmem : name ∈ typesOf calls
    · rw [nextId_of_known h hmem, if_pos hmem]
    · have hother : ∀ other ∈ typesOf calls, RegistryCall.nextId name ≠ .nextId other := by
        rintro other hin ⟨⟩
        exact hmem hin
      rw [nextId_of_unknown hmem, if_neg hmem,
        databaseAfter_snoc_of_same (typesOf_snoc_of_none rfl calls) hother]

/-! ### Runs -/

section
variable {σ : Type} {serve : σ → RegistryCall → Except Error RegistryAnswer × σ}
  {state : List RegistryCall → σ}

/-- A registry that answers each call as is due holds what the calls so far make it hold. -/
theorem snd_serveAll (hserve : ∀ {calls call}, WithinLimits (calls ++ [call]) →
      serve (state calls) call = (due calls call, state (calls ++ [call])))
    {calls : List RegistryCall} (h : WithinLimits calls) :
    (serveAll serve (state []) calls).2 = state calls := by
  induction calls using List.reverseRecOn with
  | nil => rfl
  | append_singleton calls call ih => rw [serveAll_snoc, ih h.of_append, hserve h]

/-- It answers each call as is due after the calls before. -/
theorem answer_serveAll (hserve : ∀ {calls call}, WithinLimits (calls ++ [call]) →
      serve (state calls) call = (due calls call, state (calls ++ [call])))
    {before after : List RegistryCall} {call : RegistryCall} (h : WithinLimits (before ++ call :: after)) :
    (serveAll serve (state []) (before ++ call :: after)).1[before.length]? =
      some (due before call) := by
  have hbefore : WithinLimits (before ++ [call]) := (List.append_cons before call after ▸ h).of_append
  rw [getElem?_serveAll, snd_serveAll hserve hbefore.of_append, hserve hbefore]

end

/-- The record numbers of a type that are given away, in the order in which they are. -/
def numbersGiven (name : String) (calls : List RegistryCall)
    (answers : List (Except Error RegistryAnswer)) : List UInt64 :=
  (calls.zip answers).filterMap fun
    | (.nextId other, .ok (.record id)) => if other = name then some id else none
    | _ => none

theorem numbersGiven_snoc {calls : List RegistryCall} {answers : List (Except Error RegistryAnswer)}
    (hlength : calls.length = answers.length) (name : String) (call : RegistryCall)
    (answer : Except Error RegistryAnswer) :
    numbersGiven name (calls ++ [call]) (answers ++ [answer]) =
      numbersGiven name calls answers ++ numbersGiven name [call] [answer] := by
  rw [numbersGiven, List.zip_append hlength, List.filterMap_append]
  rfl

/-- The next number is given away if a type is registered and asked for one. -/
theorem numbersGiven_due (name : String) (calls : List RegistryCall) (call : RegistryCall) :
    numbersGiven name [call] [due calls call] =
      if name ∈ typesOf calls ∧ call = .nextId name then [UInt64.ofNat (taken name calls + 1)]
      else [] := by
  cases call with
  | typeId other create => rw [if_neg fun h => nomatch h.2]; rfl
  | nextId other =>
    by_cases hother : other = name
    · subst hother
      by_cases hmem : other ∈ typesOf calls
      · rw [due, if_pos hmem, if_pos ⟨hmem, rfl⟩]
        simp [numbersGiven]
      · rw [due, if_neg hmem, if_neg fun h => hmem h.1]
        rfl
    · rw [if_neg fun h => hother (RegistryCall.nextId.inj h.2), due]
      split <;> simp [numbersGiven, hother]

theorem numbersGiven_serveAll {calls : List RegistryCall} (h : WithinLimits calls) (name : String) :
    numbersGiven name calls (serveAll MemoryRegistry.serve [] calls).1 =
      (List.range (taken name calls)).map fun i => UInt64.ofNat (i + 1) := by
  induction calls using List.reverseRecOn with
  | nil => rfl
  | append_singleton calls call ih =>
    have hstate : (serveAll MemoryRegistry.serve [] calls).2 = entriesAfter memoryEntry calls :=
      snd_serveAll (fun _ => memory_serve _ _) h.of_append
    rw [serveAll_snoc, hstate, memory_serve,
      numbersGiven_snoc (length_serveAll calls).symm, ih h.of_append, numbersGiven_due, taken_snoc]
    split
    · rw [List.range_succ, List.map_append]
      rfl
    · rw [List.append_nil, Nat.add_zero]

/-- Both registries answer calls alike.  Types have the numbers from one on in the order in which they
are registered, which stay theirs, and the records of each type have the numbers from one on. -/
theorem registries_agree {calls : List RegistryCall}
    (htypes : (typesOf calls).length < 2 ^ 32 - 1) (hrecords : ∀ name, taken name calls < 2 ^ 63 - 1) :
    let answers := (serveAll MemoryRegistry.serve [] calls).1
    (serveAll Database.serve .empty calls).1 = answers ∧
      (∀ before name create after, calls = before ++ .typeId name create :: after →
        answers[before.length]? = some (.ok (.type (
          if name ∈ typesOf (before ++ [.typeId name create]) then
            some (UInt32.ofNat ((typesOf calls).idxOf name + 1)) else none)))) ∧
      (∀ before name after, calls = before ++ .nextId name :: after →
        answers[before.length]? = some (
          if name ∈ typesOf before then .ok (.record (UInt64.ofNat (taken name before + 1)))
          else .error (.unknownType (.unregistered name)))) ∧
      ∀ name, numbersGiven name calls answers =
        (List.range (taken name calls)).map fun i => UInt64.ofNat (i + 1) := by
  have h : WithinLimits calls := ⟨htypes, hrecords⟩
  intro answers
  have hmemory (before : List RegistryCall) (call : RegistryCall) (after : List RegistryCall)
      (hcalls : calls = before ++ call :: after) :
      answers[before.length]? = some (due before call) := by
    subst hcalls
    exact answer_serveAll (fun _ => memory_serve _ _) h
  have hdatabase (before : List RegistryCall) (call : RegistryCall) (after : List RegistryCall)
      (hcalls : calls = before ++ call :: after) :
      (serveAll Database.serve .empty calls).1[before.length]? = some (due before call) := by
    subst hcalls
    exact answer_serveAll database_serve h
  refine ⟨?_, fun before name create after hcalls => ?_, fun before name after hcalls => ?_,
    numbersGiven_serveAll h⟩
  · -- the answers are compared place by place, and each is the one that is due there
    refine List.ext_getElem? fun i => ?_
    by_cases hi : i < calls.length
    · have hcalls : calls = calls.take i ++ calls[i] :: calls.drop (i + 1) := by
        rw [List.getElem_cons_drop, List.take_append_drop]
      have hlength : (calls.take i).length = i := List.length_take_of_le hi.le
      rw [← hlength, hmemory _ _ _ hcalls, hdatabase _ _ _ hcalls]
    · rw [List.getElem?_eq_none (by rw [length_serveAll]; omega),
        List.getElem?_eq_none (by rw [length_serveAll]; omega)]
  · -- types that are registered later come behind, so the number stays what it is
    obtain ⟨new, hnew⟩ := typesOf_append (before ++ [.typeId name create]) after
    rw [hmemory before _ after hcalls, due]
    rw [← List.append_cons, ← hcalls] at hnew
    by_cases hmem : name ∈ typesOf (before ++ [.typeId name create])
    · simp only [if_pos hmem, hnew, List.idxOf_append_of_mem hmem]
    · simp only [if_neg hmem]
  · rw [hmemory before _ after hcalls, due]

/-- Two types are registered, and both give numbers away. -/
def registryCalls : List RegistryCall :=
  [.typeId "user" false, .nextId "user", .typeId "user" true, .typeId "order" true,
    .typeId "user" true, .nextId "user", .nextId "user", .nextId "order"]

theorem registries_agree_pair :
    let answers := (serveAll MemoryRegistry.serve [] registryCalls).1
    answers = [.ok (.type none), .error (.unknownType (.unregistered "user")), .ok (.type (some 1)),
        .ok (.type (some 2)), .ok (.type (some 1)), .ok (.record 1), .ok (.record 2),
        .ok (.record 1)] ∧
      (serveAll Database.serve .empty registryCalls).1 = answers := by
  have htaken (name : String) : taken name registryCalls < 2 ^ 63 - 1 :=
    (taken_le_length name registryCalls).trans_lt (by decide)
  exact ⟨by decide, (registries_agree (by decide) htaken).1⟩

end RecordStore

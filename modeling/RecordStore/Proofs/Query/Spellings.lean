import Mathlib
import RecordStore.Proofs.Key.RoundTrip
import RecordStore.Proofs.Query.Rebinding
import RecordStore.Proofs.Store.Permanence
import RecordStore.Proofs.Store.Provisioned
import RecordStore.Proofs.Store.Readings

/-!
Record numbers in queries.  A record can be named by its number, by the digits of it, and by its key, plain
or opaque.  Opaque texts are replaced before a query is compiled and all others are read while it is; both
ways end with one bound value, so the spelling makes no difference to the statement.
-/
namespace RecordStore
open Sql Database Index RecordStore.Action

/-! ### Spellings -/

/-- The digits of a number behind some zeros. -/
def Text.zeroPadded (zeros n : Nat) : List Char :=
  List.replicate zeros '0' ++ n.repr.toList

namespace Store

/-- The texts of a key: the plain one, with any zeros in front of the number, and the opaque one that
the codec writes with whichever derived keys it has at hand. -/
inductive KeyText (s : Store) (key : Key) : String → Prop
  | plain (zeros : Nat) : KeyText s key
    (key.typeName ++ ":" ++ String.ofList (Text.zeroPadded zeros key.id.toNat))
  | encoded {cache : KeyCache} {text : String} : s.codec.Derives cache →
    (s.codec.encode key cache).1 = .ok text → KeyText s key text

/-- The scalars that name the record of a type with a number. -/
inductive Spells (s : Store) (T : String) (id : UInt64) : FieldValue → Prop
  | signed {n : Int64} : n.toInt = id.toNat → Spells s T id (.int n)
  | unsigned : Spells s T id (.uint id)
  | decimal (zeros : Nat) : Spells s T id
    (.text (String.ofList (Text.zeroPadded zeros id.toNat)))
  | key {text : String} : s.KeyText ⟨T, id⟩ text → Spells s T id (.text text)

/-- Scalars that are the same or name the same record. -/
inductive SameId (s : Store) (T : String) : FieldValue → FieldValue → Prop
  | refl (v : FieldValue) : SameId s T v v
  | spelled {id : UInt64} {v u : FieldValue} : id.toNat < 2 ^ 63 → s.Spells T id v →
    s.Spells T id u → SameId s T v u

end Store

/-- The plan of a query on an index, as a store makes it. -/
def Store.planned (s : Store) (t : Target) (q : Query) : Action Plan := do
  let terms ← q.terms.mapM s.resolveTerm
  Action.lift (({ q with terms := terms } : Query).compile t s.settings.lookupLimit)

/-! ### Digits -/

theorem Text.natural?_zeroPadded (zeros n : Nat) :
    Text.natural? (zeroPadded zeros n) = some n := by
  have hdigits : (zeroPadded zeros n).all Char.isDigit = true := by
    rw [zeroPadded, List.all_append, Bool.and_eq_true, Nat.toList_repr]
    refine ⟨List.all_eq_true.2 fun c hc => ?_, List.all_eq_true.2 fun c hc => ?_⟩
    · rw [List.eq_of_mem_replicate hc]
      rfl
    · exact Nat.isDigit_of_mem_toDigits (by decide) (by decide) hc
  have hvalue : Nat.ofDigitChars 10 (zeroPadded zeros n) 0 = n := by
    rw [zeroPadded, Nat.ofDigitChars_append, Nat.ofDigitChars_replicate_zero, Nat.toList_repr]
    simp [Nat.ofDigitChars_toDigits]
  have hne : zeroPadded zeros n ≠ [] := by
    intro hnil
    have hlength := Nat.length_toDigits_pos (b := 10) (n := n)
    rw [zeroPadded, Nat.toList_repr] at hnil
    rw [(List.append_eq_nil_iff.1 hnil).2] at hlength
    exact absurd hlength (lt_irrefl 0)
  rw [Text.natural?, if_pos ⟨hne, hdigits⟩, hvalue]

/-! ### Plain form -/

theorem encodable_of_validTypeName {key : Key} (h : validTypeName key.typeName = true) :
    key.Encodable := by
  simp only [validTypeName, Bool.and_eq_true, bne_iff_ne, List.all_eq_true] at h
  obtain ⟨⟨hne, -⟩, hall⟩ := h
  refine ⟨hne, fun hcolon => ?_, fun hmark => ?_⟩
  · exact absurd (hall ':' hcolon) (by decide)
  · exact absurd (hall '@' (List.mem_of_mem_head? hmark)) (by decide)

namespace Store
variable {s : Store} {T : String} {id : UInt64} {key : Key} {text : String} {v u : FieldValue}

theorem plainId_of_plain (h : text.toList.head? ≠ some '@') :
    s.plainId (.text text) = .ok (.text text) :=
  if_neg h

/-- An opaque text is read as the key that it was written for. -/
theorem plainId_of_encoded {cache : KeyCache} (hkey : key.Encodable)
    (hcache : s.codec.Derives cache) (h : (s.codec.encode key cache).1 = .ok text) :
    s.plainId (.text text) = .ok (.text key.text) := by
  rw [(hcache.encode key).1, KeyCodec.encode_of_encodable hkey] at h
  obtain rfl := Except.ok.inj h
  have hreads : s.reads (KeyCodec.opaqueText key.typeName
      (s.codec.encryptId (s.codec.keyFor key.typeName []).1 key.id)) = .ok key := by
    rw [reads, KeyCodec.decode_opaqueText hkey.1 hkey.2.1, KeyCodec.decryptId_encryptId]
  have hmark : (KeyCodec.opaqueText key.typeName
      (s.codec.encryptId (s.codec.keyFor key.typeName []).1 key.id)).toList.head? = some '@' := by
    rw [KeyCodec.toList_opaqueText]
    rfl
  rw [plainId, if_pos hmark, hreads]
  rfl

/-- Every text of a key becomes one that is parsed as the key. -/
theorem KeyText.exists_plain (h : s.KeyText key text) (hkey : key.Encodable) :
    ∃ text', s.plainId (.text text) = .ok (.text text') ∧ ':' ∈ text'.toList ∧
      Key.parse? text' = some key := by
  have hcolon (digits : List Char) :
      ':' ∈ (key.typeName ++ ":" ++ String.ofList digits).toList := by simp
  have hparse (zeros : Nat) : Key.parse? (key.typeName ++ ":" ++
      String.ofList (Text.zeroPadded zeros key.id.toNat)) = some key :=
    Key.parse?_of_digits hkey.1 hkey.2.2 (Text.natural?_zeroPadded zeros key.id.toNat)
  cases h with
  | plain zeros =>
    refine ⟨_, plainId_of_plain ?_, hcolon _, hparse zeros⟩
    rw [String.toList_append, String.toList_append, List.append_assoc,
      List.head?_append_of_ne_nil _ (by simpa using hkey.1)]
    exact hkey.2.2
  | encoded hcache hencode =>
    refine ⟨key.text, plainId_of_encoded hkey hcache hencode, ?_, ?_⟩
    · simp [Key.text]
    · have hzero := hparse 0
      rwa [Text.zeroPadded, List.replicate_zero, List.nil_append, String.ofList_toList] at hzero

/-- Every spelling of a number has a plain form that is read as the number. -/
theorem Spells.exists_plain (h : s.Spells T id v) (hT : validTypeName T = true) :
    ∃ u, s.plainId v = .ok u ∧ u.recordId? T = some id := by
  cases h with
  | @signed n hn =>
    refine ⟨.int n, rfl, ?_⟩
    rw [FieldValue.recordId?, if_pos (by omega), hn, Int.toNat_natCast, UInt64.ofNat_toNat]
  | unsigned => exact ⟨.uint id, rfl, rfl⟩
  | decimal zeros =>
    have hnatural := Text.natural?_zeroPadded zeros id.toNat
    have hmark : (Text.zeroPadded zeros id.toNat).head? ≠ some '@' := fun hmark =>
      absurd (Text.isDigit_of_natural? hnatural _ (List.mem_of_mem_head? hmark)) (by decide)
    refine ⟨_, plainId_of_plain (by rwa [String.toList_ofList]), ?_⟩
    rw [FieldValue.recordId?, String.toList_ofList, if_neg (notMem_of_natural? hnatural),
      Text.unsigned?_of_natural? hnatural, Option.bind_some, if_pos id.toNat_lt,
      UInt64.ofNat_toNat]
  | key htext =>
    have hkey : (⟨T, id⟩ : Key).Encodable := encodable_of_validTypeName hT
    obtain ⟨text', hplain, hcolon, hparse⟩ := htext.exists_plain hkey
    refine ⟨_, hplain, ?_⟩
    rw [FieldValue.recordId?, if_pos hcolon, hparse, Option.bind_some, if_pos rfl]

/-- The number of a record is bound as it is. -/
theorem bindId_of_recordId? (h : u.recordId? T = some id) (hid : id.toNat < 2 ^ 63) :
    bindId T u = .ok (.ofInt (Int64.ofInt id.toNat)) := by
  rw [bindId, h, Option.bind_some, storedId?, if_pos (show id.toNat < 0x8000000000000000 from hid)]

theorem isNull_of_recordId? (h : u.recordId? T = some id) : u.isNull = false := by
  cases u with
  | null => cases h
  | _ => rfl

end Store

/-! ### Terms as they are read -/

section
variable {s : Store} {T : String} {v u : FieldValue} {t t' : Term}

theorem agree_plainId (hT : validTypeName T = true) (h : s.SameId T v u) :
    Agree (BoundAlike T) (s.plainId v) (s.plainId u) := by
  cases h with
  | refl => exact agree_refl (fun _ => ⟨rfl, rfl⟩) _
  | spelled hid hv hu =>
    obtain ⟨v', hv', hvid⟩ := hv.exists_plain hT
    obtain ⟨u', hu', huid⟩ := hu.exists_plain hT
    rw [hv', hu']
    exact .ok ⟨(Store.isNull_of_recordId? hvid).trans (Store.isNull_of_recordId? huid).symm,
      (Store.bindId_of_recordId? hvid hid).trans (Store.bindId_of_recordId? huid hid).symm⟩

theorem agree_plainTerm (hT : validTypeName T = true) (h : t.Related (s.SameId T) t') :
    Agree (Term.Related (BoundAlike T)) (s.plainTerm t) (s.plainTerm t') := by
  cases h with
  | refl => exact agree_refl Term.Related.refl _
  | scalar h => exact agree_bind (agree_plainId hT h) fun a b hab => .ok (.scalar hab)
  | list h =>
    exact agree_bind (agree_mapM (h.imp fun _ _ => agree_plainId hT)) fun as bs hs => .ok (.list hs)

end

/-! ### Keys of another type -/

section
variable {s : Store} {T : String} {t u : Term} {target : Target} {q : Query} {v : FieldValue}

namespace Store

theorem failsOnly_plainId (v : FieldValue) :
    FailsOnly (fun e => ∃ f, e = .queryValidation f) (s.plainId v) := by
  cases v with
  | text x =>
    simp only [plainId]
    split
    · refine failsOnly_bind ?_ fun key _ => failsOnly_ok _
      cases s.reads x with
      | error f => exact failsOnly_error ⟨_, rfl⟩
      | ok key => exact failsOnly_ok key
    · exact failsOnly_ok _
  | _ => exact failsOnly_ok _

theorem failsOnly_plainTerm (t : Term) :
    FailsOnly (fun e => ∃ f, e = .queryValidation f) (s.plainTerm t) := by
  unfold plainTerm
  split
  · split
    · exact failsOnly_bind (failsOnly_plainId _) fun _ _ => failsOnly_ok _
    · exact failsOnly_bind (failsOnly_mapM fun v _ => failsOnly_plainId v) fun _ _ => failsOnly_ok _
  · exact failsOnly_ok t

theorem values_of_plainTerm (h : s.plainTerm t = .ok u) (hfield : t.field = idAttribute) :
    u.field = idAttribute ∧ List.Forall₂ (fun v v' => s.plainId v = .ok v') t.operand.values
      u.operand.values := by
  obtain ⟨field, operator, operand⟩ := t
  rw [plainTerm, if_pos hfield] at h
  cases operand with
  | scalar v =>
    obtain ⟨v', hv', h⟩ := bind_eq_ok.1 h
    obtain rfl := Except.ok.inj h
    exact ⟨hfield, .cons hv' .nil⟩
  | list vs =>
    obtain ⟨vs', hvs', h⟩ := bind_eq_ok.1 h
    obtain rfl := Except.ok.inj h
    exact ⟨hfield, mapM_eq_ok.1 hvs'⟩

theorem gives_planned {db : Database} (target : Target) (q : Query) :
    s.Gives db (s.planned target q) (do
      let terms ← q.terms.mapM s.plainTerm
      ({ q with terms := terms } : Query).compile target s.settings.lookupLimit) :=
  gives_bind (gives_mapM gives_resolveTerm q.terms) fun _ => gives_lift _

/-- A store that a type is published to has a schema for it, though it may have one that it remembers. -/
theorem exists_requireSchema {w : Workspace} {n : UInt32} {S : Schema}
    (hp : Published w.database T n S) : ∃ S', (Store.requireSchema T w).1 = .ok S' := by
  rw [Store.requireSchema, fst_bind]
  unfold Store.schema
  cases hremembered : w.session.schemas.lookup T with
  | some S' => exact ⟨S', rfl⟩
  | none =>
    have hstored : (storedSchema T).run w.database = .ok (some S, w.database) := by
      show storedSchema T w.database = _
      rw [storedSchema, hp.text]
      simp only [Schema.parse_text]
    rw [hstored]
    exact ⟨S, rfl⟩

end Store
end

/-! ### Queries of a store -/

/-- How a store answers queries about the records of a type with a schema by their numbers: all spellings
of a number are bound as the number itself, the plan and the page of a query do not depend on them, and a
key of another type is always refused. -/
structure InterchangesIds (s : Store) (w : Workspace) (T : String) (S : Schema) : Prop where
  bound : ∀ id v, id.toNat < 2 ^ 63 → s.Spells T id v → ∃ u, (s.resolveId v w).1 = .ok u ∧
    bindId T u = .ok (.ofInt (Int64.ofInt id.toNat))
  planned : ∀ q terms, List.Forall₂ (Term.Related (s.SameId T)) q.terms terms →
    ∀ target : Target, target.typeName = T →
      (s.planned target q w).1 = (s.planned target { q with terms := terms } w).1
  answered : ∀ q terms, List.Forall₂ (Term.Related (s.SameId T)) q.terms terms → ∀ index,
    (s.query T index q w).1 = (s.query T index { q with terms := terms } w).1
  foreign : ∀ ix ∈ S.indexes, ∀ q : Query, ∀ key text, validTypeName key.typeName = true →
    key.typeName ≠ T → s.KeyText key text →
    (∃ t ∈ q.terms, t.field = idAttribute ∧ .text text ∈ t.operand.values) →
      ∃ f, (s.query T ix.name q w).1 = .error (.queryValidation f)

section
variable {s : Store} {w : Workspace} {T : String} {n : UInt32} {S : Schema} {q : Query}
  {terms : List Term}

theorem agree_plainTerms (hT : validTypeName T = true)
    (h : List.Forall₂ (Term.Related (s.SameId T)) q.terms terms) :
    Agree (List.Forall₂ (Term.Related (BoundAlike T))) (q.terms.mapM s.plainTerm)
      (terms.mapM s.plainTerm) :=
  agree_mapM (h.imp fun _ _ => agree_plainTerm hT)

/-- A term with a key of another type is refused, whatever else is asked for. -/
theorem query_foreign (hkeys : s.codec.Derives w.session.keys)
    (hS : (Store.requireSchema T w).1 = .ok S) (hn : w.database.requireTypeId T = .ok n)
    {ix : IndexDefinition} (hix : ix ∈ S.indexes) {key : Key} {text : String}
    (hvalid : validTypeName key.typeName = true) (hother : key.typeName ≠ T)
    (htext : s.KeyText key text) {t : Term} (ht : t ∈ q.terms) (hfield : t.field = idAttribute)
    (hmem : .text text ∈ t.operand.values) :
    ∃ f, (s.query T ix.name q w).1 = .error (.queryValidation f) := by
  rw [Store.query_eq_of_derives hkeys, hS]
  cases hterms : q.terms.mapM s.plainTerm with
  | error e =>
    obtain ⟨f, rfl⟩ := failsOnly_mapM (fun t _ => Store.failsOnly_plainTerm t) e hterms
    exact ⟨f, rfl⟩
  | ok us =>
    obtain ⟨u, hu, hplain⟩ := exists_of_mem_right (mapM_eq_ok.1 hterms).flip ht
    obtain ⟨hfield', hvalues⟩ := Store.values_of_plainTerm hplain hfield
    obtain ⟨v, hv, hvplain⟩ := exists_of_mem_right hvalues.flip hmem
    obtain ⟨text', hplain', hcolon, hparse⟩ :=
      htext.exists_plain (encodable_of_validTypeName hvalid)
    obtain rfl := Except.ok.inj (hvplain.symm.trans hplain')
    -- what is left of the text is parsed as the key, and that is of another type
    have hbind (b : Value) : bindId T (.text text') ≠ .ok b := by
      rw [bindId, FieldValue.recordId?, if_pos hcolon, hparse, Option.bind_some, if_neg hother]
      nofun
    have hnone (cs : List Condition) : ¬ ({ q with terms := us } : Query).Compiles
        ⟨T, S, ix, names s.settings.stem n ix.name⟩ cs :=
      Query.not_compiles_of_bindId hu hfield' hv nofun hbind cs
    obtain ⟨f, hf⟩ := Query.exists_fault_of_not_compiles hix hnone
    exact ⟨f, queryIndex_of_error hix hn (hf _)⟩

theorem interchangesIds (hkeys : s.codec.Derives w.session.keys) (hT : validTypeName T = true)
    (hS : (Store.requireSchema T w).1 = .ok S) (hn : w.database.requireTypeId T = .ok n) :
    InterchangesIds s w T S where
  bound id v hid hv := by
    obtain ⟨u, hu, hrecord⟩ := hv.exists_plain hT
    exact ⟨u, (Store.gives_resolveId v w hkeys rfl).1.trans hu, Store.bindId_of_recordId? hrecord hid⟩
  planned q terms h target htype := by
    rw [(Store.gives_planned target q w hkeys rfl).1,
      (Store.gives_planned target { q with terms := terms } w hkeys rfl).1]
    exact (agree_plainTerms hT h).bind_eq fun as bs hab =>
      Query.compile_congr (q := { q with terms := as }) htype hab _
  answered q terms h index := by
    rw [Store.query_eq_of_derives hkeys, Store.query_eq_of_derives hkeys, hS]
    exact (agree_plainTerms hT h).bind_eq fun as bs hab =>
      Database.queryIndex_related (q := { q with terms := as }) hab index
  foreign ix hix q key text hvalid hother htext h := by
    obtain ⟨t, ht, hfield, hmem⟩ := h
    exact query_foreign hkeys hS hn hix hvalid hother htext ht hfield hmem

end

open Deployment

/-- In every run of stores on one database, a published schema gives every store one to answer queries
with, which is the published one unless another store has replaced that behind its back, and the store
makes no difference between the spellings of a record number. -/
theorem spellings_interchangeable (s : Store) (durable : Bool) (stores : Nat) (events : List Event)
    (hfair : ∀ e ∈ events, e.Fair durable) (i : Nat) {T : String} {n : UInt32} {S : Schema}
    (hp : Published (((opened s durable stores).undergo events).2.workspace i).database T n S) :
    let w := ((opened s durable stores).undergo events).2.workspace i
    ∃ S', (Store.requireSchema T w).1 = .ok S' ∧ (Faithful s w → S' = S) ∧
      InterchangesIds s w T S' := by
  intro w
  -- the name of a type with a schema has no colon and no mark, so its keys can be written and read
  have hnamed : SchemasNamed ((opened s durable stores).undergo events).2.database :=
    undergo_induct (fun d _ h he => after_induct (keptBy_schemasNamed d.store Formed) h he)
      (fun _ hrow => nomatch hrow) hfair
  have hkeys : s.codec.Derives w.session.keys := derives_undergo s stores hfair i
  obtain ⟨S', hS'⟩ := Store.exists_requireSchema hp
  refine ⟨S', hS', fun hfaithful => ?_,
    interchangesIds hkeys (hnamed.of_published hp) hS' hp.requireTypeId⟩
  exact Except.ok.inj (hS'.symm.trans (hfaithful.requireSchema_of_published hp))

/-- A member is created and then the schema published, both by the first of the stores. -/
def memberEvents : List Event :=
  [.perform 0 (.create "member" memberRecord), .perform 0 (.createSchema "member" memberSchema)]

/-- The query for the records with one of some numbers. -/
def numbersQuery (numbers : List FieldValue) : Query :=
  ⟨[⟨idAttribute, .within, .list numbers⟩], .ascending, none, none, false⟩

theorem spellings_interchangeable_member :
    let w := ((opened memberStore true 2).undergo memberEvents).2.workspace 1
    Published w.database "member" 1 memberSchema ∧
      (∃ S, (Store.requireSchema "member" w).1 = .ok S ∧ (Faithful memberStore w → S = memberSchema) ∧
        InterchangesIds memberStore w "member" S) ∧
      (memberStore.query "member" "by_age" (numbersQuery [.text "member:01", .text "001"]) w).1 =
        (memberStore.query "member" "by_age" (numbersQuery [.uint 1, .int 1]) w).1 := by
  intro w
  have hfair : ∀ e ∈ memberEvents, e.Fair true := by
    refine List.forall_mem_cons.2 ⟨?_, List.forall_mem_singleton.2 trivial⟩
    rintro r ⟨⟩
    exact ⟨trivial, by decide, trivial, by decide, trivial⟩
  -- stated for any two operations, so that nothing of them is computed
  have hdatabase (o o' : Operation) :
      (((opened memberStore true 2).undergo [.perform 0 o, .perform 0 o']).2.workspace 1).database =
        (memberStore.perform o' (memberStore.perform o ⟨.empty, .fresh⟩).2).2.database := rfl
  have hp : Published w.database "member" 1 memberSchema := by
    have hpublished := published_memberSchema
    rw [memberWorkspace, earlyWorkspace, ← hdatabase] at hpublished
    exact hpublished
  have hagree := spellings_interchangeable memberStore true 2 memberEvents hfair 1 hp
  refine ⟨hp, hagree, ?_⟩
  obtain ⟨S, -, -, hinterchanges⟩ := hagree
  have hkey : memberStore.SameId "member" (.text "member:01") (.uint 1) :=
    .spelled (by decide) (.key (.plain 1)) .unsigned
  have hdigits : memberStore.SameId "member" (.text "001") (.int 1) :=
    .spelled (by decide) (.decimal 2 : memberStore.Spells "member" 1 _) (.signed rfl)
  exact hinterchanges.answered _ _ (.cons (.list (.cons hkey (.cons hdigits .nil))) .nil) "by_age"

end RecordStore

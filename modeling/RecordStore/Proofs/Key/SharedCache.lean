import Mathlib
import RecordStore.Proofs.Key.Cache
import RecordStore.Proofs.Key.RoundTrip

/-!
A cache that several codecs fill.  A call asks for the key of a type only when nothing is left to refuse,
and the first call that asks settles the key for good.  What the cache holds is thus known from the
calls alone: one key for each type that was asked for, derived by the codec that asked first.  Codecs with
one secret derive the same keys, and their replies do not show whose calls filled the cache.
-/
namespace RecordStore.KeyCodec
open Crypto

/-! ### The first to need a key -/

/-- A history in which a codec makes the first call that needs the key of a type. -/
inductive FirstNeeds (typeName : String) (first : KeyCodec) : List (KeyCodec × Call) → Prop
  | here {call : Call} (later : List (KeyCodec × Call)) : call.Needs typeName →
    FirstNeeds typeName first ((first, call) :: later)
  | after {p : KeyCodec × Call} {later : List (KeyCodec × Call)} : ¬ p.2.Needs typeName →
    FirstNeeds typeName first later → FirstNeeds typeName first (p :: later)

/-- Codecs that differ in nothing but the initial vector. -/
structure SameSecret (c d : KeyCodec) : Prop where
  password : c.password = d.password
  salt : c.salt = d.salt
  iterations : c.iterations = d.iterations

section
variable {c d : KeyCodec} {cache : KeyCache} {call : Call} {typeName : String}
  {history : List (KeyCodec × Call)} {k : Des.TripleKey}

theorem FirstNeeds.unique (h : FirstNeeds typeName c history) (h' : FirstNeeds typeName d history) :
    c = d := by
  induction h with
  | here later hneeds =>
    cases h' with
    | here => rfl
    | after hnot => exact absurd hneeds hnot
  | after hnot _ ih =>
    cases h' with
    | here _ hneeds => exact absurd hneeds hnot
    | after _ h' => exact ih h'

theorem exists_firstNeeds {p : KeyCodec × Call} (hp : p ∈ history) (h : p.2.Needs typeName) :
    ∃ first, FirstNeeds typeName first history := by
  induction history with
  | nil => cases hp
  | cons q history ih =>
    by_cases hq : q.2.Needs typeName
    · exact ⟨q.1, .here history hq⟩
    · have hp' : p ∈ history := by
        rcases List.mem_cons.1 hp with rfl | hp
        · exact absurd h hq
        · exact hp
      obtain ⟨first, hfirst⟩ := ih hp'
      exact ⟨first, .after hq hfirst⟩

theorem FirstNeeds.exists_needs (h : FirstNeeds typeName c history) :
    ∃ p ∈ history, p.2.Needs typeName := by
  induction h with
  | here later hneeds => exact ⟨_, List.mem_cons_self, hneeds⟩
  | after _ _ ih =>
    obtain ⟨p, hp, hneeds⟩ := ih
    exact ⟨p, List.mem_cons_of_mem _ hp, hneeds⟩

/-! ### One call -/

theorem lookup_reply_of_needs (h : call.Needs typeName) (hnone : cache.lookup typeName = none) :
    (c.reply call cache).2.lookup typeName = some (c.derive typeName) := by
  have hkey : (c.keyFor typeName cache).1 = c.derive typeName := by
    rw [keyFor, hnone]
  rw [(h.answers c cache).2, c.lookup_keyFor typeName cache, hkey]

theorem lookup_reply_of_not_needs (h : ¬ call.Needs typeName) :
    (c.reply call cache).2.lookup typeName = cache.lookup typeName := by
  by_cases hany : ∃ other, call.Needs other
  · obtain ⟨other, hother⟩ := hany
    have hne : typeName ≠ other := by
      intro he
      rw [he] at h
      exact h hother
    rw [(hother.answers c cache).2, lookup_keyFor_of_ne c hne]
  · rw [reply_of_not_needs (not_exists.1 hany)]

/-! ### The cache after a history -/

/-- A key that was not there before is the one that the first codec to need it derives. -/
theorem lookup_cacheAfter_iff (hnone : cache.lookup typeName = none) :
    (cacheAfter history cache).lookup typeName = some k ↔
      ∃ first, FirstNeeds typeName first history ∧ k = first.derive typeName := by
  induction history generalizing cache with
  | nil =>
    rw [cacheAfter, hnone]
    constructor
    · intro h
      cases h
    · rintro ⟨first, h, -⟩
      cases h
  | cons p history ih =>
    obtain ⟨c, call⟩ := p
    by_cases hneeds : call.Needs typeName
    · have hsettled := lookup_cacheAfter history (lookup_reply_of_needs (c := c) hneeds hnone)
      rw [cacheAfter, hsettled]
      constructor
      · intro h
        exact ⟨c, .here history hneeds, (Option.some.inj h).symm⟩
      · rintro ⟨first, hfirst, rfl⟩
        rw [hfirst.unique (.here history hneeds)]
    · have hstill : (c.reply call cache).2.lookup typeName = none :=
        (lookup_reply_of_not_needs hneeds).trans hnone
      rw [cacheAfter, ih hstill]
      constructor
      · rintro ⟨first, hfirst, hk⟩
        exact ⟨first, .after hneeds hfirst, hk⟩
      · rintro ⟨first, hfirst, hk⟩
        cases hfirst with
        | here _ h => exact absurd h hneeds
        | after _ hfirst => exact ⟨first, hfirst, hk⟩

theorem cacheAfter_eq_of_getElem? {i : Nat} (h : history[i]? = some (c, call)) (cache : KeyCache) :
    cacheAfter history cache =
      cacheAfter (history.drop (i + 1)) (c.reply call (cacheAt history cache i)).2 := by
  obtain ⟨hi, hcall⟩ := List.getElem?_eq_some_iff.1 h
  have hsplit : history = history.take i ++ (c, call) :: history.drop (i + 1) := by
    rw [← hcall, ← List.drop_eq_getElem_cons hi, List.take_append_drop]
  calc cacheAfter history cache
      = cacheAfter (history.take i ++ (c, call) :: history.drop (i + 1)) cache := by rw [← hsplit]
    _ = cacheAfter ((c, call) :: history.drop (i + 1)) (cacheAt history cache i) :=
      cacheAfter_append _ _ _
    _ = cacheAfter (history.drop (i + 1)) (c.reply call (cacheAt history cache i)).2 := rfl

/-- Every call that needs a key has the one that the first such call made. -/
theorem keyFor_cacheAt_eq_derive {i : Nat} (hcall : history[i]? = some (c, call))
    (hneeds : call.Needs typeName) : ∃ first, FirstNeeds typeName first history ∧
      (c.keyFor typeName (cacheAt history [] i)).1 = first.derive typeName := by
  -- the key is in the cache after the call, and so it is the one in the cache in the end
  have hafter : (cacheAfter history []).lookup typeName =
      some (c.keyFor typeName (cacheAt history [] i)).1 := by
    rw [cacheAfter_eq_of_getElem? hcall, (hneeds.answers c _).2]
    apply lookup_cacheAfter
    exact c.lookup_keyFor typeName _
  exact (lookup_cacheAfter_iff rfl).1 hafter

/-! ### The size of the cache -/

theorem mem_keys_iff : typeName ∈ cache.map Prod.fst ↔ ∃ k, cache.lookup typeName = some k := by
  rw [← Option.isSome_iff_exists, List.lookup_isSome_iff, List.mem_map]
  constructor
  · rintro ⟨p, hp, rfl⟩
    exact ⟨p, hp, beq_self_eq_true p.1⟩
  · rintro ⟨p, hp, he⟩
    exact ⟨p, hp, (eq_of_beq he).symm⟩

theorem nodup_keys_reply (h : (cache.map Prod.fst).Nodup) (c : KeyCodec) (call : Call) :
    ((c.reply call cache).2.map Prod.fst).Nodup := by
  by_cases hany : ∃ typeName, call.Needs typeName
  · obtain ⟨typeName, hneeds⟩ := hany
    rw [(hneeds.answers c cache).2, keyFor]
    split
    · exact h
    · next hnone =>
      rw [List.map_cons, List.nodup_cons]
      refine ⟨?_, h⟩
      intro hmem
      obtain ⟨k, hk⟩ := mem_keys_iff.1 hmem
      rw [hk] at hnone
      cases hnone
  · rwa [reply_of_not_needs (not_exists.1 hany)]

theorem nodup_keys_cacheAfter (history : List (KeyCodec × Call)) (h : (cache.map Prod.fst).Nodup) :
    ((cacheAfter history cache).map Prod.fst).Nodup := by
  induction history generalizing cache with
  | nil => exact h
  | cons p history ih => exact ih (nodup_keys_reply h p.1 p.2)

/-- The cache has as many keys as there are types that a call needed a key for. -/
theorem length_cacheAfter (history : List (KeyCodec × Call)) :
    (cacheAfter history []).length = {typeName | ∃ p ∈ history, p.2.Needs typeName}.ncard := by
  let keys := (cacheAfter history []).map Prod.fst
  have hnodup : keys.Nodup := nodup_keys_cacheAfter history List.nodup_nil
  have hkeys : {typeName | ∃ p ∈ history, p.2.Needs typeName} = (keys.toFinset : Set String) := by
    ext typeName
    rw [Finset.mem_coe, List.mem_toFinset, mem_keys_iff]
    constructor
    · rintro ⟨p, hp, hneeds⟩
      obtain ⟨first, hfirst⟩ := exists_firstNeeds hp hneeds
      exact ⟨first.derive typeName, (lookup_cacheAfter_iff rfl).2 ⟨first, hfirst, rfl⟩⟩
    · rintro ⟨k, hk⟩
      obtain ⟨first, hfirst, -⟩ := (lookup_cacheAfter_iff rfl).1 hk
      exact hfirst.exists_needs
  calc (cacheAfter history []).length
      = keys.length := (List.length_map Prod.fst).symm
    _ = keys.toFinset.card := (List.toFinset_card_of_nodup hnodup).symm
    _ = (keys.toFinset : Set String).ncard := (Set.ncard_coe_finset _).symm
    _ = {typeName | ∃ p ∈ history, p.2.Needs typeName}.ncard := by rw [hkeys]

/-! ### Codecs with one secret -/

theorem SameSecret.derive_eq (h : c.SameSecret d) : c.derive = d.derive := by
  funext typeName
  rw [derive, derive, h.password, h.salt, h.iterations]

theorem Derives.congr (hc : c.Derives cache) (h : c.SameSecret d) : d.Derives cache := by
  intro typeName k hk
  rw [← h.derive_eq]
  exact hc typeName k hk

/-- A codec replies as it does without a cache, and leaves a cache of the same kind. -/
theorem Derives.reply (hc : c.Derives cache) (call : Call) :
    (c.reply call cache).1 = (c.reply call []).1 ∧ c.Derives (c.reply call cache).2 := by
  cases call with
  | encode key =>
    obtain ⟨hresult, hcache⟩ := hc.encode key
    exact ⟨congrArg Reply.text hresult, hcache⟩
  | decode text =>
    obtain ⟨hresult, hcache⟩ := hc.decode text
    exact ⟨congrArg Reply.key hresult, hcache⟩

theorem Derives.cacheAfter (hc : c.Derives cache) (h : ∀ p ∈ history, c.SameSecret p.1) :
    c.Derives (cacheAfter history cache) := by
  induction history generalizing cache with
  | nil => exact hc
  | cons p history ih =>
    have hp := h p List.mem_cons_self
    have hback : p.1.SameSecret c := ⟨hp.password.symm, hp.salt.symm, hp.iterations.symm⟩
    apply ih
    · exact (((hc.congr hp).reply p.2).2).congr hback
    · intro q hq
      exact h q (List.mem_cons_of_mem p hq)

end

/-! ### The whole of it -/

/-- A cache that starts empty and is filled by any calls of any codecs.  It holds the key of a type as soon
as a call needs it, which is the one that the codec of the first such call derives, and nothing else;
every call that needs the key is answered with that one.  When all codecs have one secret, a reply is also
what the codec gives with a cache that has seen only some of the earlier calls, such as its own or none. -/
theorem cache_follows_calls (history : List (KeyCodec × Call)) :
    (∀ i typeName k, (cacheAt history [] i).lookup typeName = some k ↔
      ∃ first, FirstNeeds typeName first (history.take i) ∧ k = first.derive typeName) ∧
    (∀ i, (cacheAt history [] i).length =
      {typeName | ∃ p ∈ history.take i, p.2.Needs typeName}.ncard) ∧
    (∀ (i : Nat) c call typeName, history[i]? = some (c, call) → call.Needs typeName →
      ∃ first, FirstNeeds typeName first history ∧
        ∃ r, (replies history [])[i]? = some r ∧ c.AnswersWith (first.derive typeName) call r) ∧
    ((∀ p ∈ history, ∀ q ∈ history, p.1.SameSecret q.1) →
      ∀ (i : Nat) c call, history[i]? = some (c, call) → ∀ own, own.Sublist (history.take i) →
        (replies history [])[i]? = some (c.reply call (cacheAfter own [])).1) := by
  refine ⟨fun i typeName k => lookup_cacheAfter_iff rfl, fun i => length_cacheAfter _, ?_, ?_⟩
  · intro i c call typeName hcall hneeds
    obtain ⟨first, hfirst, hkey⟩ := keyFor_cacheAt_eq_derive hcall hneeds
    refine ⟨first, hfirst, _, getElem?_replies hcall, ?_⟩
    rw [← hkey]
    exact (hneeds.answers c _).1
  · intro hsame i c call hcall own hown
    have hderives (calls : List (KeyCodec × Call)) (h : calls.Sublist history) :
        c.Derives (cacheAfter calls []) := by
      apply (Derives.nil c).cacheAfter
      intro p hp
      exact hsame _ (List.mem_of_getElem? hcall) p (h.subset hp)
    have hshared := ((hderives _ (List.take_sublist i history)).reply call).1
    have halone := ((hderives own (hown.trans (List.take_sublist i history))).reply call).1
    rw [getElem?_replies hcall, hshared, halone]

/-- The first codec with another initial vector. -/
def turnedCodec : KeyCodec := { firstCodec with iv := 0xfedcba9876543210 }

/-- A key that cannot be encoded, a text that nobody has written, and a key of the type in that text. -/
def strayHistory : List (KeyCodec × Call) :=
  [(secondCodec, .encode ⟨"", 1⟩), (firstCodec, .decode "@user:0123456789abcdef"),
    (secondCodec, .encode ⟨"user", 7⟩)]

/-- Two codecs with one secret encode the same key. -/
def turnedHistory : List (KeyCodec × Call) :=
  [(firstCodec, .encode ⟨"user", 7⟩), (turnedCodec, .encode ⟨"user", 7⟩)]

/-- The second codec writes with the key that the first one derived, and a codec with the secret of the
first replies as if it were alone. -/
theorem cache_follows_calls_user :
    (strayHistory[2]? = some (secondCodec, .encode ⟨"user", 7⟩) ∧
      Call.Needs (.encode ⟨"user", 7⟩) "user" ∧
      (replies strayHistory [])[2]? =
        some (.text (.ok (opaqueText "user" (secondCodec.encryptId (firstCodec.derive "user") 7))))) ∧
    ((∀ p ∈ turnedHistory, ∀ q ∈ turnedHistory, p.1.SameSecret q.1) ∧
      (replies turnedHistory [])[1]? = some (turnedCodec.reply (.encode ⟨"user", 7⟩) []).1) := by
  have huser : (⟨"user", 7⟩ : Key).Encodable := by decide
  have hneeds : Call.Needs (.encode ⟨"user", 7⟩) "user" := .encode huser
  constructor
  · refine ⟨rfl, hneeds, ?_⟩
    obtain ⟨first, hfirst, r, hr, hanswer⟩ :=
      (cache_follows_calls strayHistory).2.2.1 2 secondCodec _ "user" rfl hneeds
    have htext : opaqueText "user" 0x0123456789abcdef = "@user:0123456789abcdef" := by decide
    have hstray : FirstNeeds "user" firstCodec strayHistory := by
      apply FirstNeeds.after
      · intro hempty
        exact hempty.encodable.1 rfl
      · apply FirstNeeds.here
        rw [← htext]
        exact .decode _ (by decide) (by decide)
    rw [hfirst.unique hstray] at hanswer
    cases hanswer with
    | encode => exact hr
  · have hsame : ∀ p ∈ turnedHistory, ∀ q ∈ turnedHistory, p.1.SameSecret q.1 := by
      intro p hp q hq
      simp only [turnedHistory, List.mem_cons, List.not_mem_nil, or_false] at hp hq
      rcases hp with rfl | rfl <;> rcases hq with rfl | rfl <;> exact ⟨rfl, rfl, rfl⟩
    refine ⟨hsame, ?_⟩
    exact (cache_follows_calls turnedHistory).2.2.2 hsame 1 turnedCodec _ rfl [] (List.nil_sublist _)

end RecordStore.KeyCodec

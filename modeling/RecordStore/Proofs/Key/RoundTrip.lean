import Mathlib
import RecordStore.KeyCodec
import RecordStore.Proofs.Text.Decimal
import RecordStore.Proofs.Text.Hex

/-!
Opaque texts and the keys they stand for.  Codecs that share a cache may run with each other's keys,
and a text still comes back as the key that it was made of: a key in the cache stays as it is, so that
one type has one key from the first call on.

`opaque_round_trip` says this of every history of calls.  `encode_decode` is the other direction, that
a text which is read is the one that is written, and it has an exception in the names that start with
the mark of opaque texts.
-/
namespace RecordStore

/-! ### The parts of a text -/

/-- Whether a key has an opaque text: its type has a name, and neither the separator nor, in front, the
mark stands in it. -/
def Key.Encodable (key : Key) : Prop :=
  key.typeName ≠ "" ∧ ':' ∉ key.typeName.toList ∧ key.typeName.toList.head? ≠ some '@'

instance (key : Key) : Decidable key.Encodable :=
  inferInstanceAs (Decidable (_ ∧ _ ∧ _))

theorem bne_of_notMem {sep : Char} {front : List Char} (h : sep ∉ front) :
    ∀ c ∈ front, (c != sep) = true :=
  fun _ hc => bne_iff_ne.2 (ne_of_mem_of_not_mem hc h)

theorem takeWhile_append_of_notMem {sep : Char} {front : List Char} (h : sep ∉ front)
    (rest : List Char) : (front ++ sep :: rest).takeWhile (· != sep) = front := by
  rw [List.takeWhile_append_of_pos (bne_of_notMem h), List.takeWhile_cons_of_neg (by simp),
    List.append_nil]

theorem dropWhile_append_of_notMem {sep : Char} {front : List Char} (h : sep ∉ front)
    (rest : List Char) : (front ++ sep :: rest).dropWhile (· != sep) = sep :: rest := by
  rw [List.dropWhile_append_of_pos (bne_of_notMem h), List.dropWhile_cons_of_neg (by simp)]

theorem Key.splitAtLast_append {sep : Char} {back : List Char} (h : sep ∉ back) (front : List Char) :
    Key.splitAtLast sep (front ++ sep :: back) = some (front, back) := by
  have hback : sep ∉ back.reverse := by simpa using h
  have hreverse : (front ++ sep :: back).reverse = back.reverse ++ sep :: front.reverse := by simp
  rw [Key.splitAtLast, hreverse, dropWhile_append_of_notMem hback, takeWhile_append_of_notMem hback]
  simp

/-- No separator stands in the digits of a number. -/
theorem notMem_of_natural? {digits : List Char} {n : Nat} (h : Text.natural? digits = some n) :
    ':' ∉ digits :=
  fun hmem => absurd (Text.isDigit_of_natural? h ':' hmem) (by decide)

/-- A key is read whatever the digits of its number look like. -/
theorem Key.parse?_of_digits {key : Key} (hne : key.typeName ≠ "")
    (hmark : key.typeName.toList.head? ≠ some '@') {digits : List Char}
    (hdigits : Text.natural? digits = some key.id.toNat) :
    Key.parse? (key.typeName ++ ":" ++ String.ofList digits) = some key := by
  have hlist : (key.typeName ++ ":" ++ String.ofList digits).toList =
      key.typeName.toList ++ ':' :: digits := by simp
  have hnil : key.typeName.toList ≠ [] := by simpa using hne
  have hhead : (key.typeName.toList ++ ':' :: digits).head? ≠ some '@' := by
    rw [List.head?_append_of_ne_nil _ hnil]
    exact hmark
  have hid : key.id.toNat < 0x10000000000000000 := key.id.toNat_lt
  rw [Key.parse?, hlist, if_neg hhead, Key.splitAtLast_append (notMem_of_natural? hdigits)]
  simp only [hdigits, if_pos (And.intro hnil hid), String.ofList_toList, UInt64.ofNat_toNat]

namespace KeyCodec
variable {c : KeyCodec} {cache : KeyCache}

/-- The opaque text of a type name and a block. -/
def opaqueText (typeName : String) (block : BitVec 64) : String :=
  "@" ++ typeName ++ ":" ++ String.ofList (Text.lowerHex blockDigits block.toNat)

theorem toList_opaqueText (typeName : String) (block : BitVec 64) :
    (opaqueText typeName block).toList =
      '@' :: (typeName.toList ++ ':' :: Text.lowerHex blockDigits block.toNat) := by
  simp [opaqueText]

theorem encodable_iff (key : Key) : encodable key.typeName = true ↔ key.Encodable := by
  simp [encodable, Key.Encodable, and_assoc]

theorem toNat_lt_blockDigits (block : BitVec 64) : block.toNat < 16 ^ blockDigits := block.isLt

theorem opaqueParts?_append {typeName : String} (hne : typeName ≠ "") (hsep : ':' ∉ typeName.toList)
    (block : BitVec 64) :
    opaqueParts? (typeName.toList ++ ':' :: Text.lowerHex blockDigits block.toNat) =
      some (typeName, block) := by
  have hnil : typeName.toList ≠ [] := by simpa using hne
  rw [opaqueParts?, dropWhile_append_of_notMem hsep, takeWhile_append_of_notMem hsep]
  simp only [if_neg hnil, Text.ofLowerHex?_lowerHex (toNat_lt_blockDigits block), Option.map_some,
    String.ofList_toList, BitVec.ofNat_toNat, BitVec.setWidth_eq]

theorem eq_append_of_opaqueParts? {body : List Char} {typeName : String} {block : BitVec 64}
    (h : opaqueParts? body = some (typeName, block)) :
    typeName ≠ "" ∧ ':' ∉ typeName.toList ∧
      body = typeName.toList ++ ':' :: Text.lowerHex blockDigits block.toNat := by
  have hsplit := List.takeWhile_append_dropWhile (p := (· != ':')) (l := body)
  have hfree : ':' ∉ body.takeWhile (· != ':') := by
    intro hmem
    simpa using List.mem_takeWhile_imp hmem
  rw [opaqueParts?] at h
  split at h
  · cases h
  · next sep hex hdrop =>
    have hsep : sep = ':' := by
      have := List.head_dropWhile_not (· != ':') (l := body) (by simp [hdrop])
      simpa [hdrop] using this
    dsimp only at h
    split at h
    · cases h
    · next hname =>
      obtain ⟨n, hn, he⟩ := Option.map_eq_some_iff.1 h
      obtain ⟨rfl, rfl⟩ := Prod.mk.inj he
      obtain ⟨hlt, hhex⟩ := Text.lowerHex_of_ofLowerHex? hn
      have hblock : (BitVec.ofNat 64 n).toNat = n := by
        rw [BitVec.toNat_ofNat]
        exact Nat.mod_eq_of_lt hlt
      refine ⟨by simpa using hname, by simpa using hfree, ?_⟩
      rw [hblock, hhex, String.toList_ofList]
      rw [hdrop, hsep] at hsplit
      exact hsplit.symm

theorem opaqueText_injective {typeName other : String} {block block' : BitVec 64}
    (hsep : ':' ∉ typeName.toList) (hsep' : ':' ∉ other.toList)
    (h : opaqueText typeName block = opaqueText other block') :
    typeName = other ∧ block = block' := by
  have hlist := congrArg String.toList h
  rw [toList_opaqueText, toList_opaqueText, List.cons.injEq] at hlist
  have hname := congrArg (List.takeWhile (· != ':')) hlist.2
  have hhex := congrArg (List.dropWhile (· != ':')) hlist.2
  rw [takeWhile_append_of_notMem hsep, takeWhile_append_of_notMem hsep'] at hname
  rw [dropWhile_append_of_notMem hsep, dropWhile_append_of_notMem hsep', List.cons.injEq] at hhex
  have hblock := Text.lowerHex_injective (toNat_lt_blockDigits block) (toNat_lt_blockDigits block')
    hhex.2
  exact ⟨String.toList_injective hname, BitVec.eq_of_toNat_eq hblock⟩

/-! ### One call -/

theorem encode_of_encodable {key : Key} (h : key.Encodable) :
    c.encode key cache =
      (.ok (opaqueText key.typeName (c.encryptId (c.keyFor key.typeName cache).1 key.id)),
        (c.keyFor key.typeName cache).2) := by
  rw [encode, if_pos ((encodable_iff key).2 h)]
  rfl

theorem encode_of_not_encodable {key : Key} (h : ¬ key.Encodable) :
    c.encode key cache = (.error (.unencodableType key.typeName), cache) := by
  rw [encode, if_neg (by rwa [encodable_iff])]

theorem decode_opaqueText {typeName : String} (hne : typeName ≠ "") (hsep : ':' ∉ typeName.toList)
    (block : BitVec 64) :
    c.decode (opaqueText typeName block) cache =
      (.ok ⟨typeName, c.decryptId (c.keyFor typeName cache).1 block⟩,
        (c.keyFor typeName cache).2) := by
  have hcolon : (opaqueText typeName block).toList.contains ':' = true := by
    simp [toList_opaqueText]
  rw [decode, hcolon]
  simp only [Bool.not_true, Bool.false_eq_true, if_false, toList_opaqueText,
    opaqueParts?_append hne hsep]

theorem exists_block_of_decode {text : String} {key : Key} {cache' : KeyCache}
    (hmark : text.toList.head? = some '@') (h : c.decode text cache = (.ok key, cache')) :
    key.typeName ≠ "" ∧ ':' ∉ key.typeName.toList ∧
      ∃ block, text = opaqueText key.typeName block ∧
        key.id = c.decryptId (c.keyFor key.typeName cache).1 block ∧
        cache' = (c.keyFor key.typeName cache).2 := by
  obtain ⟨body, hbody⟩ := List.head?_eq_some_iff.1 hmark
  rw [decode] at h
  split at h
  · cases h
  · simp only [hbody] at h
    split at h
    · cases h
    · next typeName block hparts =>
      obtain ⟨hne, hsep, happend⟩ := eq_append_of_opaqueParts? hparts
      obtain ⟨hkey, rfl⟩ := Prod.mk.inj h
      obtain rfl := Except.ok.inj hkey
      refine ⟨hne, hsep, block, ?_, rfl, rfl⟩
      apply String.toList_injective
      rw [hbody, happend, toList_opaqueText]

/-- A codec leaves plain texts to their own reader, and makes no key for them. -/
theorem decode_of_unmarked (c : KeyCodec) (cache : KeyCache) {text : String}
    (hmark : text.toList.head? ≠ some '@') :
    c.decode text cache =
      (if ':' ∈ text.toList then Key.parse text else .error (.notKey text), cache) := by
  rw [decode]
  by_cases hcolon : ':' ∈ text.toList
  · have hcontains : text.toList.contains ':' = true := List.contains_iff_mem.2 hcolon
    rw [hcontains, if_pos hcolon]
    simp only [Bool.not_true, Bool.false_eq_true, if_false]
    split
    · next body hbody => exact absurd (by rw [hbody]; rfl) hmark
    · rfl
  · have hcontains : text.toList.contains ':' = false := by
      rwa [← Bool.not_eq_true, List.contains_iff_mem]
    rw [hcontains, if_neg hcolon]
    rfl

/-- The plain text of a key is read without the cache. -/
theorem decode_text {key : Key} (h : key.Encodable) : c.decode key.text cache = (.ok key, cache) := by
  obtain ⟨hne, -, hmark⟩ := h
  have hlist : key.text.toList = key.typeName.toList ++ ':' :: key.id.toNat.repr.toList := by
    simp [Key.text]
  have hhead : key.text.toList.head? ≠ some '@' := by
    rw [hlist, List.head?_append_of_ne_nil _ (by simpa using hne)]
    exact hmark
  have hparse : Key.parse? key.text = some key := by
    rw [Key.text, ← String.ofList_toList (s := key.id.toNat.repr)]
    exact Key.parse?_of_digits hne hmark (Text.natural?_repr _)
  have hcolon : ':' ∈ key.text.toList := by simp [hlist]
  rw [decode_of_unmarked c cache hhead, if_pos hcolon, Key.parse, hparse]

theorem keyFor_of_lookup {typeName : String} {k : Crypto.Des.TripleKey}
    (h : cache.lookup typeName = some k) : c.keyFor typeName cache = (k, cache) := by
  rw [keyFor, h]

theorem encryptId_injective {k : Crypto.Des.TripleKey} {id id' : UInt64}
    (h : c.encryptId k id = c.encryptId k id') : id = id' := by
  rw [← c.decryptId_encryptId k id, h, c.decryptId_encryptId]

/-! ### Histories of calls -/

/-- A call on a codec. -/
inductive Call
  | encode (key : Key)
  | decode (text : String)

/-- What a call gives back. -/
inductive Reply
  | text (result : Except Key.Fault String)
  | key (result : Except Key.Fault Key)
deriving DecidableEq

/-- The reply to a call, and the cache afterwards. -/
def reply (c : KeyCodec) : Call → KeyCache → Reply × KeyCache
  | .encode key, cache => (.text (c.encode key cache).1, (c.encode key cache).2)
  | .decode text, cache => (.key (c.decode text cache).1, (c.decode text cache).2)

/-! ### Calls that need a key -/

/-- A call needs the key of a type: its key can be encoded, or its text has the form of an opaque one. -/
inductive Call.Needs : Call → String → Prop
  | encode {key : Key} : key.Encodable → Needs (.encode key) key.typeName
  | decode {typeName : String} (block : BitVec 64) : typeName ≠ "" → ':' ∉ typeName.toList →
    Needs (.decode (opaqueText typeName block)) typeName

/-- What a codec replies when it has the key `k` for the type of a call. -/
inductive AnswersWith (c : KeyCodec) (k : Crypto.Des.TripleKey) : Call → Reply → Prop
  | encode (key : Key) : AnswersWith c k (.encode key)
    (.text (.ok (opaqueText key.typeName (c.encryptId k key.id))))
  | decode (typeName : String) (block : BitVec 64) : AnswersWith c k
    (.decode (opaqueText typeName block)) (.key (.ok ⟨typeName, c.decryptId k block⟩))

theorem Call.Needs.encodable {key : Key} {typeName : String} (h : Call.Needs (.encode key) typeName) :
    key.Encodable := by
  cases h with
  | encode hkey => exact hkey

/-- A call that needs a key is answered with the one in the cache, or else with a new one that is then
in the cache. -/
theorem Call.Needs.answers {call : Call} {typeName : String} (h : call.Needs typeName) (c : KeyCodec)
    (cache : KeyCache) :
    c.AnswersWith (c.keyFor typeName cache).1 call (c.reply call cache).1 ∧
      (c.reply call cache).2 = (c.keyFor typeName cache).2 := by
  cases h with
  | @encode key hkey =>
    rw [reply, encode_of_encodable hkey]
    exact ⟨.encode key, rfl⟩
  | decode block hne hsep =>
    rw [reply, decode_opaqueText hne hsep block]
    exact ⟨.decode typeName block, rfl⟩

/-- Whatever is refused, and every plain key, leaves the cache as it was. -/
theorem reply_of_not_needs {call : Call} (h : ∀ typeName, ¬ call.Needs typeName) (c : KeyCodec)
    (cache : KeyCache) : (c.reply call cache).2 = cache := by
  cases call with
  | encode key =>
    have hkey : ¬ key.Encodable := fun hkey => h key.typeName (.encode hkey)
    rw [reply, encode_of_not_encodable hkey]
  | decode text =>
    rw [reply, decode]
    split
    · rfl
    · split
      · next body hbody =>
        cases hparts : opaqueParts? body with
        | none => rfl
        | some p =>
          -- the parts of a text make it an opaque one, which needs the key of its type
          obtain ⟨hne, hsep, happend⟩ := eq_append_of_opaqueParts? hparts
          have htext : text = opaqueText p.1 p.2 := by
            apply String.toList_injective
            rw [hbody, happend, toList_opaqueText]
          subst htext
          exact absurd (.decode p.2 hne hsep) (h p.1)
      · rfl

/-! ### Runs of calls -/

/-- The replies of codecs that share a cache to one call after the other. -/
def replies : List (KeyCodec × Call) → KeyCache → List Reply
  | [], _ => []
  | (c, call) :: history, cache => (c.reply call cache).1 :: replies history (c.reply call cache).2

/-- The cache that a history leaves. -/
def cacheAfter : List (KeyCodec × Call) → KeyCache → KeyCache
  | [], cache => cache
  | (c, call) :: history, cache => cacheAfter history (c.reply call cache).2

theorem cacheAfter_append (history later : List (KeyCodec × Call)) (cache : KeyCache) :
    cacheAfter (history ++ later) cache = cacheAfter later (cacheAfter history cache) := by
  induction history generalizing cache with
  | nil => rfl
  | cons p history ih => exact ih _

/-- The cache at which the call number `i` of a history is made. -/
abbrev cacheAt (history : List (KeyCodec × Call)) (cache : KeyCache) (i : Nat) : KeyCache :=
  cacheAfter (history.take i) cache

theorem getElem?_replies {history : List (KeyCodec × Call)} {i : Nat} {call : Call}
    (h : history[i]? = some (c, call)) :
    (replies history cache)[i]? = some (c.reply call (cacheAt history cache i)).1 := by
  induction history generalizing cache i with
  | nil => simp at h
  | cons p history ih =>
    cases i with
    | zero =>
      obtain rfl : p = (c, call) := by simpa using h
      rfl
    | succ i => exact ih (by simpa using h)

/-- No call changes a key that is in the cache. -/
theorem lookup_reply {typeName : String} {k : Crypto.Des.TripleKey} (call : Call)
    (h : cache.lookup typeName = some k) : (c.reply call cache).2.lookup typeName = some k := by
  by_cases hany : ∃ other, call.Needs other
  · obtain ⟨other, hneeds⟩ := hany
    rw [(hneeds.answers c cache).2]
    exact lookup_keyFor_of_lookup c other h
  · rw [reply_of_not_needs (not_exists.1 hany)]
    exact h

theorem lookup_cacheAfter {typeName : String} {k : Crypto.Des.TripleKey}
    (history : List (KeyCodec × Call)) (h : cache.lookup typeName = some k) :
    (cacheAfter history cache).lookup typeName = some k := by
  induction history generalizing cache with
  | nil => exact h
  | cons p history ih => exact ih (lookup_reply p.2 h)

/-- From the call on that encodes a key, every codec uses one and the same key for its type. -/
theorem keyFor_cacheAt_of_lt {history : List (KeyCodec × Call)} {i j : Nat} {key : Key}
    (hkey : key.Encodable) (hcall : history[i]? = some (c, .encode key)) (hij : i < j)
    (c' : KeyCodec) :
    (c'.keyFor key.typeName (cacheAt history cache j)).1 =
      (c.keyFor key.typeName (cacheAt history cache i)).1 := by
  have hstep : cacheAt history cache (i + 1) =
      (c.keyFor key.typeName (cacheAt history cache i)).2 := by
    have htake : history.take (i + 1) = history.take i ++ [(c, .encode key)] := by
      rw [List.take_add_one, hcall]
      rfl
    rw [cacheAt, htake, cacheAfter_append]
    simp only [cacheAfter, reply, encode_of_encodable hkey]
  have hafter : (cacheAt history cache (i + 1)).lookup key.typeName =
      some (c.keyFor key.typeName (cacheAt history cache i)).1 := by
    rw [hstep]
    exact c.lookup_keyFor key.typeName _
  have hlater : cacheAt history cache j =
      cacheAfter ((history.take j).drop (i + 1)) (cacheAt history cache (i + 1)) := by
    have htake : history.take j = history.take (i + 1) ++ (history.take j).drop (i + 1) := by
      have hmin : (history.take j).take (i + 1) = history.take (i + 1) := by
        rw [List.take_take, Nat.min_eq_left hij]
      rw [← hmin, List.take_append_drop]
    rw [cacheAt, cacheAt, ← cacheAfter_append, ← htake]
  rw [hlater, keyFor_of_lookup (lookup_cacheAfter _ hafter)]

/-- Two calls that encode keys of one type use the same key, whichever comes first. -/
theorem keyFor_cacheAt_eq {history : List (KeyCodec × Call)} {i j : Nat} {key other : Key}
    (hkey : key.Encodable) (hcall : history[i]? = some (c, .encode key))
    (hother : other.Encodable) (hcall' : history[j]? = some (c, .encode other))
    (htype : other.typeName = key.typeName) :
    (c.keyFor key.typeName (cacheAt history cache j)).1 =
      (c.keyFor key.typeName (cacheAt history cache i)).1 := by
  rcases Nat.lt_trichotomy i j with hij | rfl | hji
  · exact keyFor_cacheAt_of_lt hkey hcall hij c
  · rfl
  · rw [← htype]
    exact (keyFor_cacheAt_of_lt hother hcall' hji c).symm

/-! ### The two directions -/

/-- The text of a key stands for it from the call that made the text on, whatever else the codecs of the
cache are asked meanwhile, and for no other key.  A plain text is read as the key it was made of too. -/
theorem opaque_round_trip (cache : KeyCache) (history : List (KeyCodec × Call)) (i : Nat)
    (c : KeyCodec) {key : Key} (hkey : key.Encodable) :
    (history[i]? = some (c, .encode key) →
      ∃ hex : List Char, hex.length = 16 ∧
        (∀ d ∈ hex, '0' ≤ d ∧ d ≤ '9' ∨ 'a' ≤ d ∧ d ≤ 'f') ∧
        let text := "@" ++ key.typeName ++ ":" ++ String.ofList hex
        (replies history cache)[i]? = some (.text (.ok text)) ∧
        (∀ j : Nat, i < j → history[j]? = some (c, .decode text) →
          (replies history cache)[j]? = some (.key (.ok key))) ∧
        ∀ (j : Nat) (other : Key), history[j]? = some (c, .encode other) →
          (replies history cache)[j]? = some (.text (.ok text)) → other = key) ∧
      (history[i]? = some (c, .decode key.text) →
        (replies history cache)[i]? = some (.key (.ok key))) := by
  obtain ⟨hne, hsep, -⟩ := id hkey
  constructor
  · intro hcall
    let k := (c.keyFor key.typeName (cacheAt history cache i)).1
    refine ⟨Text.lowerHex blockDigits (c.encryptId k key.id).toNat, Text.length_lowerHex _ _,
      fun d hd => Text.isLowerHex_of_mem_lowerHex hd, ?_, ?_, ?_⟩
    · rw [getElem?_replies hcall, reply, encode_of_encodable hkey]
      rfl
    · intro j hij hcall'
      have hdecode := @decode_opaqueText c (cacheAt history cache j) _ hne hsep (c.encryptId k key.id)
      rw [keyFor_cacheAt_of_lt hkey hcall hij, c.decryptId_encryptId] at hdecode
      rw [getElem?_replies hcall', reply]
      exact congrArg (fun r => some (Reply.key r)) (congrArg Prod.fst hdecode)
    · intro j other hcall' hreply
      rw [getElem?_replies hcall', reply] at hreply
      have hresult := Reply.text.inj (Option.some.inj hreply)
      by_cases hother : other.Encodable
      · rw [encode_of_encodable hother] at hresult
        obtain ⟨htype, hblock⟩ := opaqueText_injective hother.2.1 hsep (Except.ok.inj hresult)
        rw [htype, keyFor_cacheAt_eq hkey hcall hother hcall' htype] at hblock
        have hid := encryptId_injective hblock
        cases other
        cases key
        simp_all
      · rw [encode_of_not_encodable hother] at hresult
        cases hresult
  · intro hcall
    rw [getElem?_replies hcall, reply, decode_text hkey]

/-- A cache with a key for users that neither of the two codecs below derives. -/
def sharedCache : KeyCache :=
  [("user", ⟨0x0123456789abcdef, 0xfedcba9876543210, 0x89abcdef01234567⟩)]

def firstCodec : KeyCodec := ⟨"changeme", "asalt", 0x0123456789abcdef, 1024⟩

def secondCodec : KeyCodec := ⟨"another", "pepper", 0xfedcba9876543210, 1⟩

theorem encode_shared :
    secondCodec.encode ⟨"user", 7⟩ sharedCache = (.ok "@user:b7b3e66c2e1cd37c", sharedCache) := by
  decide +kernel

/-- Both codecs encode users, and the second one decodes its own text. -/
def sharedHistory : List (KeyCodec × Call) :=
  [(firstCodec, .encode ⟨"user", 5⟩), (secondCodec, .encode ⟨"user", 7⟩),
    (secondCodec, .decode "@user:b7b3e66c2e1cd37c")]

theorem opaque_round_trip_shared :
    (⟨"user", 7⟩ : Key).Encodable ∧
      (replies sharedHistory sharedCache)[1]? = some (.text (.ok "@user:b7b3e66c2e1cd37c")) ∧
      (replies sharedHistory sharedCache)[2]? = some (.key (.ok ⟨"user", 7⟩)) := by
  have hkey : (⟨"user", 7⟩ : Key).Encodable := by decide
  obtain ⟨hex, -, -, hencode, hdecode, -⟩ :=
    (opaque_round_trip sharedCache sharedHistory 1 secondCodec hkey).1 rfl
  have hreply : (replies sharedHistory sharedCache)[1]? =
      some (.text (.ok "@user:b7b3e66c2e1cd37c")) := by
    have hcall := @getElem?_replies secondCodec sharedCache sharedHistory 1 (.encode ⟨"user", 7⟩) rfl
    rw [hcall, reply]
    exact congrArg (fun r => some (Reply.text r)) (congrArg Prod.fst encode_shared)
  have htext := Except.ok.inj (Reply.text.inj (Option.some.inj (hencode.symm.trans hreply)))
  refine ⟨hkey, hreply, hdecode 2 (by decide) ?_⟩
  rw [htext]
  rfl

/-- A text that is read as an opaque text is the one that is written for its key at any later time,
unless the name of the type starts with the mark: such a name is read and never written. -/
theorem encode_decode (c : KeyCodec) (cache : KeyCache) (later : List (KeyCodec × Call))
    {text : String} (hmark : text.toList.head? = some '@') {key : Key}
    (h : (c.decode text cache).1 = .ok key) :
    (c.encode key (cacheAfter later (c.decode text cache).2)).1 =
      if key.typeName.toList.head? = some '@' then .error (.unencodableType key.typeName)
      else .ok text := by
  obtain ⟨hne, hsep, block, rfl, hid, hcache⟩ :=
    exists_block_of_decode hmark (Prod.ext h rfl : c.decode text cache = (.ok key, _))
  split
  · next hname => rw [encode_of_not_encodable fun hkey => hkey.2.2 hname]
  · next hname =>
    have hlookup := c.lookup_keyFor key.typeName cache
    rw [← hcache] at hlookup
    rw [encode_of_encodable ⟨hne, hsep, hname⟩,
      keyFor_of_lookup (lookup_cacheAfter later hlookup), hid, c.encryptId_decryptId]

theorem encode_decode_shared :
    "@user:b7b3e66c2e1cd37c".toList.head? = some '@' ∧
      (secondCodec.decode "@user:b7b3e66c2e1cd37c" sharedCache).1 = .ok ⟨"user", 7⟩ ∧
      (secondCodec.encode ⟨"user", 7⟩ (cacheAfter sharedHistory
        (secondCodec.decode "@user:b7b3e66c2e1cd37c" sharedCache).2)).1 =
          .ok "@user:b7b3e66c2e1cd37c" := by
  have hmark : "@user:b7b3e66c2e1cd37c".toList.head? = some '@' := by decide
  have hkey : (⟨"user", 7⟩ : Key).Encodable := by decide
  have htext := encode_shared
  rw [encode_of_encodable hkey] at htext
  have hdecode := @decode_opaqueText secondCodec sharedCache "user" (by decide) (by decide)
    (secondCodec.encryptId (secondCodec.keyFor "user" sharedCache).1 7)
  rw [Except.ok.inj (congrArg Prod.fst htext), secondCodec.decryptId_encryptId] at hdecode
  have hresult := congrArg Prod.fst hdecode
  exact ⟨hmark, hresult, encode_decode secondCodec sharedCache sharedHistory hmark hresult⟩

/-- The text of a name with a mark in front is read as a key that has no opaque text. -/
theorem decode_marked_name : ∃ id,
    (firstCodec.decode "@@a:0123456789abcdef" []).1 = .ok ⟨"@a", id⟩ ∧
      ∀ cache, (firstCodec.encode ⟨"@a", id⟩ cache).1 = .error (.unencodableType "@a") := by
  have htext : opaqueText "@a" 0x0123456789abcdef = "@@a:0123456789abcdef" := by decide
  have hdecode := @decode_opaqueText firstCodec [] "@a" (by decide) (by decide) 0x0123456789abcdef
  rw [htext] at hdecode
  refine ⟨_, congrArg Prod.fst hdecode, fun cache => ?_⟩
  rw [encode_of_not_encodable]
  exact fun hkey => hkey.2.2 rfl

end KeyCodec

end RecordStore

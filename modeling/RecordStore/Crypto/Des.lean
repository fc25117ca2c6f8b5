/-!
Triple DES on single blocks.  A block is split into halves that the rounds exchange, each time
adding a function of one half to the other.  `crypt_reverse_crypt` says that the same rounds with
the keys in the opposite order undo a run, whatever that function is, and `decrypt_encrypt` and
`encrypt_decrypt` say the same of the cipher.
-/
namespace RecordStore.Crypto.Des

/-- The bits of a word picked by a table, which counts them from one at the most significant bit. -/
def select {n : Nat} (m : Nat) (table : List Nat) (x : BitVec n) : BitVec m :=
  (BitVec.ofBoolListBE (table.map fun i => x.getMsbD (i - 1))).setWidth m

def initialTable : List Nat := [
  58, 50, 42, 34, 26, 18, 10, 2, 60, 52, 44, 36, 28, 20, 12, 4,
  62, 54, 46, 38, 30, 22, 14, 6, 64, 56, 48, 40, 32, 24, 16, 8,
  57, 49, 41, 33, 25, 17, 9, 1, 59, 51, 43, 35, 27, 19, 11, 3,
  61, 53, 45, 37, 29, 21, 13, 5, 63, 55, 47, 39, 31, 23, 15, 7]

def finalTable : List Nat := [
  40, 8, 48, 16, 56, 24, 64, 32, 39, 7, 47, 15, 55, 23, 63, 31,
  38, 6, 46, 14, 54, 22, 62, 30, 37, 5, 45, 13, 53, 21, 61, 29,
  36, 4, 44, 12, 52, 20, 60, 28, 35, 3, 43, 11, 51, 19, 59, 27,
  34, 2, 42, 10, 50, 18, 58, 26, 33, 1, 41, 9, 49, 17, 57, 25]

def expansionTable : List Nat := [
  32, 1, 2, 3, 4, 5, 4, 5, 6, 7, 8, 9, 8, 9, 10, 11, 12, 13, 12, 13, 14, 15, 16, 17,
  16, 17, 18, 19, 20, 21, 20, 21, 22, 23, 24, 25, 24, 25, 26, 27, 28, 29, 28, 29, 30, 31, 32, 1]

def roundTable : List Nat := [
  16, 7, 20, 21, 29, 12, 28, 17, 1, 15, 23, 26, 5, 18, 31, 10,
  2, 8, 24, 14, 32, 27, 3, 9, 19, 13, 30, 6, 22, 11, 4, 25]

def keyTable : List Nat := [
  57, 49, 41, 33, 25, 17, 9, 1, 58, 50, 42, 34, 26, 18,
  10, 2, 59, 51, 43, 35, 27, 19, 11, 3, 60, 52, 44, 36,
  63, 55, 47, 39, 31, 23, 15, 7, 62, 54, 46, 38, 30, 22,
  14, 6, 61, 53, 45, 37, 29, 21, 13, 5, 28, 20, 12, 4]

def subkeyTable : List Nat := [
  14, 17, 11, 24, 1, 5, 3, 28, 15, 6, 21, 10, 23, 19, 12, 4, 26, 8, 16, 7, 27, 20, 13, 2,
  41, 52, 31, 37, 47, 55, 30, 40, 51, 45, 33, 48, 44, 49, 39, 56, 34, 53, 46, 42, 50, 36, 29, 32]

/-- How far the halves of the key have turned in each round. -/
def rotations : List Nat := [1, 2, 4, 6, 8, 10, 12, 14, 15, 17, 19, 21, 23, 25, 27, 28]

/-- The eight substitutions of six bits by four, row by row. -/
def substitutions : List (List Nat) := [
  [14, 4, 13, 1, 2, 15, 11, 8, 3, 10, 6, 12, 5, 9, 0, 7,
   0, 15, 7, 4, 14, 2, 13, 1, 10, 6, 12, 11, 9, 5, 3, 8,
   4, 1, 14, 8, 13, 6, 2, 11, 15, 12, 9, 7, 3, 10, 5, 0,
   15, 12, 8, 2, 4, 9, 1, 7, 5, 11, 3, 14, 10, 0, 6, 13],
  [15, 1, 8, 14, 6, 11, 3, 4, 9, 7, 2, 13, 12, 0, 5, 10,
   3, 13, 4, 7, 15, 2, 8, 14, 12, 0, 1, 10, 6, 9, 11, 5,
   0, 14, 7, 11, 10, 4, 13, 1, 5, 8, 12, 6, 9, 3, 2, 15,
   13, 8, 10, 1, 3, 15, 4, 2, 11, 6, 7, 12, 0, 5, 14, 9],
  [10, 0, 9, 14, 6, 3, 15, 5, 1, 13, 12, 7, 11, 4, 2, 8,
   13, 7, 0, 9, 3, 4, 6, 10, 2, 8, 5, 14, 12, 11, 15, 1,
   13, 6, 4, 9, 8, 15, 3, 0, 11, 1, 2, 12, 5, 10, 14, 7,
   1, 10, 13, 0, 6, 9, 8, 7, 4, 15, 14, 3, 11, 5, 2, 12],
  [7, 13, 14, 3, 0, 6, 9, 10, 1, 2, 8, 5, 11, 12, 4, 15,
   13, 8, 11, 5, 6, 15, 0, 3, 4, 7, 2, 12, 1, 10, 14, 9,
   10, 6, 9, 0, 12, 11, 7, 13, 15, 1, 3, 14, 5, 2, 8, 4,
   3, 15, 0, 6, 10, 1, 13, 8, 9, 4, 5, 11, 12, 7, 2, 14],
  [2, 12, 4, 1, 7, 10, 11, 6, 8, 5, 3, 15, 13, 0, 14, 9,
   14, 11, 2, 12, 4, 7, 13, 1, 5, 0, 15, 10, 3, 9, 8, 6,
   4, 2, 1, 11, 10, 13, 7, 8, 15, 9, 12, 5, 6, 3, 0, 14,
   11, 8, 12, 7, 1, 14, 2, 13, 6, 15, 0, 9, 10, 4, 5, 3],
  [12, 1, 10, 15, 9, 2, 6, 8, 0, 13, 3, 4, 14, 7, 5, 11,
   10, 15, 4, 2, 7, 12, 9, 5, 6, 1, 13, 14, 0, 11, 3, 8,
   9, 14, 15, 5, 2, 8, 12, 3, 7, 0, 4, 10, 1, 13, 11, 6,
   4, 3, 2, 12, 9, 5, 15, 10, 11, 14, 1, 7, 6, 0, 8, 13],
  [4, 11, 2, 14, 15, 0, 8, 13, 3, 12, 9, 7, 5, 10, 6, 1,
   13, 0, 11, 7, 4, 9, 1, 10, 14, 3, 5, 12, 2, 15, 8, 6,
   1, 4, 11, 13, 12, 3, 7, 14, 10, 15, 6, 8, 0, 5, 9, 2,
   6, 11, 13, 8, 1, 4, 10, 7, 9, 5, 0, 15, 14, 2, 3, 12],
  [13, 2, 8, 4, 6, 15, 11, 1, 10, 9, 3, 14, 5, 0, 12, 7,
   1, 15, 13, 8, 10, 3, 7, 4, 12, 5, 6, 11, 0, 14, 9, 2,
   7, 11, 4, 1, 9, 12, 14, 2, 0, 6, 10, 13, 15, 3, 5, 8,
   2, 1, 14, 7, 4, 10, 8, 13, 15, 12, 9, 0, 3, 5, 6, 11]]

/-- The substitute of six bits: the outer two pick the row and the inner four the column. -/
def substitute (table : List Nat) (six : Nat) : Nat :=
  table.getD (16 * (six / 32 * 2 + six % 2) + six / 2 % 16) 0

/-- What a round adds to one half, from the other half and the key of the round. -/
def mixed (key : BitVec 48) (half : BitVec 32) : BitVec 32 :=
  let x := select 48 expansionTable half ^^^ key
  let s := substitutions.mapIdx fun i table => substitute table (x.toNat >>> (42 - 6 * i) % 64)
  select 32 roundTable (BitVec.ofNat 32 (s.foldl (fun n d => 16 * n + d) 0))

/-- The keys of the sixteen rounds. -/
def subkeys (key : BitVec 64) : List (BitVec 48) :=
  let k := select 56 keyTable key
  rotations.map fun r =>
    select 48 subkeyTable
      ((k.extractLsb' 28 28).rotateLeft r ++ (k.extractLsb' 0 28).rotateLeft r)

/-- One round on a pair of halves. -/
def round (h : BitVec 32 × BitVec 32) (key : BitVec 48) : BitVec 32 × BitVec 32 :=
  (h.2, h.1 ^^^ mixed key h.2)

/-- All rounds, and the halves exchanged. -/
def rounds (keys : List (BitVec 48)) (h : BitVec 32 × BitVec 32) : BitVec 32 × BitVec 32 :=
  (keys.foldl round h).swap

def halves (x : BitVec 64) : BitVec 32 × BitVec 32 :=
  (x.extractLsb' 32 32, x.extractLsb' 0 32)

def joined (h : BitVec 32 × BitVec 32) : BitVec 64 :=
  h.1 ++ h.2

/-- One block under the given round keys. -/
def crypt (keys : List (BitVec 48)) (x : BitVec 64) : BitVec 64 :=
  select 64 finalTable (joined (rounds keys (halves (select 64 initialTable x))))

/-- Three keys of 64 bits. -/
structure TripleKey where
  first : BitVec 64
  second : BitVec 64
  third : BitVec 64
deriving DecidableEq, Repr

/-- One block encrypted, decrypted and encrypted again, each time under another key. -/
def encrypt (k : TripleKey) (x : BitVec 64) : BitVec 64 :=
  crypt (subkeys k.third) (crypt (subkeys k.second).reverse (crypt (subkeys k.first) x))

def decrypt (k : TripleKey) (x : BitVec 64) : BitVec 64 :=
  crypt (subkeys k.first).reverse (crypt (subkeys k.second) (crypt (subkeys k.third).reverse x))

theorem round_swap_round (key : BitVec 48) (h : BitVec 32 × BitVec 32) :
    (round (round h key).swap key).swap = h := by
  obtain ⟨l, r⟩ := h
  change (l ^^^ mixed key r ^^^ mixed key r, r) = (l, r)
  rw [BitVec.xor_assoc, BitVec.xor_self, BitVec.xor_zero]

theorem rounds_reverse_rounds (keys : List (BitVec 48)) (h : BitVec 32 × BitVec 32) :
    rounds keys.reverse (rounds keys h) = h := by
  induction keys generalizing h with
  | nil => rfl
  | cons key keys ih =>
    have hi := ih (round h key)
    simp only [rounds] at hi
    have hu : keys.reverse.foldl round (keys.foldl round (round h key)).swap =
        (round h key).swap := by
      rw [← Prod.swap_swap (keys.reverse.foldl round _), hi]
    simp only [rounds, List.foldl_cons, List.reverse_cons, List.foldl_append, List.foldl_nil, hu]
    exact round_swap_round key h

theorem joined_halves (x : BitVec 64) : joined (halves x) = x := by
  apply BitVec.eq_of_getLsbD_eq
  intro i hi
  simp only [joined, halves, BitVec.getLsbD_append, BitVec.getLsbD_extractLsb']
  by_cases h : i < 32
  · simp [h]
  · have h1 : 32 + (i - 32) = i := by omega
    have h2 : i - 32 < 32 := by omega
    simp [h, h1, h2]

theorem halves_joined (h : BitVec 32 × BitVec 32) : halves (joined h) = h := by
  obtain ⟨l, r⟩ := h
  refine Prod.ext ?_ ?_ <;> apply BitVec.eq_of_getLsbD_eq <;> intro i hi <;>
    simp only [joined, halves, BitVec.getLsbD_extractLsb', BitVec.getLsbD_append] <;> simp [hi]

theorem getMsbD_select {n m i j : Nat} {table : List Nat} (x : BitVec n) (hm : table.length = m)
    (h : table[i]? = some j) : (select m table x).getMsbD i = x.getMsbD (j - 1) := by
  subst hm
  obtain ⟨hi, rfl⟩ := List.getElem?_eq_some_iff.1 h
  have he : (BitVec.ofBoolListBE (table.map fun i => x.getMsbD (i - 1))).setWidth table.length =
      (BitVec.ofBoolListBE (table.map fun i => x.getMsbD (i - 1))).cast (by simp) := by
    apply BitVec.eq_of_toNat_eq
    simp only [BitVec.toNat_setWidth, BitVec.toNat_cast]
    have hlt := (BitVec.ofBoolListBE (table.map fun i => x.getMsbD (i - 1))).isLt
    exact Nat.mod_eq_of_lt (Nat.lt_of_lt_of_eq hlt (congrArg (2 ^ ·) (List.length_map _)))
  rw [select, he, BitVec.getMsbD_cast, BitVec.getMsbD_ofBoolListBE]
  simp [hi]

private theorem select_select {f g : List Nat} (hf : f.length = 64) (hg : g.length = 64)
    (h : ∀ i < 64, g[f.getD i 0 - 1]? = some (i + 1)) (x : BitVec 64) :
    select 64 f (select 64 g x) = x := by
  apply BitVec.eq_of_getMsbD_eq
  intro i hi
  have hi' : f[i]? = some (f.getD i 0) := by
    rw [List.getD_eq_getElem?_getD, List.getElem?_eq_getElem (by omega), Option.getD_some]
  rw [getMsbD_select _ hf hi', getMsbD_select x hg (h i hi), Nat.add_sub_cancel]

theorem select_final_initial (x : BitVec 64) :
    select 64 finalTable (select 64 initialTable x) = x :=
  select_select rfl rfl (by decide) x

theorem select_initial_final (x : BitVec 64) :
    select 64 initialTable (select 64 finalTable x) = x :=
  select_select rfl rfl (by decide) x

theorem crypt_reverse_crypt (keys : List (BitVec 48)) (x : BitVec 64) :
    crypt keys.reverse (crypt keys x) = x := by
  rw [crypt, crypt, select_initial_final, halves_joined, rounds_reverse_rounds, joined_halves,
    select_final_initial]

theorem crypt_crypt_reverse (keys : List (BitVec 48)) (x : BitVec 64) :
    crypt keys (crypt keys.reverse x) = x := by
  simpa using crypt_reverse_crypt keys.reverse x

theorem decrypt_encrypt (k : TripleKey) (x : BitVec 64) : decrypt k (encrypt k x) = x := by
  simp only [decrypt, encrypt, crypt_reverse_crypt, crypt_crypt_reverse]

theorem encrypt_decrypt (k : TripleKey) (x : BitVec 64) : encrypt k (decrypt k x) = x := by
  simp only [decrypt, encrypt, crypt_reverse_crypt, crypt_crypt_reverse]

end RecordStore.Crypto.Des

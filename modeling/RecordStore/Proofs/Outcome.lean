import Mathlib

/-!
What it takes for a computation that may fail to give a result, lists that correspond item by item, and
results that agree.
-/
namespace RecordStore

variable {ε ε' α β : Type}

theorem bind_eq_ok {x : Except ε α} {f : α → Except ε β} {b : β} :
    x >>= f = .ok b ↔ ∃ a, x = .ok a ∧ f a = .ok b := by
  cases x with
  | error e => exact ⟨fun h => (by cases h), fun ⟨_, h, _⟩ => (by cases h)⟩
  | ok a => exact ⟨fun h => ⟨a, rfl, h⟩, fun ⟨_, h, h'⟩ => (by cases h; exact h')⟩

theorem bind_eq_error {x : Except ε α} {f : α → Except ε β} {e : ε} :
    x >>= f = .error e ↔ x = .error e ∨ ∃ a, x = .ok a ∧ f a = .error e := by
  cases x with
  | error e' =>
    constructor
    · intro h
      cases h
      exact .inl rfl
    · rintro (h | ⟨_, h, -⟩)
      · cases h
        rfl
      · cases h
  | ok a =>
    constructor
    · exact fun h => .inr ⟨a, rfl, h⟩
    · rintro (h | ⟨_, h, h'⟩)
      · cases h
      · cases h
        exact h'

theorem map_eq_ok {x : Except ε α} {f : α → β} {b : β} :
    x.map f = .ok b ↔ ∃ a, x = .ok a ∧ f a = b := by
  cases x with
  | error e => exact ⟨fun h => (by cases h), fun ⟨_, h, _⟩ => (by cases h)⟩
  | ok a =>
    exact ⟨fun h => ⟨a, rfl, Except.ok.inj h⟩, fun ⟨_, h, h'⟩ => (by cases h; rw [← h']; rfl)⟩

theorem mapError_eq_ok {x : Except ε α} {f : ε → ε'} {a : α} :
    x.mapError f = .ok a ↔ x = .ok a := by
  cases x with
  | error e => exact ⟨fun h => (by cases h), fun h => (by cases h)⟩
  | ok b => exact ⟨fun h => (by cases h; rfl), fun h => (by cases h; rfl)⟩

/-- A list of results comes from a result for each of the items. -/
theorem mapM_eq_ok {f : α → Except ε β} {xs : List α} {ys : List β} :
    xs.mapM f = .ok ys ↔ List.Forall₂ (fun x y => f x = .ok y) xs ys := by
  induction xs generalizing ys with
  | nil =>
    constructor
    · intro h
      obtain rfl : [] = ys := Except.ok.inj h
      exact .nil
    · intro h
      cases h
      rfl
  | cons x xs ih =>
    rw [List.mapM_cons, bind_eq_ok]
    constructor
    · rintro ⟨y, hy, h⟩
      obtain ⟨zs, hzs, h⟩ := bind_eq_ok.1 h
      obtain rfl : y :: zs = ys := Except.ok.inj h
      exact .cons hy (ih.1 hzs)
    · intro h
      cases h with
      | cons hy hys => exact ⟨_, hy, bind_eq_ok.2 ⟨_, ih.2 hys, rfl⟩⟩

/-- A list of results fails with the error of an item. -/
theorem exists_of_mapM_eq_error {f : α → Except ε β} {xs : List α} {e : ε}
    (h : xs.mapM f = .error e) : ∃ x ∈ xs, f x = .error e := by
  induction xs with
  | nil => cases h
  | cons x xs ih =>
    rw [List.mapM_cons] at h
    cases hx : f x with
    | error e' =>
      rw [hx] at h
      exact ⟨x, List.mem_cons_self, by rw [hx, Except.error.inj h]⟩
    | ok y =>
      rw [hx] at h
      cases hxs : xs.mapM f with
      | error e' =>
        rw [hxs] at h
        obtain ⟨z, hz, he⟩ := ih (by rw [hxs, Except.error.inj h])
        exact ⟨z, List.mem_cons_of_mem x hz, he⟩
      | ok ys => rw [hxs] at h; cases h

/-- A computation that fails with errors of some kind only. -/
def FailsOnly (P : ε → Prop) (r : Except ε α) : Prop :=
  ∀ e, r = .error e → P e

section
variable {P Q : ε → Prop}

theorem failsOnly_ok (a : α) : FailsOnly P (.ok a : Except ε α) :=
  fun _ h => by cases h

theorem failsOnly_error {e : ε} (he : P e) : FailsOnly P (.error e : Except ε α) :=
  fun _ h => Except.error.inj h ▸ he

theorem FailsOnly.imp {r : Except ε α} (h : FailsOnly P r) (hPQ : ∀ e, P e → Q e) :
    FailsOnly Q r :=
  fun e he => hPQ e (h e he)

theorem failsOnly_bind {x : Except ε α} {f : α → Except ε β} (hx : FailsOnly P x)
    (hf : ∀ a, x = .ok a → FailsOnly P (f a)) : FailsOnly P (x >>= f) := by
  intro e h
  rcases bind_eq_error.1 h with h | ⟨a, ha, h⟩
  · exact hx e h
  · exact hf a ha e h

theorem failsOnly_map {x : Except ε α} {f : α → β} (hx : FailsOnly P x) :
    FailsOnly P (x.map f) := by
  cases x with
  | error e => exact failsOnly_error (hx e rfl)
  | ok a => exact failsOnly_ok (f a)

theorem failsOnly_mapM {f : α → Except ε β} {xs : List α} (hf : ∀ x ∈ xs, FailsOnly P (f x)) :
    FailsOnly P (xs.mapM f) := by
  intro e h
  obtain ⟨x, hx, h⟩ := exists_of_mapM_eq_error h
  exact hf x hx e h

/-- What has no error to fail with gives a result. -/
theorem FailsOnly.exists_ok {r : Except ε α} (h : FailsOnly (fun _ => False) r) :
    ∃ a, r = .ok a := by
  cases r with
  | error e => exact (h e rfl).elim
  | ok a => exact ⟨a, rfl⟩

end

/-- Results that a function gives are the images of the items. -/
theorem eq_map_of_mapM_eq_ok {f : α → Except ε β} {g : α → β} {xs : List α} {ys : List β}
    (h : xs.mapM f = .ok ys) (hg : ∀ x y, f x = .ok y → y = g x) : ys = xs.map g := by
  have hall := mapM_eq_ok.1 h
  clear h
  induction hall with
  | nil => rfl
  | cons hx _ ih => rw [hg _ _ hx, ih, List.map_cons]

/-- What holds of all items holds of all results when it does so pair by pair. -/
theorem forall_mem_iff_of_forall₂ {R : α → β → Prop} {P : α → Prop} {Q : β → Prop} {xs : List α}
    {ys : List β} (h : List.Forall₂ R xs ys) (hiff : ∀ x ∈ xs, ∀ y, R x y → (P x ↔ Q y)) :
    (∀ x ∈ xs, P x) ↔ ∀ y ∈ ys, Q y := by
  induction h with
  | nil => simp
  | @cons x y xs ys hxy _ ih =>
    rw [List.forall_mem_cons, List.forall_mem_cons, hiff x List.mem_cons_self y hxy,
      ih fun x' hx' => hiff x' (List.mem_cons_of_mem x hx')]

theorem option_mapM_eq_some {f : α → Option β} {xs : List α} {ys : List β} :
    xs.mapM f = some ys ↔ List.Forall₂ (fun x y => f x = some y) xs ys := by
  induction xs generalizing ys with
  | nil =>
    constructor
    · intro h
      obtain rfl : [] = ys := Option.some.inj h
      exact .nil
    · intro h
      cases h
      rfl
  | cons x xs ih =>
    rw [List.mapM_cons, Option.bind_eq_bind, Option.bind_eq_some_iff]
    constructor
    · rintro ⟨y, hy, h⟩
      rw [Option.bind_eq_bind, Option.bind_eq_some_iff] at h
      obtain ⟨zs, hzs, h⟩ := h
      obtain rfl : y :: zs = ys := Option.some.inj h
      exact .cons hy (ih.1 hzs)
    · intro h
      cases h with
      | cons hy hys =>
        refine ⟨_, hy, ?_⟩
        rw [Option.bind_eq_bind, Option.bind_eq_some_iff]
        exact ⟨_, ih.2 hys, rfl⟩

/-- A change that fixes all items of some kind, and makes no others into such, is not seen among them. -/
theorem filter_map_of_fixed {p : α → Bool} {f : α → α} (hkind : ∀ x, p (f x) = p x)
    (hfixed : ∀ x, p x = true → f x = x) (xs : List α) : (xs.map f).filter p = xs.filter p := by
  induction xs with
  | nil => rfl
  | cons x xs ih =>
    rw [List.map_cons, List.filter_cons, List.filter_cons, hkind, ih]
    by_cases h : p x = true
    · rw [if_pos h, if_pos h, hfixed x h]
    · rw [if_neg h, if_neg h]

/-! ### Lists item by item -/

section
variable {α β γ : Type} {R : α → β → Prop} {xs : List α} {ys : List β}

theorem map_eq_map_of_forall₂ (h : List.Forall₂ R xs ys) {f : α → γ} {g : β → γ}
    (hfg : ∀ x y, R x y → f x = g y) : xs.map f = ys.map g := by
  induction h with
  | nil => rfl
  | cons hxy _ ih => rw [List.map_cons, List.map_cons, hfg _ _ hxy, ih]

theorem exists_of_mem_right (h : List.Forall₂ R xs ys) {y : β} (hy : y ∈ ys) : ∃ x ∈ xs, R x y := by
  induction h with
  | nil => cases hy
  | @cons x z xs ys hxz _ ih =>
    rcases List.mem_cons.1 hy with rfl | hy
    · exact ⟨x, List.mem_cons_self, hxz⟩
    · obtain ⟨x', hx', hr⟩ := ih hy
      exact ⟨x', List.mem_cons_of_mem x hx', hr⟩

/-- What was written item by item is read back. -/
theorem mapM_map_eq_some {f : α → β} {g : β → Option α} (h : ∀ x ∈ xs, g (f x) = some x) :
    (xs.map f).mapM g = some xs := by
  rw [List.mapM_map, option_mapM_eq_some, List.forall₂_same]
  exact h

/-- What is read item by item is what was written for the items that are read. -/
theorem map_eq_of_mapM {f : α → β} {g : β → Option α} {p : α → Prop}
    (hg : ∀ y x, g y = some x → p x ∧ f x = y) (h : ys.mapM g = some xs) :
    (∀ x ∈ xs, p x) ∧ xs.map f = ys := by
  have hall := option_mapM_eq_some.1 h
  constructor
  · intro x hx
    obtain ⟨y, -, hy⟩ := exists_of_mem_right hall hx
    exact (hg y x hy).1
  · rw [← map_eq_map_of_forall₂ hall (fun y x hy => (hg y x hy).2.symm), List.map_id']

theorem pairwise_of_forall₂ (h : List.Forall₂ R xs ys) {r : α → α → Prop} {s : β → β → Prop}
    (hr : xs.Pairwise r) (hs : ∀ x x' y y', R x y → R x' y' → r x x' → s y y') : ys.Pairwise s := by
  induction h with
  | nil => exact .nil
  | @cons x y xs ys hxy hrest ih =>
    obtain ⟨hhead, htail⟩ := List.pairwise_cons.1 hr
    refine List.pairwise_cons.2 ⟨fun y' hy' => ?_, ih htail⟩
    obtain ⟨x', hx', hxy'⟩ := exists_of_mem_right hrest hy'
    exact hs x x' y y' hxy hxy' (hhead x' hx')

/-- Items stand to each other as their partners do. -/
theorem pairwise_iff_of_forall₂ (h : List.Forall₂ R xs ys) {r : α → α → Prop} {s : β → β → Prop}
    (hiff : ∀ x x' y y', R x y → R x' y' → (r x x' ↔ s y y')) : xs.Pairwise r ↔ ys.Pairwise s :=
  ⟨fun hr => pairwise_of_forall₂ h hr fun x x' y y' hx hx' => (hiff x x' y y' hx hx').1,
    fun hs => pairwise_of_forall₂ h.flip hs fun y y' x x' hx hx' => (hiff x x' y y' hx hx').2⟩

end

theorem mapM_error_iff {f : α → Except ε β} {xs : List α} :
    (∃ e, xs.mapM f = .error e) ↔ ∃ x ∈ xs, ∃ e, f x = .error e := by
  constructor
  · rintro ⟨e, h⟩
    obtain ⟨x, hx, he⟩ := exists_of_mapM_eq_error h
    exact ⟨x, hx, e, he⟩
  · rintro ⟨x, hx, e, he⟩
    cases h : xs.mapM f with
    | error e' => exact ⟨e', rfl⟩
    | ok ys =>
      obtain ⟨y, -, hy⟩ := exists_of_mem_right (mapM_eq_ok.1 h).flip hx
      rw [he] at hy
      cases hy

section
variable {γ : Type} {f : α → Except ε β} {xs : List α} {ys : List β} {y : β}

theorem mem_of_mapM_eq_ok (h : xs.mapM f = .ok ys) : y ∈ ys ↔ ∃ x ∈ xs, f x = .ok y := by
  have hall := mapM_eq_ok.1 h
  constructor
  · exact exists_of_mem_right hall
  · rintro ⟨x, hx, hy⟩
    obtain ⟨y', hy', hf⟩ := exists_of_mem_right hall.flip hx
    obtain rfl := Except.ok.inj (hf.symm.trans hy)
    exact hy'

/-- Lists that are the results for the items of a list, joined. -/
theorem mem_flatten_of_mapM {f : α → Except ε (List β)} {yss : List (List β)}
    (h : xs.mapM f = .ok yss) : y ∈ yss.flatten ↔ ∃ x ∈ xs, ∃ ys, f x = .ok ys ∧ y ∈ ys := by
  simp only [List.mem_flatten, mem_of_mapM_eq_ok h]
  constructor
  · rintro ⟨ys, ⟨x, hx, hf⟩, hy⟩
    exact ⟨x, hx, ys, hf, hy⟩
  · rintro ⟨x, hx, ys, hf, hy⟩
    exact ⟨ys, ⟨x, hx, hf⟩, hy⟩

theorem mapM_congr_of_forall₂ {g : γ → Except ε β} {zs : List γ}
    (h : List.Forall₂ (fun x z => f x = g z) xs zs) : xs.mapM f = zs.mapM g := by
  induction h with
  | nil => rfl
  | cons hxz _ ih => rw [List.mapM_cons, List.mapM_cons, hxz, ih]

end

/-! ### Results that agree -/

/-- Two results that fail alike, or are related. -/
inductive Agree {ε α β : Type} (R : α → β → Prop) : Except ε α → Except ε β → Prop
  | error (e : ε) : Agree R (.error e) (.error e)
  | ok {a : α} {b : β} : R a b → Agree R (.ok a) (.ok b)

section
variable {ε α β γ δ : Type} {R : α → β → Prop} {P : γ → δ → Prop}

theorem agree_refl {R : α → α → Prop} (hR : ∀ a, R a a) (r : Except ε α) : Agree R r r := by
  cases r with
  | error e => exact .error e
  | ok a => exact .ok (hR a)

theorem agree_bind {x : Except ε α} {y : Except ε β} {f : α → Except ε γ} {g : β → Except ε δ}
    (h : Agree R x y) (hfg : ∀ a b, R a b → Agree P (f a) (g b)) : Agree P (x >>= f) (y >>= g) := by
  cases h with
  | error e => exact .error e
  | ok hab => exact hfg _ _ hab

theorem agree_mapM {xs : List γ} {ys : List δ} {f : γ → Except ε α} {g : δ → Except ε β}
    (h : List.Forall₂ (fun x y => Agree R (f x) (g y)) xs ys) :
    Agree (List.Forall₂ R) (xs.mapM f) (ys.mapM g) := by
  induction h with
  | nil => exact .ok .nil
  | cons hxy _ ih =>
    rw [List.mapM_cons, List.mapM_cons]
    exact agree_bind hxy fun a b hab => agree_bind ih fun as bs hs => .ok (.cons hab hs)

theorem Agree.bind_eq {x : Except ε α} {y : Except ε β} {f : α → Except ε γ} {g : β → Except ε γ}
    (h : Agree R x y) (hfg : ∀ a b, R a b → f a = g b) : x >>= f = y >>= g := by
  cases h with
  | error e => rfl
  | ok hab => exact hfg _ _ hab

end

end RecordStore

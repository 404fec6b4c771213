import KeywordValues.Elementwise
import Mathlib.Data.List.Forall2

/-!
# Facts about functions on the elements of a list

If a function that can fail succeeds on all elements of a list, then the list of its results holds
what it gives for them, in their order. Otherwise the first element that fails decides the error.
-/

namespace KeywordValues

universe u v w

variable {α : Type u} {β ε : Type v} {f : α → Except ε β} {x : α} {xs : List α} {y : β}
  {ys : List β}

theorem mapM_cons_eq_ok_iff {zs : List β} :
    (x :: xs).mapM f = .ok zs ↔ ∃ y ys, f x = .ok y ∧ xs.mapM f = .ok ys ∧ zs = y :: ys := by
  rw [List.mapM_cons]
  cases hx : f x with
  | error e => simp [bind, Except.bind]
  | ok y =>
      cases hxs : xs.mapM f with
      | error e => simp [bind, Except.bind]
      | ok ys => simp [bind, Except.bind, pure, Except.pure, eq_comm]

theorem mem_of_mapM_eq_ok (h : xs.mapM f = .ok ys) : y ∈ ys ↔ ∃ x ∈ xs, f x = .ok y := by
  induction xs generalizing ys with
  | nil =>
      cases h
      simp
  | cons x xs ih =>
      obtain ⟨z, zs, hz, hzs, rfl⟩ := mapM_cons_eq_ok_iff.1 h
      rw [List.mem_cons, ih hzs]
      simp [hz, eq_comm]

theorem exists_mapM_eq_ok_iff : (∃ ys, xs.mapM f = .ok ys) ↔ ∀ x ∈ xs, ∃ y, f x = .ok y := by
  induction xs with
  | nil => exact ⟨nofun, fun _ ↦ ⟨[], rfl⟩⟩
  | cons x xs ih =>
      rw [List.forall_mem_cons, ← ih]
      constructor
      · rintro ⟨_, h⟩
        obtain ⟨y, ys, hy, hys, -⟩ := mapM_cons_eq_ok_iff.1 h
        exact ⟨⟨y, hy⟩, ys, hys⟩
      · rintro ⟨⟨y, hy⟩, ys, hys⟩
        exact ⟨_, mapM_cons_eq_ok_iff.2 ⟨y, ys, hy, hys, rfl⟩⟩

/-- What the results have in common with their elements stands in the same order. -/
theorem map_eq_map_of_mapM_eq_ok {γ : Type w} {g : α → γ} {g' : β → γ}
    (hg : ∀ x y, f x = .ok y → g' y = g x) (h : xs.mapM f = .ok ys) : ys.map g' = xs.map g := by
  induction xs generalizing ys with
  | nil =>
      cases h
      rfl
  | cons x xs ih =>
      obtain ⟨y, ys, hy, hys, rfl⟩ := mapM_cons_eq_ok_iff.1 h
      rw [List.map_cons, List.map_cons, hg x y hy, ih hys]

theorem mapM_eq_ok_iff_forall₂ :
    xs.mapM f = .ok ys ↔ List.Forall₂ (fun x y ↦ f x = .ok y) xs ys := by
  induction xs generalizing ys with
  | nil =>
      rw [List.forall₂_nil_left_iff, List.mapM_nil]
      exact ⟨fun h ↦ (Except.ok.inj h).symm, fun h ↦ congrArg Except.ok h.symm⟩
  | cons x xs ih =>
      rw [mapM_cons_eq_ok_iff, List.forall₂_cons_left_iff]
      simp only [ih]

/-! ## The first failure -/

/-- The element at a place fails with an error, and those in front of it do not fail. -/
structure FirstFailure (f : α → Except ε β) (xs : List α) (i : Nat) (e : ε) : Prop where
  lt : i < xs.length
  fails : f xs[i] = .error e
  before : ∀ j (hj : j < i), ∃ y, f xs[j] = .ok y

namespace FirstFailure

variable {e : ε} {i : Nat}

theorem zero (h : f x = .error e) : FirstFailure f (x :: xs) 0 e :=
  ⟨Nat.zero_lt_succ _, h, nofun⟩

theorem succ (hx : f x = .ok y) (h : FirstFailure f xs i e) :
    FirstFailure f (x :: xs) (i + 1) e where
  lt := Nat.succ_lt_succ h.lt
  fails := h.fails
  before
    | 0, _ => ⟨y, hx⟩
    | j + 1, hj => h.before j (Nat.lt_of_succ_lt_succ hj)

/-- The first element fails, or it does not and the failure is further on. -/
theorem cons_iff : FirstFailure f (x :: xs) i e ↔
    (i = 0 ∧ f x = .error e) ∨ ∃ k y, i = k + 1 ∧ f x = .ok y ∧ FirstFailure f xs k e := by
  constructor
  · intro h
    cases i with
    | zero => exact .inl ⟨rfl, h.fails⟩
    | succ k =>
        obtain ⟨y, hy⟩ := h.before 0 (Nat.zero_lt_succ k)
        refine .inr ⟨k, y, rfl, hy, Nat.lt_of_succ_lt_succ h.lt, h.fails, fun j hj ↦ ?_⟩
        exact h.before (j + 1) (Nat.succ_lt_succ hj)
  · rintro (⟨rfl, hx⟩ | ⟨k, y, rfl, hx, h⟩)
    · exact zero hx
    · exact h.succ hx

/-- Elements that are mapped first fail where the mapped function fails on them. -/
theorem map_iff {γ : Type w} {g : γ → α} {zs : List γ} :
    FirstFailure f (zs.map g) i e ↔ FirstFailure (fun z ↦ f (g z)) zs i e := by
  constructor
  · intro h
    have hi : i < zs.length := by simpa using h.lt
    refine ⟨hi, by simpa using h.fails, fun j hj ↦ ?_⟩
    simpa using h.before j hj
  · intro h
    refine ⟨by simpa using h.lt, by simpa using h.fails, fun j hj ↦ ?_⟩
    simpa using h.before j hj

end FirstFailure

theorem mapM_eq_error_iff {e : ε} : xs.mapM f = .error e ↔ ∃ i, FirstFailure f xs i e := by
  induction xs with
  | nil =>
      constructor
      · intro h
        cases h
      · rintro ⟨i, h⟩
        cases h.lt
  | cons x xs ih =>
      rw [List.mapM_cons]
      simp only [FirstFailure.cons_iff]
      cases hx : f x with
      | error e' => simp [bind, Except.bind]
      | ok y =>
          cases hxs : xs.mapM f with
          | error e' =>
              rw [hxs] at ih
              simpa [bind, Except.bind] using ih
          | ok ys =>
              rw [hxs] at ih
              simpa [bind, Except.bind, pure, Except.pure] using ih

/-! ## Results with the places of their elements -/

theorem mapError_eq_ok_iff {ε' : Type v} {g : ε → ε'} {r : Except ε β} :
    r.mapError g = .ok y ↔ r = .ok y := by
  cases r <;> simp [Except.mapError]

theorem mapError_eq_error_iff {ε' : Type v} {g : ε → ε'} {r : Except ε β} {d : ε'} :
    r.mapError g = .error d ↔ ∃ e, r = .error e ∧ g e = d := by
  cases r <;> simp [Except.mapError]

theorem elementwise_eq_ok_iff :
    elementwise f xs = .ok ys ↔ List.Forall₂ (fun x y ↦ f x = .ok y) xs ys := by
  rw [elementwise, mapM_eq_ok_iff_forall₂, List.forall₂_iff_get, List.forall₂_iff_get]
  simp [mapError_eq_ok_iff]

theorem exists_elementwise_eq_ok_iff :
    (∃ ys, elementwise f xs = .ok ys) ↔ ∀ x ∈ xs, ∃ y, f x = .ok y := by
  simp only [elementwise_eq_ok_iff, ← mapM_eq_ok_iff_forall₂, exists_mapM_eq_ok_iff]

/-- The error of a list is that of the first element that fails, with its place. -/
theorem elementwise_eq_error_iff {e : ε} {i : Nat} :
    elementwise f xs = .error (e, i) ↔ FirstFailure f xs i e := by
  have hf (x : α) (k : Nat) : (f x).mapError (·, k) = .error (e, i) ↔ f x = .error e ∧ k = i := by
    cases f x <;> simp [Except.mapError]
  rw [elementwise, mapM_eq_error_iff]
  constructor
  · rintro ⟨k, h⟩
    have hk : k < xs.length := by simpa using h.lt
    have ⟨hx, hi⟩ : f xs[k] = .error e ∧ k = i := by simpa [hf] using h.fails
    subst hi
    refine ⟨hk, hx, fun j hj ↦ ?_⟩
    obtain ⟨y, hy⟩ := h.before j hj
    exact ⟨y, by simpa [mapError_eq_ok_iff] using hy⟩
  · intro h
    refine ⟨i, by simpa using h.lt, by simpa [hf] using h.fails, fun j hj ↦ ?_⟩
    obtain ⟨y, hy⟩ := h.before j hj
    exact ⟨y, by simpa [mapError_eq_ok_iff] using hy⟩

end KeywordValues

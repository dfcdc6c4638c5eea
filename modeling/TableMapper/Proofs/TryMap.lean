import Mathlib.Data.List.Forall2
import TableMapper.Error

/-!
# Results of all elements

`tryMap` succeeds exactly if every element has a result, and then gives the results in order.
Otherwise it fails as the first element without a result does.  `errorOf?` forgets all of a result
but its error.
-/

namespace TableMapper

variable {α β ε : Type} {f : α → Except ε β}

/-- A list has results if its first element and the others do. -/
theorem tryMap_cons_eq_ok_iff {x : α} {xs : List α} {zs : List β} :
    tryMap f (x :: xs) = .ok zs ↔ ∃ y ys, f x = .ok y ∧ tryMap f xs = .ok ys ∧ zs = y :: ys := by
  simp only [tryMap]
  cases f x with
  | error e => simp
  | ok y =>
    cases tryMap f xs with
    | error e => simp
    | ok ys => simp [eq_comm]

theorem tryMap_map {γ : Type} (g : γ → α) (xs : List γ) :
    tryMap f (xs.map g) = tryMap (fun x => f (g x)) xs := by
  induction xs with
  | nil => rfl
  | cons x xs ih => simp only [List.map_cons, tryMap, ih]

/-- What is said of the elements can be said of their results. -/
theorem map_eq_map_of_tryMap {γ : Type} {g : α → γ} {k : β → γ} {xs : List α} {ys : List β}
    (h : tryMap f xs = .ok ys) (same : ∀ x y, f x = .ok y → g x = k y) : xs.map g = ys.map k := by
  induction xs generalizing ys with
  | nil =>
    cases h
    rfl
  | cons x xs ih =>
    obtain ⟨y, others, first, rest, rfl⟩ := tryMap_cons_eq_ok_iff.1 h
    rw [List.map_cons, List.map_cons, same x y first, ih rest]

theorem length_of_tryMap {xs : List α} {ys : List β} (h : tryMap f xs = .ok ys) :
    ys.length = xs.length := by
  have lengths := congrArg List.length (map_eq_map_of_tryMap h (g := fun _ => ()) (k := fun _ => ())
    fun _ _ _ => rfl)
  simpa using lengths.symm

/-- What holds of every result of an element holds of the results of a list. -/
theorem forall_of_tryMap {p : β → Prop} {xs : List α} {ys : List β} (h : tryMap f xs = .ok ys)
    (each : ∀ x y, f x = .ok y → p y) : ∀ y ∈ ys, p y := by
  induction xs generalizing ys with
  | nil =>
    cases h
    simp
  | cons x xs ih =>
    obtain ⟨y, others, first, rest, rfl⟩ := tryMap_cons_eq_ok_iff.1 h
    exact List.forall_mem_cons.2 ⟨each x y first, ih rest⟩

/-- A list has results exactly if each element has, and then they are those of the elements. -/
theorem tryMap_eq_ok_iff_forall₂ {xs : List α} {ys : List β} :
    tryMap f xs = .ok ys ↔ List.Forall₂ (fun x y => f x = .ok y) xs ys := by
  induction xs generalizing ys with
  | nil => cases ys <;> simp [tryMap]
  | cons x xs ih =>
    rw [tryMap_cons_eq_ok_iff, List.forall₂_cons_left_iff]
    simp [ih]

theorem tryMap_map_eq_ok_map_iff {γ : Type} {g : γ → α} {k : γ → β} {xs : List γ} :
    tryMap f (xs.map g) = .ok (xs.map k) ↔ ∀ x ∈ xs, f (g x) = .ok (k x) := by
  rw [tryMap_eq_ok_iff_forall₂, List.forall₂_map_left_iff, List.forall₂_map_right_iff,
    List.forall₂_same]

/-- All images are found exactly if each one is. -/
theorem exists_tryMap_eq_ok_iff {xs : List α} :
    (∃ ys, tryMap f xs = .ok ys) ↔ ∀ x ∈ xs, ∃ y, f x = .ok y := by
  induction xs with
  | nil => simp [tryMap]
  | cons x xs ih =>
    rw [List.forall_mem_cons, ← ih]
    simp only [tryMap_cons_eq_ok_iff]
    -- Each image is found by itself.
    constructor
    · intro ⟨_, y, ys, first, rest, _⟩
      exact ⟨⟨y, first⟩, ys, rest⟩
    · intro ⟨⟨y, first⟩, ys, rest⟩
      exact ⟨y :: ys, y, ys, first, rest, rfl⟩

/-- An error is that of the first element without a result. -/
theorem tryMap_eq_error_iff {xs : List α} {e : ε} :
    tryMap f xs = .error e ↔ ∃ before x after, xs = before ++ x :: after ∧
      (∀ y ∈ before, ∃ z, f y = .ok z) ∧ f x = .error e := by
  induction xs with
  | nil => simp [tryMap]
  | cons x xs ih =>
    cases first : f x with
    | error e' =>
      simp only [tryMap, first, Except.error.injEq]
      constructor
      · rintro rfl
        exact ⟨[], x, xs, rfl, by simp, first⟩
      · rintro ⟨before, y, after, split, results, failed⟩
        -- Nothing stands before an element without a result.
        cases before with
        | nil =>
          obtain ⟨rfl, -⟩ := List.cons.inj split
          exact Except.error.inj (first.symm.trans failed)
        | cons z before =>
          obtain ⟨rfl, -⟩ := List.cons.inj split
          obtain ⟨result, found⟩ := results x (List.mem_cons_self ..)
          cases first.symm.trans found
    | ok y =>
      have rest : tryMap f (x :: xs) = .error e ↔ tryMap f xs = .error e := by
        simp only [tryMap, first]
        cases tryMap f xs <;> simp
      rw [rest, ih]
      constructor
      · rintro ⟨before, z, after, rfl, results, failed⟩
        exact ⟨x :: before, z, after, rfl, List.forall_mem_cons.2 ⟨⟨y, first⟩, results⟩, failed⟩
      · rintro ⟨before, z, after, split, results, failed⟩
        cases before with
        | nil =>
          obtain ⟨rfl, -⟩ := List.cons.inj split
          cases first.symm.trans failed
        | cons _ before =>
          obtain ⟨-, rfl⟩ := List.cons.inj split
          exact ⟨before, z, after, rfl, (List.forall_mem_cons.1 results).2, failed⟩

/-- The error of a result, if it is one. -/
def errorOf? : Except ε β → Option ε
  | .error e => some e
  | .ok _ => none

theorem errorOf?_eq_some_iff {r : Except ε β} {e : ε} : errorOf? r = some e ↔ r = .error e := by
  cases r <;> simp [errorOf?]

theorem errorOf?_eq_none_iff {r : Except ε β} : errorOf? r = none ↔ ∃ y, r = .ok y := by
  cases r <;> simp [errorOf?]

/-- The error of a list is that of its first item that fails. -/
theorem errorOf?_tryMap (f : α → Except ε β) (xs : List α) :
    errorOf? (tryMap f xs) = xs.findSome? fun x => errorOf? (f x) := by
  induction xs with
  | nil => rfl
  | cons x xs ih =>
    rw [List.findSome?_cons, ← ih]
    simp only [tryMap]
    cases f x with
    | error e => rfl
    | ok y => cases tryMap f xs <;> rfl

/-- An error of the list is one of its items'. -/
theorem exists_mem_of_tryMap_eq_error {xs : List α} {e : ε} (h : tryMap f xs = .error e) :
    ∃ x ∈ xs, f x = .error e := by
  obtain ⟨before, x, after, rfl, -, failed⟩ := tryMap_eq_error_iff.1 h
  exact ⟨x, by simp, failed⟩

end TableMapper

import Mathlib.Data.List.Induction
import Mathlib.Data.List.Nodup

/-!
# Lists of named things

Columns, properties and indexes are found by name.  If names do not repeat, a name finds the thing
itself and nothing else.
-/

namespace TableMapper

variable {α : Type} {name : α → String} {xs : List α}

/-- If names do not repeat, each item is found by its name. -/
theorem find?_eq_some_of_nodup {x : α} (distinct : (xs.map name).Nodup) (listed : x ∈ xs) :
    xs.find? (fun y => name y == name x) = some x := by
  induction xs with
  | nil => cases listed
  | cons y xs ih =>
    obtain ⟨fresh, distinct⟩ := List.nodup_cons.1 distinct
    rcases List.mem_cons.1 listed with rfl | later
    · simp
    · have other : name y ≠ name x := fun same => fresh (same ▸ List.mem_map_of_mem later)
      simp [other, ih distinct later]

/-- At most one thing has a given name. -/
theorem filter_eq_nil_or_singleton (distinct : (xs.map name).Nodup) (n : String) :
    xs.filter (fun x => name x == n) = [] ∨
      ∃ x ∈ xs, name x = n ∧ xs.filter (fun x => name x == n) = [x] := by
  induction xs with
  | nil => exact .inl rfl
  | cons x xs ih =>
    obtain ⟨fresh, distinct⟩ := List.nodup_cons.1 distinct
    by_cases same : name x = n
    · -- No later one has the name again.
      have others : xs.filter (fun y => name y == n) = [] := by
        refine List.filter_eq_nil_iff.2 fun y h other => fresh ?_
        rw [same, ← beq_iff_eq.1 other]
        exact List.mem_map_of_mem h
      exact .inr ⟨x, List.mem_cons_self .., same, by simp [same, others]⟩
    · rcases ih distinct with none | ⟨y, h, named, one⟩
      · exact .inl (by simp [same, none])
      · exact .inr ⟨y, List.mem_cons_of_mem _ h, named, by simp [same, one]⟩

/-- Things chosen from a list with different keys have different keys. -/
theorem nodup_map_filter {κ : Type} {key : α → κ} (p : α → Bool) (distinct : (xs.map key).Nodup) :
    ((xs.filter p).map key).Nodup :=
  (List.Sublist.map key List.filter_sublist).nodup distinct

/-- A name that was there already adds nothing. -/
theorem eraseDups_append_singleton (names : List String) (n : String) :
    (names ++ [n]).eraseDups = if n ∈ names then names.eraseDups else names.eraseDups ++ [n] := by
  rw [List.eraseDups_append]
  by_cases known : n ∈ names <;> simp [List.removeAll, List.eraseDups_cons, known]

/-- No name is kept twice. -/
theorem nodup_eraseDups (names : List String) : names.eraseDups.Nodup := by
  -- From the end, as the first of two equal names stays.
  induction names using List.reverseRecOn with
  | nil => exact List.nodup_nil
  | append_singleton names n ih =>
    rw [eraseDups_append_singleton]
    split
    case isTrue => exact ih
    case isFalse fresh =>
      refine List.nodup_append.2 ⟨ih, by simp, ?_⟩
      rintro k known _ last rfl
      rw [List.mem_singleton.1 last] at known
      exact fresh (List.mem_eraseDups.1 known)

end TableMapper

import Mathlib.Algebra.BigOperators.Group.List.Basic
import Mathlib.Data.List.ReduceOption

/-! # Values and conditions of SQL

A value may be missing, and a condition on a missing value is unknown. -/

namespace Foundation.Sql

/-- A condition; none is unknown. -/
abbrev Truth := Option Bool

namespace Truth

def and : Truth → Truth → Truth
  | some false, _ => some false
  | _, some false => some false
  | some true, some true => some true
  | _, _ => none

def or : Truth → Truth → Truth
  | some true, _ => some true
  | _, some true => some true
  | some false, some false => some false
  | _, _ => none

def not (t : Truth) : Truth := t.map (!·)

@[simp] theorem and_eq_true {s t : Truth} : s.and t = some true ↔ s = some true ∧ t = some true := by
  rcases s with _ | _ | _ <;> rcases t with _ | _ | _ <;> simp [and]

@[simp] theorem not_eq_true {t : Truth} : t.not = some true ↔ t = some false := by
  rcases t with _ | _ | _ <;> simp [not]

end Truth

variable {α β : Type*}

/-- A comparison with a value that is not missing. -/
def compare (r : α → Prop) [DecidablePred r] (v : Option α) : Truth := v.map fun a => decide (r a)

@[simp] theorem compare_eq_true {r : α → Prop} [DecidablePred r] {v : Option α} :
    compare r v = some true ↔ ∃ a, v = some a ∧ r a := by
  cases v <;> simp [compare]

/-! ## Conditional values -/

/-- `CASE WHEN … THEN … ELSE … END`. -/
def case : List (Truth × Option α) → Option α → Option α
  | [], otherwise => otherwise
  | (t, v) :: branches, otherwise => if t = some true then v else case branches otherwise

@[simp] theorem case_nil {otherwise : Option α} : case [] otherwise = otherwise := rfl

@[simp] theorem case_cons {t : Truth} {v otherwise : Option α} {branches : List (Truth × Option α)} :
    case ((t, v) :: branches) otherwise =
      if t = some true then v else case branches otherwise := rfl

/-! ## Sums -/

/-- `SUM`: missing values do not count, and the sum of none is missing. -/
def sum [AddMonoid α] (values : List (Option α)) : Option α :=
  if values.reduceOption.isEmpty then none else some values.reduceOption.sum

/-- `SUM(…) or 0`. -/
theorem sum_getD [AddMonoid α] (values : List (Option α)) :
    (sum values).getD 0 = values.reduceOption.sum := by
  rw [sum]
  split
  · next hempty => rw [List.isEmpty_iff.mp hempty, List.sum_nil, Option.getD_none]
  · rfl

/-- Without missing values, the sum of a column is that of its values. -/
theorem sum_map_getD [AddMonoid α] {xs : List β} {f : β → Option α} {g : β → α}
    (h : ∀ x ∈ xs, f x = some (g x)) : (sum (xs.map f)).getD 0 = (xs.map g).sum := by
  rw [sum_getD]
  induction xs with
  | nil => rfl
  | cons x xs ih =>
      have hrest := ih fun y hy => h y (List.mem_cons_of_mem x hy)
      rw [List.map_cons, List.map_cons, h x List.mem_cons_self, List.reduceOption_cons_of_some,
        List.sum_cons, List.sum_cons, hrest]

end Foundation.Sql

import Mathlib

/-! # Lists with a separator

What stands before the first separator, or after the last, is read back from the whole. -/

namespace Foundation

variable {α : Type*} {sep : α}

/-- Before the first separator. -/
theorem append_sep_inj {a a' r r' : List α} (ha : sep ∉ a) (ha' : sep ∉ a')
    (h : a ++ sep :: r = a' ++ sep :: r') : a = a' ∧ r = r' := by
  induction a generalizing a' with
  | nil =>
      cases a' with
      | nil => simpa using h
      | cons x a' =>
          have hx : sep = x := (List.cons.inj h).1
          exact absurd (hx ▸ List.mem_cons_self) ha'
  | cons y a ih =>
      cases a' with
      | nil =>
          have hy : y = sep := (List.cons.inj h).1
          exact absurd (hy ▸ List.mem_cons_self) ha
      | cons x a' =>
          have hcons := List.cons.inj h
          have htail := ih (fun hmem => ha (List.mem_cons_of_mem y hmem))
            (fun hmem => ha' (List.mem_cons_of_mem x hmem)) hcons.2
          exact ⟨by rw [hcons.1, htail.1], htail.2⟩

/-- After the last separator. -/
theorem sep_append_inj {a a' r r' : List α} (ha : sep ∉ a) (ha' : sep ∉ a')
    (h : r ++ sep :: a = r' ++ sep :: a') : r = r' ∧ a = a' := by
  have hreverse : a.reverse ++ sep :: r.reverse = a'.reverse ++ sep :: r'.reverse := by
    simpa using congrArg List.reverse h
  have hparts := append_sep_inj (by simpa using ha) (by simpa using ha') hreverse
  exact ⟨List.reverse_injective hparts.2, List.reverse_injective hparts.1⟩

end Foundation

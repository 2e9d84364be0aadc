import Mathlib.Data.List.Nodup
import Mathlib.Data.List.Basic

/-! Tables whose keys are drawn from a sequence: rows are added at the end and removed, and the
key of a removed row does not come back. -/

namespace Foundation

/-- Rows in the order of their keys' drawing; `next` is the key that is drawn next. -/
structure Serial {ρ : Type*} (key : ρ → ℕ) where
  rows : List ρ
  next : ℕ
  keys_nodup : (rows.map key).Nodup
  keys_lt : ∀ r ∈ rows, key r < next

namespace Serial

variable {ρ α : Type*} {key : ρ → ℕ} {t : Serial key} {r r' : ρ}

def empty : Serial key where
  rows := []
  next := 1
  keys_nodup := List.nodup_nil
  keys_lt := by simp

theorem eq_of_key_eq (hr : r ∈ t.rows) (hr' : r' ∈ t.rows) (h : key r = key r') : r = r' :=
  List.inj_on_of_nodup_map t.keys_nodup hr hr' h

/-- The row with a key. -/
def get? (t : Serial key) (k : ℕ) : Option ρ := t.rows.find? (fun r => key r = k)

theorem get?_eq_some_iff {k : ℕ} : t.get? k = some r ↔ r ∈ t.rows ∧ key r = k := by
  constructor
  · intro h
    exact ⟨List.mem_of_find?_eq_some h, by simpa using List.find?_some h⟩
  · rintro ⟨hr, hk⟩
    cases h : t.get? k with
    | none => simpa [hk] using List.find?_eq_none.mp h r hr
    | some r' =>
        have hr' : r' ∈ t.rows := List.mem_of_find?_eq_some h
        have hk' : key r' = k := by simpa using List.find?_some h
        rw [eq_of_key_eq hr' hr (hk'.trans hk.symm)]

/-- Change the rows with a property, and no key. -/
def modify (t : Serial key) (p : ρ → Bool) (f : ρ → ρ) (hf : ∀ r, key (f r) = key r) :
    Serial key where
  rows := t.rows.map fun r => if p r then f r else r
  next := t.next
  keys_nodup := by
    have h : (t.rows.map fun r => if p r then f r else r).map key = t.rows.map key := by
      rw [List.map_map]
      refine List.map_congr_left fun r _ => ?_
      by_cases hr : p r = true <;> simp [hr, hf]
    rw [h]
    exact t.keys_nodup
  keys_lt := by
    intro r hr
    obtain ⟨r', hr', rfl⟩ := List.mem_map.mp hr
    by_cases hp : p r' = true
    · simpa [hp, hf] using t.keys_lt r' hr'
    · simpa [hp] using t.keys_lt r' hr'

/-- Remove the rows with a property. -/
def remove (t : Serial key) (p : ρ → Bool) : Serial key where
  rows := t.rows.filter fun r => !p r
  next := t.next
  keys_nodup := t.keys_nodup.sublist (List.filter_sublist.map key)
  keys_lt r hr := t.keys_lt r (List.mem_filter.mp hr).1

/-- Add a row under the key that is next. -/
def append (t : Serial key) (f : ℕ → ρ) (hf : ∀ k, key (f k) = k) : Serial key where
  rows := t.rows ++ [f t.next]
  next := t.next + 1
  keys_nodup := by
    rw [List.map_append, List.nodup_append]
    refine ⟨t.keys_nodup, List.nodup_singleton _, ?_⟩
    intro a ha b hb
    obtain ⟨x, hx, rfl⟩ := List.mem_map.mp ha
    obtain rfl : b = key (f t.next) := by simpa using hb
    have hlt := t.keys_lt x hx
    rw [hf]
    omega
  keys_lt := by
    intro r hr
    rcases List.mem_append.mp hr with hr | hr
    · exact Nat.lt_succ_of_lt (t.keys_lt r hr)
    · rw [List.mem_singleton.mp hr, hf]
      exact Nat.lt_succ_self _

/-- Add rows under the keys that are next. -/
def appendAll (t : Serial key) (f : α → ℕ → ρ) (hf : ∀ a k, key (f a k) = k) (l : List α) :
    Serial key :=
  l.foldl (fun t a => t.append (f a) (hf a)) t

@[simp] theorem rows_modify (p : ρ → Bool) (f : ρ → ρ) (hf : ∀ r, key (f r) = key r) :
    (t.modify p f hf).rows = t.rows.map fun r => if p r then f r else r := rfl

@[simp] theorem rows_remove (p : ρ → Bool) :
    (t.remove p).rows = t.rows.filter fun r => !p r := rfl

theorem mem_rows_modify {p : ρ → Bool} {f : ρ → ρ} {hf : ∀ r, key (f r) = key r} :
    r ∈ (t.modify p f hf).rows ↔ ∃ x ∈ t.rows, (if p x then f x else x) = r := by
  rw [rows_modify, List.mem_map]

/-- A change of one row counts for that row only. -/
theorem countP_modify (hr : r ∈ t.rows) (f : ρ → ρ) (p : ρ → Bool) :
    (t.rows.map fun x => if key x = key r then f x else x).countP p + (if p r then 1 else 0) =
      t.rows.countP p + if p (f r) then 1 else 0 := by
  obtain ⟨before, after, hrows⟩ := List.append_of_mem hr
  have hkeys := t.keys_nodup
  rw [hrows, List.map_append, List.map_cons, List.nodup_middle, List.nodup_cons,
    List.mem_append] at hkeys
  have hsame (l : List ρ) (hl : key r ∉ l.map key) :
      (l.map fun x => if key x = key r then f x else x) = l := by
    conv_rhs => rw [← List.map_id l]
    apply List.map_congr_left
    intro x hx
    rw [if_neg fun h => hl (List.mem_map.mpr ⟨x, hx, h⟩), id]
  rw [hrows, List.map_append, List.map_cons, hsame before fun h => hkeys.1 (Or.inl h),
    hsame after fun h => hkeys.1 (Or.inr h), if_pos rfl]
  simp only [List.countP_append, List.countP_cons]
  omega

/-- The rows that were there stay, and the others are made of the list. -/
theorem rows_appendAll {f : α → ℕ → ρ} {hf : ∀ a k, key (f a k) = k} (l : List α) :
    ∃ new : List ρ, (t.appendAll f hf l).rows = t.rows ++ new ∧
      List.Forall₂ (fun a r => ∃ k, r = f a k) l new := by
  induction l generalizing t with
  | nil => exact ⟨[], (List.append_nil _).symm, List.Forall₂.nil⟩
  | cons a l ih =>
      obtain ⟨new, hrows, hnew⟩ := @ih (t.append (f a) (hf a))
      refine ⟨f a t.next :: new, ?_, List.Forall₂.cons ⟨t.next, rfl⟩ hnew⟩
      rw [appendAll, List.foldl_cons]
      rw [appendAll] at hrows
      rw [hrows]
      simp [append]

/-- A row that is made of a list is made of a member. -/
theorem exists_of_made {f : α → ℕ → ρ} {l : List α} {new : List ρ}
    (h : List.Forall₂ (fun a r => ∃ k, r = f a k) l new) (hr : r ∈ new) :
    ∃ a ∈ l, ∃ k, r = f a k := by
  induction h with
  | nil => cases hr
  | cons hhead _ ih =>
      rcases List.mem_cons.mp hr with rfl | hr
      · exact ⟨_, List.mem_cons_self, hhead⟩
      · obtain ⟨a, ha, hmade⟩ := ih hr
        exact ⟨a, List.mem_cons_of_mem _ ha, hmade⟩

theorem of_mem_rows_appendAll {f : α → ℕ → ρ} {hf : ∀ a k, key (f a k) = k} {l : List α}
    (hr : r ∈ (t.appendAll f hf l).rows) : r ∈ t.rows ∨ ∃ a ∈ l, ∃ k, r = f a k := by
  obtain ⟨new, hrows, hnew⟩ := @rows_appendAll _ _ _ t f hf l
  rw [hrows] at hr
  rcases List.mem_append.mp hr with hr | hr
  · exact Or.inl hr
  · exact Or.inr (exists_of_made hnew hr)

end Serial

end Foundation

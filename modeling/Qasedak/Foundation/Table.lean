import Mathlib.Data.List.Nodup
import Mathlib.Data.List.Basic
import Mathlib.Data.List.MinMax

/-! Tables of rows with a primary key. No two rows of a table carry one key, and
every operation keeps it so. -/

namespace Foundation

/-- The rows of a table, in insertion order, with pairwise distinct keys. -/
structure Table {ρ : Type*} (key : ρ → ℕ) where
  rows : List ρ
  keys_nodup : (rows.map key).Nodup

namespace Table

variable {ρ : Type*} {key : ρ → ℕ}

def empty : Table key := ⟨[], List.nodup_nil⟩

theorem ext_rows {t t' : Table key} (h : t.rows = t'.rows) : t = t' := by
  cases t
  cases t'
  cases h
  rfl

/-- The row with key `k`. -/
def get? (t : Table key) (k : ℕ) : Option ρ :=
  t.rows.find? (fun r => key r = k)

/-- Replace the row with key `k`; a replacement under another key is refused. -/
def modify (t : Table key) (k : ℕ) (f : ρ → ρ) (hf : ∀ r, key (f r) = key r) : Table key where
  rows := t.rows.map (fun r => if key r = k then f r else r)
  keys_nodup := by
    have h : (t.rows.map (fun r => if key r = k then f r else r)).map key = t.rows.map key := by
      rw [List.map_map]
      refine List.map_congr_left fun r _ => ?_
      by_cases hr : key r = k <;> simp [hr, hf]
    rw [h]
    exact t.keys_nodup

/-- Change every row, and no key. -/
def map (t : Table key) (f : ρ → ρ) (hf : ∀ r, key (f r) = key r) : Table key where
  rows := t.rows.map f
  keys_nodup := by
    have h : (t.rows.map f).map key = t.rows.map key := by
      rw [List.map_map]
      exact List.map_congr_left fun r _ => hf r
    rw [h]
    exact t.keys_nodup

/-- Delete the row with key `k`. -/
def erase (t : Table key) (k : ℕ) : Table key where
  rows := t.rows.filter fun r => key r ≠ k
  keys_nodup := (List.filter_sublist.map _).nodup t.keys_nodup

/-- A key that no row carries: one more than the largest. -/
def nextKey (t : Table key) : ℕ :=
  (t.rows.map key).foldr (fun k n => max (k + 1) n) 0

theorem lt_nextKey {t : Table key} {r : ρ} (hr : r ∈ t.rows) : key r < t.nextKey := by
  have hbound : ∀ (ks : List ℕ), ∀ k ∈ ks, k < ks.foldr (fun k n => max (k + 1) n) 0 := by
    intro ks
    induction ks with
    | nil => simp
    | cons x ks ih =>
        intro k hk
        rcases List.mem_cons.mp hk with rfl | hk
        · exact Nat.lt_of_lt_of_le (Nat.lt_succ_self k) (Nat.le_max_left _ _)
        · exact Nat.lt_of_lt_of_le (ih k hk) (Nat.le_max_right _ _)
  exact hbound _ _ (List.mem_map_of_mem hr)

/-- Append a row under the next key. -/
def insert (t : Table key) (r : ρ) (hr : key r = t.nextKey) : Table key where
  rows := t.rows ++ [r]
  keys_nodup := by
    rw [List.map_append, List.nodup_append]
    refine ⟨t.keys_nodup, List.nodup_singleton _, ?_⟩
    intro a ha b hb
    obtain ⟨x, hx, rfl⟩ := List.mem_map.mp ha
    obtain rfl : b = key r := by simpa using hb
    have := lt_nextKey hx
    omega

/-- Append a row under a key of its own, unless the key is taken. -/
def put (t : Table key) (r : ρ) : Table key :=
  if h : key r ∈ t.rows.map key then t
  else
    { rows := t.rows ++ [r]
      keys_nodup := by
        rw [List.map_append, List.nodup_append]
        refine ⟨t.keys_nodup, List.nodup_singleton _, ?_⟩
        rintro a ha b hb rfl
        obtain rfl : a = key r := by simpa using hb
        exact h ha }

theorem mem_of_get? {t : Table key} {k : ℕ} {r : ρ} (h : t.get? k = some r) :
    r ∈ t.rows ∧ key r = k := by
  refine ⟨List.mem_of_find?_eq_some h, ?_⟩
  simpa using List.find?_some h

theorem get?_eq_some_iff {t : Table key} {k : ℕ} {r : ρ} :
    t.get? k = some r ↔ r ∈ t.rows ∧ key r = k := by
  refine ⟨mem_of_get?, ?_⟩
  rintro ⟨hr, rfl⟩
  cases h : t.get? (key r) with
  | none =>
      have := List.find?_eq_none.mp h r hr
      simp at this
  | some r' =>
      obtain ⟨hr', hk⟩ := mem_of_get? h
      rw [List.inj_on_of_nodup_map t.keys_nodup hr' hr hk]

@[simp] theorem rows_modify (t : Table key) (k : ℕ) (f : ρ → ρ)
    (hf : ∀ r, key (f r) = key r) :
    (t.modify k f hf).rows = t.rows.map (fun r => if key r = k then f r else r) := rfl

@[simp] theorem rows_insert (t : Table key) (r : ρ) (hr : key r = t.nextKey) :
    (t.insert r hr).rows = t.rows ++ [r] := rfl

/-- The keys of a table do not change when one of its rows does. -/
@[simp] theorem map_key_modify (t : Table key) (k : ℕ) (f : ρ → ρ)
    (hf : ∀ r, key (f r) = key r) :
    (t.modify k f hf).rows.map key = t.rows.map key := by
  rw [rows_modify, List.map_map]
  refine List.map_congr_left fun r _ => ?_
  by_cases hr : key r = k <;> simp [hr, hf]

/-- A modification changes its row and no other. -/
theorem rows_modify_of_append {t : Table key} {r : ρ} {before after : List ρ}
    (h : t.rows = before ++ r :: after) (f : ρ → ρ) (hf : ∀ r, key (f r) = key r) :
    (t.modify (key r) f hf).rows = before ++ f r :: after := by
  have hnodup := t.keys_nodup
  rw [h, List.map_append, List.map_cons, List.nodup_append, List.nodup_cons] at hnodup
  obtain ⟨-, ⟨hafter, -⟩, hbefore⟩ := hnodup
  have hother : ∀ x ∈ before ++ after, key x ≠ key r := by
    intro x hx heq
    rcases List.mem_append.mp hx with hx | hx
    · exact hbefore _ (List.mem_map_of_mem hx) _ List.mem_cons_self heq
    · exact hafter (heq ▸ List.mem_map_of_mem hx)
  have hsame : ∀ l : List ρ, (∀ x ∈ l, x ∈ before ++ after) →
      l.map (fun x => if key x = key r then f x else x) = l := by
    intro l hl
    conv_rhs => rw [← List.map_id l]
    exact List.map_congr_left fun x hx => if_neg (hother x (hl x hx))
  rw [rows_modify, h, List.map_append, List.map_cons, if_pos rfl,
    hsame before fun _ => List.mem_append_left after,
    hsame after fun _ => List.mem_append_right before]

theorem get?_modify (t : Table key) (k j : ℕ) (f : ρ → ρ) (hf : ∀ r, key (f r) = key r) :
    (t.modify k f hf).get? j = (t.get? j).map (fun r => if j = k then f r else r) := by
  unfold get?
  rw [rows_modify]
  induction t.rows with
  | nil => rfl
  | cons x xs ih =>
      have hkey : key (if key x = k then f x else x) = key x := by
        by_cases hx : key x = k <;> simp [hx, hf]
      rw [List.map_cons, List.find?_cons, List.find?_cons, hkey]
      by_cases hx : key x = j
      · subst hx
        simp
      · simp [hx, ih]

/-- A table is determined by the order of its keys and the rows under them. -/
theorem ext_get? {t t' : Table key} (hkeys : t.rows.map key = t'.rows.map key)
    (hget : ∀ k, t.get? k = t'.get? k) : t = t' := by
  refine ext_rows (List.ext_getElem ?_ fun i hi hi' => ?_)
  · simpa using congrArg List.length hkeys
  · have hkey : key t.rows[i] = key t'.rows[i] := by
      have h := List.getElem_of_eq hkeys (i := i) (by simpa using hi)
      simpa using h
    have hrow := get?_eq_some_iff.mpr ⟨List.getElem_mem hi, rfl⟩
    rw [hget, hkey, get?_eq_some_iff.mpr ⟨List.getElem_mem hi', rfl⟩] at hrow
    exact (Option.some.inj hrow).symm

/-- A row that does not change leaves the table as it is. -/
theorem modify_eq_of_forall {t : Table key} {k : ℕ} {f : ρ → ρ} (hf : ∀ r, key (f r) = key r)
    (h : ∀ r, t.get? k = some r → f r = r) : t.modify k f hf = t := by
  refine ext_get? (map_key_modify t k f hf) fun j => ?_
  rw [get?_modify]
  by_cases hj : j = k
  · cases hr : t.get? k with
    | none => simp [hj, hr]
    | some r => simp [hj, hr, h r hr]
  · simp [hj]

theorem modify_eq_self {t : Table key} {k : ℕ} {r : ρ} {f : ρ → ρ} (hf : ∀ r, key (f r) = key r)
    (hr : t.get? k = some r) (hfr : f r = r) : t.modify k f hf = t := by
  refine modify_eq_of_forall hf fun r' hr' => ?_
  rw [hr] at hr'
  exact Option.some.inj hr' ▸ hfr

/-- A modification does not show in what is mapped to the same. -/
theorem map_modify (t : Table key) (k : ℕ) {f g : ρ → ρ} (hf : ∀ r, key (f r) = key r)
    (hg : ∀ r, key (g r) = key r) (h : ∀ r, g (f r) = g r) :
    (t.modify k f hf).map g hg = t.map g hg := by
  refine ext_rows ?_
  change (t.rows.map fun r => if key r = k then f r else r).map g = t.rows.map g
  rw [List.map_map]
  refine List.map_congr_left fun r _ => ?_
  by_cases hr : key r = k
  · simp [hr, h]
  · simp [hr]

theorem get?_map (t : Table key) (f : ρ → ρ) (hf : ∀ r, key (f r) = key r) (k : ℕ) :
    (t.map f hf).get? k = (t.get? k).map f := by
  unfold get? map
  rw [List.find?_map]
  congr 2
  funext r
  simp [hf]

/-- No row is under the next key. -/
theorem get?_nextKey (t : Table key) : t.get? t.nextKey = none := by
  cases h : t.get? t.nextKey with
  | none => rfl
  | some r =>
      obtain ⟨hr, hkey⟩ := mem_of_get? h
      exact absurd hkey (Nat.ne_of_lt (lt_nextKey hr))

theorem get?_insert (t : Table key) (r : ρ) (hr : key r = t.nextKey) (k : ℕ) :
    (t.insert r hr).get? k = if k = t.nextKey then some r else t.get? k := by
  by_cases hk : k = t.nextKey
  · rw [if_pos hk, get?_eq_some_iff]
    simp [hr, hk]
  · rw [if_neg hk]
    unfold get?
    rw [rows_insert, List.find?_append]
    have : ¬ key r = k := by rw [hr]; exact fun h => hk h.symm
    simp [this]

/-- The first row of a kind, by the keys. -/
theorem argmin_filter_eq_some_iff {t : Table key} {p : ρ → Bool} {r : ρ} :
    (t.rows.filter p).argmin key = some r ↔
      (r ∈ t.rows ∧ p r = true) ∧ ∀ r' ∈ t.rows, p r' = true → key r ≤ key r' := by
  constructor
  · intro h
    exact ⟨List.mem_filter.mp (List.argmin_mem h), fun r' hr' hp =>
      List.le_of_mem_argmin (List.mem_filter.mpr ⟨hr', hp⟩) h⟩
  · rintro ⟨hr, hmin⟩
    cases h : (t.rows.filter p).argmin key with
    | none =>
        have hempty := List.argmin_eq_none.mp h
        have hmem := List.mem_filter.mpr hr
        rw [hempty] at hmem
        cases hmem
    | some r' =>
        obtain ⟨hr', hp⟩ := List.mem_filter.mp (List.argmin_mem h)
        have hle : key r' ≤ key r := List.le_of_mem_argmin (List.mem_filter.mpr hr) h
        exact congrArg some (List.inj_on_of_nodup_map t.keys_nodup hr' hr.1
          (Nat.le_antisymm hle (hmin r' hr' hp)))

/-- A row that is put shows under its own key only. -/
theorem get?_put_of_ne {t : Table key} {r : ρ} {j : ℕ}
    (h : j ≠ key r) : (t.put r).get? j = t.get? j := by
  unfold put
  split
  · rfl
  · unfold get?
    rw [List.find?_append]
    have hr : ¬ key r = j := fun hkey => h hkey.symm
    simp [hr]

theorem get?_put_self {t : Table key} {r : ρ} (h : t.get? (key r) = none) :
    (t.put r).get? (key r) = some r := by
  have hkey : key r ∉ t.rows.map key := by
    intro hmem
    obtain ⟨x, hx, hxr⟩ := List.mem_map.mp hmem
    rw [get?_eq_some_iff.mpr ⟨hx, hxr⟩] at h
    cases h
  rw [put, dif_neg hkey, get?_eq_some_iff]
  simp

end Table

end Foundation

import Mathlib.Data.List.Nodup
import Mathlib.Data.List.Basic
import Mathlib.Data.List.Induction

/-! Lists cut into groups by a key that some elements do not have. The groups stand in the
order of their first elements, and each keeps the order of the list. -/

namespace Foundation

variable {α κ : Type*} [DecidableEq κ]

/-- Add an element to the group of its key. -/
def addToGroup (k : κ) (x : α) : List (κ × List α) → List (κ × List α)
  | [] => [(k, [x])]
  | (j, xs) :: groups =>
      if j = k then (j, xs ++ [x]) :: groups else (j, xs) :: addToGroup k x groups

/-- The groups of the elements that have a key. -/
def groupOn (key : α → Option κ) (xs : List α) : List (κ × List α) :=
  xs.foldl (fun groups x =>
    match key x with
    | none => groups
    | some k => addToGroup k x groups) []

/-- The groups are those of the elements `xs`, under distinct keys. -/
structure GroupsOf (key : α → Option κ) (xs : List α) (groups : List (κ × List α)) : Prop where
  keys_nodup : (groups.map Prod.fst).Nodup
  members : ∀ g ∈ groups, g.2 = xs.filter fun x => key x = some g.1
  covered : ∀ x ∈ xs, ∀ k, key x = some k → k ∈ groups.map Prod.fst

theorem keys_addToGroup (k : κ) (x : α) (groups : List (κ × List α)) :
    (addToGroup k x groups).map Prod.fst =
      if k ∈ groups.map Prod.fst then groups.map Prod.fst else groups.map Prod.fst ++ [k] := by
  induction groups with
  | nil => simp [addToGroup]
  | cons g groups ih =>
      by_cases h : g.1 = k
      · simp [addToGroup, h]
      · simp only [addToGroup, if_neg h, List.map_cons, ih, List.mem_cons, Ne.symm h, false_or]
        split <;> simp

theorem mem_addToGroup {k : κ} {x : α} {groups : List (κ × List α)} {g : κ × List α}
    (hnodup : (groups.map Prod.fst).Nodup) (hg : g ∈ addToGroup k x groups) :
    (g ∈ groups ∧ g.1 ≠ k) ∨ (∃ xs, (k, xs) ∈ groups ∧ g = (k, xs ++ [x])) ∨
      (k ∉ groups.map Prod.fst ∧ g = (k, [x])) := by
  induction groups with
  | nil => simpa [addToGroup] using hg
  | cons first groups ih =>
      rw [List.map_cons, List.nodup_cons] at hnodup
      by_cases h : first.1 = k
      · simp only [addToGroup, if_pos h, List.mem_cons] at hg
        rcases hg with rfl | hg
        · exact .inr (.inl ⟨first.2, by simp [← h], by rw [h]⟩)
        · refine .inl ⟨List.mem_cons_of_mem _ hg, fun hk => hnodup.1 ?_⟩
          rw [h, ← hk]
          exact List.mem_map_of_mem hg
      · simp only [addToGroup, if_neg h, List.mem_cons] at hg
        rcases hg with rfl | hg
        · exact .inl ⟨List.mem_cons_self, h⟩
        · rcases ih hnodup.2 hg with hold | ⟨xs, hxs, rfl⟩ | ⟨hk, rfl⟩
          · exact .inl ⟨List.mem_cons_of_mem _ hold.1, hold.2⟩
          · exact .inr (.inl ⟨xs, List.mem_cons_of_mem _ hxs, rfl⟩)
          · exact .inr (.inr ⟨by simp [hk, Ne.symm h], rfl⟩)

theorem GroupsOf.add {key : α → Option κ} {xs : List α} {groups : List (κ × List α)} {x : α}
    {k : κ} (h : GroupsOf key xs groups) (hx : key x = some k) :
    GroupsOf key (xs ++ [x]) (addToGroup k x groups) where
  keys_nodup := by
    rw [keys_addToGroup]
    by_cases hk : k ∈ groups.map Prod.fst
    · rw [if_pos hk]
      exact h.keys_nodup
    · rw [if_neg hk]
      exact List.nodup_append.mpr ⟨h.keys_nodup, List.nodup_singleton k,
        fun a ha b hb heq => hk (by rwa [← List.mem_singleton.mp hb, ← heq])⟩
  members := by
    intro g hg
    rw [List.filter_append]
    rcases mem_addToGroup h.keys_nodup hg with ⟨hold, hk⟩ | ⟨ys, hys, rfl⟩ | ⟨hk, rfl⟩
    · rw [h.members g hold]
      simp [hx, Ne.symm hk]
    · have hmem : ys = xs.filter fun y => key y = some k := h.members _ hys
      simp [hmem, hx]
    · have hnone : (xs.filter fun y => key y = some k) = [] := by
        rw [List.filter_eq_nil_iff]
        intro y hy hkey
        exact hk (h.covered y hy k (by simpa using hkey))
      simp [hnone, hx]
  covered := by
    intro y hy j hj
    rw [keys_addToGroup]
    rcases List.mem_append.mp hy with hy | hy
    · have := h.covered y hy j hj
      split
      · exact this
      · exact List.mem_append_left _ this
    · obtain rfl := List.mem_singleton.mp hy
      obtain rfl : k = j := Option.some.inj (hx.symm.trans hj)
      split
      · assumption
      · simp

theorem groupOn_append_singleton (key : α → Option κ) (xs : List α) (x : α) :
    groupOn key (xs ++ [x]) =
      match key x with
      | none => groupOn key xs
      | some k => addToGroup k x (groupOn key xs) := by
  simp only [groupOn, List.foldl_append, List.foldl_cons, List.foldl_nil]

theorem GroupsOf.skip {key : α → Option κ} {xs : List α} {groups : List (κ × List α)} {x : α}
    (h : GroupsOf key xs groups) (hx : key x = none) : GroupsOf key (xs ++ [x]) groups where
  keys_nodup := h.keys_nodup
  members := by
    intro g hg
    rw [h.members g hg, List.filter_append]
    simp [hx]
  covered := by
    intro y hy j hj
    rcases List.mem_append.mp hy with hy | hy
    · exact h.covered y hy j hj
    · rw [List.mem_singleton.mp hy, hx] at hj
      cases hj

/-- The groups of a list are its groups. -/
theorem groupsOf_groupOn (key : α → Option κ) (xs : List α) :
    GroupsOf key xs (groupOn key xs) := by
  induction xs using List.reverseRecOn with
  | nil => exact ⟨List.nodup_nil, fun _ h => (nomatch h), fun _ h => (nomatch h)⟩
  | append_singleton xs x ih =>
      rw [groupOn_append_singleton]
      cases hx : key x with
      | none => simpa [hx] using ih.skip hx
      | some k => simpa [hx] using ih.add hx

/-- The element's group, with the element in it. -/
theorem GroupsOf.exists_group {key : α → Option κ} {xs : List α} {groups : List (κ × List α)}
    (h : GroupsOf key xs groups) {x : α} (hx : x ∈ xs) {k : κ} (hk : key x = some k) :
    ∃ g ∈ groups, g.1 = k ∧ x ∈ g.2 := by
  obtain ⟨g, hg, rfl⟩ := List.mem_map.mp (h.covered x hx k hk)
  refine ⟨g, hg, rfl, ?_⟩
  rw [h.members g hg, List.mem_filter]
  exact ⟨hx, by simpa using hk⟩

theorem GroupsOf.mem {key : α → Option κ} {xs : List α} {groups : List (κ × List α)}
    (h : GroupsOf key xs groups) {g : κ × List α} (hg : g ∈ groups) {x : α} (hx : x ∈ g.2) :
    x ∈ xs ∧ key x = some g.1 := by
  rw [h.members g hg, List.mem_filter] at hx
  simpa using hx

end Foundation

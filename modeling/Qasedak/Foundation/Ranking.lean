import Mathlib.Data.List.Sort

/-! The first elements of a sorted list. -/

namespace Foundation

variable {α : Type*} {r : α → α → Prop} [DecidableRel r] [DecidableEq α]

/-- The elements that come before `x`. -/
def before (r : α → α → Prop) [DecidableRel r] (xs : List α) (x : α) : List α :=
  xs.filter fun y => r y x ∧ y ≠ x

/-- In a list that is sorted without ties, what stands in front of `x` is what comes before it. -/
theorem before_append_cons {front back : List α} {x : α}
    (hsorted : (front ++ x :: back).Pairwise r) (hnodup : (front ++ x :: back).Nodup)
    (hanti : ∀ y ∈ back, r x y → r y x → y = x) : before r (front ++ x :: back) x = front := by
  have hfront : ∀ y ∈ front, r y x ∧ y ≠ x := by
    intro y hy
    rw [List.pairwise_append] at hsorted
    rw [List.nodup_append] at hnodup
    exact ⟨hsorted.2.2 y hy x List.mem_cons_self, hnodup.2.2 y hy x List.mem_cons_self⟩
  have hback : ∀ y ∈ back, ¬ (r y x ∧ y ≠ x) := by
    rintro y hy ⟨hyx, hne⟩
    have htail := (List.pairwise_append.mp hsorted).2.1
    exact hne (hanti y hy (List.rel_of_pairwise_cons htail hy) hyx)
  rw [before, List.filter_append, List.filter_cons_of_neg (by simp)]
  rw [List.filter_eq_self.mpr (by simpa using hfront),
    List.filter_eq_nil_iff.mpr (by simpa using hback), List.append_nil]

/-- An element is among the first `n` of a sorted list exactly when fewer than `n` others come
before it. -/
theorem mem_take_insertionSort_iff (htotal : ∀ a b, r a b ∨ r b a)
    (htrans : ∀ a b c, r a b → r b c → r a c) {xs : List α} (hnodup : xs.Nodup)
    (hanti : ∀ a ∈ xs, ∀ b ∈ xs, r a b → r b a → b = a) {x : α} (hx : x ∈ xs) (n : ℕ) :
    x ∈ (xs.insertionSort r).take n ↔ (before r xs x).length < n := by
  have : Std.Total r := ⟨htotal⟩
  have : IsTrans α r := ⟨htrans⟩
  have hperm := List.perm_insertionSort r xs
  have hlength : (before r xs x).length = (before r (xs.insertionSort r) x).length :=
    (hperm.symm.filter _).length_eq
  have hsorted := List.pairwise_insertionSort r xs
  have hnodup' := hperm.nodup_iff.mpr hnodup
  obtain ⟨front, back, hsplit⟩ := List.append_of_mem (hperm.mem_iff.mpr hx)
  rw [hsplit] at hlength hsorted hnodup' ⊢
  have hback : ∀ y ∈ back, r x y → r y x → y = x := by
    intro y hy
    refine hanti x hx y (hperm.mem_iff.mp ?_)
    rw [hsplit]
    simp [hy]
  rw [hlength, before_append_cons hsorted hnodup' hback]
  have hfresh : x ∉ front := by
    intro hmem
    exact (List.nodup_append.mp hnodup').2.2 x hmem x List.mem_cons_self rfl
  constructor
  · intro htake
    by_contra hlt
    have hle : n ≤ front.length := Nat.le_of_not_lt hlt
    rw [List.take_append_of_le_length hle] at htake
    exact hfresh (List.mem_of_mem_take htake)
  · intro hlt
    rw [List.take_append]
    refine List.mem_append_right _ ?_
    obtain ⟨m, hm⟩ := Nat.exists_eq_add_of_lt hlt
    have hrest : n - front.length = m + 1 := by omega
    rw [hrest]
    exact List.mem_cons_self

section Least

variable {α β γ : Type*} [LinearOrder γ] {f : α → γ} {xs : List α}

theorem pairwise_insertionSort_le (f : α → γ) (xs : List α) :
    (xs.insertionSort fun a b => f a ≤ f b).Pairwise fun a b => f a ≤ f b := by
  have : Std.Total fun a b => f a ≤ f b := ⟨fun a b => le_total (f a) (f b)⟩
  have : IsTrans α fun a b => f a ≤ f b := ⟨fun _ _ _ => le_trans⟩
  exact List.pairwise_insertionSort _ xs

/-- What is found first in a sorted list is found at a least place. -/
theorem findSome?_insertionSort {g : α → Option β} {b : β}
    (h : (xs.insertionSort fun a b => f a ≤ f b).findSome? g = some b) :
    ∃ a ∈ xs, g a = some b ∧ ∀ c ∈ xs, (g c).isSome → f a ≤ f c := by
  obtain ⟨front, a, back, hsplit, ha, hfront⟩ := List.findSome?_eq_some_iff.mp h
  have hmem (c : α) : c ∈ xs ↔ c ∈ front ++ a :: back := by
    rw [← hsplit, List.mem_insertionSort]
  have hsorted := pairwise_insertionSort_le f xs
  rw [hsplit] at hsorted
  refine ⟨a, (hmem a).mpr (by simp), ha, fun c hc hsome => ?_⟩
  rcases List.mem_append.mp ((hmem c).mp hc) with hc | hc
  · rw [hfront c hc] at hsome
    cases hsome
  · rcases List.mem_cons.mp hc with rfl | hc
    · exact le_refl _
    · exact List.rel_of_pairwise_cons (List.pairwise_append.mp hsorted).2.1 hc

theorem findSome?_insertionSort_eq_none {g : α → Option β} :
    (xs.insertionSort fun a b => f a ≤ f b).findSome? g = none ↔ ∀ a ∈ xs, g a = none := by
  rw [List.findSome?_eq_none_iff]
  simp only [List.mem_insertionSort]

end Least

end Foundation

/-! # The first element of each group

A loop over a list that remembers the keys it has seen takes up the first element under each key.
In a sorted list that is a least one. -/

namespace Foundation

variable {α κ : Type*} [DecidableEq κ] {key : α → Option κ} {seen : List κ} {xs : List α} {x : α}
  {k : κ}

/-- The elements with a key that was not seen before. -/
def firsts (key : α → Option κ) : List κ → List α → List α
  | _, [] => []
  | seen, x :: xs =>
      match key x with
      | none => firsts key seen xs
      | some k => if k ∈ seen then firsts key seen xs else x :: firsts key (k :: seen) xs

theorem firsts_of_seen {xs' : List α} (hx : ∀ k, key x = some k → k ∈ seen) :
    firsts key seen (x :: xs') = firsts key seen xs' := by
  rw [firsts]
  split
  · rfl
  · next k hk => rw [if_pos (hx k hk)]

theorem firsts_of_fresh {xs' : List α} (hx : key x = some k) (hk : k ∉ seen) :
    firsts key seen (x :: xs') = x :: firsts key (k :: seen) xs' := by
  rw [firsts]
  simp only [hx, if_neg hk]

/-- The first element under each key that was not seen. -/
theorem mem_firsts_iff : x ∈ firsts key seen xs ↔
    ∃ k, key x = some k ∧ k ∉ seen ∧ xs.find? (fun y => key y = some k) = some x := by
  induction xs generalizing seen with
  | nil => simp [firsts]
  | cons y xs ih =>
      by_cases hy : ∀ k, key y = some k → k ∈ seen
      · rw [firsts_of_seen hy, ih]
        refine exists_congr fun k => and_congr_right fun _ => and_congr_right fun hk => ?_
        rw [List.find?_cons_of_neg (by simpa using fun hyk => hk (hy k hyk))]
      · obtain ⟨j, hj, hfresh⟩ := not_forall₂.mp hy
        rw [firsts_of_fresh hj hfresh, List.mem_cons, ih]
        constructor
        · rintro (rfl | ⟨k, hk, hnot, hfind⟩)
          · exact ⟨j, hj, hfresh, List.find?_cons_of_pos (by simpa using hj)⟩
          · rw [List.mem_cons, not_or] at hnot
            refine ⟨k, hk, hnot.2, ?_⟩
            rwa [List.find?_cons_of_neg (by simpa [hj] using Ne.symm hnot.1)]
        · rintro ⟨k, hk, hnot, hfind⟩
          by_cases hkj : k = j
          · rw [hkj, List.find?_cons_of_pos (by simpa using hj)] at hfind
            exact .inl (Option.some.inj hfind).symm
          · rw [List.find?_cons_of_neg (by simpa [hj] using Ne.symm hkj)] at hfind
            exact .inr ⟨k, hk, by simp [hkj, hnot], hfind⟩

/-- No key is taken up twice. -/
theorem nodup_filterMap_firsts (key : α → Option κ) (seen : List κ) (xs : List α) :
    ((firsts key seen xs).filterMap key).Nodup := by
  induction xs generalizing seen with
  | nil => exact List.nodup_nil
  | cons y xs ih =>
      by_cases hy : ∀ k, key y = some k → k ∈ seen
      · rw [firsts_of_seen hy]
        exact ih seen
      · obtain ⟨j, hj, hfresh⟩ := not_forall₂.mp hy
        rw [firsts_of_fresh hj hfresh, List.filterMap_cons_some hj, List.nodup_cons]
        refine ⟨fun hmem => ?_, ih _⟩
        obtain ⟨z, hz, hzj⟩ := List.mem_filterMap.mp hmem
        obtain ⟨k, hk, hnot, -⟩ := mem_firsts_iff.mp hz
        rw [hzj] at hk
        exact hnot (Option.some.inj hk ▸ List.mem_cons_self)

section Sorted

variable {γ : Type*} [LinearOrder γ] {f : α → γ} {p : α → Bool}

/-- In the first rows of a sorted list, the first element of a kind is a least one of the kind in
the whole list. -/
theorem find?_take_insertionSort {n : ℕ}
    (h : ((xs.insertionSort fun a b => f a ≤ f b).take n).find? p = some x) :
    x ∈ xs ∧ p x = true ∧ ∀ y ∈ xs, p y = true → f x ≤ f y := by
  have hwhole : (xs.insertionSort fun a b => f a ≤ f b).find? p = some x := by
    rw [← List.take_append_drop n (xs.insertionSort fun a b => f a ≤ f b), List.find?_append, h,
      Option.some_or]
  rw [← List.findSome?_guard] at hwhole
  obtain ⟨a, ha, hguard, hleast⟩ := findSome?_insertionSort hwhole
  rw [Option.guard_eq_some_iff] at hguard
  obtain ⟨rfl, hpa⟩ := hguard
  exact ⟨ha, hpa, fun y hy hpy => hleast y hy (by simp [Option.guard, hpy])⟩

end Sorted

end Foundation

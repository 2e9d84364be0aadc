import Mathlib.Algebra.Order.Group.Defs
import Mathlib.Data.List.Nodup
import Mathlib.Data.List.Pairwise

/-! Lists of dated entries, the newest first, each of them admitted by a check against those before
it. Checks that count the entries of a sliding window bound the entries of every window. -/

namespace Foundation

variable {α : Type*}

/-- Every entry passed `ok` against the entries before it. -/
def Admitted (ok : α → List α → Prop) : List α → Prop
  | [] => True
  | x :: earlier => ok x earlier ∧ Admitted ok earlier

variable {ok : α → List α → Prop}

@[simp] theorem admitted_nil : Admitted ok [] := trivial

@[simp] theorem admitted_cons (x : α) (earlier : List α) :
    Admitted ok (x :: earlier) ↔ ok x earlier ∧ Admitted ok earlier := Iff.rfl

/-- A change of the entries that no check notices. -/
theorem Admitted.map {f : α → α} (h : ∀ x earlier, ok x earlier → ok (f x) (earlier.map f))
    {xs : List α} (hxs : Admitted ok xs) : Admitted ok (xs.map f) := by
  induction xs with
  | nil => trivial
  | cons x earlier ih => exact ⟨h x earlier hxs.1, ih hxs.2⟩

/-- A relation that the check establishes with every earlier entry holds between any two. -/
theorem Admitted.pairwise {R : α → α → Prop} (h : ∀ x earlier, ok x earlier → ∀ y ∈ earlier, R x y)
    {xs : List α} (hxs : Admitted ok xs) : xs.Pairwise R := by
  induction xs with
  | nil => exact List.Pairwise.nil
  | cons x earlier ih => exact List.pairwise_cons.mpr ⟨h x earlier hxs.1, ih hxs.2⟩

section Sliding

variable {τ : Type*} [AddCommGroup τ] [LinearOrder τ]
variable (time : α → τ) (width : τ) (p : α → Prop) [DecidablePred p]

/-- The entries that count of a closed window. -/
def windowCount (start : τ) (xs : List α) : ℕ :=
  xs.countP fun x => p x ∧ start ≤ time x ∧ time x ≤ start + width

/-- The entries that count of those dated `start` or later. -/
def countSince (start : τ) (xs : List α) : ℕ :=
  xs.countP fun x => p x ∧ start ≤ time x

variable {time width p}

omit [AddCommGroup τ] in
theorem countSince_mono {q : α → Prop} [DecidablePred q] {since start : τ} (hsince : since ≤ start)
    (hpq : ∀ x, p x → q x) (xs : List α) :
    countSince time p start xs ≤ countSince time q since xs := by
  apply List.countP_mono_left
  intro x _ hx
  have hx := of_decide_eq_true hx
  exact decide_eq_true ⟨hpq x hx.1, hsince.trans hx.2⟩

theorem windowCount_le_countSince (start : τ) (xs : List α) :
    windowCount time width p start xs ≤ countSince time p start xs := by
  apply List.countP_mono_left
  intro x _ hx
  have hx := of_decide_eq_true hx
  exact decide_eq_true ⟨hx.1, hx.2.1⟩

@[simp] theorem windowCount_nil (start : τ) : windowCount time width p start [] = 0 := rfl

theorem windowCount_cons_of_pos {start : τ} {x : α} (xs : List α)
    (hx : p x ∧ start ≤ time x ∧ time x ≤ start + width) :
    windowCount time width p start (x :: xs) = windowCount time width p start xs + 1 := by
  simp [windowCount, hx]

theorem windowCount_cons_of_neg {start : τ} {x : α} (xs : List α)
    (hx : ¬ (p x ∧ start ≤ time x ∧ time x ≤ start + width)) :
    windowCount time width p start (x :: xs) = windowCount time width p start xs := by
  simp only [windowCount]
  apply List.countP_cons_of_neg
  simpa using hx

omit [AddCommGroup τ] in
theorem countSince_map {f : α → α} (htime : ∀ x, time (f x) = time x) (hp : ∀ x, p (f x) ↔ p x)
    (start : τ) (xs : List α) :
    countSince time p start (xs.map f) = countSince time p start xs := by
  simp only [countSince, List.countP_map]
  congr 1
  funext x
  simp only [Function.comp_apply, htime, hp]

omit [AddCommGroup τ] in
theorem countSince_eq_zero {start : τ} {xs : List α} :
    countSince time p start xs = 0 ↔ ∀ x ∈ xs, p x → time x < start := by
  simp [countSince, List.countP_eq_zero]

/-- Where each entry that counts found fewer than its cap in the window that ends with it, a window
holds no more than the caps of its entries allow. -/
theorem Admitted.windowCount_le [IsOrderedAddMonoid τ] {cap : α → ℕ}
    (hok : ∀ x earlier, ok x earlier → p x →
      countSince time p (time x - width) earlier < cap x)
    {xs : List α} (hxs : Admitted ok xs) {start : τ} {n : ℕ}
    (hn : ∀ x ∈ xs, p x → start ≤ time x → time x ≤ start + width → cap x ≤ n) :
    windowCount time width p start xs ≤ n := by
  induction xs with
  | nil => simp
  | cons x earlier ih =>
      obtain ⟨hx, hearlier⟩ := hxs
      have hrest : windowCount time width p start earlier ≤ n :=
        ih hearlier fun y hy => hn y (List.mem_cons_of_mem x hy)
      by_cases hcounts : p x ∧ start ≤ time x ∧ time x ≤ start + width
      · rw [windowCount_cons_of_pos earlier hcounts]
        obtain ⟨hpx, hstart, hend⟩ := hcounts
        -- the window of the check of the newest entry covers what the window holds of the others
        have hcover : time x - width ≤ start := sub_le_iff_le_add.mpr hend
        calc windowCount time width p start earlier + 1
            ≤ countSince time p start earlier + 1 :=
              Nat.succ_le_succ (windowCount_le_countSince start earlier)
          _ ≤ countSince time p (time x - width) earlier + 1 :=
              Nat.succ_le_succ (countSince_mono hcover (fun _ hy => hy) earlier)
          _ ≤ cap x := hok x earlier hx hpx
          _ ≤ n := hn x List.mem_cons_self hpx hstart hend
      · rw [windowCount_cons_of_neg earlier hcounts]
        exact hrest

/-! ### Entries that are dated anew -/

/-- Where one entry of a table is replaced, it is counted once at most. -/
theorem countP_replace_le {β : Type*} [DecidableEq β] {key : α → β} {xs : List α}
    (hkeys : (xs.map key).Nodup) (k : β) (f : α → α) (q : α → Prop) [DecidablePred q] :
    (xs.map fun x => if key x = k then f x else x).countP q ≤
      xs.countP (fun x => key x ≠ k ∧ q x) + 1 := by
  induction xs with
  | nil => simp
  | cons x xs ih =>
      rw [List.map_cons, List.nodup_cons] at hkeys
      obtain ⟨hx, hxs⟩ := hkeys
      by_cases hk : key x = k
      · have hothers : ∀ y ∈ xs, key y ≠ k := by
          intro y hy hyk
          exact hx (List.mem_map.mpr ⟨y, hy, hyk.trans hk.symm⟩)
        have hmap : (xs.map fun x => if key x = k then f x else x) = xs := by
          refine (List.map_congr_left fun y hy => ?_).trans (List.map_id xs)
          rw [if_neg (hothers y hy), id]
        have hcount : xs.countP q = xs.countP (fun x => key x ≠ k ∧ q x) := by
          apply List.countP_congr
          intro y hy
          simp [hothers y hy]
        rw [List.map_cons, if_pos hk, hmap, List.countP_cons, List.countP_cons, hcount]
        simp only [hk, ne_eq, not_true_eq_false, false_and, decide_false]
        split
        · simp
        · simp
      · have hrest := ih hxs
        rw [List.map_cons, if_neg hk, List.countP_cons, List.countP_cons]
        simp only [ne_eq, hk, not_false_eq_true, true_and] at hrest ⊢
        omega

/-- The entry of a key is dated anew. If the others left room for it in the window that ends with
its new date, every window keeps to the cap. -/
theorem windowCount_replace_le [IsOrderedAddMonoid τ] {β : Type*} [DecidableEq β] {key : α → β}
    {xs : List α} (hkeys : (xs.map key).Nodup) {k : β} {f : α → α} {now : τ}
    (htime : ∀ x ∈ xs, key x = k → time (f x) = now) {cap : ℕ}
    (hroom : xs.countP (fun x => key x ≠ k ∧ p x ∧ now - width ≤ time x) < cap) {start : τ}
    (hold : windowCount time width p start xs ≤ cap) :
    windowCount time width p start (xs.map fun x => if key x = k then f x else x) ≤ cap := by
  by_cases hnow : start ≤ now ∧ now ≤ start + width
  · have hcover : now - width ≤ start := sub_le_iff_le_add.mpr hnow.2
    have hothers : xs.countP (fun x => key x ≠ k ∧ p x ∧ start ≤ time x ∧ time x ≤ start + width) ≤
        xs.countP (fun x => key x ≠ k ∧ p x ∧ now - width ≤ time x) := by
      apply List.countP_mono_left
      intro x _ hx
      obtain ⟨hk, hp, hfrom, _⟩ := of_decide_eq_true hx
      exact decide_eq_true ⟨hk, hp, hcover.trans hfrom⟩
    have hreplaced := countP_replace_le hkeys k f
      (fun x => p x ∧ start ≤ time x ∧ time x ≤ start + width)
    simp only [windowCount]
    omega
  · -- the entry itself is outside the window
    refine le_trans ?_ hold
    simp only [windowCount, List.countP_map]
    apply List.countP_mono_left
    intro x hx hcounts
    simp only [Function.comp_apply] at hcounts
    by_cases hk : key x = k
    · rw [if_pos hk, htime x hx hk] at hcounts
      exact absurd (of_decide_eq_true hcounts).2 hnow
    · rwa [if_neg hk] at hcounts

end Sliding

end Foundation

import Qasedak.Orders.StockAccounting
import Qasedak.Orders.TopUp

/-! What a draw leaves of the figure that is shown for a pool: the units that were taken are
gone from it, and the figures of the other pools stay. -/

namespace Qasedak.Orders

open Foundation Store

variable {db db' : Db} {now : Instant} {p other : InventoryPool} {mode : AllocationMode}
  {quantity : ℕ}

/-! ## The usable assets after a draw -/

theorem usable_of_slots {a : InventoryAsset} (ha : a ∈ slots db now p quantity mode) :
    a ∈ usableAssets db now p := by
  have hshared : ∀ b ∈ sharedCandidates db now p, b ∈ usableAssets db now p := fun b hb =>
    (List.perm_insertionSort _ _).mem_iff.mp hb
  cases mode with
  | exclusive =>
      obtain ⟨ha, hok⟩ := List.mem_filter.mp ha
      have hparts := of_decide_eq_true hok
      exact List.mem_filter.mpr ⟨ha, decide_eq_true ⟨hparts.1, .inl hparts.2.1, hparts.2.2⟩⟩
  | sharedLimited =>
      obtain ⟨b, hb, hab⟩ := List.mem_flatMap.mp ha
      rw [List.eq_of_mem_replicate hab]
      exact hshared b hb
  | sharedUnlimited =>
      obtain ⟨b, hb, hab⟩ := List.mem_flatMap.mp ha
      rw [List.eq_of_mem_replicate hab]
      exact hshared b (List.mem_of_mem_head? (Option.mem_toList.mp hb))

theorem usable_of_taken {a : InventoryAsset} (ha : a ∈ db.assets.rows)
    (htaken : a.pk ∈ takenAssets db now p quantity mode) : a ∈ usableAssets db now p := by
  obtain ⟨b, hb, hpk⟩ := List.mem_map.mp htaken
  have husable := usable_of_slots (List.mem_of_mem_take hb)
  obtain rfl : b = a :=
    List.inj_on_of_nodup_map db.assets.keys_nodup (mem_usableAssets husable).1 ha hpk
  exact husable

/-- A draw assigns usable assets, which stay usable. -/
theorem usableAssets_draw (hrows : db'.assets.rows =
      db.assets.rows.map (assignSelected (takenAssets db now p quantity mode))) :
    usableAssets db' now other = (usableAssets db now other).map
      (assignSelected (takenAssets db now p quantity mode)) := by
  have hsame : ∀ a ∈ db.assets.rows,
      (decide ((assignSelected (takenAssets db now p quantity mode) a).pool = other.pk ∧
        ((assignSelected (takenAssets db now p quantity mode) a).status = .available ∨
          (assignSelected (takenAssets db now p quantity mode) a).status = .assigned) ∧
        notExpired now (assignSelected (takenAssets db now p quantity mode) a) = true)) =
      decide (a.pool = other.pk ∧ (a.status = .available ∨ a.status = .assigned) ∧
        notExpired now a = true) := by
    intro a ha
    rw [assignSelected]
    by_cases htaken : a.pk ∈ takenAssets db now p quantity mode
    · have hparts := of_decide_eq_true (List.mem_filter.mp (usable_of_taken ha htaken)).2
      simp [htaken, assignAsset, hparts.2.1, notExpired]
    · rw [if_neg htaken]
  rw [usableAssets, usableAssets, hrows, List.filter_map]
  congr 1
  exact List.filter_congr hsame

/-- The figure of another pool stays. -/
theorem availableCapacity_other (hrows : db'.assets.rows =
      db.assets.rows.map (assignSelected (takenAssets db now p quantity mode)))
    (hother : other.pk ≠ p.pk) : availableCapacity db' now other = availableCapacity db now other := by
  have husable : usableAssets db' now other = usableAssets db now other := by
    rw [usableAssets_draw hrows]
    conv_rhs => rw [← List.map_id (usableAssets db now other)]
    refine List.map_congr_left fun a ha => ?_
    obtain ⟨hrow, hpool⟩ := mem_usableAssets ha
    rw [assignSelected, if_neg]
    · rfl
    · intro htaken
      exact hother (hpool.symm.trans (mem_usableAssets (usable_of_taken hrow htaken)).2)
  rw [availableCapacity, availableCapacity, husable]

/-! ## The figure of the pool -/

theorem filter_not_mem_take {α : Type} {key : α → ℕ} {l : List α} (hl : (l.map key).Nodup)
    (n : ℕ) : (l.filter fun x => key x ∉ (l.take n).map key) = l.drop n := by
  have hsplit : l = l.take n ++ l.drop n := (List.take_append_drop n l).symm
  have hdisjoint : ∀ x ∈ l.drop n, key x ∉ (l.take n).map key := by
    rw [hsplit, List.map_append, List.nodup_append] at hl
    intro x hx hmem
    exact hl.2.2 _ hmem _ (List.mem_map_of_mem hx) rfl
  have htaken : (l.take n).filter (fun x => key x ∉ (l.take n).map key) = [] := by
    refine List.filter_eq_nil_iff.mpr fun x hx hnot => ?_
    exact (of_decide_eq_true hnot) (List.mem_map_of_mem hx)
  have hleft : (l.drop n).filter (fun x => key x ∉ (l.take n).map key) = l.drop n :=
    List.filter_eq_self.mpr fun x hx => decide_eq_true (hdisjoint x hx)
  calc (l.filter fun x => key x ∉ (l.take n).map key)
      = (l.take n ++ l.drop n).filter fun x => key x ∉ (l.take n).map key := by
        rw [List.take_append_drop]
    _ = l.drop n := by rw [List.filter_append, htaken, hleft, List.nil_append]

/-- Over all keys the counts of a list add up to its length. -/
theorem sum_map_count {ks taken : List ℕ} (hks : ks.Nodup) (hsub : taken ⊆ ks) :
    (ks.map fun k => taken.count k).sum = taken.length := by
  induction taken with
  | nil => simp
  | cons x taken ih =>
      have hx : x ∈ ks := hsub List.mem_cons_self
      have hcount : ∀ l : List ℕ, (l.map fun k => if x = k then 1 else 0).sum = l.count x := by
        intro l
        induction l with
        | nil => rfl
        | cons y l ih =>
            rw [List.map_cons, List.sum_cons, ih, List.count_cons, Nat.add_comm]
            by_cases hy : x = y
            · simp [hy]
            · simp [hy, Ne.symm hy]
      have hone := (hcount ks).trans (List.count_eq_one_of_mem hks hx)
      have hcons : (ks.map fun k => (x :: taken).count k) =
          ks.map fun k => taken.count k + if x = k then 1 else 0 := by
        refine List.map_congr_left fun k _ => ?_
        rw [List.count_cons]
        simp
      rw [hcons, List.sum_map_add, ih fun k hk => hsub (List.mem_cons_of_mem x hk), hone,
        List.length_cons]

theorem assignSelected_currentAllocations (selected : List ℕ) (a : InventoryAsset) :
    (assignSelected selected a).currentAllocations =
      a.currentAllocations + selected.count a.pk := by
  rw [assignSelected]
  split
  · rfl
  · rename_i hnot
    rw [List.count_eq_zero.mpr hnot, Nat.add_zero]

theorem assetAllocationLimit_assignSelected (selected : List ℕ) (a : InventoryAsset) :
    assetAllocationLimit (assignSelected selected a) p = assetAllocationLimit a p := by
  rw [assignSelected]
  split <;> rfl

theorem nodup_usableAssets : ((usableAssets db now p).map (·.pk)).Nodup :=
  (List.filter_sublist.map _).nodup db.assets.keys_nodup

theorem length_takenAssets (h : quantity ≤ (slots db now p quantity mode).length) :
    (takenAssets db now p quantity mode).length = quantity := by
  rw [takenAssets, List.length_map, List.length_take]
  omega

/-- An asset with a limit is taken at most as often as it has uses left. -/
theorem count_takenAssets_le {a : InventoryAsset} (ha : a ∈ usableAssets db now p) {limit : ℕ}
    (hlimit : assetAllocationLimit a p = some limit) :
    (takenAssets db now p quantity .sharedLimited).count a.pk ≤ limit - a.currentAllocations := by
  have hperm : (sharedCandidates db now p).Perm (usableAssets db now p) :=
    List.perm_insertionSort _ _
  have hnodup : ((sharedCandidates db now p).map (·.pk)).Nodup :=
    (hperm.map _).nodup_iff.mpr nodup_usableAssets
  have hle : (takenAssets db now p quantity .sharedLimited).count a.pk ≤
      ((slots db now p quantity .sharedLimited).map (·.pk)).count a.pk :=
    ((List.take_sublist _ _).map _).count_le _
  rw [slots, count_limitedSlots hnodup (hperm.mem_iff.mpr ha), slotCount, hlimit] at hle
  exact hle

/-- The units left on the assets of a limited pool, after a draw. -/
theorem sum_left_draw (hquantity : quantity ≤ (slots db now p quantity .sharedLimited).length)
    (hlimits : ∀ a ∈ usableAssets db now p, (assetAllocationLimit a p).isNone = false) :
    (((usableAssets db now p).map
        (assignSelected (takenAssets db now p quantity .sharedLimited))).map fun a =>
      (assetAllocationLimit a p).getD 0 - a.currentAllocations).sum + quantity =
    ((usableAssets db now p).map fun a =>
      (assetAllocationLimit a p).getD 0 - a.currentAllocations).sum := by
  have hsub : takenAssets db now p quantity .sharedLimited ⊆ (usableAssets db now p).map (·.pk) := by
    intro k hk
    obtain ⟨a, ha, rfl⟩ := List.mem_map.mp hk
    exact List.mem_map_of_mem (usable_of_slots (List.mem_of_mem_take ha))
  have hcounts := sum_map_count nodup_usableAssets hsub
  rw [length_takenAssets hquantity, List.map_map] at hcounts
  refine (congrArg (_ + ·) hcounts.symm).trans ?_
  rw [List.map_map, ← List.sum_map_add]
  congr 1
  refine List.map_congr_left fun a ha => ?_
  obtain ⟨limit, hlimit⟩ := Option.isSome_iff_exists.mp
    (Option.isNone_eq_false_iff.mp (hlimits a ha))
  have hle := @count_takenAssets_le _ _ _ quantity _ ha _ hlimit
  simp only [Function.comp, assetAllocationLimit_assignSelected, hlimit, Option.getD_some,
    assignSelected_currentAllocations]
  omega

/-- A draw in the pool's own mode takes its units off the figure. -/
theorem availableCapacity_draw (hrows : db'.assets.rows = db.assets.rows.map
      (assignSelected (takenAssets db now p quantity p.allocationMode)))
    (hquantity : quantity ≤ (slots db now p quantity p.allocationMode).length) :
    availableCapacity db' now p = (availableCapacity db now p).map (· - quantity) := by
  have husable := @usableAssets_draw _ _ _ _ p _ _ hrows
  rw [availableCapacity, availableCapacity, husable]
  cases hmode : p.allocationMode with
  | exclusive =>
      rw [hmode] at hquantity
      dsimp only
      have hslots : slots db now p quantity .exclusive =
          (usableAssets db now p).filter fun a => a.status = .available := by
        rw [slots, usableAssets, List.filter_filter]
        refine List.filter_congr fun a _ => ?_
        by_cases hstatus : a.status = .available <;> simp [hstatus]
      have hfree : ((usableAssets db now p).map
          (assignSelected (takenAssets db now p quantity .exclusive))).filter
            (fun a => a.status = .available) =
          ((slots db now p quantity .exclusive).filter fun a =>
            a.pk ∉ takenAssets db now p quantity .exclusive).map
              (assignSelected (takenAssets db now p quantity .exclusive)) := by
        rw [hslots, List.filter_filter, List.filter_map]
        congr 1
        refine List.filter_congr fun a _ => ?_
        rw [Function.comp, assignSelected]
        by_cases htaken : a.pk ∈ takenAssets db now p quantity .exclusive <;>
          simp [htaken, assignAsset]
      have hnodup : ((slots db now p quantity .exclusive).map (·.pk)).Nodup := by
        rw [hslots]
        exact (List.filter_sublist.map _).nodup nodup_usableAssets
      rw [hfree, List.length_map, takenAssets, filter_not_mem_take hnodup, List.length_drop, hslots]
      rfl
  | sharedLimited =>
      rw [hmode] at hquantity
      dsimp only
      have hany : ((usableAssets db now p).map
          (assignSelected (takenAssets db now p quantity .sharedLimited))).any
            (fun a => (assetAllocationLimit a p).isNone) =
          (usableAssets db now p).any fun a => (assetAllocationLimit a p).isNone := by
        rw [List.any_map]
        congr 1
        funext a
        rw [Function.comp, assetAllocationLimit_assignSelected]
      rw [hany]
      cases hunlimited : (usableAssets db now p).any fun a => (assetAllocationLimit a p).isNone with
      | true => rfl
      | false =>
          have hsum := sum_left_draw hquantity fun a ha =>
            Bool.eq_false_iff.mpr (List.any_eq_false.mp hunlimited a ha)
          simp only [Bool.false_eq_true, if_false, Option.map_some, Option.some.injEq]
          omega
  | sharedUnlimited =>
      by_cases hnone : usableAssets db now p = []
      · simp [hnone]
      · simp [hnone]

end Qasedak.Orders

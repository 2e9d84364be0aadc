import Qasedak.Foundation.Run
import Qasedak.Orders.Stock

/-! The books of the inventory over any allocations and releases: the counter of an asset is
the number of its active allocations, an exclusive allocation is the only one, and a limit
is kept. -/

namespace Qasedak.Orders

open Foundation Store

/-! ## The books -/

/-- The active allocations of an asset. -/
def activeAllocations (db : Db) (asset : ℕ) : List ConfigAllocation :=
  db.allocations.rows.filter fun r => r.asset = asset ∧ r.isActive

/-- The asset has an active allocation that was made in the exclusive mode. -/
def HeldExclusively (db : Db) (asset : ℕ) : Prop :=
  ∃ r ∈ activeAllocations db asset, r.allocationMode = .exclusive

instance (db : Db) (asset : ℕ) : Decidable (HeldExclusively db asset) :=
  inferInstanceAs (Decidable (∃ r ∈ activeAllocations db asset, r.allocationMode = .exclusive))

structure Accounted (db : Db) : Prop where
  counter : ∀ a ∈ db.assets.rows, a.currentAllocations = (activeAllocations db a.pk).length
  exclusive : ∀ a ∈ db.assets.rows, HeldExclusively db a.pk →
    (activeAllocations db a.pk).length = 1
  limited : ∀ a ∈ db.assets.rows, ∀ p, db.pools.get? a.pool = some p →
    p.allocationMode = .sharedLimited → ∀ limit ∈ assetAllocationLimit a p,
      (activeAllocations db a.pk).length ≤ limit

/-- The books, with what keeps them so: an available asset is free. -/
structure Books (db : Db) : Prop extends Accounted db where
  available : ∀ a ∈ db.assets.rows, a.status = .available → activeAllocations db a.pk = []

/-- The asset can be handed out so many times more. -/
structure Fits (db : Db) (p : InventoryPool) (mode : AllocationMode) (a : InventoryAsset)
    (count : ℕ) : Prop where
  pool : a.pool = p.pk
  exclusive : mode = .exclusive → a.status = .available ∧ count ≤ 1
  shared : mode ≠ .exclusive → ¬ HeldExclusively db a.pk
  limited : p.allocationMode = .sharedLimited → ∀ limit ∈ assetAllocationLimit a p,
    a.currentAllocations + count ≤ limit

variable {db db' : Db} {p : InventoryPool} {mode : AllocationMode} {cup order : Option ℕ}
  {assets : List ℕ} {rows : List ConfigAllocation}

theorem mem_activeAllocations {asset : ℕ} {r : ConfigAllocation} :
    r ∈ activeAllocations db asset ↔ r ∈ db.allocations.rows ∧ r.asset = asset ∧
      r.isActive = true := by
  simp [activeAllocations]

/-! ## Allocation -/

theorem Allocates.activeAllocations (h : Allocates db db' assets rows)
    (hnew : NewAllocations assets cup order mode rows) (asset : ℕ) :
    activeAllocations db' asset =
      activeAllocations db asset ++ rows.filter fun r => r.asset = asset := by
  unfold Orders.activeAllocations
  rw [h.rows, List.filter_append]
  congr 1
  refine List.filter_congr fun r hr => ?_
  simp [(hnew.new r hr).active]

theorem NewAllocations.length_filter (hnew : NewAllocations assets cup order mode rows)
    (asset : ℕ) : (rows.filter fun r => r.asset = asset).length = assets.count asset := by
  rw [← hnew.assets, List.count, List.countP_map, List.countP_eq_length_filter]
  congr 1

/-- An allocation on assets that fit keeps the books. -/
theorem Books.allocates (h : Books db) (hpool : db.pools.get? p.pk = some p)
    (hfits : ∀ a ∈ db.assets.rows, a.pk ∈ assets → Fits db p mode a (assets.count a.pk))
    (hallocates : Allocates db db' assets rows)
    (hnew : NewAllocations assets cup order mode rows) : Books db' := by
  have hassets : db'.assets.rows = db.assets.rows.map (assignSelected assets) := by
    rw [hallocates.frame]
    rfl
  have hpools : db'.pools = db.pools := by rw [hallocates.frame]; rfl
  have hactive := hallocates.activeAllocations hnew
  have hlength : ∀ k, (activeAllocations db' k).length =
      (activeAllocations db k).length + assets.count k := by
    intro k
    rw [hactive, List.length_append, hnew.length_filter]
  -- Assets that are not allocated keep their rows and their allocations.
  have hsame : ∀ k, k ∉ assets → activeAllocations db' k = activeAllocations db k := by
    intro k hk
    have hnone : rows.filter (fun r => r.asset = k) = [] := by
      rw [← List.length_eq_zero_iff, hnew.length_filter]
      exact List.count_eq_zero.mpr hk
    rw [hactive, hnone, List.append_nil]
  have hrow : ∀ a' ∈ db'.assets.rows, ∃ a ∈ db.assets.rows, a' = assignSelected assets a := by
    intro a' ha'
    rw [hassets] at ha'
    obtain ⟨a, ha, rfl⟩ := List.mem_map.mp ha'
    exact ⟨a, ha, rfl⟩
  refine ⟨⟨?_, ?_, ?_⟩, ?_⟩
  · intro a' ha'
    obtain ⟨a, ha, rfl⟩ := hrow a' ha'
    rw [assignSelected_pk, hlength, ← h.counter a ha, assignSelected]
    split
    · rfl
    · rename_i hnot
      rw [List.count_eq_zero.mpr hnot, Nat.add_zero]
  · intro a' ha' hheld
    obtain ⟨a, ha, rfl⟩ := hrow a' ha'
    rw [assignSelected_pk] at hheld ⊢
    by_cases hk : a.pk ∈ assets
    · have hfit := hfits a ha hk
      have hcount : 0 < assets.count a.pk := List.count_pos_iff.mpr hk
      by_cases hmode : mode = .exclusive
      · obtain ⟨hstatus, hone⟩ := hfit.exclusive hmode
        rw [hlength, h.available a ha hstatus, List.length_nil]
        omega
      · -- Nothing exclusive was there, and nothing exclusive was added.
        obtain ⟨r, hr, hrmode⟩ := hheld
        rw [hactive, List.mem_append] at hr
        rcases hr with hr | hr
        · exact absurd ⟨r, hr, hrmode⟩ (hfit.shared hmode)
        · have hnewmode := (hnew.new r (List.mem_filter.mp hr).1).mode
          exact absurd (hnewmode.symm.trans hrmode) hmode
    · have heq := hsame a.pk hk
      rw [heq]
      refine h.exclusive a ha ?_
      obtain ⟨r, hr, hrmode⟩ := hheld
      exact ⟨r, heq ▸ hr, hrmode⟩
  · intro a' ha' q hq hmode limit hlimit
    obtain ⟨a, ha, rfl⟩ := hrow a' ha'
    have hpoolOf : (assignSelected assets a).pool = a.pool := by
      rw [assignSelected]
      split <;> rfl
    have hlimitOf : assetAllocationLimit (assignSelected assets a) q =
        assetAllocationLimit a q := by
      rw [assignSelected]
      split <;> rfl
    rw [hpoolOf, hpools] at hq
    rw [hlimitOf] at hlimit
    rw [assignSelected_pk, hlength]
    by_cases hk : a.pk ∈ assets
    · have hfit := hfits a ha hk
      obtain rfl : q = p := by
        rw [hfit.pool, hpool] at hq
        exact (Option.some.inj hq).symm
      rw [← h.counter a ha]
      exact hfit.limited hmode limit hlimit
    · rw [List.count_eq_zero.mpr hk, Nat.add_zero]
      exact h.limited a ha q hq hmode limit hlimit
  · intro a' ha' hstatus
    obtain ⟨a, ha, rfl⟩ := hrow a' ha'
    rw [assignSelected_pk]
    by_cases hk : a.pk ∈ assets
    · rw [assignSelected, if_pos hk] at hstatus
      cases hstatus
    · rw [assignSelected, if_neg hk] at hstatus
      rw [hsame a.pk hk]
      exact h.available a ha hstatus

/-! ## Release -/

theorem length_filter_key_ne {ρ : Type} {key : ρ → ℕ} {l : List ρ} (hl : (l.map key).Nodup)
    {r : ρ} (hr : r ∈ l) : (l.filter fun x => key x ≠ key r).length + 1 = l.length := by
  have hone : l.countP (fun x => key x = key r) = 1 := by
    have hcount := List.count_eq_one_of_mem hl (List.mem_map_of_mem (f := key) hr)
    rw [List.count, List.countP_map] at hcount
    exact hcount
  have hsplit := List.length_eq_countP_add_countP (fun x => decide (key x = key r)) (l := l)
  rw [hone] at hsplit
  rw [← List.countP_eq_length_filter, hsplit, Nat.add_comm]
  congr 2
  funext x
  simp

/-- After a release the allocation is gone from its asset. -/
theorem activeAllocations_releaseOne (db : Db) (r : ConfigAllocation) (asset : ℕ) :
    activeAllocations (db.releaseOne r) asset =
      (activeAllocations db asset).filter fun x => x.pk ≠ r.pk := by
  unfold activeAllocations Db.releaseOne
  simp only [Table.rows_modify, List.filter_filter]
  induction db.allocations.rows with
  | nil => rfl
  | cons x xs ih =>
      rw [List.map_cons, List.filter_cons, List.filter_cons, ih]
      by_cases hx : x.pk = r.pk
      · simp [hx, releaseAllocation]
      · simp [hx]

theorem Books.releaseOne (h : Books db) {r : ConfigAllocation} (hr : r ∈ db.allocations.rows)
    (hractive : r.isActive = true) : Books (db.releaseOne r) := by
  have hnodup : ∀ k, ((activeAllocations db k).map (·.pk)).Nodup := fun k =>
    (List.filter_sublist.map _).nodup db.allocations.keys_nodup
  have hactive := activeAllocations_releaseOne db r
  have hsub : ∀ k, (activeAllocations (db.releaseOne r) k).Sublist (activeAllocations db k) := by
    intro k
    rw [hactive]
    exact List.filter_sublist
  have hother : ∀ k, k ≠ r.asset → activeAllocations (db.releaseOne r) k = activeAllocations db k := by
    intro k hk
    rw [hactive]
    refine List.filter_eq_self.mpr fun x hx => ?_
    obtain ⟨hx, hasset, -⟩ := mem_activeAllocations.mp hx
    refine decide_eq_true fun hpk => hk ?_
    rw [← hasset, List.inj_on_of_nodup_map db.allocations.keys_nodup hx hr hpk]
  have hself : (activeAllocations (db.releaseOne r) r.asset).length + 1 =
      (activeAllocations db r.asset).length := by
    rw [hactive]
    exact length_filter_key_ne (hnodup r.asset) (mem_activeAllocations.mpr ⟨hr, rfl, hractive⟩)
  have hrow : ∀ a' ∈ (db.releaseOne r).assets.rows, ∃ a ∈ db.assets.rows,
      a'.pk = a.pk ∧ a'.pool = a.pool ∧ a'.maxAllocations = a.maxAllocations ∧
        (a.pk ≠ r.asset ∧ a' = a ∨ a.pk = r.asset ∧
          a'.currentAllocations = a.currentAllocations - 1 ∧
            (a'.status = .available → a.status = .available ∨
              activeAllocations (db.releaseOne r) r.asset = [])) := by
    intro a' ha'
    obtain ⟨a, ha, rfl⟩ := List.mem_map.mp ha'
    by_cases hk : a.pk = r.asset
    · refine ⟨a, ha, ?_⟩
      simp only [if_pos hk]
      refine ⟨rfl, rfl, rfl, .inr ⟨hk, rfl, ?_⟩⟩
      intro hstatus
      by_cases havailable : a.status = .available
      · exact .inl havailable
      · right
        have hfree : hasActiveAllocations { db with
            allocations := db.allocations.modify r.pk releaseAllocation releaseAllocation_pk }
              r.asset = false := by
          by_contra hbusy
          rw [Bool.not_eq_false] at hbusy
          simp only [returnAsset, hbusy, not_true_eq_false, false_and, if_false] at hstatus
          exact havailable hstatus
        rw [hasActiveAllocations, List.any_eq_false] at hfree
        refine List.filter_eq_nil_iff.mpr fun x hx => ?_
        have := hfree x hx
        simpa using this
    · refine ⟨a, ha, ?_⟩
      simp only [if_neg hk]
      exact ⟨trivial, trivial, trivial, .inl ⟨hk, trivial⟩⟩
  refine ⟨⟨?_, ?_, ?_⟩, ?_⟩
  · intro a' ha'
    obtain ⟨a, ha, hpk, -, -, ⟨hk, rfl⟩ | ⟨hk, hcurrent, -⟩⟩ := hrow a' ha'
    · rw [hother _ hk]
      exact h.counter a' ha
    · rw [hpk, hcurrent, h.counter a ha, hk]
      omega
  · intro a' ha' hheld
    obtain ⟨a, ha, hpk, -, -, hcase⟩ := hrow a' ha'
    rw [hpk] at hheld ⊢
    obtain ⟨x, hx, hmode⟩ := hheld
    have hone := h.exclusive a ha ⟨x, (hsub a.pk).subset hx, hmode⟩
    have hle := (hsub a.pk).length_le
    have hpos := List.length_pos_of_mem hx
    omega
  · intro a' ha' q hq hmode limit hlimit
    obtain ⟨a, ha, hpk, hpool, hmax, -⟩ := hrow a' ha'
    rw [assetAllocationLimit, hmax] at hlimit
    rw [hpool] at hq
    rw [hpk]
    exact (hsub a.pk).length_le.trans (h.limited a ha q hq hmode limit hlimit)
  · intro a' ha' hstatus
    obtain ⟨a, ha, hpk, -, -, ⟨hk, rfl⟩ | ⟨hk, -, hfree⟩⟩ := hrow a' ha'
    · rw [hother _ hk]
      exact h.available a' ha hstatus
    · rw [hpk]
      rcases hfree hstatus with havailable | hnil
      · have := h.available a ha havailable
        exact List.sublist_nil.mp (this ▸ hsub a.pk)
      · rw [hk]
        exact hnil

/-! ## Which allocations fit -/

/-- What the allocator leaves to its callers: a shared allocation takes no asset that is held
exclusively, and an override of the mode keeps the limits of the pool. -/
def Admissible (db : Db) (p : InventoryPool) (mode : AllocationMode) (assets : List ℕ) : Prop :=
  ∀ a ∈ db.assets.rows, a.pk ∈ assets →
    (mode ≠ .exclusive → ¬ HeldExclusively db a.pk) ∧
    (p.allocationMode = .sharedLimited → mode ≠ .sharedLimited →
      ∀ limit ∈ assetAllocationLimit a p, a.currentAllocations + assets.count a.pk ≤ limit)

/-- The assets that an allocation takes from a pool. -/
def takenAssets (db : Db) (now : Instant) (p : InventoryPool) (quantity : ℕ)
    (mode : AllocationMode) : List ℕ :=
  ((slots db now p quantity mode).take quantity).map (·.pk)

instance (db : Db) (p : InventoryPool) (mode : AllocationMode) (assets : List ℕ) :
    Decidable (Admissible db p mode assets) :=
  inferInstanceAs (Decidable (∀ a ∈ db.assets.rows, a.pk ∈ assets →
    (mode ≠ .exclusive → ¬ HeldExclusively db a.pk) ∧
    (p.allocationMode = .sharedLimited → mode ≠ .sharedLimited →
      ∀ limit ∈ assetAllocationLimit a p, a.currentAllocations + assets.count a.pk ≤ limit)))

variable {now : Instant} {quantity : ℕ}

theorem mem_usableAssets {a : InventoryAsset} (ha : a ∈ usableAssets db now p) :
    a ∈ db.assets.rows ∧ a.pool = p.pk := by
  obtain ⟨ha, hok⟩ := List.mem_filter.mp ha
  have hparts := of_decide_eq_true hok
  exact ⟨ha, hparts.1⟩

theorem mem_sharedCandidates {a : InventoryAsset} (ha : a ∈ sharedCandidates db now p) :
    a ∈ db.assets.rows ∧ a.pool = p.pk :=
  mem_usableAssets ((List.perm_insertionSort _ _).mem_iff.mp ha)

theorem mem_slots {a : InventoryAsset} (ha : a ∈ slots db now p quantity mode) :
    a ∈ db.assets.rows ∧ a.pool = p.pk ∧ (mode = .exclusive → a.status = .available) := by
  cases mode with
  | exclusive =>
      obtain ⟨ha, hok⟩ := List.mem_filter.mp ha
      have hparts := of_decide_eq_true hok
      exact ⟨ha, hparts.1, fun _ => hparts.2.1⟩
  | sharedLimited =>
      obtain ⟨b, hb, hab⟩ := List.mem_flatMap.mp ha
      rw [List.eq_of_mem_replicate hab]
      have hrow := mem_sharedCandidates hb
      exact ⟨hrow.1, hrow.2, by simp⟩
  | sharedUnlimited =>
      obtain ⟨b, hb, hab⟩ := List.mem_flatMap.mp ha
      rw [List.eq_of_mem_replicate hab]
      have hrow := mem_sharedCandidates (List.mem_of_mem_head? (Option.mem_toList.mp hb))
      exact ⟨hrow.1, hrow.2, by simp⟩

/-- No asset has more slots than it has uses left. -/
theorem count_limitedSlots {candidates : List InventoryAsset}
    (hnodup : (candidates.map (·.pk)).Nodup) {a : InventoryAsset} (ha : a ∈ candidates) :
    ((limitedSlots p quantity candidates).map (·.pk)).count a.pk = slotCount p quantity a := by
  induction candidates with
  | nil => simp at ha
  | cons b candidates ih =>
      have hslots : limitedSlots p quantity (b :: candidates) =
          List.replicate (slotCount p quantity b) b ++ limitedSlots p quantity candidates := rfl
      rw [List.map_cons, List.nodup_cons] at hnodup
      rw [hslots, List.map_append, List.map_replicate, List.count_append, List.count_replicate]
      rcases List.mem_cons.mp ha with rfl | ha
      · have hnone : a.pk ∉ (limitedSlots p quantity candidates).map (·.pk) := by
          intro hmem
          obtain ⟨x, hx, hpk⟩ := List.mem_map.mp hmem
          obtain ⟨b, hb, hxb⟩ := List.mem_flatMap.mp hx
          rw [List.eq_of_mem_replicate hxb] at hpk
          exact hnodup.1 (hpk ▸ List.mem_map_of_mem hb)
        rw [List.count_eq_zero.mpr hnone]
        simp
      · have hne : b.pk ≠ a.pk := fun heq => hnodup.1 (heq ▸ List.mem_map_of_mem ha)
        rw [ih hnodup.2 ha]
        simp [hne]

theorem fits_takenAssets (hadmissible : Admissible db p mode (takenAssets db now p quantity mode))
    {a : InventoryAsset} (ha : a ∈ db.assets.rows)
    (htaken : a.pk ∈ takenAssets db now p quantity mode) :
    Fits db p mode a ((takenAssets db now p quantity mode).count a.pk) := by
  obtain ⟨b, hb, hpk⟩ := List.mem_map.mp htaken
  have hslot := mem_slots (List.mem_of_mem_take hb)
  obtain rfl : b = a := List.inj_on_of_nodup_map db.assets.keys_nodup hslot.1 ha hpk
  obtain ⟨-, hpool, havailable⟩ := hslot
  obtain ⟨hshared, hlimited⟩ := hadmissible b ha htaken
  have hcount : 0 < (takenAssets db now p quantity mode).count b.pk := List.count_pos_iff.mpr htaken
  have hle : (takenAssets db now p quantity mode).count b.pk ≤
      ((slots db now p quantity mode).map (·.pk)).count b.pk :=
    ((List.take_sublist _ _).map _).count_le _
  refine ⟨hpool, fun hmode => ⟨havailable hmode, ?_⟩, hshared, fun hpmode limit hlimit => ?_⟩
  · subst hmode
    have hnodup : (takenAssets db now p quantity .exclusive).Nodup :=
      (((List.take_sublist _ _).trans List.filter_sublist).map _).nodup db.assets.keys_nodup
    exact List.nodup_iff_count_le_one.mp hnodup b.pk
  · by_cases hmode : mode = .sharedLimited
    · subst hmode
      have hperm : (sharedCandidates db now p).Perm (usableAssets db now p) :=
        List.perm_insertionSort _ _
      have hcandidate : b ∈ sharedCandidates db now p := by
        obtain ⟨c, hc, hbc⟩ := List.mem_flatMap.mp (List.mem_of_mem_take hb)
        rw [List.eq_of_mem_replicate hbc]
        exact hc
      have hnodup : ((sharedCandidates db now p).map (·.pk)).Nodup :=
        (hperm.map _).nodup_iff.mpr ((List.filter_sublist.map _).nodup db.assets.keys_nodup)
      rw [slots, count_limitedSlots hnodup hcandidate, slotCount, hlimit] at hle
      dsimp only at hle
      omega
    · exact hlimited hpmode hmode limit hlimit

theorem validated_of_ok {selected ks : List ℕ}
    (h : validateSelectedAssets db now p mode selected ks = .ok ()) {k : ℕ} (hk : k ∈ ks) :
    ∃ a, db.assets.get? k = some a ∧
      validateSelectedAsset now p mode (selected.count k) a = .ok () := by
  induction ks with
  | nil => simp at hk
  | cons j ks ih =>
      rw [validateSelectedAssets] at h
      cases hget : db.assets.get? j with
      | none => simp [hget] at h
      | some a =>
          cases hcheck : validateSelectedAsset now p mode (selected.count j) a with
          | error e => simp [hget, hcheck] at h
          | ok u =>
              simp only [hget, hcheck] at h
              rcases List.mem_cons.mp hk with rfl | hk
              · exact ⟨a, hget, hcheck⟩
              · exact ih h hk

theorem fits_selected {selected : List ℕ}
    (h : validateSelectedAssets db now p mode selected selected = .ok ())
    (hadmissible : Admissible db p mode selected) {a : InventoryAsset} (ha : a ∈ db.assets.rows)
    (hselected : a.pk ∈ selected) : Fits db p mode a (selected.count a.pk) := by
  obtain ⟨b, hget, hcheck⟩ := validated_of_ok h hselected
  obtain rfl : b = a := by
    obtain ⟨hb, hpk⟩ := Table.mem_of_get? hget
    exact List.inj_on_of_nodup_map db.assets.keys_nodup hb ha hpk
  obtain ⟨hshared, hlimited⟩ := hadmissible b ha hselected
  have hcount : 0 < selected.count b.pk := List.count_pos_iff.mpr hselected
  unfold validateSelectedAsset at hcheck
  split at hcheck
  · cases hcheck
  rename_i hpool
  split at hcheck
  · cases hcheck
  split at hcheck
  · cases hcheck
  refine ⟨not_not.mp hpool, fun hmode => ?_, hshared, fun hpmode limit hlimit => ?_⟩
  · subst hmode
    dsimp only at hcheck
    split at hcheck
    · cases hcheck
    · rename_i hfree
      simp only [not_or, not_not] at hfree
      exact ⟨hfree.2.1, hfree.1.le⟩
  · by_cases hmode : mode = .sharedLimited
    · subst hmode
      dsimp only at hcheck
      rw [hlimit] at hcheck
      dsimp only at hcheck
      split at hcheck
      · cases hcheck
      · omega
    · exact hlimited hpmode hmode limit hlimit

/-! ## One operation -/

variable {pool : Option ℕ} {s : Shop}

theorem wp_allocateSelectedAssetsFromPool {selected : List ℕ} {mode : Option AllocationMode} :
    Prog.wp (allocateSelectedAssetsFromPool now pool selected cup order mode)
      (fun rows s' => ∃ p, pool.bind s.db.pools.get? = some p ∧ p.isActive = true ∧
        validateSelectedAssets s.db now p (mode.getD p.allocationMode) selected selected = .ok () ∧
          NewAllocations selected cup order (mode.getD p.allocationMode) rows ∧
          Allocates s.db s'.db selected rows)
      (fun _ s' => s' = s) s := by
  rw [allocateSelectedAssetsFromPool, Prog.wp_bind, Prog.wp_readDb, Prog.wp_bind, Prog.wp_orRaise]
  dsimp only [id]
  cases hpool : pool.bind s.db.pools.get? with
  | none => rfl
  | some p =>
      dsimp only
      rw [Prog.wp_ite]
      refine ⟨fun _ => rfl, fun _ => ?_⟩
      rw [Prog.wp_ite]
      refine ⟨fun _ => rfl, fun _ => ?_⟩
      rw [Prog.wp_ite]
      refine ⟨fun _ => rfl, fun hactive => ?_⟩
      rw [Prog.wp_ite]
      refine ⟨fun _ => rfl, fun _ => ?_⟩
      rw [Prog.wp_bind]
      refine Prog.wp_check (fun _ hvalid => ?_) fun _ _ => rfl
      refine Prog.wp_mono wp_writeAllocations ?_ fun _ _ h => h.elim
      rintro rows s' ⟨hnew, hallocates, _⟩
      exact ⟨p, rfl, not_not.mp hactive, hvalid, hnew, hallocates⟩

/-- The allocations that a release has still to go through. -/
structure ToRelease (db : Db) (rows : List ConfigAllocation) : Prop where
  active : ∀ r ∈ rows, r ∈ db.allocations.rows ∧ r.isActive = true
  nodup : (rows.map (·.pk)).Nodup

theorem toRelease_releasedAllocations (db : Db) (cup : ℕ) (allocation asset : Option ℕ) :
    ToRelease db (releasedAllocations db cup allocation asset) := by
  have hactive : ToRelease db (db.allocations.rows.filter fun a => a.cup = some cup ∧ a.isActive) :=
    { active := fun r hr => by
        obtain ⟨hr, hok⟩ := List.mem_filter.mp hr
        have hparts := of_decide_eq_true hok
        exact ⟨hr, hparts.2⟩
      nodup := (List.filter_sublist.map _).nodup db.allocations.keys_nodup }
  have hfilter : ∀ keep : ConfigAllocation → Bool, ToRelease db
      ((db.allocations.rows.filter fun a => a.cup = some cup ∧ a.isActive).filter keep) :=
    fun keep =>
      { active := fun r hr => hactive.active r (List.mem_filter.mp hr).1
        nodup := (List.filter_sublist.map _).nodup hactive.nodup }
  unfold releasedAllocations
  cases allocation with
  | some k => exact hfilter _
  | none =>
      cases asset with
      | some k => exact hfilter _
      | none => exact ⟨by simp, by simp⟩

theorem ToRelease.releaseOne {r : ConfigAllocation} (h : ToRelease db (r :: rows)) :
    ToRelease (db.releaseOne r) rows where
  active x hx := by
    have hold := h.active x (List.mem_cons_of_mem r hx)
    have hne : x.pk ≠ r.pk := by
      have hnodup := h.nodup
      rw [List.map_cons, List.nodup_cons] at hnodup
      intro heq
      exact hnodup.1 (heq ▸ List.mem_map_of_mem hx)
    refine ⟨?_, hold.2⟩
    change x ∈ db.allocations.rows.map _
    refine List.mem_map.mpr ⟨x, hold.1, ?_⟩
    rw [if_neg hne]
  nodup := by
    have hnodup := h.nodup
    rw [List.map_cons, List.nodup_cons] at hnodup
    exact hnodup.2

/-- An operation on the inventory. -/
inductive StockOp
  | allocate (now : Instant) (pool : Option ℕ) (quantity : ℕ) (cup order : Option ℕ)
      (mode : Option AllocationMode)
  | allocateSelected (now : Instant) (pool : Option ℕ) (selected : List ℕ) (cup order : Option ℕ)
      (mode : Option AllocationMode)
  | release (cup : ℕ) (allocation asset : Option ℕ)

def stockStep (s : Shop) : StockOp → Shop
  | .allocate now pool quantity cup order mode =>
      (allocateAssetsFromPool now pool quantity cup order mode s).2
  | .allocateSelected now pool selected cup order mode =>
      (allocateSelectedAssetsFromPool now pool selected cup order mode s).2
  | .release cup allocation asset => (releaseInventoryAllocation cup allocation asset s).2

/-- What an operation is about to hand out is admissible. -/
def Careful (s : Shop) : StockOp → Prop
  | .allocate now pool quantity _ _ mode => InStock s.db now pool quantity mode →
      ∀ p, pool.bind s.db.pools.get? = some p → Admissible s.db p (mode.getD p.allocationMode)
        (takenAssets s.db now p quantity (mode.getD p.allocationMode))
  | .allocateSelected now pool selected _ _ mode =>
      ∀ p, pool.bind s.db.pools.get? = some p → p.isActive = true →
        validateSelectedAssets s.db now p (mode.getD p.allocationMode) selected selected = .ok () →
          Admissible s.db p (mode.getD p.allocationMode) selected
  | .release _ _ _ => True

theorem pool_get {p : InventoryPool} (h : pool.bind db.pools.get? = some p) :
    db.pools.get? p.pk = some p := by
  obtain ⟨k, -, hget⟩ := Option.bind_eq_some_iff.mp h
  rw [(Table.mem_of_get? hget).2]
  exact hget

/-- A careful operation keeps the books. -/
theorem books_stockStep {op : StockOp} (h : Books s.db) (hcareful : Careful s op) :
    Books (stockStep s op).db := by
  cases op with
  | allocate now pool quantity cup order mode =>
      refine Prog.snd_of_wp (P := fun s' : Shop => Books s'.db) ?_
      refine Prog.wp_mono wp_allocateAssetsFromPool ?_ ?_
      · rintro rows s' ⟨p, hpool, hstock, hnew, hallocates, _⟩
        have hadmissible := hcareful hstock p hpool
        exact h.allocates (pool_get hpool) (fun a ha htaken => fits_takenAssets hadmissible ha htaken)
          hallocates hnew
      · rintro _ s' ⟨_, hsame, _⟩
        rw [hsame]
        exact h
  | allocateSelected now pool selected cup order mode =>
      refine Prog.snd_of_wp (P := fun s' : Shop => Books s'.db) ?_
      refine Prog.wp_mono wp_allocateSelectedAssetsFromPool ?_ ?_
      · rintro rows s' ⟨p, hpool, hactive, hvalid, hnew, hallocates⟩
        have hadmissible := hcareful p hpool hactive hvalid
        exact h.allocates (pool_get hpool)
          (fun a ha hselected => fits_selected hvalid hadmissible ha hselected) hallocates hnew
      · intro _ s' hsame
        rw [hsame]
        exact h
  | release cup allocation asset =>
      refine Prog.snd_of_wp (P := fun s' : Shop => Books s'.db) ?_
      rw [releaseInventoryAllocation, Prog.wp_bind, Prog.wp_readDb]
      have hloop : Prog.wp (Prog.forEach (releasedAllocations s.db cup allocation asset) 0
          fun a count => do
            Prog.writeDb (·.releaseOne a)
            return count + 1 : ShopM ℕ)
          (fun _ s' => Books s'.db ∧ ToRelease s'.db []) (fun _ s' => Books s'.db) s :=
        Prog.wp_forEach (I := fun rows _ s' => Books s'.db ∧ ToRelease s'.db rows)
          ⟨h, toRelease_releasedAllocations s.db cup allocation asset⟩
          fun r rows _ s' ⟨hbooks, hrelease⟩ => by
            have hr := hrelease.active r List.mem_cons_self
            exact ⟨hbooks.releaseOne hr.1 hr.2, hrelease.releaseOne⟩
      exact Prog.wp_mono hloop (fun _ _ h => h.1) fun _ _ h => h

/-! ## Runs -/

/-- Nothing has been handed out yet. -/
structure Unallocated (db : Db) : Prop where
  rows : db.allocations.rows = []
  counters : ∀ a ∈ db.assets.rows, a.currentAllocations = 0

theorem Unallocated.books (h : Unallocated db) : Books db := by
  have hnone : ∀ k, activeAllocations db k = [] := by
    intro k
    rw [activeAllocations, h.rows, List.filter_nil]
  refine ⟨⟨?_, ?_, ?_⟩, fun a _ _ => hnone a.pk⟩
  · intro a ha
    rw [hnone, h.counters a ha, List.length_nil]
  · rintro a _ ⟨r, hr, _⟩
    rw [hnone] at hr
    cases hr
  · intro a _ p _ _ limit _
    rw [hnone]
    exact Nat.zero_le limit

/-- The books are right after every careful run. -/
theorem accounted_of_careful {ops : List StockOp} (h : Unallocated s.db)
    (hops : Guarded stockStep Careful s ops) : Accounted (run stockStep s ops).db := by
  have hbooks := @Guarded.invariant Shop StockOp stockStep Careful (fun s => Books s.db)
    (fun _ _ hs hop => books_stockStep hs hop) s ops hops h.books
  exact hbooks.toAccounted

theorem unallocated_sampleStock (mode : AllocationMode) : Unallocated (sampleStock mode).db where
  rows := rfl
  counters a ha := by
    have hall : ∀ b ∈ (sampleStock mode).db.assets.rows, b.currentAllocations = 0 := by
      cases mode <;> decide
    exact hall a ha

/-- Three units for one cup, and one of its assets given back. -/
theorem accounted_of_careful_released :
    Accounted (run stockStep (sampleStock .sharedLimited)
      [.allocate 0 (some 1) 3 (some 7) none none, .release 7 none (some 11)]).db := by
  refine accounted_of_careful (unallocated_sampleStock _) ⟨?_, trivial, trivial⟩
  intro _ p hp
  obtain rfl := Option.some.inj hp
  decide +kernel

/-- A pool for sharing, one asset of which is handed out exclusively, and then again. -/
theorem exclusive_asset_shared :
    Unallocated (sampleStock .sharedLimited).db ∧
      ∃ a ∈ (run stockStep (sampleStock .sharedLimited)
          [.allocate 0 (some 1) 1 (some 7) none (some .exclusive),
            .allocate 0 (some 1) 3 (some 8) none none]).db.assets.rows,
        HeldExclusively (run stockStep (sampleStock .sharedLimited)
          [.allocate 0 (some 1) 1 (some 7) none (some .exclusive),
            .allocate 0 (some 1) 3 (some 8) none none]).db a.pk ∧
        (activeAllocations (run stockStep (sampleStock .sharedLimited)
          [.allocate 0 (some 1) 1 (some 7) none (some .exclusive),
            .allocate 0 (some 1) 3 (some 8) none none]).db a.pk).length = 2 :=
  ⟨unallocated_sampleStock _, by decide +kernel⟩

end Qasedak.Orders
